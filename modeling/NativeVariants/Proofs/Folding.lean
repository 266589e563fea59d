import Mathlib.Data.List.DropRight
import NativeVariants.Machine

/-!
# Folded names

A family or an architecture is folded: trimmed, put in lower case, and named by its usual spelling.
Folding twice is folding once. The case table leads nowhere from where it has led
(`settled_lowerRuns`), so lower case stays as it is; lower case puts no white space at an end; and no
usual spelling is an alias of another one.
-/

namespace NativeVariants.Text

/-! ### Where the case table leads -/

namespace CaseRun

/-- The first code point that a run leads to. -/
def firstImage (r : CaseRun) : Nat := (r.first + r.shift).toNat

/-- The last one. -/
def lastImage (r : CaseRun) : Nat := (r.last + r.shift).toNat

/-- Whether no run of a sorted table holds a code point that `r` leads to. A run around such code
points holds those between them. -/
def avoids (r : CaseRun) : List CaseRun → Bool
  | [] => true
  | s :: rest =>
    if s.last < r.firstImage then r.avoids rest
    else if r.lastImage < s.first then true
    else s.step == 2 && (r.step == 2 || r.first == r.last) &&
      (r.firstImage + s.first) % 2 == 1 && r.avoids rest

/-- White space behind the Latin letters, as ranges of code points. -/
def laterBlanks : List (Nat × Nat) :=
  [(0x85, 0xA0), (0x1680, 0x1680), (0x2000, 0x205F), (0x3000, 0x3000)]

/-- Whether a run leads to characters that are no white space and that the tables of lower case
leave alone. -/
structure Settled (r : CaseRun) : Prop where
  letters : 97 ≤ r.first + r.shift
  characters : r.lastImage < 0xD800 ∨ 0xDFFF < r.firstImage ∧ r.lastImage < 0x110000
  notBlank : ∀ p ∈ laterBlanks, r.lastImage < p.1 ∨ p.2 < r.firstImage
  single : ∀ p ∈ lowerSeveral, r.lastImage < p.1 ∨ p.1 < r.firstImage
  avoids : r.avoids lowerRuns = true

instance : DecidablePred Settled := fun r =>
  decidable_of_iff (97 ≤ r.first + r.shift ∧
      (r.lastImage < 0xD800 ∨ 0xDFFF < r.firstImage ∧ r.lastImage < 0x110000) ∧
      (∀ p ∈ laterBlanks, r.lastImage < p.1 ∨ p.2 < r.firstImage) ∧
      (∀ p ∈ lowerSeveral, r.lastImage < p.1 ∨ p.1 < r.firstImage) ∧ r.avoids lowerRuns = true)
    ⟨fun ⟨hl, hc, hb, hs, ha⟩ => ⟨hl, hc, hb, hs, ha⟩,
      fun h => ⟨h.letters, h.characters, h.notBlank, h.single, h.avoids⟩⟩

variable {r : CaseRun} {n : Nat}

theorem image_bounds (h : r.covers n) :
    r.firstImage ≤ (n + r.shift).toNat ∧ (n + r.shift).toNat ≤ r.lastImage := by
  simp only [covers, Bool.and_eq_true, decide_eq_true_eq] at h
  simp only [firstImage, lastImage]
  omega

theorem exists_covers {rs : List CaseRun} {m : Nat} (h : image? rs n = some m) :
    ∃ r ∈ rs, r.covers n ∧ m = (n + r.shift).toNat := by
  induction rs with
  | nil => cases h
  | cons s rest ih =>
    simp only [image?] at h
    split at h
    · cases h
    · split at h
      · exact ⟨s, List.mem_cons_self, ‹_›, (Option.some.inj h).symm⟩
      · obtain ⟨r, hr, hm⟩ := ih h
        exact ⟨r, List.mem_cons_of_mem _ hr, hm⟩

/-- What a run leads to is not moved by a table that it avoids. -/
theorem image?_eq_none {rs : List CaseRun} (ha : r.avoids rs = true)
    (hl : 97 ≤ r.first + r.shift) (h : r.covers n) : image? rs (n + r.shift).toNat = none := by
  obtain ⟨hfirst, hlast⟩ := image_bounds h
  induction rs with
  | nil => rfl
  | cons s rest ih =>
    simp only [avoids] at ha
    rw [image?]
    split at ha
    · -- the run lies before
      have hs : s.covers (n + r.shift).toNat = false := by
        simp only [covers, Bool.and_eq_false_iff, decide_eq_false_iff_not]
        omega
      rw [hs, ih ha]
      split <;> rfl
    · split at ha
      · exact if_pos (by omega)
      · -- the run lies around: it holds code points of the other parity
        simp only [Bool.and_eq_true, Bool.or_eq_true, beq_iff_eq] at ha
        obtain ⟨⟨⟨hstep, hr⟩, hparity⟩, ha⟩ := ha
        have hs : s.covers (n + r.shift).toNat = false := by
          simp only [covers, Bool.and_eq_true, decide_eq_true_eq, beq_iff_eq] at h
          rw [Bool.eq_false_iff]
          intro hc
          simp only [covers, hstep, Bool.and_eq_true, decide_eq_true_eq, beq_iff_eq] at hc
          simp only [firstImage] at hparity
          rcases hr with hr | hr
          · rw [hr] at h; omega
          · omega
        rw [hs, ih ha]
        split <;> rfl

end CaseRun

theorem settled_lowerRuns : ∀ r ∈ lowerRuns, r.Settled := by decide +kernel

/-- A character stays as it is, or its image stands in one of the tables. -/
theorem mapCase_cases (several : List (Nat × List Nat)) (runs : List CaseRun) (c : Char) :
    mapCase several runs c = [c] ∨
      (∃ p ∈ several, mapCase several runs c = p.2.map Char.ofNat) ∨
      ∃ r ∈ runs, r.covers c.toNat ∧
        mapCase several runs c = [Char.ofNat (c.toNat + r.shift).toNat] := by
  unfold mapCase
  split
  · rename_i ns hns
    obtain ⟨_, _, hmem, -⟩ := List.lookup_eq_some_iff.1 hns
    exact .inr (.inl ⟨(c.toNat, ns), by rw [hmem]; simp, rfl⟩)
  · split
    · rename_i m hm
      obtain ⟨r, hr, hc, rfl⟩ := CaseRun.exists_covers hm
      exact .inr (.inr ⟨r, hr, hc, rfl⟩)
    · exact .inl rfl

/-! ### Lower case -/

/-- A character that is its own lower case and no white space. -/
structure Lowered (c : Char) : Prop where
  lower : lowerChar c = [c]
  notBlank : isBlank c = false

theorem isBlank_eq_false {c : Char} (hl : 33 ≤ c.toNat)
    (h : ∀ p ∈ CaseRun.laterBlanks, c.toNat < p.1 ∨ p.2 < c.toNat) : isBlank c = false := by
  simp only [CaseRun.laterBlanks, List.forall_mem_cons, List.not_mem_nil, false_implies,
    forall_const, and_true] at h
  simp only [isBlank, Bool.or_eq_false_iff, Bool.and_eq_false_iff, decide_eq_false_iff_not,
    beq_eq_false_iff_ne]
  omega

theorem toNat_ofNat {n : Nat} (h : n.isValidChar) : (Char.ofNat n).toNat = n := by
  rw [Char.ofNat, dif_pos h]
  rfl

namespace CaseRun.Settled

variable {r : CaseRun} {n : Nat}

/-- A run leads behind the capital letters of ASCII. -/
theorem le_image (hr : r.Settled) (hn : r.covers n) : 97 ≤ (n + r.shift).toNat := by
  have hfirst := (image_bounds hn).1
  have := hr.letters
  simp only [firstImage] at hfirst
  omega

theorem toNat_image (hr : r.Settled) (hn : r.covers n) :
    (Char.ofNat (n + r.shift).toNat).toNat = (n + r.shift).toNat := by
  obtain ⟨hfirst, hlast⟩ := image_bounds hn
  have hvalid : (n + r.shift).toNat.isValidChar := by
    have := hr.characters
    simp only [Nat.isValidChar]
    omega
  exact toNat_ofNat hvalid

theorem lowered (hr : r.Settled) (hn : r.covers n) : Lowered (Char.ofNat (n + r.shift).toNat) := by
  obtain ⟨hfirst, hlast⟩ := image_bounds hn
  have hl : 97 ≤ (n + r.shift).toNat := hr.le_image hn
  have hnone : CaseRun.image? lowerRuns (n + r.shift).toNat = none :=
    image?_eq_none hr.avoids hr.letters hn
  have htoNat := hr.toNat_image hn
  generalize (n + r.shift).toNat = m at hfirst hlast hl hnone htoNat ⊢
  constructor
  · have hsingle : lowerSeveral.lookup m = none := by
      rw [List.lookup_eq_none_iff]
      intro p hp
      have := hr.single p hp
      simp only [bne_iff_ne, ne_eq]
      omega
    simp only [lowerChar, mapCase, htoNat, hsingle, hnone]
  · refine isBlank_eq_false (by rw [htoNat]; omega) fun p hp => ?_
    have := hr.notBlank p hp
    rw [htoNat]
    omega

end CaseRun.Settled

theorem lowered_of_lowerSeveral :
    ∀ p ∈ lowerSeveral, p.2 ≠ [] ∧ ∀ n ∈ p.2, lowerChar (Char.ofNat n) = [Char.ofNat n] ∧
      isBlank (Char.ofNat n) = false := by
  decide +kernel

/-- A character is its own lower case, or its lower case is made of characters that are theirs. -/
theorem lowerChar_cases (c : Char) :
    lowerChar c = [c] ∨ lowerChar c ≠ [] ∧ ∀ d ∈ lowerChar c, Lowered d := by
  rcases mapCase_cases lowerSeveral lowerRuns c with heq | ⟨p, hp, heq⟩ | ⟨r, hr, hc, heq⟩
  · exact .inl heq
  · obtain ⟨hne, h⟩ := lowered_of_lowerSeveral p hp
    rw [lowerChar, heq]
    refine .inr ⟨by simpa using hne, fun d hd => ?_⟩
    obtain ⟨n, hn, rfl⟩ := List.mem_map.1 hd
    exact ⟨(h n hn).1, (h n hn).2⟩
  · rw [lowerChar, heq]
    refine .inr ⟨by simp, fun d hd => ?_⟩
    rw [List.mem_singleton.1 hd]
    exact (settled_lowerRuns r hr).lowered hc

theorem not_lowered_sigma : ¬ lowerChar 'Σ' = ['Σ'] := by decide +kernel

theorem lowered_sigma : Lowered 'σ' := ⟨by decide +kernel, by decide⟩

theorem lowered_finalSigma : Lowered 'ς' := ⟨by decide +kernel, by decide⟩

/-- What the first character of a text becomes, with the rest of the text behind it. -/
def lowerAt (afterCased : Bool) (c : Char) (cs : List Char) : List Char :=
  if c = 'Σ' then [if afterCased && !casedNext cs then 'ς' else 'σ'] else lowerChar c

theorem lowerFrom_cons (afterCased : Bool) (c : Char) (cs : List Char) :
    lowerFrom afterCased (c :: cs) = lowerAt afterCased c cs ++
      lowerFrom (if isCaseIgnorable c then afterCased else isCased c) cs := rfl

theorem lowerAt_cases (afterCased : Bool) (c : Char) (cs : List Char) :
    lowerAt afterCased c cs = [c] ∧ lowerChar c = [c] ∨
      lowerAt afterCased c cs ≠ [] ∧ ∀ d ∈ lowerAt afterCased c cs, Lowered d := by
  unfold lowerAt
  split
  · refine .inr ⟨by simp, fun d hd => ?_⟩
    rw [List.mem_singleton.1 hd]
    split
    · exact lowered_finalSigma
    · exact lowered_sigma
  · rcases lowerChar_cases c with h | h
    · exact .inl ⟨h, h⟩
    · exact .inr h

/-- Every character of a text in lower case is its own lower case. -/
theorem lowerChar_of_mem_lowerFrom {afterCased : Bool} {cs : List Char} {d : Char}
    (h : d ∈ lowerFrom afterCased cs) : lowerChar d = [d] := by
  induction cs generalizing afterCased with
  | nil => cases h
  | cons c cs ih =>
    rw [lowerFrom_cons] at h
    rcases List.mem_append.1 h with h | h
    · rcases lowerAt_cases afterCased c cs with ⟨heq, hc⟩ | ⟨-, hlow⟩
      · rw [heq] at h
        rw [List.mem_singleton.1 h, hc]
      · exact (hlow d h).lower
    · exact ih h

theorem lowerFrom_of_lower (afterCased : Bool) {cs : List Char}
    (h : ∀ c ∈ cs, lowerChar c = [c]) : lowerFrom afterCased cs = cs := by
  induction cs generalizing afterCased with
  | nil => rfl
  | cons c cs ih =>
    obtain ⟨hc, hcs⟩ := List.forall_mem_cons.1 h
    have hne : c ≠ 'Σ' := fun heq => not_lowered_sigma (heq ▸ hc)
    rw [lowerFrom_cons, lowerAt, if_neg hne, hc, ih _ hcs, List.singleton_append]

theorem lowerChars_lowerChars (cs : List Char) : lowerChars (lowerChars cs) = lowerChars cs :=
  lowerFrom_of_lower false fun _ h => lowerChar_of_mem_lowerFrom h

@[simp] theorem lower_lower (s : String) : lower (lower s) = lower s := by
  simp only [lower, String.toList_ofList, lowerChars_lowerChars]

/-! ### Trimmed texts -/

/-- A text that has no white space at its ends. -/
structure Trimmed (cs : List Char) : Prop where
  head : ∀ c ∈ cs.head?, isBlank c = false
  last : ∀ c ∈ cs.getLast?, isBlank c = false

theorem dropTrailing_eq_rdropWhile (cs : List Char) :
    dropTrailing cs = cs.rdropWhile isBlank := rfl

theorem trimmed_trimChars (cs : List Char) : Trimmed (trimChars cs) where
  head c hc := by
    -- what is dropped behind leaves the first character in its place
    obtain ⟨dropped, hd⟩ := List.rdropWhile_prefix isBlank (cs.dropWhile isBlank)
    have hfront : (cs.dropWhile isBlank).head? = some c := by
      rw [← hd, List.head?_append, ← dropTrailing_eq_rdropWhile, ← trimChars, Option.mem_def.1 hc,
        Option.some_or]
    have hnot := List.head?_dropWhile_not isBlank cs
    rwa [hfront] at hnot
  last c hc := by
    obtain ⟨hne, rfl⟩ := List.mem_getLast?_eq_getLast hc
    exact Bool.eq_false_iff.2 (List.rdropWhile_last_not isBlank (cs.dropWhile isBlank) hne)

theorem Trimmed.trimChars_eq {cs : List Char} (h : Trimmed cs) : trimChars cs = cs := by
  have hfront : cs.dropWhile isBlank = cs := by
    cases cs with
    | nil => rfl
    | cons c rest => exact List.dropWhile_cons_of_neg (by simp [h.head c rfl])
  rw [trimChars, hfront, dropTrailing_eq_rdropWhile, List.rdropWhile_eq_self_iff]
  intro hne
  simp [h.last _ (List.getLast?_eq_some_getLast hne)]

theorem lowerAt_ne_nil (afterCased : Bool) (c : Char) (cs : List Char) :
    lowerAt afterCased c cs ≠ [] := by
  rcases lowerAt_cases afterCased c cs with ⟨heq, -⟩ | ⟨hne, -⟩
  · simp [heq]
  · exact hne

theorem notBlank_of_mem_lowerAt {afterCased : Bool} {c d : Char} {cs : List Char}
    (hc : isBlank c = false) (hd : d ∈ lowerAt afterCased c cs) : isBlank d = false := by
  rcases lowerAt_cases afterCased c cs with ⟨heq, -⟩ | ⟨-, hlow⟩
  · rw [heq] at hd
    rwa [List.mem_singleton.1 hd]
  · exact (hlow d hd).notBlank

theorem lowerFrom_ne_nil (afterCased : Bool) {cs : List Char} (h : cs ≠ []) :
    lowerFrom afterCased cs ≠ [] := by
  obtain ⟨c, cs, rfl⟩ := List.exists_cons_of_ne_nil h
  rw [lowerFrom_cons]
  exact List.append_ne_nil_of_left_ne_nil (lowerAt_ne_nil afterCased c cs) _

theorem notBlank_getLast?_lowerFrom (afterCased : Bool) {cs : List Char}
    (h : ∀ c ∈ cs.getLast?, isBlank c = false) :
    ∀ d ∈ (lowerFrom afterCased cs).getLast?, isBlank d = false := by
  induction cs generalizing afterCased with
  | nil => intro d hd; cases hd
  | cons c cs ih =>
    intro d hd
    rw [lowerFrom_cons] at hd
    cases cs with
    | nil =>
      rw [lowerFrom, List.append_nil] at hd
      exact notBlank_of_mem_lowerAt (h c rfl) (List.mem_of_getLast? hd)
    | cons c' cs =>
      rw [List.getLast?_append_of_ne_nil _ (lowerFrom_ne_nil _ (List.cons_ne_nil c' cs))] at hd
      exact ih _ (fun e he => h e (by rwa [List.getLast?_cons_cons])) d hd

/-- Lower case puts no white space at the ends of a text. -/
theorem Trimmed.lowerChars {cs : List Char} (h : Trimmed cs) : Trimmed (lowerChars cs) where
  head d hd := by
    cases cs with
    | nil => cases hd
    | cons c cs =>
      rw [Text.lowerChars, lowerFrom_cons,
        List.head?_append_of_ne_nil _ (lowerAt_ne_nil false c cs)] at hd
      exact notBlank_of_mem_lowerAt (h.head c rfl) (List.mem_of_head? hd)
  last := notBlank_getLast?_lowerFrom false h.last

@[simp] theorem trim_trim (s : String) : trim (trim s) = trim s := by
  simp only [trim, String.toList_ofList, (trimmed_trimChars _).trimChars_eq]

@[simp] theorem trim_lower_trim (s : String) : trim (lower (trim s)) = lower (trim s) := by
  simp only [trim, lower, String.toList_ofList, (trimmed_trimChars _).lowerChars.trimChars_eq]

theorem lower_ne_empty {s : String} (h : s ≠ "") : lower s ≠ "" := by
  rw [lower, ne_eq, String.ofList_eq_empty_iff]
  exact lowerFrom_ne_nil false (by simpa using h)

end NativeVariants.Text

namespace NativeVariants

/-! ### Aliases -/

section
variable (aliases : List (String × String))

/-- A name is folded to itself in trimmed lower case, or to a usual spelling. -/
theorem foldName_cases (name : String) :
    foldName aliases name = Text.lower (Text.trim name) ∧
        aliases.lookup (foldName aliases name) = none ∨
      ∃ p ∈ aliases, foldName aliases name = p.2 := by
  unfold foldName
  dsimp only
  cases h : aliases.lookup (Text.lower (Text.trim name)) with
  | none => exact .inl ⟨rfl, h⟩
  | some usual =>
    obtain ⟨_, _, heq, -⟩ := List.lookup_eq_some_iff.1 h
    exact .inr ⟨(Text.lower (Text.trim name), usual), by rw [heq]; simp, rfl⟩

/-- Where the usual spellings are folded to themselves, folding twice is folding once. -/
theorem foldName_foldName (h : ∀ p ∈ aliases, foldName aliases p.2 = p.2) (name : String) :
    foldName aliases (foldName aliases name) = foldName aliases name := by
  rcases foldName_cases aliases name with ⟨heq, hnone⟩ | ⟨p, hp, heq⟩
  · rw [heq] at hnone ⊢
    simp only [foldName, Text.trim_lower_trim, Text.lower_lower, hnone, Option.getD_none]
  · rw [heq, h p hp]

theorem trim_foldName (h : ∀ p ∈ aliases, Text.trim p.2 = p.2) (name : String) :
    Text.trim (foldName aliases name) = foldName aliases name := by
  rcases foldName_cases aliases name with ⟨heq, -⟩ | ⟨p, hp, heq⟩
  · rw [heq, Text.trim_lower_trim]
  · rw [heq, h p hp]

theorem foldName_ne_empty (h : ∀ p ∈ aliases, p.2 ≠ "") {name : String}
    (hn : Text.trim name ≠ "") : foldName aliases name ≠ "" := by
  rcases foldName_cases aliases name with ⟨heq, -⟩ | ⟨p, hp, heq⟩
  · rw [heq]
    exact Text.lower_ne_empty hn
  · rw [heq]
    exact h p hp

end

@[simp] theorem foldFamily_foldFamily (name : String) :
    foldFamily (foldFamily name) = foldFamily name :=
  foldName_foldName familyAliases (by decide +kernel) name

@[simp] theorem foldArchitecture_foldArchitecture (name : String) :
    foldArchitecture (foldArchitecture name) = foldArchitecture name :=
  foldName_foldName architectureAliases (by decide +kernel) name

@[simp] theorem trim_foldFamily (name : String) : Text.trim (foldFamily name) = foldFamily name :=
  trim_foldName familyAliases (by decide +kernel) name

@[simp] theorem trim_foldArchitecture (name : String) :
    Text.trim (foldArchitecture name) = foldArchitecture name :=
  trim_foldName architectureAliases (by decide +kernel) name

theorem foldFamily_ne_empty {name : String} (h : Text.trim name ≠ "") : foldFamily name ≠ "" :=
  foldName_ne_empty familyAliases (by decide) h

theorem foldArchitecture_ne_empty {name : String} (h : Text.trim name ≠ "") :
    foldArchitecture name ≠ "" :=
  foldName_ne_empty architectureAliases (by decide) h

namespace Machine

/-- A machine of two names that are folded and not empty. -/
structure Canonical (m : Machine) : Prop where
  family : foldFamily m.family = m.family
  family_ne : m.family ≠ ""
  architecture : foldArchitecture m.architecture = m.architecture
  architecture_ne : m.architecture ≠ ""

@[simp] theorem family_ofNames (family architecture : String) :
    (ofNames family architecture).family = foldFamily family := by
  simp only [ofNames]

@[simp] theorem architecture_ofNames (family architecture : String) :
    (ofNames family architecture).architecture = foldArchitecture architecture := by
  simp only [ofNames]

theorem canonical_ofNames {family architecture : String} (hf : Text.trim family ≠ "")
    (ha : Text.trim architecture ≠ "") : (ofNames family architecture).Canonical where
  family := by rw [family_ofNames, foldFamily_foldFamily]
  family_ne := by rw [family_ofNames]; exact foldFamily_ne_empty hf
  architecture := by rw [architecture_ofNames, foldArchitecture_foldArchitecture]
  architecture_ne := by rw [architecture_ofNames]; exact foldArchitecture_ne_empty ha

theorem ofNames_trim (family architecture : String) :
    ofNames (Text.trim family) (Text.trim architecture) = ofNames family architecture := by
  simp only [ofNames, foldFamily, foldArchitecture, foldName, Text.trim_trim]

/-- A text is read if it has a colon with a name on either side that is not blank. White space around
the names makes no difference. -/
theorem parse?_eq_some_iff {text : String} {m : Machine} : parse? text = some m ↔
    ∃ family architecture, Text.cut ':' text = (family, some architecture) ∧
      Text.trim family ≠ "" ∧ Text.trim architecture ≠ "" ∧ ofNames family architecture = m := by
  unfold parse?
  rcases Text.cut ':' text with ⟨family, _ | architecture⟩
  · exact iff_of_false nofun (by rintro ⟨_, _, h, -⟩; cases h)
  · dsimp only
    rw [ofNames_trim]
    by_cases hf : Text.trim family = "" <;> by_cases ha : Text.trim architecture = "" <;>
      simp [hf, ha]

theorem canonical_of_parse? {text : String} {m : Machine} (h : parse? text = some m) :
    m.Canonical := by
  obtain ⟨family, architecture, -, hf, ha, rfl⟩ := parse?_eq_some_iff.1 h
  exact canonical_ofNames hf ha

end Machine

namespace Host

theorem family_mem (host : Host) : host.family ∈ unknownName :: knownFamilies := by
  unfold family hostFamily
  dsimp only
  split
  · rename_i h
    exact List.mem_cons_of_mem _ (List.contains_iff_mem.1 h)
  · exact List.mem_cons_self

theorem family_ne_empty (host : Host) : host.family ≠ "" := by
  have hnames : ∀ name ∈ unknownName :: knownFamilies, name ≠ "" := by decide
  exact hnames _ host.family_mem

theorem trim_architecture_ne_empty (host : Host) : Text.trim host.architecture ≠ "" := by
  unfold architecture hostArchitecture
  dsimp only
  split
  · decide
  · rename_i h
    rw [trim_foldArchitecture]
    simpa using h

theorem canonical_asTarget (host : Host) : host.asTarget.Canonical := by
  have hf : ∀ f ∈ unknownName :: knownFamilies, Text.trim f ≠ "" := by decide
  exact Machine.canonical_ofNames (hf _ host.family_mem) host.trim_architecture_ne_empty

end Host

end NativeVariants
