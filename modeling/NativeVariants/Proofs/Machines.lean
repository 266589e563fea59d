import NativeVariants.Proofs.Folding

/-!
# Machines as text

The text of a machine is cut at the first colon when it is read. It is read as the same machine if the
names of the machine are folded and its family has no colon; its architecture may have some. A family
that was read is what stood before a colon, and folding makes a colon of nothing else, since lower case
leads to no other character of ASCII than small letters (`eq_or_le_of_mem_lowerChar`). Every host is
such a machine too, as its family is one of a few words.
-/

namespace NativeVariants

namespace Text

theorem cutChars_append {sep : Char} {cs : List Char} (h : sep ∉ cs) (rest : List Char) :
    cutChars sep (cs ++ sep :: rest) = (cs, some rest) := by
  induction cs with
  | nil => simp [cutChars]
  | cons c cs ih =>
    obtain ⟨hc, hcs⟩ := not_or.1 (mt List.mem_cons.2 h)
    rw [List.cons_append, cutChars, if_neg (Ne.symm hc), ih hcs]

theorem cut_append {sep : Char} {before : String} (h : sep ∉ before.toList) (after : String) :
    cut sep (before ++ String.singleton sep ++ after) = (before, some after) := by
  have hlist : (before ++ String.singleton sep ++ after).toList =
      before.toList ++ sep :: after.toList := by
    simp
  rw [cut, hlist, cutChars_append h]
  simp

/-! ### Characters of folded names -/

theorem le_of_mem_lowerSeveral : ∀ p ∈ lowerSeveral, ∀ n ∈ p.2, 97 ≤ (Char.ofNat n).toNat := by
  decide +kernel

/-- Lower case leaves a character as it is or leads behind the capital letters of ASCII. -/
theorem eq_or_le_of_mem_lowerChar {c d : Char} (h : d ∈ lowerChar c) : d = c ∨ 97 ≤ d.toNat := by
  rcases mapCase_cases lowerSeveral lowerRuns c with heq | ⟨p, hp, heq⟩ | ⟨r, hr, hc, heq⟩ <;>
    rw [lowerChar, heq] at h
  · exact .inl (List.mem_singleton.1 h)
  · obtain ⟨n, hn, rfl⟩ := List.mem_map.1 h
    exact .inr (le_of_mem_lowerSeveral p hp n hn)
  · have hsettled : r.Settled := settled_lowerRuns r hr
    rw [List.mem_singleton.1 h, hsettled.toNat_image hc]
    exact .inr (hsettled.le_image hc)

theorem eq_or_le_of_mem_lowerAt {afterCased : Bool} {c d : Char} {cs : List Char}
    (h : d ∈ lowerAt afterCased c cs) : d = c ∨ 97 ≤ d.toNat := by
  unfold lowerAt at h
  split at h
  · refine .inr ?_
    rw [List.mem_singleton.1 h]
    split <;> decide
  · exact eq_or_le_of_mem_lowerChar h

theorem mem_or_le_of_mem_lowerFrom {afterCased : Bool} {cs : List Char} {d : Char}
    (h : d ∈ lowerFrom afterCased cs) : d ∈ cs ∨ 97 ≤ d.toNat := by
  induction cs generalizing afterCased with
  | nil => cases h
  | cons c cs ih =>
    rw [lowerFrom_cons] at h
    rcases List.mem_append.1 h with h | h
    · rcases eq_or_le_of_mem_lowerAt h with rfl | hle
      · exact .inl List.mem_cons_self
      · exact .inr hle
    · rcases ih h with hmem | hle
      · exact .inl (List.mem_cons_of_mem _ hmem)
      · exact .inr hle

theorem mem_of_mem_trimChars {cs : List Char} {c : Char} (h : c ∈ trimChars cs) : c ∈ cs :=
  (List.dropWhile_suffix isBlank).subset ((List.rdropWhile_prefix isBlank _).subset h)

end Text

/-- Folding puts no character of ASCII in front of the small letters into a name, unless a usual
spelling has it. -/
theorem not_mem_foldName {aliases : List (String × String)} {c : Char} (hc : c.toNat < 97)
    (hp : ∀ p ∈ aliases, c ∉ p.2.toList) {name : String} (h : c ∉ name.toList) :
    c ∉ (foldName aliases name).toList := by
  intro hmem
  rcases foldName_cases aliases name with ⟨heq, -⟩ | ⟨p, hmemp, heq⟩
  · rw [heq, Text.lower, String.toList_ofList, Text.lowerChars] at hmem
    rcases Text.mem_or_le_of_mem_lowerFrom hmem with htrim | hle
    · rw [Text.trim, String.toList_ofList] at htrim
      exact h (Text.mem_of_mem_trimChars htrim)
    · omega
  · exact hp p hmemp (heq ▸ hmem)

theorem colon_not_mem_foldFamily {name : String} (h : ':' ∉ name.toList) :
    ':' ∉ (foldFamily name).toList :=
  not_mem_foldName (by decide) (by decide) h

namespace Machine

variable {m : Machine}

theorem cut_text (h : ':' ∉ m.family.toList) :
    Text.cut ':' m.text = (m.family, some m.architecture) :=
  Text.cut_append h m.architecture

theorem Canonical.trim_family (h : m.Canonical) : Text.trim m.family = m.family := by
  rw [← h.family, trim_foldFamily]

theorem Canonical.trim_architecture (h : m.Canonical) :
    Text.trim m.architecture = m.architecture := by
  rw [← h.architecture, trim_foldArchitecture]

theorem Canonical.ofNames_eq (h : m.Canonical) : ofNames m.family m.architecture = m := by
  rw [ofNames, h.family, h.architecture]

theorem Canonical.parse?_text (h : m.Canonical) (hf : ':' ∉ m.family.toList) :
    parse? m.text = some m := by
  refine parse?_eq_some_iff.2 ⟨m.family, m.architecture, cut_text hf, ?_, ?_, h.ofNames_eq⟩
  · rw [h.trim_family]
    exact h.family_ne
  · rw [h.trim_architecture]
    exact h.architecture_ne

theorem colon_not_mem_of_parse? {text : String} (h : parse? text = some m) :
    ':' ∉ m.family.toList := by
  obtain ⟨family, architecture, hcut, -, -, rfl⟩ := parse?_eq_some_iff.1 h
  have hfamily : family = String.ofList (Text.cutChars ':' text.toList).1 :=
    (congrArg Prod.fst hcut).symm
  rw [family_ofNames]
  refine colon_not_mem_foldFamily ?_
  rw [hfamily, String.toList_ofList]
  exact Text.not_mem_cutChars ':' text.toList

theorem parse_eq_ok_iff {text : String} : parse text = .ok m ↔ parse? text = some m := by
  unfold parse
  cases parse? text <;> simp

end Machine

namespace Host

/-- A host builds for its own family. -/
theorem family_asTarget (host : Host) : host.asTarget.family = host.family := by
  have hfold : ∀ f ∈ unknownName :: knownFamilies, foldFamily f = f := by decide +kernel
  rw [asTarget, Machine.family_ofNames]
  exact hfold _ host.family_mem

theorem parse?_text_asTarget (host : Host) :
    Machine.parse? host.asTarget.text = some host.asTarget := by
  have hcolon : ∀ f ∈ unknownName :: knownFamilies, ':' ∉ f.toList := by decide
  refine host.canonical_asTarget.parse?_text ?_
  rw [family_asTarget]
  exact hcolon _ host.family_mem

end Host

namespace Machine

variable {m : Machine}

/-- Machines that are read from a text or that a host is. -/
inductive Given : Machine → Prop
  | read {text : String} {m : Machine} (h : parse text = .ok m) : Given m
  | host (host : Host) : Given host.asTarget

theorem Given.parse_text (h : m.Given) : parse m.text = .ok m := by
  rw [parse_eq_ok_iff]
  cases h with
  | read h =>
    have hread := parse_eq_ok_iff.1 h
    exact (canonical_of_parse? hread).parse?_text (colon_not_mem_of_parse? hread)
  | host host => exact host.parse?_text_asTarget

/-- Folding twice is folding once, so the names of a machine stand for it; and machines that are given
are read back from their texts, which tell them apart. -/
theorem stable_and_read_back :
    (∀ name, foldFamily (foldFamily name) = foldFamily name ∧
        foldArchitecture (foldArchitecture name) = foldArchitecture name) ∧
      (∀ family architecture, let m := ofNames family architecture
        ofNames m.family m.architecture = m) ∧
      (∀ m : Machine, m.Given → parse m.text = .ok m) ∧
      ∀ m m' : Machine, m.Given → m'.Given → m.text = m'.text → m = m' := by
  refine ⟨fun name => ⟨foldFamily_foldFamily name, foldArchitecture_foldArchitecture name⟩,
    fun family architecture => ?_, fun m h => h.parse_text, fun m m' h h' htext => ?_⟩
  · intro m
    rw [ofNames, family_ofNames, architecture_ofNames, foldFamily_foldFamily,
      foldArchitecture_foldArchitecture]
    rfl
  · have hparse : parse m.text = .ok m' := by rw [htext, h'.parse_text]
    exact Except.ok.inj (h.parse_text.symm.trans hparse)

theorem stable_and_read_back_foreign :
    parse " Mac OS X\t: ARM:v9 ΩMEGA " = .ok ⟨"macos", "arm:v9 ωmega"⟩ ∧
      parse (text ⟨"macos", "arm:v9 ωmega"⟩) = .ok ⟨"macos", "arm:v9 ωmega"⟩ ∧
      text ⟨"macos", "arm:v9 ωmega"⟩ = (Host.mk "Darwin " "arm:V9 ωMega" 900).asTarget.text ∧
      (⟨"macos", "arm:v9 ωmega"⟩ : Machine) = (Host.mk "Darwin " "arm:V9 ωMega" 900).asTarget := by
  have hread : parse " Mac OS X\t: ARM:v9 ΩMEGA " = .ok ⟨"macos", "arm:v9 ωmega"⟩ := by
    rw [parse_eq_ok_iff]
    decide +kernel
  have htext : text ⟨"macos", "arm:v9 ωmega"⟩ =
      (Host.mk "Darwin " "arm:V9 ωMega" 900).asTarget.text := by
    decide +kernel
  obtain ⟨-, -, hback, hinj⟩ := stable_and_read_back
  exact ⟨hread, hback _ (.read hread), htext, hinj _ _ (.read hread) (.host _) htext⟩

end Machine

end NativeVariants
