import Mathlib.Data.List.Infix
import NativeVariants.Proofs.Configuration

/-!
# Names of variants

A name is the build type, the linkage's token and the machine's suffix, one after the other with
nothing between them. Linkage tokens have one length and no beginning of one is an end of another,
so the linkage never makes two names equal. What can do it is the machines: two of them may have
the same suffix, and one suffix may end in another while the text in front of it is the end of a
build type's name. `NamesToldApart` excludes both, and the names of a valid configuration are
pairwise different exactly then.
-/

namespace NativeVariants

/-- Two ways of cutting one text: the later cut is the earlier one and a piece between them. -/
theorem append_eq_append_cases {a s b t : String} (h : a ++ s = b ++ t) :
    (∃ u, b = a ++ u ∧ s = u ++ t) ∨ (∃ u, a = b ++ u ∧ t = u ++ s) := by
  rw [← String.toList_inj, String.toList_append, String.toList_append] at h
  rcases List.append_eq_append_iff.1 h with ⟨u, hb, hs⟩ | ⟨u, ha, ht⟩
  · exact .inl ⟨String.ofList u, by simp [← String.toList_inj, hb], by simp [← String.toList_inj, hs]⟩
  · exact .inr ⟨String.ofList u, by simp [← String.toList_inj, ha], by simp [← String.toList_inj, ht]⟩

/-- Of two ways of cutting one text, the one with the longer rest comes first. -/
theorem eq_append_of_length_le {a s b t : String} (h : a ++ s = b ++ t)
    (hle : t.length ≤ s.length) : ∃ u, b = a ++ u ∧ s = u ++ t := by
  rcases append_eq_append_cases h with hu | ⟨u, ha, ht⟩
  · exact hu
  · have hlen := congrArg String.length ht
    rw [String.length_append] at hlen
    have hu : u = "" := String.length_eq_zero_iff.1 (by omega)
    subst hu
    exact ⟨"", by simpa using ha.symm, by simpa using ht.symm⟩

theorem Machine.eq_of_parts : ∀ {m m' : Machine}, m.family = m'.family →
    m.architecture = m'.architecture → m = m'
  | ⟨_, _⟩, ⟨_, _⟩, rfl, rfl => rfl

namespace Linkage

def token (l : Linkage) : String :=
  dimensionToken l.name

@[simp] theorem length_token (l : Linkage) : l.token.length = 6 := by
  cases l <;> decide +kernel

theorem token_injective : Function.Injective token := by
  intro l l' h
  cases l <;> cases l' <;> first | rfl | exact absurd h (by decide +kernel)

/-- No proper beginning of a token is an end of a token. -/
theorem eq_empty_of_token_eq {l l' : Linkage} {v w t : String} (hw : l.token = w ++ t)
    (hv : l'.token = v ++ w) : w = "" ∨ t = "" := by
  have key : ∀ l l' : Linkage, ∀ w ∈ l.token.toList.inits, w ∈ l'.token.toList.tails →
      w = [] ∨ w = l.token.toList := by
    intro l l'; cases l <;> cases l' <;> decide +kernel
  have h := key l l' w.toList (by simp [hw]) (by simp [hv])
  rw [hw, String.toList_append] at h
  simpa using h

/-- A text that ends in a token, and the same text as another one that ends in a token followed by
`t`: either the two are the same, or `t` ends in the first token. -/
theorem same_or_longer {b b' t : String} {l l' : Linkage}
    (h : b ++ l.token = b' ++ l'.token ++ t) :
    (t = "" ∧ b = b' ∧ l = l') ∨ ∃ u, t = u ++ l.token ∧ b = b' ++ l'.token ++ u := by
  rcases append_eq_append_cases h with ⟨w, hb, hw⟩ | ⟨u, hb, ht⟩
  · have hlen := congrArg String.length hw
    rw [length_token, String.length_append] at hlen
    obtain ⟨v, hv, hv'⟩ := eq_append_of_length_le hb (by rw [length_token]; omega)
    rcases eq_empty_of_token_eq hw hv' with rfl | rfl
    · exact .inr ⟨"", by simpa using hw.symm, by simpa using hb.symm⟩
    · have hlen' := congrArg String.length hv'
      rw [length_token, String.length_append] at hlen'
      have hv0 : v = "" := String.length_eq_zero_iff.1 (by simp at hlen; omega)
      subst hv0
      rw [String.append_empty] at hv hw
      rw [String.empty_append, ← hw] at hv'
      exact .inl ⟨rfl, hv, token_injective hv'.symm⟩
  · exact .inr ⟨u, ht, hb⟩

theorem append_token_inj {b b' : String} {l l' : Linkage} :
    b ++ l.token = b' ++ l'.token ↔ b = b' ∧ l = l' := by
  refine ⟨fun h => ?_, fun ⟨hb, hl⟩ => by rw [hb, hl]⟩
  have h' : b ++ l.token = b' ++ l'.token ++ "" := by rw [h, String.append_empty]
  rcases same_or_longer h' with ⟨-, hb, hl⟩ | ⟨u, hu, -⟩
  · exact ⟨hb, hl⟩
  · have hlen := congrArg String.length hu
    simp at hlen

end Linkage

namespace Configuration

variable {φ : Type} {c : Configuration φ}

/-- The linkages that variants have: none at all if none is declared. -/
def linkageValues (c : Configuration φ) : List (Option Linkage) :=
  distinctOr none c.linkageDimension

/-- What a linkage adds to names. -/
def linkageSuffix (c : Configuration φ) (l : Option Linkage) : String :=
  dimensionSuffix Linkage.name l c.linkageDimension

/-- What a machine adds to names: its family, then its architecture. -/
def machineSuffix (c : Configuration φ) (m : Machine) : String :=
  dimensionSuffix id (some m.family) (c.machines.map fun m => some m.family) ++
    dimensionSuffix id (some m.architecture) (c.machines.map fun m => some m.architecture)

theorem name_variantOf (c : Configuration φ) (x : Combination) :
    (c.variantOf x).name =
      x.buildType.name ++ c.linkageSuffix x.linkage ++ c.machineSuffix x.machine := by
  show variantName x c.machines c.linkageDimension = _
  simp only [variantName, linkageSuffix, machineSuffix, String.append_assoc]

/-- Either there is one linkage at most and it adds nothing, or every linkage adds its token. -/
theorem linkageSuffix_cases (c : Configuration φ) :
    ((∀ l ∈ c.linkageValues, ∀ l' ∈ c.linkageValues, l = l') ∧ ∀ l, c.linkageSuffix l = "") ∨
      ∀ l ∈ c.linkageValues, ∃ x, l = some x ∧ c.linkageSuffix l = Linkage.token x := by
  by_cases hlen : c.linkageDimension.eraseDups.length ≤ 1
  · refine .inl ⟨fun l hl l' hl' => ?_, fun l => ?_⟩
    · by_cases hn : c.linkageDimension = []
      · simp only [linkageValues, hn, distinctOr, List.eraseDups_nil, List.mem_singleton] at hl hl'
        rw [hl, hl']
      · rw [linkageValues, distinctOr_of_ne_nil _ hn, List.mem_eraseDups] at hl hl'
        exact length_eraseDups_le_one_iff.1 hlen l hl l' hl'
    · cases l with
      | none => rfl
      | some x => simp [linkageSuffix, dimensionSuffix, hlen]
  · refine .inr fun l hl => ?_
    have hn : c.linkageDimension ≠ [] := fun hn => hlen (by simp [hn])
    rw [linkageValues, distinctOr_of_ne_nil _ hn, List.mem_eraseDups] at hl
    obtain ⟨x, -, rfl⟩ := List.mem_map.1 hl
    exact ⟨x, rfl, by simp [linkageSuffix, dimensionSuffix, hlen, Linkage.token]⟩

theorem same_or_longer {b b' t : String} {l l' : Option Linkage} (hl : l ∈ c.linkageValues)
    (hl' : l' ∈ c.linkageValues) (h : b ++ c.linkageSuffix l = b' ++ c.linkageSuffix l' ++ t) :
    (t = "" ∧ b = b' ∧ l = l') ∨
      t ≠ "" ∧ ∃ u, t = u ++ c.linkageSuffix l ∧ b = b' ++ c.linkageSuffix l' ++ u := by
  by_cases ht : t = ""
  · subst ht
    refine .inl ⟨rfl, ?_⟩
    rcases c.linkageSuffix_cases with ⟨heq, hnil⟩ | htok
    · simp only [hnil, String.append_empty] at h
      exact ⟨h, heq l hl l' hl'⟩
    · obtain ⟨x, rfl, hx⟩ := htok l hl
      obtain ⟨y, rfl, hy⟩ := htok l' hl'
      rw [hx, hy, String.append_empty, Linkage.append_token_inj] at h
      exact ⟨h.1, congrArg some h.2⟩
  · refine .inr ⟨ht, ?_⟩
    rcases c.linkageSuffix_cases with ⟨heq, hnil⟩ | htok
    · simp only [hnil, String.append_empty] at h ⊢
      exact ⟨t, rfl, h⟩
    · obtain ⟨x, rfl, hx⟩ := htok l hl
      obtain ⟨y, rfl, hy⟩ := htok l' hl'
      rw [hx, hy] at h ⊢
      rcases Linkage.same_or_longer h with ⟨ht0, -⟩ | hu
      · exact absurd ht0 ht
      · exact hu

/-- Whether no name can be read as that of another variant. -/
structure NamesToldApart (c : Configuration φ) : Prop where
  /-- No two machines add the same to names. -/
  machines : ∀ m ∈ c.machines, ∀ m' ∈ c.machines, c.machineSuffix m = c.machineSuffix m' → m = m'
  /-- No text `u` with a linkage behind it, unless both are empty, stands in front of one machine's
  suffix to make another's, while a build type's name is that of another one with its linkage and
  `u` behind it. -/
  borrowed : ∀ b ∈ c.buildTypes, ∀ b' ∈ c.buildTypes, ∀ l ∈ c.linkageValues,
    ∀ l' ∈ c.linkageValues, ∀ m ∈ c.machines, ∀ m' ∈ c.machines, ∀ u : String,
      b.name = b'.name ++ c.linkageSuffix l' ++ u →
        c.machineSuffix m' = u ++ c.linkageSuffix l ++ c.machineSuffix m →
          u ++ c.linkageSuffix l = ""

theorem mem_combinations_iff (c : Configuration φ) {x : Combination} :
    x ∈ combinations c.buildTypes c.machines c.linkageDimension ↔
      x.buildType ∈ c.buildTypes ∧ x.machine ∈ c.machines ∧ x.linkage ∈ c.linkageValues := by
  rw [mem_combinations, List.mem_eraseDups, List.mem_eraseDups]; rfl

theorem exists_mem_linkageValues (c : Configuration φ) : ∃ l, l ∈ c.linkageValues :=
  List.exists_mem_of_ne_nil _ (distinctOr_ne_nil _ _)

theorem Valid.buildType_eq (h : c.Valid) {b b' : BuildType} (hb : b ∈ c.buildTypes)
    (hb' : b' ∈ c.buildTypes) (hn : b.name = b'.name) : b = b' :=
  List.inj_on_of_nodup_map h.names hb hb' hn

section
variable {x y : Combination}
  (hx : x ∈ combinations c.buildTypes c.machines c.linkageDimension)
  (hy : y ∈ combinations c.buildTypes c.machines c.linkageDimension)
include hx hy

/-- Where the machines' suffixes are equal, so are the build types and the linkages behind one
name. -/
theorem Valid.eq_of_name_eq (h : c.Valid) (hs : c.machineSuffix x.machine = c.machineSuffix y.machine)
    (hn : (c.variantOf x).name = (c.variantOf y).name) :
    x.buildType = y.buildType ∧ x.linkage = y.linkage := by
  obtain ⟨hxb, -, hxl⟩ := c.mem_combinations_iff.1 hx
  obtain ⟨hyb, -, hyl⟩ := c.mem_combinations_iff.1 hy
  rw [name_variantOf, name_variantOf, hs, String.append_left_inj] at hn
  rcases same_or_longer (t := "") hxl hyl (by rw [hn, String.append_empty]) with ⟨-, hb, hl⟩ | ⟨ht, -⟩
  · exact ⟨h.buildType_eq hxb hyb hb, hl⟩
  · exact absurd rfl ht

/-- One name is not made of a longer and a shorter machine suffix. -/
theorem NamesToldApart.eq_of_longer (hc : c.NamesToldApart) (h : c.Valid) {t : String}
    (hb : x.buildType.name ++ c.linkageSuffix x.linkage =
      y.buildType.name ++ c.linkageSuffix y.linkage ++ t)
    (hs : c.machineSuffix y.machine = t ++ c.machineSuffix x.machine) : x = y := by
  obtain ⟨hxb, hxm, hxl⟩ := c.mem_combinations_iff.1 hx
  obtain ⟨hyb, hym, hyl⟩ := c.mem_combinations_iff.1 hy
  rcases same_or_longer hxl hyl hb with ⟨rfl, hbn, hl⟩ | ⟨ht, u, rfl, hbn⟩
  · rw [String.empty_append] at hs
    have hbt := h.buildType_eq hxb hyb hbn
    have hm := hc.machines _ hxm _ hym hs.symm
    cases x; cases y
    simp_all
  · exact absurd (hc.borrowed _ hxb _ hyb _ hxl _ hyl _ hxm _ hym u hbn hs) ht

theorem NamesToldApart.eq_of_name_eq (hc : c.NamesToldApart) (h : c.Valid)
    (hn : (c.variantOf x).name = (c.variantOf y).name) : x = y := by
  rw [name_variantOf, name_variantOf] at hn
  rcases append_eq_append_cases hn with ⟨t, hb, hs⟩ | ⟨t, hb, hs⟩
  · exact (hc.eq_of_longer hy hx h hb hs).symm
  · exact hc.eq_of_longer hx hy h hb hs

end

theorem namesToldApart_of_injOn (h : c.Valid)
    (hn : ∀ x ∈ combinations c.buildTypes c.machines c.linkageDimension,
      ∀ y ∈ combinations c.buildTypes c.machines c.linkageDimension,
        (c.variantOf x).name = (c.variantOf y).name → x = y) : c.NamesToldApart where
  machines m hm m' hm' hs := by
    obtain ⟨b, hb⟩ := List.exists_mem_of_ne_nil _ h.buildTypes
    obtain ⟨l, hl⟩ := c.exists_mem_linkageValues
    have heq := hn ⟨b, m, l⟩ (c.mem_combinations_iff.2 ⟨hb, hm, hl⟩) ⟨b, m', l⟩
      (c.mem_combinations_iff.2 ⟨hb, hm', hl⟩) (by rw [name_variantOf, name_variantOf, hs])
    exact (Combination.mk.inj heq).2.1
  borrowed b hb b' hb' l hl l' hl' m hm m' hm' u hbn hs := by
    have heq := hn ⟨b, m, l⟩ (c.mem_combinations_iff.2 ⟨hb, hm, hl⟩) ⟨b', m', l'⟩
      (c.mem_combinations_iff.2 ⟨hb', hm', hl'⟩)
      (by simp only [name_variantOf, hbn, hs, String.append_assoc])
    obtain ⟨-, rfl, -⟩ := Combination.mk.inj heq
    have hlen := congrArg String.length hs
    rw [String.length_append] at hlen
    exact String.length_eq_zero_iff.1 (by omega)

/-- The names of a valid configuration's variants are pairwise different exactly if its machines
and build types can be told apart in them. -/
theorem nodup_names_iff (h : c.validate = .ok ()) :
    ∃ all, c.identifyVariants.result = .ok all ∧
      ((all.map Variant.name).Nodup ↔ c.NamesToldApart) := by
  have hv := validate_eq_ok_iff.1 h
  refine ⟨c.variants, hv.identifyVariants, ?_⟩
  have hd := nodup_combinations c.buildTypes c.machines c.linkageDimension
  rw [variants_eq_map, List.map_map, List.nodup_map_iff_inj_on hd]
  exact ⟨fun hn => namesToldApart_of_injOn hv hn,
    fun hc x hx y hy hn => hc.eq_of_name_eq hx hy hv hn⟩

/-- Two machines whose architectures differ by a dash alone. -/
def dashed : Configuration Unit where
  component := "library"
  buildTypes := [BuildType.debug]
  machines := [⟨"linux", "arm-v7"⟩, ⟨"linux", "arm_v7"⟩]
  linkages := [.shared]
  names := ⟨.undefined none, .undefined none, .undefined none⟩
  registry := {}
  hostFamily := "linux"
  requireLinkage := true
  requireFactory := false

/-- Build types and families of which one goes on where the other ends. -/
def borrowing : Configuration Unit :=
  { dashed with
    buildTypes := [⟨"debug", true, false⟩, ⟨"debugMac", true, false⟩]
    machines := [⟨"os", "arm64"⟩, ⟨"mac os", "arm64"⟩] }

theorem nodup_names_iff_borrowing : borrowing.validate = .ok () ∧
    ∃ all, borrowing.identifyVariants.result = .ok all ∧
      ((all.map Variant.name).Nodup ↔ borrowing.NamesToldApart) :=
  have h : borrowing.validate = .ok () := by decide +kernel
  ⟨h, nodup_names_iff h⟩

/-- Names need not be pairwise different: both variants of `dashed` are called `debugArm_v7`. -/
theorem not_nodup_names_dashed : ¬ ∀ c : Configuration Unit, c.validate = .ok () →
    ∃ all, c.identifyVariants.result = .ok all ∧ (all.map Variant.name).Nodup := by
  intro h
  have hv : dashed.validate = .ok () := by decide +kernel
  obtain ⟨all, hall, hn⟩ := h dashed hv
  rw [(validate_eq_ok_iff.1 hv).identifyVariants] at hall
  cases hall
  have hnames : dashed.variants.map Variant.name = ["debugArm_v7", "debugArm_v7"] := by
    decide +kernel
  rw [hnames] at hn
  exact absurd hn (by decide)

/-! ### Machines that never clash -/

/-- Either a part of the machines is the same for all and adds nothing to names, or it adds its
token. -/
theorem dimensionSuffix_cases (part : Machine → String) (machines : List Machine) :
    ((∀ m ∈ machines, ∀ m' ∈ machines, part m = part m') ∧
      ∀ m, dimensionSuffix id (some (part m)) (machines.map fun m => some (part m)) = "") ∨
    ∀ m, dimensionSuffix id (some (part m)) (machines.map fun m => some (part m)) =
      dimensionToken (part m) := by
  by_cases hlen : (machines.map fun m => some (part m)).eraseDups.length ≤ 1
  · refine .inl ⟨fun m hm m' hm' => ?_, fun m => by simp [dimensionSuffix, hlen]⟩
    exact Option.some.inj (length_eraseDups_le_one_iff.1 hlen _ (List.mem_map_of_mem hm) _
      (List.mem_map_of_mem hm'))
  · exact .inr fun m => by simp [dimensionSuffix, hlen]

/-- No token of one value is the end of another value's token. -/
def EndFree (values : List String) : Prop :=
  ∀ a ∈ values, ∀ b ∈ values, ∀ u, dimensionToken b = u ++ dimensionToken a → a = b

theorem EndFree.eq_of_dimensionSuffix {part : Machine → String} {machines : List Machine}
    (h : EndFree (machines.map part)) {m m' : Machine} (hm : m ∈ machines) (hm' : m' ∈ machines)
    {u : String}
    (hu : dimensionSuffix id (some (part m')) (machines.map fun m => some (part m)) =
      u ++ dimensionSuffix id (some (part m)) (machines.map fun m => some (part m))) :
    part m = part m' ∧ u = "" := by
  rcases dimensionSuffix_cases part machines with ⟨heq, hnil⟩ | htok
  · rw [hnil, hnil, String.append_empty] at hu
    exact ⟨heq m hm m' hm', hu.symm⟩
  · rw [htok, htok] at hu
    have heq := h _ (List.mem_map_of_mem hm) _ (List.mem_map_of_mem hm') u hu
    have hlen := congrArg String.length hu
    rw [heq, String.length_append] at hlen
    exact ⟨heq, String.length_eq_zero_iff.1 (by omega)⟩

/-- Where no token is the end of another, no machine's suffix is the end of another's. -/
theorem eq_of_machineSuffix_eq (hf : EndFree (c.machines.map (·.family)))
    (ha : EndFree (c.machines.map (·.architecture))) {m m' : Machine} (hm : m ∈ c.machines)
    (hm' : m' ∈ c.machines) {t : String} (ht : c.machineSuffix m' = t ++ c.machineSuffix m) :
    m = m' ∧ t = "" := by
  simp only [machineSuffix, ← String.append_assoc] at ht
  rcases append_eq_append_cases ht with ⟨u, hfam, harch⟩ | ⟨u, hfam, harch⟩
  · obtain ⟨heqa, rfl⟩ := ha.eq_of_dimensionSuffix hm hm' harch
    obtain ⟨heqf, rfl⟩ := hf.eq_of_dimensionSuffix hm hm' (by simpa using hfam.symm)
    exact ⟨Machine.eq_of_parts heqf heqa, rfl⟩
  · obtain ⟨heqa, rfl⟩ := ha.eq_of_dimensionSuffix hm' hm harch
    obtain ⟨heqf, rfl⟩ := hf.eq_of_dimensionSuffix hm hm' (by simpa using hfam)
    exact ⟨Machine.eq_of_parts heqf heqa.symm, rfl⟩

theorem namesToldApart_of_endFree (hf : EndFree (c.machines.map (·.family)))
    (ha : EndFree (c.machines.map (·.architecture))) : c.NamesToldApart where
  machines m hm m' hm' hs :=
    (eq_of_machineSuffix_eq hf ha hm hm' (t := "") (by rw [hs, String.empty_append])).1
  borrowed _ _ _ _ _ _ _ _ m hm m' hm' _ _ hs := (eq_of_machineSuffix_eq hf ha hm hm' hs).2

theorem EndFree.subset {values values' : List String} (h : EndFree values') (hs : values ⊆ values') :
    EndFree values :=
  fun a ha b hb => h a (hs ha) b (hs hb)

theorem endFree_of_tails {values : List String} (h : ∀ a ∈ values, ∀ b ∈ values,
    (dimensionToken a).toList ∈ (dimensionToken b).toList.tails → a = b) : EndFree values :=
  fun a ha b hb u hu =>
    h a ha b hb ((List.mem_tails _ _).2 ⟨u.toList, by rw [hu, String.toList_append]⟩)

theorem endFree_families : EndFree (unknownName :: knownFamilies) :=
  endFree_of_tails (by decide +kernel)

theorem endFree_architectures : EndFree (architectureAliases.map (·.2)) :=
  endFree_of_tails (by decide +kernel)

/-- Machines of the usual families and architectures never make two names equal, whatever the build
types are called. -/
theorem namesToldApart_of_usual_machines
    (hf : ∀ m ∈ c.machines, m.family ∈ unknownName :: knownFamilies)
    (ha : ∀ m ∈ c.machines, m.architecture ∈ architectureAliases.map (·.2)) : c.NamesToldApart := by
  refine namesToldApart_of_endFree (endFree_families.subset ?_) (endFree_architectures.subset ?_)
  · intro f hf'
    obtain ⟨m, hm, rfl⟩ := List.mem_map.1 hf'
    exact hf m hm
  · intro a ha'
    obtain ⟨m, hm, rfl⟩ := List.mem_map.1 ha'
    exact ha m hm

end Configuration

end NativeVariants
