import Mathlib.Data.List.Forall2
import NativeVariants.Proofs.Configuration

/-!
# Order and repetition

A combination, its name and its attributes depend on which values a dimension has, not on the order
or the number of times in which they are given: products of equal sets are permutations of each
other (`combinations_perm`) and suffixes are equal (`dimensionSuffix_congr`). So configurations over
equal sets are identified alike, if both or none of them lack something that they require and both
or none repeat a build type, which is refused. A builder drops repetitions before it gives its
configuration, so what is declared to it may be repeated at will.
-/

namespace NativeVariants

/-- Lists with the same values, in any order and number. -/
def SameValues {α : Type} (l l' : List α) : Prop :=
  ∀ a, a ∈ l ↔ a ∈ l'

namespace SameValues

variable {α γ : Type} {l l' : List α}

instance [DecidableEq α] (l l' : List α) : Decidable (SameValues l l') :=
  decidable_of_iff ((∀ a ∈ l, a ∈ l') ∧ ∀ a ∈ l', a ∈ l)
    ⟨fun h a => ⟨h.1 a, h.2 a⟩, fun h => ⟨fun a => (h a).1, fun a => (h a).2⟩⟩

theorem symm (h : SameValues l l') : SameValues l' l :=
  fun a => (h a).symm

theorem map (f : α → γ) (h : SameValues l l') : SameValues (l.map f) (l'.map f) := by
  intro c
  simp only [List.mem_map, h _]

theorem eq_nil_iff (h : SameValues l l') : l = [] ↔ l' = [] := by
  simp only [List.eq_nil_iff_forall_not_mem, h _]

section
variable [BEq α] [LawfulBEq α]

theorem eraseDups (h : SameValues l l') : SameValues l.eraseDups l'.eraseDups := by
  intro a
  rw [List.mem_eraseDups, List.mem_eraseDups]
  exact h a

theorem eraseDups_perm (h : SameValues l l') : l.eraseDups.Perm l'.eraseDups :=
  (List.perm_ext_iff_of_nodup (nodup_eraseDups l) (nodup_eraseDups l')).2 h.eraseDups

theorem distinctOr (missing : α) (h : SameValues l l') :
    SameValues (distinctOr missing l) (distinctOr missing l') := by
  by_cases hn : l = []
  · rw [hn, h.eq_nil_iff.1 hn]
    exact fun a => Iff.rfl
  · rw [distinctOr_of_ne_nil missing hn, distinctOr_of_ne_nil missing (mt h.eq_nil_iff.2 hn)]
    exact h.eraseDups

end

theorem nodup_map_iff {f : α → γ} (h : SameValues l l') (hl : l.Nodup) (hl' : l'.Nodup) :
    (l.map f).Nodup ↔ (l'.map f).Nodup :=
  (((List.perm_ext_iff_of_nodup hl hl').2 h).map f).nodup_iff

end SameValues

theorem dimensionSuffix_congr {α : Type} [BEq α] [LawfulBEq α] (name : α → String)
    (value : Option α) {values values' : List (Option α)} (h : SameValues values values') :
    dimensionSuffix name value values = dimensionSuffix name value values' := by
  cases value with
  | none => rfl
  | some value =>
    have hlen : values.eraseDups.length = values'.eraseDups.length := h.eraseDups_perm.length_eq
    simp only [dimensionSuffix, hlen]

theorem combinations_perm {buildTypes buildTypes' : List BuildType}
    {machines machines' : List Machine} {linkages linkages' : List (Option Linkage)}
    (hb : SameValues buildTypes buildTypes') (hm : SameValues machines machines')
    (hl : SameValues linkages linkages') :
    (combinations buildTypes machines linkages).Perm
      (combinations buildTypes' machines' linkages') := by
  -- neither product has repetitions, so equal members are enough
  rw [List.perm_ext_iff_of_nodup (nodup_combinations ..) (nodup_combinations ..)]
  intro x
  rw [mem_combinations, mem_combinations, hb.eraseDups, hm.eraseDups, hl.distinctOr none]

/-- Variants that differ at most in what their component is called. -/
structure Variant.Alike (u v : Variant) : Prop where
  name : u.name = v.name
  debuggable : u.identity.debuggable = v.identity.debuggable
  optimized : u.identity.optimized = v.identity.optimized
  machine : u.identity.machine = v.identity.machine
  /-- The names, the usages and the attributes of all contexts. -/
  contexts : u.identity.contexts = v.identity.contexts
  /-- The build type, the machine and the linkage. -/
  combination : u.combination = v.combination

namespace Configuration

variable {φ : Type} {c d : Configuration φ}

/-- Either both configurations are refused, or the variants of one are those of the other in some
order. -/
def IdentifiedAlike (c d : Configuration φ) : Prop :=
  ((∃ fault, c.identifyVariants.result = .error (.configuration fault)) ∧
      ∃ fault, d.identifyVariants.result = .error (.configuration fault)) ∨
    ∃ us vs, c.identifyVariants.result = .ok us ∧ d.identifyVariants.result = .ok vs ∧
      ∃ reordered, reordered.Perm vs ∧ List.Forall₂ Variant.Alike us reordered

/-- Dimensions with the same values. Machines are compared as they are folded, whatever their
spelling. -/
structure SameSets (c d : Configuration φ) : Prop where
  buildTypes : SameValues c.buildTypes d.buildTypes
  machines : SameValues c.machines d.machines
  linkages : SameValues c.linkages d.linkages

/-- Whether a linkage or a factory that the configuration requires is missing. -/
def Lacking (c : Configuration φ) : Prop :=
  (c.requireLinkage = true ∧ c.linkages = []) ∨
    (c.requireFactory = true ∧ c.registry.isEmpty = true)

theorem Valid.not_lacking (h : c.Valid) : ¬ c.Lacking := by
  rintro (⟨hr, hl⟩ | ⟨hr, hf⟩)
  · exact h.linkages hr hl
  · rw [h.factories hr] at hf
    cases hf

theorem SameSets.symm (h : c.SameSets d) : d.SameSets c :=
  ⟨h.buildTypes.symm, h.machines.symm, h.linkages.symm⟩

theorem SameSets.linkageDimension (h : c.SameSets d) :
    SameValues c.linkageDimension d.linkageDimension :=
  h.linkages.map some

theorem SameSets.alike_variantOf (h : c.SameSets d) (x : Combination) :
    (c.variantOf x).Alike (d.variantOf x) := by
  have hfamily := dimensionSuffix_congr id (some x.machine.family)
    (h.machines.map fun m => some m.family)
  have harchitecture := dimensionSuffix_congr id (some x.machine.architecture)
    (h.machines.map fun m => some m.architecture)
  have hlinkage := dimensionSuffix_congr Linkage.name x.linkage h.linkageDimension
  have hname : variantName x c.machines c.linkageDimension =
      variantName x d.machines d.linkageDimension := by
    rw [variantName, variantName, hlinkage, hfamily, harchitecture]
  refine ⟨hname, rfl, rfl, rfl, ?_, rfl⟩
  simp only [variantOf, identityOf, VariantIdentity.contexts, hname]

theorem SameSets.variants_perm (h : c.SameSets d) :
    ∃ reordered, reordered.Perm d.variants ∧ List.Forall₂ Variant.Alike c.variants reordered := by
  refine ⟨(combinations c.buildTypes c.machines c.linkageDimension).map d.variantOf, ?_, ?_⟩
  · rw [variants_eq_map]
    exact (combinations_perm h.buildTypes h.machines h.linkageDimension).map d.variantOf
  · rw [variants_eq_map, List.forall₂_map_left_iff, List.forall₂_map_right_iff, List.forall₂_same]
    exact fun x _ => h.alike_variantOf x

theorem SameSets.valid (h : c.SameSets d) (hl : c.Lacking ↔ d.Lacking)
    (hn : c.buildTypes.Nodup ↔ d.buildTypes.Nodup) (hv : c.Valid) : d.Valid where
  buildTypes := mt h.buildTypes.eq_nil_iff.2 hv.buildTypes
  names := by
    -- a repeated build type repeats its name, so both lists must be free of repetitions to compare
    have hc : c.buildTypes.Nodup := hv.names.of_map
    exact (h.buildTypes.nodup_map_iff hc (hn.1 hc)).1 hv.names
  machines := mt h.machines.eq_nil_iff.2 hv.machines
  linkages hr hnil := hv.not_lacking (hl.2 (.inl ⟨hr, hnil⟩))
  factories hr := by
    rw [← Bool.not_eq_true]
    intro hnone
    exact hv.not_lacking (hl.2 (.inr ⟨hr, hnone⟩))

theorem SameSets.valid_iff (h : c.SameSets d) (hl : c.Lacking ↔ d.Lacking)
    (hn : c.buildTypes.Nodup ↔ d.buildTypes.Nodup) : c.Valid ↔ d.Valid :=
  ⟨h.valid hl hn, h.symm.valid hl.symm hn.symm⟩

theorem identifiedAlike_of_valid_iff (h : c.SameSets d) (hv : c.Valid ↔ d.Valid) :
    c.IdentifiedAlike d := by
  by_cases hc : c.Valid
  · exact .inr ⟨_, _, hc.identifyVariants, (hv.1 hc).identifyVariants, h.variants_perm⟩
  · exact .inl ⟨identifyVariants_of_not_valid hc, identifyVariants_of_not_valid (mt hv.2 hc)⟩

theorem IdentifiedAlike.valid_iff (h : c.IdentifiedAlike d) : c.Valid ↔ d.Valid := by
  have refused {e : Configuration φ} {fault : ConfigurationFault}
      (he : e.identifyVariants.result = .error (.configuration fault)) : ¬ e.Valid := by
    intro hv
    rw [hv.identifyVariants] at he
    cases he
  rcases h with ⟨⟨_, hc⟩, _, hd⟩ | ⟨_, _, hc, hd, -⟩
  · exact iff_of_false (refused hc) (refused hd)
  · exact iff_of_true (identifyVariants_eq_ok_iff.1 hc).1 (identifyVariants_eq_ok_iff.1 hd).1

/-- The configuration without repetitions. -/
def distinct (c : Configuration φ) : Configuration φ :=
  { c with
    buildTypes := c.buildTypes.eraseDups
    machines := c.machines.eraseDups
    linkages := c.linkages.eraseDups }

theorem lacking_distinct : c.distinct.Lacking ↔ c.Lacking := by
  simp only [Lacking, distinct, eraseDups_eq_nil_iff]

theorem SameSets.identifiedAlike_distinct (h : c.SameSets d) (hl : c.Lacking ↔ d.Lacking) :
    c.distinct.IdentifiedAlike d.distinct := by
  have hs : c.distinct.SameSets d.distinct :=
    ⟨h.buildTypes.eraseDups, h.machines.eraseDups, h.linkages.eraseDups⟩
  have hn : c.distinct.buildTypes.Nodup ↔ d.distinct.buildTypes.Nodup :=
    iff_of_true (nodup_eraseDups _) (nodup_eraseDups _)
  refine identifiedAlike_of_valid_iff hs (hs.valid_iff ?_ hn)
  rw [lacking_distinct, lacking_distinct]
  exact hl

end Configuration

namespace Builder

variable {φ β : Type} {b b' : Builder φ β} {project project' : Project} {host host' : Host}

/-- What is declared, with its repetitions. -/
def declared (b : Builder φ β) (project : Project) (host : Host) : Configuration φ :=
  { b.configuration project host with
    buildTypes := b.buildTypes
    machines := b.machines
    linkages := b.linkages }

theorem configuration_eq_distinct (b : Builder φ β) (project : Project) (host : Host) :
    b.configuration project host = (b.declared project host).distinct := rfl

/-- The order and the repetition of declarations do not matter, nor do the project and the host. -/
theorem identifiedAlike_configuration
    (h : (b.declared project host).SameSets (b'.declared project' host'))
    (hl : (b.declared project host).Lacking ↔ (b'.declared project' host').Lacking) :
    (b.configuration project host).IdentifiedAlike (b'.configuration project' host') := by
  rw [configuration_eq_distinct, configuration_eq_distinct]
  exact h.identifiedAlike_distinct hl

end Builder

namespace Configuration

variable {φ : Type} {c d : Configuration φ}

/-- Configurations over the same values, both or none of which lack something, are identified alike
once repetitions are dropped, and also with their repetitions if both or none of them repeat a build
type. -/
theorem identifiedAlike_of_sameSets (h : c.SameSets d) (hl : c.Lacking ↔ d.Lacking) :
    c.distinct.IdentifiedAlike d.distinct ∧
      ((c.buildTypes.Nodup ↔ d.buildTypes.Nodup) → c.IdentifiedAlike d) := by
  refine ⟨h.identifiedAlike_distinct hl, fun hn => ?_⟩
  exact identifiedAlike_of_valid_iff h (h.valid_iff hl hn)

/-- A library for two machines, both of them written twice. -/
def repeating : Configuration Unit where
  component := "library"
  buildTypes := [BuildType.debug, BuildType.release, BuildType.debug]
  machines := [.ofNames "Darwin" "AArch64", .ofNames "linux" "x86-64", .ofNames " osx" "arm64",
    .ofNames "linux" "amd64"]
  linkages := [.shared, .static]
  names := ⟨.undefined none, .undefined none, .undefined none⟩
  registry := {}
  hostFamily := "linux"
  requireLinkage := true
  requireFactory := false

/-- The same library with its values in another order, machines in another spelling. -/
def reordered : Configuration Unit :=
  { repeating with
    buildTypes := [BuildType.release, BuildType.debug]
    machines := [.ofNames "Linux" "x64", .ofNames "macos" "arm-v8"]
    linkages := [.static, .shared, .static] }

theorem identifiedAlike_of_sameSets_reordered :
    repeating.SameSets reordered ∧ (repeating.Lacking ↔ reordered.Lacking) ∧
      repeating.distinct.IdentifiedAlike reordered.distinct ∧
        ((repeating.buildTypes.Nodup ↔ reordered.buildTypes.Nodup) →
          repeating.IdentifiedAlike reordered) :=
  have hs : repeating.SameSets reordered :=
    ⟨by decide +kernel, by decide +kernel, by decide +kernel⟩
  have hl : repeating.Lacking ↔ reordered.Lacking :=
    iff_of_false (by simp [Lacking, repeating]) (by simp [Lacking, reordered, repeating])
  ⟨hs, hl, identifiedAlike_of_sameSets hs hl⟩

/-- A component without linkages, for one machine. -/
def unlinked : Configuration Unit :=
  { repeating with
    component := "component"
    buildTypes := BuildType.defaults
    machines := [⟨"linux", "x86-64"⟩]
    linkages := []
    requireLinkage := false }

/-- Equal sets alone do not do: one of two configurations over them may require a linkage that is
not there. Nor do they if both have what they require, as one of them may repeat a build type. -/
theorem not_identifiedAlike_of_sameSets :
    (¬ ∀ c d : Configuration Unit, c.SameSets d → c.IdentifiedAlike d) ∧
      ¬ ∀ c d : Configuration Unit, c.SameSets d → (c.Lacking ↔ d.Lacking) →
        c.IdentifiedAlike d := by
  have hv : unlinked.Valid := validate_eq_ok_iff.1 (by decide +kernel)
  refine ⟨fun h => ?_, fun h => ?_⟩
  · have hs : unlinked.SameSets { unlinked with requireLinkage := true } :=
      ⟨fun _ => Iff.rfl, fun _ => Iff.rfl, fun _ => Iff.rfl⟩
    exact ((h _ _ hs).valid_iff.1 hv).linkages rfl rfl
  · have hs : unlinked.SameSets
        { unlinked with buildTypes := BuildType.release :: BuildType.defaults } :=
      ⟨by decide +kernel, fun _ => Iff.rfl, fun _ => Iff.rfl⟩
    have hnames := ((h _ _ hs Iff.rfl).valid_iff.1 hv).names
    exact absurd hnames (by decide)

end Configuration

end NativeVariants
