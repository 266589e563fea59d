import NativeVariants.Builder
import NativeVariants.Proofs.Distinct
import NativeVariants.Proofs.Logged

/-!
# Valid configurations

`Configuration.Valid` says what a configuration needs to be built; `validate` succeeds exactly then
and fails with a configuration fault otherwise. A valid configuration is expanded into its
`variants`, one for each combination.
-/

namespace NativeVariants.Configuration

variable {φ : Type} {c : Configuration φ}

structure Valid (c : Configuration φ) : Prop where
  buildTypes : c.buildTypes ≠ []
  names : (c.buildTypes.map (·.name)).Nodup
  machines : c.machines ≠ []
  linkages : c.requireLinkage = true → c.linkages ≠ []
  factories : c.requireFactory = true → c.registry.isEmpty = false

theorem repeatedName?_eq_none_iff {buildTypes : List BuildType} :
    repeatedName? buildTypes = none ↔ (buildTypes.map (·.name)).Nodup := by
  simp only [repeatedName?, List.find?_eq_none, decide_eq_true_eq, Nat.not_lt]
  rw [List.nodup_iff_count_le_one]
  refine ⟨fun h name => ?_, fun h name _ => h name⟩
  by_cases hn : name ∈ buildTypes.map (·.name)
  · exact h name hn
  · rw [List.count_eq_zero_of_not_mem hn]; exact Nat.zero_le 1

theorem fault?_eq_none_iff : c.fault? = none ↔ c.Valid := by
  have hr : repeatedName? c.buildTypes = none ↔ _ := repeatedName?_eq_none_iff
  unfold fault?
  constructor
  · intro h
    cases hn : repeatedName? c.buildTypes with
    | some name => simp only [hn] at h; split_ifs at h
    | none =>
      simp only [hn] at h
      split_ifs at h with hb hm hl hf
      exact ⟨by simpa using hb, hr.1 hn, by simpa using hm, by simpa using hl, by simpa using hf⟩
  · intro h
    rw [if_neg (by simpa using h.buildTypes), hr.2 h.names]
    show (if c.machines.isEmpty then _ else _) = none
    rw [if_neg (by simpa using h.machines), if_neg (by simpa using h.linkages),
      if_neg (by simpa using h.factories)]

theorem validate_eq_ok_iff : c.validate = .ok () ↔ c.Valid := by
  rw [← fault?_eq_none_iff, validate]
  cases c.fault? <;> simp

/-- A configuration that is not valid is refused for a fault of its own. -/
theorem validate_of_not_valid (h : ¬ c.Valid) :
    ∃ fault, c.validate = .error (.configuration fault) := by
  rw [← fault?_eq_none_iff] at h
  obtain ⟨fault, hf⟩ := Option.ne_none_iff_exists'.1 h
  exact ⟨fault, by simp [validate, hf]⟩

/-- The combination under its identity among the variants of `c`. -/
def variantOf (c : Configuration φ) (combination : Combination) : Variant :=
  ⟨identityOf combination c.machines c.linkageDimension c.names, combination⟩

theorem variants_eq_map (c : Configuration φ) :
    c.variants = (combinations c.buildTypes c.machines c.linkageDimension).map c.variantOf := rfl

/-- The variants depend on the dimensions and on the names of the component alone. -/
theorem variants_congr {ψ : Type} {d : Configuration ψ} (hb : c.buildTypes = d.buildTypes)
    (hm : c.machines = d.machines) (hl : c.linkages = d.linkages) (hn : c.names = d.names) :
    c.variants = d.variants := by
  have hdimension : c.linkageDimension = d.linkageDimension := by
    rw [linkageDimension, linkageDimension, hl]
  rw [variants_eq_map, variants_eq_map, hb, hm, hdimension]
  refine List.map_congr_left fun x _ => ?_
  rw [variantOf, variantOf, hm, hdimension, hn]

@[simp] theorem map_combination_variants (c : Configuration φ) :
    c.variants.map (·.combination) = combinations c.buildTypes c.machines c.linkageDimension := by
  simp [variants_eq_map, Function.comp_def, variantOf]

theorem mem_variants {v : Variant} :
    v ∈ c.variants ↔
      v.combination ∈ combinations c.buildTypes c.machines c.linkageDimension ∧
        v = c.variantOf v.combination := by
  rw [variants_eq_map, List.mem_map]
  constructor
  · rintro ⟨combination, h, rfl⟩; exact ⟨h, rfl⟩
  · rintro ⟨h, hv⟩; exact ⟨_, h, hv.symm⟩

/-- Without linkages no variant has one. -/
theorem linkage_eq_none {v : Variant} (hv : v ∈ c.variants) (h : c.linkages = []) :
    v.combination.linkage = none := by
  have hl := (mem_combinations.1 (mem_variants.1 hv).1).2.2
  simpa [linkageDimension, h, distinctOr] using hl

/-- With linkages every variant has one of them. -/
theorem exists_linkage {v : Variant} (hv : v ∈ c.variants) (h : c.linkages ≠ []) :
    ∃ l ∈ c.linkages, v.combination.linkage = some l := by
  have hl := (mem_combinations.1 (mem_variants.1 hv).1).2.2
  rw [distinctOr_of_ne_nil _ (by simpa [linkageDimension] using h), List.mem_eraseDups,
    linkageDimension, List.mem_map] at hl
  obtain ⟨l, hl, heq⟩ := hl
  exact ⟨l, hl, heq.symm⟩

/-- Variants are identified if the configuration is valid, and refused as `validate` does if not. -/
@[simp] theorem result_identifyVariants (c : Configuration φ) :
    c.identifyVariants.result = c.validate.map fun _ => c.variants := by
  simp only [identifyVariants, Logged.result_bind, Logged.result_lift, expand, Logged.result_write,
    Logged.result_pure, Except.bind]
  cases c.validate with
  | error failure => rfl
  | ok _ => exact Logged.result_mapM (fun combination => rfl) _

theorem Valid.identifyVariants (h : c.Valid) : c.identifyVariants.result = .ok c.variants := by
  simp [validate_eq_ok_iff.2 h, Except.map]

theorem identifyVariants_of_not_valid (h : ¬ c.Valid) :
    ∃ fault, c.identifyVariants.result = .error (.configuration fault) := by
  obtain ⟨fault, hf⟩ := validate_of_not_valid h
  exact ⟨fault, by simp [hf, Except.map]⟩

theorem identifyVariants_eq_ok_iff {all : List Variant} :
    c.identifyVariants.result = .ok all ↔ c.Valid ∧ all = c.variants := by
  constructor
  · intro h
    by_cases hv : c.Valid
    · rw [hv.identifyVariants] at h
      exact ⟨hv, (Except.ok.inj h).symm⟩
    · obtain ⟨fault, hf⟩ := identifyVariants_of_not_valid hv
      rw [hf] at h
      cases h
  · rintro ⟨hv, rfl⟩
    exact hv.identifyVariants

end NativeVariants.Configuration
