import NativeVariants.Proofs.Naming

/-!
# Identities of variants

Identities are compared without their attributes, so their linkages only show in their names. Names
tell the variants for one machine apart (`Valid.eq_of_name_eq`), and variants for different machines
differ by their machines. So the identities of a valid configuration are pairwise unequal, also
where two machines give two variants one name.
-/

namespace NativeVariants

theorem VariantIdentity.beq_iff {a b : VariantIdentity} : (a == b) = true ↔
    a.name = b.name ∧ a.debuggable = b.debuggable ∧ a.optimized = b.optimized ∧
      a.machine = b.machine ∧ (a.link == b.link) = true ∧ (a.runtime == b.runtime) = true := by
  change (a.name == b.name && a.debuggable == b.debuggable && a.optimized == b.optimized &&
    a.machine == b.machine && a.link == b.link && a.runtime == b.runtime) = true ↔ _
  simp only [Bool.and_eq_true, beq_iff_eq, and_assoc]

namespace Configuration

variable {φ : Type} {c : Configuration φ} {x y : Combination}

theorem Valid.eq_of_machine_eq (h : c.Valid)
    (hx : x ∈ combinations c.buildTypes c.machines c.linkageDimension)
    (hy : y ∈ combinations c.buildTypes c.machines c.linkageDimension)
    (hm : x.machine = y.machine) (hn : (c.variantOf x).name = (c.variantOf y).name) : x = y := by
  obtain ⟨hb, hl⟩ := h.eq_of_name_eq hx hy (congrArg c.machineSuffix hm) hn
  cases x
  cases y
  subst hb hl hm
  rfl

theorem Valid.eq_of_identity_beq (h : c.Valid)
    (hx : x ∈ combinations c.buildTypes c.machines c.linkageDimension)
    (hy : y ∈ combinations c.buildTypes c.machines c.linkageDimension)
    (he : ((c.variantOf x).identity == (c.variantOf y).identity) = true) : x = y := by
  obtain ⟨hn, -, -, hm, -⟩ := VariantIdentity.beq_iff.1 he
  exact h.eq_of_machine_eq hx hy hm hn

/-- The variants of a valid configuration have pairwise unequal identities, whatever the build types
are called, and any two of them for one machine have different names. -/
theorem pairwise_identity_ne (h : c.validate = .ok ()) :
    ∃ all, c.identifyVariants.result = .ok all ∧
      all.Pairwise fun u v =>
        (u.identity == v.identity) = false ∧ (v.identity == u.identity) = false ∧
          (u.combination.machine = v.combination.machine → u.name ≠ v.name) := by
  have hv : c.Valid := validate_eq_ok_iff.1 h
  refine ⟨c.variants, hv.identifyVariants, ?_⟩
  rw [variants_eq_map, List.pairwise_map]
  have hd := nodup_combinations c.buildTypes c.machines c.linkageDimension
  refine hd.imp_of_mem fun {x y} hx hy hne => ⟨?_, ?_, ?_⟩
  · rw [Bool.eq_false_iff]
    intro he
    exact hne (hv.eq_of_identity_beq hx hy he)
  · rw [Bool.eq_false_iff]
    intro he
    exact hne (hv.eq_of_identity_beq hy hx he).symm
  · intro hm hn
    exact hne (hv.eq_of_machine_eq hx hy hm hn)

/-- Build types one of which is called like the other with its linkage, for machines whose tokens
are equal. -/
def shadowing : Configuration Unit :=
  { dashed with
    buildTypes := [⟨"debug", true, false⟩, ⟨"debugShared", true, false⟩]
    linkages := [.shared, .static] }

theorem pairwise_identity_ne_shadowing : shadowing.validate = .ok () ∧
    ∃ all, shadowing.identifyVariants.result = .ok all ∧
      all.Pairwise fun u v =>
        (u.identity == v.identity) = false ∧ (v.identity == u.identity) = false ∧
          (u.combination.machine = v.combination.machine → u.name ≠ v.name) :=
  have h : shadowing.validate = .ok () := by decide +kernel
  ⟨h, pairwise_identity_ne h⟩

end Configuration

end NativeVariants
