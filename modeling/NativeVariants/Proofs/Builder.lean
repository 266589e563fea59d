import NativeVariants.Proofs.Dispatch

/-!
# Reads of a builder

A first read of the variants or the binaries comes to what is declared then, and fills no other memo
than its own. Declarations fill none.
-/

namespace NativeVariants.Builder

variable {φ σ β : Type} {b : Builder φ β}

theorem memos_declare (b : Builder φ β) (d : Declaration φ) :
    (b.declare d).2.variants? = b.variants? ∧ (b.declare d).2.binaries? = b.binaries? := by
  unfold declare
  split
  · exact ⟨rfl, rfl⟩
  · cases d with
    | linkages names required =>
      unfold accept
      dsimp only
      split <;> exact ⟨rfl, rfl⟩
    | _ => exact ⟨rfl, rfl⟩

@[simp] theorem variants?_declare (b : Builder φ β) (d : Declaration φ) :
    (b.declare d).2.variants? = b.variants? := (b.memos_declare d).1

@[simp] theorem binaries?_declare (b : Builder φ β) (d : Declaration φ) :
    (b.declare d).2.binaries? = b.binaries? := (b.memos_declare d).2

/-- A read of the variants changes no more than their memo. -/
theorem variants_eq (b : Builder φ β) (project : Project) (host : Host) :
    (b.variants project host).2 =
      { b with variants? :=
        b.variants?.or (b.configuration project host).identifyVariants.result.toOption } := by
  unfold variants
  cases hv : b.variants? with
  | some variants => dsimp only; rw [Option.some_or, ← hv]
  | none =>
    dsimp only
    cases hr : (b.configuration project host).identifyVariants.result with
    | ok variants => rfl
    | error failure => rw [Option.none_or]; simp only [Except.toOption, ← hv]

/-- A read of the binaries changes no more than their memo. -/
theorem binaries_eq (make : Make φ σ β) (b : Builder φ β) (project : Project) (host : Host)
    (state : σ) :
    (b.binaries make project host state).2 =
      { b with binaries? :=
        b.binaries?.or ((b.configuration project host).build make state).result.toOption } := by
  unfold binaries
  cases hb : b.binaries? with
  | some binaries => dsimp only; rw [Option.some_or, ← hb]
  | none =>
    dsimp only
    cases hr : ((b.configuration project host).build make state).result with
    | ok binaries => rfl
    | error failure => rw [Option.none_or]; simp only [Except.toOption, ← hb]

/-- The first read of the variants identifies those that are declared. -/
theorem result_variants (hb : b.variants? = none) (project : Project) (host : Host) :
    (b.variants project host).1.result =
      (b.configuration project host).identifyVariants.result := by
  unfold variants
  rw [hb]
  dsimp only
  split <;> rfl

theorem result_binaries (hb : b.binaries? = none) (make : Make φ σ β) (project : Project)
    (host : Host) (state : σ) :
    (b.binaries make project host state).1.result =
      ((b.configuration project host).build make state).result := by
  unfold binaries
  rw [hb]
  dsimp only
  split <;> rfl

/-- The variants that a read gives are kept. -/
theorem variants?_of_result {variants : List Variant} {project : Project} {host : Host}
    (h : (b.variants project host).1.result = .ok variants) :
    (b.variants project host).2.variants? = some variants := by
  rw [variants_eq]
  cases hkept : b.variants? with
  | some kept =>
    have hr : (b.variants project host).1.result = .ok kept := by
      rw [Builder.variants, hkept]
      rfl
    rw [hr] at h
    rw [Option.some_or, Except.ok.inj h]
  | none =>
    rw [result_variants hkept] at h
    rw [h]
    rfl

/-- The binaries that a read gives are kept. -/
theorem binaries?_of_result {make : Make φ σ β} {binaries : List β} {project : Project}
    {host : Host} {state : σ} (h : (b.binaries make project host state).1.result = .ok binaries) :
    (b.binaries make project host state).2.binaries? = some binaries := by
  rw [binaries_eq]
  cases hkept : b.binaries? with
  | some kept =>
    have hr : (b.binaries make project host state).1.result = .ok kept := by
      rw [Builder.binaries, hkept]
    rw [hr] at h
    rw [Option.some_or, Except.ok.inj h]
  | none =>
    rw [result_binaries hkept] at h
    rw [h]
    rfl

/-- A family of hosts that is declared is kept. -/
theorem hostFamily_configuration {family : String} (h : b.hostFamily = some family)
    (hf : family ≠ "") (project : Project) (host : Host) :
    (b.configuration project host).hostFamily = family := by
  simp only [configuration, h]

end NativeVariants.Builder
