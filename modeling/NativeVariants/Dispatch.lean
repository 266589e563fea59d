import NativeVariants.Identity
import NativeVariants.Registry

/-!
# Dispatch

From variants to calls of factories. The plan says, variant by variant, which factories are to be
called on a host; a run calls them in that order until one fails. Factories may change a state of
their own, so one that failed may succeed when it is called again.
-/

namespace NativeVariants

inductive DispatchStep (φ : Type) where
  /-- The variant is for another family than the host's. -/
  | skip (v : Variant)
  /-- No factory makes the kind that the variant asks for. -/
  | unserved (kind : BinaryKind) (v : Variant)
  | call (factory : φ) (v : Variant)

/-- Calls a factory for a variant. -/
abbrev Make (φ σ β : Type) := φ → Variant → σ → Except Failure β × σ

/-- What came of a run: the binaries or the first failure, the calls that were made, the entries
written, and the state that the factories are left in. -/
structure DispatchRun (φ σ β : Type) where
  result : Except Failure (List β)
  calls : List (φ × Variant)
  journal : List Entry
  state : σ

variable {φ σ β : Type}

/-- The steps for one variant on a host of the given family. A linkage asks for one factory;
without linkage every factory is called. -/
def Registry.steps (r : Registry φ) (host : String) (v : Variant) : List (DispatchStep φ) :=
  if v.combination.machine.family ≠ host then [.skip v]
  else
    match v.combination.linkage with
    | some linkage =>
      match r.select linkage.kind with
      | some factory => [.call factory v]
      | none => [.unserved linkage.kind v]
    | none => r.allFactories.map (.call · v)

/-- The steps for a variant whose linkage is given as a value, null for none: any other value only
matters on a host of the right family. -/
def Registry.stepsFor (r : Registry φ) (host : String) (v : Variant) (linkage : Value) :
    Except Failure (List (DispatchStep φ)) :=
  match linkage with
  | .null => .ok (r.steps host v)
  | linkage =>
    if v.combination.machine.family ≠ host then .ok [.skip v]
    else (Linkage.ofValue linkage).map fun l =>
      r.steps host { v with combination := { v.combination with linkage := some l } }

/-- The steps for all variants, in their order. -/
def Registry.plan (r : Registry φ) (host : String) (variants : List Variant) :
    List (DispatchStep φ) :=
  variants.flatMap (r.steps host)

namespace DispatchStep

/-- What a step without a call says. -/
def note? (host : String) : DispatchStep φ → Option String
  | skip v =>
    some s!"Skipping variant '{v.name}': targets {v.combination.machine.family}, host is {host}."
  | unserved kind v =>
    some s!"No factory registered for {kind.name}; variant '{v.name}' produces no binary."
  | call .. => none

def call? : DispatchStep φ → Option (φ × Variant)
  | call factory v => some (factory, v)
  | _ => none

end DispatchStep

/-- Takes the steps of a plan in order, up to the first call that fails. -/
def runSteps (make : Make φ σ β) (host : String) :
    List (DispatchStep φ) → σ → DispatchRun φ σ β
  | [], state => ⟨.ok [], [], [], state⟩
  | step :: rest, state =>
    match step with
    | .call factory v =>
      match make factory v state with
      | (.ok binary, state) =>
        let run := runSteps make host rest state
        { run with
          result := run.result.map (binary :: ·)
          calls := (factory, v) :: run.calls }
      | (.error failure, state) => ⟨.error failure, [(factory, v)], [], state⟩
    | step =>
      let run := runSteps make host rest state
      { run with
        journal := ((step.note? host).toList.map fun note => ⟨.debug, note, 0⟩) ++ run.journal }

end NativeVariants
