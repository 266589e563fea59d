import NativeVariants.Proofs.Builder
import NativeVariants.Proofs.SharedRegistries

/-!
# Declarations that are refused

A declaration is refused for a name that is none, or because priorities are compared that have no
order. Names are read before anything is stored, so the first kind of refusal changes nothing. A
factory is stored before priorities are compared, so it stays where they have no order
(`Registry.Leaves`), and its kind is `Stuck` from then on: every later factory of that kind is
refused as well, and stays too (`Registry.Stuck.registerAll`).
-/

namespace NativeVariants

variable {φ β : Type}

/-! ### Priorities without an order -/

theorem splitRun?_append_of_none {rs : List (Registration φ)} (h : splitRun? rs = none)
    (more : List (Registration φ)) : splitRun? (rs ++ more) = none := by
  induction rs with
  | nil => cases h
  | cons r rs ih =>
    cases rs with
    | nil => cases h
    | cons s rest =>
      simp only [splitRun?, List.cons_append] at h ih ⊢
      cases hb : s.priority.before? r.priority with
      | none => rfl
      | some less =>
        rw [hb] at h
        cases less with
        | true => cases h
        | false =>
          have hrest : splitRun? (s :: rest) = none := by
            cases hs : splitRun? (s :: rest) with
            | none => rfl
            | some parts =>
              rw [hs] at h
              cases h
          rw [ih hrest]
          rfl

/-- What comes behind the run is not looked at. -/
theorem splitRun?_append_of_some {rs run rest : List (Registration φ)}
    (h : splitRun? rs = some (run, rest)) (hrest : rest ≠ []) (more : List (Registration φ)) :
    splitRun? (rs ++ more) = some (run, rest ++ more) := by
  induction rs generalizing run with
  | nil =>
    cases h
    exact absurd rfl hrest
  | cons r rs ih =>
    cases rs with
    | nil =>
      cases h
      exact absurd rfl hrest
    | cons s tail =>
      simp only [splitRun?, List.cons_append] at h ih ⊢
      cases hb : s.priority.before? r.priority with
      | none =>
        rw [hb] at h
        cases h
      | some less =>
        rw [hb] at h
        cases less with
        | true =>
          cases h
          rfl
        | false =>
          cases hs : splitRun? (s :: tail) with
          | none =>
            rw [hs] at h
            cases h
          | some parts =>
            obtain ⟨run', rest'⟩ := parts
            rw [hs] at h
            cases h
            rw [ih hs]
            rfl

/-- Sorting never gets past priorities without an order. -/
theorem sortByPriority?_append_of_none {rs : List (Registration φ)}
    (h : sortByPriority? rs = none) (more : List (Registration φ)) :
    sortByPriority? (rs ++ more) = none := by
  unfold sortByPriority? at h ⊢
  cases hs : splitRun? rs with
  | none =>
    rw [splitRun?_append_of_none hs]
    rfl
  | some parts =>
    obtain ⟨run, rest⟩ := parts
    rw [hs] at h
    change rest.foldlM (fun sorted r => insertByPriority? r sorted) run = none at h
    have hrest : rest ≠ [] := by
      rintro rfl
      cases h
    rw [splitRun?_append_of_some hs hrest]
    change (rest ++ more).foldlM (fun sorted r => insertByPriority? r sorted) run = none
    rw [List.foldlM_append, h]
    rfl

/-! ### Registries -/

namespace Registry

/-- The registry with a factory behind all others of its kind. -/
def appended (r : Registry φ) (kind : BinaryKind) (factory : φ) (priority : Value) : Registry φ :=
  r.withRegistrations kind (r.registrations kind ++ [⟨priority, factory⟩])

/-- What a refused registration leaves: the registry as it was if the kind is none, and else the
registry with the factory. -/
inductive Leaves (r : Registry φ) (kind : Value) (factory : φ) (priority : Value) :
    Failure → Registry φ → Prop
  | unknown {failure : Failure} (h : BinaryKind.ofValue kind = .error failure) :
    Leaves r kind factory priority failure r
  | unordered {k : BinaryKind} (hk : BinaryKind.ofValue kind = .ok k)
    (h : sortByPriority? (r.registrations k ++ [⟨priority, factory⟩]) = none) :
    Leaves r kind factory priority .wrongType (r.appended k factory priority)

variable {r : Registry φ} {kind : Value} {k : BinaryKind} {factory : φ} {priority : Value}
  {failure : Failure}

theorem register_of_none (h : sortByPriority? (r.registrations k ++ [⟨priority, factory⟩]) = none) :
    r.register k factory priority = (.error .wrongType, r.appended k factory priority) := by
  simp only [register, h]
  rfl

theorem register_of_some {sorted : List (Registration φ)}
    (h : sortByPriority? (r.registrations k ++ [⟨priority, factory⟩]) = some sorted) :
    r.register k factory priority = (.ok (), r.withRegistrations k sorted) := by
  simp only [register, h]

theorem registerFor_of_kind (hk : BinaryKind.ofValue kind = .ok k) :
    r.registerFor kind factory priority = r.register k factory priority := by
  simp only [registerFor, hk]

/-- The factories of a kind cannot be sorted. -/
def Stuck (r : Registry φ) (k : BinaryKind) : Prop :=
  sortByPriority? (r.registrations k) = none

/-- The entries of a list that are for a kind, as they are registered. -/
def registrationsOf (k : BinaryKind) (entries : List (Value × φ × Value)) :
    List (Registration φ) :=
  entries.filterMap fun (kind, factory, priority) =>
    if BinaryKind.ofValue kind = .ok k then some ⟨priority, factory⟩ else none

theorem registrationsOf_append (k : BinaryKind) (entries entries' : List (Value × φ × Value)) :
    registrationsOf k (entries ++ entries') =
      registrationsOf k entries ++ registrationsOf k entries' :=
  List.filterMap_append

theorem registrationsOf_cons (k : BinaryKind) (kind : Value) (factory : φ) (priority : Value)
    (rest : List (Value × φ × Value)) :
    registrationsOf k ((kind, factory, priority) :: rest) =
      if BinaryKind.ofValue kind = .ok k then ⟨priority, factory⟩ :: registrationsOf k rest
      else registrationsOf k rest := by
  by_cases h : BinaryKind.ofValue kind = .ok k <;> simp [registrationsOf, h]

/-- A kind that is stuck refuses every factory and keeps it; the other kinds do not matter. -/
theorem Stuck.registerFor (h : r.Stuck k) (kind : Value) (factory : φ) (priority : Value) :
    (BinaryKind.ofValue kind = .ok k →
        (r.registerFor kind factory priority).1 = .error .wrongType) ∧
      (r.registerFor kind factory priority).2.registrations k =
        r.registrations k ++ registrationsOf k [(kind, factory, priority)] := by
  cases hk : BinaryKind.ofValue kind with
  | error failure => simp [Registry.registerFor, registrationsOf, hk]
  | ok k' =>
    rw [registerFor_of_kind hk]
    by_cases hkk : k' = k
    · subst hkk
      have hnone := sortByPriority?_append_of_none h [⟨priority, factory⟩]
      rw [register_of_none hnone]
      simp [registrationsOf, hk, appended]
    · have hkeep : (r.register k' factory priority).2.registrations k = r.registrations k := by
        unfold register
        dsimp only
        split <;> exact registrations_withRegistrations_of_ne _ _ hkk
      simp [registrationsOf, hk, hkk, hkeep]

/-- From then on factories stand in the order they were registered in, whatever their priorities,
and each one more is refused. -/
theorem Stuck.registerAll (h : r.Stuck k) (entries : List (Value × φ × Value)) :
    (r.registerAll entries).Stuck k ∧
      (r.registerAll entries).registrations k = r.registrations k ++ registrationsOf k entries := by
  induction entries generalizing r with
  | nil => exact ⟨h, (List.append_nil _).symm⟩
  | cons entry rest ih =>
    obtain ⟨kind, factory, priority⟩ := entry
    obtain ⟨-, hone⟩ := h.registerFor kind factory priority
    have hstuck : (r.registerFor kind factory priority).2.Stuck k := by
      rw [Stuck, hone]
      exact sortByPriority?_append_of_none h _
    -- the registry after one more factory is stuck as well, so the rest follows for it
    obtain ⟨hrun, hall⟩ := ih hstuck
    refine ⟨hrun, ?_⟩
    have hsplit : registrationsOf k ((kind, factory, priority) :: rest) =
        registrationsOf k [(kind, factory, priority)] ++ registrationsOf k rest :=
      registrationsOf_append k [(kind, factory, priority)] rest
    rw [hsplit, ← List.append_assoc, ← hone]
    exact hall

end Registry

/-! ### Builders -/

namespace Builder

/-- What a refused declaration leaves. -/
inductive Leaves (b : Builder φ β) : Declaration φ → Failure → Builder φ β → Prop
  | linkages {names : List Value} {required : Bool} {failure : Failure}
    (h : names.mapM Linkage.ofValue = .error failure) :
    Leaves b (.linkages names required) failure b
  | factory {kind priority : Value} {factory : φ} {failure : Failure} {registry : Registry φ}
    (h : b.registry.Leaves kind factory (givenPriority priority) failure registry) :
    Leaves b (.factory kind factory priority) failure { b with registry }

variable {b : Builder φ β} {d : Declaration φ} {failure : Failure}

/-- A registry with one executable, whose priority is a number. -/
def numbered : Registry String :=
  (({} : Registry String).registerFor (.string "executable") "first" (.int 0)).2

/-- A builder with the factory of `numbered`. -/
def settled : Builder String String :=
  { (ofComponent "tool" : Builder String String) with registry := numbered }

/-- A builder takes a missing priority for the general one, a registry does not. -/
example : (settled.declare (.factory (.string "executable") "second" .null)).1.result = .ok () ∧
    (numbered.registerFor (.string "executable") "second" .null).1 = .error .wrongType := by
  decide +kernel

end Builder

end NativeVariants
