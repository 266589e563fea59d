import NativeVariants.Dimension

/-!
# Factories

Which factories make the binaries of each kind. Within a kind the factory of least priority comes
first, and of equal priorities the one registered earlier. Priorities are values; two of them need
not have an order, and then the kind stays unsorted from the newer one on. A float that is no number
precedes nothing and is preceded by nothing, so others stop where they meet it.
-/

namespace NativeVariants

/-- A factory that was registered, with its priority. -/
structure Registration (φ : Type) where
  priority : Value
  factory : φ
  deriving Inhabited

structure Registry (φ : Type) where
  sharedLibrary : List (Registration φ) := []
  staticLibrary : List (Registration φ) := []
  executable : List (Registration φ) := []
  deriving Inhabited

/-- The priority of a factory that is given none. -/
def genericPriority : Value := .int 100

/-- The priority of the factories made for a language. -/
def languagePriority : Value := .int 0

/-- The longest beginning in which no registration precedes the one before it, and the rest. -/
def splitRun? {φ : Type} :
    List (Registration φ) → Option (List (Registration φ) × List (Registration φ))
  | [] => some ([], [])
  | [r] => some ([r], [])
  | r :: s :: rest => do
    if ← s.priority.before? r.priority then return ([r], s :: rest)
    else
      let (run, rest) ← splitRun? (s :: rest)
      return (r :: run, rest)

/-- Puts a registration behind those that it does not precede, comparing it with the middle one
until no other is left. The fuel bounds how often what is left is cut in half. -/
def insertByPriority? {φ : Type} (r : Registration φ) (sorted : List (Registration φ)) :
    Option (List (Registration φ)) :=
  insertWithin? (sorted.length + 1) sorted
where
  insertWithin? : Nat → List (Registration φ) → Option (List (Registration φ))
    | 0, sorted => some (r :: sorted)
    | fuel + 1, sorted =>
      let half := sorted.length / 2
      match sorted.drop half with
      | [] => some [r]
      | middle :: back => do
        let front := sorted.take half
        if ← r.priority.before? middle.priority then
          return (← insertWithin? fuel front) ++ middle :: back
        else return front ++ middle :: (← insertWithin? fuel back)

/-- The registrations in the order of their priorities, equal ones in the order given. Only those
that are not in order yet are moved. -/
def sortByPriority? {φ : Type} (registrations : List (Registration φ)) :
    Option (List (Registration φ)) := do
  let (run, rest) ← splitRun? registrations
  rest.foldlM (fun sorted r => insertByPriority? r sorted) run

namespace Registry

variable {φ : Type}

def registrations (r : Registry φ) : BinaryKind → List (Registration φ)
  | .sharedLibrary => r.sharedLibrary
  | .staticLibrary => r.staticLibrary
  | .executable => r.executable

/-- Replaces the registrations of one kind. -/
def withRegistrations (r : Registry φ) (kind : BinaryKind) (rs : List (Registration φ)) :
    Registry φ :=
  match kind with
  | .sharedLibrary => { r with sharedLibrary := rs }
  | .staticLibrary => { r with staticLibrary := rs }
  | .executable => { r with executable := rs }

/-- Adds a factory. When priorities are compared that have no order the registration fails, and the
factory stays at the end. -/
def register (r : Registry φ) (kind : BinaryKind) (factory : φ)
    (priority : Value := genericPriority) : Except Failure Unit × Registry φ :=
  let all := r.registrations kind ++ [⟨priority, factory⟩]
  match sortByPriority? all with
  | some sorted => (.ok (), r.withRegistrations kind sorted)
  | none => (.error .wrongType, r.withRegistrations kind all)

/-- Adds a factory for the kind that a value names. -/
def registerFor (r : Registry φ) (kind : Value) (factory : φ)
    (priority : Value := genericPriority) : Except Failure Unit × Registry φ :=
  match BinaryKind.ofValue kind with
  | .ok kind => r.register kind factory priority
  | .error failure => (.error failure, r)

/-- Registers in turn, up to the first failure. -/
def ofEntries : List (Value × Value × φ) → Registry φ → Except Failure Unit × Registry φ
  | [], r => (.ok (), r)
  | (kind, priority, factory) :: rest, r =>
    match r.registerFor kind factory priority with
    | (.ok (), r) => ofEntries rest r
    | failed => failed

/-- The factories of a kind, preferred ones first. -/
def candidates (r : Registry φ) (kind : BinaryKind) : List φ :=
  (r.registrations kind).map (·.factory)

/-- The preferred factory of a kind. -/
def select (r : Registry φ) (kind : BinaryKind) : Option φ :=
  (r.candidates kind).head?

def kinds (r : Registry φ) : List BinaryKind :=
  BinaryKind.all.filter fun kind => !(r.registrations kind).isEmpty

def allFactories (r : Registry φ) : List φ :=
  r.kinds.flatMap r.candidates

def isEmpty (r : Registry φ) : Bool :=
  r.kinds.isEmpty

def size (r : Registry φ) : Nat :=
  BinaryKind.all.foldl (fun n kind => n + (r.registrations kind).length) 0

@[simp] theorem registrations_withRegistrations_self (r : Registry φ) (kind : BinaryKind)
    (rs : List (Registration φ)) : (r.withRegistrations kind rs).registrations kind = rs := by
  cases kind <;> rfl

theorem registrations_withRegistrations_of_ne (r : Registry φ) {kind other : BinaryKind}
    (rs : List (Registration φ)) (h : kind ≠ other) :
    (r.withRegistrations kind rs).registrations other = r.registrations other := by
  cases kind <;> cases other <;> first | rfl | contradiction

end Registry

end NativeVariants
