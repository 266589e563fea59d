import NativeVariants.Journal

/-!
# Computations with a journal

A computation that writes journal entries as it goes and ends in a value or a failure. What was
written before a failure stays written.
-/

namespace NativeVariants

structure Logged (α : Type) where
  result : Except Failure α
  journal : List Entry := []

namespace Logged

variable {α β : Type}

/-- Goes on with the value, if there is one; the entries of both parts follow each other. -/
def andThen (x : Logged α) (f : α → Logged β) : Logged β :=
  match x.result with
  | .error failure => ⟨.error failure, x.journal⟩
  | .ok a => ⟨(f a).result, x.journal ++ (f a).journal⟩

instance : Monad Logged where
  pure a := ⟨.ok a, []⟩
  bind := andThen

instance : MonadExceptOf Failure Logged where
  throw failure := ⟨.error failure, []⟩
  tryCatch x handle :=
    match x.result with
    | .error failure => ⟨(handle failure).result, x.journal ++ (handle failure).journal⟩
    | .ok _ => x

def write (level : Level) (message : String) : Logged Unit :=
  ⟨.ok (), [⟨level, message, 0⟩]⟩

def lift (result : Except Failure α) : Logged α :=
  ⟨result, []⟩

instance : MonadLift (Except Failure) Logged := ⟨lift⟩

/-- Answers a failure in the journal instead of passing it on. -/
def guarded (x : Logged α) : Logged (Option α) :=
  match x.result with
  | .ok a => ⟨.ok (some a), x.journal⟩
  | .error failure => ⟨.ok none, x.journal ++ failure.answer⟩

@[simp] theorem result_pure (a : α) : (pure a : Logged α).result = .ok a := rfl

@[simp] theorem journal_pure (a : α) : (pure a : Logged α).journal = [] := rfl

theorem bind_of_ok {x : Logged α} {a : α} (f : α → Logged β) (h : x.result = .ok a) :
    x >>= f = ⟨(f a).result, x.journal ++ (f a).journal⟩ := by
  show andThen x f = _
  simp [andThen, h]

theorem bind_of_error {x : Logged α} {failure : Failure} (f : α → Logged β)
    (h : x.result = .error failure) : x >>= f = ⟨.error failure, x.journal⟩ := by
  show andThen x f = _
  simp [andThen, h]

end Logged

end NativeVariants
