import NativeVariants.Logged

/-!
# Results of computations with a journal

What a computation ends in does not depend on what it writes: `result` turns each way of building
a computation into the same way of building its result. Every fact about results is read off these
equations, so no proof looks into the journal.
-/

namespace NativeVariants

theorem exists_of_isOk {α : Type} {x : Except Failure α} (h : x.isOk) : ∃ a, x = .ok a := by
  cases x with
  | error failure => cases h
  | ok a => exact ⟨a, rfl⟩

namespace Logged

variable {α β : Type}

theorem andThen_assoc {γ : Type} (x : Logged α) (f : α → Logged β) (g : β → Logged γ) :
    (x.andThen f).andThen g = x.andThen fun a => (f a).andThen g := by
  cases hx : x.result with
  | error failure => simp [andThen, hx]
  | ok a => cases hf : (f a).result <;> simp [andThen, hx, hf]

instance : LawfulMonad Logged :=
  LawfulMonad.mk' _
    (fun x => by
      show andThen x (fun a => ⟨.ok a, []⟩) = x
      obtain ⟨_ | _, _⟩ := x <;> simp [andThen])
    (fun a f => by show andThen ⟨.ok a, []⟩ f = f a; simp [andThen])
    (fun x f g => andThen_assoc x f g)

@[simp] theorem result_bind (x : Logged α) (f : α → Logged β) :
    (x >>= f).result = x.result.bind fun a => (f a).result := by
  cases h : x.result with
  | error failure => rw [bind_of_error f h]; rfl
  | ok a => rw [bind_of_ok f h]; rfl

@[simp] theorem result_andThen (x : Logged α) (f : α → Logged β) :
    (x.andThen f).result = x.result.bind fun a => (f a).result :=
  result_bind x f

@[simp] theorem result_map (f : α → β) (x : Logged α) : (f <$> x).result = x.result.map f := by
  rw [← bind_pure_comp, result_bind]
  cases x.result <;> rfl

@[simp] theorem result_write (level : Level) (message : String) :
    (write level message).result = .ok () := rfl

@[simp] theorem result_lift (result : Except Failure α) : (lift result).result = result := rfl

@[simp] theorem result_throw (failure : Failure) :
    (throw failure : Logged α).result = .error failure := rfl

/-- A computation on every item, none of which fails, yields what each of them yields. -/
theorem result_mapM {f : α → Logged β} {g : α → β} (hf : ∀ a, (f a).result = .ok (g a))
    (l : List α) : (l.mapM f).result = .ok (l.map g) := by
  induction l with
  | nil => rfl
  | cons a l ih => simp [List.mapM_cons, hf, ih, Except.bind, Except.map]

theorem bind_eq_ok_iff {x : Except Failure α} {f : α → Except Failure β} {b : β} :
    x.bind f = .ok b ↔ ∃ a, x = .ok a ∧ f a = .ok b := by
  cases x <;> simp [Except.bind]

theorem map_eq_ok_iff {x : Except Failure α} {f : α → β} {b : β} :
    x.map f = .ok b ↔ ∃ a, x = .ok a ∧ f a = b := by
  cases x <;> simp [Except.map]

end Logged

end NativeVariants
