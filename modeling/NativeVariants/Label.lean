import NativeVariants.Value

/-!
# Labels

Values that things are called by. A label has a literal and so a text: a value that cannot be spelt is
refused where it is given.
-/

namespace NativeVariants

structure Label where
  value : Value
  literal : String
  literal_eq : value.literal = .ok literal
  deriving Repr

namespace Label

def string (s : String) : Label :=
  ⟨.string s, Text.quote s, rfl⟩

instance : Inhabited Label := ⟨string ""⟩

def ofValue (v : Value) : Except Failure Label :=
  match h : v.literal with
  | .ok literal => .ok ⟨v, literal, h⟩
  | .error failure => .error failure

/-- What a message shows of a label. -/
def text (l : Label) : String :=
  match l.value with
  | .string s => s
  | .moment m => m.text
  | _ => l.literal

theorem text_eq (l : Label) : l.value.text = .ok l.text := by
  rcases l with ⟨v, literal, h⟩
  cases v with
  | string s => rfl
  | moment m => rfl
  | _ => exact h

end Label

end NativeVariants
