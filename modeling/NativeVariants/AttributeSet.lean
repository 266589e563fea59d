import NativeVariants.Dimension

/-!
# Attribute sets

What a variant offers, as keys with values. A value is plain data or a member of one of the
enumerations; a member counts as equal to its name.
-/

namespace NativeVariants

inductive Attribute where
  | plain (v : Value)
  | linkage (l : Linkage)
  | usage (u : Usage)
  | kind (k : BinaryKind)
  deriving Repr, Inhabited

namespace Attribute

/-- The value as published: members of enumerations by their names. -/
def flatten : Attribute → Value
  | plain v => v
  | linkage l => .string l.name
  | usage u => .string u.name
  | kind k => .string k.name

/-- The name of a member of an enumeration. -/
def name? : Attribute → Option String
  | plain _ => none
  | linkage l => some l.name
  | usage u => some u.name
  | kind k => some k.name

/-- Whether two attributes compare as equal: values as such, a member with a text or another member by
its name. -/
def same : Attribute → Attribute → Bool
  | plain v, plain w => v.same w
  | plain (.string s), b | b, plain (.string s) => b.name? == some s
  | plain _, _ | _, plain _ => false
  | a, b => a.name? == b.name?

/-- Equality, as of values in a mapping: what is no number equals itself. -/
instance : BEq Attribute where
  beq
    | plain v, plain w => v == w
    | a, b => a.same b

end Attribute

structure AttributeSet where
  fields : Fields Attribute := []
  deriving Repr, Inhabited

namespace AttributeSet

/-- The set that a sequence of pairs leaves. -/
def ofList (pairs : List (String × Attribute)) : AttributeSet :=
  ⟨Fields.ofList pairs⟩

/-- Gives a key a value, in place of its value so far. -/
def set (key : String) (value : Attribute) (s : AttributeSet) : AttributeSet :=
  ⟨Fields.put key value s.fields⟩

def get? (s : AttributeSet) (key : String) : Option Attribute :=
  Fields.get? key s.fields

def contains (s : AttributeSet) (key : String) : Bool :=
  (s.get? key).isSome

def size (s : AttributeSet) : Nat :=
  s.fields.length

def isEmpty (s : AttributeSet) : Bool :=
  s.fields.isEmpty

/-- The keys in ascending order. -/
def keys (s : AttributeSet) : List String :=
  s.fields.keys.mergeSort fun a b => decide (a ≤ b)

/-- Every attribute as plain data, as published. -/
def asTable (s : AttributeSet) : Table :=
  s.fields.map fun (key, value) => (key, value.flatten)

/-- Whether every requested field is here with a value that compares as equal. -/
def offers (s : AttributeSet) (requested : Fields Attribute) : Bool :=
  requested.all fun (key, value) => (s.get? key).any (·.same value)

/-- What is published of a set, as fields that can be requested. -/
def published (s : AttributeSet) : Fields Attribute :=
  s.asTable.map fun (key, value) => (key, .plain value)

/-- Whether everything is offered that another set publishes. -/
def satisfies (s requested : AttributeSet) : Bool :=
  s.offers requested.published

/-- The same keys with equal values, in any order. -/
instance : BEq AttributeSet where
  beq s t := s.size == t.size && s.fields.all fun (key, value) => t.get? key == some value

/-- Fields as `key=value`, in the order of the keys. -/
def listing (fields : Table) : Except Failure String :=
  (fields.sorted.mapM spelt).map (String.intercalate ", ")
where
  spelt : String × Value → Except Failure String
    | (key, value) => value.text.map fun text => key ++ "=" ++ text

def text (s : AttributeSet) : Except Failure String :=
  (listing s.asTable).map fun fields => "AttributeSet(" ++ fields ++ ")"

end AttributeSet

end NativeVariants
