import NativeVariants.Failure
import NativeVariants.Fields
import NativeVariants.Moment
import NativeVariants.Number.Shortest

/-!
# Values

The value trees that settings are made of: scalars, lists, and tables whose keys keep the order in
which they were first given. A value has a truth, an equality under which booleans and numbers of both
kinds agree when they are the same number, and, unless a number in it is too long, a text (what a
message shows of it) and a literal (how it is spelt inside a list).
-/

namespace NativeVariants

inductive Value where
  | null
  | bool (b : Bool)
  | int (n : Int)
  | float (x : Binary64)
  | moment (m : Moment)
  | string (s : String)
  | list (items : List Value)
  | table (fields : List (String × Value))
  deriving Repr, Inhabited

/-- A table as its fields, in order. -/
abbrev Table := Fields Value

namespace Value

def string? : Value → Option String
  | .string s => some s
  | _ => none

/-- The number that a scalar stands for, counted in the smallest positive binary64 number. -/
def units? : Value → Option Int
  | .bool b => some (Binary64.unitsOfInt (if b then 1 else 0))
  | .int n => some (Binary64.unitsOfInt n)
  | .float x => x.units
  | _ => none

/-- Whether both are the float that is no number. -/
def bothNotANumber (v w : Value) : Bool :=
  v matches .float .notANumber && w matches .float .notANumber

mutual

/-- Comparison: numbers and booleans by the number they are, texts by identity, moments by when they
are, lists item by item, tables key by key in any order. What is no number differs even from itself, but
not inside lists and tables. -/
def same : Value → Value → Bool
  | .null, .null => true
  | .string s, .string t => s == t
  | .moment m, .moment n => m.same n
  | .list xs, .list ys => sameItems xs ys
  | .table fs, .table gs => fs.length == gs.length && sameFields fs gs
  | .float (.infinity s), .float (.infinity t) => s == t
  | .bool b, w => (Value.bool b).sameNumber w
  | .int n, w => (Value.int n).sameNumber w
  | .float x, w => (Value.float x).sameNumber w
  | _, _ => false

/-- Whether two scalars are the same number. -/
def sameNumber (v w : Value) : Bool :=
  match v.units?, w.units? with
  | some a, some b => a == b
  | _, _ => false

def sameItems : List Value → List Value → Bool
  | [], [] => true
  | x :: xs, y :: ys => (bothNotANumber x y || same x y) && sameItems xs ys
  | _, _ => false

/-- Whether every field on the left has an equal value on the right. -/
def sameFields : List (String × Value) → List (String × Value) → Bool
  | [], _ => true
  | (k, v) :: rest, gs =>
    (match Fields.get? k gs with
      | some w => bothNotANumber v w || same v w
      | none => false) && sameFields rest gs

end

/-- Equality, as of the items of lists: every value equals itself. -/
def agrees (v w : Value) : Bool :=
  bothNotANumber v w || same v w

instance : BEq Value := ⟨agrees⟩

mutual

/-- Whether two values are the same in every respect: in the kinds of their numbers, in the order of
their keys. -/
def identical : Value → Value → Bool
  | .null, .null => true
  | .bool b, .bool c => b == c
  | .int m, .int n => m == n
  | .float x, .float y => x == y
  | .moment m, .moment n => m == n
  | .string s, .string t => s == t
  | .list xs, .list ys => identicalItems xs ys
  | .table fs, .table gs => identicalFields fs gs
  | _, _ => false

def identicalItems : List Value → List Value → Bool
  | [], [] => true
  | x :: xs, y :: ys => identical x y && identicalItems xs ys
  | _, _ => false

def identicalFields : List (String × Value) → List (String × Value) → Bool
  | [], [] => true
  | (k, v) :: fs, (l, w) :: gs => k == l && identical v w && identicalFields fs gs
  | _, _ => false

end

mutual

theorem identical_iff : ∀ {v w : Value}, identical v w = true ↔ v = w
  | .null, w => by cases w <;> simp [identical]
  | .bool b, w => by cases w <;> simp [identical]
  | .int m, w => by cases w <;> simp [identical]
  | .float x, w => by cases w <;> simp [identical]
  | .moment m, w => by cases w <;> simp [identical]
  | .string s, w => by cases w <;> simp [identical]
  | .list xs, w => by cases w <;> simp [identical, identicalItems_iff]
  | .table fs, w => by cases w <;> simp [identical, identicalFields_iff]

theorem identicalItems_iff : ∀ {xs ys : List Value}, identicalItems xs ys = true ↔ xs = ys
  | [], ys => by cases ys <;> simp [identicalItems]
  | x :: xs, ys => by cases ys <;> simp [identicalItems, identical_iff, identicalItems_iff]

theorem identicalFields_iff : ∀ {fs gs : List (String × Value)},
    identicalFields fs gs = true ↔ fs = gs
  | [], gs => by cases gs <;> simp [identicalFields]
  | (k, v) :: fs, gs => by
    rcases gs with _ | ⟨⟨l, w⟩, gs⟩ <;>
      simp [identicalFields, identical_iff, identicalFields_iff]

end

instance : DecidableEq Value := fun _ _ => decidable_of_iff _ identical_iff

/-- Empty texts and containers, zero, false and null count as false; all else as true. -/
def truthy : Value → Bool
  | .null => false
  | .bool b => b
  | .int n => n ≠ 0
  | .float x => !x.isZero
  | .moment _ => true
  | .string s => !s.isEmpty
  | .list items => !items.isEmpty
  | .table fields => !fields.isEmpty

/-- Items between brackets, separated by commas. -/
def bracketed (opening closing : String) (items : List String) : String :=
  opening ++ String.intercalate ", " items ++ closing

/-- The constructor call that a moment is spelt by inside lists. -/
def momentLiteral : Moment → String
  | .date d => s!"datetime.date({d.year}, {d.month}, {d.day})"
  | .time t => bracketed "datetime.time(" ")" ([t.hour, t.minute] ++ seconds t |>.map toString)
  | .local d t => dateTime d t ++ ")"
  | .offset d t _ => dateTime d t ++ ")"
where
  seconds (t : TimeOfDay) : List Nat :=
    if t.micro ≠ 0 then [t.second, t.micro] else if t.second ≠ 0 then [t.second] else []
  dateTime (d : Date) (t : TimeOfDay) : String :=
    bracketed "datetime.datetime(" ""
      ([d.year, d.month, d.day, t.hour, t.minute] ++ seconds t |>.map toString)

/-- How many decimal digits a whole number may have for it to be read or spelt. -/
def longestNumber : Nat := 4300

/-- Whether a whole number has more digits than are spelt. -/
def isLong (n : Int) : Bool :=
  Nat.pow 10 longestNumber ≤ n.natAbs

def numberText (n : Int) : Except Failure String :=
  if isLong n then .error .longNumber else .ok (toString n)

def nullLiteral : String := "None"

def boolLiteral (b : Bool) : String :=
  if b then "True" else "False"

mutual

/-- The spelling of a value inside a list or table: texts are quoted. -/
def literal : Value → Except Failure String
  | .null => .ok nullLiteral
  | .bool b => .ok (boolLiteral b)
  | .int n => numberText n
  | .float x => .ok (x.render .plain)
  | .moment m => .ok (momentLiteral m)
  | .string s => .ok (Text.quote s)
  | .list items => (itemLiterals items).map (bracketed "[" "]")
  | .table fields => (fieldLiterals fields).map (bracketed "\x7b" "\x7d")

def itemLiterals : List Value → Except Failure (List String)
  | [] => .ok []
  | v :: vs => do
    let text ← literal v
    let rest ← itemLiterals vs
    return text :: rest

def fieldLiterals : List (String × Value) → Except Failure (List String)
  | [] => .ok []
  | (k, v) :: rest => do
    let text ← literal v
    let rest ← fieldLiterals rest
    return (Text.quote k ++ ": " ++ text) :: rest

end

/-- What a message shows of a value: texts as they are, moments in full, all else as spelt inside
a list. -/
def text : Value → Except Failure String
  | .string s => .ok s
  | .moment m => .ok m.text
  | v => v.literal

mutual

/-- How deep lists and tables are nested in a value. -/
def depth : Value → Nat
  | .list items => depthOfItems items + 1
  | .table fields => depthOfFields fields + 1
  | _ => 0

def depthOfItems : List Value → Nat
  | [] => 0
  | v :: rest => max (depth v) (depthOfItems rest)

def depthOfFields : List (String × Value) → Nat
  | [] => 0
  | (_, v) :: rest => max (depth v) (depthOfFields rest)

end

/-- The whole number that a boolean or an integer is. -/
def whole? : Value → Option Int
  | .bool b => some (if b then 1 else 0)
  | .int n => some n
  | _ => none

/-- Whether the number `v` is less than the number `w`, if both are numbers. -/
def numberBefore? (v w : Value) : Option Bool :=
  match v, w with
  | .float x, .float y => some (x.lt y)
  | .float x, w => w.whole?.map fun n => x.lt (Binary64.ofInt n)
  | v, .float y => v.whole?.map fun n => (Binary64.ofInt n).lt y
  | v, w =>
    match v.whole?, w.whole? with
    | some m, some n => some (decide (m < n))
    | _, _ => none

mutual

/-- Whether `v` comes before `w`: numbers by size, texts by code points, moments of one kind by time,
lists by their first difference. Values of different kinds, tables and null have no order. -/
def before? : Value → Value → Option Bool
  | .string s, .string t => some (decide (s < t))
  | .moment m, .moment n => m.before? n
  | .list xs, .list ys => itemsBefore? xs ys
  | v, w => v.numberBefore? w

def itemsBefore? : List Value → List Value → Option Bool
  | [], ys => some !ys.isEmpty
  | _ :: _, [] => some false
  | x :: xs, y :: ys => if agrees x y then itemsBefore? xs ys else before? x y

end

example : (literal (.list [.string "it's", .null, .table [("k", .bool true)], .int (-7)])).toOption =
    some "[\"it's\", None, \x7b'k': True\x7d, -7]" := by decide +kernel

end Value

end NativeVariants
