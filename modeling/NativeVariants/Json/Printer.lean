import NativeVariants.Value

/-!
# Printing JSON

Values as JSON texts in ASCII, on one line or with an entry a line. Moments have no JSON form, and
neither have numbers that are too long to be spelt.
-/

namespace NativeVariants.Json

/-- An escape of four hexadecimal digits. -/
def escapeUnit (n : Nat) : List Char :=
  '\\' :: 'u' :: Text.hexDigits 4 n

/-- One character of a text. Characters that are no printable ASCII are written as the UTF-16
units of their code point. -/
def escapeChar (c : Char) : List Char :=
  match c with
  | '"' => ['\\', '"']
  | '\\' => ['\\', '\\']
  | '\n' => ['\\', 'n']
  | '\r' => ['\\', 'r']
  | '\t' => ['\\', 't']
  | '\x08' => ['\\', 'b']
  | '\x0c' => ['\\', 'f']
  | c =>
    let n := c.toNat
    if 32 ≤ n && n ≤ 126 then [c]
    else if n ≤ 0xFFFF then escapeUnit n
    else
      let k := n - 0x10000
      escapeUnit (0xD800 + k / 0x400) ++ escapeUnit (0xDC00 + k % 0x400)

def quote (s : String) : String :=
  String.ofList ('"' :: s.toList.flatMap escapeChar ++ ['"'])

/-- How entries are laid out: on one line, or each on its own with blanks in front, so many for
each level. -/
inductive Layout where
  | line
  | block (width : Nat)
  deriving DecidableEq, Repr

namespace Layout

/-- A new line at a level. -/
def newline (level width : Nat) : String :=
  "\n" ++ String.ofList (List.replicate (level * width) ' ')

/-- Entries between brackets at a level; without entries the brackets touch. -/
def enclose (layout : Layout) (level : Nat) (opening closing : String) (entries : List String) :
    String :=
  if entries.isEmpty then opening ++ closing
  else
    match layout with
    | line => opening ++ String.intercalate ", " entries ++ closing
    | block width =>
      opening ++ newline (level + 1) width ++
        String.intercalate ("," ++ newline (level + 1) width) entries ++
        newline level width ++ closing

end Layout

mutual

/-- The text of a value at a level of nesting. -/
def renderAt (layout : Layout) (level : Nat) : Value → Except Failure String
  | .null => .ok "null"
  | .bool b => .ok (if b then "true" else "false")
  | .int n => Value.numberText n
  | .float x => .ok (x.render .json)
  | .moment _ => .error .wrongType
  | .string s => .ok (quote s)
  | .list items => (renderItems layout (level + 1) items).map (layout.enclose level "[" "]")
  | .table fields =>
    (renderFields layout (level + 1) fields).map (layout.enclose level "\x7b" "\x7d")

def renderItems (layout : Layout) (level : Nat) : List Value → Except Failure (List String)
  | [] => .ok []
  | v :: vs => do
    let text ← renderAt layout level v
    let rest ← renderItems layout level vs
    return text :: rest

def renderFields (layout : Layout) (level : Nat) :
    List (String × Value) → Except Failure (List String)
  | [] => .ok []
  | (key, v) :: rest => do
    let text ← renderAt layout level v
    let rest ← renderFields layout level rest
    return (quote key ++ ": " ++ text) :: rest

end

/-- The text of a value; the first moment or long number inside makes it fail. -/
def render (layout : Layout) (v : Value) : Except Failure String :=
  renderAt layout 0 v

example : (render .line (.table [("é", .list [.int 1, .null])])).toOption =
    some "\x7b\"\\u00e9\": [1, null]\x7d" := by decide +kernel

end NativeVariants.Json
