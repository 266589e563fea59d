import NativeVariants.Value

/-!
# Reading JSON

JSON texts as values. Fields keep their order, a number with a point or an exponent is a float and
any other a whole number, infinities and the value that is no number have names, and escaped pairs
of UTF-16 units are one character.
-/

namespace NativeVariants.Json

def isBlank (c : Char) : Bool :=
  c == ' ' || c == '\n' || c == '\r' || c == '\t'

def skipBlank (cs : List Char) : List Char :=
  cs.dropWhile isBlank

/-- The digits at the front as a number, how many they are, and what follows. -/
def readDigits (cs : List Char) : Nat × Nat × List Char :=
  let digits := cs.takeWhile Char.isDigit
  (digits.foldl (fun n c => 10 * n + (c.toNat - '0'.toNat)) 0, digits.length,
    cs.dropWhile Char.isDigit)

/-- An optional sign, and whether it is a minus. -/
def readSign : List Char → Bool × List Char
  | '-' :: cs => (true, cs)
  | '+' :: cs => (false, cs)
  | cs => (false, cs)

/-- The digits after a point, if there is one. -/
def readFraction : List Char → Option (Nat × Nat) × List Char
  | '.' :: cs =>
    let (n, count, rest) := readDigits cs
    (some (n, count), rest)
  | cs => (none, cs)

def readExponent : List Char → Option Int × List Char
  | c :: cs =>
    if c == 'e' || c == 'E' then
      let (negative, cs) := readSign cs
      let (n, _, rest) := readDigits cs
      (some (if negative then -(n : Int) else n), rest)
    else (none, c :: cs)
  | [] => (none, [])

def readNumber (cs : List Char) : Option (Value × List Char) :=
  let (negative, cs) := readSign cs
  let (whole, count, cs) := readDigits cs
  if count = 0 then none
  else
    let (fraction?, cs) := readFraction cs
    let (exponent?, cs) := readExponent cs
    match fraction?, exponent? with
    | none, none => some (.int (if negative then -(whole : Int) else whole), cs)
    | _, _ =>
      let (fraction, places) := fraction?.getD (0, 0)
      let exponent := exponent?.getD 0
      let digits := whole * power 10 places + fraction
      some (.float (.ofDecimal negative digits (exponent - places)), cs)

/-- The value of four hexadecimal digits at the front. -/
def readUnit (cs : List Char) : Option (Nat × List Char) :=
  match cs with
  | a :: b :: c :: d :: rest => do
    let a ← hexDigit? a
    let b ← hexDigit? b
    let c ← hexDigit? c
    let d ← hexDigit? d
    return (((a * 16 + b) * 16 + c) * 16 + d, rest)
  | _ => none
where
  hexDigit? (c : Char) : Option Nat :=
    if c.isDigit then some (c.toNat - '0'.toNat)
    else if 'a' ≤ c && c ≤ 'f' then some (c.toNat - 'a'.toNat + 10)
    else if 'A' ≤ c && c ≤ 'F' then some (c.toNat - 'A'.toNat + 10)
    else none

/-- The character of an escape whose first unit is `unit`. -/
def readPair (unit : Nat) (cs : List Char) : Char × List Char :=
  if 0xD800 ≤ unit && unit ≤ 0xDBFF then
    match cs with
    | '\\' :: 'u' :: rest =>
      match readUnit rest with
      | some (low, rest) =>
        if 0xDC00 ≤ low && low ≤ 0xDFFF then
          (Char.ofNat (0x10000 + (unit - 0xD800) * 0x400 + (low - 0xDC00)), rest)
        else ('\ufffd', cs)
      | none => ('\ufffd', cs)
    | _ => ('\ufffd', cs)
  else if 0xDC00 ≤ unit && unit ≤ 0xDFFF then ('\ufffd', cs)
  else (Char.ofNat unit, cs)

/-- The character that a letter after a backslash stands for. -/
def unescape : Char → Char
  | 'n' => '\n'
  | 't' => '\t'
  | 'r' => '\r'
  | 'b' => '\x08'
  | 'f' => '\x0c'
  | c => c

/-- A text behind its opening mark; `read` is what was read of it, backwards. -/
def readString : Nat → List Char → List Char → Option (String × List Char)
  | 0, _, _ => none
  | fuel + 1, read, cs =>
    match cs with
    | [] => none
    | '"' :: rest => some (String.ofList read.reverse, rest)
    | '\\' :: 'u' :: rest =>
      match readUnit rest with
      | some (unit, rest) =>
        let (c, rest) := readPair unit rest
        readString fuel (c :: read) rest
      | none => none
    | '\\' :: c :: rest => readString fuel (unescape c :: read) rest
    | c :: rest => readString fuel (c :: read) rest

/-- The words that stand for values. -/
def namedValues : List (String × Value) :=
  [("null", .null), ("true", .bool true), ("false", .bool false), ("NaN", .float .notANumber),
    ("Infinity", .float (.infinity false)), ("-Infinity", .float (.infinity true))]

def readWord (cs : List Char) : Option (Value × List Char) :=
  namedValues.findSome? fun (word, v) =>
    if word.toList.isPrefixOf cs then some (v, cs.drop word.length) else none

mutual

/-- A value at the front of a text that `fuel` bounds the length of. -/
def readValue : Nat → List Char → Option (Value × List Char)
  | 0, _ => none
  | fuel + 1, cs =>
    match skipBlank cs with
    | '"' :: rest =>
      (readString (rest.length + 1) [] rest).map fun (s, rest) => (Value.string s, rest)
    | '[' :: rest =>
      match skipBlank rest with
      | ']' :: rest => some (.list [], rest)
      | rest => readItems fuel [] rest
    | '\x7b' :: rest =>
      match skipBlank rest with
      | '\x7d' :: rest => some (.table [], rest)
      | rest => readFields fuel [] rest
    | cs => (readWord cs).or (readNumber cs)

/-- The items of a list from the next one on; `read` are those before, backwards. -/
def readItems : Nat → List Value → List Char → Option (Value × List Char)
  | 0, _, _ => none
  | fuel + 1, read, cs =>
    match readValue fuel cs with
    | none => none
    | some (v, rest) =>
      match skipBlank rest with
      | ',' :: rest => readItems fuel (v :: read) rest
      | ']' :: rest => some (.list (v :: read).reverse, rest)
      | _ => none

/-- The fields of a table from the next one on; `read` are those before, backwards. -/
def readFields : Nat → List (String × Value) → List Char → Option (Value × List Char)
  | 0, _, _ => none
  | fuel + 1, read, cs =>
    match skipBlank cs with
    | '"' :: rest =>
      match readString (rest.length + 1) [] rest with
      | none => none
      | some (key, rest) =>
        match skipBlank rest with
        | ':' :: rest =>
          match readValue fuel rest with
          | none => none
          | some (v, rest) =>
            match skipBlank rest with
            | ',' :: rest => readFields fuel ((key, v) :: read) rest
            | '\x7d' :: rest => some (.table (Fields.ofList ((key, v) :: read).reverse), rest)
            | _ => none
        | _ => none
    | _ => none

end

def parse? (s : String) : Option Value :=
  let cs := s.toList
  match readValue (2 * cs.length + 2) cs with
  | some (v, rest) => if (skipBlank rest).isEmpty then some v else none
  | none => none

end NativeVariants.Json
