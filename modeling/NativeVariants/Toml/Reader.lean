import NativeVariants.Text.Search
import NativeVariants.Toml.Document

/-!
# Reading TOML

Texts as documents. The lists of a document hold values of one type only.
-/

namespace NativeVariants.Toml

/-- Whether a character may stand in a text or a comment as it is. -/
def isPlain (c : Char) : Bool :=
  (32 ≤ c.toNat || c == '\t') && c.toNat ≠ 127

/-- Takes something off the front of a text, or fails. -/
abbrev Reader (α : Type) := StateT (List Char) Option α

namespace Reader

/-- The next character, left in place. -/
def peek? : Reader (Option Char) := do
  return (← get).head?

/-- Whether the text goes on with `s`. -/
def sees (s : String) : Reader Bool := do
  return s.toList.isPrefixOf (← get)

def drop (n : Nat) : Reader Unit :=
  modify (·.drop n)

/-- Takes `s` if the text goes on with it. -/
def accept (s : String) : Reader Bool := do
  if ← sees s then
    drop s.length
    return true
  else return false

def expect (s : String) : Reader Unit := do
  unless ← accept s do failure

def next : Reader Char := do
  match ← get with
  | [] => failure
  | c :: rest =>
    set rest
    return c

/-- The characters at the front that satisfy `p`. -/
def takeWhile (p : Char → Bool) : Reader (List Char) := do
  let cs ← get
  set (cs.dropWhile p)
  return cs.takeWhile p

def skipBlank : Reader Unit := do
  let _ ← takeWhile fun c => c == ' ' || c == '\t'

/-- A comment up to the end of its line; it holds no control characters. -/
def skipComment : Reader Unit := do
  if ← sees "#" then
    let comment ← takeWhile (· != '\n')
    unless comment.all isPlain do failure

/-- The rest of a line that says nothing more. -/
def endLine : Reader Unit := do
  skipBlank
  skipComment
  unless (← get).isEmpty do expect "\n"

/-- White space, comments and line ends. -/
def skipLines : Nat → Reader Unit
  | 0 => return
  | fuel + 1 => do
    skipBlank
    skipComment
    if ← accept "\n" then skipLines fuel

/-- White space, comments and line ends, however many. -/
def skipAll : Reader Unit := do
  skipLines ((← get).length + 1)

end Reader

open Reader

def isKeyChar (c : Char) : Bool :=
  c.isAlphanum || c == '_' || c == '-'

def hexValue? (cs : List Char) : Option Nat :=
  cs.foldlM (fun n c => do return n * 16 + (← digit? c)) 0
where
  digit? (c : Char) : Option Nat :=
    if c.isDigit then some (c.toNat - '0'.toNat)
    else if 'a' ≤ c && c ≤ 'f' then some (c.toNat - 'a'.toNat + 10)
    else if 'A' ≤ c && c ≤ 'F' then some (c.toNat - 'A'.toNat + 10)
    else none

/-- A character by its code point in so many hexadecimal digits. -/
def readCode (width : Nat) : Reader Char := do
  let cs ← get
  let some n := hexValue? (cs.take width) | failure
  if cs.length < width then failure
  if n < 0xD800 || (0xDFFF < n && n ≤ 0x10FFFF) then
    drop width
    return Char.ofNat n
  else failure

/-- The character of an escape, behind its backslash. -/
def readEscape : Reader Char := do
  match ← next with
  | 'b' => return '\x08'
  | 't' => return '\t'
  | 'n' => return '\n'
  | 'f' => return '\x0c'
  | 'r' => return '\r'
  | '"' => return '"'
  | '\\' => return '\\'
  | 'u' => readCode 4
  | 'U' => readCode 8
  | _ => failure

/-- A text on one line behind its opening mark; `read` is what was read of it, backwards. -/
def readBasic (read : List Char) : Nat → Reader String
  | 0 => failure
  | fuel + 1 => do
    match ← next with
    | '"' => return String.ofList read.reverse
    | '\\' => readBasic ((← readEscape) :: read) fuel
    | c => if isPlain c then readBasic (c :: read) fuel else failure

/-- The text of several lines that `read` holds backwards, behind its closing marks: up to two more
of the marks belong to it. -/
def closeLong (mark : String) (read : List Char) : Reader String := do
  let one ← accept mark
  let two ← if one then accept mark else pure false
  let text := String.ofList read.reverse
  return if two then text ++ mark ++ mark else if one then text ++ mark else text

/-- A text of several lines behind its opening marks. A backslash at the end of a line joins it to
the next word. -/
def readLongBasic (read : List Char) : Nat → Reader String
  | 0 => failure
  | fuel + 1 => do
    if ← accept "\"\"\"" then return (← closeLong "\"" read)
    match ← next with
    | '\\' =>
      let before ← get
      skipBlank
      if ← sees "\n" then
        let _ ← takeWhile fun c => c == ' ' || c == '\t' || c == '\n'
        readLongBasic read fuel
      else
        set before
        readLongBasic ((← readEscape) :: read) fuel
    | c => if isPlain c || c == '\n' then readLongBasic (c :: read) fuel else failure

/-- A text without escapes on one line, behind its opening mark. -/
def readLiteral : Reader String := do
  let cs ← takeWhile fun c => isPlain c && c != '\''
  expect "'"
  return String.ofList cs

/-- A text of several lines without escapes, behind its opening marks. -/
def readLongLiteral (read : List Char) : Nat → Reader String
  | 0 => failure
  | fuel + 1 => do
    if ← accept "'''" then return (← closeLong "'" read)
    let c ← next
    if isPlain c || c == '\n' then readLongLiteral (c :: read) fuel else failure

/-- A text, if one begins here. -/
def readString? (long : Bool) : Reader (Option String) := do
  let fuel := (← get).length + 1
  if long && (← accept "\"\"\"") then
    let _ ← accept "\n"
    return some (← readLongBasic [] fuel)
  else if ← accept "\"" then return some (← readBasic [] fuel)
  else if long && (← accept "'''") then
    let _ ← accept "\n"
    return some (← readLongLiteral [] fuel)
  else if ← accept "'" then return some (← readLiteral)
  else return none

def readKeyPart : Reader String := do
  match ← readString? false with
  | some s => return s
  | none =>
    let cs ← takeWhile isKeyChar
    if cs.isEmpty then failure
    return String.ofList cs

/-- The parts of a key between points. -/
def readKey : Nat → Reader (List String)
  | 0 => failure
  | fuel + 1 => do
    skipBlank
    let part ← readKeyPart
    skipBlank
    if ← accept "." then return part :: (← readKey fuel) else return [part]

/-- Digits of a base with underscores between them, as a number. -/
def digits? (base : Nat) (cs : List Char) : Option (Nat × Nat) := do
  let groups := cs.splitOn '_'
  if groups.any (·.isEmpty) then failure
  let ds := groups.flatten
  let ns ← ds.mapM fun c => (hexValue? [c]).filter (· < base)
  return (ns.foldl (fun n d => n * base + d) 0, ns.length)

/-- Decimal digits without a leading zero. -/
def wholeDigits? (cs : List Char) : Option Nat := do
  let (n, count) ← digits? 10 cs
  if 1 < count && cs.head? == some '0' then none else some n

/-- A sign, and the rest. -/
def splitSign : List Char → Bool × List Char
  | '-' :: cs => (true, cs)
  | '+' :: cs => (false, cs)
  | cs => (false, cs)

/-- A number with a point or an exponent, without its sign. -/
def float? (negative : Bool) (cs : List Char) : Option Value := do
  let (mantissa, exponent?) := Text.cutChars 'e' (cs.map fun c => if c = 'E' then 'e' else c)
  let (whole, fraction?) := Text.cutChars '.' mantissa
  if exponent?.isNone && fraction?.isNone then failure
  let whole ← wholeDigits? whole
  let (fraction, places) ← (fraction?.map (digits? 10)).getD (some (0, 0))
  let exponent ← (exponent?.map signedDigits?).getD (some 0)
  return .float (.ofDecimal negative (whole * power 10 places + fraction) (exponent - places))
where
  signedDigits? (cs : List Char) : Option Int := do
    let (negative, cs) := splitSign cs
    let (n, _) ← digits? 10 cs
    return if negative then -(n : Int) else n

def number? (cs : List Char) : Option Value :=
  let (negative, rest) := splitSign cs
  let whole? :=
    if (rest.filter Char.isDigit).length ≤ Value.longestNumber then wholeDigits? rest else none
  match rest with
  | ['i', 'n', 'f'] => some (.float (.infinity negative))
  | ['n', 'a', 'n'] => some (.float .notANumber)
  | '0' :: 'x' :: ds => based 16 cs rest ds
  | '0' :: 'o' :: ds => based 8 cs rest ds
  | '0' :: 'b' :: ds => based 2 cs rest ds
  | _ =>
    (whole?.map fun (n : Nat) => Value.int (if negative then -(n : Int) else n)).or
      (float? negative rest)
where
  based (base : Nat) (cs rest ds : List Char) : Option Value :=
    if cs.length = rest.length then (digits? base ds).map fun (n, _) => .int n else none

/-- Exactly `width` decimal digits. -/
def fixed? (width : Nat) (cs : List Char) : Option Nat :=
  if cs.length = width && cs.all Char.isDigit then (digits? 10 cs).map (·.1) else none

def date? (cs : List Char) : Option Date := do
  match cs.splitOn '-' with
  | [y, m, d] =>
    let date : Date := ⟨← fixed? 4 y, ← fixed? 2 m, ← fixed? 2 d⟩
    if date.isValid then some date else none
  | _ => none

/-- Digits after the seconds as microseconds. -/
def micro? (cs : List Char) : Option Nat :=
  let ds := cs.take 6
  if cs.isEmpty || !cs.all Char.isDigit then none
  else (digits? 10 (ds ++ List.replicate (6 - ds.length) '0')).map (·.1)

def time? (cs : List Char) : Option TimeOfDay := do
  let (clock, fraction?) := Text.cutChars '.' cs
  match clock.splitOn ':' with
  | [h, m, s] =>
    let micro ← (fraction?.map micro?).getD (some 0)
    let time : TimeOfDay := ⟨← fixed? 2 h, ← fixed? 2 m, ← fixed? 2 s, micro⟩
    if time.isValid then some time else none
  | _ => none

/-- A time of day with an offset from universal time, if there is one. -/
def offsetTime? (cs : List Char) : Option (TimeOfDay × Option Int) := do
  let clock := cs.takeWhile fun c => c.isDigit || c == ':' || c == '.'
  let time ← time? clock
  match cs.drop clock.length with
  | [] => return (time, none)
  | ['Z'] | ['z'] => return (time, some 0)
  | sign :: offset =>
    match offset.splitOn ':' with
    | [h, m] =>
      let hours ← fixed? 2 h
      let minutes ← fixed? 2 m
      if 23 < hours || 59 < minutes then failure
      let minutes : Int := hours * 60 + minutes
      if sign == '+' then return (time, some minutes)
      else if sign == '-' then return (time, some (-minutes))
      else none
    | _ => none

def moment? (cs : List Char) : Option Moment :=
  match date? cs with
  | some d => some (.date d)
  | none =>
    match time? cs with
    | some t => some (.time t)
    | none => do
      let d ← date? (cs.take 10)
      match cs.drop 10 with
      | mark :: rest =>
        if mark == 'T' || mark == 't' || mark == ' ' then
          match ← offsetTime? rest with
          | (t, none) => return .local d t
          | (t, some minutes) => return .offset d t minutes
        else none
      | [] => none

/-- A number or a moment; a blank may stand between a date and its time. -/
def readScalar : Reader Value := do
  let isPart (c : Char) := c.isAlphanum || c == '+' || c == '-' || c == '.' || c == '_' || c == ':'
  let cs ← takeWhile isPart
  let rest ← get
  let more := rest.drop 1 |>.takeWhile isPart
  let joined := cs ++ ' ' :: more
  if rest.head? == some ' ' && (date? cs).isSome && (moment? joined).isSome then
    drop (1 + more.length)
    let some m := moment? joined | failure
    return .moment m
  else
    match (number? cs).or ((moment? cs).map .moment) with
    | some v => return v
    | none => failure

/-- The type of a value, as far as lists tell types apart. -/
def typeTag : Value → Nat
  | .null => 0
  | .bool _ => 1
  | .int _ => 2
  | .float _ => 3
  | .moment _ => 4
  | .string _ => 5
  | .list _ => 6
  | .table _ => 7

/-- Whether all items are of the type of the first one. -/
def sameTypes (items : List Value) : Bool :=
  match items with
  | [] => true
  | v :: rest => rest.all fun w => typeTag w == typeTag v

mutual

def readValue : Nat → Reader Value
  | 0 => failure
  | fuel + 1 => do
    match ← readString? true with
    | some s => return .string s
    | none =>
      if ← accept "true" then return .bool true
      else if ← accept "false" then return .bool false
      else if ← accept "[" then
        let items ← readItems fuel []
        if sameTypes items then return .list items else failure
      else if ← accept "\x7b" then
        skipBlank
        if ← accept "\x7d" then return .table []
        else
          let some fields := build? (← readInline fuel []) | failure
          return .table fields
      else readScalar

/-- The items of a list up to its end; `read` are those before, backwards. -/
def readItems : Nat → List Value → Reader (List Value)
  | 0, _ => failure
  | fuel + 1, read => do
    skipAll
    if ← accept "]" then return read.reverse
    let v ← readValue fuel
    skipAll
    if ← accept "," then readItems fuel (v :: read)
    else
      expect "]"
      return (v :: read).reverse

/-- The fields of a table on one line, as statements; `read` are those before, backwards. -/
def readInline : Nat → List Statement → Reader (List Statement)
  | 0, _ => failure
  | fuel + 1, read => do
    let key ← readKey ((← get).length + 1)
    expect "="
    skipBlank
    let v ← readValue fuel
    skipBlank
    let read := .assign key v :: read
    if ← accept "," then readInline fuel read
    else
      expect "\x7d"
      return read.reverse

end

/-- One statement and the end of its line. -/
def readStatement : Reader Statement := do
  let fuel := 2 * (← get).length + 2
  if ← accept "[[" then
    let path ← readKey fuel
    expect "]]"
    endLine
    return .item path
  else if ← accept "[" then
    let path ← readKey fuel
    expect "]"
    endLine
    return .header path
  else
    let path ← readKey fuel
    expect "="
    skipBlank
    let v ← readValue fuel
    endLine
    return .assign path v

/-- The statements up to the end of the text. -/
def readStatements : Nat → Reader (List Statement)
  | 0 => failure
  | fuel + 1 => do
    skipAll
    if (← get).isEmpty then return []
    let statement ← readStatement
    return statement :: (← readStatements fuel)

/-- The table of a text, unless its syntax is wrong. -/
def parse? (s : String) : Option Table := do
  let cs := s.toList
  let (statements, _) ← (readStatements (cs.length + 1)).run cs
  build? statements

end NativeVariants.Toml
