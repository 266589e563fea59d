import NativeVariants.Text.Quoted

/-!
# Reading UTF-8

Bytes as text, or the first place where they are no text. A first byte says how many bytes follow
it and which values the next one may have; over-long forms, surrogates and numbers past the last
code point are refused by that range.
-/

namespace NativeVariants.Text.Utf8

/-- Where and why bytes are not UTF-8: the offending bytes begin at `start`. -/
inductive Fault where
  | invalidStart (start byte : Nat)
  | invalidContinuation (start byte length : Nat)
  | unexpectedEnd (start byte length : Nat)
  deriving DecidableEq, Repr, Inhabited

/-- What the first byte of a character tells: its own bits of the code point, how many bytes
follow, and the range of the next one. -/
structure Lead where
  bits : Nat
  following : Nat
  least : Nat
  greatest : Nat

def lead? (b : Nat) : Option Lead :=
  if b < 0x80 then some ⟨b, 0, 0, 0⟩
  else if b < 0xC2 then none
  else if b < 0xE0 then some ⟨b - 0xC0, 1, 0x80, 0xBF⟩
  else if b < 0xF0 then
    some ⟨b - 0xE0, 2, if b = 0xE0 then 0xA0 else 0x80, if b = 0xED then 0x9F else 0xBF⟩
  else if b < 0xF5 then
    some ⟨b - 0xF0, 3, if b = 0xF0 then 0x90 else 0x80, if b = 0xF4 then 0x8F else 0xBF⟩
  else none

/-- A character that is being read: its first byte, how many of its bytes are read, and what is
known of it. -/
structure Unfinished where
  first : Nat
  length : Nat
  lead : Lead

/-- Reads characters from `bytes`, the first of which has the given position; `begun` is the
beginning of a character before them. A character may stay unfinished at the end. -/
def scan (position : Nat) (begun : Option Unfinished) :
    List UInt8 → Except Fault (List Char × Option Unfinished)
  | [] => .ok ([], begun)
  | byte :: bytes =>
    let b := byte.toNat
    let go (c : Char) := (scan (position + 1) none bytes).map fun (cs, rest) => (c :: cs, rest)
    match begun with
    | none =>
      match lead? b with
      | none => .error (.invalidStart position b)
      | some lead =>
        if lead.following = 0 then go (Char.ofNat lead.bits)
        else scan (position + 1) (some ⟨b, 1, lead⟩) bytes
    | some ⟨first, length, lead⟩ =>
      if b < lead.least || lead.greatest < b then
        .error (.invalidContinuation (position - length) first length)
      else
        let bits := lead.bits * 64 + (b - 0x80)
        if lead.following = 1 then go (Char.ofNat bits)
        else
          scan (position + 1) (some ⟨first, length + 1, ⟨bits, lead.following - 1, 0x80, 0xBF⟩⟩)
            bytes

/-- The fault of a character that is unfinished where the bytes end. -/
def Unfinished.fault (u : Unfinished) (position : Nat) : Fault :=
  .unexpectedEnd (position - u.length) u.first u.length

def decode (bytes : List UInt8) : Except Fault String :=
  match scan 0 none bytes with
  | .error fault => .error fault
  | .ok (cs, none) => .ok (String.ofList cs)
  | .ok (_, some u) => .error (u.fault bytes.length)

/-- How many bytes are read at a time. -/
def portionSize : Nat := 8192

/-- Whether bytes end in the first two of the three that would be a surrogate. -/
def endsInSurrogate (bytes : List UInt8) : Bool :=
  match bytes.drop (bytes.length - 2) with
  | [first, second] => first = 0xED && 0xA0 ≤ second && second ≤ 0xBF
  | _ => false

/-- Reads bytes behind which more may follow: the characters, and the bytes that are left for later.
The beginning of a surrogate at the end is left too, and refused later. -/
def readPortion (bytes : List UInt8) : Except Fault (List Char × List UInt8) :=
  match scan 0 none bytes with
  | .ok (cs, begun) => .ok (cs, bytes.drop (bytes.length - (begun.map (·.length)).getD 0))
  | .error fault =>
    let start := bytes.length - 2
    if endsInSurrogate bytes && fault = .invalidContinuation start 0xED 1 then
      (scan 0 none (bytes.take start)).map fun (cs, _) => (cs, bytes.drop start)
    else .error fault

/-- Reads bytes in portions, as many as there is fuel, behind those that are left from before: the
characters of the portions before the first fault, and the fault, its position counted from the
bytes that were left before its portion. -/
def readPortions : Nat → List UInt8 → List UInt8 → List Char × Option Fault
  | 0, _, _ => ([], none)
  | fuel + 1, left, bytes =>
    if bytes.isEmpty then
      match decode left with
      | .ok _ => ([], none)
      | .error fault => ([], some fault)
    else
      match readPortion (left ++ bytes.take portionSize) with
      | .error fault => ([], some fault)
      | .ok (cs, left) =>
        let (more, fault) := readPortions fuel left (bytes.drop portionSize)
        (cs ++ more, fault)

/-- The characters that can be read before the first fault, and the fault. -/
def readAhead (bytes : List UInt8) : List Char × Option Fault :=
  readPortions (bytes.length + 1) [] bytes

namespace Fault

/-- One byte with its value, or several by their positions. -/
def place (start byte length : Nat) : String :=
  if length = 1 then s!"byte 0x{String.ofList (hexDigits 2 byte)} in position {start}"
  else s!"bytes in position {start}-{start + length - 1}"

def message (fault : Fault) : String :=
  let (spot, why) :=
    match fault with
    | invalidStart start byte => (place start byte 1, "invalid start byte")
    | invalidContinuation start byte length =>
      (place start byte length, "invalid continuation byte")
    | unexpectedEnd start byte length => (place start byte length, "unexpected end of data")
  s!"'utf-8' codec can't decode {spot}: {why}"

end Fault

example : decode [0xC3, 0xA9, 0x61] = .ok "éa" := by rfl
example : decode [0x61, 0xFF] = .error (.invalidStart 1 0xFF) := by rfl
example : readAhead [0x61, 0xE2, 0x82] = (['a'], some (.unexpectedEnd 0 0xE2 2)) := by
  decide +kernel
example : decode [0xE2, 0x82] = .error (.unexpectedEnd 0 0xE2 2) := by rfl

end NativeVariants.Text.Utf8
