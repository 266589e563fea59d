import NativeVariants.Text.Printable

/-!
# Quoted text

A text between quotation marks on one line: the mark, the backslash and line controls escaped, and
characters that do not print written by their code point.
-/

namespace NativeVariants.Text

/-- A number in lower-case hexadecimal digits, padded with zeros to a width. -/
def hexDigits (width n : Nat) : List Char :=
  let ds := Nat.toDigits 16 n
  List.replicate (width - ds.length) '0' ++ ds

/-- A code point as an escape: two, four or eight digits, as many as it needs. -/
def escapeCode (n : Nat) : List Char :=
  if n ≤ 0xFF then '\\' :: 'x' :: hexDigits 2 n
  else if n ≤ 0xFFFF then '\\' :: 'u' :: hexDigits 4 n
  else '\\' :: 'U' :: hexDigits 8 n

/-- One character of a text quoted by `mark`. -/
def quoteChar (mark c : Char) : List Char :=
  if c = mark || c = '\\' then ['\\', c]
  else if c = '\n' then ['\\', 'n']
  else if c = '\t' then ['\\', 't']
  else if c = '\r' then ['\\', 'r']
  else if isPrintable c then [c]
  else escapeCode c.toNat

/-- Single quotation marks, unless the text holds one of them and no double one. -/
def quoteMark (cs : List Char) : Char :=
  if cs.contains '\'' && !cs.contains '"' then '"' else '\''

def quoteChars (cs : List Char) : List Char :=
  let mark := quoteMark cs
  mark :: cs.flatMap (quoteChar mark) ++ [mark]

def quote (s : String) : String :=
  String.ofList (quoteChars s.toList)

example : quote "it's" = "\"it's\"" := by decide +kernel
example : quote "a\n'\"" = "'a\\n\\'\"'" := by decide +kernel
example : quote "\x07é\u200b" = "'\\x07é\\u200b'" := by decide +kernel

end NativeVariants.Text
