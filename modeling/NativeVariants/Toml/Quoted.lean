import NativeVariants.Text.Quoted

/-!
# Quoted texts of settings

Texts between quotation marks as settings files hold them. A character that does not print is
written by its code point. An escape of two digits, which TOML does not know, loses its mark, the
backslash and the `x`: a quoted text is cut at its marks, and the pieces are joined again.
-/

namespace NativeVariants.Toml

/-- The pieces of a text between its marks, a mark being a backslash before an `x`. The backslash
may be the second of two, which stand for one. -/
def cutAtMarks : List Char → List (List Char)
  | [] => [[]]
  | '\\' :: 'x' :: cs => [] :: cutAtMarks cs
  | c :: cs =>
    match cutAtMarks cs with
    | [] => [[c]]
    | piece :: pieces => (c :: piece) :: pieces

/-- A text with one backslash for every two. -/
def halveBackslashes : List Char → List Char
  | '\\' :: '\\' :: cs => '\\' :: halveBackslashes cs
  | c :: cs => c :: halveBackslashes cs
  | [] => []

/-- What joins a piece to the next one: the `x` alone, unless the piece ends in a backslash that
would escape it. The backslashes at the end count by twos, the first of a piece of nothing else left
out; one that is left over begins an escape of four digits. -/
def joint (piece : List Char) : List Char :=
  let ending := (piece.reverse.takeWhile (· == '\\')).length
  let pairedUp := if ending = piece.length then ending % 2 = 0 else ending % 2 = 1
  if ending = 0 ∨ pairedUp then ['x'] else ['u', '0', '0']

def joinPieces (text : List Char) : List (List Char) → List Char
  | [] => text
  | piece :: pieces =>
    let text := halveBackslashes text
    joinPieces (text ++ joint text ++ piece) pieces

/-- The text of pieces. A first piece without characters is left out, and then there has to be
another one to join the next to. -/
def joinAll? : List (List Char) → Option (List Char)
  | [[], _] => none
  | [] :: text :: pieces => some (joinPieces text pieces)
  | text :: pieces => some (joinPieces text pieces)
  | [] => some []

/-- A text between quotation marks. With a single mark, at its beginning, it cannot be written. -/
def quote? (s : String) : Option String :=
  (joinAll? (cutAtMarks (s.toList.flatMap (Text.quoteChar '"')))).map fun cs =>
    String.ofList ('"' :: cs ++ ['"'])

example : quote? "say \"a\\b\"" = some "\"say \\\"a\\\\b\\\"\"" := by decide +kernel
example : quote? "a\x08" = some "\"ax08\"" := by decide +kernel
example : quote? "\x1b[0m" = none := by decide +kernel
example : quote? "C:\\xy" = some "\"C:\\xy\"" := by decide +kernel
example : quote? "\\xy" = some "\"\\u00y\"" := by decide +kernel

end NativeVariants.Toml
