/-!
# Lines

Two ways to cut a text into lines. `lines` knows the line feed only; `brokenLines` cuts at every
line boundary, as a report of several paragraphs is cut before each piece is written on its own.
-/

namespace NativeVariants.Text

/-- The lines of a text that ends each of its lines with a line feed. -/
def lines (s : String) : List String :=
  (s.toList.splitOn '\n').map String.ofList

/-- Line feed, vertical tab, form feed, carriage return, the separators `\x1c` to `\x1e`, the next
line control and the two separators of Unicode. -/
def isLineBreak (c : Char) : Bool :=
  let n := c.toNat
  (10 ≤ n && n ≤ 13) || (28 ≤ n && n ≤ 30) || n == 0x85 || n == 0x2028 || n == 0x2029

/-- Cuts at every line boundary, a carriage return followed by a line feed being one; `piece` is
the line read so far, backwards. A text that ends in a boundary has no empty last line. -/
def brokenLinesFrom (piece : List Char) : List Char → List (List Char)
  | [] => if piece.isEmpty then [] else [piece.reverse]
  | '\r' :: '\n' :: cs => piece.reverse :: brokenLinesFrom [] cs
  | c :: cs =>
    if isLineBreak c then piece.reverse :: brokenLinesFrom [] cs
    else brokenLinesFrom (c :: piece) cs

def brokenLines (s : String) : List String :=
  (brokenLinesFrom [] s.toList).map String.ofList

/-- Carriage returns, alone or before a line feed, read as line feeds. -/
def unifyNewlines : List Char → List Char
  | [] => []
  | '\r' :: '\n' :: cs => '\n' :: unifyNewlines cs
  | c :: cs => (if c = '\r' then '\n' else c) :: unifyNewlines cs

/-- A text as it is read from a file. -/
def readNewlines (s : String) : String :=
  String.ofList (unifyNewlines s.toList)

/-- Line feeds without the carriage returns in front of them; other carriage returns stay. -/
def dropReturns : List Char → List Char
  | [] => []
  | '\r' :: '\n' :: cs => '\n' :: dropReturns cs
  | c :: cs => c :: dropReturns cs

/-- The lines of a file, each with its line feed where it has one. -/
def fileLinesFrom (piece : List Char) : List Char → List (List Char)
  | [] => if piece.isEmpty then [] else [piece.reverse]
  | c :: cs =>
    if c = '\n' then ('\n' :: piece).reverse :: fileLinesFrom [] cs
    else fileLinesFrom (c :: piece) cs

def fileLines (s : String) : List String :=
  (fileLinesFrom [] s.toList).map String.ofList

end NativeVariants.Text
