/-!
# Plain text

Text without the control sequences of a terminal: an escape and a bracket, parameters, intermediate
characters, and a final character. A sequence that does not come to its end is no sequence.
-/

namespace NativeVariants.Text

def escape : Char := '\x1b'

def isParameter (c : Char) : Bool :=
  '0' ≤ c && c ≤ '?'

def isIntermediate (c : Char) : Bool :=
  ' ' ≤ c && c ≤ '/'

def isFinal (c : Char) : Bool :=
  '@' ≤ c && c ≤ '~'

/-- Reads one character after `held`, the beginning of a sequence backwards: what is known to be
plain, and what is held now. -/
def holdBack (held : List Char) (c : Char) : List Char × List Char :=
  match held with
  | [_] => if c = '[' then ([], c :: held) else afresh
  | last :: _ =>
    if isFinal c then ([], [])
    else if isIntermediate c || (isParameter c && !isIntermediate last) then ([], c :: held)
    else afresh
  | [] => afresh
where
  afresh : List Char × List Char :=
    if c = escape then (held.reverse, [c]) else (held.reverse ++ [c], [])

def plainFrom (held : List Char) : List Char → List Char
  | [] => held.reverse
  | c :: cs => (holdBack held c).1 ++ plainFrom (holdBack held c).2 cs

/-- The text without its control sequences. -/
def plain (s : String) : String :=
  String.ofList (plainFrom [] s.toList)

example : plain "\x1b[36ma\x1b[1;2mb\x1b[0m" = "ab" := by decide +kernel
example : plain "\x1b[\x1b[0mx\x1b" = "\x1b[x\x1b" := by decide +kernel
example : plain "\x1b[4:3 qa\x1b[ 1m" = "a\x1b[ 1m" := by decide +kernel

end NativeVariants.Text
