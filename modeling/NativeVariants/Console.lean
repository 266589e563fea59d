import NativeVariants.Journal
import NativeVariants.Text.Lines
import NativeVariants.Text.Plain

/-!
# The console

What a command shows, piece by piece, and how the pieces read on the two streams of a terminal.
Journal entries keep their colours; other text loses its control sequences unless colour is wanted.
-/

namespace NativeVariants

/-- One piece of what a command shows. -/
inductive Piece where
  | entry (e : Entry)
  | say (text : String)
  /-- Text for the error stream. -/
  | complain (text : String)
  /-- An answer, as it is typed. -/
  | typed (answer : String)
  deriving DecidableEq, Repr, Inhabited

/-- How pieces are shown: with debug entries or without, in colour or plain, and at what time. -/
structure Console where
  verbose : Bool := false
  colored : Bool := false
  time : TimeOfDay := ⟨0, 0, 0, 0⟩
  deriving DecidableEq, Repr, Inhabited

namespace Piece

/-- Whether the piece goes to the error stream. -/
def isComplaint : Piece → Bool
  | entry e => e.level.isComplaint
  | complain _ => true
  | say _ | typed _ => false

def entry? : Piece → Option Entry
  | entry e => some e
  | _ => none

end Piece

namespace Console

def text (console : Console) : Piece → String
  | .entry e => if e.isShown console.verbose then e.consoleText console.time else ""
  | .say text | .complain text => if console.colored then text else Text.plain text
  | .typed answer => answer ++ "\n"

/-- What reaches the error stream, or the other one. -/
def stream (console : Console) (complaints : Bool) (pieces : List Piece) : String :=
  String.join ((pieces.filter (·.isComplaint == complaints)).map console.text)

def output (console : Console) : List Piece → String :=
  console.stream false

def complaints (console : Console) : List Piece → String :=
  console.stream true

/-- The text of a stream as a transcript holds it, where all lines end in line feeds alone. -/
def transcript (text : String) : String :=
  String.ofList (Text.dropReturns text.toList)

end Console

/-- The entries among the pieces. -/
def journalOf (pieces : List Piece) : List Entry :=
  pieces.filterMap Piece.entry?

end NativeVariants
