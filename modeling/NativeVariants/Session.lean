import NativeVariants.Console
import NativeVariants.FileTree
import NativeVariants.Logged
import NativeVariants.Machine
import NativeVariants.Settings.Format

/-!
# Sessions

A command at work: it reads and writes files, keeps a journal in the session's log file, shows text
on the console and reads answers. All of it happens in a `World`, so that a command is a function
from worlds to worlds; what was done before a failure stays done.
-/

namespace NativeVariants

structure World where
  files : FileTree
  host : Host
  /-- The format of settings files. -/
  format : Settings.Format
  logDirectory : String
  sessionLog : String
  time : TimeOfDay := ⟨0, 0, 0, 0⟩
  /-- The version under which the program is installed. -/
  version : Option String := none
  answers : List String := []
  shown : List Piece := []
  /-- How much had been shown when an answer was first asked for in vain. -/
  unanswered : Option Nat := none

abbrev Session (α : Type) := ExceptT Failure (StateM World) α

namespace Session

variable {α : Type}

def display (piece : Piece) : Session Unit :=
  modify fun w => { w with shown := w.shown ++ [piece] }

/-- Shows an entry and adds it to the log file. -/
def write (e : Entry) : Session Unit := do
  display (.entry e)
  let w ← get
  let files ← w.files.append w.sessionLog (e.logText w.time ++ "\n")
  set { w with files }

def log (level : Level) (message : String) : Session Unit :=
  write ⟨level, message, 0⟩

/-- A detail below an informational entry. -/
def step (indent : Nat) (message : String) : Session Unit :=
  write ⟨.step, message, indent⟩

/-- Shows a line of text. -/
def say (text : String) : Session Unit :=
  display (.say (text ++ "\n"))

/-- Shows a line of text on the error stream. -/
def complain (text : String) : Session Unit :=
  display (.complain (text ++ "\n"))

def read (path : String) : Session String := do
  let text ← (← get).files.read path
  return text

/-- Replaces the text of a file, which is made when there is none. -/
def overwrite (path text : String) : Session Unit := do
  let w ← get
  let files ← w.files.write path text
  set { w with files }

/-- A computation with a journal, its entries being written as it goes. -/
def ofLogged (x : Logged α) : Session α := do
  x.journal.forM write
  let a ← x.result
  return a

/-- The failure of a session as its result. -/
def attempt (x : Session α) : Session (Except Failure α) :=
  ExceptT.mk (Except.ok <$> x.run)

/-- Answers a failure in the journal instead of passing it on. -/
def guarded (x : Session α) : Session (Option α) := do
  match ← attempt x with
  | .ok a => return some a
  | .error failure =>
    failure.answer.forM write
    return none

end Session

end NativeVariants
