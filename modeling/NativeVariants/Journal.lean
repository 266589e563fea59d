import NativeVariants.Failure
import NativeVariants.Moment
import NativeVariants.Text.Blank
import NativeVariants.Text.Lines

/-!
# The journal

What the program says while it works: entries of several levels, their lines in the log file and
their text on the console. Every entry reaches the log file; debug entries reach the console only
on demand, and warnings and errors go to the error stream.
-/

namespace NativeVariants

inductive Level where
  | debug
  | info
  | success
  | warning
  | error
  | traceback
  /-- A detail below an informational entry, without a time of its own. -/
  | step
  deriving DecidableEq, Repr, Inhabited

/-- Codes that colour a terminal's text. -/
inductive Color where
  | cyan
  | green
  | yellow
  | red
  | dim
  deriving DecidableEq, Repr, Inhabited

namespace Color

def code : Color → String
  | cyan => "\x1b[36m"
  | green => "\x1b[32m"
  | yellow => "\x1b[33m"
  | red => "\x1b[31m"
  | dim => "\x1b[37m\x1b[2m"

def bright : String := "\x1b[1m"

def reset : String := "\x1b[0m"

end Color

namespace Level

/-- The word between brackets in the log file. -/
def label : Level → String
  | debug => "DEBUG"
  | info => "INFO"
  | success => "SUCCESS"
  | warning => "WARNING"
  | error => "ERROR"
  | traceback => "TRACEBACK"
  | step => ""

def color : Level → Color
  | debug => .dim
  | info | step => .cyan
  | success => .green
  | warning => .yellow
  | error | traceback => .red

/-- The sign in front of a message, in bright colour. -/
def sign : Level → Option String
  | success => some "✓"
  | warning => some "⚠"
  | error => some "✖"
  | _ => none

/-- Whether the level is written to the error stream. -/
def isComplaint : Level → Bool
  | warning | error | traceback => true
  | _ => false

end Level

structure Entry where
  level : Level
  message : String
  /-- How many blanks precede the message of a step. -/
  indent : Nat := 0
  deriving DecidableEq, Repr, Inhabited

namespace Entry

/-- What precedes the message, in the log file as on the console. -/
def lead (e : Entry) : String :=
  match e.level.sign with
  | some sign => Color.bright ++ sign ++ " " ++ Color.reset ++ e.level.color.code
  | none => String.ofList (List.replicate e.indent ' ')

/-- The entry in the log file at a given time, without its last line feed. -/
def logText (time : TimeOfDay) (e : Entry) : String :=
  let stamp := if e.level = .step then "" else s!"[{time.clock}] "
  stamp ++ "[" ++ e.level.label ++ "] " ++ e.lead ++ e.message

/-- The lines that the entry adds to the log file. -/
def logLines (time : TimeOfDay) (e : Entry) : List String :=
  Text.lines (e.logText time)

/-- The entry on the console. -/
def consoleText (time : TimeOfDay) (e : Entry) : String :=
  let stamp :=
    if e.level = .step then "" else Color.bright ++ s!"[{time.clock}]" ++ Color.reset ++ " "
  e.level.color.code ++ stamp ++ e.lead ++ e.message ++ Color.reset ++ "\n"

/-- Whether the entry shows on the console. -/
def isShown (verbose : Bool) (e : Entry) : Bool :=
  e.level ≠ .debug || verbose

end Entry

/-- The name of the log file of a session that began at `start`. -/
def sessionFileName (start : Clock) : String :=
  s!"variantbuilder_{start.date.compact}_{start.time.compact}.log"

namespace Failure

/-- The entries that report a failure nobody was ready for: its words, and the pieces of its report
that are not blank. -/
def unhandled (failure : Failure) : List Entry :=
  ⟨.error, s!"An unhandled exception occurred: {failure.message}", 0⟩ ::
    ((Text.brokenLines failure.report).filter fun piece => !(Text.trim piece).isEmpty).map
      fun piece => ⟨.traceback, ">> " ++ piece, 0⟩

/-- How a command answers a failure: wrong configurations are explained, giving up is
acknowledged, all else is reported in full. -/
def answer (failure : Failure) : List Entry :=
  match failure.kind with
  | .abort => [⟨.warning, "\nCommand aborted by user.", 0⟩]
  | .configuration =>
    [⟨.error, s!"Configuration error: {failure.message}", 0⟩,
      ⟨.info, "Please check the [component] section of your configuration file.", 0⟩]
  | .general | .missingValue => report "Error: "
  | .noFile => report "Error: File not found - "
  | .commandLine | .usage | .badParameter => report "CLI Error: "
  | _ => report "\nAn unexpected error occurred: "
where
  report (opening : String) : List Entry :=
    ⟨.error, opening ++ failure.message, 0⟩ :: failure.unhandled

end Failure

end NativeVariants
