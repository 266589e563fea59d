import NativeVariants.Session
import NativeVariants.Text.Search

/-!
# Viewing log files

The lines of a log file, each in the colour of its level, all of them or those of one level. The
level of a line is told by its mark, the level's label between brackets.
-/

namespace NativeVariants.LogView

/-- The mark of a level in a log line. -/
def mark (level : Level) : String :=
  "[" ++ level.label ++ "]"

/-- The levels that colour a line, in the order in which their marks are looked for. -/
def marked : List Level :=
  [.warning, .error, .traceback, .debug, .success, .info]

def lineColor (line : String) : Color :=
  match marked.find? fun level => Text.holds line (mark level) with
  | some level => level.color
  | none => .cyan

/-- A line as it is shown. -/
def shownLine (line : String) : String :=
  (lineColor line).code ++ Text.trim line ++ Color.reset

/-- The lines that are shown: those with the mark of a level, or all. -/
def select (level : Option Level) (lines : List String) : List String :=
  lines.filter fun line =>
    match level with
    | some level => Text.holds line (mark level)
    | none => true

/-- The names of the log files in a directory, with their stamps. -/
def logFiles (files : FileTree) (directory : String) : Except Failure (List (String × Int)) := do
  let entries ← files.entries directory
  return entries.filterMap fun (name, node) =>
    if name.endsWith ".log" then
      match node with
      | .file f => some (name, f.stamp)
      | .directory => some (name, 0)
    else none

/-- The one that was made last; of several the first. -/
def latest? (logs : List (String × Int)) : Option String :=
  (logs.foldl (fun best (name, stamp) =>
    match best with
    | some (_, greatest) => if greatest < stamp then some (name, stamp) else best
    | none => some (name, stamp)) (none : Option (String × Int))).map (·.1)

/-- Lists the log files by name. -/
def list : Session Unit := do
  let w ← get
  let logs ←
    if w.files.has w.logDirectory then logFiles w.files w.logDirectory else pure []
  if logs.isEmpty then Session.say "No log files found."
  else
    Session.say "Available log files:"
    let names := (logs.map (·.1)).mergeSort fun a b => decide (a ≤ b)
    names.forM fun name => Session.say ("  " ++ name)

/-- The path of the log file with a name, or of the latest one. -/
def path? (fileName : Option String) : Session (Option String) := do
  let w ← get
  match fileName with
  | some name => return some (joinPath w.logDirectory name)
  | none =>
    let logs ← logFiles w.files w.logDirectory
    return (latest? logs).map (joinPath w.logDirectory)

/-- Shows a log file, or those lines of it that are of a level; the lines before bytes that are no
text are shown before these are reported. -/
def view (fileName : Option String) (level : Option Level) : Session Unit := do
  let found := (← path? fileName).filter (← get).files.has
  match found with
  | none => Session.say "No log files found."
  | some path =>
    Session.say s!"Displaying log file: {path}"
    match (← get).files.content path with
    | .ok content =>
      let (lines, fault) := content.lines
      (select level lines).forM fun line => Session.say (shownLine line)
      fault.forM fun fault => throw (.undecodable fault)
    | .error (.file fault place) =>
      let why := fault.message place
      Session.complain s!"Error reading log file {path}: {why}"
      Session.say "Please check file permissions."
    | .error failure => throw failure

end NativeVariants.LogView
