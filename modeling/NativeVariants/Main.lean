import NativeVariants.CommandLine.Execution
import Std.Time.Zoned

/-!
# The program

Runs a command line on the files of the machine. What the command may use is read into a world, and
what it changes is written back. Answers are read one at a time: a command that asks in vain is
carried out again with one answer more.
-/

namespace NativeVariants.Program

def currentTime : IO Clock := do
  let now ← Std.Time.PlainDateTime.now
  let date : Date := ⟨now.year.toInt.toNat, now.month.toInt.toNat, now.day.toInt.toNat⟩
  return ⟨date, ⟨now.hour.toInt.toNat, now.minute.toInt.toNat, now.second.toInt.toNat, 0⟩⟩

/-- The first line of a file that tells about the machine; none where there is no such file. -/
def factIn (path : String) : IO String := do
  try return Text.trim (← IO.FS.readFile path) catch _ => return ""

def currentHost : IO Host := do
  return { system := ← factIn "/proc/sys/kernel/ostype", machine := ← factIn "/proc/sys/kernel/arch" }

/-- The paths that a command line may lead to: its words, their parts that may be values, and the
settings below each. -/
def pathsIn (words : List String) : List String :=
  let values := words.flatMap fun word =>
    [word, String.ofList (word.toList.drop 2), ((Text.cut '=' word).2).getD ""]
  let places := "." :: values.filter fun value => !value.isEmpty
  places ++ places.map Settings.filePath

/-- The tree with what is at a place of the machine. -/
def addPlace (files : FileTree) (place : Place) : IO FileTree := do
  let path := (← IO.currentDir) / place.text
  if ← path.isDir then return files.addDirectory place
  else if ← path.pathExists then
    let bytes ← IO.FS.readBinFile path
    let made := (← path.metadata).modified
    let stamp := made.sec * 1000000000 + made.nsec.toNat
    return files.addFile place ⟨.ofBytes bytes.toList, stamp⟩
  else return files

/-- The tree with the files of a directory. -/
def addEntries (files : FileTree) (directory : Place) : IO FileTree := do
  let mut files ← addPlace files directory
  for entry in ← ((← IO.currentDir) / directory.text).readDir do
    files ← addPlace files (directory ++ [entry.fileName])
  return files

def print (console : Console) (pieces : List Piece) : IO Unit := do
  let pieces := pieces.filter fun piece => !piece matches .typed _
  for piece in pieces do
    if piece.isComplaint then IO.eprint (console.text piece) else IO.print (console.text piece)
  (← IO.getStdout).flush

/-- Carries out a command line of which `printed` pieces are shown already. -/
partial def converse (words : List String) (w : World) (printed : Nat) :
    IO (CommandLine.Ending × World) := do
  let (ending, verbose, after) := CommandLine.execute "variantbuilder" words w
  let console : Console := { verbose, colored := ← (← IO.getStdout).isTty, time := w.time }
  let rest := after.shown.drop printed
  match after.unanswered with
  | none =>
    print console rest
    return (ending, after)
  | some shown =>
    print console (rest.take (shown - printed))
    let line ← (← IO.getStdin).getLine
    if line.isEmpty then
      print console (after.shown.drop shown)
      return (ending, after)
    else
      let answer := String.ofList (line.toList.filter fun c => c ≠ '\n' && c ≠ '\r')
      converse words { w with answers := w.answers ++ [answer] } shown

def run (words : List String) : IO UInt32 := do
  let home := (← IO.getEnv "HOME").getD "/"
  let logDirectory := joinPath home ".variantbuilder/logs"
  IO.FS.createDirAll logDirectory
  let start ← currentTime
  let here := Place.ofPath [] (← IO.currentDir).toString
  let mut files := (FileTree.empty here).addDirectory (Place.ofPath here logDirectory)
  files ← addEntries files (Place.ofPath here logDirectory)
  for path in pathsIn words do files ← addPlace files (Place.ofPath here path)
  let w : World :=
    { files, host := ← currentHost, format := .toml, logDirectory
      sessionLog := joinPath logDirectory (sessionFileName start)
      time := start.time, version := some "0.1.0" }
  let (ending, after) ← converse words w 0
  for (place, text) in after.files.changes files do IO.FS.writeFile place.text text
  if let .failed failure := ending then IO.eprintln failure.report
  return ending.code.toUInt32

end NativeVariants.Program

def main (words : List String) : IO UInt32 :=
  NativeVariants.Program.run words
