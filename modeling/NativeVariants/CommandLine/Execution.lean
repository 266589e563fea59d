import NativeVariants.CommandLine.Invocation
import NativeVariants.Listing
import NativeVariants.LogView
import NativeVariants.Settings.Editor

/-!
# Execution

Carrying out a command line in a world: what is shown, how the command ends, and the world after it.
-/

namespace NativeVariants.CommandLine

/-- Shows the version under which the program is installed. -/
def showVersion : Session Unit := do
  match (← get).version with
  | some version => Session.log .info s!"variantbuilder version {version}"
  | none =>
    Session.log .error
      "Error: Could not determine the version of variantbuilder. Is it installed correctly?"

namespace Command

/-- What a command does with the settings of a directory. Listings and checks answer their failures
in the journal. -/
def run (directory : String) : Command → Session Unit
  | init source => Questionnaire.create directory source
  | variants asData => do let _ ← Session.guarded (Listing.variants directory asData)
  | binaries family => do let _ ← Session.guarded (Listing.binaries directory family)
  | viewSettings => Settings.view directory
  | listSettings => Settings.showAll directory
  | getSetting key => Settings.showKey directory key
  | setSetting key text => Settings.store directory key text
  | unsetSetting key => Settings.erase directory key
  | checkSettings => do let _ ← Session.guarded (Settings.check directory)
  | listLogs => LogView.list
  | viewLog fileName level => LogView.view fileName level
  | version => showVersion
  | help usage => Session.say usage

end Command

/-- How a command line ends. -/
inductive Ending where
  | finished
  | misused
  | failed (failure : Failure)
  deriving DecidableEq, Repr, Inhabited

/-- The number that the program ends with. -/
def Ending.code : Ending → Nat
  | finished => 0
  | failed _ => 1
  | misused => 2

/-- Carries out a command line: how it ends, whether debug entries are shown, and the world after
it, where `shown` is what the command showed. -/
def execute (program : String) (words : List String) (w : World) : Ending × Bool × World :=
  let w := { w with shown := [], unanswered := none }
  match parse program w.files.has words with
  | .error ⟨_, _, .nullInPath path⟩ => (.failed (.file .nullInPath path), false, w)
  | .error e => (.misused, false, { w with shown := [.complain (e.text ++ "\n")] })
  | .ok invocation =>
    match (invocation.command.run invocation.directory).run.run w with
    | (.ok (), w) => (.finished, invocation.verbose, w)
    | (.error failure, w) => (.failed failure, invocation.verbose, w)

end NativeVariants.CommandLine
