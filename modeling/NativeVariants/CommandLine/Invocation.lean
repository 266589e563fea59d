import NativeVariants.CommandLine.Switch
import NativeVariants.Journal
import NativeVariants.Machine
import NativeVariants.Questionnaire

/-!
# Invocations

The commands of the program, and the command lines that call for them. A command line that calls
for none is answered with the usage of the command that could not be understood.
-/

namespace NativeVariants.CommandLine

inductive Command where
  | init (source : Questionnaire.Source)
  | variants (asData : Bool)
  /-- The host's family is only given to build for another one. -/
  | binaries (hostFamily : Option String)
  | viewSettings
  | listSettings
  | getSetting (key : String)
  | setSetting (key text : String)
  | unsetSetting (key : String)
  | checkSettings
  | listLogs
  | viewLog (fileName : Option String) (level : Option Level)
  | version
  /-- Shows how a command is called. -/
  | help (usage : String)
  deriving DecidableEq, Repr, Inhabited

structure Invocation where
  /-- The directory of the settings. -/
  directory : String
  verbose : Bool
  command : Command
  deriving DecidableEq, Repr, Inhabited

/-- How a command is called. -/
def usageOf (command pieces : String) : String :=
  s!"Usage: {command} {pieces}"

/-- A fault, and the command that it was found in with the pieces that it is made of. -/
structure UsageError where
  command : String
  pieces : String
  fault : UsageFault
  deriving DecidableEq, Repr, Inhabited

namespace UsageError

def text (e : UsageError) : String :=
  let usage :=
    if e.fault.showsUsage then
      s!"{usageOf e.command e.pieces}\nTry '{e.command} --help' for help.\n\n"
    else ""
  s!"{usage}Error: {e.fault.message}"

end UsageError

/-- The arguments that a command needs, by name, and the command that they make. -/
inductive Arguments where
  | zero (command : Command)
  | one (name : String) (command : String → Command)
  | two (first second : String) (command : String → String → Command)

namespace Arguments

def names : Arguments → List String
  | zero _ => []
  | one name _ => [name]
  | two first second _ => [first, second]

/-- The command for as many words as it needs. -/
def fill : Arguments → List String → Except UsageFault Command
  | zero command, [] => .ok command
  | zero _, extra => .error (.extraArguments extra)
  | one name _, [] => .error (.argumentMissing name)
  | one _ command, [word] => .ok (command word)
  | one .., _ :: extra => .error (.extraArguments extra)
  | two first _ _, [] => .error (.argumentMissing first)
  | two _ second _, [_] => .error (.argumentMissing second)
  | two _ _ command, [v, w] => .ok (command v w)
  | two .., _ :: _ :: extra => .error (.extraArguments extra)

end Arguments

/-- How the words behind a command's name are read; `hasPath` tells which paths lead somewhere. -/
structure Form where
  switches : List Switch := []
  arguments : (hasPath : String → Bool) → Words → Except UsageFault Arguments
  /-- The names of the arguments. -/
  names : List String := []

namespace Form

def ofArguments (arguments : Arguments) : Form where
  arguments _ _ := .ok arguments
  names := arguments.names

def pieces (form : Form) : String :=
  " ".intercalate ("[OPTIONS]" :: form.names)

/-- Reads the words behind the name of a command. -/
def read (form : Form) (command : String) (hasPath : String → Bool) (words : List String) :
    Except UsageFault Command := do
  let read ← readWords (form.switches ++ [helpSwitch]) true none {} words
  if read.on helpSwitch.long then return .help (usageOf command form.pieces)
  let arguments ← form.arguments hasPath read
  arguments.fill read.rest

end Form

/-- The value of a switch, if it is given and one of several. -/
def choice? (read : Words) (long : String) (choices : List String) :
    Except UsageFault (Option String) :=
  match read.value? long with
  | none => .ok none
  | some value =>
    if choices.contains value then .ok (some value)
    else .error (.badChoice ("--" ++ long) value choices)

/-- The levels that a log may be cut down to, by their names. -/
def levelNames : List (String × Level) :=
  [("info", .info), ("success", .success), ("warning", .warning), ("error", .error),
    ("debug", .debug), ("traceback", .traceback)]

def initForm : Form where
  switches := [⟨"non-interactive", none, false⟩, ⟨"config-file", none, true⟩]
  arguments hasPath read :=
    match read.value? "config-file" with
    | some path =>
      if path.toList.contains '\x00' then .error (.nullInPath path)
      else if hasPath path then .ok (.zero (.init (.file path)))
      else .error (.noSuchPath "--config-file" path)
    | none =>
      .ok (.zero (.init (if read.on "non-interactive" then .defaults else .answers)))

def variantsForm : Form where
  switches := [⟨"json", none, false⟩]
  arguments _ read := .ok (.zero (.variants (read.on "json")))

def binariesForm : Form where
  switches := [⟨"host-os", none, true⟩]
  arguments _ read :=
    (choice? read "host-os" knownFamilies).map fun family => .zero (.binaries family)

def logForm : Form where
  switches := [⟨"filename", none, true⟩, ⟨"list", none, false⟩, ⟨"level", none, true⟩]
  arguments _ read := do
    let level ← choice? read "level" (levelNames.map (·.1))
    if read.on "list" then return .zero .listLogs
    else
      let fileName := (read.value? "filename").filter fun name => !name.isEmpty
      return .zero (.viewLog fileName (level.bind (levelNames.lookup ·)))

/-- The commands by name. -/
def forms : List (String × Form) :=
  [("binaries", binariesForm), ("init", initForm), ("log", logForm), ("variants", variantsForm),
    ("version", .ofArguments (.zero .version))]

/-- The commands on settings by name, which stand behind the word `config`. -/
def settingsForms : List (String × Form) :=
  [("check", .ofArguments (.zero .checkSettings)),
    ("get", .ofArguments (.one "KEY" .getSetting)),
    ("list", .ofArguments (.zero .listSettings)),
    ("set", .ofArguments (.two "KEY" "VALUE" .setSetting)),
    ("unset", .ofArguments (.one "KEY" .unsetSetting)),
    ("view", .ofArguments (.zero .viewSettings))]

/-- The switches in front of the command's name. -/
def generalSwitches : List Switch :=
  [⟨"path", some 'p', true⟩, ⟨"verbose", some 'v', false⟩, helpSwitch]

/-- The pieces of a command that has further commands. -/
def groupPieces : String := "[OPTIONS] COMMAND [ARGS]..."

/-- Words that name one of several commands: what is said in front of the name, the name, and the
words behind it. They may ask for help instead. -/
inductive Naming where
  | named (read : Words) (name : String) (rest : List String)
  | help

def readNaming (switches : List Switch) (words : List String) : Except UsageFault Naming := do
  let read ← readWords switches false none {} words
  if read.on helpSwitch.long then return .help
  match read.rest with
  | [] => throw .commandMissing
  | name :: rest => return .named read name rest

/-- Why a name is none of the commands': it may be a switch that came too late. -/
def unknownName (switches : List Switch) (commands : List String) (name : String)
    (rest : List String) : UsageFault :=
  match readWords switches false none {} (name :: rest) with
  | .error fault => fault
  | .ok _ => .unknownCommand name (Text.resembling name commands)

/-- A result with the place where its fault was found. -/
def inside {α : Type} (command pieces : String) (result : Except UsageFault α) :
    Except UsageError α :=
  result.mapError (⟨command, pieces, ·⟩)

/-- Reads the words behind `config`, the name that further commands stand behind. -/
def readSettings (program : String) (hasPath : String → Bool) (words : List String) :
    Except UsageError Command := do
  match ← inside program groupPieces (readNaming [helpSwitch] words) with
  | .help => return .help (usageOf program groupPieces)
  | .named _ name rest =>
    let command := program ++ " " ++ name
    match settingsForms.lookup name with
    | some form => inside command form.pieces (form.read command hasPath rest)
    | none =>
      throw ⟨program, groupPieces,
        unknownName [helpSwitch] (settingsForms.map (·.1)) name rest⟩

/-- The name that the commands on settings stand behind. -/
def settingsName : String := "config"

/-- Reads the words behind the program's name. -/
def parse (program : String) (hasPath : String → Bool) (words : List String) :
    Except UsageError Invocation := do
  match ← inside program groupPieces (readNaming generalSwitches words) with
  | .help => return ⟨".", false, .help (usageOf program groupPieces)⟩
  | .named read name rest =>
    let command := program ++ " " ++ name
    let called ←
      if name = settingsName then readSettings command hasPath rest
      else
        match forms.lookup name with
        | some form => inside command form.pieces (form.read command hasPath rest)
        | none =>
          throw ⟨program, groupPieces,
            unknownName generalSwitches (settingsName :: forms.map (·.1)) name rest⟩
    return ⟨(read.value? "path").getD ".", read.on "verbose", called⟩

end NativeVariants.CommandLine
