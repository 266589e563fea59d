import NativeVariants.Settings.Path
import NativeVariants.Settings.Store

/-!
# Asking

Questions with default answers, and the questionnaire that new settings come from. Every question
takes an answer off the list of those that will be typed; when none is left the session is given
up, so asking again ends.
-/

namespace NativeVariants.Questionnaire

variable {α : Type}

def answer : Session String := do
  let w ← get
  match w.answers with
  | [] =>
    set { w with unanswered := w.unanswered.or (some w.shown.length) }
    throw (.raised .abort "")
  | a :: rest =>
    set { w with answers := rest }
    Session.display (.typed a)
    return a

/-- Asks once; an empty answer stands for the default. -/
def ask (question default : String) : Session String := do
  Session.display (.say s!"{question} [{default}]: ")
  let a ← answer
  return if a.isEmpty then default else a

/-- Asks so many times, up to the first answer that will do. -/
def repeated (once : Session (Option α)) : Nat → Session α
  | 0 => throw (.raised .abort "")
  | n + 1 => do
    match ← once with
    | some a => return a
    | none => repeated once n

/-- Asks until an answer will do or none is left. -/
def untilSome (once : Session (Option α)) : Session α := do
  repeated once ((← get).answers.length + 1)

/-- Names between quotation marks, with commas. -/
def quotedNames (names : List String) : String :=
  ", ".intercalate (names.map Text.quote)

def askAmong (question : String) (names : List String) (default : String) : Session String :=
  untilSome do
    let offered := ", ".intercalate names
    let a ← ask s!"{question} ({offered})" default
    if names.contains a then return some a
    else
      let given := Text.quote a
      let allowed := quotedNames names
      Session.say s!"Error: {given} is not one of {allowed}."
      return none

/-- The parts of an answer with commas; a blank answer is the empty list, commas alone are no
answer. -/
def parts? (a : String) : Option (List String) :=
  if (Text.trim a).isEmpty then some []
  else
    match Settings.listParts a with
    | [] => none
    | parts => some parts

def askList (question default : String) : Session (List String) :=
  untilSome do
    match parts? (← ask question default) with
    | some parts => return some parts
    | none =>
      Session.log .warning
        s!"Invalid input for {question}. Please provide a comma-separated list of values."
      return none

/-- Whether a text has a colon with something before and after the first one. -/
def isMachineText (text : String) : Bool :=
  match Text.cut ':' text with
  | (family, some architecture) =>
    !(Text.trim family).isEmpty && !(Text.trim architecture).isEmpty
  | (_, none) => false

def askMachines (default : String) : Session (List String) :=
  untilSome do
    let question := "Target Machines (comma-separated <os>:<arch>, e.g., linux:x86-64)"
    let machines ← askList question default
    if machines.isEmpty then return none
    else if machines.all isMachineText then return some machines
    else
      Session.log .warning "Target machines must be written as <os>:<arch>. Please try again."
      return none

def texts (ss : List String) : Value :=
  .list (ss.map .string)

def settings (name group version type language : String) (buildTypes machines : List String)
    (linkages : Option (List String)) : Table :=
  [("project", .table
      [("name", .string name), ("group", .string group), ("version", .string version)]),
    ("component", .table
      ([("type", .string type), ("base_name", .string name), ("language", .string language),
        ("build_types", texts buildTypes), ("target_machines", texts machines)] ++
        linkages.toList.map fun ls => ("linkages", texts ls)))]

/-- The settings of a project that nobody was asked about: a library for the host. -/
def defaults (host : Host) : Table :=
  settings "greeter" "org.example" "0.1" "library" "cpp" ["debug", "release"]
    [host.asTarget.text] (some ["shared"])

/-- Asks for everything that settings hold. -/
def interview : Session Table := do
  let host := (← get).host
  let name ← ask "Project Name" "greeter"
  let group ← ask "Group (e.g., org.example)" "org.example"
  let version ← ask "Version" "0.1"
  let type ← askAmong "Component Type" ["library", "application"] "library"
  let language ← askAmong "Language" ["cpp", "swift"] "cpp"
  let buildTypes ← askList "Build Types (comma-separated: debug, release)" "debug,release"
  let machines ← askMachines host.asTarget.text
  let linkages ←
    if type = "library" then
      some <$> askList "Linkages (comma-separated: shared, static)" "shared"
    else pure none
  return settings name group version type language buildTypes machines linkages

inductive Source where
  | file (path : String)
  | defaults
  | answers
  deriving DecidableEq, Repr, Inhabited

/-- The new settings, unless the user gives up. -/
def gather : Source → Session (Option Table)
  | .file path => do
    Session.log .info s!"Loading configuration from {path}"
    let text ← Session.read path
    match (← get).format.decode? text with
    | some settings => return some settings
    | none => throw .malformedSettings
  | .defaults => do
    Session.log .info "Running in non-interactive mode with default values."
    return some (defaults (← get).host)
  | .answers => do
    Session.log .info "Please provide the following details:"
    match ← Session.attempt interview with
    | .ok settings => return some settings
    | .error failure =>
      if failure.kind = .abort then
        Session.log .warning "\nProject initialization aborted by user."
        return none
      else throw failure

/-- Makes the settings file of a directory. Settings that cannot be written are reported. -/
def create (directory : String) (source : Source) : Session Unit := do
  Session.log .info "Initializing a new variantbuilder project."
  let some settings ← gather source | return
  match ← Session.attempt (Settings.save directory settings) with
  | .ok true =>
    let path := Settings.filePath directory
    Session.log .success
      s!"variantbuilder project initialized successfully! Configuration saved to {path}"
    Session.log .info
      "Next steps: Run 'variantbuilder variants' to list the variants of your component."
  | .ok false => return
  | .error failure =>
    let why := failure.message
    Session.log .error
      s!"An unexpected error occurred while saving configuration file: {why}"
    failure.unhandled.forM Session.write

end NativeVariants.Questionnaire
