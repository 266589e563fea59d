import NativeVariants.Binary

/-!
# Components

Libraries and applications. Configuring a component builds the binaries of its variants on a host
and adds them to those it has; of the debuggable ones the last becomes the development binary. A
library publishes its binaries. A component that cannot be configured stays as it is.
-/

namespace NativeVariants

inductive ComponentType where
  | library
  | application
  /-- A component that is neither. -/
  | general
  deriving DecidableEq, Repr, Inhabited

namespace ComponentType

def name : ComponentType → String
  | library => "library"
  | application => "application"
  | general => "component"

/-- The name at the beginning of a sentence. -/
def title : ComponentType → String
  | library => "Library"
  | application => "Application"
  | general => "Component"

/-- Reads one of the two types that settings may name. -/
def ofName? (name : String) : Option ComponentType :=
  if name = "library" then some library
  else if name = "application" then some application
  else none

end ComponentType

structure Component where
  type : ComponentType
  name : String := "main"
  module : Label
  baseName : Label
  machines : List Machine := []
  /-- The linkages by name; only libraries start with some. -/
  linkages : Option (List Value) := none
  binaries : List Binary := []
  /-- The position of the development binary. -/
  development : Option Nat := none
  publications : List Publication := []

/-- A builder of a component's binaries. -/
abbrev ComponentBuilder := Builder LanguageFactory Binary

/-- How a component is to be configured; what is left out is chosen by the host or by custom. -/
structure ConfigureRequest where
  language : String := "cpp"
  hostFamily : Option String := none
  buildTypes : List BuildType := []

namespace Component

/-- A component of a project that is called `projectName`. -/
def ofProject (type : ComponentType) (projectName : String) : Component where
  type
  module := .string (Text.camelCase projectName)
  baseName := .string projectName
  linkages := if type = .library then some [.string "shared"] else none

/-- The factories for a language, with their priorities: those of the language itself, and for a
library in another language the general ones behind them. -/
def factories (c : Component) (language : Language) :
    List (BinaryKind × LanguageFactory × Value) :=
  let entry (kind : BinaryKind) (l : Language) (priority : Value) :
      BinaryKind × LanguageFactory × Value := (kind, ⟨kind, l, c.module⟩, priority)
  let libraries (l : Language) (priority : Value) :=
    [entry .sharedLibrary l priority, entry .staticLibrary l priority]
  match c.type with
  | .library =>
    libraries language languagePriority ++
      if language = .cpp then [] else libraries .cpp genericPriority
  | _ => [entry .executable language languagePriority]

/-- What is declared to the builder of a component. -/
def declarations (c : Component) (language : Language) (request : ConfigureRequest) :
    List (Declaration LanguageFactory) :=
  [.buildTypes (if request.buildTypes.isEmpty then BuildType.defaults else request.buildTypes),
    .machines c.machines, .baseName (Deferred.of c.baseName),
    .hostFamily request.hostFamily] ++
  (match c.type with
    | .library => [.linkages (c.linkages.getD []) true]
    | _ => [.factoryRequired true]) ++
  (c.factories language).map fun (kind, factory, priority) =>
    .factory (.string kind.name) factory priority

/-- Makes declarations in order, up to the first that fails. -/
def declareAll (b : ComponentBuilder) :
    List (Declaration LanguageFactory) → Logged ComponentBuilder
  | [] => pure b
  | d :: rest =>
    let (declared, b) := b.declare d
    declared.andThen fun _ => declareAll b rest

/-- The builder of a library or an application, before anything is built. -/
def builder (c : Component) (request : ConfigureRequest) : Logged ComponentBuilder := do
  if c.type = .general then throw .wrongType
  let language ← Logged.lift (Language.ofText request.language)
  if c.machines.isEmpty then throw (.configuration (.noTargetMachine c.type.name))
  if c.type = .library && (c.linkages.getD []).isEmpty then
    throw (.configuration (.noLinkage "library"))
  declareAll (Builder.ofComponent c.type.name) (c.declarations language request)

/-- Whether a binary may become the development binary: libraries prefer shared ones. -/
def mayDevelop (c : Component) (b : Binary) : Bool :=
  b.isDebuggable &&
    match c.type with
    | .library =>
      b.kind == .sharedLibrary ||
        (!(c.linkages.getD []).contains (.string Linkage.shared.name) && b.kind == .staticLibrary)
    | _ => true

/-- The position of the last binary that may become the development binary. -/
def lastDevelopment? (c : Component) (binaries : List Binary) : Option Nat :=
  ((binaries.zipIdx.filter fun (b, _) => c.mayDevelop b).getLast?).map (·.2)

def withBinaries (c : Component) (added : List Binary) : Component :=
  let binaries := c.binaries ++ added
  { c with
    binaries
    development := (c.lastDevelopment? binaries).or c.development
    publications :=
      if c.type = .library then c.publications ++ binaries.map Publication.ofBinary
      else c.publications }

/-- The word for what was configured in the closing note. -/
def configuredAs (c : Component) : String :=
  if c.type = .library then "library" else "application"

/-- Builds the binaries of a library or an application for a project on a host. The builder, if
there is one, and the component after it. -/
def configure (c : Component) (project : Project) (host : Host) (request : ConfigureRequest) :
    Logged ComponentBuilder × Component :=
  let prepared := c.builder request
  match prepared.result with
  | .error failure => (⟨.error failure, prepared.journal⟩, c)
  | .ok b =>
    let (run, b) := b.binaries LanguageFactory.make project host ()
    let journal := prepared.journal ++ run.journal
    match run.result with
    | .error failure => (⟨.error failure, journal⟩, c)
    | .ok added =>
      let after := c.withBinaries added
      let notes := added.map fun binary =>
        (⟨.debug, s!"Added {binary.kind.name} '{binary.name}' to the {c.type.name}.", 0⟩ : Entry)
      let count := after.binaries.length
      let closing :=
        ⟨.info, s!"Configured {c.configuredAs} '{c.module.text}' with {count} binary(ies).", 0⟩
      (⟨.ok b, journal ++ notes ++ [closing]⟩, after)

end Component

end NativeVariants
