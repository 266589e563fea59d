import NativeVariants.Component

/-!
# Specifications

The `[project]` and `[component]` tables of the settings, read and checked. What is missing is
filled in: the host machine, the usual build types, shared linkage for a library.
-/

namespace NativeVariants

structure Specification where
  projectName : String
  group : String
  version : String
  type : ComponentType
  baseName : String
  language : String
  buildTypes : List BuildType
  machines : List Machine
  linkages : List Linkage
  deriving DecidableEq, Repr, Inhabited

namespace Specification

/-- A configuration fault as a failure. -/
def refuse {α : Type} (fault : ConfigurationFault) : Except Failure α :=
  .error (.configuration fault)

/-- The text of a field, or another text where there is none. -/
def textOf (host : Host) (t : Table) (key default : String) : Except Failure String :=
  match t.get? key with
  | some v => host.spell v
  | none => .ok default

/-- The entries of a field: several in a list, a single text or table by itself. -/
def entries (t : Table) (key : String) : Except Failure (List Value) :=
  match t.get? key with
  | none | some .null => .ok []
  | some (.list items) => .ok items
  | some (.string s) => .ok [.string s]
  | some (.table fields) => .ok [.table fields]
  | some _ => refuse (.notAList key)

/-- A flag of a table, off unless it is set to something true. -/
def flag (t : Table) (key : String) : Bool :=
  match t.get? key with
  | some v => v.truthy
  | none => false

def readBuildType (host : Host) : Value → Except Failure BuildType
  | .string s =>
    match BuildType.ofName? (Text.lower (Text.trim s)) with
    | some buildType => .ok buildType
    | none => refuse (.unknownBuildType s)
  | .table fields => do
    let name := Text.trim (← textOf host fields "name" "")
    if name.isEmpty then refuse .unnamedBuildType
    else return ⟨name, flag fields "debuggable", flag fields "optimized"⟩
  | _ => refuse .badBuildType

def readMachine (host : Host) : Value → Except Failure Machine
  | .string s =>
    match Machine.parse? s with
    | some machine => .ok machine
    | none => refuse (.malformedMachine s)
  | .table fields => do
    let family := Text.lower (Text.trim (← textOf host fields "os" ""))
    let architecture := Text.lower (Text.trim (← textOf host fields "arch" ""))
    if family.isEmpty || architecture.isEmpty then refuse .incompleteMachine
    else return Machine.ofNames family architecture
  | _ => refuse .badMachine

def readLinkage (host : Host) (v : Value) : Except Failure Linkage := do
  let text ← host.spell v
  match Linkage.ofName? (Text.lower (Text.trim text)) with
  | some linkage => return linkage
  | none => refuse (.unknownLinkage text)

/-- The two tables of the settings, either of which may be missing. -/
def tables (settings : Value) : Except Failure (Table × Table) :=
  match settings with
  | .table fields =>
    let field (key : String) : Value := (Fields.get? key fields).getD (.table [])
    match field "project", field "component" with
    | .table project, .table component => .ok (project, component)
    | _, _ => refuse .notTables
  | _ => .error .noAttribute

def readType (host : Host) (component : Table) : Except Failure ComponentType := do
  let name := Text.lower (Text.trim (← textOf host component "type" "library"))
  match ComponentType.ofName? name with
  | some type => return type
  | none => refuse (.unknownComponentType name)

/-- The machines to build for; the host when none are named. -/
def machinesOrHost (host : Host) (machines : List Machine) : Logged (List Machine) :=
  if machines.isEmpty then do
    let target := host.asTarget
    Logged.write .debug
      s!"No target machines configured, defaulting to the host machine {target.text}."
    return [target]
  else return machines

/-- The linkages that count for a type of component. -/
def linkagesFor (type : ComponentType) (component : Table) (linkages : List Linkage) :
    Logged (List Linkage) :=
  if type = .application then do
    unless linkages.isEmpty do Logged.write .warning "Linkages are ignored for applications."
    return []
  else return if linkages.isEmpty && !component.has "linkages" then [.shared] else linkages

/-- The base name of the component: its own if it has one, else the project's name. -/
def baseNameOf (host : Host) (component : Table) (projectName : String) : Except Failure String :=
  match component.get? "base_name" with
  | some v => if v.truthy then host.spell v else .ok projectName
  | none => .ok projectName

/-- Reads and checks settings on a host. -/
def ofSettings (host : Host) (settings : Value) : Logged Specification := do
  let (project, component) ← Logged.lift (tables settings)
  let projectName := Text.trim (← Logged.lift (textOf host project "name" ""))
  if projectName.isEmpty then throw (.configuration .unnamedProject)
  let type ← Logged.lift (readType host component)
  let buildTypes ←
    Logged.lift ((entries component "build_types").bind (·.mapM (readBuildType host)))
  let machines ←
    Logged.lift ((entries component "target_machines").bind (·.mapM (readMachine host)))
  let machines ← machinesOrHost host machines
  let linkages ← Logged.lift ((entries component "linkages").bind (·.mapM (readLinkage host)))
  let linkages ← linkagesFor type component linkages
  let group ← Logged.lift (textOf host project "group" "")
  let version ← Logged.lift (textOf host project "version" "unspecified")
  let baseName ← Logged.lift (baseNameOf host component projectName)
  let language := Text.lower (Text.trim (← Logged.lift (textOf host component "language" "cpp")))
  return {
    projectName
    group
    version
    type
    baseName
    language
    buildTypes := if buildTypes.isEmpty then BuildType.defaults else buildTypes
    machines := machines.eraseDups
    linkages := linkages.eraseDups }

/-- The project that a specification describes. -/
def project (s : Specification) : Project :=
  ⟨.string s.projectName, .string s.group, .string s.version⟩

/-- The component that a specification describes, not configured yet. -/
def component (s : Specification) : Component :=
  { Component.ofProject s.type s.projectName with
    baseName := .string s.baseName
    machines := s.machines
    linkages :=
      if s.type = .library then some (s.linkages.map fun l => .string l.name) else none }

/-- Configures the component for a host. -/
def configure (s : Specification) (host : Host) (hostFamily : Option String) :
    Logged ComponentBuilder × Component :=
  s.component.configure s.project host ⟨s.language, hostFamily, s.buildTypes⟩

/-- A builder over the dimensions of a specification, without factories: it lists the variants,
those for other hosts included. -/
def builder {φ β : Type} (s : Specification) (hostFamily : Option String) : Builder φ β where
  component := s.type.name
  buildTypes := s.buildTypes
  machines := s.machines
  linkages := s.linkages
  baseName := Deferred.of (.string s.baseName)
  hostFamily := hostFamily
  requireLinkage := s.type = .library

end Specification

end NativeVariants
