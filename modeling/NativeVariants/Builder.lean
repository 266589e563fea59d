import NativeVariants.Configuration

/-!
# Builders

A builder collects what is declared about a component. Its variants and its binaries are worked
out on the first read that succeeds and kept from then on; once there are binaries, declarations
are ignored. A read that fails keeps nothing.
-/

namespace NativeVariants

/-- What can be declared about a component. Linkages and kinds are given by name, and a factory whose
priority is null is given none. -/
inductive Declaration (φ : Type) where
  | buildTypes (buildTypes : List BuildType)
  | machines (machines : List Machine)
  | linkages (linkages : List Value) (required : Bool)
  | baseName (name : Deferred Project)
  | hostFamily (family : Option String)
  | factoryRequired (required : Bool)
  | factory (kind : Value) (factory : φ) (priority : Value)

namespace Declaration

/-- What a message calls the subject of a declaration. -/
def subject {φ : Type} : Declaration φ → String
  | buildTypes _ => "build types"
  | machines _ => "target machines"
  | linkages .. => "linkages"
  | baseName _ => "base name"
  | hostFamily _ => "host"
  | factoryRequired _ => "factory requirement"
  | factory .. => "binary factory"

end Declaration

/-- A builder whose factories make binaries of type `β`. -/
structure Builder (φ β : Type) where
  component : String
  buildTypes : List BuildType := BuildType.defaults
  machines : List Machine := []
  linkages : List Linkage := []
  baseName : Deferred Project
  hostFamily : Option String := none
  registry : Registry φ := {}
  requireLinkage : Bool := false
  requireFactory : Bool := false
  /-- The variants, once they are worked out. -/
  variants? : Option (List Variant) := none
  /-- The binaries, once they are built. -/
  binaries? : Option (List β) := none

namespace Builder

variable {φ σ β : Type}

def ofComponent (component : String) : Builder φ β where
  component
  baseName := .undefined (some s!"base name of the {component}")

def isBuilt (b : Builder φ β) : Bool :=
  b.binaries?.isSome

def stateName (b : Builder φ β) : String :=
  if b.isBuilt then "built" else "configuring"

/-- The priority of a factory that is declared: the general one where none is given. -/
def givenPriority : Value → Value
  | .null => genericPriority
  | priority => priority

/-- Takes a declaration into account. Names that are none fail and change nothing; priorities
without an order fail as the registry does. -/
def accept (b : Builder φ β) : Declaration φ → Except Failure Unit × Builder φ β
  | .buildTypes buildTypes => (.ok (), { b with buildTypes })
  | .machines machines => (.ok (), { b with machines })
  | .linkages names requireLinkage =>
    match names.mapM Linkage.ofValue with
    | .ok linkages => (.ok (), { b with linkages, requireLinkage })
    | .error failure => (.error failure, b)
  | .baseName baseName => (.ok (), { b with baseName })
  | .hostFamily hostFamily => (.ok (), { b with hostFamily })
  | .factoryRequired requireFactory => (.ok (), { b with requireFactory })
  | .factory kind factory priority =>
    let (result, registry) := b.registry.registerFor kind factory (givenPriority priority)
    (result, { b with registry })

/-- Declares something, or says that it comes too late. -/
def declare (b : Builder φ β) (d : Declaration φ) : Logged Unit × Builder φ β :=
  if b.isBuilt then
    (Logged.write .warning
      s!"Ignoring {d.subject} for the {b.component}: its binaries have already been built.", b)
  else
    let (result, b) := b.accept d
    (Logged.lift result, b)

/-- What is declared so far, for a project as it is called now and on a host. -/
def configuration (b : Builder φ β) (project : Project) (host : Host) : Configuration φ where
  component := b.component
  buildTypes := b.buildTypes.eraseDups
  machines := b.machines.eraseDups
  linkages := b.linkages.eraseDups
  names := ⟨b.baseName, project.groupProvider, project.versionProvider⟩
  registry := b.registry
  hostFamily :=
    match b.hostFamily with
    | none | some "" => host.family
    | some family => family
  requireLinkage := b.requireLinkage
  requireFactory := b.requireFactory

/-- Every variant, those for other families than the host's included. -/
def variants (b : Builder φ β) (project : Project) (host : Host) :
    Logged (List Variant) × Builder φ β :=
  match b.variants? with
  | some variants => (pure variants, b)
  | none =>
    let identified := (b.configuration project host).identifyVariants
    match identified.result with
    | .ok variants => (identified, { b with variants? := some variants })
    | .error _ => (identified, b)

def announcement (c : Configuration φ) : Entry :=
  let counts := s!"{c.buildTypes.length} build type(s), {c.machines.length} target machine(s), "
  ⟨.debug, s!"Building {c.component} binaries: {counts}{c.linkages.length} linkage(s).", 0⟩

def binaries (make : Make φ σ β) (b : Builder φ β) (project : Project) (host : Host) (state : σ) :
    DispatchRun φ σ β × Builder φ β :=
  match b.binaries? with
  | some binaries => (⟨.ok binaries, [], [], state⟩, b)
  | none =>
    let c := b.configuration project host
    let run := c.build make state
    let run := { run with journal := announcement c :: run.journal }
    match run.result with
    | .ok binaries => (run, { b with binaries? := some binaries })
    | .error _ => (run, b)

/-- What a message shows of a list that is worked out on its first read. -/
def listText {α : Type} (subject component : String) (spell : α → Except Failure String) :
    Option (List α) → Except Failure String
  | none => .ok (Deferred.pendingText (some s!"{subject} of the {component}"))
  | some items =>
    (items.mapM spell).map fun texts => "Deferred(" ++ Value.bracketed "[" "]" texts ++ ")"

theorem declare_of_isBuilt {b : Builder φ β} (h : b.isBuilt) (d : Declaration φ) :
    (b.declare d).2 = b := by
  simp [declare, h]

end Builder

end NativeVariants
