import NativeVariants.Dispatch

/-!
# Configurations

Everything that decides which variants a component has and which binaries a host builds of them.
-/

namespace NativeVariants

structure Configuration (φ : Type) where
  /-- What messages call the component. -/
  component : String
  buildTypes : List BuildType
  machines : List Machine
  linkages : List Linkage
  names : ComponentNames
  registry : Registry φ
  hostFamily : String
  requireLinkage : Bool
  requireFactory : Bool

namespace Configuration

variable {φ σ β : Type}

/-- The first name, in order, that several build types have. -/
def repeatedName? (buildTypes : List BuildType) : Option String :=
  let names := buildTypes.map (·.name)
  names.find? fun name => 1 < names.count name

/-- What keeps a configuration from being built; the first of several faults counts. -/
def fault? (c : Configuration φ) : Option ConfigurationFault :=
  if c.buildTypes.isEmpty then some (.noBuildType c.component)
  else
    match repeatedName? c.buildTypes with
    | some name => some (.repeatedBuildType name c.component)
    | none =>
      if c.machines.isEmpty then some (.noTargetMachine c.component)
      else if c.requireLinkage && c.linkages.isEmpty then some (.noLinkage c.component)
      else if c.requireFactory && c.registry.isEmpty then some (.noFactory c.component)
      else none

def validate (c : Configuration φ) : Except Failure Unit :=
  match c.fault? with
  | some fault => .error (.configuration fault)
  | none => .ok ()

/-- The linkages as values of a dimension that may be empty. -/
def linkageDimension (c : Configuration φ) : List (Option Linkage) :=
  c.linkages.map some

/-- The variants, whatever the host. -/
def variants (c : Configuration φ) : List Variant :=
  (combinations c.buildTypes c.machines c.linkageDimension).map fun combination =>
    ⟨identityOf combination c.machines c.linkageDimension c.names, combination⟩

/-- The variants of a valid configuration, with notes on each. -/
def identifyVariants (c : Configuration φ) : Logged (List Variant) := do
  Logged.lift c.validate
  let all ← expand c.buildTypes c.machines c.linkageDimension
  all.mapM fun combination => do
    let identity ← identify combination c.machines c.linkageDimension c.names
    return ⟨identity, combination⟩

/-- The steps by which the host builds the variants. -/
def plan (c : Configuration φ) : List (DispatchStep φ) :=
  c.registry.plan c.hostFamily c.variants

/-- Builds the binaries that the host makes of a valid configuration, in the order of the
variants. -/
def build (make : Make φ σ β) (state : σ) (c : Configuration φ) : DispatchRun φ σ β :=
  let identified := c.identifyVariants
  match identified.result with
  | .error failure => ⟨.error failure, [], identified.journal, state⟩
  | .ok variants =>
    let run := runSteps make c.hostFamily (c.registry.plan c.hostFamily variants) state
    { run with journal := identified.journal ++ run.journal ++ (summary run.result).toList }
where
  summary : Except Failure (List β) → Option Entry
    | .ok binaries =>
      let message :=
        s!"Created {binaries.length} binary(ies) for the {c.component} on {c.hostFamily}."
      some ⟨.debug, message, 0⟩
    | .error _ => none

/-- Configurations are compared by what is declared: not by their factories, nor by the names that
are still to be read. -/
instance : BEq (Configuration φ) where
  beq c d :=
    c.component == d.component && c.buildTypes == d.buildTypes && c.machines == d.machines &&
      c.linkages == d.linkages && c.hostFamily == d.hostFamily &&
      c.requireLinkage == d.requireLinkage && c.requireFactory == d.requireFactory

end Configuration

end NativeVariants
