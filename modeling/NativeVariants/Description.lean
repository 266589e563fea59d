import NativeVariants.Specification

/-!
# Descriptions

Variants as plain data, for listings, and spelt in full, as the constructor calls that would make
them. The names of a component are left out of the latter, since they are still to be read.
-/

namespace NativeVariants

/-- A constructor call with named fields. -/
def construction (constructor : String) (fields : List (String × String)) : String :=
  constructor ++ Value.bracketed "(" ")" (fields.map fun (key, text) => key ++ "=" ++ text)

/-- A member of an enumeration, with the text that it equals. -/
def memberLiteral (enumeration member name : String) : String :=
  s!"<{enumeration}.{member}: {Text.quote name}>"

/-- A value that may be missing. -/
def optionLiteral (literal : Option String) : String :=
  literal.getD Value.nullLiteral

def BuildType.literal (b : BuildType) : String :=
  construction "BuildType" [("name", Text.quote b.name),
    ("debuggable", Value.boolLiteral b.debuggable),
    ("optimized", Value.boolLiteral b.optimized)]

def Machine.literal (m : Machine) : String :=
  construction "TargetMachine" [("operating_system_family", Text.quote m.family),
    ("architecture", Text.quote m.architecture)]

def Linkage.literal (l : Linkage) : String :=
  memberLiteral "Linkage" l.name.toUpper l.name

def Usage.literal (u : Usage) : String :=
  let member := match u with
    | .runtime => "RUNTIME"
    | .link => "LINK"
    | .api => "API"
  memberLiteral "Usage" member u.name

namespace UsageContext

def describe (context : UsageContext) : Value :=
  .table [("name", .string context.name), ("usage", .string context.usage.name),
    ("attributes", .table context.attributes.asTable)]

def literal (context : UsageContext) : Except Failure String :=
  context.attributes.text.map fun attributes =>
    construction "UsageContext" [("name", Text.quote context.name),
      ("usage", context.usage.literal), ("attributes", attributes)]

end UsageContext

def VariantIdentity.literal (identity : VariantIdentity) : Except Failure String := do
  let link? ← identity.link.mapM UsageContext.literal
  let runtime ← identity.runtime.literal
  return construction "VariantIdentity" [("name", Text.quote identity.name),
    ("debuggable", Value.boolLiteral identity.debuggable),
    ("optimized", Value.boolLiteral identity.optimized),
    ("target_machine", identity.machine.literal),
    ("link_usage_context", optionLiteral link?), ("runtime_usage_context", runtime)]

namespace Variant

def linkageValue (v : Variant) : Value :=
  match v.combination.linkage with
  | some linkage => .string linkage.name
  | none => .null

def literal (v : Variant) : Except Failure String :=
  v.identity.literal.map fun identity =>
    construction "ExpandedVariant" [("identity", identity),
      ("build_type", v.combination.buildType.literal),
      ("target_machine", v.combination.machine.literal),
      ("linkage", optionLiteral (v.combination.linkage.map Linkage.literal))]

/-- All that is known of a variant, with the names of its component as they are now. -/
def describe (project : Project) (v : Variant) : Except Failure Value := do
  let names := v.identity.names
  let baseName ← names.baseName.read project
  let group ← names.group.read project
  let version ← names.version.read project
  return .table
    [("name", .string v.name), ("base_name", baseName), ("group", group), ("version", version),
      ("build_type", .string v.combination.buildType.name),
      ("target_machine", .string v.identity.machine.text), ("linkage", v.linkageValue),
      ("usage_contexts", .list (v.identity.contexts.map UsageContext.describe))]

end Variant

end NativeVariants
