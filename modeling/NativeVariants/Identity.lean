import NativeVariants.AttributeSet
import NativeVariants.Expansion
import NativeVariants.Project
import NativeVariants.Text.Words

/-!
# Identities

What a variant is called and what it offers. The name starts with the build type; a dimension adds
its value only where the component has several of them. The names of the component itself are
deferred, so they follow the project, and they take no part in comparing identities.
-/

namespace NativeVariants

/-- A dimension value as part of a name: words with capitals, joined, dashes lowered. -/
def dimensionToken (value : String) : String :=
  String.ofList ((Text.words (fun c => Text.isBlank c || c == '.') value.toList).flatMap token)
where
  token : List Char → List Char
    | [] => []
    | c :: cs => Text.upperChar c ++ Text.replaceChar '-' '_' cs

/-- What a value adds to the names of variants: its token, if the dimension has several values. -/
def dimensionSuffix {α : Type} [BEq α] (name : α → String) (value : Option α)
    (values : List (Option α)) : String :=
  match value with
  | none => ""
  | some value => if values.eraseDups.length ≤ 1 then "" else dimensionToken (name value)

/-- The name of a combination among all machines and linkages of its component. -/
def variantName (c : Combination) (machines : List Machine) (linkages : List (Option Linkage)) :
    String :=
  c.buildType.name ++ dimensionSuffix Linkage.name c.linkage linkages ++
    dimensionSuffix id (some c.machine.family) (machines.map fun m => some m.family) ++
    dimensionSuffix id (some c.machine.architecture) (machines.map fun m => some m.architecture)

/-- What a variant offers for one usage. -/
structure UsageContext where
  name : String
  usage : Usage
  attributes : AttributeSet
  deriving Inhabited

namespace UsageContext

/-- Contexts are compared by name and usage. -/
instance : BEq UsageContext where
  beq a b := a.name == b.name && a.usage == b.usage

end UsageContext

/-- The attributes of a combination for one usage. -/
def attributesFor (usage : Usage) (c : Combination) : AttributeSet :=
  AttributeSet.ofList <|
    [("usage", .usage usage), ("debuggable", .plain (.bool c.buildType.debuggable)),
      ("optimized", .plain (.bool c.buildType.optimized))] ++
    (match c.linkage with
      | some linkage => [("linkage", .linkage linkage)]
      | none => []) ++
    [("operating-system-family", .plain (.string c.machine.family)),
      ("architecture", .plain (.string c.machine.architecture))]

/-- How the component of a variant is called, read when needed. -/
structure ComponentNames where
  baseName : Deferred Project
  group : Deferred Project
  version : Deferred Project

structure VariantIdentity where
  name : String
  names : ComponentNames
  debuggable : Bool
  optimized : Bool
  machine : Machine
  runtime : UsageContext
  link : Option UsageContext

namespace VariantIdentity

/-- All contexts, the one for running first. -/
def contexts (identity : VariantIdentity) : List UsageContext :=
  identity.runtime :: identity.link.toList

/-- Identities are compared by all but the names of their component. -/
instance : BEq VariantIdentity where
  beq a b :=
    a.name == b.name && a.debuggable == b.debuggable && a.optimized == b.optimized &&
      a.machine == b.machine && a.link == b.link && a.runtime == b.runtime

end VariantIdentity

/-- The identity of a combination. Only a combination with a linkage can be linked against. -/
def identityOf (c : Combination) (machines : List Machine) (linkages : List (Option Linkage))
    (names : ComponentNames) : VariantIdentity :=
  let name := variantName c machines linkages
  { name
    names
    debuggable := c.buildType.debuggable
    optimized := c.buildType.optimized
    machine := c.machine
    runtime := ⟨name ++ "-runtime", .runtime, attributesFor .runtime c⟩
    link := c.linkage.map fun _ => ⟨name ++ "-link", .link, attributesFor .link c⟩ }

/-- The identity of a combination, with a note of its name. -/
def identify (c : Combination) (machines : List Machine) (linkages : List (Option Linkage))
    (names : ComponentNames) : Logged VariantIdentity := do
  let identity := identityOf c machines linkages names
  Logged.write .debug s!"Identified variant '{identity.name}' for {c.machine.text}."
  return identity

structure Variant where
  identity : VariantIdentity
  combination : Combination

namespace Variant

def name (v : Variant) : String :=
  v.identity.name

end Variant

example : dimensionToken "x86-64" = "X86_64" := by decide +kernel
example : dimensionToken "mac os.x" = "MacOsX" := by decide +kernel

end NativeVariants
