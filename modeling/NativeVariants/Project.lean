import NativeVariants.Deferred

/-!
# Projects

The project that owns a component. Its fields may change while components are configured, so
readers take them through deferred values, which show the field as it is when read.
-/

namespace NativeVariants

structure Project where
  name : Label
  group : Value := .string ""
  version : Value := .string "unspecified"
  deriving Repr, Inhabited

namespace Project

/-- The group as a text, whatever it is when read. -/
def groupProvider (p : Project) : Deferred Project :=
  .plain (fun now => (now.group.text.map .string, now))
    (some s!"group of project '{p.name.text}'")

/-- The version as a text, whatever it is when read. -/
def versionProvider (p : Project) : Deferred Project :=
  .plain (fun now => (now.version.text.map .string, now))
    (some s!"version of project '{p.name.text}'")

/-- The name itself, whatever it is when read. -/
def nameProvider : Deferred Project :=
  .plain (fun now => (.ok now.name.value, now)) none

def text (p : Project) : Except Failure String := do
  let group ← p.group.literal
  let version ← p.version.literal
  return s!"Project({p.name.literal}, group={group}, version={version})"

end Project

end NativeVariants
