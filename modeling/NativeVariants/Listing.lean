import NativeVariants.Description
import NativeVariants.Json.Printer
import NativeVariants.Settings.Store

/-!
# Listings

The variants of the component that settings describe, and the binaries that a host builds of them.
-/

namespace NativeVariants.Listing

def variantsOf (host : Host) (s : Specification) : Logged (List Variant) :=
  ((s.builder none : ComponentBuilder).variants s.project host).1

/-- A variant with its contexts below it. -/
def showVariant (v : Variant) : Session Unit := do
  Session.step 2 s!"- {v.name} ({v.identity.machine.text})"
  v.identity.contexts.forM fun context => do
    let attributes ← AttributeSet.listing context.attributes.asTable
    Session.step 6 s!"{context.name}: {attributes}"

/-- Lists the variants, as text or as data. -/
def variants (directory : String) (asData : Bool) : Session Unit := do
  let some settings ← Settings.require directory | return
  let host := (← get).host
  let s ← Session.ofLogged (Specification.ofSettings host (.table settings))
  let all ← Session.ofLogged (variantsOf host s)
  let described ← (all.mapM (Variant.describe s.project) : Except Failure (List Value))
  if asData then
    let text ← Json.render (.block 4) (.list described)
    Session.say text
  else
    Session.log .info s!"{s.type.title} '{s.projectName}' has {all.length} variant(s):"
    all.forM showVariant

def showBinary (project : Project) (b : Binary) : Session Unit := do
  let artifact ← b.artifact project
  let file ← artifact.text
  Session.step 2 s!"- {b.name}: {b.kind.name} {file} ({b.machine.text})"

def showPublication (p : Publication) : Session Unit :=
  Session.step 2 s!"- {p.name}: {p.artifact}"

/-- Lists the binaries that a host of the given family builds, the current host if none is given. -/
def binaries (directory : String) (hostFamily : Option String) : Session Unit := do
  let some settings ← Settings.require directory | return
  let host := (← get).host
  let family := hostFamily.getD host.family
  let s ← Session.ofLogged (Specification.ofSettings host (.table settings))
  Session.log .info s!"Resolving binaries of '{s.projectName}' for a {family} host..."
  let (built, component) := s.configure host (some family)
  discard <| Session.ofLogged built
  if component.binaries.isEmpty then
    Session.log .warning
      s!"No binaries are built on a {family} host. Check the target machines of the component."
  else
    component.binaries.forM (showBinary s.project)
    unless component.publications.isEmpty do
      Session.log .info "Publications:"
      component.publications.forM showPublication
    if let some b := component.development.bind (component.binaries[·]?) then
      Session.log .success s!"Development binary: {b.name}"

end NativeVariants.Listing
