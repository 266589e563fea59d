import NativeVariants.Json.Printer
import NativeVariants.Settings.Path
import NativeVariants.Settings.Store
import NativeVariants.Specification

/-!
# Editing settings

Showing, changing and checking the settings of a directory.
-/

namespace NativeVariants.Settings

/-- Shows the settings file as it is. -/
def view (directory : String) : Session Unit := do
  let some _ ← require directory | return
  Session.say (← Session.read (filePath directory))

/-- A value in JSON, if it is not nested too deep. -/
def jsonOn (host : Host) (layout : Json.Layout) : Value → Except Failure String :=
  host.within "encoding a JSON object" (Json.render layout)

def showAll (directory : String) : Session Unit := do
  let some settings ← require directory | return
  let text ← jsonOn (← get).host (.block 4) (.table settings)
  Session.say text

/-- A value as it is shown: tables and lists on one line, all else as text. -/
def shownText (host : Host) (v : Value) : Except Failure String :=
  match v with
  | .table _ | .list _ => jsonOn host .line v
  | v => v.text

def reportUnknown (key : String) : Session Unit :=
  Session.log .error s!"Error: Key '{key}' not found in variantbuilder.toml"

def showKey (directory key : String) : Session Unit := do
  let some settings ← require directory | return
  match lookup? key settings with
  | none => reportUnknown key
  | some v =>
    let text ← shownText (← get).host v
    Session.say text

def store (directory key text : String) : Session Unit := do
  let some settings ← require directory | return
  let changed ← assign key (readValue key text) settings
  if ← save directory changed then
    Session.log .info s!"Set '{key}' to '{text}'"

def erase (directory key : String) : Session Unit := do
  let some settings ← require directory | return
  match unassign? key settings with
  | none => reportUnknown key
  | some changed =>
    if ← save directory changed then
      Session.log .info s!"Unset '{key}'"

/-- What a specification comes to. -/
def summary (s : Specification) : String :=
  s!"{s.type.title} '{s.projectName}': {s.buildTypes.length} build type(s), " ++
    s!"{s.machines.length} target machine(s), {s.linkages.length} linkage(s)."

/-- Whether building the component of a specification will fail for want of a linkage. -/
def lacksLinkage (s : Specification) : Bool :=
  s.type = .library && s.linkages.isEmpty

def check (directory : String) : Session Unit := do
  let some settings ← require directory | return
  let host := (← get).host
  let s ← Session.ofLogged (Specification.ofSettings host (.table settings))
  Session.log .success (summary s)
  if lacksLinkage s then
    Session.log .warning "The library has no linkages; building it will fail."

end NativeVariants.Settings
