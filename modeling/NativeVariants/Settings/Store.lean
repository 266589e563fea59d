import NativeVariants.Session

/-!
# The settings file

Loading and saving the settings of a directory. A file that cannot be read is reported and counts as
empty, and empty settings count as missing.
-/

namespace NativeVariants.Settings

def fileName : String := "variantbuilder.toml"

/-- The path of the settings file of a directory. -/
def filePath (directory : String) : String :=
  joinPath directory fileName

/-- The settings in a directory; none are left when the file is missing or cannot be used. -/
def load (directory : String) : Session Table := do
  let path := filePath directory
  Session.log .info s!"Loading configuration from {path}"
  unless (← get).files.has path do return []
  match ← Session.attempt (Session.read path) with
  | .ok text =>
    match (← get).format.decode? text with
    | some settings => return settings
    | none =>
      let why := Failure.malformedSettings.message
      Session.log .error s!"Error decoding TOML file at {path}: {why}"
      Session.log .info "Please check the file's format for syntax errors."
      return []
  | .error (.file fault place) =>
    let why := fault.message place
    Session.log .error s!"Error reading configuration file at {path}: {why}"
    Session.log .info "Please check file permissions."
    return []
  | .error failure => throw failure

/-- The settings in a directory, if there are any; that there are none is reported. -/
def require (directory : String) : Session (Option Table) := do
  match ← load directory with
  | [] =>
    Session.log .error
      "Error: No variantbuilder.toml found. Please run 'variantbuilder init' first."
    return none
  | settings => return some settings

/-- Stores settings in a directory and tells whether the file could be written. The file is emptied
before the settings are written, and stays empty when they have no text. -/
def save (directory : String) (settings : Table) : Session Bool := do
  let path := filePath directory
  Session.log .info s!"Saving configuration to {path}"
  match ← Session.attempt (Session.overwrite path "") with
  | .error failure => do
    if failure.kind = .badValue then throw failure
    let why := failure.message
    Session.log .error s!"Error saving configuration to {path}: {why}"
    Session.log .info "Please check file permissions and ensure the directory is writable."
    return false
  | .ok () =>
    let text ← (← get).format.encode settings
    Session.overwrite path text
    return true

end NativeVariants.Settings
