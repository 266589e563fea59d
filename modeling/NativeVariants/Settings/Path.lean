import NativeVariants.Text.Blank
import NativeVariants.Text.Case
import NativeVariants.Text.Search
import NativeVariants.Value

/-!
# Paths into settings

Settings are addressed by keys of several parts with points between them. A path leads through
tables only; setting a value makes the tables on the way that are missing.
-/

namespace NativeVariants.Settings

/-- The parts of a key, the last one apart. -/
structure Path where
  outer : List String
  last : String
  deriving DecidableEq, Repr, Inhabited

namespace Path

def parts (p : Path) : List String :=
  p.outer ++ [p.last]

/-- The path of a key written with points. -/
def ofKey (key : String) : Path :=
  let parts := Text.split '.' key
  ⟨parts.dropLast, parts.getLastD ""⟩

end Path

/-- The value at the end of a path. -/
def find? : List String → Value → Option Value
  | [], v => some v
  | key :: rest, v =>
    match v with
    | .table fields => (Fields.get? key fields).bind (find? rest)
    | _ => none

/-- Settings with `new` at the end of a path. What is in the way and is no table makes it fail. -/
def put (last : String) (new : Value) : List String → Table → Except Failure Table
  | [], fields => .ok (Fields.put last new fields)
  | key :: rest, fields =>
    match (Fields.get? key fields).getD (.table []) with
    | .table inner =>
      (put last new rest inner).map fun inner => Fields.put key (.table inner) fields
    | _ => .error (if rest.isEmpty then .wrongType else .noAttribute)

/-- Settings without what is at the end of a path, if there is something. -/
def remove? (last : String) : List String → Table → Option Table
  | [], fields => if Fields.has last fields then some (Fields.remove last fields) else none
  | key :: rest, fields =>
    match Fields.get? key fields with
    | some (.table inner) =>
      (remove? last rest inner).map fun inner => Fields.put key (.table inner) fields
    | _ => none

def lookup? (key : String) (settings : Table) : Option Value :=
  find? (Path.ofKey key).parts (.table settings)

/-- Settings with a value stored under a key. -/
def assign (key : String) (new : Value) (settings : Table) : Except Failure Table :=
  let path := Path.ofKey key
  put path.last new path.outer settings

/-- Settings without a key, if they have it. -/
def unassign? (key : String) (settings : Table) : Option Table :=
  let path := Path.ofKey key
  remove? path.last path.outer settings

def listKeys : List String :=
  ["component.build_types", "component.target_machines", "component.linkages"]

/-- The parts of a text between commas that are not blank, trimmed. -/
def listParts (text : String) : List String :=
  ((Text.split ',' text).map Text.trim).filter fun part => !part.isEmpty

/-- The value that a text given for a key stands for: a list, a truth value, or the text. -/
def readValue (key text : String) : Value :=
  if listKeys.contains key then .list ((listParts text).map .string)
  else
    let plain := Text.lower text
    if plain = "true" then .bool true
    else if plain = "false" then .bool false
    else .string text

end NativeVariants.Settings
