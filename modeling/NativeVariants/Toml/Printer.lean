import NativeVariants.Toml.Quoted
import NativeVariants.Toml.Reader

/-!
# Printing TOML

Tables as texts. A table begins with its own values, a line each, and the items of its lists of
tables; the tables inside it follow level by level, each under its full name. A table that holds
nothing but tables has no header of its own. Tables with texts that cannot be quoted or numbers that
cannot be spelt have no text: the first that is met is the reason.
-/

namespace NativeVariants.Toml

def quote (s : String) : Except Failure String :=
  match quote? s with
  | some text => .ok text
  | none => .error .unwritableText

/-- A key as it is. A line feed may follow the last character of a bare key. -/
def isBareKey (key : String) : Bool :=
  let cs := key.toList
  let cs := if cs.getLast? = some '\n' then cs.dropLast else cs
  !cs.isEmpty && cs.all isKeyChar

/-- A key, quoted unless it is made of letters, digits, dashes and underscores of ASCII. -/
def keyText (key : String) : Except Failure String :=
  if isBareKey key then .ok key else quote key

mutual

/-- A value behind its key. Inside a list a table shows its keys only. -/
def valueText : Value → Except Failure String
  | .null => quote Value.nullLiteral
  | .bool b => .ok (if b then "true" else "false")
  | .int n => Value.numberText n
  | .float x => .ok (x.render .settings)
  | .moment m => .ok m.settingsText
  | .string s => quote s
  | .list items => (itemsText items).map fun text => "[" ++ text ++ "]"
  | .table fields => (keysText fields).map fun text => "[" ++ text ++ "]"

def itemsText : List Value → Except Failure String
  | [] => .ok ""
  | v :: rest => do
    let text ← valueText v
    let more ← itemsText rest
    return " " ++ text ++ "," ++ more

def keysText : List (String × Value) → Except Failure String
  | [] => .ok ""
  | (key, _) :: rest => do
    let text ← quote key
    let more ← keysText rest
    return " " ++ text ++ "," ++ more

end

/-- The items of a list that holds a table. -/
def tableItems? : Value → Option (List Table)
  | .list items =>
    if items.any (fun v => v matches .table _) then
      some (items.map fun v => match v with | .table fields => fields | _ => [])
    else none
  | _ => none

/-- What is printed of fields of a table, and the tables inside that are printed after it, by their
written keys. -/
structure Section where
  /-- The values, a line each. -/
  own : String := ""
  /-- The items of lists of tables. -/
  lists : String := ""
  inner : List (String × Table) := []

namespace Section

/-- What stands under the header of a table. -/
def body (s : Section) : String :=
  s.own ++ s.lists

/-- The sections of several fields as one. Of two tables that are written under one key the later
counts, in the place of the earlier one. -/
def join (sections : List Section) : Section where
  own := String.join (sections.map own)
  lists := String.join (sections.map lists)
  inner := Fields.ofList (sections.flatMap inner)

/-- A section of an item under its header, which is left out where there is nothing under it. -/
def itemText (entry : String × Section) : String :=
  if entry.2.body.isEmpty then "" else "[" ++ entry.1 ++ "]\n" ++ entry.2.body

/-- Adds a section under its header, after an empty line. The header is left out where tables inside
the section are all there is. -/
def addTo (text : String) (entry : String × Section) : String :=
  if entry.2.body.isEmpty && !entry.2.inner.isEmpty then text
  else
    let gap := if text.isEmpty || text.endsWith "\n\n" then "" else "\n"
    text ++ gap ++ "[" ++ entry.1 ++ "]\n" ++ entry.2.body

end Section

mutual

/-- The section of a table; the names of what is inside it begin with `lead`. -/
def sectionOf : Nat → String → Table → Except Failure Section
  | 0, _, _ => .ok {}
  | fuel + 1, lead, t => do
    let sections ← t.mapM fun (key, v) => do
      let name ← keyText key
      match v, tableItems? v with
      | .table fields, _ => return { inner := [(name, fields)] }
      | .null, _ => return {}
      | _, some items => return { lists := String.join (← items.mapM (itemText fuel (lead ++ name))) }
      | v, none => return { own := name ++ " = " ++ (← valueText v) ++ "\n" }
    return Section.join sections

/-- One item of a list of tables, a blank line behind its own values. -/
def itemText : Nat → String → Table → Except Failure String
  | 0, _, _ => .ok ""
  | fuel + 1, name, t => do
    let lead := name ++ "."
    let first ← sectionOf fuel lead t
    let inner ← levels fuel lead first.inner
    let body := first.body
    return "[[" ++ name ++ "]]\n" ++ (if body.startsWith "[" then "\n" ++ body else body ++ "\n") ++
      String.join (inner.map Section.itemText)

/-- The sections of tables and of all tables inside them, level by level, by their full names. -/
def levels : Nat → String → Fields Table → Except Failure (List (String × Section))
  | 0, _, _ => .ok []
  | fuel + 1, lead, level =>
    if level.isEmpty then .ok []
    else do
      let sections ← level.mapM fun (name, t) => do
        return (name, ← sectionOf fuel (lead ++ name ++ ".") t)
      let inner := sections.flatMap fun (name, s) =>
        s.inner.map fun (key, t) => (name ++ "." ++ key, t)
      let more ← levels fuel lead (Fields.ofList inner)
      return sections.map (fun (name, s) => (lead ++ name, s)) ++ more

end

/-- The text of a table. -/
def render (t : Table) : Except Failure String := do
  let fuel := 2 * (Value.depthOfFields t + 1)
  let first ← sectionOf fuel "" t
  let below ← levels fuel "" first.inner
  return below.foldl Section.addTo first.body

end NativeVariants.Toml
