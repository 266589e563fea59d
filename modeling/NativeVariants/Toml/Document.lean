import NativeVariants.Value

/-!
# TOML documents

A document as its statements, and the tree that they build: headers open tables, keys fill the
table that is open, and a table is opened or filled in one way only.
-/

namespace NativeVariants.Toml

/-- A line of a document that says something. -/
inductive Statement where
  /-- Opens the table of a path. -/
  | header (path : List String)
  /-- Opens a new table at the end of the list of a path. -/
  | item (path : List String)
  | assign (path : List String) (v : Value)
  deriving Repr

/-- How a table came to be. -/
inductive Origin where
  /-- On the way to another table. -/
  | implied
  | header
  /-- By a key of several parts. -/
  | dotted
  deriving DecidableEq, Repr

/-- A tree that is being built. Values and what is inside them are complete. -/
inductive Node where
  | value (v : Value)
  | table (origin : Origin) (fields : List (String × Node))
  | tables (items : List (List (String × Node)))

namespace Node

abbrev Branches := Fields Node

/-- Changes the last item of a list, if there is one. -/
def changeLast? {α : Type} (f : α → Option α) : List α → Option (List α)
  | [] => none
  | [a] => (f a).map fun a => [a]
  | a :: rest => (changeLast? f rest).map (a :: ·)

/-- Opens the table at the end of a path. -/
def openTable? : List String → Branches → Option Branches
  | [], _ => none
  | [key], fields =>
    match fields.get? key with
    | none => some (fields.put key (.table .header []))
    | some (.table .implied inner) => some (fields.put key (.table .header inner))
    | some _ => none
  | key :: path, fields =>
    match fields.get? key with
    | none => (openTable? path []).map fun inner => fields.put key (.table .implied inner)
    | some (.table origin inner) =>
      (openTable? path inner).map fun inner => fields.put key (.table origin inner)
    | some (.tables items) =>
      (changeLast? (openTable? path) items).map fun items => fields.put key (.tables items)
    | some (.value _) => none

/-- Adds an empty table to the list at the end of a path. -/
def openItem? : List String → Branches → Option Branches
  | [], _ => none
  | [key], fields =>
    match fields.get? key with
    | none => some (fields.put key (.tables [[]]))
    | some (.tables items) => some (fields.put key (.tables (items ++ [[]])))
    | some _ => none
  | key :: path, fields =>
    match fields.get? key with
    | none => (openItem? path []).map fun inner => fields.put key (.table .implied inner)
    | some (.table origin inner) =>
      (openItem? path inner).map fun inner => fields.put key (.table origin inner)
    | some (.tables items) =>
      (changeLast? (openItem? path) items).map fun items => fields.put key (.tables items)
    | some (.value _) => none

/-- Gives the key of a path in the open table a value that it does not have yet. On its way the path
meets only tables that no header has opened. -/
def assign? : List String → Value → Branches → Option Branches
  | [], _, _ => none
  | [key], v, fields => if fields.has key then none else some (fields.put key (.value v))
  | key :: path, v, fields =>
    match fields.get? key with
    | none => (assign? path v []).map fun inner => fields.put key (.table .dotted inner)
    | some (.table .header _) => none
    | some (.table _ inner) =>
      (assign? path v inner).map fun inner => fields.put key (.table .dotted inner)
    | some _ => none

/-- Changes the table that is open at a path. -/
def inside? (f : Branches → Option Branches) : List String → Branches → Option Branches
  | [], fields => f fields
  | key :: path, fields =>
    match fields.get? key with
    | some (.table origin inner) =>
      (inside? f path inner).map fun inner => fields.put key (.table origin inner)
    | some (.tables items) =>
      (changeLast? (inside? f path) items).map fun items => fields.put key (.tables items)
    | _ => none

mutual

def toValue : Node → Value
  | .value v => v
  | .table _ fields => .table (toFields fields)
  | .tables items => .list (toItems items)

def toFields : List (String × Node) → List (String × Value)
  | [] => []
  | (key, node) :: rest => (key, toValue node) :: toFields rest

def toItems : List (List (String × Node)) → List Value
  | [] => []
  | fields :: rest => .table (toFields fields) :: toItems rest

end

end Node

/-- Takes statements into account in order; `current` is the path of the open table. -/
def buildFrom? (current : List String) (fields : Node.Branches) :
    List Statement → Option Node.Branches
  | [] => some fields
  | .header path :: rest => do buildFrom? path (← Node.openTable? path fields) rest
  | .item path :: rest => do buildFrom? path (← Node.openItem? path fields) rest
  | .assign path v :: rest => do
    buildFrom? current (← Node.inside? (Node.assign? path v) current fields) rest

/-- The table that the statements of a document build. -/
def build? (statements : List Statement) : Option Table :=
  (buildFrom? [] [] statements).map Node.toFields

end NativeVariants.Toml
