import NativeVariants.Failure
import NativeVariants.Text.Lines
import NativeVariants.Text.Search

/-!
# A tree of files

Directories and text files, and the paths that lead to them. A path is followed part by part; every
part but the last has to be a directory.
-/

namespace NativeVariants

/-- Where something is: the names from the root on. -/
abbrev Place := List String

/-- What a file holds: text, or bytes that are no text. -/
inductive Content where
  | text (s : String)
  | bytes (bs : List UInt8)

structure TextFile where
  content : Content
  /-- A file made later has a greater stamp. -/
  stamp : Int

inductive FileNode where
  | directory
  | file (f : TextFile)

structure FileTree where
  /-- Where paths begin that do not begin at the root. -/
  home : Place
  nodes : List (Place × FileNode)

/-- The path `right` as seen from the directory `left`; a path from the root stands for itself. -/
def joinPath (left right : String) : String :=
  if right.toList.head? = some '/' || left.isEmpty then right
  else if left.toList.getLast? = some '/' then left ++ right
  else left ++ "/" ++ right

namespace Content

def ofBytes (bs : List UInt8) : Content :=
  match Text.Utf8.decode bs with
  | .ok s => text s
  | .error _ => bytes bs

/-- The text as a whole, its newlines being line feeds. -/
def read : Content → Except Text.Utf8.Fault String
  | text s => .ok (Text.readNewlines s)
  | bytes bs => (Text.Utf8.decode bs).map Text.readNewlines

/-- The text with more at its end; bytes that are no text do not become one by that. -/
def append (content : Content) (more : String) : Content :=
  match content with
  | text s => text (s ++ more)
  | bytes bs => bytes (bs ++ more.toUTF8.toList)

/-- The lines that are read one after the other, and the fault that ends the reading: of the text
before a fault only whole lines are seen, and a carriage return waits for what may follow it. -/
def lines : Content → List String × Option Text.Utf8.Fault
  | text s => (Text.fileLines (Text.readNewlines s), none)
  | bytes bs =>
    let (cs, fault) := Text.Utf8.readAhead bs
    let cs := if cs.getLast? = some '\r' then cs.dropLast else cs
    let ls := Text.fileLines (Text.readNewlines (String.ofList cs))
    (if fault.isSome then ls.filter (·.toList.getLast? = some '\n') else ls, fault)

def text? : Content → Option String
  | text s => some s
  | bytes _ => none

end Content

namespace Place

/-- The place itself and all above it, from the root on. -/
def path (place : Place) : List Place :=
  (List.range (place.length + 1)).map fun n => place.take n

/-- One step from a directory. -/
def enter (place : Place) (part : String) : Place :=
  if part = "" || part = "." then place
  else if part = ".." then place.dropLast
  else place ++ [part]

/-- Where a path begins. -/
def start (home : Place) (path : String) : Place :=
  if path.toList.head? = some '/' then [] else home

/-- Where a path leads if all directories on its way are there. -/
def ofPath (home : Place) (path : String) : Place :=
  (Text.split '/' path).foldl enter (start home path)

def text (place : Place) : String :=
  "/" ++ "/".intercalate place

end Place

namespace FileTree

/-- A tree of empty directories down to `home`. -/
def empty (home : Place) : FileTree :=
  ⟨home, home.path.map fun place => (place, .directory)⟩

def node? (t : FileTree) (place : Place) : Option FileNode :=
  t.nodes.lookup place

def file? (t : FileTree) (place : Place) : Option TextFile :=
  match t.node? place with
  | some (.file f) => some f
  | _ => none

/-- Nodes with one put at a place, over what was there. -/
def putNode (place : Place) (node : FileNode) : List (Place × FileNode) → List (Place × FileNode)
  | [] => [(place, node)]
  | entry :: rest =>
    if entry.1 = place then (place, node) :: rest else entry :: putNode place node rest

def put (t : FileTree) (place : Place) (node : FileNode) : FileTree :=
  { t with nodes := putNode place node t.nodes }

/-- How many bytes a name may have. -/
def longestName : Nat := 255

/-- How many bytes a path may have. -/
def longestPath : Nat := 4095

/-- One step of a path. -/
def follow (t : FileTree) (place : Place) (part : String) : Except FileFault Place :=
  match t.node? place with
  | none => .error .missing
  | some (.file _) => .error .notDirectory
  | some .directory =>
    if longestName < part.utf8ByteSize then .error .nameTooLong else .ok (place.enter part)

/-- Where a path leads; there need not be anything. -/
def locate (t : FileTree) (path : String) : Except FileFault Place :=
  if path.isEmpty then .error .missing
  else if path.toList.contains '\x00' then .error .nullInPath
  else if longestPath < path.utf8ByteSize then .error .nameTooLong
  else (Text.split '/' path).foldlM t.follow (Place.start t.home path)

def find (t : FileTree) (path : String) : Except FileFault FileNode := do
  match t.node? (← t.locate path) with
  | some node => return node
  | none => throw .missing

def has (t : FileTree) (path : String) : Bool :=
  match t.find path with
  | .ok _ => true
  | .error _ => false

def content (t : FileTree) (path : String) : Except Failure Content :=
  match t.find path with
  | .error fault => .error (.file fault path)
  | .ok .directory => .error (.file .isDirectory path)
  | .ok (.file f) => .ok f.content

/-- The text of a file, its newlines being line feeds. -/
def read (t : FileTree) (path : String) : Except Failure String := do
  ((← t.content path).read).mapError .undecodable

/-- A stamp later than those of all files. -/
def nextStamp (t : FileTree) : Int :=
  t.nodes.foldl (fun next (_, node) =>
    match node with
    | .file f => max next (f.stamp + 1)
    | .directory => next) 0

/-- Changes what a file holds; the file is made, empty, when there is none. -/
def update (t : FileTree) (path : String) (change : Content → Content) :
    Except Failure FileTree :=
  match t.locate path with
  | .error fault => .error (.file fault path)
  | .ok place =>
    match t.node? place with
    | some .directory => .error (.file .isDirectory path)
    | some (.file f) => .ok (t.put place (.file { f with content := change f.content }))
    | none => .ok (t.put place (.file ⟨change (.text ""), t.nextStamp⟩))

def write (t : FileTree) (path text : String) : Except Failure FileTree :=
  t.update path fun _ => .text text

def append (t : FileTree) (path text : String) : Except Failure FileTree :=
  t.update path fun content => content.append text

/-- The names in a directory, with what they stand for. -/
def entries (t : FileTree) (path : String) : Except Failure (List (String × FileNode)) :=
  match t.locate path with
  | .error fault => .error (.file fault path)
  | .ok place =>
    match t.node? place with
    | none => .error (.file .missing path)
    | some (.file _) => .error (.file .notDirectory path)
    | some .directory =>
      .ok (t.nodes.filterMap fun (other, node) =>
        if other.dropLast = place then other.getLast?.map (·, node) else none)

/-- Makes a directory and those above it. -/
def addDirectory (t : FileTree) (place : Place) : FileTree :=
  place.path.foldl (fun t above =>
    if (t.node? above).isNone then t.put above .directory else t) t

/-- Adds a file and the directories above it. -/
def addFile (t : FileTree) (place : Place) (f : TextFile) : FileTree :=
  (t.addDirectory place.dropLast).put place (.file f)

def textAt? (t : FileTree) (place : Place) : Option String :=
  (t.file? place).bind fun f => f.content.text?

/-- The files whose text is not what it was `before`. -/
def changes (after before : FileTree) : List (Place × String) :=
  after.nodes.filterMap fun (place, _) =>
    match after.textAt? place with
    | none => none
    | some text => if before.textAt? place = some text then none else some (place, text)

theorem node?_put_self (t : FileTree) (place : Place) (node : FileNode) :
    (t.put place node).node? place = some node := by
  simp only [node?, put]
  induction t.nodes with
  | nil => simp [putNode]
  | cons entry rest ih =>
    simp only [putNode]
    split
    · simp
    · rename_i h
      rw [List.lookup_cons, beq_false_of_ne (Ne.symm h), ih]

theorem node?_put_of_ne (t : FileTree) {place other : Place} (node : FileNode)
    (h : other ≠ place) : (t.put place node).node? other = t.node? other := by
  simp only [node?, put]
  induction t.nodes with
  | nil => simp [putNode, List.lookup_cons, beq_false_of_ne h]
  | cons entry rest ih =>
    simp only [putNode]
    split
    · rename_i he
      subst he
      rw [List.lookup_cons, List.lookup_cons, beq_false_of_ne h]
    · rw [List.lookup_cons, List.lookup_cons, ih]

end FileTree

end NativeVariants
