import NativeVariants.Text.Blank
import NativeVariants.Text.Case
import NativeVariants.Text.Search
import NativeVariants.Value

/-!
# Machines

Machines to build for and machines to build on: a family of operating systems and an architecture.
Other spellings of the same family or architecture fold into one, so that equal machines are equal
as data.
-/

namespace NativeVariants

/-- The families of operating systems that a host can belong to. -/
def knownFamilies : List String :=
  ["windows", "linux", "macos", "freebsd", "solaris"]

def familyAliases : List (String × String) :=
  [("darwin", "macos"), ("osx", "macos"), ("mac os x", "macos"), ("win32", "windows"),
    ("sunos", "solaris")]

def architectureAliases : List (String × String) :=
  [("x86_64", "x86-64"), ("amd64", "x86-64"), ("x64", "x86-64"), ("i386", "x86"), ("i486", "x86"),
    ("i586", "x86"), ("i686", "x86"), ("aarch64", "arm64"), ("arm-v8", "arm64"), ("armv7l", "arm"),
    ("armv6l", "arm")]

/-- A name without surrounding white space, in lower case, and under its usual spelling. -/
def foldName (aliases : List (String × String)) (name : String) : String :=
  let plain := Text.lower (Text.trim name)
  (aliases.lookup plain).getD plain

def foldFamily : String → String :=
  foldName familyAliases

def foldArchitecture : String → String :=
  foldName architectureAliases

/-- A machine by the family of its operating system and its architecture. -/
structure Machine where
  family : String
  architecture : String
  deriving DecidableEq, Repr, Inhabited

namespace Machine

/-- The machine that two names stand for in any spelling. -/
def ofNames (family architecture : String) : Machine :=
  ⟨foldFamily family, foldArchitecture architecture⟩

/-- Reads a family and an architecture around the first colon; neither may be blank. -/
def parse? (text : String) : Option Machine :=
  match Text.cut ':' text with
  | (family, some architecture) =>
    let family := Text.trim family
    let architecture := Text.trim architecture
    if family.isEmpty || architecture.isEmpty then none else some (ofNames family architecture)
  | (_, none) => none

def parse (text : String) : Except Failure Machine :=
  match parse? text with
  | some machine => .ok machine
  | none => .error (.malformedMachine text)

def text (m : Machine) : String :=
  m.family ++ ":" ++ m.architecture

end Machine

/-- The machine that a build runs on: the names that it gives itself, and how deep its stack lets lists
and tables be nested inside a value that is spelt. -/
structure Host where
  system : String := "Linux"
  machine : String := "x86_64"
  stack : Nat := 900
  deriving DecidableEq, Repr, Inhabited

/-- The name for a family or architecture that is not known. -/
def unknownName : String := "unknown"

/-- The family a system belongs to, if it is a known one. -/
def hostFamily (system : String) : String :=
  let family := foldFamily system
  if knownFamilies.contains family then family else unknownName

def hostArchitecture (machine : String) : String :=
  let architecture := foldArchitecture machine
  if architecture.isEmpty then unknownName else architecture

namespace Host

def family (host : Host) : String :=
  hostFamily host.system

def architecture (host : Host) : String :=
  hostArchitecture host.machine

/-- The host as a machine to build for. -/
def asTarget (host : Host) : Machine :=
  Machine.ofNames host.family host.architecture

/-- Does something to a value that is not nested too deep for it. -/
def within (host : Host) (doing : String) (act : Value → Except Failure String) (v : Value) :
    Except Failure String :=
  if v.depth ≤ host.stack + 1 then act v else .error (.tooDeep doing)

/-- What a message shows of a value. -/
def spell (host : Host) : Value → Except Failure String :=
  host.within "getting the repr of an object" Value.text

end Host

example : Machine.parse? " Darwin : AArch64 " = some ⟨"macos", "arm64"⟩ := by decide +kernel
example : Machine.parse? "linux:" = none := by decide +kernel

end NativeVariants
