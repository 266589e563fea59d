import NativeVariants.Value

/-!
# Build dimensions

What varies between the builds of one component besides the machine: the build type and, for
libraries, the linkage. With them the enumerations that name what a build makes and what it is for.
-/

namespace NativeVariants

structure BuildType where
  name : String
  debuggable : Bool := false
  optimized : Bool := false
  deriving DecidableEq, Repr, Inhabited

namespace BuildType

def debug : BuildType := ⟨"debug", true, false⟩

def release : BuildType := ⟨"release", false, true⟩

/-- The build types of a component that names none. -/
def defaults : List BuildType := [debug, release]

/-- The build type that a name alone stands for. -/
def ofName? (name : String) : Option BuildType :=
  defaults.find? fun t => t.name == name

end BuildType

inductive Linkage where
  | shared
  | static
  deriving DecidableEq, Repr, Inhabited

inductive Usage where
  | runtime
  | link
  | api
  deriving DecidableEq, Repr, Inhabited

inductive BinaryKind where
  | sharedLibrary
  | staticLibrary
  | executable
  deriving DecidableEq, Repr, Inhabited

/-- Reads a member of an enumeration by its name. A value that names none is spelt in the failure. -/
def memberOf {α : Type} (enumeration : String) (ofName? : String → Option α) (v : Value) :
    Except Failure α :=
  match v.string?.bind ofName? with
  | some member => .ok member
  | none => v.literal.bind fun literal => .error (.unknownMember literal enumeration)

namespace Linkage

def name : Linkage → String
  | shared => "shared"
  | static => "static"

def ofName? (name : String) : Option Linkage :=
  if name = "shared" then some shared else if name = "static" then some static else none

def ofValue : Value → Except Failure Linkage :=
  memberOf "Linkage" ofName?

/-- The kind of library that a linkage asks for. -/
def kind : Linkage → BinaryKind
  | shared => .sharedLibrary
  | static => .staticLibrary

end Linkage

namespace Usage

def name : Usage → String
  | runtime => "native-runtime"
  | link => "native-link"
  | api => "api"

def ofName? (name : String) : Option Usage :=
  [runtime, link, api].find? fun usage => usage.name == name

def ofValue : Value → Except Failure Usage :=
  memberOf "Usage" ofName?

end Usage

namespace BinaryKind

/-- Every kind, in the order in which factories of several kinds are listed. -/
def all : List BinaryKind := [sharedLibrary, staticLibrary, executable]

def name : BinaryKind → String
  | sharedLibrary => "shared-library"
  | staticLibrary => "static-library"
  | executable => "executable"

def ofName? (name : String) : Option BinaryKind :=
  all.find? fun kind => kind.name == name

def ofValue : Value → Except Failure BinaryKind :=
  memberOf "BinaryKind" ofName?

@[simp] theorem mem_all (kind : BinaryKind) : kind ∈ all := by cases kind <;> decide

end BinaryKind

end NativeVariants
