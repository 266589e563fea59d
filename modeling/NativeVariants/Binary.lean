import NativeVariants.Builder

/-!
# Binaries

What a build makes of a variant in some language, what its file is called on each system, and what
is published of a library.
-/

namespace NativeVariants

/-- The languages that components are written in. -/
inductive Language where
  | cpp
  | swift
  deriving DecidableEq, Repr, Inhabited

namespace Language

def name : Language → String
  | cpp => "cpp"
  | swift => "swift"

/-- The language inside the names of publications. -/
def title : Language → String
  | cpp => "Cpp"
  | swift => "Swift"

/-- Reads a language by its name, in any case and with white space around it. -/
def ofText (text : String) : Except Failure Language :=
  let name := Text.lower (Text.trim text)
  if name = "cpp" then .ok cpp
  else if name = "swift" then .ok swift
  else .error (.configuration (.unsupportedLanguage name))

end Language

/-- The file that holds a binary of the given kind on a family of systems. The base name is used as
it is where nothing is added to it. -/
def BinaryKind.fileName (kind : BinaryKind) (baseName : Value) (family : String) :
    Except Failure Value :=
  let named (lead extension : String) : Except Failure Value :=
    baseName.text.map fun name => .string (lead ++ name ++ extension)
  match kind with
  | .sharedLibrary =>
    if family = "windows" then named "" ".dll"
    else if family = "macos" then named "lib" ".dylib"
    else named "lib" ".so"
  | .staticLibrary => if family = "windows" then named "" ".lib" else named "lib" ".a"
  | .executable => if family = "windows" then named "" ".exe" else .ok baseName

/-- What a binary of the given kind is called in messages. -/
def BinaryKind.title : BinaryKind → String
  | .sharedLibrary => "SharedLibrary"
  | .staticLibrary => "StaticLibrary"
  | .executable => "Executable"

structure Binary where
  kind : BinaryKind
  variant : Variant
  language : Language
  module : Label

namespace Binary

def name (b : Binary) : String :=
  b.variant.name

def machine (b : Binary) : Machine :=
  b.variant.combination.machine

def isDebuggable (b : Binary) : Bool :=
  b.variant.identity.debuggable

/-- The base name as it is now. -/
def baseName (b : Binary) (project : Project) : Except Failure Value :=
  b.variant.identity.names.baseName.read project

/-- The file of the binary, under the base name of now. -/
def artifact (b : Binary) (project : Project) : Except Failure Value :=
  (b.baseName project).bind fun name => b.kind.fileName name b.machine.family

def text (b : Binary) : String :=
  s!"{b.kind.title}({Text.quote b.name}, {b.language.name}, {b.machine.text})"

end Binary

/-- The interface of a library that other builds may use. -/
structure Publication where
  name : String
  attributes : AttributeSet
  artifact : String

namespace Publication

/-- The interface of a library binary: its headers, or the module of its language. -/
def ofBinary (b : Binary) : Publication where
  name := b.name ++ b.language.title ++ "ApiElements"
  attributes := AttributeSet.ofList
    [("usage", .usage .api),
      ("linkage", .linkage (if b.kind = .sharedLibrary then .shared else .static)),
      ("debuggable", .plain (.bool b.isDebuggable)),
      ("optimized", .plain (.bool b.variant.identity.optimized)),
      ("operating-system-family", .plain (.string b.machine.family))]
  artifact :=
    match b.language with
    | .swift => b.module.text ++ ".swiftmodule"
    | .cpp => "src/main/public"

def text (p : Publication) : String :=
  s!"Publication({Text.quote p.name}, {Text.quote p.artifact})"

end Publication

/-- A factory that makes binaries of one kind for one language. -/
structure LanguageFactory where
  kind : BinaryKind
  language : Language
  module : Label
  deriving Repr, Inhabited

namespace LanguageFactory

/-- Factories for a language never fail and keep no state. -/
def make : Make LanguageFactory Unit Binary :=
  fun factory v state => (.ok ⟨factory.kind, v, factory.language, factory.module⟩, state)

end LanguageFactory

end NativeVariants
