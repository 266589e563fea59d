import NativeVariants.Text.Quoted
import NativeVariants.Text.Utf8

/-!
# Failures

Everything that can go wrong, by cause, with the words it is reported in. A failure has a kind;
the kind decides how the command line answers it.
-/

namespace NativeVariants

/-- Why a component is configured in a way that cannot be built. -/
inductive ConfigurationFault where
  | noBuildType (component : String)
  | repeatedBuildType (name component : String)
  | noTargetMachine (component : String)
  | noLinkage (component : String)
  | noFactory (component : String)
  | notTables
  | unnamedProject
  | unknownComponentType (name : String)
  | unknownBuildType (entry : String)
  | unnamedBuildType
  | badBuildType
  | malformedMachine (entry : String)
  | incompleteMachine
  | badMachine
  | unknownLinkage (entry : String)
  | notAList (key : String)
  | unsupportedLanguage (language : String)
  deriving DecidableEq, Repr, Inhabited

/-- The words for a machine text without its two parts. -/
def malformedMachineMessage (text : String) : String :=
  s!"Target machine '{text}' must be written as '<os>:<arch>'"

namespace ConfigurationFault

def message : ConfigurationFault → String
  | noBuildType component => s!"A build type needs to be specified for the {component}."
  | repeatedBuildType name component =>
    s!"Build type '{name}' is declared more than once for the {component}."
  | noTargetMachine component => s!"A target machine needs to be specified for the {component}."
  | noLinkage component => s!"A linkage needs to be specified for the {component}."
  | noFactory component => s!"No binary factory is registered for the {component}."
  | notTables => "[project] and [component] must be tables"
  | unnamedProject => "project.name is required in variantbuilder.toml"
  | unknownComponentType name =>
    s!"Unknown component type '{name}'. Supported types: library, application"
  | unknownBuildType entry =>
    s!"Unknown build type '{entry}'. Available build types: debug, release"
  | unnamedBuildType => "Build type tables must include a non-empty 'name'"
  | badBuildType => "Build types must be given as names or tables"
  | malformedMachine entry => malformedMachineMessage entry
  | incompleteMachine => "Target machine tables must include both 'os' and 'arch'"
  | badMachine => "Target machines must be given as '<os>:<arch>' strings or tables"
  | unknownLinkage entry => s!"Unknown linkage '{entry}'. Supported linkages: shared, static"
  | notAList key => s!"component.{key} must be a list"
  | unsupportedLanguage language =>
    s!"Unsupported language '{language}'. Supported languages: cpp, swift"

end ConfigurationFault

/-- The kinds of failures. The first three are the program's own, the ones from `commandLine` to
`abort` the command line's. -/
inductive FailureKind where
  | general
  | configuration
  | missingValue
  | commandLine
  | usage
  | badParameter
  | abort
  | settingsSyntax
  | noFile
  | isDirectory
  | notDirectory
  | undecodable
  | badValue
  | wrongType
  | noAttribute
  | missingKey
  | notImplemented
  | system
  | outOfRange
  | outOfStack
  | other (name : String)
  deriving DecidableEq, Repr, Inhabited

namespace FailureKind

/-- The name that a kind is reported under. -/
def name : FailureKind → String
  | general => "VariantBuilderError"
  | configuration => "ConfigurationError"
  | missingValue => "MissingValueError"
  | commandLine => "ClickException"
  | usage => "UsageError"
  | badParameter => "BadParameter"
  | abort => "Abort"
  | settingsSyntax => "TomlDecodeError"
  | noFile => "FileNotFoundError"
  | isDirectory => "IsADirectoryError"
  | notDirectory => "NotADirectoryError"
  | undecodable => "UnicodeDecodeError"
  | badValue => "ValueError"
  | wrongType => "TypeError"
  | noAttribute => "AttributeError"
  | missingKey => "KeyError"
  | notImplemented => "NotImplementedError"
  | system => "OSError"
  | outOfRange => "IndexError"
  | outOfStack => "RecursionError"
  | other name => name

/-- The kinds that have a name of their own. -/
def named : List FailureKind :=
  [general, configuration, missingValue, commandLine, usage, badParameter, abort, settingsSyntax,
    noFile, isDirectory, notDirectory, undecodable, badValue, wrongType, noAttribute, missingKey,
    notImplemented, system, outOfRange, outOfStack]

def ofName (name : String) : FailureKind :=
  (named.find? fun kind => kind.name == name).getD (other name)

/-- The name in a report, which tells where the program's own kinds and those of its parts come
from. -/
def qualifiedName (kind : FailureKind) : String :=
  match kind with
  | general | configuration | missingValue => "variantbuilder.errors." ++ kind.name
  | commandLine | usage | badParameter | abort => "click.exceptions." ++ kind.name
  | settingsSyntax => "toml.decoder." ++ kind.name
  | _ => kind.name

/-- Whether the kind is one of the command line's, other than giving up. -/
def isCommandLine : FailureKind → Bool
  | commandLine | usage | badParameter => true
  | _ => false

end FailureKind

/-- Why a file cannot be used. -/
inductive FileFault where
  | missing
  | notDirectory
  | isDirectory
  | nameTooLong
  | nullInPath
  deriving DecidableEq, Repr, Inhabited

namespace FileFault

def kind : FileFault → FailureKind
  | missing => .noFile
  | notDirectory => .notDirectory
  | isDirectory => .isDirectory
  | nameTooLong => .system
  | nullInPath => .badValue

/-- The number and the words of the operating system, and the path. A path with a null byte does not
reach the operating system. -/
def message (path : String) : FileFault → String
  | missing => s!"[Errno 2] No such file or directory: {Text.quote path}"
  | notDirectory => s!"[Errno 20] Not a directory: {Text.quote path}"
  | isDirectory => s!"[Errno 21] Is a directory: {Text.quote path}"
  | nameTooLong => s!"[Errno 36] File name too long: {Text.quote path}"
  | nullInPath => "embedded null byte"

end FileFault

inductive Failure where
  | configuration (fault : ConfigurationFault)
  /-- A value that was never given was read; `label` says which. -/
  | missingValue (label : String)
  /-- A value is none of the members of an enumeration; both as they are spelt. -/
  | unknownMember (literal enumeration : String)
  | malformedMachine (text : String)
  | missingKey (key : String)
  | notImplemented
  | wrongType
  | noAttribute
  | malformedSettings
  /-- Settings hold a text that the settings file cannot hold. -/
  | unwritableText
  /-- A whole number has more digits than are spelt. -/
  | longNumber
  /-- Lists and tables are nested deeper than the stack holds in doing something. -/
  | tooDeep (doing : String)
  | undecodable (fault : Text.Utf8.Fault)
  | file (fault : FileFault) (path : String)
  /-- A failure made by a factory or a supplier. -/
  | raised (kind : FailureKind) (message : String)
  deriving DecidableEq, Repr, Inhabited

namespace Failure

def kind : Failure → FailureKind
  | configuration _ => .configuration
  | missingValue _ => .missingValue
  | unknownMember .. => .badValue
  | malformedMachine _ => .badValue
  | missingKey _ => .missingKey
  | notImplemented => .notImplemented
  | wrongType => .wrongType
  | noAttribute => .noAttribute
  | malformedSettings => .settingsSyntax
  | unwritableText => .outOfRange
  | longNumber => .badValue
  | tooDeep _ => .outOfStack
  | undecodable _ => .undecodable
  | file fault _ => fault.kind
  | raised kind _ => kind

/-- The words of a failure; a missing key is spelt as a literal, and giving up has no words. -/
def message : Failure → String
  | configuration fault => fault.message
  | missingValue label => s!"No value has been specified for {label}."
  | unknownMember literal enumeration => s!"{literal} is not a valid {enumeration}"
  | malformedMachine text => malformedMachineMessage text
  | missingKey key => Text.quote key
  | notImplemented | wrongType | noAttribute => ""
  | malformedSettings => "<toml error>"
  | unwritableText => "list index out of range"
  | longNumber =>
    "Exceeds the limit (4300 digits) for integer string conversion; " ++
      "use sys.set_int_max_str_digits() to increase the limit"
  | tooDeep doing => s!"maximum recursion depth exceeded while {doing}"
  | undecodable fault => fault.message
  | file fault path => fault.message path
  | raised .missingKey text => Text.quote text
  | raised .abort _ => ""
  | raised _ text => text

/-- The last paragraph of a report: the kind, and the words if there are any. -/
def report (failure : Failure) : String :=
  if failure.message.isEmpty then failure.kind.qualifiedName
  else failure.kind.qualifiedName ++ ": " ++ failure.message

end Failure

end NativeVariants
