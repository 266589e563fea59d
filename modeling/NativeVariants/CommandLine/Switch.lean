import NativeVariants.Text.Quoted
import NativeVariants.Text.Resemblance
import NativeVariants.Text.Search

/-!
# Switches

Reading the words of a command line: switches by their long or short names, with or without a
value, and the words that are no switches.
-/

namespace NativeVariants.CommandLine

/-- Something that may be asked for by name. -/
structure Switch where
  /-- The name behind two dashes. -/
  long : String
  /-- The letter behind one dash. -/
  short : Option Char := none
  takesValue : Bool := false
  deriving DecidableEq, Repr, Inhabited

/-- The switch that every command knows. -/
def helpSwitch : Switch := ⟨"help", none, false⟩

/-- Why a command line cannot be understood. A name that nothing is known by comes with the names
that resemble it. -/
inductive UsageFault where
  | unknownSwitch (name : String) (alike : List String)
  | valueMissing (name : String)
  | valueUnwanted (name : String)
  | commandMissing
  | unknownCommand (name : String) (alike : List String)
  | argumentMissing (name : String)
  | extraArguments (words : List String)
  | badChoice (name value : String) (choices : List String)
  | noSuchPath (name path : String)
  /-- A path that no file can have. -/
  | nullInPath (path : String)
  deriving DecidableEq, Repr, Inhabited

namespace UsageFault

/-- Asks whether one of some names was meant. -/
def question : List String → String
  | [] => ""
  | [name] => s!" Did you mean {Text.quote name}?"
  | names =>
    let all := ", ".intercalate (names.map Text.quote)
    s!" (Did you mean one of: {all}?)"

def message : UsageFault → String
  | unknownSwitch name alike => s!"No such option {Text.quote name}.{question alike}"
  | valueMissing name => s!"Option {Text.quote name} requires an argument."
  | valueUnwanted name => s!"Option {Text.quote name} does not take a value."
  | commandMissing => "Missing command."
  | unknownCommand name alike => s!"No such command {Text.quote name}.{question alike}"
  | argumentMissing name => s!"Missing argument {Text.quote name}."
  | extraArguments [word] => s!"Got unexpected extra argument ({word})"
  | extraArguments words =>
    let all := " ".intercalate words
    s!"Got unexpected extra arguments ({all})"
  | badChoice name value choices =>
    let all := ", ".intercalate (choices.map Text.quote)
    s!"Invalid value for {Text.quote name}: {Text.quote value} is not one of {all}."
  | noSuchPath name path =>
    s!"Invalid value for {Text.quote name}: Path {Text.quote path} does not exist."
  | nullInPath path => s!"Path {Text.quote path} holds a null character."

/-- Whether the usage of the command is shown above the message: not where a switch was given with
or without a value against its nature. -/
def showsUsage : UsageFault → Bool
  | valueMissing _ | valueUnwanted _ => false
  | _ => true

end UsageFault

/-- What words say: the switches by their long names, in order, with their values if they take
any, and the other words. -/
structure Words where
  given : List (String × Option String) := []
  rest : List String := []
  deriving DecidableEq, Repr, Inhabited

namespace Words

/-- Whether a switch is on. -/
def on (w : Words) (long : String) : Bool :=
  w.given.any (·.1 == long)

/-- The value last given for a switch. -/
def value? (w : Words) (long : String) : Option String :=
  (w.given.filter (·.1 == long)).getLast?.bind (·.2)

end Words

/-- A word read as switches: those that are complete, and the one that waits for its value in the
next word, with the name it was called by. -/
structure Read where
  given : List (String × Option String)
  waiting : Option (String × String)

/-- Letters behind one dash. A letter that takes a value takes the rest of the word, if there is
any. -/
def readLetters (switches : List Switch) : List Char → Except UsageFault Read
  | [] => .ok ⟨[], none⟩
  | c :: cs =>
    let name := String.ofList ['-', c]
    match switches.find? (·.short = some c) with
    | none => .error (.unknownSwitch name [])
    | some switch =>
      if switch.takesValue then
        if cs.isEmpty then .ok ⟨[], some (switch.long, name)⟩
        else .ok ⟨[(switch.long, some (String.ofList cs))], none⟩
      else
        (readLetters switches cs).map fun read =>
          { read with given := (switch.long, none) :: read.given }

/-- The name of a switch as it is given. -/
def Switch.name (switch : Switch) : String :=
  "--" ++ switch.long

/-- A name that no switch has. -/
def unknownSwitch (switches : List Switch) (name : String) : UsageFault :=
  .unknownSwitch name (Text.resembling name (switches.map (·.name)))

/-- A word that begins with a dash. -/
def readSwitch (switches : List Switch) (word : String) : Except UsageFault Read :=
  let (name, value) := Text.cut '=' word
  match switches.find? fun switch => switch.name == name with
  | some switch =>
    match value with
    | none =>
      if switch.takesValue then .ok ⟨[], some (switch.long, name)⟩
      else .ok ⟨[(switch.long, none)], none⟩
    | some value =>
      if switch.takesValue then .ok ⟨[(switch.long, some value)], none⟩
      else .error (.valueUnwanted name)
  | none =>
    match word.toList with
    | '-' :: '-' :: _ => .error (unknownSwitch switches name)
    | _ :: letters => readLetters switches letters
    | [] => .error (unknownSwitch switches name)

/-- Whether a word is read as switches: it begins with a dash and is more than that. -/
def looksLikeSwitch (word : String) : Bool :=
  match word.toList with
  | '-' :: _ :: _ => true
  | _ => false

/-- Reads words. Two dashes end the switches; where switches and other words may not be mixed, the
first other word ends them as well. `waiting` is the switch that the next word is the value of. -/
def readWords (switches : List Switch) (mixed : Bool) (waiting : Option (String × String))
    (read : Words) : List String → Except UsageFault Words
  | [] =>
    match waiting with
    | some (_, name) => .error (.valueMissing name)
    | none => .ok read
  | word :: words =>
    match waiting with
    | some (long, _) =>
      readWords switches mixed none { read with given := read.given ++ [(long, some word)] } words
    | none =>
      if word = "--" then .ok { read with rest := read.rest ++ words }
      else if looksLikeSwitch word then do
        let more ← readSwitch switches word
        readWords switches mixed more.waiting { read with given := read.given ++ more.given } words
      else if mixed then
        readWords switches mixed none { read with rest := read.rest ++ [word] } words
      else .ok { read with rest := read.rest ++ word :: words }

end NativeVariants.CommandLine
