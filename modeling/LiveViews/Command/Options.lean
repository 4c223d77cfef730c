import LiveViews.Command.Line
import LiveViews.Text.Numeral
import LiveViews.Text.Search

/-!
Reading the options of one command.

A value that stands apart from its option is taken down first and looked at later: when the next
option comes, or at the end, after the command that follows has been read.
-/

namespace LiveViews.Command

open LiveViews.Text

inductive ValueKind where
  | path
  | text
  | port
  | truth
  deriving DecidableEq

inductive OptionKind where
  | value (kind : ValueKind)
  | loose (kind : ValueKind) (usual : String)
  | help
  | version
  deriving DecidableEq

structure OptionForm where
  name : String
  letter : Option Char
  kind : OptionKind

/-- What a command takes: options, words in their order, and commands that end its own part. -/
structure Form where
  options : List OptionForm
  words : List String := []
  commands : List String := []

structure Pending where
  option : OptionForm
  values : List String

structure Given where
  values : List (String × String) := []
  pending : Option Pending := none
  awaiting : Bool := false
  words : List String
  wordsOnly : Bool := false

def Given.value? (given : Given) (name : String) : Option String :=
  (given.values.find? fun item => item.1 = name).map Prod.snd

def longestPort : Int := 65535

def readPort? (text : String) : Option Nat :=
  ((readI64? text.toList).filter fun value => 0 ≤ value && value ≤ longestPort).map Int.toNat

def checkValue (kind : ValueKind) (value : String) : Except UsageError Unit :=
  match kind with
  | .path => if value.isEmpty then .error .invalidValue else .ok ()
  | .text => .ok ()
  | .port => if (readPort? value).isSome then .ok () else .error .unreadableValue
  | .truth => if value = "true" ∨ value = "false" then .ok () else .error .invalidValue

def accept (option : OptionForm) (kind : ValueKind) (value : String) (given : Given) :
    Except UsageError Given := do
  if (given.value? option.name).isSome then .error .repeatedArgument
  else
    checkValue kind value
    return { given with values := given.values ++ [(option.name, value)] }

def react (option : OptionForm) (values : List String) (given : Given) : Except UsageError Given :=
  match option.kind, values with
  | .help, _ => .error .helpAsked
  | .version, _ => .error .versionAsked
  | .value _, [] => .error .invalidValue
  | .value kind, value :: _ => accept option kind value given
  | .loose kind usual, [] => accept option kind usual given
  | .loose kind _, value :: _ => accept option kind value given

def resolve (given : Given) : Except UsageError Given :=
  match given.pending with
  | none => .ok { given with awaiting := false }
  | some pending =>
    react pending.option pending.values { given with pending := none, awaiting := false }

def readOption (option : OptionForm) (attached : Option String) (given : Given) :
    Except UsageError Given :=
  match option.kind, attached with
  | .help, some _ | .version, some _ => .error .surplusValue
  | .help, none | .version, none => do react option [] (← resolve given)
  | _, some value => do react option [value] (← resolve given)
  | _, none => do
    return { ← resolve given with pending := some ⟨option, []⟩, awaiting := true }

def splitLong (text : List Char) : String × Option String :=
  match splitOnce ['='] text with
  | some (name, value) => (String.ofList name, some (String.ofList value))
  | none => (String.ofList text, none)

def readLong (form : Form) (text : List Char) (given : Given) : Except UsageError Given :=
  let (name, attached) := splitLong text
  match form.options.find? fun option => option.name = name with
  | some option => readOption option attached given
  | none => .error .unknownArgument

def attachedTo : List Char → Option String
  | [] => none
  | '=' :: value => some (String.ofList value)
  | value => some (String.ofList value)

def readLetters (form : Form) (letters : List Char) (given : Given) : Except UsageError Given :=
  match letters with
  | [] => .ok given
  | letter :: rest =>
    match form.options.find? fun option => option.letter = some letter with
    | some option =>
      match option.kind with
      | .help | .version => readOption option none given
      | _ => readOption option (attachedTo rest) given
    | none => .error .unknownArgument

def readWord (form : Form) (word : String) (given : Given) : Except UsageError Given :=
  match given.words with
  | name :: rest => do
    let given ← resolve given
    return { given with values := given.values ++ [(name, word)], words := rest }
  | [] =>
    if form.commands.isEmpty || (given.wordsOnly && form.commands.contains word) then
      .error .unknownArgument
    else .error .unknownCommand

def readArgument (form : Form) (argument : String) (given : Given) : Except UsageError Given :=
  let asWord :=
    match given.pending with
    | some pending =>
      if given.awaiting && !given.wordsOnly then
        .ok { given with pending := some ⟨pending.option, [argument]⟩, awaiting := false }
      else readWord form argument given
    | none => readWord form argument given
  if given.wordsOnly then asWord
  else
    match argument.toList with
    | ['-', '-'] => .ok { given with wordsOnly := true }
    | '-' :: '-' :: name => readLong form name given
    | '-' :: letter :: rest => readLetters form (letter :: rest) given
    | _ => asWord

structure Following where
  command : String
  arguments : List String

def readArguments (form : Form) : List String → Given → Except UsageError (Given × Option Following)
  | [], given => .ok (given, none)
  | argument :: rest, given =>
    if !given.wordsOnly && !given.awaiting && form.commands.contains argument then
      .ok (given, some ⟨argument, rest⟩)
    else do readArguments form rest (← readArgument form argument given)

end LiveViews.Command
