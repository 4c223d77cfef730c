import LiveViews.Command.Options

/-!
Reading a command line.
-/

namespace LiveViews.Command

def helpOption : OptionForm := ⟨"help", some 'h', .help⟩

def mainForm : Form where
  options := [
    ⟨"root", some 'r', .value .path⟩,
    ⟨"config", some 'C', .value .path⟩,
    ⟨"views", none, .value .path⟩,
    helpOption,
    ⟨"version", some 'V', .version⟩]
  commands := ["serve", "render", "check", "help"]

def serveForm : Form where
  options := [
    ⟨"interface", some 'i', .value .text⟩,
    ⟨"port", some 'p', .value .port⟩,
    ⟨"watch", some 'w', .loose .truth "true"⟩,
    helpOption]

def renderForm : Form where
  options := [
    ⟨"controller", none, .value .text⟩,
    ⟨"area", none, .value .text⟩,
    ⟨"model", none, .value .text⟩,
    helpOption]
  words := ["view"]

def checkForm : Form where
  options := [helpOption]

def readWhole (form : Form) (arguments : List String) : Except UsageError Given := do
  let (given, _) ← readArguments form arguments { words := form.words }
  let given ← resolve given
  if form.words.any fun word => (given.value? word).isNone then .error .missingArgument
  else return given

def readServe (arguments : List String) : Except UsageError Request := do
  let given ← readWhole serveForm arguments
  return .serve (given.value? "interface") ((given.value? "port").bind readPort?)
    ((given.value? "watch").map fun value => value = "true")

def readRender (arguments : List String) : Except UsageError Request := do
  let given ← readWhole renderForm arguments
  return .render ((given.value? "view").getD "") ((given.value? "controller").getD "Home")
    (given.value? "area") (given.value? "model")

def readHelp : List String → UsageError
  | [] => .helpAsked
  | command :: rest =>
    if rest.isEmpty && mainForm.commands.contains command then .helpAsked else .unknownCommand

def readRequest (following : Following) : Except UsageError Request :=
  match following.command with
  | "serve" => readServe following.arguments
  | "render" => readRender following.arguments
  | "check" => (readWhole checkForm following.arguments).map fun _ => .check
  | _ => .error (readHelp following.arguments)

def Line.read (arguments : List String) : Except UsageError Line := do
  let (given, following) ← readArguments mainForm arguments { words := [] }
  match following with
  | some following =>
    let request ← readRequest following
    let given ← resolve given
    return {
      root := given.value? "root"
      config := (given.value? "config").getD usualConfig
      views := given.value? "views"
      request := request }
  | none =>
    let given ← resolve given
    if given.values.isEmpty then .error .nothingAsked else .error .missingCommand

end LiveViews.Command
