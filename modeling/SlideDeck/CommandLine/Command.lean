import SlideDeck.CommandLine.Syntax

/-! # Commands

The program lists components, validates payloads, assembles, renders and generates
decks, and reseeds its library. User components come from a directory that is named in
front of the command.
-/

namespace SlideDeck.CommandLine

/-- What the program is asked to do. -/
inductive Command
  | components (category : Option String)
  | validate (component payload : String)
  | assemble (input : String) (params : Option String)
  | render (blueprint out : String) (theme : Option String)
  | generate (input outDir : String) (params theme : Option String)
  | seed
deriving DecidableEq, Repr

/-- A command with the directory of user components. -/
structure Invocation where
  componentsDir : Option String
  command : Command
deriving DecidableEq, Repr

/-- The name of the program. -/
def programName : String := "deckforge-cli"

/-- What the program is. -/
def programHelp : String := "DeckForge CLI - Slide Deck Compiler"

/-- The options in front of the command. -/
def programOptions : List OptionSpec := [{
  long := "components-dir"
  short := some 'c'
  valueName := "COMPONENTS_DIR"
  kind := .path
  help := "Directory of additional USER component definitions" }]

/-- Generation parameters are given as JSON. -/
def paramsOption : OptionSpec where
  long := "params"
  valueName := "PARAMS"
  kind := .text
  help := "JSON GenerationParameters"

/-- A theme is given as a file. -/
def themeOption : OptionSpec where
  long := "theme"
  valueName := "THEME"
  kind := .path
  help := "Theme JSON file"

/-- The text that a deck is made from. -/
def inputArgument : ArgumentSpec := ⟨"INPUT", .path, "Source text file"⟩

/-- Lists components. -/
def componentsSpec : CommandSpec where
  name := "components"
  help := "List available components"
  options := [{
    long := "category"
    valueName := "CATEGORY"
    kind := .text
    help := "Only this category (TITLE, DATA, ...)" }]

/-- Validates a payload. -/
def validateSpec : CommandSpec where
  name := "validate"
  help := "Validate a payload against a component schema"
  options := [
    { long := "component"
      short := some 'i'
      valueName := "COMPONENT"
      kind := .text
      help := "Component ID"
      required := true },
    { long := "payload"
      short := some 'p'
      valueName := "PAYLOAD"
      kind := .text
      help := "JSON payload"
      required := true }]

/-- Assembles a blueprint. -/
def assembleSpec : CommandSpec where
  name := "assemble"
  help := "Parse a text file and print the assembled blueprint"
  options := [paramsOption]
  arguments := [inputArgument]

/-- Renders a blueprint. -/
def renderSpec : CommandSpec where
  name := "render"
  help := "Render a blueprint JSON file to PDF"
  options := [
    { long := "out"
      short := some 'o'
      valueName := "OUT"
      kind := .path
      help := "Output PDF path"
      required := true },
    themeOption]
  arguments := [⟨"BLUEPRINT", .path, "Blueprint JSON file"⟩]

/-- Generates a deck. -/
def generateSpec : CommandSpec where
  name := "generate"
  help := "Run the full pipeline on a text file"
  options := [
    { long := "out-dir"
      short := some 'o'
      valueName := "OUT_DIR"
      kind := .path
      help := "Directory the PDF is written to"
      default := some "out" },
    paramsOption,
    themeOption]
  arguments := [inputArgument]

/-- Reseeds the library. -/
def seedSpec : CommandSpec where
  name := "seed"
  help := "Reseed the CORE library and report the counts"

/-- All commands. -/
def commandSpecs : List CommandSpec :=
  [componentsSpec, validateSpec, assembleSpec, renderSpec, generateSpec, seedSpec]

/-- The name of the command that shows help. -/
def helpName : String := "help"

/-- What the command that shows help does. -/
def helpHelp : String := "Print this message or the help of the given subcommand(s)"

/-- What is shown when the program itself is asked for help. -/
def programHelpText : String :=
  let commands := commandSpecs.map (fun c => (c.name, c.help)) ++ [(helpName, helpHelp)]
  "\n".intercalate <|
    [programHelp, "", " ".intercalate ["Usage:", programName, "[OPTIONS]", "<COMMAND>"], "",
      "Commands:"] ++ helpRows commands ++ ["", "Options:"] ++
      helpRows (programOptions.map OptionSpec.row ++ [helpRow])

/-- The command of a name and its values. Everything required is among them. -/
def commandOf? (c : CommandSpec) (words : Words) : Option Command :=
  let value := c.value? words
  match c.name, words.arguments with
  | "components", [] => some (.components (value "category"))
  | "validate", [] => do return .validate (← value "component") (← value "payload")
  | "assemble", [input] => some (.assemble input (value "params"))
  | "render", [blueprint] => do return .render blueprint (← value "out") (value "theme")
  | "generate", [input] => do
    return .generate input (← value "out-dir") (value "params") (value "theme")
  | "seed", [] => some .seed
  | _, _ => none

/-- What a command line comes to. -/
inductive Request
  | invocation (i : Invocation)
  | help (text : String)
  | usageError
deriving DecidableEq, Repr

/-- What a command line comes to that is not taken as it is. -/
def Stop.request (help : String) : Stop → Request
  | .usage => .usageError
  | .help => .help help

/-- What is shown when the command that shows help is asked for its own. -/
def helpHelpText : String :=
  "\n".intercalate <|
    [helpHelp, "", " ".intercalate ["Usage:", programName, helpName, "[COMMAND]..."], "",
      "Arguments:"] ++ helpRows [("[COMMAND]...", "Print help for the subcommand(s)")]

/-- The request for the help of a command, or of the program. -/
def helpRequest : List String → Request
  | [] => .help programHelpText
  | [name] =>
    match commandSpecs.find? fun c => c.name == name with
    | some c => .help (c.helpText programName)
    | none => if name = helpName then .help helpHelpText else .usageError
  | _ => .usageError

/-- The request of a command and its words. -/
def commandRequest (componentsDir : Option String) (name : String) (words : List String) :
    Request :=
  if name = helpName then helpRequest words
  else
    match commandSpecs.find? fun c => c.name == name with
    | none => .usageError
    | some c =>
      match c.read words with
      | .error stop => stop.request (c.helpText programName)
      | .ok words =>
        match commandOf? c words with
        | some command => .invocation ⟨componentsDir, command⟩
        | none => .usageError

/-- Reads a command line. -/
def Request.read (words : List String) : Request :=
  match readWords programOptions [] true {} words with
  | .error stop => stop.request programHelpText
  | .ok front =>
    match front.arguments with
    | [name] => commandRequest (front.values.lookup "components-dir") name front.rest
    | _ => .usageError

end SlideDeck.CommandLine
