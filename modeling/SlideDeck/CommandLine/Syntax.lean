/-! # The syntax of command lines

A command takes options and positional arguments. An option has a long name and perhaps
a short one, and one value, which is the rest of its word or the next word. Behind `--`
all words are positional. What is asked for by `--help` is shown as soon as it is met.
-/

namespace SlideDeck.CommandLine

/-- What a value stands for. A path is never empty. -/
inductive ValueKind
  | text
  | path
deriving DecidableEq, Repr

/-- One option of a command. -/
structure OptionSpec where
  long : String
  short : Option Char := none
  valueName : String
  kind : ValueKind
  help : String
  required : Bool := false
  default : Option String := none

/-- One positional argument of a command. All of them are required. -/
structure ArgumentSpec where
  valueName : String
  kind : ValueKind
  help : String

/-- One command. -/
structure CommandSpec where
  name : String
  help : String
  options : List OptionSpec := []
  arguments : List ArgumentSpec := []

/-- Why the words of a command line are not taken as they are. -/
inductive Stop
  /-- They do not fit the syntax. -/
  | usage
  /-- They ask for help. -/
  | help
deriving DecidableEq, Repr

/-- The values of the options by their long names, and the positional arguments. -/
structure Words where
  values : List (String × String) := []
  arguments : List String := []
  /-- What follows the first positional argument, when it is not taken apart. -/
  rest : List String := []

/-- A word that names options: it starts with a dash and is more than one. -/
def isOptionWord (word : String) : Bool :=
  match word.toList with
  | '-' :: _ :: _ => true
  | _ => false

/-- The value of an option fits its kind. -/
def ValueKind.admits (kind : ValueKind) (value : String) : Bool :=
  match kind with
  | .text => true
  | .path => !value.isEmpty

/-- Gives an option its value. It takes one only, of its kind. -/
def OptionSpec.give (o : OptionSpec) (words : Words) (value : String) : Except Stop Words :=
  if (words.values.lookup o.long).isSome || !o.kind.admits value then .error .usage
  else .ok { words with values := words.values ++ [(o.long, value)] }

/-- The first part of a word up to an equals sign, and the part behind it. -/
def splitEquals : List Char → List Char × Option (List Char)
  | [] => ([], none)
  | c :: rest =>
    if c = '=' then ([], some rest)
    else
      let (name, value) := splitEquals rest
      (c :: name, value)

/-- What a word that names options asks for: the option, with the value that stands in
the same word. -/
def namedOption (options : List OptionSpec) (word : List Char) :
    Except Stop (OptionSpec × Option String) :=
  match word with
  | '-' :: '-' :: long =>
    let (name, value) := splitEquals long
    if name = "help".toList then .error (if value.isNone then .help else .usage)
    else
      match options.find? fun o => o.long.toList == name with
      | some o => .ok (o, value.map String.ofList)
      | none => .error .usage
  | '-' :: 'h' :: _ => .error .help
  | '-' :: short :: attached =>
    match options.find? fun o => o.short == some short with
    | some o =>
      .ok (o, match attached with
        | [] => none
        | '=' :: value => some (String.ofList value)
        | value => some (String.ofList value))
    | none => .error .usage
  | _ => .error .usage

/-- Adds a positional argument, of which there are at most as many as specified. -/
def addArgument (arguments : List ArgumentSpec) (words : Words) (word : String) :
    Except Stop Words :=
  match arguments[words.arguments.length]? with
  | some a =>
    if a.kind.admits word then .ok { words with arguments := words.arguments ++ [word] }
    else .error .usage
  | none => .error .usage

/-- Reads the words of a command. With `single`, the words behind the first positional
argument are left as they are. -/
def readWords (options : List OptionSpec) (arguments : List ArgumentSpec) (single : Bool)
    (words : Words) : List String → Except Stop Words
  | [] => .ok words
  | word :: rest =>
    if word = "--" then
      if single then .error .usage else rest.foldlM (addArgument arguments) words
    else if isOptionWord word then
      match namedOption options word.toList with
      | .error stop => .error stop
      | .ok (o, some value) =>
        match o.give words value with
        | .error stop => .error stop
        | .ok words => readWords options arguments single words rest
      | .ok (o, none) =>
        match rest with
        | [] => .error .usage
        | value :: rest =>
          if isOptionWord value then .error .usage
          else
            match o.give words value with
            | .error stop => .error stop
            | .ok words => readWords options arguments single words rest
    else if single then .ok { words with arguments := [word], rest := rest }
    else
      match addArgument arguments words word with
      | .error stop => .error stop
      | .ok words => readWords options arguments single words rest

/-- Everything that is required is there. -/
def CommandSpec.isComplete (c : CommandSpec) (words : Words) : Bool :=
  words.arguments.length == c.arguments.length &&
    c.options.all fun o => !o.required || (words.values.lookup o.long).isSome

/-- Reads the words behind the name of a command. -/
def CommandSpec.read (c : CommandSpec) (words : List String) : Except Stop Words := do
  let words ← readWords c.options c.arguments false {} words
  if c.isComplete words then return words else .error .usage

/-- The value of an option, or its default. -/
def CommandSpec.value? (c : CommandSpec) (words : Words) (long : String) : Option String :=
  (words.values.lookup long).or <|
    (c.options.find? fun o => o.long == long).bind OptionSpec.default

/-! ## Help -/

/-- A text filled up to a width. -/
def padRight (width : Nat) (text : String) : String :=
  text ++ String.ofList (List.replicate (width - text.length) ' ')

/-- Rows of two columns, indented and aligned. -/
def helpRows (rows : List (String × String)) : List String :=
  let width := rows.foldl (fun w row => max w row.1.length) 0
  rows.map fun row => "  " ++ padRight (width + 2) row.1 ++ row.2

/-- The value of an option or argument as it is shown. -/
def placeholder (valueName : String) : String := "<" ++ valueName ++ ">"

/-- The row of an option. -/
def OptionSpec.row (o : OptionSpec) : String × String :=
  let short :=
    match o.short with
    | some c => String.ofList ['-', c] ++ ", "
    | none => "    "
  let default :=
    match o.default with
    | some value => " [default: " ++ value ++ "]"
    | none => ""
  (short ++ "--" ++ o.long ++ " " ++ placeholder o.valueName, o.help ++ default)

/-- The row of the option that asks for help. -/
def helpRow : String × String := ("-h, --help", "Print help")

/-- The row of an argument. -/
def ArgumentSpec.row (a : ArgumentSpec) : String × String := (placeholder a.valueName, a.help)

/-- How a command is called. -/
def CommandSpec.usage (program : String) (c : CommandSpec) : String :=
  let optional := if c.options.any fun o => !o.required then ["[OPTIONS]"] else []
  let required := (c.options.filter OptionSpec.required).map fun o =>
    "--" ++ o.long ++ " " ++ placeholder o.valueName
  let arguments := c.arguments.map fun a => placeholder a.valueName
  " ".intercalate (["Usage:", program, c.name] ++ optional ++ required ++ arguments)

/-- What is shown of a command that asks for help. -/
def CommandSpec.helpText (program : String) (c : CommandSpec) : String :=
  let arguments :=
    if c.arguments.isEmpty then []
    else "Arguments:" :: helpRows (c.arguments.map ArgumentSpec.row) ++ [""]
  let options := "Options:" :: helpRows (c.options.map OptionSpec.row ++ [helpRow])
  "\n".intercalate ([c.help, "", c.usage program, ""] ++ arguments ++ options)

end SlideDeck.CommandLine
