import SlideDeck.Build.Generate
import SlideDeck.CommandLine.Command
import SlideDeck.Configuration.EnvironmentFile
import SlideDeck.Files.Basic
import SlideDeck.Library.Core

/-! # Running commands

A command reads its files, does its work and reports one JSON value. What keeps it from
doing so is reported in the same way, with exit code 1; a payload that is not valid ends
with exit code 2, and so does a command line that cannot be read.
-/

namespace SlideDeck.CommandLine

open Json (Decoder)

/-- Why a command fails. -/
inductive CommandError
  | configuration (fault : ConfigurationError)
  | components (fault : FileFault)
  | file (path : String) (fault : FileFault)
  /-- A text is not JSON, or not of the form that is asked for. -/
  | json (subject : String)
  | unknownCategory (text : String)
  | catalogue (fault : CatalogueError)
  | capability (fault : CapabilityError)
  | assembly (fault : AssemblyError)
  | build (fault : BuildError)
deriving DecidableEq, Repr

/-- The message of an error. -/
def CommandError.message : CommandError → String
  | .configuration fault => fault.message
  | .components fault =>
    s!"Failed to load components: Failed to load components: {fault.message}"
  | .file path fault => s!"{path}: {fault.message}"
  | .json subject => s!"{subject}: not the JSON that is asked for"
  | .unknownCategory text => s!"Unknown category: {text}"
  | .catalogue fault => fault.message
  | .capability fault => fault.message
  | .assembly fault => fault.message
  | .build fault => fault.message

/-- What a command prints. -/
inductive Output
  | nothing
  | value (j : Json)
  | failure (e : CommandError)
  | text (shown : String)

/-- How a command ends. -/
structure Report where
  exitCode : UInt8
  output : Output

/-- The JSON form of a failure. -/
def CommandError.toJson (e : CommandError) : Json :=
  Json.ofMembers [("success", .bool false), ("error", .string e.message)]

/-- The text of an output. -/
def Output.render : Output → String
  | .nothing => ""
  | .value j => j.pretty ++ "\n"
  | .failure e => e.toJson.pretty ++ "\n"
  | .text shown => shown ++ "\n"

/-- A command that succeeds. -/
def Report.success (j : Json) : Report := ⟨0, .value j⟩

/-- A command that fails. -/
def Report.failed (e : CommandError) : Report := ⟨1, .failure e⟩

/-- The report of a result. -/
def Report.ofExcept : Except CommandError Json → Report
  | .ok j => .success j
  | .error e => .failed e

/-- A result with its error in the terms of a command. -/
def orFail {ε α : Type} (error : ε → CommandError) : Except ε α → Except CommandError α
  | .ok a => .ok a
  | .error e => .error (error e)

/-! ## Commands without files -/

/-- How a component is listed. -/
def listing (c : Component) : Json :=
  Json.ofMembers [
    ("id", .string c.id), ("name", .string c.name), ("category", .string c.category.name),
    ("version", .string c.version.text), ("tags", .ofStrings c.tags),
    ("origin", .string c.origin.name), ("popularity", .ofNat c.popularity),
    ("deprecated", .bool c.deprecated)]

/-- Lists the components of a category, or all. -/
def listComponents (k : Catalogue) (category : Option String) : Except CommandError Json :=
  match category with
  | none => .ok (.array ((k.list {}).map listing))
  | some text =>
    match Category.parse? text with
    | some c => .ok (.array ((k.list { category := some c }).map listing))
    | none => .error (.unknownCategory text)

/-- Validates a payload strictly. -/
def validatePayload (k : Catalogue) (component payload : String) : Report :=
  match Json.parse? payload with
  | none => .failed (.json "Invalid payload")
  | some payload =>
    match k.get component with
    | .error e => .failed (.catalogue e)
    | .ok c =>
      let report := c.dataSchema.validate .strict payload
      ⟨if report.valid then 0 else 2, .value report.toJson⟩

/-- Reseeds the core components. -/
def reseed (k : Catalogue) : Except CommandError Json := do
  let (report, _) ← orFail .catalogue (k.replaceCore Library.core)
  return Json.ofMembers [
    ("success", .bool true), ("removed", .ofNat report.removed),
    ("inserted", .ofNat report.inserted)]

/-- Reads generation parameters. -/
def readParams (text : Option String) : Except CommandError Parameters :=
  match text with
  | none => .ok {}
  | some text =>
    match (Json.Draft.parse? text).bind Parameters.decode with
    | some p => .ok p
    | none => .error (.json "Invalid params")

/-- Assembles the blueprint of a text by rules alone. -/
def assembleText (k : Catalogue) (text : String) (params : Option String) :
    Except CommandError Json := do
  let params ← readParams params
  let content ← orFail .capability (Outline.parse text)
  let components ← orFail .catalogue k.available
  let assembly ← orFail .assembly (assemble {} content components params none)
  return Json.ofMembers [
    ("content", content.toJson), ("strategy", .string assembly.strategy.name),
    ("warnings", .array (assembly.warnings.map AssemblyWarning.toJson)),
    ("blueprint", assembly.blueprint.toJson)]

/-! ## Commands with files -/

section

variable {m : Type → Type} [Monad m]

/-- Reads the text of a file. -/
def readFile (files : FileAccess m Pdf.File) (path : String) :
    m (Except CommandError String) := do
  return orFail (.file path) (← files.readText path)

/-- Reads a file that holds JSON of a form. -/
def readJson {α : Type} (files : FileAccess m Pdf.File) (decode : Decoder α) (path : String) :
    m (Except CommandError α) := do
  match ← readFile files path with
  | .error e => return .error e
  | .ok text =>
    match (Json.Draft.parse? text).bind decode with
    | some a => return .ok a
    | none => return .error (.json path)

/-- Reads the theme of a file; without a file it is the built-in one. -/
def readTheme (files : FileAccess m Pdf.File) (path : Option String) :
    m (Except CommandError Theme) :=
  match path with
  | none => return .ok Theme.standard
  | some path => readJson files Theme.decode path

/-- Assembles the blueprint of a file. -/
def assembleFile (files : FileAccess m Pdf.File) (k : Catalogue) (input : String)
    (params : Option String) : m Report := do
  match ← readFile files input with
  | .error e => return .failed e
  | .ok text => return .ofExcept (assembleText k text params)

/-- Composes the document of a blueprint and its file. -/
def renderBlueprint (settings : Configuration) (k : Catalogue) (b : Blueprint) (t : Theme) :
    Except CommandError (Document × Pdf.File) := do
  let document ← orFail (fun e => .build (.composition e))
    (b.compose k settings.limits t Document.defaultTitle)
  let file ← orFail (fun e => .build (.pdf e)) (Pdf.File.ofDocument .standard document)
  return (document, file)

/-- Renders the blueprint of a file. -/
def renderFile (files : FileAccess m Pdf.File) (settings : Configuration) (k : Catalogue)
    (blueprint out : String) (theme : Option String) : m Report := do
  match ← readJson files Blueprint.decode blueprint with
  | .error e => return .failed e
  | .ok b =>
    match ← readTheme files theme with
    | .error e => return .failed e
    | .ok t =>
      match renderBlueprint settings k b t with
      | .error e => return .failed e
      | .ok (document, file) =>
        match ← files.writeDeck out file with
        | .error fault => return .failed (.file out fault)
        | .ok () =>
          return .success <| Json.ofMembers [
            ("success", .bool true), ("path", .string out),
            ("pages", .ofNat document.pageCount),
            ("placeholders", .ofNat document.placeholderCount),
            ("manifestHash", .string document.manifestHash)]

/-- Puts a finished deck in a directory and gives its path. -/
def storeDeck (files : FileAccess m Pdf.File) (outDir requestId : String) (file : Pdf.File) :
    m (Except BuildError String) := do
  match ← files.storeArtifact outDir requestId Artifact.pdfType file with
  | .error e => return .error (.sink e)
  | .ok location => return .ok location

/-- What is reported of a deck. -/
def outcomeJson (o : BuildOutcome) : Json :=
  Json.ofMembers [
    ("success", .bool true), ("location", .string o.location),
    ("slideCount", .ofNat o.slideCount), ("strategy", .string o.strategy.name),
    ("warnings", .array (o.warnings.map AssemblyWarning.toJson)),
    ("manifestHash", .string o.document.manifestHash)]

/-- Generates the deck of a file. Of bad parameters and a bad theme, the parameters are
reported. -/
def generateFile (files : FileAccess m Pdf.File) (settings : Configuration) (k : Catalogue)
    (requestId input outDir : String) (params theme : Option String) : m Report := do
  match ← readFile files input with
  | .error e => return .failed e
  | .ok text =>
    let theme ← readTheme files theme
    match readParams params, theme with
    | .error e, _ => return .failed e
    | .ok _, .error e => return .failed e
    | .ok params, .ok theme =>
      let request : BuildRequest := ⟨requestId, text, params, theme⟩
      match finishDeck settings Capabilities.standard k request false with
      | .error e => return .failed (.build e)
      | .ok deck =>
        match ← storeDeck files outDir requestId deck.file with
        | .error e => return .failed (.build e)
        | .ok location => return .success (outcomeJson (deck.delivered location))

/-- Runs a command on a catalogue. -/
def Command.run (files : FileAccess m Pdf.File) (settings : Configuration) (k : Catalogue)
    (requestId : String) : Command → m Report
  | .components category => return .ofExcept (listComponents k category)
  | .validate component payload => return validatePayload k component payload
  | .assemble input params => assembleFile files k input params
  | .render blueprint out theme => renderFile files settings k blueprint out theme
  | .generate input outDir params theme =>
    generateFile files settings k requestId input outDir params theme
  | .seed => return .ofExcept (reseed k)

/-- The catalogue of the core components and those of a directory. -/
def openCatalogue (files : FileAccess m Pdf.File) (componentsDir : Option String) :
    m (Except CommandError Catalogue) := do
  match Catalogue.empty.replaceCore Library.core with
  | .error e => return .error (.catalogue e)
  | .ok (_, k) =>
    match componentsDir with
    | none => return .ok k
    | some path =>
      match ← files.readDirectory path with
      | .error fault => return .error (.components fault)
      | .ok directory => return .ok (k.load directory).2

/-- Runs an invocation in an environment. -/
def Invocation.run (files : FileAccess m Pdf.File) (lookup : EnvironmentFile.Lookup)
    (requestId : String) (i : Invocation) : m Report := do
  match Configuration.ofLookup lookup with
  | .error e => return .failed (.configuration e)
  | .ok settings =>
    match ← openCatalogue files i.componentsDir with
    | .error e => return .failed e
    | .ok k => i.command.run files settings k requestId

/-- The name of the environment file. -/
def environmentFileName : String := ".env"

/-- The variables of the environment and of its file, if there is one. There are none if
the file has a value that no variable can hold. -/
def loadEnvironment (files : FileAccess m Pdf.File) (lookup : EnvironmentFile.Lookup) :
    m (Option EnvironmentFile.Lookup) := do
  match ← files.readText environmentFileName with
  | .ok text => return EnvironmentFile.load? lookup text
  | .error _ => return some lookup

/-- The exit code of a run that stops at its environment file. -/
def abortCode : UInt8 := 101

/-- Runs a command line. The environment file comes first, and the id is for the deck
that may be generated. -/
def run (files : FileAccess m Pdf.File) (lookup : EnvironmentFile.Lookup)
    (requestId : String) (words : List String) : m Report := do
  match ← loadEnvironment files lookup with
  | none => return ⟨abortCode, .nothing⟩
  | some lookup =>
    match Request.read words with
    | .usageError => return ⟨2, .nothing⟩
    | .help text => return ⟨0, .text text⟩
    | .invocation i => i.run files lookup requestId

end

end SlideDeck.CommandLine
