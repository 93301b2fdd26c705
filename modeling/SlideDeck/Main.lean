import SlideDeck.CommandLine.Run
import SlideDeck.Pdf.Bytes

/-! # The program

Fills in access to files with the file system, asks for the variables of the environment
and for a random id, runs the command line and prints its report.
-/

namespace SlideDeck

/-- Why an operation of the file system fails. -/
def faultOf : IO.Error → FileFault
  | .noFileOrDirectory .. => .notFound
  | .noSuchThing .. => .notFound
  | .alreadyExists .. => .alreadyExists
  | .inappropriateType _ code _ => if code = 20 then .notDirectory else .isDirectory
  | .permissionDenied .. => .denied
  | .invalidArgument _ code reason => if code = 36 then .nameTooLong else .other reason
  | e => .other (toString e)

/-- An operation with its failure as a value. -/
def attempt {α : Type} (operation : IO α) : IO (Except FileFault α) := do
  match ← operation.toBaseIO with
  | .ok a => return .ok a
  | .error e => return .error (faultOf e)

/-- The text of a file. -/
def readTextFile (path : String) : IO (Except FileFault String) := do
  match ← attempt (IO.FS.readBinFile path) with
  | .error fault => return .error fault
  | .ok bytes =>
    match String.fromUTF8? bytes with
    | some text => return .ok text
    | none => return .error .notText

/-- What a directory holds; nothing, where there is none. -/
def readFolder (path : String) : IO (Except FileFault Directory) := do
  let folder := (← IO.currentDir) / path
  if !(← folder.pathExists) then return .ok []
  if !(← folder.isDir) then return .error .notDirectory
  attempt do
    (← folder.readDir).toList.mapM fun entry => do
      match ← readTextFile entry.path.toString with
      | .ok text => return (entry.fileName, .file text)
      | .error _ => return (entry.fileName, .unreadable)

/-- Puts the bytes of a deck in a file. -/
def writeDeckFile (path : String) (deck : Pdf.File) : IO (Except FileFault Unit) :=
  attempt (IO.FS.writeBinFile path (ByteArray.mk deck.bytes.toArray))

/-- Makes a directory and those that it lies in, where they are missing. -/
def demandFolder (directory : String) : IO (Except FileFault Unit) :=
  if directory.isEmpty then return .ok () else attempt (IO.FS.createDirAll directory)

/-- Puts the bytes of a deck in a directory, by way of a temporary name. -/
def storeDeckFile (directory name partialName : String) (deck : Pdf.File) :
    IO (Except FileFault Unit) := do
  match ← demandFolder directory with
  | .error fault => return .error fault
  | .ok () =>
    match ← writeDeckFile (joinPath directory partialName) deck with
    | .error fault => return .error fault
    | .ok () =>
      attempt (IO.FS.rename (joinPath directory partialName) (joinPath directory name))

/-- Access to the file system. -/
def fileSystem : FileAccess IO Pdf.File where
  readText := readTextFile
  readDirectory := readFolder
  writeDeck := writeDeckFile
  storeDeck := storeDeckFile

/-- A random id: 32 hexadecimal digits in five groups, marked as random. -/
def randomId : IO String := do
  let digits ← (List.range 32).mapM fun place => do
    let value ← IO.rand 0 15
    return if place = 12 then 4 else if place = 16 then 8 + value % 4 else value
  let text := Nat.digitChar <$> digits
  let group (start size : Nat) : String := String.ofList ((text.drop start).take size)
  return "-".intercalate [group 0 8, group 8 4, group 12 4, group 16 4, group 20 12]

/-- The variables of the environment with the given names. -/
def environmentOf (names : List String) : IO EnvironmentFile.Lookup := do
  let values ← names.filterMapM fun name => do
    return (← IO.getEnv name).map fun value => (name, value)
  return fun name => values.lookup name

/-- The names of the variables that matter: those of the settings, and those that the
environment file refers to. -/
def environmentNames : IO (List String) := do
  let settings := Setting.all.map Setting.variableName
  match ← readTextFile CommandLine.environmentFileName with
  | .ok text => return settings ++ EnvironmentFile.references text.toList
  | .error _ => return settings

end SlideDeck

/-- Runs the command line. -/
def main (words : List String) : IO UInt32 := do
  let lookup ← SlideDeck.environmentOf (← SlideDeck.environmentNames)
  let id ← SlideDeck.randomId
  let report ← SlideDeck.CommandLine.run SlideDeck.fileSystem lookup id words
  IO.print report.output.render
  return report.exitCode.toUInt32
