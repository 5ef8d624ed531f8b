import Skirmish.Console.Run
import Skirmish.Notebook.Written

/-!
# The program

Connects the console to the standard streams, the environment and the file system. Notebooks are
read when the console opens and written after each line that is answered.
-/

namespace Skirmish.Program

def readEnvironment : IO (List (Text × Text)) := do
  let settings := ["PLAYER_ID", "SEED", "ROLL_TIMEOUT_MS", "HISTORY_LIMIT", "DB_PATH", "HIDDEN"]
  let values ← settings.mapM fun setting => do
    let name := "QUICKDICE_" ++ setting
    return (← IO.getEnv name).map fun value => (name.toList, value.toList)
  return values.filterMap id

def readBytes? (path : Text) : IO (Option ByteArray) := do
  try
    return some (← IO.FS.readBinFile (String.ofList path))
  catch _ =>
    return none

/-- The content of a file, if it can be read and is a text. -/
def readFile? (path : Text) : IO (Option Text) :=
  return (← readBytes? path).bind fun bytes => (String.fromUTF8? bytes).map String.toList

/-- Whether something can be opened at a path; that may be a folder. -/
def canOpen (path : Text) : IO Bool := do
  try
    let _ ← IO.FS.Handle.mk (String.ofList path) .read
    return true
  catch _ =>
    return false

/-- Writes a file; the result says whether that was possible. -/
def writeFile (path content : Text) : IO Bool := do
  try
    IO.FS.writeFile (String.ofList path) (String.ofList content)
    return true
  catch _ =>
    return false

/-- The directory with the settings file that the command line names. A file that is no text counts
as a notebook, and what can be opened but not read is a folder. -/
def readSettingsFile (arguments : List Text) : IO Directory := do
  match Arguments.read arguments with
  | .run { settingsPath := some path, .. } =>
    let followed := Path.followed path
    if (← readBytes? path).isSome then
      match ← readFile? path with
      | some content => return .ofDocuments [(followed, content)]
      | none => return ⟨[(followed, .notebook RowNotebook.empty)], []⟩
    else return ⟨[], if ← canOpen path then [followed] else []⟩
  | _ => return .ofDocuments []

/-- The directory with the notebook at a path, and its folder if the notebook can be written. -/
def readNotebook (directory : Directory) (path : Text) : IO Directory := do
  let notebook := RowNotebook.read ((← readFile? path).getD [])
  if ← writeFile path notebook.write then
    let folders := (Path.folder? path).toList ++ directory.folders
    return { directory with folders }.keep (.kept path) notebook
  else return directory

/-- The path of the notebook that the command line and the settings name. -/
def notebookPath? (directory : Directory) (environment : List (Text × Text))
    (arguments : List Text) : Option Text := do
  match Arguments.read arguments with
  | .run given =>
    let settings ← (Run.loadSettings directory environment given.settingsPath).toOption
    match Location.ofSetting (← (given.override settings).notebookPath) with
    | .kept path => some path
    | _ => none
  | _ => none

/-- Answers lines from the standard input until it ends or the console does. -/
partial def answerInput (settings : Settings) (console : Console) : IO Unit := do
  let line ← (← IO.getStdin).getLine
  if line.isEmpty then return
  let (answers, next) := console.answer line.toList
  for answer in answers do
    IO.println (String.ofList answer)
  match next with
  | none => return
  | some next =>
    if let some (.kept path, notebook) := Run.keptNotebook? settings next.session then
      let _ ← writeFile path notebook.write
    answerInput settings next

end Skirmish.Program

open Skirmish in
/-- Runs the console; the result is the exit status. -/
def main (arguments : List String) : IO UInt32 := do
  let arguments := arguments.map String.toList
  let environment ← Program.readEnvironment
  let settingsOnly ← Program.readSettingsFile arguments
  let directory ←
    match Program.notebookPath? settingsOnly environment arguments with
    | some path => Program.readNotebook settingsOnly path
    | none => pure settingsOnly
  let chance ← IO.rand 0 4294967295
  let entropy := ⟨chance, fun roll => mixHash (hash chance) (hash roll)⟩
  match Run.start directory environment entropy arguments with
  | .ended succeeded lines =>
    for line in lines do
      IO.println (String.ofList line)
    return if succeeded then 0 else 2
  | .opened settings console =>
    Program.answerInput settings console
    return 0
