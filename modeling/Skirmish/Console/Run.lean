import Skirmish.Console.Basic

/-!
# Runs of the console

A run begins with the command line. It ends at once, with the lines that it prints, when it is
asked for help, when its arguments or settings are wrong, or when its notebook has no place. Else a
console opens on a session with sampled dice.
-/

namespace Skirmish.Run

def helpLines : List Text :=
  ["Roll d20 attacks and typed damage from compact commands".toList,
    [],
    "Usage: quickdice [OPTIONS]".toList,
    [],
    "Options:".toList,
    "  -c, --config <CONFIG>  TOML configuration file".toList,
    "      --seed <SEED>      Seed for reproducible rolls".toList,
    "      --db <DB>          SQLite file for saved commands".toList,
    "      --player <PLAYER>  Player id shown on shared results".toList,
    "      --hidden           Do not broadcast results".toList,
    "  -h, --help             Print help".toList,
    "  -V, --version          Print version".toList]

def versionLine : Text :=
  "quickdice 0.1.0".toList

/-- The assignments of the file that the command line names, if it names one. A folder in its place
assigns nothing. -/
def fileAssignments (directory : Directory) (path : Option Text) :
    Except SettingsError Assignments :=
  match path with
  | none => .ok []
  | some path =>
    match directory.find path with
    | .nothing => .error .missingFile
    | .folder => .ok []
    | .entry (.document content) => SettingsFile.read content
    | .entry (.notebook _) => .error .unreadableFile

def loadSettings (directory : Directory) (environment : List (Text × Text))
    (path : Option Text) : Except SettingsError Settings := do
  let assignments ← fileAssignments directory path
  Settings.ofAssignments (SettingsEnvironment.read environment ++ assignments)

/-- How a run begins: it is ended at once, or a console is open for typed lines. -/
inductive Beginning where
  | ended (succeeded : Bool) (lines : List Text)
  | opened (settings : Settings) (console : Console)

/-- The notebook that settings open, unless it has no place. -/
def openNotebook? (directory : Directory) (settings : Settings) : Option Notebook :=
  match settings.notebookPath with
  | none => some (.sorted SortedNotebook.empty)
  | some path => (directory.notebook? (.ofSetting path)).map .rows

/-- What a run has by chance: the seed of its dice, and the seeds that its rolls draw. Neither
counts where the settings give a seed. -/
structure Entropy where
  dice : Nat
  draws : Nat → UInt64

/-- The console that settings open, if its notebook has a place and its history has room. -/
def openConsole (directory : Directory) (settings : Settings) (entropy : Entropy) : Beginning :=
  match openNotebook? directory settings with
  | some notebook =>
    if History.hasRoomFor settings.historyLimit then
      let dice := mkStdGen ((settings.seed.map UInt64.toNat).getD entropy.dice)
      .opened settings ⟨settings.openSession dice notebook entropy.draws, false⟩
    else .ended false []
  | none => .ended false []

def start (directory : Directory) (environment : List (Text × Text)) (entropy : Entropy)
    (arguments : List Text) : Beginning :=
  match Arguments.read arguments with
  | .invalid => .ended false []
  | .help => .ended true helpLines
  | .version => .ended true [versionLine]
  | .run arguments =>
    match loadSettings directory environment arguments.settingsPath with
    | .error _ => .ended false []
    | .ok settings => openConsole directory (arguments.override settings) entropy

/-- The location and the notebook that a session leaves behind, if it keeps one. -/
def keptNotebook? (settings : Settings) (session : Session StdGen) :
    Option (Location × RowNotebook) :=
  match settings.notebookPath, session.notebook with
  | some path, .rows notebook => some (.ofSetting path, notebook)
  | _, _ => none

/-- A finished run: whether it succeeded, the lines that it printed, and what it leaves behind. -/
structure Finished where
  succeeded : Bool
  lines : List Text
  directory : Directory

def onLines (directory : Directory) (environment : List (Text × Text)) (entropy : Entropy)
    (arguments : List Text) (typed : List Text) : Finished :=
  match start directory environment entropy arguments with
  | .ended succeeded lines => ⟨succeeded, lines, directory⟩
  | .opened settings console =>
    let (lines, last) := console.answerAll typed
    match keptNotebook? settings last.session with
    | some (location, notebook) => ⟨true, lines, directory.keep location notebook⟩
    | none => ⟨true, lines, directory⟩

end Skirmish.Run
