import Skirmish.Settings.Environment
import Skirmish.Settings.File

/-!
# Arguments

The options of the command line. Each may be given once. A value follows its option as the next
argument or behind an equals sign, and the next argument is no value if it looks like an option
itself. Asking for help or for the version ends the reading at once.
-/

namespace Skirmish

structure Arguments where
  settingsPath : Option Text
  seed : Option UInt64
  notebookPath : Option Text
  player : Option Text
  hidden : Bool
  deriving DecidableEq, Repr

/-- What the command line asks for. -/
inductive Invocation where
  | run (arguments : Arguments)
  | help
  | version
  | invalid
  deriving DecidableEq, Repr

/-- The options that take a value. -/
inductive ValueOption where
  | settingsPath
  | seed
  | notebookPath
  | player
  deriving DecidableEq, Repr

namespace ValueOption

def ofLong? (name : Text) : Option ValueOption :=
  if name = "config".toList then some settingsPath
  else if name = "seed".toList then some seed
  else if name = "db".toList then some notebookPath
  else if name = "player".toList then some player
  else none

end ValueOption

namespace Arguments

def empty : Arguments :=
  ⟨none, none, none, none, false⟩

/-- The unsigned number of 64 bits that a text stands for. -/
def seed? (text : Text) : Option UInt64 :=
  ((Amount.readCount? text).filter (· < UInt64.size)).map UInt64.ofNat

/-- Gives an option its value, if it has none yet and the value fits. -/
def put? (arguments : Arguments) (option : ValueOption) (value : Text) : Option Arguments :=
  match option with
  | .settingsPath =>
    if arguments.settingsPath.isSome || value.isEmpty then none
    else some { arguments with settingsPath := some value }
  | .seed =>
    if arguments.seed.isSome then none
    else (seed? value).map fun seed => { arguments with seed := some seed }
  | .notebookPath =>
    if arguments.notebookPath.isSome then none
    else some { arguments with notebookPath := some value }
  | .player =>
    if arguments.player.isSome then none
    else some { arguments with player := some value }

/-- Whether an argument looks like an option. A single hyphen does not. -/
def looksLikeOption (argument : Text) : Bool :=
  match argument with
  | '-' :: _ :: _ => true
  | _ => false

/-- What one argument is: an option with the value attached to it or still to come, an option
without a value, or something that ends the reading. -/
inductive Word where
  | needsValue (option : ValueOption)
  | hasValue (option : ValueOption) (value : Text)
  | hide
  | endOfOptions
  | stop (invocation : Invocation)

def word (argument : Text) : Word :=
  match argument with
  | ['-', '-'] => .endOfOptions
  | '-' :: '-' :: body =>
    let name := body.takeWhile (· != '=')
    match ValueOption.ofLong? name, body.dropWhile (· != '=') with
    | some option, [] => .needsValue option
    | some option, _ :: value => .hasValue option value
    | none, [] =>
      if name = "hidden".toList then .hide
      else if name = "help".toList then .stop .help
      else if name = "version".toList then .stop .version
      else .stop .invalid
    | none, _ => .stop .invalid
  | ['-', 'c'] => .needsValue .settingsPath
  | '-' :: 'c' :: '=' :: value => .hasValue .settingsPath value
  | '-' :: 'c' :: value => .hasValue .settingsPath value
  | '-' :: 'h' :: _ => .stop .help
  | '-' :: 'V' :: _ => .stop .version
  | _ => .stop .invalid

/-- Reads the arguments that follow others. -/
def readAfter (arguments : Arguments) : List Text → Invocation
  | [] => .run arguments
  | argument :: rest =>
    match word argument with
    | .stop invocation => invocation
    | .endOfOptions => if rest.isEmpty then .run arguments else .invalid
    | .hide =>
      if arguments.hidden then .invalid else readAfter { arguments with hidden := true } rest
    | .hasValue option value =>
      match arguments.put? option value with
      | some arguments => readAfter arguments rest
      | none => .invalid
    | .needsValue option =>
      match rest with
      | [] => .invalid
      | value :: rest =>
        if looksLikeOption value then .invalid
        else
          match arguments.put? option value with
          | some arguments => readAfter arguments rest
          | none => .invalid

def read (arguments : List Text) : Invocation :=
  readAfter empty arguments

/-- The settings with those of the command line in their place. -/
def override (arguments : Arguments) (settings : Settings) : Settings where
  player := arguments.player.getD settings.player
  seed := arguments.seed <|> settings.seed
  waitMillis := settings.waitMillis
  historyLimit := settings.historyLimit
  notebookPath := arguments.notebookPath <|> settings.notebookPath
  hidden := settings.hidden || arguments.hidden

end Arguments

end Skirmish
