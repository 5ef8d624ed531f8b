import Skirmish.Console.Arguments
import Skirmish.Console.Directory
import Skirmish.Dice.Sampled
import Skirmish.Report
import Skirmish.Wire.Command

/-!
# The console

Commands are typed line by line and answered with lines. Four words are for the console itself:
`exit` ends it, `list` shows the saved commands, and `debug` turns on and off that what was read of
a command is shown before it runs.
-/

namespace Skirmish

/-- A console between two lines. -/
structure Console where
  session : Session StdGen
  debug : Bool

namespace Console

def outcomeLines (outcome : Outcome) : List Text :=
  (outcome.loaded.map fun name =>
      "loaded ".toList ++ name ++ ": ".toList ++ outcome.command.label).toList ++
    (outcome.resolution.map Report.lines).getD [] ++
    (outcome.deleted.map fun name => "deleted ".toList ++ name).toList ++
    (outcome.saved.map fun name => "saved ".toList ++ name).toList

def resultLines : Except SessionError Outcome → List Text
  | .ok outcome => outcomeLines outcome
  | .error cause => ["error: ".toList ++ cause.message]

def savedLine (saved : SavedCommand) : Text :=
  saved.name ++ ": ".toList ++ saved.command

/-- What is shown of a command before it runs. -/
def debugLines (console : Console) (input : Text) : List Text :=
  if console.debug then
    match Command.parse input with
    | .ok command => [command.toJson.write]
    | .error _ => []
  else []

/-- The lines that answer a typed line, and the console after it, unless it ends. -/
def answer (console : Console) (line : Text) : List Text × Option Console :=
  let input := Text.trim line
  if input.isEmpty then ([], some console)
  else if input = "exit".toList then ([], none)
  else if input = "debug".toList then
    let debug := !console.debug
    (["debug ".toList ++ if debug then "on".toList else "off".toList],
      some { console with debug })
  else if input = "list".toList then
    (console.session.notebook.toList.map savedLine, some console)
  else
    let step := console.session.execute SampledDice.standard input
    (console.debugLines input ++ resultLines step.result,
      some { console with session := step.session })

/-- The lines that answer typed lines, and the console after the last of them that was read. -/
def answerAll (console : Console) : List Text → List Text × Console
  | [] => ([], console)
  | line :: lines =>
    match console.answer line with
    | (answers, none) => (answers, console)
    | (answers, some next) =>
      let (further, last) := next.answerAll lines
      (answers ++ further, last)

end Console

end Skirmish
