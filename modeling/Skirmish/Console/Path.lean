import Skirmish.Text.Basic

/-!
# Paths

A path is a text of steps with slashes between them. An empty step and a single dot stay where they
are, and two dots go up. A path is `followed` when each of its steps has to exist, and `collapsed`
when a step down and the step up after it cancel out unseen.
-/

namespace Skirmish.Path

def up : Text := ['.', '.']

/-- Whether a step stays where it is. -/
def stays (step : Text) : Bool :=
  step.isEmpty || step == ['.']

/-- Whether a path begins at the root instead of in a directory. -/
def isAbsolute (path : Text) : Bool :=
  path.head? == some '/'

def steps (path : Text) : List Text :=
  path.splitOn '/'

/-- The path of given steps, from the root if it is to be absolute. -/
def ofSteps (absolute : Bool) (steps : List Text) : Text :=
  (if absolute then ['/'] else []) ++ List.intercalate ['/'] steps

/-- The path without the steps at its beginning that stay. -/
def followed (path : Text) : Text :=
  let start := (steps path).takeWhile fun step => stays step || step == up
  let rest := (steps path).drop start.length
  ofSteps (isAbsolute path) (start.filter (!stays ·) ++ rest)

/-- Takes a step after others, given last step first. -/
def advance (taken : List Text) (step : Text) : List Text :=
  if stays step then taken
  else if step = up then
    match taken with
    | last :: earlier => if last = up then up :: taken else earlier
    | [] => [up]
  else step :: taken

/-- The path without steps that stay or that a step up takes back. -/
def collapsed (path : Text) : Text :=
  ofSteps (isAbsolute path) ((steps path).foldl advance []).reverse

/-- Whether a path only stays and goes up, and so leads to a folder. -/
def onlyClimbs (path : Text) : Bool :=
  (steps path).all fun step => stays step || step == up

/-- The folder that a path leads into; none for the directory itself. -/
def folder? (path : Text) : Option Text :=
  match path.reverse.dropWhile (· != '/') with
  | [] => none
  | _ :: folder => some folder.reverse

def lastStep (path : Text) : Text :=
  (path.reverse.takeWhile (· != '/')).reverse

example : collapsed "./a//../b".toList = "b".toList ∧
    followed "./a/../b".toList = "a/../b".toList := by
  decide

end Skirmish.Path
