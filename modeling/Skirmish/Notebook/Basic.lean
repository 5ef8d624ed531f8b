import Skirmish.Notebook.Rows

/-!
# Notebooks

Where a session keeps its saved commands: a sorted notebook for the length of the session, or rows
that outlive it. Both are asked the same calls.
-/

namespace Skirmish

/-- Saved commands, in one of two layouts. -/
inductive Notebook where
  | sorted (notebook : SortedNotebook)
  | rows (notebook : RowNotebook)

/-- What can be asked of a notebook. -/
inductive NotebookCall where
  | save (name command : Text)
  | load (name : Text)
  | delete (name : Text)
  | list
  deriving DecidableEq

inductive NotebookAnswer where
  | saved
  | loaded (command : Option Text)
  | deleted (existed : Bool)
  | listed (entries : List SavedCommand)
  deriving DecidableEq

namespace Notebook

def save : Notebook → Text → Text → Notebook
  | sorted notebook, name, command => sorted (notebook.save name command)
  | rows notebook, name, command => rows (notebook.save name command)

def load? : Notebook → Text → Option Text
  | sorted notebook, name => notebook.load? name
  | rows notebook, name => notebook.load? name

def delete : Notebook → Text → Notebook
  | sorted notebook, name => sorted (notebook.delete name)
  | rows notebook, name => rows (notebook.delete name)

/-- Whether something goes when a name is removed. -/
def removes : Notebook → Text → Bool
  | sorted notebook, name => notebook.removes name
  | rows notebook, name => notebook.removes name

/-- The saved commands by ascending name. -/
def toList : Notebook → List SavedCommand
  | sorted notebook => notebook.toList
  | rows notebook => notebook.toList

def contains (notebook : Notebook) (name : Text) : Bool :=
  (notebook.load? name).isSome

def call (notebook : Notebook) : NotebookCall → NotebookAnswer × Notebook
  | .save name command => (.saved, notebook.save name command)
  | .load name => (.loaded (notebook.load? name), notebook)
  | .delete name => (.deleted (notebook.removes name), notebook.delete name)
  | .list => (.listed notebook.toList, notebook)

end Notebook

end Skirmish
