import Skirmish.Command.Keyword

/-!
# Names of saved commands

A command may name a saved command to load, to save and to delete. A name is made of small letters,
digits, underscores and hyphens.
-/

namespace Skirmish

/-- The names of saved commands that a command speaks of. -/
structure Names where
  save : Option Text
  load : Option Text
  delete : Option Text
  deriving DecidableEq, Repr

namespace Names

def empty : Names :=
  ⟨none, none, none⟩

def get? (names : Names) : NameUse → Option Text
  | .save => names.save
  | .load => names.load
  | .delete => names.delete

def put (names : Names) (use : NameUse) (name : Text) : Names :=
  match use with
  | .save => { names with save := some name }
  | .load => { names with load := some name }
  | .delete => { names with delete := some name }

def isNameCharacter (character : Char) : Bool :=
  character.isLower || character.isDigit || character == '_' || character == '-'

/-- Whether a saved command can have the name. -/
def isName (name : Text) : Bool :=
  !name.isEmpty && name.all isNameCharacter

end Names

end Skirmish
