import Skirmish.Text.Basic

/-!
# Roll modes

An attack is rolled with one d20, or with two of which the higher or the lower counts. A die that
shows twenty makes a critical: with advantage one such die is enough, with disadvantage both have
to show it.
-/

namespace Skirmish

/-- The face of a d20 that makes an attack critical. -/
def criticalFace : Int := 20

inductive RollMode where
  | normal
  | advantage
  | disadvantage
  deriving DecidableEq, Repr

namespace RollMode

def letter : RollMode → Char
  | normal => 'n'
  | advantage => 'a'
  | disadvantage => 'd'

/-- The mode that a letter of either case stands for. -/
def ofLetter? (character : Char) : Option RollMode :=
  match character.toLower with
  | 'n' => some normal
  | 'a' => some advantage
  | 'd' => some disadvantage
  | _ => none

def d20Count : RollMode → Nat
  | normal => 1
  | advantage | disadvantage => 2

/-- The d20 that counts; without any die it is 0. -/
def kept (mode : RollMode) (rolls : List Int) : Int :=
  match mode with
  | normal => rolls.head?.getD 0
  | advantage => rolls.max?.getD 0
  | disadvantage => rolls.min?.getD 0

def isCritical (mode : RollMode) (rolls : List Int) : Bool :=
  match mode with
  | normal => rolls.head? == some criticalFace
  | advantage => rolls.contains criticalFace
  | disadvantage => !rolls.isEmpty && rolls.all (· == criticalFace)

@[simp]
theorem ofLetter?_letter (mode : RollMode) : ofLetter? mode.letter = some mode := by
  cases mode <;> rfl

end RollMode

end Skirmish
