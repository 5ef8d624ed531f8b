import Skirmish.Text.Basic

/-!
# Dice groups

Dice are rolled in groups of equal dice and only the total of a group is reported. A command rolls
in at most two phases, and each phase is one request that lists all of its groups.
-/

namespace Skirmish

/-- The largest count of dice or sides that a group can state. -/
def largestCount : Nat := 4294967295

/-- The most dice that one command may roll over both phases, criticals included. -/
def maxDicePerCommand : Nat := 100000

/-- The place of a group: which attack it belongs to and its position among that attack's dice. -/
structure GroupId where
  attack : Nat
  slot : Nat
  deriving DecidableEq, Repr

/-- A number of equal dice; the tag is a hint for rollers that draw their dice. -/
structure DiceGroup where
  id : GroupId
  count : Nat
  sides : Nat
  tag : Text
  deriving DecidableEq, Repr

namespace DiceGroup

def d20 (id : GroupId) (tag : Text) : DiceGroup :=
  ⟨id, 1, 20, tag⟩

/-- Whether the dice of the group can show the total. -/
def accepts (group : DiceGroup) (total : Int) : Bool :=
  group.count ≤ total && total ≤ group.count * group.sides

end DiceGroup

/-- The two phases of a command's rolling. -/
inductive Phase where
  | attack
  | damage
  deriving DecidableEq, Repr

/-- The groups of one phase, rolled together; the seed is a hint for rollers that simulate dice. -/
structure Request where
  phase : Phase
  seed : UInt64
  groups : List DiceGroup
  deriving DecidableEq, Repr

/-- The total reported for a group; none means that the roller got no usable number. -/
structure GroupTotal where
  id : GroupId
  total : Option Int
  deriving DecidableEq, Repr

def diceRequested : List DiceGroup → Nat
  | [] => 0
  | group :: groups => group.count + diceRequested groups

theorem diceRequested_append (left right : List DiceGroup) :
    diceRequested (left ++ right) = diceRequested left + diceRequested right := by
  induction left with
  | nil => simp [diceRequested]
  | cons group left ih => simp [diceRequested, ih, Nat.add_assoc]

end Skirmish
