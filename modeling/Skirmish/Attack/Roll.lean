import Skirmish.Attack.Mode
import Skirmish.Dice.Group
import Skirmish.Term

/-!
# Attack rolls

A command may roll several attacks of one kind. The dice of an attack are its d20s, in the first
slots, and then the dice terms of its bonus, one slot each in the order of the terms. Flat terms
take no slot.
-/

namespace Skirmish

/-- A number of equal attacks. The color is a hint for rollers and decides nothing. -/
structure AttackRoll where
  count : Nat
  mode : RollMode
  color : Text
  bonus : List Term
  deriving DecidableEq, Repr

/-- The result of one attack. The total is the d20 that counts with all bonuses; the d20s are in
roll order. -/
structure AttackOutcome where
  isHit : Bool
  isCritical : Bool
  total : Int
  d20s : List Int
  deriving DecidableEq, Repr

/-- The result of an attack from its dice and the sum of its bonus. A critical always hits, and
without an armor class to meet everything does. -/
def AttackOutcome.evaluate (mode : RollMode) (d20s : List Int) (bonus : Int)
    (armorClass : Option Int) : AttackOutcome :=
  let isCritical := mode.isCritical d20s
  let total := Points.add (mode.kept d20s) bonus
  let isHit :=
    match armorClass with
    | none => true
    | some armorClass => isCritical || armorClass ≤ total
  ⟨isHit, isCritical, total, d20s⟩

namespace AttackRoll

/-- The groups for the dice terms of a bonus, from a slot on. -/
def bonusGroups (attack : Nat) (color : Text) : Nat → List Term → List DiceGroup
  | _, [] => []
  | slot, ⟨_, .dice count sides⟩ :: terms =>
    ⟨⟨attack, slot⟩, count, sides, color⟩ :: bonusGroups attack color (slot + 1) terms
  | slot, ⟨_, .flat _⟩ :: terms => bonusGroups attack color slot terms

/-- The groups of one attack: its d20s, then the dice of its bonus. -/
def groups (roll : AttackRoll) (attack : Nat) : List DiceGroup :=
  (List.range roll.mode.d20Count).map (fun slot => DiceGroup.d20 ⟨attack, slot⟩ roll.color) ++
    bonusGroups attack roll.color roll.mode.d20Count roll.bonus

def allGroups (roll : AttackRoll) : List DiceGroup :=
  (List.range roll.count).flatMap roll.groups

/-- The signed values of the terms of a bonus, reading dice terms from a slot on. -/
def bonusValues (totals : GroupId → Int) (attack : Nat) : Nat → List Term → List Int
  | _, [] => []
  | slot, ⟨sign, .dice _ _⟩ :: terms =>
    sign.apply (totals ⟨attack, slot⟩) :: bonusValues totals attack (slot + 1) terms
  | slot, ⟨sign, .flat value⟩ :: terms =>
    sign.apply value :: bonusValues totals attack slot terms

def outcome (roll : AttackRoll) (armorClass : Option Int) (totals : GroupId → Int)
    (attack : Nat) : AttackOutcome :=
  AttackOutcome.evaluate roll.mode
    ((List.range roll.mode.d20Count).map fun slot => totals ⟨attack, slot⟩)
    (Points.sum (bonusValues totals attack roll.mode.d20Count roll.bonus)) armorClass

def outcomes (roll : AttackRoll) (armorClass : Option Int) (totals : GroupId → Int) :
    List AttackOutcome :=
  (List.range roll.count).map (roll.outcome armorClass totals)

/-- How many dice one attack rolls before any damage. -/
def dicePerAttack (roll : AttackRoll) : Nat :=
  roll.mode.d20Count + diceIn (roll.bonus.map Term.amount)

/-- The attacks that a text stands for: a count, the letter of a mode, color letters, and signed
terms without anything between them. -/
def read? (text : Text) : Option AttackRoll := do
  let count ← Decimal.readNat? (text.takeWhile Char.isDigit)
  guard (count ≤ largestCount)
  match text.dropWhile Char.isDigit with
  | [] => none
  | letter :: rest =>
    guard letter.isLower
    let mode ← RollMode.ofLetter? letter
    let (gap, signed) := Sign.cut (rest.dropWhile Char.isLower)
    guard gap.isEmpty
    let bonus ← signed.mapM fun (sign, body) => Term.read? sign body
    some ⟨count, mode, rest.takeWhile Char.isLower, bonus⟩

def write (roll : AttackRoll) : Text :=
  Decimal.ofNat roll.count ++ roll.mode.letter :: roll.color ++ roll.bonus.flatMap Term.write

end AttackRoll

end Skirmish
