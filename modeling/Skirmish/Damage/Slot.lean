import Skirmish.Damage.Component
import Skirmish.Damage.Defenses
import Skirmish.Dice.Group

/-!
# Damage done

Every attack has one slot in the result of the damage phase: a miss, or the wounds that its
components cause. A wound is never negative, since a component below zero counts as zero before the
defenses apply.
-/

namespace Skirmish

/-- The damage that one component does in one attack. -/
structure Wound where
  value : Int
  damageType : Text
  deriving DecidableEq, Repr

inductive DamageSlot where
  | miss
  | hit (wounds : List Wound)
  deriving DecidableEq, Repr

namespace DamageSlot

def isMiss : DamageSlot → Bool
  | miss => true
  | hit _ => false

def wounds : DamageSlot → List Wound
  | miss => []
  | hit wounds => wounds

def total (slot : DamageSlot) : Int :=
  Points.sum (slot.wounds.map Wound.value)

end DamageSlot

/-- An attack that does damage. -/
structure Strike where
  attack : Nat
  critical : Bool
  deriving DecidableEq, Repr

namespace Strike

/-- The number of dice that a strike rolls for a number of dice: twice as many for a critical. -/
def diceCount (strike : Strike) (count : Nat) : Nat :=
  if strike.critical then min (count * 2) largestCount else count

/-- The groups of a strike: one for each component with dice, in the slot of the component's
position. -/
def groups (strike : Strike) (components : List Component) : List DiceGroup :=
  components.zipIdx.filterMap fun (component, slot) =>
    match component.amount with
    | .dice count sides =>
      some ⟨⟨strike.attack, slot⟩, strike.diceCount count, sides, component.damageType⟩
    | .flat _ => none

/-- The wound that a component causes when its magnitude is given. -/
def wound (defenses : Defenses) (component : Component) (magnitude : Int) : Wound :=
  let base := max 0 (component.sign.apply magnitude)
  ⟨defenses.apply base component.damageType, component.damageType⟩

/-- The wounds of a strike, from the totals of its groups. -/
def wounds (strike : Strike) (components : List Component) (defenses : Defenses)
    (totals : GroupId → Int) : List Wound :=
  components.zipIdx.map fun (component, slot) =>
    match component.amount with
    | .dice _ _ => wound defenses component (totals ⟨strike.attack, slot⟩)
    | .flat value => wound defenses component value

end Strike

end Skirmish
