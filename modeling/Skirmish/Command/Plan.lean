import Skirmish.Attack.Roll
import Skirmish.Command.Keyword
import Skirmish.Damage.Slot
import Skirmish.Target

/-!
# Plans

A plan is everything that a command asks to be rolled. Each role of the plan may be left open:
without attacks the command is a single automatic hit, without an armor class every attack hits,
and without damage there is no damage phase, which differs from damage of no terms.
-/

namespace Skirmish

def maxAttacks : Nat := 100

/-- The largest number of dice that is told apart from larger ones. -/
def largestDiceTotal : Nat := 18446744073709551615

/-- A text read as the value of one role. -/
inductive Reading where
  | attack (roll : AttackRoll)
  | target (armorClass : ArmorClass)
  | damage (components : List Component)
  | hitPoints (points : Int)
  | resisted (types : List Text)
  | vulnerable (types : List Text)
  | immune (types : List Text)
  deriving DecidableEq, Repr

namespace Reading

def role : Reading → Role
  | attack _ => .attack
  | target _ => .target
  | damage _ => .damage
  | hitPoints _ => .hitPoints
  | resisted _ => .resisted
  | vulnerable _ => .vulnerable
  | immune _ => .immune

/-- Whether the reading says something: damage of no terms does not. -/
def isSubstantial : Reading → Bool
  | damage components => !components.isEmpty
  | _ => true

end Reading

namespace Role

/-- The value that a text stands for in a role. Under its keyword, empty damage is damage of no
terms. -/
def read? (role : Role) (text : Text) : Option Reading :=
  match role with
  | attack => (AttackRoll.read? text).map .attack
  | target => (ArmorClass.read? text).map .target
  | damage => (DamageExpression.read text).toOption.map .damage
  | hitPoints => (HitPoints.read? text).map .hitPoints
  | resisted => (readTypes? text).map .resisted
  | vulnerable => (readTypes? text).map .vulnerable
  | immune => (readTypes? text).map .immune

/-- The readings of an unmarked text in the roles that are open, in the order of assignment. -/
def readings (isOpen : Role → Bool) (text : Text) : List Reading :=
  ((all.filter isOpen).filterMap (read? · text)).filter Reading.isSubstantial

end Role

/-- What a command asks to be rolled. -/
structure Plan where
  attack : Option AttackRoll
  target : Option ArmorClass
  damage : Option (List Component)
  hitPoints : Option Int
  defenses : Defenses
  deriving DecidableEq, Repr

namespace Plan

def empty : Plan :=
  ⟨none, none, none, none, ⟨[], [], []⟩⟩

def assign (plan : Plan) : Reading → Plan
  | .attack roll => { plan with attack := some roll }
  | .target armorClass => { plan with target := some armorClass }
  | .damage components => { plan with damage := some components }
  | .hitPoints points => { plan with hitPoints := some points }
  | .resisted types => { plan with defenses := { plan.defenses with resisted := types } }
  | .vulnerable types => { plan with defenses := { plan.defenses with vulnerable := types } }
  | .immune types => { plan with defenses := { plan.defenses with immune := types } }

/-- Whether a role has a value. A list of types that was read is never empty. -/
def has (plan : Plan) : Role → Bool
  | .attack => plan.attack.isSome
  | .target => plan.target.isSome
  | .damage => plan.damage.isSome
  | .hitPoints => plan.hitPoints.isSome
  | .resisted => !plan.defenses.resisted.isEmpty
  | .vulnerable => !plan.defenses.vulnerable.isEmpty
  | .immune => !plan.defenses.immune.isEmpty

/-- The dice of the damage terms, rolled once. -/
def damageDice (plan : Plan) : Nat :=
  diceIn ((plan.damage.getD []).map Component.amount)

/-- The dice that are rolled if every attack hits and every hit is critical. -/
def mostDice (plan : Plan) : Nat :=
  match plan.attack with
  | none => plan.damageDice
  | some roll => roll.count * (roll.dicePerAttack + plan.damageDice * 2)

/-- The same number of dice as far as numbers are told apart. -/
def maxDice (plan : Plan) : Nat :=
  min plan.mostDice largestDiceTotal

def armorClass (plan : Plan) : Option Int :=
  plan.target.map ArmorClass.total

end Plan

end Skirmish
