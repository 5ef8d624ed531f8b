import Skirmish.Command.Basic
import Skirmish.Resolution.Table

/-!
# Resolving plans

A plan is resolved in two phases. The attack phase rolls the dice of every attack in one request;
the damage phase knows all hits and criticals and rolls the damage dice of every hit in one request.
-/

namespace Skirmish

variable {σ : Type}

/-- What a resolved plan comes to: an outcome for each attack if there was an attack roll, a slot
for each attack if there was a damage phase, the damage in all and the hit points left. -/
structure Resolution where
  attacks : Option (List AttackOutcome)
  damage : Option (List DamageSlot)
  totalDamage : Int
  hitPoints : Option HitPoints
  deriving DecidableEq, Repr

namespace Resolution

def hits (resolution : Resolution) : Nat :=
  match resolution.attacks, resolution.damage with
  | some outcomes, _ => (outcomes.filter AttackOutcome.isHit).length
  | none, some slots => (slots.filter fun slot => !slot.isMiss).length
  | none, none => 0

end Resolution

/-- Why a command that was read is not carried out. -/
inductive ResolveError where
  | dice (cause : DiceError)
  | tooManyDice (count : Nat)
  deriving DecidableEq, Repr

def ResolveError.message : ResolveError → Text
  | dice cause => "dice error: ".toList ++ cause.message
  | tooManyDice count => tooManyDiceMessage count

namespace Plan

/-- The strikes of the attacks in order, none for an attack that missed. Without attack rolls there
is a single strike. -/
def strikes : Option (List AttackOutcome) → List (Option Strike)
  | none => [some ⟨0, false⟩]
  | some outcomes =>
    outcomes.zipIdx.map fun (outcome, attack) =>
      if outcome.isHit then some ⟨attack, outcome.isCritical⟩ else none

def damageGroups (components : List Component) (strikes : List (Option Strike)) :
    List DiceGroup :=
  (strikes.filterMap id).flatMap fun strike => strike.groups components

def damageSlot (components : List Component) (defenses : Defenses) (totals : Totals) :
    Option Strike → DamageSlot
  | some strike => .hit (strike.wounds components defenses totals)
  | none => .miss

def rollAttacks (plan : Plan) (roller : Roller σ) (control : Control) (table : Table σ) :
    Except DiceError (Option (List AttackOutcome)) × Table σ :=
  match plan.attack with
  | none => (.ok none, table)
  | some roll =>
    let (totals, table) := table.roll roller control.wait .attack control.seed roll.allGroups
    (totals.map fun totals => some (roll.outcomes plan.armorClass totals), table)

/-- Rolls the damage of the strikes. -/
def rollDamage (plan : Plan) (roller : Roller σ) (control : Control)
    (strikes : List (Option Strike)) (table : Table σ) :
    Except DiceError (Option (List DamageSlot)) × Table σ :=
  match plan.damage with
  | none => (.ok none, table)
  | some components =>
    let (totals, table) := table.roll roller control.wait .damage (control.seed + 1)
      (damageGroups components strikes)
    (totals.map fun totals => some (strikes.map (damageSlot components plan.defenses totals)),
      table)

/-- What the outcomes of both phases come to. -/
def summarize (plan : Plan) (attacks : Option (List AttackOutcome))
    (damage : Option (List DamageSlot)) : Resolution :=
  let totalDamage := Points.sum ((damage.getD []).map DamageSlot.total)
  ⟨attacks, damage, totalDamage, plan.hitPoints.map fun old => HitPoints.after old totalDamage⟩

/-- Resolves the plan, unless it could roll too many dice. Signals raised before are no concern of
this command. -/
def resolve (plan : Plan) (roller : Roller σ) (control : Control) (table : Table σ) :
    Except ResolveError Resolution × Table σ :=
  if maxDicePerCommand < plan.maxDice then (.error (.tooManyDice plan.maxDice), table)
  else
    match plan.rollAttacks roller control { table with line := table.line.acknowledge } with
    | (.error cause, table) => (.error (.dice cause), table)
    | (.ok attacks, table) =>
      match plan.rollDamage roller control (strikes attacks) table with
      | (.error cause, table) => (.error (.dice cause), table)
      | (.ok damage, table) => (.ok (plan.summarize attacks damage), table)

end Plan

end Skirmish
