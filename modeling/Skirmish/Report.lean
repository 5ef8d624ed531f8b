import Skirmish.Resolution.Basic

/-!
# Reports

The lines that tell a player what a command came to: the attacks with criticals in brackets, the
damage of each attack and the sums of each damage type, and the hit points. Sums are listed by
descending value and then by type.
-/

namespace Skirmish.Report

/-- Whether one sum is listed no later than another. -/
def listedBefore (left right : Text × Int) : Bool :=
  right.2 < left.2 || (left.2 == right.2 && !(right.1 < left.1))

/-- The types of the wounds, each once. -/
def typesOf (wounds : List Wound) : List Text :=
  (wounds.map Wound.damageType).eraseDups

def sumOf (wounds : List Wound) (damageType : Text) : Int :=
  Points.sum ((wounds.filter fun wound => wound.damageType == damageType).map Wound.value)

/-- The sums of the wounds by type, in the order of the report. -/
def sumsByType (wounds : List Wound) : List (Text × Int) :=
  ((typesOf wounds).map fun damageType => (damageType, sumOf wounds damageType)).mergeSort
    listedBefore

/-- The text of sums; no sums are nothing. -/
def sumsText (sums : List (Text × Int)) : Text :=
  if sums.isEmpty then ['0']
  else " + ".toList.intercalate (sums.map fun sum => Decimal.ofInt sum.2 ++ sum.1)

/-- The text of one attack's damage, in brackets when it is of several types. -/
def slotText : DamageSlot → Text
  | .miss => ['m']
  | .hit wounds =>
    let sums := sumsByType wounds
    if 1 < sums.length then '[' :: sumsText sums ++ [']'] else sumsText sums

def attackText (outcome : AttackOutcome) : Text :=
  if outcome.isCritical then '[' :: Decimal.ofInt outcome.total ++ [']']
  else Decimal.ofInt outcome.total

def attackLine (outcomes : List AttackOutcome) : Text :=
  "ATK ".toList ++ ", ".toList.intercalate (outcomes.map attackText)

/-- The line of the damage. The damage in all is named when it is of several types. -/
def damageLine (slots : List DamageSlot) (totalDamage : Int) : Text :=
  let sums := sumsByType (slots.flatMap DamageSlot.wounds)
  let inAll := if 1 < sums.length then " = ".toList ++ Decimal.ofInt totalDamage else []
  "DMG ".toList ++ " + ".toList.intercalate (slots.map slotText) ++ " = ".toList ++
    sumsText sums ++ inAll

def hitPointsLine (points : HitPoints) : Text :=
  "HP ".toList ++ Decimal.ofInt points.old ++ " -> ".toList ++ Decimal.ofInt points.new

def lines (resolution : Resolution) : List Text :=
  (resolution.attacks.map attackLine).toList ++
    (resolution.damage.map (damageLine · resolution.totalDamage)).toList ++
    (resolution.hitPoints.map hitPointsLine).toList

end Skirmish.Report
