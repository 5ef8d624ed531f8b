import Skirmish.Points
import Skirmish.Text.Basic

/-!
# Defenses

What a target does to damage by its type. Immunity wins outright; otherwise resistance halves the
value, rounding down, and vulnerability then doubles it. Types are compared without regard to the
case of ASCII letters.
-/

namespace Skirmish

/-- Whether two type names differ at most in the case of ASCII letters. -/
def sameType (left right : Text) : Bool :=
  left.map Char.toLower == right.map Char.toLower

structure Defenses where
  resisted : List Text
  vulnerable : List Text
  immune : List Text
  deriving DecidableEq, Repr

namespace Defenses

def names (types : List Text) (damageType : Text) : Bool :=
  types.any (sameType damageType)

/-- Whether damage of the type does nothing. -/
def isImmune (defenses : Defenses) (damageType : Text) : Bool :=
  names defenses.immune damageType

/-- Whether damage of the type is halved. -/
def isResistant (defenses : Defenses) (damageType : Text) : Bool :=
  names defenses.resisted damageType

/-- Whether damage of the type is doubled. -/
def isVulnerable (defenses : Defenses) (damageType : Text) : Bool :=
  names defenses.vulnerable damageType

/-- The damage that is left of a value of the type. -/
def apply (defenses : Defenses) (value : Int) (damageType : Text) : Int :=
  if defenses.isImmune damageType then 0
  else
    let halved := if defenses.isResistant damageType then value / 2 else value
    if defenses.isVulnerable damageType then Points.double halved else halved

end Defenses

end Skirmish
