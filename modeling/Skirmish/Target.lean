import Skirmish.Term

/-!
# Targets

What a command may say about its target: the armor class to meet, with modifiers that count only
through their sum, the hit points it has, and lists of damage types.
-/

namespace Skirmish

/-- An armor class and the sum of its modifiers. -/
structure ArmorClass where
  base : Int
  modifier : Int
  deriving DecidableEq, Repr

namespace ArmorClass

def total (armorClass : ArmorClass) : Int :=
  armorClass.base + armorClass.modifier

/-- Adds signed numbers to a sum. Each number and each sum on the way has to keep to the limit. -/
def addModifiers : Int → List (Sign × Text) → Option Int
  | sum, [] => some sum
  | sum, (sign, body) :: signed => do
    let magnitude ← Decimal.readNat? body
    guard (magnitude ≤ maxFlat)
    let sum := sum + sign.apply magnitude
    guard (-maxFlat ≤ sum ∧ sum ≤ maxFlat)
    addModifiers sum signed

/-- The armor class that a text stands for: a number, then signed numbers. -/
def read? (text : Text) : Option ArmorClass := do
  let (digits, signed) := Sign.cut text
  let base ← Decimal.readNat? digits
  guard (base ≤ maxFlat)
  let modifier ← addModifiers 0 signed
  some ⟨base, modifier⟩

end ArmorClass

/-- Hit points before and after a command; they may fall below zero. -/
structure HitPoints where
  old : Int
  new : Int
  deriving DecidableEq, Repr

namespace HitPoints

def after (old damage : Int) : HitPoints :=
  ⟨old, Points.sub old damage⟩

def read? (text : Text) : Option Int := do
  let value ← Decimal.readNat? text
  guard (value ≤ maxFlat)
  some value

end HitPoints

/-- Whether a text is the name of a damage type: small letters, at least one. -/
def isTypeName (text : Text) : Bool :=
  !text.isEmpty && text.all Char.isLower

/-- The damage types that a text lists with `+` between them. -/
def readTypes? (text : Text) : Option (List Text) :=
  let types := text.splitOn '+'
  if types.all isTypeName then some types else none

end Skirmish
