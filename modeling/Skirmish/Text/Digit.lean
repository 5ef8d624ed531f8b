import Skirmish.Text.Basic

/-!
# Digits in a base

Digits of bases up to sixteen: the ASCII digits, and the letters from `a` to `f` in either case for
the values from ten on.
-/

namespace Skirmish.Text

/-- The value of a digit in a base. -/
def digitIn? (base : Nat) (character : Char) : Option Nat :=
  let value :=
    if character.isDigit then some (character.toNat - '0'.toNat)
    else if 'a' ≤ character ∧ character ≤ 'f' then some (character.toNat - 'a'.toNat + 10)
    else if 'A' ≤ character ∧ character ≤ 'F' then some (character.toNat - 'A'.toNat + 10)
    else none
  value.filter (· < base)

example : digitIn? 16 'B' = some 11 ∧ digitIn? 10 'B' = none ∧ digitIn? 2 '2' = none := by decide

/-- The number that digits of a base stand for. -/
def numberIn? (base : Nat) (digits : Text) : Option Nat :=
  (digits.mapM (digitIn? base)).map (List.foldl (fun value digit => value * base + digit) 0)

end Skirmish.Text
