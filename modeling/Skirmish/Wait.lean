import Skirmish.Text.Decimal

/-!
# Waits

How long a roll may take. A wait is written in the largest of the units s, ms and µs that it fills
once, with as many decimals as it needs; no wait at all is written in ns.
-/

namespace Skirmish

/-- A span of time in microseconds. -/
structure Wait where
  micros : Nat
  deriving DecidableEq, Repr

namespace Wait

def ofMillis (millis : Nat) : Wait :=
  ⟨millis * 1000⟩

def millis (wait : Wait) : Nat :=
  wait.micros / 1000

/-- The first `places` decimals of a fraction of `10 ^ places` parts, without closing zeros. -/
def decimals (places parts : Nat) : Text :=
  let digits := Decimal.ofNat parts
  let padded := List.replicate (places - digits.length) '0' ++ digits
  (padded.reverse.dropWhile (· == '0')).reverse

/-- A number of units of `10 ^ places` parts each, followed by the unit's name. -/
def inUnits (places parts : Nat) (unitName : Text) : Text :=
  let fraction := decimals places (parts % Nat.pow 10 places)
  let point := if fraction.isEmpty then [] else '.' :: fraction
  Decimal.ofNat (parts / Nat.pow 10 places) ++ point ++ unitName

def write (wait : Wait) : Text :=
  if wait.micros = 0 then "0ns".toList
  else if wait.micros < 1000 then inUnits 0 wait.micros "µs".toList
  else if wait.micros < 1000000 then inUnits 3 wait.micros "ms".toList
  else inUnits 6 wait.micros ['s']

example : (Wait.mk 2500).write = "2.5ms".toList ∧ (Wait.mk 3).write = "3µs".toList ∧
    (Wait.mk 12000000).write = "12s".toList ∧ (Wait.mk 1050000).write = "1.05s".toList := by
  decide +kernel

end Wait

end Skirmish
