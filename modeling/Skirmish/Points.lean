/-!
# Points

Rolled totals, damage and hit points are whole numbers between `lowest` and `highest`, the range of
a signed 64-bit word. A sum that would leave the range stays at the end it reached.
-/

namespace Skirmish.Points

def lowest : Int := -9223372036854775808

def highest : Int := 9223372036854775807

def inRange (value : Int) : Bool :=
  lowest ≤ value && value ≤ highest

/-- The nearest number of points. -/
def clamp (value : Int) : Int :=
  max lowest (min highest value)

/-- Addition that stays in range. -/
def add (left right : Int) : Int :=
  clamp (left + right)

def sub (left right : Int) : Int :=
  clamp (left - right)

/-- Negation that stays in range; only the lowest number has no opposite. -/
def neg (value : Int) : Int :=
  clamp (-value)

def double (value : Int) : Int :=
  clamp (value * 2)

/-- The sum from left to right, kept in range at each step. -/
def sum (values : List Int) : Int :=
  values.foldl add 0

theorem clamp_mono {left right : Int} (hle : left ≤ right) : clamp left ≤ clamp right := by
  simp only [clamp]; omega

theorem sum_append_singleton (values : List Int) (last : Int) :
    sum (values ++ [last]) = add (sum values) last := by
  simp [sum]

end Skirmish.Points
