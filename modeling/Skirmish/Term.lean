import Skirmish.Points
import Skirmish.Text.Decimal

/-!
# Signed terms

A term is dice to roll or a flat number, added or subtracted. The limits on its figures are the
limits that a player may type; a term built otherwise may hold any figure.
-/

namespace Skirmish

/-- The most dice that one typed term may hold. -/
def maxDicePerTerm : Nat := 1000

def maxSides : Nat := 1000

def maxFlat : Int := 1000000

/-- Whether a term is added or subtracted. -/
inductive Sign where
  | plus
  | minus
  deriving DecidableEq, Repr

namespace Sign

def apply : Sign → Int → Int
  | plus, value => value
  | minus, value => Points.neg value

def mark : Sign → Char
  | plus => '+'
  | minus => '-'

def ofMark? : Char → Option Sign
  | '+' => some plus
  | '-' => some minus
  | _ => none

/-- Cuts a text before each of its signs: the text before the first sign, and for each sign the
text up to the next one. -/
def cut : Text → Text × List (Sign × Text)
  | [] => ([], [])
  | character :: rest =>
    let (body, signed) := cut rest
    match ofMark? character with
    | some sign => ([], (sign, body) :: signed)
    | none => (character :: body, signed)

end Sign

/-- The magnitude of a term: dice to roll or a flat number. -/
inductive Amount where
  | dice (count sides : Nat)
  | flat (value : Int)
  deriving DecidableEq, Repr

namespace Amount

/-- A count of dice or sides: digits that may follow a plus sign. -/
def readCount? : Text → Option Nat
  | '+' :: digits => Decimal.readNat? digits
  | digits => Decimal.readNat? digits

/-- Dice with the written count and sides, if both keep to the limits. -/
def dice? (count sides : Text) : Option Amount := do
  let count ← readCount? count
  let sides ← readCount? sides
  if count ≤ maxDicePerTerm ∧ sides ≤ maxSides then some (dice count sides) else none

/-- The written flat number, if it is a number of points and at most `maxFlat`. -/
def flat? (value : Text) : Option Amount := do
  let value ← Decimal.readInt? value
  if Points.lowest ≤ value ∧ value ≤ maxFlat then some (flat value) else none

/-- The amount that a text starts with, and the text after it. Digits are a flat number unless a
`d` follows them; then they are a count of dice, and digits for the sides have to follow. -/
def scan? (text : Text) : Option (Amount × Text) :=
  let digits := text.takeWhile Char.isDigit
  match text.dropWhile Char.isDigit with
  | 'd' :: more =>
    let sides := more.takeWhile Char.isDigit
    (dice? digits sides).map fun amount => (amount, more.dropWhile Char.isDigit)
  | rest => (flat? digits).map fun amount => (amount, rest)

/-- The amount that a whole text stands for. -/
def read? (text : Text) : Option Amount :=
  match scan? text with
  | some (amount, []) => some amount
  | _ => none

def isDice : Amount → Bool
  | dice _ _ => true
  | flat _ => false

def diceCount : Amount → Nat
  | dice count _ => count
  | flat _ => 0

/-- The written form: `3d8`, or the flat number. -/
def write : Amount → Text
  | dice count sides => Decimal.ofNat count ++ 'd' :: Decimal.ofNat sides
  | flat value => Decimal.ofInt value

end Amount

/-- A term without a damage type, as in the bonus of an attack. -/
structure Term where
  sign : Sign
  amount : Amount
  deriving DecidableEq, Repr

namespace Term

/-- The term that a sign and the text after it stand for. -/
def read? (sign : Sign) (body : Text) : Option Term :=
  (Amount.read? body).map fun amount => ⟨sign, amount⟩

/-- The written form, sign first. -/
def write (term : Term) : Text :=
  term.sign.mark :: term.amount.write

end Term

def diceIn : List Amount → Nat
  | [] => 0
  | amount :: amounts => amount.diceCount + diceIn amounts

end Skirmish
