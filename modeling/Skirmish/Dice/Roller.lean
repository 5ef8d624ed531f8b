import Skirmish.Dice.Group
import Skirmish.Wait

/-!
# Rollers

A roller is whatever answers requests for dice: a script, a generator, or people at a table. All
that a command can see of it is its response to each request, so a roller is a step function on a
state of its own.
-/

namespace Skirmish

/-- What is wrong with the results of a request. -/
inductive Malformation where
  | scriptExhausted
  | missing (id : GroupId)
  deriving DecidableEq, Repr

namespace Malformation

def message : Malformation → Text
  | scriptExhausted => "scripted dice exhausted".toList
  | missing id =>
    "no result for group ".toList ++ Decimal.ofNat id.attack ++ ':' :: Decimal.ofNat id.slot

end Malformation

/-- Why a request yields no totals. -/
inductive DiceError where
  | timeout (wait : Wait)
  | cancelled
  | disconnected
  | malformed (cause : Malformation)
  deriving DecidableEq, Repr

namespace DiceError

def message : DiceError → Text
  | timeout wait => "dice roll timed out after ".toList ++ wait.write
  | cancelled => "dice roll was cancelled".toList
  | disconnected => "dice roller is not available".toList
  | malformed cause => "malformed dice results: ".toList ++ cause.message

end DiceError

/-- What becomes of a request within the time it is given. The wait is over with an answer or with
the first cancel signal, whichever is earlier, so an answer comes without signals. A request that
stays unanswered comes with the number of those raised meanwhile. -/
inductive Response where
  | results (totals : List GroupTotal)
  | failed (cause : DiceError)
  | unanswered (signals : Nat)
  deriving DecidableEq, Repr

/-- A source of dice with states in `σ`. -/
structure Roller (σ : Type) where
  ask : σ → Request → Response × σ
  /-- Whether the dice are thrown outside of this program. -/
  physical : Bool

end Skirmish
