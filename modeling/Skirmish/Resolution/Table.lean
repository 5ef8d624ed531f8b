import Skirmish.Resolution.Signal
import Skirmish.Resolution.Totals

/-!
# Rolling a phase

The groups of a phase are one request. Groups without dice are never asked for, and a phase without
groups makes no request. A request that stays unanswered ends when its time is over, or earlier when
it is cancelled.
-/

namespace Skirmish

/-- The terms on which dice are rolled: how long to wait, and the seed of the first phase, which is
drawn for the command if none is given. -/
structure Control where
  wait : Wait
  seed : UInt64
  deriving DecidableEq, Repr

/-- The state of a command while it rolls: the roller's own state, the cancel line, and the
requests made so far, oldest first. -/
structure Table (σ : Type) where
  dice : σ
  line : CancelLine
  requests : List Request

variable {σ : Type}

def Table.roll (table : Table σ) (roller : Roller σ) (wait : Wait) (phase : Phase)
    (seed : UInt64) (groups : List DiceGroup) : Except DiceError Totals × Table σ :=
  let groups := groups.filter fun group => 0 < group.count
  if groups.isEmpty then (.ok Totals.zero, table)
  else
    let request : Request := ⟨phase, seed, groups⟩
    let (response, dice) := roller.ask table.dice request
    let table := { table with dice, requests := table.requests ++ [request] }
    match response with
    | .results results => (Totals.collect groups results, table)
    | .failed cause => (.error cause, table)
    | .unanswered signals =>
      let table := { table with line := table.line.raise signals }
      (.error (if table.line.isPending then .cancelled else .timeout wait), table)

end Skirmish
