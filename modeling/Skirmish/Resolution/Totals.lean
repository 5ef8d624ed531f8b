import Skirmish.Dice.Roller

/-!
# Totals

The results of a request turn into the totals of its groups. Of several results for one group the
last counts, results for groups that were not asked for count for nothing, and a group whose number
is missing or impossible for its dice totals 0. Only a group without any result is an error.
-/

namespace Skirmish

/-- The totals of a phase; a group that was not asked for has the total 0. -/
abbrev Totals := GroupId → Int

namespace Totals

def zero : Totals :=
  fun _ => 0

/-- What was reported last for a group. -/
def reported? (id : GroupId) : List GroupTotal → Option (Option Int)
  | [] => none
  | result :: results =>
    match reported? id results with
    | some total => some total
    | none => if result.id = id then some result.total else none

/-- The total of a group as it counts: 0 unless a number was reported that its dice can show. -/
def usable (results : List GroupTotal) (group : DiceGroup) : Int :=
  match reported? group.id results with
  | some (some total) => if group.accepts total then total else 0
  | _ => 0

/-- The totals of the groups asked for. Every one of them has to be reported on. -/
def collect (groups : List DiceGroup) (results : List GroupTotal) : Except DiceError Totals :=
  match groups.find? fun group => (reported? group.id results).isNone with
  | some group => .error (.malformed (.missing group.id))
  | none =>
    .ok fun id =>
      match groups.find? fun group => group.id == id with
      | some group => usable results group
      | none => 0

end Totals

end Skirmish
