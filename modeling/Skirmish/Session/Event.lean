import Skirmish.Resolution.Basic

/-!
# Roll events

What other participants see of a resolved command. Events are told apart by their identity: a
session numbers its own, and an event that comes from elsewhere brings the identity it has there.
-/

namespace Skirmish

/-- The identity of an event. -/
inductive EventId where
  | own (serial : Nat)
  | foreign (key : Nat)
  deriving DecidableEq, Repr

/-- A resolved command as it is shared. -/
structure Event where
  id : EventId
  player : Text
  command : Text
  attacks : Option (List AttackOutcome)
  damage : Option (List DamageSlot)
  hitPoints : Option HitPoints
  physical : Bool
  deriving DecidableEq, Repr

namespace Event

def ofResolution (id : EventId) (player command : Text) (resolution : Resolution)
    (physical : Bool) : Event :=
  ⟨id, player, command, resolution.attacks, resolution.damage, resolution.hitPoints, physical⟩

/-- The damage of all slots. -/
def totalDamage (event : Event) : Int :=
  (event.damage.getD []).foldl (fun sum slot => sum + slot.total) 0

end Event

end Skirmish
