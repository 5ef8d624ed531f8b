import Skirmish.Dice.Roller

/-!
# Remote dice

Dice thrown by someone at the other end of a line. The far end is described by what it does with
each request in turn; its last deed is repeated for every later request. When nobody listens, a
request cannot even be delivered.
-/

namespace Skirmish

/-- What the far end does with one request. -/
inductive RemoteDeed where
  | highest
  | lowest
  | results (totals : List GroupTotal)
  | discard
  | ignore
  | raiseCancel
  deriving DecidableEq, Repr

namespace RemoteDeed

/-- The response that the asking side sees. -/
def response (groups : List DiceGroup) : RemoteDeed → Response
  | highest =>
    .results (groups.map fun group => ⟨group.id, some (group.count * group.sides)⟩)
  | lowest => .results (groups.map fun group => ⟨group.id, some group.count⟩)
  | results totals => .results totals
  | discard => .failed .disconnected
  | ignore => .unanswered 0
  | raiseCancel => .unanswered 1

end RemoteDeed

/-- The far end of a line to a roller. -/
inductive RemoteDice where
  | absent
  | listening (deeds : List RemoteDeed)
  deriving DecidableEq, Repr

namespace RemoteDice

def ask : RemoteDice → Request → Response × RemoteDice
  | absent, _ => (.failed .disconnected, absent)
  | listening [], _ => (.unanswered 0, listening [])
  | listening [deed], request => (deed.response request.groups, listening [deed])
  | listening (deed :: deeds), request => (deed.response request.groups, listening deeds)

def roller : Roller RemoteDice :=
  ⟨ask, true⟩

end RemoteDice

end Skirmish
