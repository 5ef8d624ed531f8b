import Skirmish.Session.Event

/-!
# Broadcasts

Events are handed to everyone who listens. A listener receives the events published after it came,
in order, until it leaves.
-/

namespace Skirmish

/-- The listeners in the order of their coming, each with the events that wait for it; none in the
place of one that left. -/
structure Broadcaster where
  queues : List (Option (List Event))
  deriving DecidableEq, Repr

namespace Broadcaster

def empty : Broadcaster :=
  ⟨[]⟩

def listenerCount (broadcaster : Broadcaster) : Nat :=
  (broadcaster.queues.filter Option.isSome).length

/-- Adds a listener and gives its number. -/
def subscribe (broadcaster : Broadcaster) : Nat × Broadcaster :=
  (broadcaster.queues.length, ⟨broadcaster.queues ++ [some []]⟩)

def leave (broadcaster : Broadcaster) (listener : Nat) : Broadcaster :=
  ⟨broadcaster.queues.set listener none⟩

def publish (broadcaster : Broadcaster) (event : Event) : Broadcaster :=
  ⟨broadcaster.queues.map fun queue => queue.map (· ++ [event])⟩

/-- Takes the events that wait for a listener; none if it left. -/
def drain (broadcaster : Broadcaster) (listener : Nat) : Option (List Event) × Broadcaster :=
  match broadcaster.queues[listener]?.join with
  | some events => (some events, ⟨broadcaster.queues.set listener (some [])⟩)
  | none => (none, broadcaster)

end Broadcaster

end Skirmish
