import Skirmish.Session.Event

/-!
# Histories

The latest events of a session, newest first, as many as the limit allows.
-/

namespace Skirmish

/-- An event and whether it was rolled here. -/
structure HistoryEntry where
  event : Event
  isLocal : Bool
  deriving DecidableEq, Repr

/-- The latest entries, newest first. -/
structure History where
  limit : Nat
  entries : List HistoryEntry
  deriving DecidableEq, Repr

namespace History

def defaultLimit : Nat := 20

/-- The bytes that room for one entry takes. -/
def entrySize : Nat := 160

/-- The most bytes that a history can take. -/
def largestSize : Nat := 34359738368

/-- Whether there is room for a number of entries, which a history takes at once. -/
def hasRoomFor (limit : Nat) : Bool :=
  entrySize * limit ≤ largestSize

def empty (limit : Nat) : History :=
  ⟨limit, []⟩

/-- Records an entry; the oldest go when there are too many. -/
def push (history : History) (entry : HistoryEntry) : History :=
  { history with entries := (entry :: history.entries).take history.limit }

def contains (history : History) (id : EventId) : Bool :=
  history.entries.any fun entry => entry.event.id == id

def latest? (history : History) : Option HistoryEntry :=
  history.entries.head?

end History

end Skirmish
