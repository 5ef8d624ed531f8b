/-!
# Cancel signals

Whoever waits for dice can be told to give up. Signals are counted, and a command marks those that
were raised before it as seen when it starts, so that only later ones concern it.
-/

namespace Skirmish

/-- A counter of cancel signals and the part of it that has been seen. -/
structure Signal where
  raised : Nat
  seen : Nat
  deriving DecidableEq, Repr

namespace Signal

/-- Raises the signal a number of times. -/
def raise (signal : Signal) (times : Nat) : Signal :=
  { signal with raised := signal.raised + times }

/-- Marks everything raised so far as seen. -/
def acknowledge (signal : Signal) : Signal :=
  { signal with seen := signal.raised }

def isPending (signal : Signal) : Bool :=
  signal.seen < signal.raised

end Signal

/-- How a command can be cancelled while it waits: not at all, through a line whose other end is
gone, or through a signal. -/
inductive CancelLine where
  | absent
  | orphaned
  | connected (signal : Signal)
  deriving DecidableEq, Repr

namespace CancelLine

/-- Raises the signal, if there is one to raise. -/
def raise : CancelLine → Nat → CancelLine
  | connected signal, times => connected (signal.raise times)
  | line, _ => line

/-- Marks what was raised before as seen. -/
def acknowledge : CancelLine → CancelLine
  | connected signal => connected signal.acknowledge
  | line => line

/-- Whether the wait is to be given up. -/
def isPending : CancelLine → Bool
  | connected signal => signal.isPending
  | _ => false

end CancelLine

end Skirmish
