import Skirmish.Proofs.Resolution.Reply

/-!
# What the cancel line decides

A wait consults the cancel line only for whether it is pending once more signals have been raised.
Two lines that always agree on that lead to the same results, requests and dice.  After a command
has marked everything raised before as seen, the lines of any two signals agree.
-/

namespace Skirmish

variable {σ : Type}

theorem Signal.raise_raise (signal : Signal) (first second : Nat) :
    (signal.raise first).raise second = signal.raise (first + second) := by
  simp only [raise, Nat.add_assoc]

namespace CancelLine

/-- Whether two lines give up the same waits, whatever is raised from now on. -/
def Alike (left right : CancelLine) : Prop :=
  ∀ times, (left.raise times).isPending = (right.raise times).isPending

theorem raise_raise (line : CancelLine) (first second : Nat) :
    (line.raise first).raise second = line.raise (first + second) := by
  cases line with
  | absent => rfl
  | orphaned => rfl
  | connected signal => simp only [raise, Signal.raise_raise]

theorem Alike.raise {left right : CancelLine} (halike : Alike left right) (times : Nat) :
    Alike (left.raise times) (right.raise times) := by
  intro more
  rw [raise_raise, raise_raise]
  exact halike (times + more)

/-- Once everything is marked as seen, the past of a signal decides nothing. -/
theorem alike_acknowledge (left right : Signal) :
    Alike (connected left).acknowledge (connected right).acknowledge := by
  intro times
  simp [acknowledge, Signal.acknowledge, CancelLine.raise, Signal.raise, isPending,
    Signal.isPending]

end CancelLine

namespace Table

/-- Whether two tables differ at most in their lines, which are alike. -/
structure Alike (left right : Table σ) : Prop where
  dice : left.dice = right.dice
  requests : left.requests = right.requests
  line : left.line.Alike right.line

/-- Whether two runs from a table come to the same result and to tables that are alike. -/
def SameRun {α : Type} (left right : α × Table σ) : Prop :=
  left.1 = right.1 ∧ left.2.Alike right.2

variable {left right : Table σ}

theorem sameRun_roll (halike : left.Alike right) (roller : Roller σ) (wait : Wait) (phase : Phase)
    (seed : UInt64) (groups : List DiceGroup) :
    SameRun (left.roll roller wait phase seed groups)
      (right.roll roller wait phase seed groups) := by
  obtain ⟨hdice, hrequests, hline⟩ := halike
  simp only [roll, hdice, hrequests]
  split
  · exact ⟨rfl, hdice, hrequests, hline⟩
  · split
    · exact ⟨rfl, rfl, rfl, hline⟩
    · exact ⟨rfl, rfl, rfl, hline⟩
    · next signals _ =>
      have hraised := hline.raise signals
      have hpending : (left.line.raise signals).isPending =
          (right.line.raise signals).isPending :=
        hline signals
      exact ⟨by rw [hpending], rfl, rfl, hraised⟩

end Table

namespace Plan

open Table

variable {left right : Table σ}

theorem sameRun_rollAttacks (plan : Plan) (roller : Roller σ) (control : Control)
    (halike : left.Alike right) :
    SameRun (plan.rollAttacks roller control left) (plan.rollAttacks roller control right) := by
  simp only [rollAttacks]
  split
  · exact ⟨rfl, halike⟩
  · next roll _ =>
    obtain ⟨hresult, htable⟩ :=
      sameRun_roll halike roller control.wait .attack control.seed roll.allGroups
    exact ⟨by rw [hresult], htable⟩

theorem sameRun_rollDamage (plan : Plan) (roller : Roller σ) (control : Control)
    (strikes : List (Option Strike)) (halike : left.Alike right) :
    SameRun (plan.rollDamage roller control strikes left)
      (plan.rollDamage roller control strikes right) := by
  simp only [rollDamage]
  split
  · exact ⟨rfl, halike⟩
  · next components _ =>
    obtain ⟨hresult, htable⟩ := sameRun_roll halike roller control.wait .damage
      (control.seed + 1) (damageGroups components strikes)
    exact ⟨by rw [hresult], htable⟩

/-- Resolving a plan depends on the line only through what the line decides once the plan has
marked the past as seen. -/
theorem resolve_alike (plan : Plan) (roller : Roller σ) (control : Control)
    (left right : Table σ) (hdice : left.dice = right.dice)
    (hrequests : left.requests = right.requests)
    (hline : left.line.acknowledge.Alike right.line.acknowledge) :
    (plan.resolve roller control left).1 = (plan.resolve roller control right).1 ∧
      (plan.resolve roller control left).2.dice = (plan.resolve roller control right).2.dice ∧
      (plan.resolve roller control left).2.requests =
        (plan.resolve roller control right).2.requests := by
  by_cases hlimit : maxDicePerCommand < plan.maxDice
  · -- A plan that is refused marks nothing as seen, so the lines need not become alike.
    rw [resolve, resolve, if_pos hlimit, if_pos hlimit]
    exact ⟨rfl, hdice, hrequests⟩
  · have halike : Alike { left with line := left.line.acknowledge }
        { right with line := right.line.acknowledge } :=
      ⟨hdice, hrequests, hline⟩
    obtain ⟨hattacked, hmiddle⟩ := plan.sameRun_rollAttacks roller control halike
    simp only [resolve_within (Nat.not_lt.1 hlimit), hattacked]
    split
    · exact ⟨rfl, hmiddle.dice, hmiddle.requests⟩
    · next attacks _ =>
      obtain ⟨hdamaged, hlast⟩ :=
        plan.sameRun_rollDamage roller control (strikes attacks) hmiddle
      exact ⟨by rw [hdamaged], hlast.dice, hlast.requests⟩

end Plan

end Skirmish
