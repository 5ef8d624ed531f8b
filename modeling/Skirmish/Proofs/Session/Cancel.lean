import Skirmish.Dice.Remote
import Skirmish.Proofs.Resolution.Silence
import Skirmish.Proofs.Session.Run

/-!
# Cancelling what waits

A cancel signal concerns the command that waits for dice when it is raised, and no other one.  A run
with signals between its commands and during their phases is the run without any signal, but for the
commands that are cancelled where they would have waited until their time was over.
-/

namespace Skirmish

variable {σ : Type}

namespace Move

/-- Whether a move raises the signal between commands. -/
def isCancel : Move → Bool
  | .cancel => true
  | _ => false

end Move

namespace Session

/-- Whether the signal is raised while a phase of a command stays unanswered. -/
def isSignalled (session : Session σ) (roller : Roller σ) (input : Text) : Bool :=
  (roller.exchanges (session.execute roller input).requests session.dice).any fun exchange =>
    0 < exchange.2.signals

/-- Whether a command comes to the same in a session with signals and in one without, unless it is
cancelled for a signal of its own.  A cancelled command is one that would run out of time. -/
structure SameUnlessSignalled (here calm : Session σ) (roller : Roller σ) (input : Text) :
    Prop where
  result : (here.execute roller input).result =
    if here.isSignalled roller input then .error (.resolve (.dice .cancelled))
    else (calm.execute roller.withoutSignals input).result
  timeout : here.isSignalled roller input = true →
    (calm.execute roller.withoutSignals input).result =
      .error (.resolve (.dice (.timeout here.wait)))
  requests : (here.execute roller input).requests =
    (calm.execute roller.withoutSignals input).requests
  published : (here.execute roller input).published =
    (calm.execute roller.withoutSignals input).published
  session : SameButSignal (here.execute roller input).session
    (calm.execute roller.withoutSignals input).session

variable {here calm : Session σ}

/-- A roll comes to the same without signals, unless one is raised while it waits. -/
theorem roll_withoutSignals (hsame : SameButSignal here calm) (roller : Roller σ) (plan : Plan) :
    let exchanges := roller.exchanges (here.roll roller plan).2.2 here.dice
    (here.roll roller plan).1 =
        (if exchanges.any fun exchange => 0 < exchange.2.signals then
          .error (.resolve (.dice .cancelled))
        else (calm.roll roller.withoutSignals plan).1) ∧
      (exchanges.any (fun exchange => 0 < exchange.2.signals) = true →
        (calm.roll roller.withoutSignals plan).1 = .error (.resolve (.dice (.timeout here.wait)))) ∧
      (here.roll roller plan).2.2 = (calm.roll roller.withoutSignals plan).2.2 ∧
      SameButSignal (here.roll roller plan).2.1 (calm.roll roller.withoutSignals plan).2.1 := by
  intro exchanges
  obtain ⟨signal, rfl⟩ := hsame
  have hresolved := (plan.sameUnlessCancelled_resolve roller here.control here.dice
    (.connected here.signal) (.connected signal)).mapError SessionError.resolve
  have htimeout := hresolved.timeout_of_heard (CancelLine.hears_acknowledge_zero _)
  obtain ⟨hresult, -, hdice, hrequests⟩ := hresolved
  simp only [CancelLine.hears_acknowledge] at hresult htimeout
  refine ⟨hresult, htimeout, hrequests, ?_⟩
  obtain ⟨first, hfirst⟩ := here.roll_session roller plan
  obtain ⟨second, hsecond⟩ :=
    Session.roll_session { here with signal } roller.withoutSignals plan
  have hafter : (here.roll roller plan).2.1.dice =
      (Session.roll { here with signal } roller.withoutSignals plan).2.1.dice := hdice
  rw [hfirst, hsecond, hafter]
  exact ⟨second, rfl⟩

theorem sameUnlessSignalled_of_quiet {roller : Roller σ} {input : Text}
    (hquiet : here.isSignalled roller input = false)
    (hstep : SameStep (here.execute roller input) (calm.execute roller.withoutSignals input)) :
    SameUnlessSignalled here calm roller input where
  result := by
    rw [hquiet, if_neg Bool.false_ne_true, hstep.result]
  timeout := by
    intro hsignalled
    cases hquiet.symm.trans hsignalled
  requests := hstep.requests
  published := hstep.published
  session := hstep.session

theorem isSignalled_of_requests {session : Session σ} {roller : Roller σ} {input : Text}
    (hnone : (session.execute roller input).requests = []) :
    session.isSignalled roller input = false := by
  rw [isSignalled, hnone, Roller.exchanges, List.any_nil]

/-- A command that rolls hears what is raised while it waits. -/
theorem sameUnlessSignalled_of_roll {roller : Roller σ} {input : Text} {command : Command}
    (hsame : SameButSignal here calm) (hhere : here.read input = .ok command)
    (hcalm : calm.read input = .ok command) (hroll : command.hasRoll = true) :
    SameUnlessSignalled here calm roller input := by
  obtain ⟨hresult, htimeout, hrequests, hrolled⟩ := roll_withoutSignals hsame roller command.plan
  have hsignalled := requests_of_roll hhere hroll roller
  have hother := requests_of_roll hcalm hroll roller.withoutSignals
  cases hheard : here.isSignalled roller input with
  | false =>
      apply sameUnlessSignalled_of_quiet hheard
      rw [isSignalled, hsignalled] at hheard
      rw [hheard, if_neg Bool.false_ne_true] at hresult
      rw [execute_of_roll hhere hroll, execute_of_roll hcalm hroll]
      obtain ⟨signal, rfl⟩ := hsame
      simp only [hresult, hrequests]
      cases (Session.roll { here with signal } roller.withoutSignals command.plan).1 with
      | error cause => exact ⟨rfl, rfl, rfl, hrolled⟩
      | ok resolution =>
          obtain ⟨kept, hkept⟩ := hrolled.keepNotes command
          simp only [hkept]
          exact ⟨rfl, rfl, rfl, kept, rfl⟩
  | true =>
      have hraised := hheard
      rw [isSignalled, hsignalled] at hraised
      rw [hraised, if_pos rfl] at hresult
      have hwaited := htimeout hraised
      have hstep : here.execute roller input = ⟨.error (.resolve (.dice .cancelled)),
          (here.roll roller command.plan).2.1, (here.roll roller command.plan).2.2, none⟩ := by
        rw [execute_of_roll hhere hroll]
        simp only [hresult]
      have hcalmStep : calm.execute roller.withoutSignals input =
          ⟨.error (.resolve (.dice (.timeout here.wait))),
            (calm.roll roller.withoutSignals command.plan).2.1,
            (calm.roll roller.withoutSignals command.plan).2.2, none⟩ := by
        rw [execute_of_roll hcalm hroll]
        simp only [hwaited]
      refine ⟨?_, ?_, ?_, ?_, ?_⟩
      · rw [hheard, hstep, if_pos rfl]
      · intro _
        rw [hcalmStep]
      · rw [hsignalled, hother, hrequests]
      · rw [hstep, hcalmStep]
      · rw [hstep, hcalmStep]
        exact hrolled

/-- A command hears what is raised while it waits, and nothing that was raised before. -/
theorem sameUnlessSignalled (hsame : SameButSignal here calm) (roller : Roller σ) (input : Text) :
    SameUnlessSignalled here calm roller input := by
  have hread : calm.read input = here.read input := by
    obtain ⟨signal, rfl⟩ := hsame
    rfl
  -- A command that does not roll has nothing to do with the roller.
  have hidle : (here.execute roller input).requests = [] →
      calm.execute roller input = calm.execute roller.withoutSignals input →
      SameUnlessSignalled here calm roller input := by
    intro hnone hroller
    apply sameUnlessSignalled_of_quiet (isSignalled_of_requests hnone)
    rw [← hroller]
    exact execute_sameButSignal hsame roller input
  cases hcommand : here.read input with
  | error cause =>
      have hother := hread.trans hcommand
      apply hidle
      · rw [execute_of_error hcommand]
      · rw [execute_of_error hother, execute_of_error hother]
  | ok command =>
      have hother := hread.trans hcommand
      cases hroll : command.hasRoll with
      | false =>
          apply hidle
          · rw [execute_of_notes hcommand hroll]
          · rw [execute_of_notes hother hroll, execute_of_notes hother hroll]
      | true => exact sameUnlessSignalled_of_roll hsame hcommand hother hroll

/-- Only commands have to do with the roller. -/
theorem move_withoutSignals {left right : Session σ} (hsame : SameButSignal left right)
    (roller : Roller σ) (move : Move) :
    SameButSignal (left.move roller move).2 (right.move roller.withoutSignals move).2 := by
  cases move with
  | execute input => exact (sameUnlessSignalled hsame roller input).session
  | ingest event => exact (move_sameButSignal hsame roller (.ingest event)).2
  | setHidden hidden => exact (move_sameButSignal hsame roller (.setHidden hidden)).2
  | cancel => exact (move_sameButSignal hsame roller .cancel).2
  | save name command => exact (move_sameButSignal hsame roller (.save name command)).2
  | delete name => exact (move_sameButSignal hsame roller (.delete name)).2

/-- A signal between commands makes no difference but for itself. -/
theorem SameButSignal.idle {left right : Session σ} (hsame : SameButSignal left right)
    (roller : Roller σ) {move : Move} (hcancel : move.isCancel = true) :
    SameButSignal (left.move roller move).2 right := by
  cases move with
  | cancel =>
      obtain ⟨signal, rfl⟩ := hsame
      exact ⟨signal, rfl⟩
  | execute input => cases hcancel
  | ingest event => cases hcancel
  | setHidden hidden => cases hcancel
  | save name command => cases hcancel
  | delete name => cases hcancel

/-- A run without any signal, between the commands or during them, leaves the same session. -/
theorem run_withoutSignals {left right : Session σ} (hsame : SameButSignal left right)
    (roller : Roller σ) (moves : List Move) :
    SameButSignal (left.run roller moves).2
      (right.run roller.withoutSignals (moves.filter fun move => !move.isCancel)).2 := by
  induction moves generalizing left right with
  | nil => exact hsame
  | cons move moves ih =>
      cases hcancel : move.isCancel with
      | false =>
          rw [List.filter_cons_of_pos (by rw [hcancel]; rfl)]
          exact ih (move_withoutSignals hsame roller move)
      | true =>
          rw [List.filter_cons_of_neg (by simp [hcancel])]
          exact ih (hsame.idle roller hcancel)

/-- At every point of every run, a command is cancelled when a signal is raised while one of its
phases stays unanswered, and otherwise comes to what it comes to in the run without any signal.
What signals there have been makes no difference to anything that is seen from then on.  On a line
whose other end is gone nothing is ever cancelled. -/
theorem cancels_waiting (session : Session σ) (roller : Roller σ) (moves : List Move) :
    let here := (session.run roller moves).2
    let calm :=
      (session.run roller.withoutSignals (moves.filter fun move => !move.isCancel)).2
    (∀ input, SameUnlessSignalled here calm roller input) ∧
      (∀ signal later, (run { here with signal } roller later).1 = (here.run roller later).1) ∧
      ∀ (plan : Plan) (control : Control) (dice : σ), plan.WaitsAlone roller control dice := by
  intro here calm
  have hsame : SameButSignal here calm :=
    run_withoutSignals ⟨session.signal, rfl⟩ roller moves
  refine ⟨fun input => sameUnlessSignalled hsame roller input, ?_, ?_⟩
  · intro signal later
    have hsignal : SameButSignal { here with signal } here := ⟨here.signal, rfl⟩
    exact (run_sameButSignal hsignal roller later).1
  · intro plan control dice
    exact plan.waitsAlone roller control dice

/-- The signal before the first command is not heard, the one during it is, and the second command
knows of neither. -/
example :
    let session := Session.new "tester".toList (RemoteDice.listening [.raiseCancel, .highest])
      (.sorted SortedNotebook.empty) fun _ => 0
    let first := session.cancel.execute RemoteDice.roller "1n vs 10".toList
    let second := first.session.execute RemoteDice.roller "1n vs 10".toList
    session.cancel.isSignalled RemoteDice.roller "1n vs 10".toList = true ∧
      first.result = .error (.resolve (.dice .cancelled)) ∧
      second.result.toOption.isSome = true := by
  decide +kernel

end Session

end Skirmish
