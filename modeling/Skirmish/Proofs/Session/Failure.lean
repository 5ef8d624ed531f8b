import Skirmish.Dice.Remote
import Skirmish.Proofs.Resolution.Requests
import Skirmish.Proofs.Session.Run

/-!
# Failed commands

A command that fails has deleted, saved, recorded and published nothing, however far it came.  If it
came to rolling, its place among the rolls and the dice that were thrown for it are used up, and
nothing that is seen of the session later tells of anything else.
-/

namespace Skirmish

variable {σ : Type}

namespace Session

/-- Whether an input is a command that rolls. -/
def reachesRolling (session : Session σ) (input : Text) : Bool :=
  match session.read input with
  | .error _ => false
  | .ok command => command.hasRoll

/-- Whether all that a step leaves of a command is its place among the rolls, if it has come to
rolling, and the dice thrown for its requests. -/
structure LeavesNoTrace (before : Session σ) (roller : Roller σ) (rolled : Bool)
    (step : Step σ) : Prop where
  published : step.published = none
  notebook : step.session.notebook = before.notebook
  history : step.session.history = before.history
  hidden : step.session.hidden = before.hidden
  /-- The command has its place among the rolls only if it came to rolling. -/
  rolls : step.session.rolls = before.rolls + if rolled then 1 else 0
  requests : rolled = false → step.requests = []
  /-- The dice are as its requests have left them. -/
  dice : step.session.dice =
    step.requests.foldl (fun dice request => (roller.ask dice request).2) before.dice
  /-- Whatever happens later is seen as if only the dice and the count of rolls had changed. -/
  later : ∀ moves, (step.session.run roller moves).1 =
    (run { before with dice := step.session.dice, rolls := step.session.rolls } roller moves).1

theorem ne_resolve_of_expand {session : Session σ} {command : Command} {cause : SessionError}
    (hfailed : session.expand command = .error cause) (problem : ResolveError) :
    cause ≠ .resolve problem := by
  rintro rfl
  rw [expand] at hfailed
  split at hfailed
  · cases hfailed
  · split at hfailed
    · cases hfailed
    · split at hfailed
      · cases hfailed
      · cases hfailed

/-- An input that is no command never fails for its dice. -/
theorem ne_resolve_of_read {session : Session σ} {input : Text} {cause : SessionError}
    (hfailed : session.read input = .error cause) (problem : ResolveError) :
    cause ≠ .resolve problem := by
  rw [read] at hfailed
  split at hfailed
  · cases hfailed
    exact SessionError.noConfusion
  · split at hfailed
    · next hexpand =>
      cases hfailed
      exact ne_resolve_of_expand hexpand problem
    · split at hfailed
      · cases hfailed
      · split at hfailed
        · cases hfailed
        · cases hfailed
          exact SessionError.noConfusion

/-- The dice after a roll are those that its requests leave. -/
theorem dice_roll (session : Session σ) (roller : Roller σ) (plan : Plan) :
    (session.roll roller plan).2.1.dice = (session.roll roller plan).2.2.foldl
      (fun dice request => (roller.ask dice request).2) session.dice := by
  obtain ⟨hrequests, hdice⟩ := plan.asked_resolve roller session.control
    ⟨session.dice, .connected session.signal, []⟩
  have hmade : (session.roll roller plan).2.2 = plan.requests session.control.seed
      (plan.attackEnding roller session.control
        ⟨session.dice, .connected session.signal, []⟩) :=
    hrequests
  rw [hmade]
  exact hdice

theorem leavesNoTrace_of_roll (session : Session σ) (roller : Roller σ) (plan : Plan)
    (cause : SessionError) :
    LeavesNoTrace session roller true ⟨.error cause, (session.roll roller plan).2.1,
      (session.roll roller plan).2.2, none⟩ where
  published := rfl
  notebook := rfl
  history := rfl
  hidden := rfl
  rolls := rfl
  requests := by
    intro hrolled
    cases hrolled
  dice := session.dice_roll roller plan
  later := by
    intro moves
    have hsame : SameButSignal (session.roll roller plan).2.1
        { session with
          dice := (session.roll roller plan).2.1.dice
          rolls := (session.roll roller plan).2.1.rolls } :=
      ⟨session.signal, rfl⟩
    exact (run_sameButSignal hsame roller moves).1

theorem leavesNoTrace_self (session : Session σ) (roller : Roller σ) (cause : SessionError) :
    LeavesNoTrace session roller false ⟨.error cause, session, [], none⟩ where
  published := rfl
  notebook := rfl
  history := rfl
  hidden := rfl
  rolls := rfl
  requests := fun _ => rfl
  dice := rfl
  later := fun _ => rfl

theorem exists_resolve_of_roll {session : Session σ} {roller : Roller σ} {plan : Plan}
    {cause : SessionError} (hfailed : (session.roll roller plan).1 = .error cause) :
    ∃ problem, cause = .resolve problem := by
  simp only [roll] at hfailed
  cases hresult : (plan.resolve roller session.control
      ⟨session.dice, .connected session.signal, []⟩).1 with
  | error problem =>
      rw [hresult] at hfailed
      exact ⟨problem, (Except.error.inj hfailed).symm⟩
  | ok resolution =>
      rw [hresult] at hfailed
      cases hfailed

/-- A failed command leaves no trace but its place among the rolls and the dice thrown for it, and
it has come to rolling exactly when it failed for its dice. -/
theorem leavesNoTrace_of_error {session : Session σ} {roller : Roller σ} {input : Text}
    {cause : SessionError} (hfailed : (session.execute roller input).result = .error cause) :
    LeavesNoTrace session roller (session.reachesRolling input)
        (session.execute roller input) ∧
      (session.reachesRolling input = true ↔ ∃ problem, cause = .resolve problem) := by
  cases hread : session.read input with
  | error problem =>
      have hreaches : session.reachesRolling input = false := by
        rw [reachesRolling, hread]
      rw [execute_of_error hread] at hfailed ⊢
      cases hfailed
      rw [hreaches]
      refine ⟨session.leavesNoTrace_self roller cause, ?_⟩
      simp [ne_resolve_of_read hread]
  | ok command =>
      have hreaches : session.reachesRolling input = command.hasRoll := by
        rw [reachesRolling, hread]
      cases hroll : command.hasRoll with
      | false =>
          rw [execute_of_notes hread hroll] at hfailed
          cases hfailed
      | true =>
          rw [execute_of_roll hread hroll] at hfailed ⊢
          cases hrolled : (session.roll roller command.plan).1 with
          | ok resolution =>
              simp only [hrolled] at hfailed
              cases hfailed
          | error problem =>
              simp only [hrolled] at hfailed ⊢
              cases hfailed
              rw [hreaches, hroll]
              exact ⟨session.leavesNoTrace_of_roll roller command.plan cause,
                fun _ => exists_resolve_of_roll hrolled, fun _ => rfl⟩

/-- Nobody answers the damage phase of a critical, and neither the note to delete nor the one to
save is touched. -/
theorem leavesNoTrace_of_timeout :
    let notebook : Notebook := .sorted (SortedNotebook.empty.save "old".toList "1n".toList)
    let session := Session.new "tester".toList (RemoteDice.listening [.highest, .ignore]) notebook
      fun _ => 0
    let step := session.execute RemoteDice.roller "1n dmg 1d6 save new delete old".toList
    step.result = .error (.resolve (.dice (.timeout defaultWait))) ∧ step.requests.length = 2 ∧
      step.session.notebook.toList = [⟨"old".toList, "1n".toList⟩] ∧
      LeavesNoTrace session RemoteDice.roller true step := by
  intro notebook session step
  have hfailed : step.result = .error (.resolve (.dice (.timeout defaultWait))) := by
    decide +kernel
  have hrequests : step.requests.length = 2 := by
    decide +kernel
  have hnotes : step.session.notebook.toList = [⟨"old".toList, "1n".toList⟩] := by
    decide +kernel
  have hreaches : session.reachesRolling "1n dmg 1d6 save new delete old".toList = true := by
    decide +kernel
  obtain ⟨htraceless, -⟩ := leavesNoTrace_of_error hfailed
  rw [hreaches] at htraceless
  exact ⟨hfailed, hrequests, hnotes, htraceless⟩

end Session

end Skirmish
