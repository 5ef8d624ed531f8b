import Skirmish.Proofs.Resolution.Waiting
import Skirmish.Session.Basic

/-!
# Runs of a session

A session goes through commands, through events and settings from outside and through changes of
the notebook that it shares.  What is seen of each of these moves is what it answers, asks for and
publishes, and the history, the notebook and the setting that it leaves.  The cancel signal is not
seen, and sessions that differ in nothing else are seen the same from then on.
-/

namespace Skirmish

variable {σ : Type}

/-- What can happen to a session.  Others may write into its notebook between its commands. -/
inductive Move where
  | execute (input : Text)
  | ingest (event : Event)
  | setHidden (hidden : Bool)
  | cancel
  | save (name command : Text)
  | delete (name : Text)

/-- What a move answers. -/
inductive Answer where
  | executed (result : Except SessionError Outcome)
  | ingested (isNew : Bool)
  | nothing

/-- What is seen of a move: its answer, requests and event, and what the session then holds. -/
structure Sight where
  answer : Answer
  requests : List Request
  published : Option Event
  history : History
  notebook : Notebook
  hidden : Bool

namespace Session

/-- What is seen of a move that leaves the session. -/
def sight (after : Session σ) (answer : Answer) (requests : List Request)
    (published : Option Event) : Sight :=
  ⟨answer, requests, published, after.history, after.notebook, after.hidden⟩

/-- Makes a move. -/
def move (session : Session σ) (roller : Roller σ) : Move → Sight × Session σ
  | .execute input =>
      let step := session.execute roller input
      (step.session.sight (.executed step.result) step.requests step.published, step.session)
  | .ingest event =>
      let taken := session.ingest event
      (taken.2.sight (.ingested taken.1) [] none, taken.2)
  | .setHidden hidden =>
      let after := session.setHidden hidden
      (after.sight .nothing [] none, after)
  | .cancel => (session.cancel.sight .nothing [] none, session.cancel)
  | .save name command =>
      let after := { session with notebook := session.notebook.save name command }
      (after.sight .nothing [] none, after)
  | .delete name =>
      let after := { session with notebook := session.notebook.delete name }
      (after.sight .nothing [] none, after)

/-- Makes moves one after the other. -/
def run (session : Session σ) (roller : Roller σ) : List Move → List Sight × Session σ
  | [] => ([], session)
  | move :: moves =>
      let moved := session.move roller move
      let rest := moved.2.run roller moves
      (moved.1 :: rest.1, rest.2)

theorem execute_of_error {session : Session σ} {input : Text} {cause : SessionError}
    (hread : session.read input = .error cause) (roller : Roller σ) :
    session.execute roller input = ⟨.error cause, session, [], none⟩ := by
  rw [execute, hread]

theorem execute_of_notes {session : Session σ} {input : Text} {command : Command}
    (hread : session.read input = .ok command) (hnotes : command.hasRoll = false)
    (roller : Roller σ) :
    session.execute roller input =
      ⟨.ok (session.outcome command none), session.keepNotes command, [], none⟩ := by
  simp [execute, hread, hnotes]

/-- A command that rolls goes on only when its plan is resolved. -/
theorem execute_of_roll {session : Session σ} {input : Text} {command : Command}
    (hread : session.read input = .ok command) (hroll : command.hasRoll = true)
    (roller : Roller σ) :
    session.execute roller input =
      let rolled := session.roll roller command.plan
      match rolled.1 with
      | .error cause => ⟨.error cause, rolled.2.1, rolled.2.2, none⟩
      | .ok resolution =>
          let event := Event.ofResolution (.own session.rolls) session.player command.label
            resolution roller.physical
          let recorded := (rolled.2.1.keepNotes command).record event
          ⟨.ok (session.outcome command (some resolution)), recorded.1, rolled.2.2,
            recorded.2⟩ := by
  rw [execute, hread]
  cases hrolled : session.roll roller command.plan with
  | mk result rest =>
      simp only [hrolled, hroll, if_true]
      cases result <;> rfl

theorem requests_of_roll {session : Session σ} {input : Text} {command : Command}
    (hread : session.read input = .ok command) (hroll : command.hasRoll = true)
    (roller : Roller σ) :
    (session.execute roller input).requests = (session.roll roller command.plan).2.2 := by
  rw [execute_of_roll hread hroll]
  cases hrolled : (session.roll roller command.plan).1 <;> simp only [hrolled]

/-- What rolling changes of a session: the dice, the count of rolls and the signal. -/
theorem roll_session (session : Session σ) (roller : Roller σ) (plan : Plan) :
    ∃ signal, (session.roll roller plan).2.1 =
      { session with
        dice := (session.roll roller plan).2.1.dice
        signal
        rolls := session.rolls + 1 } :=
  ⟨_, rfl⟩

/-- All that a command can come to.  Only one whose plan is resolved touches the history, and what
it publishes is what it records. -/
inductive Executes (session : Session σ) (roller : Roller σ) (input : Text) : Step σ → Prop
  | unread {cause : SessionError} (hread : session.read input = .error cause) :
      Executes session roller input ⟨.error cause, session, [], none⟩
  | noted {command : Command} (hread : session.read input = .ok command)
      (hnotes : command.hasRoll = false) :
      Executes session roller input
        ⟨.ok (session.outcome command none), session.keepNotes command, [], none⟩
  | unresolved {command : Command} {cause : SessionError} {dice : σ} {signal : Signal}
      {requests : List Request} (hread : session.read input = .ok command)
      (hroll : command.hasRoll = true)
      (hfailed : (session.roll roller command.plan).1 = .error cause) :
      Executes session roller input
        ⟨.error cause, { session with dice, signal, rolls := session.rolls + 1 }, requests, none⟩
  | resolved {command : Command} {resolution : Resolution} {dice : σ} {signal : Signal}
      {requests : List Request} {event : Event} (hread : session.read input = .ok command)
      (hroll : command.hasRoll = true)
      (hresolved : (session.roll roller command.plan).1 = .ok resolution)
      (hevent : event = Event.ofResolution (.own session.rolls) session.player command.label
        resolution roller.physical) :
      Executes session roller input
        ⟨.ok (session.outcome command (some resolution)),
          { session with
            dice, signal
            rolls := session.rolls + 1
            notebook := (session.keepNotes command).notebook
            history := session.history.push ⟨event, true⟩ },
          requests, if session.sharing && !session.hidden then some event else none⟩

/-- Rolling goes by the dice and the terms on which they are rolled, whatever the signals. -/
theorem roll_alike (left right : Session σ) (hdice : left.dice = right.dice)
    (hcontrol : left.control = right.control) (roller : Roller σ) (plan : Plan) :
    (left.roll roller plan).1 = (right.roll roller plan).1 ∧
      (left.roll roller plan).2.1.dice = (right.roll roller plan).2.1.dice ∧
      (left.roll roller plan).2.2 = (right.roll roller plan).2.2 := by
  obtain ⟨hresult, hafter, hrequests⟩ := plan.resolve_alike roller right.control
    ⟨left.dice, .connected left.signal, []⟩ ⟨right.dice, .connected right.signal, []⟩ hdice rfl
    (CancelLine.alike_acknowledge left.signal right.signal)
  simp only [roll, hcontrol]
  exact ⟨by rw [hresult], hafter, hrequests⟩

/-- Keeping notes goes by the notebook and changes nothing else. -/
theorem keepNotes_eq {left right : Session σ} (hnotebook : left.notebook = right.notebook)
    (command : Command) : left.keepNotes command =
      { left with notebook := (right.keepNotes command).notebook } := by
  simp only [keepNotes, hnotebook]
  cases command.names.save <;> rfl

theorem executes (session : Session σ) (roller : Roller σ) (input : Text) :
    session.Executes roller input (session.execute roller input) := by
  cases hread : session.read input with
  | error cause =>
      rw [execute_of_error hread]
      exact .unread hread
  | ok command =>
      cases hroll : command.hasRoll with
      | false =>
          rw [execute_of_notes hread hroll]
          exact .noted hread hroll
      | true =>
          rw [execute_of_roll hread hroll]
          obtain ⟨dice, signal, hrolled⟩ : ∃ dice signal,
              (session.roll roller command.plan).2.1 =
                { session with dice, signal, rolls := session.rolls + 1 } := ⟨_, _, rfl⟩
          have hnotebook : (session.roll roller command.plan).2.1.notebook = session.notebook := rfl
          have hkept := keepNotes_eq hnotebook command
          rw [hrolled] at hkept
          cases hresult : (session.roll roller command.plan).1 with
          | error cause =>
              simp only [hresult, hrolled]
              exact .unresolved hread hroll hresult
          | ok resolution =>
              simp only [hresult, hrolled, hkept]
              exact .resolved hread hroll hresult rfl

/-- Whether two sessions differ at most in their signals. -/
def SameButSignal (left right : Session σ) : Prop :=
  ∃ signal, right = { left with signal }

theorem SameButSignal.keepNotes {left right : Session σ} (hsame : SameButSignal left right)
    (command : Command) : SameButSignal (left.keepNotes command) (right.keepNotes command) := by
  obtain ⟨signal, rfl⟩ := hsame
  refine ⟨signal, ?_⟩
  simp only [Session.keepNotes]
  cases command.names.save <;> rfl

theorem SameButSignal.roll {left right : Session σ} (hsame : SameButSignal left right)
    (roller : Roller σ) (plan : Plan) :
    SameButSignal (left.roll roller plan).2.1 (right.roll roller plan).2.1 := by
  obtain ⟨signal, rfl⟩ := hsame
  obtain ⟨-, hdice, -⟩ := roll_alike left { left with signal } rfl rfl roller plan
  obtain ⟨leftSignal, hleft⟩ := left.roll_session roller plan
  obtain ⟨rightSignal, hright⟩ := Session.roll_session { left with signal } roller plan
  rw [hleft, hright, hdice]
  exact ⟨rightSignal, rfl⟩

/-- Whether two commands come to the same and leave sessions that differ at most in their
signals. -/
structure SameStep (left right : Step σ) : Prop where
  result : left.result = right.result
  requests : left.requests = right.requests
  published : left.published = right.published
  session : SameButSignal left.session right.session

/-- A command does the same in sessions that differ at most in their signals, since it marks what
was raised before it as seen. -/
theorem execute_sameButSignal {left right : Session σ} (hsame : SameButSignal left right)
    (roller : Roller σ) (input : Text) :
    SameStep (left.execute roller input) (right.execute roller input) := by
  have hread : right.read input = left.read input := by
    obtain ⟨signal, rfl⟩ := hsame
    rfl
  cases hcommand : left.read input with
  | error cause =>
      rw [execute_of_error hcommand, execute_of_error (hread.trans hcommand)]
      exact ⟨rfl, rfl, rfl, hsame⟩
  | ok command =>
      cases hroll : command.hasRoll with
      | false =>
          rw [execute_of_notes hcommand hroll, execute_of_notes (hread.trans hcommand) hroll]
          have hkept := hsame.keepNotes command
          obtain ⟨signal, rfl⟩ := hsame
          exact ⟨rfl, rfl, rfl, hkept⟩
      | true =>
          have hrolled := hsame.roll roller command.plan
          rw [execute_of_roll hcommand hroll, execute_of_roll (hread.trans hcommand) hroll]
          obtain ⟨signal, rfl⟩ := hsame
          obtain ⟨hresult, -, hrequests⟩ :=
            roll_alike left { left with signal } rfl rfl roller command.plan
          simp only [hresult, hrequests]
          cases (Session.roll { left with signal } roller command.plan).1 with
          | error cause => exact ⟨rfl, rfl, rfl, hrolled⟩
          | ok resolution =>
              obtain ⟨kept, hkept⟩ := hrolled.keepNotes command
              simp only [hkept]
              exact ⟨rfl, rfl, rfl, kept, rfl⟩

theorem move_sameButSignal {left right : Session σ} (hsame : SameButSignal left right)
    (roller : Roller σ) (move : Move) :
    (left.move roller move).1 = (right.move roller move).1 ∧
      SameButSignal (left.move roller move).2 (right.move roller move).2 := by
  cases move with
  | execute input =>
      obtain ⟨hresult, hrequests, hpublished, signal, hsession⟩ :=
        execute_sameButSignal hsame roller input
      simp only [Session.move, hresult, hrequests, hpublished, hsession]
      exact ⟨rfl, signal, rfl⟩
  | ingest event =>
      obtain ⟨signal, rfl⟩ := hsame
      simp only [Session.move, ingest]
      split
      · exact ⟨rfl, signal, rfl⟩
      · exact ⟨rfl, signal, rfl⟩
  | setHidden hidden =>
      obtain ⟨signal, rfl⟩ := hsame
      exact ⟨rfl, signal, rfl⟩
  | cancel =>
      obtain ⟨signal, rfl⟩ := hsame
      exact ⟨rfl, signal.raise 1, rfl⟩
  | save name command =>
      obtain ⟨signal, rfl⟩ := hsame
      exact ⟨rfl, signal, rfl⟩
  | delete name =>
      obtain ⟨signal, rfl⟩ := hsame
      exact ⟨rfl, signal, rfl⟩

/-- Sessions that differ at most in their signals are seen the same through every run. -/
theorem run_sameButSignal {left right : Session σ} (hsame : SameButSignal left right)
    (roller : Roller σ) (moves : List Move) :
    (left.run roller moves).1 = (right.run roller moves).1 ∧
      SameButSignal (left.run roller moves).2 (right.run roller moves).2 := by
  induction moves generalizing left right with
  | nil => exact ⟨rfl, hsame⟩
  | cons move moves ih =>
      -- The sessions after the first move differ again at most in their signals.
      obtain ⟨hsight, hmoved⟩ := move_sameButSignal hsame roller move
      obtain ⟨hrest, hlast⟩ := ih hmoved
      exact ⟨by simp only [run, hsight, hrest], hlast⟩

end Session

end Skirmish
