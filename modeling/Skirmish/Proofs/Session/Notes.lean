import Skirmish.Proofs.Session.Replay
import Skirmish.Proofs.Session.Run

/-!
# What a command leaves in the notebook

A command that succeeds removes the name that was typed to be deleted and then binds the name that
was typed to be saved.  One saved text may be read on the way, the one that was asked for; what this
text says about names is neither done nor followed.
-/

namespace Skirmish

variable {σ : Type}

namespace Session

/-- Whether a command is the typed one or, with a name to load, what the text of that name reads as
with the typed label behind it.  The names are the typed ones in either case. -/
inductive Expands (session : Session σ) (typed : Command) : Command → Prop
  | typed (hnone : typed.names.load = none) : Expands session typed typed
  | loaded {name text : Text} {again : Command} (hname : typed.names.load = some name)
      (htext : session.notebook.load? name = some text)
      (hagain : Command.parse (text ++ ' ' :: typed.label) = .ok again) :
      Expands session typed { again with names := typed.names }

/-- Whether a command that was typed has left the notebook as it should, and tells so. -/
structure NotesKept (before : Session σ) (typed : Command) (outcome : Outcome)
    (after : Notebook) : Prop where
  /-- The name to save has the label, also if it was to be deleted as well; else the name to delete
  has nothing; every other name has what it had. -/
  entries : ∀ name, after.load? name =
    if typed.names.save = some name then some outcome.command.label
    else if typed.names.delete = some name then none
    else before.notebook.load? name
  saved : outcome.saved = typed.names.save
  /-- A name counts as deleted when it was there before. -/
  deleted : ∀ name, outcome.deleted = some name ↔
    typed.names.delete = some name ∧ ∃ text, before.notebook.load? name = some text
  /-- What is saved says something. -/
  label : ∀ name, typed.names.save = some name → outcome.command.label ≠ []
  names : outcome.command.names = typed.names

theorem expands_of_expand {session : Session σ} {typed command : Command}
    (hok : session.expand typed = .ok command) : session.Expands typed command := by
  rcases expand_cases hok with ⟨hnone, rfl⟩ | ⟨name, text, again, hname, htext, hagain, rfl⟩
  · exact .typed hnone
  · exact .loaded hname htext hagain

/-- Of the notebook, only the text of the name to load has a part in what an input stands for. -/
theorem read_congr {session : Session σ} {input : Text} {notebook : Notebook}
    (hsame : ∀ typed name, Command.parse input = .ok typed → typed.names.load = some name →
      notebook.load? name = session.notebook.load? name) :
    read { session with notebook } input = session.read input := by
  simp only [read]
  cases hparse : Command.parse input with
  | error cause => rfl
  | ok typed =>
      have hexpand : expand { session with notebook } typed = session.expand typed := by
        simp only [expand]
        cases hload : typed.names.load with
        | none => rfl
        | some name => simp only [hsame typed name hparse hload]
      simp only [hexpand]

/-- The notebook after what a command names was deleted and saved, name by name. -/
theorem entries_keepNotes (session : Session σ) (command : Command) (name : Text) :
    (session.keepNotes command).notebook.load? name =
      if command.names.save = some name then some command.label
      else if command.names.delete = some name then none
      else session.notebook.load? name := by
  simp only [keepNotes]
  cases command.names.delete with
  | none =>
      cases command.names.save with
      | none => rfl
      | some saved => simp [Notebook.load?_save]
  | some deleted =>
      cases command.names.save with
      | none => simp [Notebook.load?_delete]
      | some saved => simp [Notebook.load?_save, Notebook.load?_delete]

/-- What becomes of an input that was read: an outcome, unless its plan is not resolved. -/
theorem result_of_read {session : Session σ} {input : Text} {command : Command}
    (hread : session.read input = .ok command) (roller : Roller σ) :
    (session.execute roller input).result =
      if command.hasRoll then
        (session.roll roller command.plan).1.map fun resolution =>
          session.outcome command (some resolution)
      else .ok (session.outcome command none) := by
  cases hroll : command.hasRoll with
  | false =>
      rw [execute_of_notes hread hroll]
      rfl
  | true =>
      rw [execute_of_roll hread hroll, if_pos rfl]
      cases hrolled : (session.roll roller command.plan).1 <;> simp only [hrolled, Except.map]

/-- A command with an outcome was read, and has kept its notes and nothing else in the notebook. -/
theorem notebook_of_outcome {session : Session σ} {roller : Roller σ} {input : Text}
    {outcome : Outcome} (hok : (session.execute roller input).result = .ok outcome) :
    ∃ command resolution, session.read input = .ok command ∧
      outcome = session.outcome command resolution ∧
      (session.execute roller input).session.notebook = (session.keepNotes command).notebook := by
  have hexecutes := session.executes roller input
  generalize session.execute roller input = step at hexecutes hok ⊢
  cases hexecutes with
  | unread hread => cases hok
  | noted hread hnotes =>
      cases hok
      exact ⟨_, none, hread, rfl, rfl⟩
  | unresolved hread hroll hfailed => cases hok
  | resolved hread hroll hresolved hevent =>
      cases hok
      exact ⟨_, _, hread, rfl, rfl⟩

theorem deleted_outcome_iff (session : Session σ) (command : Command)
    (resolution : Option Resolution) (name : Text) :
    (session.outcome command resolution).deleted = some name ↔
      command.names.delete = some name ∧ ∃ text, session.notebook.load? name = some text := by
  simp only [outcome, Option.filter_eq_some_iff, Notebook.contains, Option.isSome_iff_exists]

/-- What a command comes to does not depend on the notebook, as long as the same command is read. -/
theorem exists_outcome_of_read {session : Session σ} {roller : Roller σ} {input : Text}
    {command : Command} {outcome : Outcome} {notebook : Notebook}
    (hread : session.read input = .ok command)
    (hok : (session.execute roller input).result = .ok outcome)
    (hagain : read { session with notebook } input = .ok command) :
    ∃ other, (execute { session with notebook } roller input).result = .ok other ∧
      other.command = outcome.command ∧ other.resolution = outcome.resolution := by
  have hsame : (roll { session with notebook } roller command.plan).1 =
      (session.roll roller command.plan).1 := rfl
  rw [result_of_read hread] at hok
  rw [result_of_read hagain, hsame]
  cases hroll : command.hasRoll with
  | false =>
      rw [hroll] at hok
      cases hok
      exact ⟨_, rfl, rfl, rfl⟩
  | true =>
      rw [hroll] at hok
      cases hrolled : (session.roll roller command.plan).1 with
      | error cause =>
          rw [hrolled] at hok
          cases hok
      | ok resolution =>
          rw [hrolled] at hok
          cases hok
          exact ⟨_, rfl, rfl, rfl⟩

/-- A command that succeeds leaves in the notebook what was typed to be saved and deleted, and no
text but that of the name to load has a part in what it does. -/
theorem notes_of_execute {session : Session σ} {roller : Roller σ} {input : Text}
    {outcome : Outcome} (hok : (session.execute roller input).result = .ok outcome) :
    ∃ typed, Command.parse input = .ok typed ∧ session.Expands typed outcome.command ∧
      NotesKept session typed outcome (session.execute roller input).session.notebook ∧
      ∀ notebook : Notebook,
        (∀ name, typed.names.load = some name →
          notebook.load? name = session.notebook.load? name) →
        ∃ other, (execute { session with notebook } roller input).result = .ok other ∧
          other.command = outcome.command ∧ other.resolution = outcome.resolution := by
  obtain ⟨command, resolution, hread, houtcome, hnotebook⟩ := notebook_of_outcome hok
  obtain ⟨typed, hparse, hexpand, hsays⟩ := read_cases hread
  have hnames := names_of_expand hexpand
  refine ⟨typed, hparse, ?_, ?_, ?_⟩
  · rw [houtcome]
    exact expands_of_expand hexpand
  · subst houtcome
    refine ⟨?_, congrArg Names.save hnames, ?_, ?_, hnames⟩
    · intro name
      rw [hnotebook, entries_keepNotes, hnames]
      rfl
    · intro name
      rw [deleted_outcome_iff, hnames]
    · intro name hsave
      have hroll := hsays name (by rw [hnames, hsave])
      have hsome : command.label ≠ [] := by simpa [Command.hasRoll] using hroll
      exact hsome
  · intro notebook hsame
    apply exists_outcome_of_read hread hok
    rw [← hread]
    apply read_congr
    intro again name hagain hload
    obtain rfl := Except.ok.inj (hparse.symm.trans hagain)
    exact hsame name hload

/-- A name is loaded, deleted and saved at once; the text that it had asks for another one to be
loaded and for yet another to be saved. -/
theorem notes_of_execute_nested :
    let notebook : Notebook :=
      .sorted (SortedNotebook.empty.save "a".toList "1n dmg 5 load b save c".toList)
    let session := Session.new "tester".toList (ScriptedDice.always 10) notebook fun _ => 0
    let step := session.execute ScriptedDice.roller "save a delete a load a hp 9".toList
    ∃ outcome typed, step.result = .ok outcome ∧ outcome.deleted = some "a".toList ∧
      session.Expands typed outcome.command ∧
      NotesKept session typed outcome step.session.notebook ∧
      step.session.notebook.toList = [⟨"a".toList, "1n dmg 5 hp 9".toList⟩] := by
  intro notebook session step
  have hok : step.result = .ok ⟨⟨⟨some ⟨1, .normal, [], []⟩, none, some [⟨.plus, .flat 5, []⟩],
      some 9, ⟨[], [], []⟩⟩, ⟨some "a".toList, some "a".toList, some "a".toList⟩,
      "1n dmg 5 hp 9".toList⟩,
      some ⟨some [⟨true, false, 10, [10]⟩], some [.hit [⟨5, []⟩]], 5, some ⟨9, 4⟩⟩,
      some "a".toList, some "a".toList, some "a".toList⟩ := by
    decide +kernel
  have hnotes : step.session.notebook.toList = [⟨"a".toList, "1n dmg 5 hp 9".toList⟩] := by
    decide +kernel
  obtain ⟨typed, -, hexpands, hkept, -⟩ := notes_of_execute hok
  exact ⟨_, typed, hok, rfl, hexpands, hkept, hnotes⟩

end Session

end Skirmish
