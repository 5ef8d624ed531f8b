import Mathlib.Control.Monad.Basic
import Skirmish.Dice.Scripted
import Skirmish.Proofs.Command.Canonical
import Skirmish.Proofs.Notebook.Entries
import Skirmish.Session.Basic

/-!
# Loading what was saved

A session that has executed a command with a name to save holds the label of that command under the
name.  Loading the name reads the label again, so whether it replays the command is a question about
the label alone.
-/

namespace Skirmish

namespace Layout

/-- The layout that asks for a saved command and for nothing else. -/
def load (name : Text) : Layout :=
  ⟨[], [⟨.name .load, name⟩]⟩

theorem ofText_load {name : Text} (hquiet : Quiet name []) :
    ofText ("load".toList ++ name) = load name := by
  have hcut : (load name).IsCut := ⟨Quiet.nil _, hquiet, trivial⟩
  have hsource : (load name).source = "load".toList ++ name := by
    rw [source, load, List.flatMap_singleton, Chunk.source]
    rfl
  rw [← hsource, ofText_source hcut]

theorem plan_load (name : Text) : (load name).plan = Plan.empty := by
  rw [← plan_rolled]
  rfl

theorem isCommand_load {name : Text} (hname : Names.isName name = true) :
    (load name).IsCommand where
  distinct := by simp [load]
  namesFit := by simp [load, hname]
  rolesFit := by simp [load, Keyword.topic]
  leadingFits := fun hleading => absurd rfl hleading
  attacksFit := by
    intro roll hroll
    rw [plan_load] at hroll
    cases hroll
  diceFit := by
    rw [plan_load]
    exact Nat.zero_le _

end Layout

theorem Command.parse_load {name : Text} (hname : Names.isName name = true)
    (hquiet : Quiet name []) (hsettled : ∀ character ∈ name, Text.Settled character) :
    parse ("load ".toList ++ name) = .ok ⟨Plan.empty, ⟨none, some name, none⟩, []⟩ := by
  have hblanks : Text.withoutBlanks ("load ".toList ++ name) = "load".toList ++ name := by
    have hself : Text.withoutBlanks name = name :=
      Text.withoutBlanks_eq_self fun character hmem => (hsettled character hmem).unreserved.1
    have hword : Text.withoutBlanks "load ".toList = "load".toList := by decide
    rw [Text.withoutBlanks_append, hself, hword]
  have hnormal : normalize ("load ".toList ++ name) = "load".toList ++ name := by
    rw [← hblanks]
    apply normalize_eq_withoutBlanks
    intro character hmem
    rw [hblanks] at hmem
    rcases List.mem_append.1 hmem with hword | hletter
    · have hkeyword : character ∈ (Keyword.name .load).word := hword
      exact Keyword.settled_of_mem_word hkeyword
    · exact hsettled character hletter
  rw [parse, hnormal, ofNormal_eq_ok_iff, Layout.ofText_load hquiet, Layout.plan_load]
  exact ⟨by simp, Layout.isCommand_load hname, rfl⟩

namespace Session

variable {σ : Type}

/-- A typed command stands for itself, or for what a saved text reads as with its label behind. -/
theorem expand_cases {session : Session σ} {typed expanded : Command}
    (hok : session.expand typed = .ok expanded) :
    (typed.names.load = none ∧ expanded = typed) ∨
      ∃ name saved again, typed.names.load = some name ∧
        session.notebook.load? name = some saved ∧
        Command.parse (saved ++ ' ' :: typed.label) = .ok again ∧
        expanded = { again with names := typed.names } := by
  rw [expand] at hok
  split at hok
  · next hload => exact .inl ⟨hload, (Except.ok.inj hok).symm⟩
  · next name hload =>
    split at hok
    · cases hok
    · next saved hsaved =>
      split at hok
      · cases hok
      · next again hparse =>
        exact .inr ⟨name, saved, again, hload, hsaved, hparse, (Except.ok.inj hok).symm⟩

theorem names_of_expand {session : Session σ} {typed expanded : Command}
    (hok : session.expand typed = .ok expanded) : expanded.names = typed.names := by
  rcases expand_cases hok with ⟨-, rfl⟩ | ⟨name, saved, again, -, -, -, rfl⟩
  · rfl
  · rfl

/-- What is read is typed and stands for something, and it has a roll if it is to be saved. -/
theorem read_cases {session : Session σ} {input : Text} {command : Command}
    (hok : session.read input = .ok command) :
    ∃ typed, Command.parse input = .ok typed ∧ session.expand typed = .ok command ∧
      ∀ name, command.names.save = some name → command.hasRoll = true := by
  rw [read] at hok
  split at hok
  · cases hok
  · next typed hparse =>
    split at hok
    · cases hok
    · next expanded hexpand =>
      split at hok
      · next hnone =>
        obtain rfl := Except.ok.inj hok
        refine ⟨typed, hparse, hexpand, ?_⟩
        intro name hsave
        rw [hnone] at hsave
        cases hsave
      · split at hok
        · next hroll =>
          obtain rfl := Except.ok.inj hok
          exact ⟨typed, hparse, hexpand, fun _ _ => hroll⟩
        · cases hok

/-- An input without a name to load stands for the command that it reads as. -/
theorem parse_of_read {session : Session σ} {input : Text} {command : Command}
    (hok : session.read input = .ok command) (hload : command.names.load = none) :
    Command.parse input = .ok command := by
  obtain ⟨typed, hparse, hexpand, -⟩ := read_cases hok
  have hnames := names_of_expand hexpand
  rcases expand_cases hexpand with ⟨-, rfl⟩ | ⟨name, saved, again, hname, -, -, -⟩
  · exact hparse
  · rw [hnames, hname] at hload
    cases hload

theorem hasRoll_of_read {session : Session σ} {input name : Text} {command : Command}
    (hok : session.read input = .ok command) (hsave : command.names.save = some name) :
    command.hasRoll = true := by
  obtain ⟨typed, -, -, hroll⟩ := read_cases hok
  exact hroll name hsave

theorem load?_keepNotes (session : Session σ) {command : Command} {name : Text}
    (hsave : command.names.save = some name) :
    (session.keepNotes command).notebook.load? name = some command.label := by
  simp only [keepNotes, hsave, Notebook.load?_save, if_true]

/-- Executing a command with a name to save leaves its label under the name. -/
theorem execute_saves {session : Session σ} {roller : Roller σ} {input name : Text}
    {outcome : Outcome} (hok : (session.execute roller input).result = .ok outcome)
    (hsave : outcome.command.names.save = some name) :
    session.read input = .ok outcome.command ∧
      (session.execute roller input).session.notebook.load? name = some outcome.command.label := by
  rw [execute] at hok ⊢
  cases hread : session.read input with
  | error cause => simp [hread] at hok
  | ok command =>
      simp only [hread] at hok ⊢
      by_cases hroll : command.hasRoll = true
      · simp only [hroll, if_true] at hok ⊢
        split at hok
        · cases hok
        · next resolution rolled requests hrolled =>
          cases hok
          exact ⟨rfl, rolled.load?_keepNotes hsave⟩
      · simp only [hroll] at hok ⊢
        cases hok
        exact ⟨rfl, session.load?_keepNotes hsave⟩

/-- Whoever loads a name alone gets what the entry of the name reads as. -/
theorem read_load {session : Session σ} {name saved : Text} (hname : Names.isName name = true)
    (hquiet : Quiet name []) (hsettled : ∀ character ∈ name, Text.Settled character)
    (hsaved : session.notebook.load? name = some saved) (replayed : Command) :
    session.read ("load ".toList ++ name) = .ok replayed ↔
      ∃ again, Command.parse (saved ++ [' ']) = .ok again ∧
        replayed = { again with names := ⟨none, some name, none⟩ } := by
  have hparse := Command.parse_load hname hquiet hsettled
  simp only [read, hparse, expand, hsaved]
  cases Command.parse (saved ++ [' ']) with
  | error cause => simp
  | ok again => simp [eq_comm]

/-- Loading a name, when its entry is as an executed command has left it, replays that command
exactly when the command's label makes no `load`: when nothing that ends in `loa` was kept from a
keyword of damage only by the names between them. -/
theorem load_replays_iff {τ : Type} {session : Session σ} {roller : Roller σ} {input name : Text}
    {outcome : Outcome} {later : Session τ}
    (hok : (session.execute roller input).result = .ok outcome)
    (hsave : outcome.command.names.save = some name) (hload : outcome.command.names.load = none)
    (huntouched : later.notebook.load? name =
      (session.execute roller input).session.notebook.load? name) :
    (∃ replayed, later.read ("load ".toList ++ name) = .ok replayed ∧
        replayed.plan = outcome.command.plan ∧ replayed.label = outcome.command.label) ↔
      ¬(Layout.ofText (normalize input)).JoinsLoad := by
  obtain ⟨hread, hsaved⟩ := execute_saves hok hsave
  have hparse := parse_of_read hread hload
  have hroll := hasRoll_of_read hread hsave
  obtain ⟨hname, hquiet, hsettled⟩ :=
    Command.get?_of_parse hparse (show outcome.command.names.get? .save = some name from hsave)
  rw [hsaved] at huntouched
  have hblank : Text.withoutBlanks (outcome.command.label ++ [' ']) =
      Text.withoutBlanks outcome.command.label := by
    have hspace : Text.withoutBlanks [' '] = [] := by decide
    rw [Text.withoutBlanks_append, hspace, List.append_nil]
  rw [← Command.parse_label_iff hparse hroll hblank]
  constructor
  · rintro ⟨replayed, hreplayed, hplan, hlabel⟩
    obtain ⟨again, hagain, rfl⟩ := (read_load hname hquiet hsettled huntouched _).1 hreplayed
    exact ⟨again, hagain, hplan, hlabel⟩
  · rintro ⟨again, hagain, hplan, hlabel⟩
    refine ⟨_, (read_load hname hquiet hsettled huntouched _).2 ⟨again, hagain, rfl⟩, ?_, ?_⟩
    · exact hplan
    · exact hlabel

theorem load_replays_swing :
    let session := Session.new "tester".toList (ScriptedDice.always 10) (.sorted .empty) fun _ => 0
    let step := session.execute ScriptedDice.roller "1n save swing dmg 5".toList
    ∃ outcome, step.result = .ok outcome ∧ ∃ replayed,
      step.session.read "load swing".toList = .ok replayed ∧
        replayed.plan = outcome.command.plan ∧ replayed.label = outcome.command.label := by
  intro session step
  have hok : step.result = .ok ⟨⟨⟨some ⟨1, .normal, [], []⟩, none, some [⟨.plus, .flat 5, []⟩],
      none, ⟨[], [], []⟩⟩, ⟨some "swing".toList, none, none⟩, "1n dmg 5".toList⟩,
      some ⟨some [⟨true, false, 10, [10]⟩], some [.hit [⟨5, []⟩]], 5, none⟩,
      some "swing".toList, none, none⟩ := by
    decide +kernel
  have happart : ¬(Layout.ofText (normalize "1n save swing dmg 5".toList)).JoinsLoad := by
    decide +kernel
  exact ⟨_, hok, (load_replays_iff hok rfl rfl rfl).2 happart⟩

/-- The color `loa` meets the keyword `dmg` in the label, and the damage is lost. -/
theorem load_loses_damage :
    let session := Session.new "tester".toList (ScriptedDice.always 10) (.sorted .empty) fun _ => 0
    let step := session.execute ScriptedDice.roller "1n loa save n dmg 5".toList
    ∃ outcome replayed, step.result = .ok outcome ∧
      outcome.command.names = ⟨some "n".toList, none, none⟩ ∧
      step.session.read "load n".toList = .ok replayed ∧
      outcome.command.plan.damage = some [⟨.plus, .flat 5, []⟩] ∧ replayed.plan.damage = none := by
  intro session step
  have hok : step.result = .ok ⟨⟨⟨some ⟨1, .normal, "loa".toList, []⟩, none,
      some [⟨.plus, .flat 5, []⟩], none, ⟨[], [], []⟩⟩, ⟨some "n".toList, none, none⟩,
      "1nloa dmg 5".toList⟩,
      some ⟨some [⟨true, false, 10, [10]⟩], some [.hit [⟨5, []⟩]], 5, none⟩,
      some "n".toList, none, none⟩ := by
    decide +kernel
  have hread : step.session.read "load n".toList = .ok ⟨⟨some ⟨1, .normal, [], []⟩, none, none,
      none, ⟨[], [], []⟩⟩, ⟨none, some "n".toList, none⟩, "1n".toList⟩ := by
    decide +kernel
  exact ⟨_, _, hok, rfl, hread, rfl, rfl⟩

end Session

end Skirmish
