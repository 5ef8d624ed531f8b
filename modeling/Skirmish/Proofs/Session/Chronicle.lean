import Mathlib.Data.List.Induction
import Skirmish.Dice.Scripted
import Skirmish.Proofs.Session.Run

/-!
# What a session records and publishes

A move adds at most one entry to the history: a command that was resolved adds the event of its
resolution, and an event from elsewhere adds itself when it is taken in.  Over a whole run the
history is the latest of these entries, no two of them under the same identity, and what was
published are the entries of the session's own commands from the times when results were shown.
-/

namespace Skirmish

variable {σ : Type}

namespace History

/-- The identities of the events that are kept. -/
def ids (history : History) : List EventId :=
  history.entries.map fun entry => entry.event.id

theorem contains_iff (history : History) (id : EventId) :
    history.contains id = true ↔ id ∈ history.ids := by
  simp [contains, ids]

@[simp]
theorem ids_push (history : History) (entry : HistoryEntry) :
    (history.push entry).ids = (entry.event.id :: history.ids).take history.limit := by
  simp [ids, push, List.map_take]

/-- An identity that is new to the history keeps its identities distinct. -/
theorem nodup_ids_push {history : History} {entry : HistoryEntry} (hdistinct : history.ids.Nodup)
    (hnew : entry.event.id ∉ history.ids) : (history.push entry).ids.Nodup := by
  rw [ids_push]
  exact (List.nodup_cons.2 ⟨hnew, hdistinct⟩).sublist (List.take_sublist _ _)

/-- What is dropped on the way would also be dropped at the end. -/
theorem foldl_push_empty (limit : Nat) (entries : List HistoryEntry) :
    entries.foldl push (empty limit) = ⟨limit, entries.reverse.take limit⟩ := by
  induction entries using List.reverseRecOn with
  | nil => simp [empty]
  | append_singleton entries entry ih =>
      have hdropped : (entry :: entries.reverse.take limit).take limit =
          (entry :: entries.reverse).take limit := by
        cases limit with
        | zero => rfl
        | succ limit => simp [List.take_take]
      calc (entries ++ [entry]).foldl push (empty limit)
          = (entries.foldl push (empty limit)).push entry := by simp
        _ = ⟨limit, (entry :: entries.reverse.take limit).take limit⟩ := by rw [ih, push]
        _ = ⟨limit, (entries ++ [entry]).reverse.take limit⟩ := by simp [hdropped]

end History

namespace Move

/-- Whether results are hidden after a move. -/
def hides (hidden : Bool) : Move → Bool
  | .setHidden hidden => hidden
  | _ => hidden

end Move

namespace Session

/-- The entry that a move adds to the history, told from the answer to the move. -/
def contribution (session : Session σ) (roller : Roller σ) : Move → Option HistoryEntry
  | .execute input =>
      match (session.execute roller input).result with
      | .error _ => none
      | .ok outcome => outcome.resolution.map fun resolution =>
          ⟨Event.ofResolution (.own session.rolls) session.player outcome.command.label resolution
            roller.physical, true⟩
  | .ingest event => if (session.ingest event).1 then some ⟨event, false⟩ else none
  | _ => none

/-- The event that others are to see of an entry: one that was rolled here while there was somebody
to publish to and results were not hidden. -/
def shown (session : Session σ) (entry : Option HistoryEntry) : Option Event :=
  if session.sharing && !session.hidden then (entry.filter (·.isLocal)).map (·.event) else none

/-- The entries that the moves of a run add, oldest first. -/
def accepted (session : Session σ) (roller : Roller σ) : List Move → List HistoryEntry
  | [] => []
  | move :: moves =>
      (session.contribution roller move).toList ++
        (session.move roller move).2.accepted roller moves

/-- The events of a run that others are to see, in order. -/
def shared (session : Session σ) (roller : Roller σ) : List Move → List Event
  | [] => []
  | move :: moves =>
      (session.shown (session.contribution roller move)).toList ++
        (session.move roller move).2.shared roller moves

/-- Whether no command of a run records its event under an identity that came from elsewhere
before. -/
def FreshIds (session : Session σ) (roller : Roller σ) (moves : List Move) : Prop :=
  ∀ before move after entry, moves = before ++ move :: after →
    (session.run roller before).2.contribution roller move = some entry → entry.isLocal = true →
    ∀ event, .ingest event ∈ before → event.id ≠ entry.event.id

/-- Whether a run that begins without entries has recorded and published what it should. -/
structure Chronicled (session : Session σ) (roller : Roller σ) (limit : Nat)
    (moves : List Move) : Prop where
  /-- The history has the latest entries, newest first, as many as the limit allows. -/
  entries : (session.run roller moves).2.history =
    ⟨limit, (session.accepted roller moves).reverse.take limit⟩
  distinct : (session.run roller moves).2.history.ids.Nodup
  /-- An event is refused when its identity is among those that are kept. -/
  refused : ∀ event, ((session.run roller moves).2.ingest event).1 = false ↔
    event.id ∈ (session.run roller moves).2.history.ids
  unchanged : ∀ event, ((session.run roller moves).2.ingest event).1 = false →
    ((session.run roller moves).2.ingest event).2 = (session.run roller moves).2
  published : (session.run roller moves).1.filterMap Sight.published = session.shared roller moves
  /-- Results are hidden as it was last said. -/
  hidden : (session.run roller moves).2.hidden = moves.foldl Move.hides session.hidden
  sharing : (session.run roller moves).2.sharing = session.sharing

/-- What a session is after a move that adds an entry or none. -/
structure Adds (before : Session σ) (entry : Option HistoryEntry) (after : Session σ) : Prop where
  history : after.history = entry.toList.foldl History.push before.history
  sharing : after.sharing = before.sharing
  rolls : before.rolls ≤ after.rolls
  /-- An entry that was rolled here has a new number, and any other one is not kept yet. -/
  id : ∀ added, entry = some added →
    (added.isLocal = true ∧ added.event.id = .own before.rolls ∧ before.rolls < after.rolls) ∨
      (added.isLocal = false ∧ added.event.id ∉ before.history.ids)

@[simp]
theorem shown_none (session : Session σ) : session.shown none = none := by
  rw [shown]
  split <;> rfl

@[simp]
theorem shown_foreign (session : Session σ) (event : Event) :
    session.shown (some ⟨event, false⟩) = none := by
  rw [shown]
  split <;> rfl

theorem adds_none {before after : Session σ} (hhistory : after.history = before.history)
    (hsharing : after.sharing = before.sharing) (hrolls : before.rolls ≤ after.rolls) :
    before.Adds none after :=
  ⟨hhistory, hsharing, hrolls, fun _ hnone => nomatch hnone⟩

/-- A command either adds nothing and publishes nothing, or it has rolled and adds its event. -/
theorem execute_adds (session : Session σ) (roller : Roller σ) (input : Text) :
    let step := session.execute roller input
    let entry := session.contribution roller (.execute input)
    session.Adds entry step.session ∧ step.published = session.shown entry ∧
      step.session.hidden = session.hidden := by
  have hexecutes := session.executes roller input
  simp only [contribution]
  generalize session.execute roller input = step at hexecutes ⊢
  cases hexecutes with
  | unread hread => exact ⟨adds_none rfl rfl (Nat.le_refl _), session.shown_none.symm, rfl⟩
  | @noted command hread hnotes =>
      rw [keepNotes_eq rfl]
      exact ⟨adds_none rfl rfl (Nat.le_refl _), session.shown_none.symm, rfl⟩
  | unresolved hread hroll hfailed =>
      exact ⟨adds_none rfl rfl (Nat.le_succ _), session.shown_none.symm, rfl⟩
  | resolved hread hroll hresolved hevent =>
      subst hevent
      refine ⟨⟨rfl, rfl, Nat.le_succ _, ?_⟩, rfl, rfl⟩
      rintro added ⟨⟩
      exact .inl ⟨rfl, rfl, Nat.lt_succ_self _⟩

theorem ingest_of_mem {session : Session σ} {event : Event}
    (hkept : event.id ∈ session.history.ids) : session.ingest event = (false, session) := by
  rw [ingest, if_pos ((session.history.contains_iff event.id).2 hkept)]

theorem ingest_of_not_mem {session : Session σ} {event : Event}
    (hnew : event.id ∉ session.history.ids) : session.ingest event =
      (true, { session with history := session.history.push ⟨event, false⟩ }) := by
  rw [ingest, if_neg (mt (session.history.contains_iff event.id).1 hnew)]

theorem ingest_eq_false_iff (session : Session σ) (event : Event) :
    (session.ingest event).1 = false ↔ event.id ∈ session.history.ids := by
  constructor
  · intro hrefused
    by_contra hnew
    rw [ingest_of_not_mem hnew] at hrefused
    cases hrefused
  · intro hkept
    rw [ingest_of_mem hkept]

/-- An event that is refused changes nothing; one that is taken in was not there. -/
theorem ingest_adds (session : Session σ) (event : Event) (roller : Roller σ) :
    session.Adds (session.contribution roller (.ingest event)) (session.ingest event).2 ∧
      session.shown (session.contribution roller (.ingest event)) = none ∧
      (session.ingest event).2.hidden = session.hidden := by
  rw [contribution]
  by_cases hkept : event.id ∈ session.history.ids
  · rw [ingest_of_mem hkept]
    exact ⟨adds_none rfl rfl (Nat.le_refl _), session.shown_none, rfl⟩
  · rw [ingest_of_not_mem hkept]
    refine ⟨⟨rfl, rfl, Nat.le_refl _, ?_⟩, session.shown_foreign event, rfl⟩
    rintro added ⟨⟩
    exact .inr ⟨rfl, hkept⟩

/-- What one move does to the history, and what others see of it. -/
theorem move_adds (session : Session σ) (roller : Roller σ) (move : Move) :
    let entry := session.contribution roller move
    session.Adds entry (session.move roller move).2 ∧
      (session.move roller move).1.published = session.shown entry ∧
      (session.move roller move).2.hidden = move.hides session.hidden := by
  have hquiet : ∀ after : Session σ, after.history = session.history →
      after.sharing = session.sharing → after.rolls = session.rolls →
      session.Adds none after ∧ none = session.shown none := by
    intro after hhistory hsharing hrolls
    exact ⟨adds_none hhistory hsharing (Nat.le_of_eq hrolls.symm), session.shown_none.symm⟩
  cases move with
  | execute input => exact session.execute_adds roller input
  | ingest event =>
      -- An event from elsewhere is not handed on.
      obtain ⟨hadds, hshown, hhidden⟩ := session.ingest_adds event roller
      exact ⟨hadds, hshown.symm, hhidden⟩
  | setHidden hidden =>
      obtain ⟨hadds, hshown⟩ := hquiet (session.setHidden hidden) rfl rfl rfl
      exact ⟨hadds, hshown, rfl⟩
  | cancel =>
      obtain ⟨hadds, hshown⟩ := hquiet session.cancel rfl rfl rfl
      exact ⟨hadds, hshown, rfl⟩
  | save name command =>
      obtain ⟨hadds, hshown⟩ :=
        hquiet { session with notebook := session.notebook.save name command } rfl rfl rfl
      exact ⟨hadds, hshown, rfl⟩
  | delete name =>
      obtain ⟨hadds, hshown⟩ :=
        hquiet { session with notebook := session.notebook.delete name } rfl rfl rfl
      exact ⟨hadds, hshown, rfl⟩

/-- Only an event that was taken in is not the session's own. -/
theorem ingest_of_contribution {session : Session σ} {roller : Roller σ} {move : Move}
    {entry : HistoryEntry} (hentry : session.contribution roller move = some entry)
    (hforeign : entry.isLocal = false) : move = .ingest entry.event := by
  cases move with
  | execute input =>
      rw [contribution] at hentry
      split at hentry
      · cases hentry
      · obtain ⟨resolution, -, rfl⟩ := Option.map_eq_some_iff.1 hentry
        cases hforeign
  | ingest event =>
      rw [contribution] at hentry
      split at hentry
      · cases hentry
        rfl
      · cases hentry
  | setHidden hidden => cases hentry
  | cancel => cases hentry
  | save name command => cases hentry
  | delete name => cases hentry

/-- The history after a run has been given all that its moves have added. -/
theorem history_run (session : Session σ) (roller : Roller σ) (moves : List Move) :
    (session.run roller moves).2.history =
      (session.accepted roller moves).foldl History.push session.history := by
  induction moves generalizing session with
  | nil => rfl
  | cons move moves ih =>
      obtain ⟨hadds, -, -⟩ := session.move_adds roller move
      simp only [run, accepted, List.foldl_append, ← hadds.history]
      exact ih (session.move roller move).2

theorem published_run (session : Session σ) (roller : Roller σ) (moves : List Move) :
    (session.run roller moves).1.filterMap Sight.published = session.shared roller moves := by
  induction moves generalizing session with
  | nil => rfl
  | cons move moves ih =>
      obtain ⟨-, hpublished, -⟩ := session.move_adds roller move
      simp only [run, shared, List.filterMap_cons, ← hpublished, ih]
      cases (session.move roller move).1.published <;> rfl

theorem visibility_run (session : Session σ) (roller : Roller σ) (moves : List Move) :
    (session.run roller moves).2.hidden = moves.foldl Move.hides session.hidden ∧
      (session.run roller moves).2.sharing = session.sharing := by
  induction moves generalizing session with
  | nil => exact ⟨rfl, rfl⟩
  | cons move moves ih =>
      obtain ⟨hadds, -, hhidden⟩ := session.move_adds roller move
      obtain ⟨hrest, hsharing⟩ := ih (session.move roller move).2
      exact ⟨by rw [run, List.foldl_cons, ← hhidden, hrest], hsharing.trans hadds.sharing⟩

theorem run_concat (session : Session σ) (roller : Roller σ) (moves : List Move) (move : Move) :
    (session.run roller (moves ++ [move])).2 =
      ((session.run roller moves).2.move roller move).2 := by
  induction moves generalizing session with
  | nil => rfl
  | cons first moves ih => exact ih (session.move roller first).2

theorem FreshIds.init {session : Session σ} {roller : Roller σ} {moves : List Move} {move : Move}
    (hfresh : session.FreshIds roller (moves ++ [move])) : session.FreshIds roller moves := by
  rintro before next after entry rfl hentry hlocal event hmem
  exact hfresh before next (after ++ [move]) entry (by simp) hentry hlocal event hmem

/-- Events from elsewhere that never have a number of the session leave its numbers fresh. -/
theorem freshIds_of_foreign (session : Session σ) (roller : Roller σ) {moves : List Move}
    (hforeign : ∀ event serial, .ingest event ∈ moves → event.id ≠ .own serial) :
    session.FreshIds roller moves := by
  rintro before move after entry rfl hentry hlocal event hmem
  obtain ⟨hadds, -, -⟩ := (session.run roller before).2.move_adds roller move
  rcases hadds.id entry hentry with ⟨-, hown, -⟩ | ⟨hforeign, -⟩
  · rw [hown]
    exact hforeign event _ (List.mem_append_left _ hmem)
  · rw [hlocal] at hforeign
    cases hforeign

/-- What is kept is distinct, and every identity came from elsewhere or is a number that the session
has given out. -/
theorem ids_run {session : Session σ} {roller : Roller σ} {moves : List Move}
    (hnone : session.history.entries = []) (hfresh : session.FreshIds roller moves) :
    (session.run roller moves).2.history.ids.Nodup ∧
      ∀ id ∈ (session.run roller moves).2.history.ids,
        (∃ event, .ingest event ∈ moves ∧ event.id = id) ∨
          ∃ serial < (session.run roller moves).2.rolls, id = .own serial := by
  induction moves using List.reverseRecOn with
  | nil => simp [run, History.ids, hnone]
  | append_singleton moves move ih =>
      obtain ⟨hdistinct, hknown⟩ := ih hfresh.init
      have hlast := fun entry => hfresh moves move [] entry rfl
      rw [run_concat]
      generalize (session.run roller moves).2 = before at *
      obtain ⟨hadds, -, -⟩ := before.move_adds roller move
      have hearlier : ∀ id ∈ before.history.ids,
          (∃ event, .ingest event ∈ moves ++ [move] ∧ event.id = id) ∨
            ∃ serial < (before.move roller move).2.rolls, id = .own serial := by
        intro id hmem
        rcases hknown id hmem with ⟨event, hevent, rfl⟩ | ⟨serial, hserial, rfl⟩
        · exact .inl ⟨event, List.mem_append_left _ hevent, rfl⟩
        · exact .inr ⟨serial, Nat.lt_of_lt_of_le hserial hadds.rolls, rfl⟩
      rw [hadds.history]
      cases hentry : before.contribution roller move with
      | none => exact ⟨hdistinct, hearlier⟩
      | some entry =>
          simp only [Option.toList, List.foldl_cons, List.foldl_nil]
          have hnew : entry.event.id ∉ before.history.ids := by
            intro hmem
            rcases hadds.id entry hentry with ⟨hlocal, hown, -⟩ | ⟨-, hnew⟩
            · rcases hknown _ hmem with ⟨event, hevent, hsame⟩ | ⟨serial, hserial, hsame⟩
              · exact hlast entry hentry hlocal event hevent hsame
              · obtain rfl := EventId.own.inj (hown.symm.trans hsame)
                exact Nat.lt_irrefl _ hserial
            · exact hnew hmem
          refine ⟨History.nodup_ids_push hdistinct hnew, ?_⟩
          intro id hmem
          rw [History.ids_push] at hmem
          rcases List.mem_cons.1 (List.mem_of_mem_take hmem) with rfl | hmem
          · rcases hadds.id entry hentry with ⟨-, hown, hrolls⟩ | ⟨hforeign, -⟩
            · exact .inr ⟨before.rolls, hrolls, hown⟩
            · obtain rfl := ingest_of_contribution hentry hforeign
              exact .inl ⟨entry.event, List.mem_append_right _ (List.mem_singleton.2 rfl), rfl⟩
          · exact hearlier id hmem

/-- Over every run that begins without entries, the session records and publishes what its moves
add, as long as the numbers it gives out are not taken from elsewhere. -/
theorem chronicled_of_run {session : Session σ} {roller : Roller σ} {limit : Nat}
    {moves : List Move} (hnew : session.history = .empty limit)
    (hfresh : session.FreshIds roller moves) : session.Chronicled roller limit moves := by
  have hnone : session.history.entries = [] := by rw [hnew, History.empty]
  obtain ⟨hhidden, hsharing⟩ := session.visibility_run roller moves
  constructor
  case entries => rw [history_run, hnew, History.foldl_push_empty]
  case distinct => exact (ids_run hnone hfresh).1
  case refused => exact ingest_eq_false_iff _
  case unchanged =>
    intro event hrefused
    rw [ingest_of_mem ((ingest_eq_false_iff _ event).1 hrefused)]
  case published => exact session.published_run roller moves
  case hidden => exact hhidden
  case sharing => exact hsharing

/-- Room for one entry: an event from elsewhere is refused while it is kept and taken in again when
a hidden roll has driven it out; a command that fails adds nothing. -/
theorem chronicled_of_run_single :
    let event : Event := ⟨.foreign 7, "guest".toList, "dmg 4".toList, none, none, none, false⟩
    let session := { Session.new "tester".toList (ScriptedDice.always 10)
      (.sorted SortedNotebook.empty) fun _ => 0 with sharing := true, history := .empty 1 }
    let moves := [.execute "1n dmg 5".toList, .ingest event, .ingest event, .setHidden true,
      .execute "dmg 3".toList, .ingest event, .execute "1n 1n".toList, .setHidden false,
      .execute "dmg 2".toList]
    session.Chronicled ScriptedDice.roller 1 moves ∧
      (session.accepted ScriptedDice.roller moves).map (·.event.id) =
        [.own 0, .foreign 7, .own 1, .foreign 7, .own 2] ∧
      (session.shared ScriptedDice.roller moves).map (·.id) = [.own 0, .own 2] ∧
      (session.run ScriptedDice.roller moves).2.history.ids = [.own 2] := by
  intro event session moves
  have hfresh : session.FreshIds ScriptedDice.roller moves := by
    apply freshIds_of_foreign
    intro taken serial hmem hown
    have hsame : taken = event := by simpa [moves] using hmem
    subst hsame
    cases hown
  exact ⟨chronicled_of_run rfl hfresh, by decide +kernel, by decide +kernel, by decide +kernel⟩

end Session

end Skirmish
