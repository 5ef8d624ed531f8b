import Skirmish.Dice.Scripted
import Skirmish.Proofs.Session.Notes

/-!
# Sharing and playing

Who plays, what the history keeps, whether results are hidden and whether anybody listens decide
what others see of a session and nothing else.  Two sessions that agree on the dice, the saved texts
and the terms of rolling are played alike, whatever each of them takes in, hides or cancels in
between.
-/

namespace Skirmish

variable {σ : Type}

namespace Move

/-- Whether a move is played: a command, or what others write into the notebook. -/
def isPlayed : Move → Bool
  | .execute _ | .save _ _ | .delete _ => true
  | .ingest _ | .setHidden _ | .cancel => false

end Move

/-- What is seen of a move apart from sharing: its answer, its requests, and the text that each name
then has in the notebook. -/
structure Play where
  answer : Answer
  requests : List Request
  entries : Text → Option Text

/-- The part of what is seen of a move that has nothing to do with sharing. -/
def Sight.play (sight : Sight) : Play :=
  ⟨sight.answer, sight.requests, sight.notebook.load?⟩

namespace Session

/-- What is seen of the moves of a run that are played. -/
def plays (session : Session σ) (roller : Roller σ) : List Move → List Play
  | [] => []
  | move :: moves =>
      let moved := session.move roller move
      if move.isPlayed then moved.1.play :: moved.2.plays roller moves
      else moved.2.plays roller moves

/-- Whether two sessions agree on all that playing goes by.  Their players, their histories and
limits, what they hide and whom they have to publish to may differ, and so may their signals. -/
structure PlayedAlike (left right : Session σ) : Prop where
  dice : left.dice = right.dice
  entries : ∀ name, left.notebook.load? name = right.notebook.load? name
  /-- The given seed, or what the rolls draw. -/
  seeding : left.seeding = right.seeding
  rolls : left.rolls = right.rolls
  wait : left.wait = right.wait

theorem PlayedAlike.refl (session : Session σ) : PlayedAlike session session :=
  ⟨rfl, fun _ => rfl, rfl, rfl, rfl⟩

variable {left right : Session σ}

theorem PlayedAlike.read (halike : PlayedAlike left right) (input : Text) :
    left.read input = right.read input := by
  have hnotebook : left.read input = Session.read { right with notebook := left.notebook } input :=
    rfl
  rw [hnotebook]
  exact read_congr fun _ name _ _ => halike.entries name

theorem PlayedAlike.outcome (halike : PlayedAlike left right) (command : Command)
    (resolution : Option Resolution) :
    left.outcome command resolution = right.outcome command resolution := by
  have hcontains : left.notebook.contains = right.notebook.contains := by
    funext name
    rw [Notebook.contains, Notebook.contains, halike.entries]
  rw [Session.outcome, Session.outcome, hcontains]

theorem PlayedAlike.keepNotes (halike : PlayedAlike left right) (command : Command) :
    PlayedAlike (left.keepNotes command) (right.keepNotes command) := by
  have hentries : ∀ name, (left.keepNotes command).notebook.load? name =
      (right.keepNotes command).notebook.load? name := by
    intro name
    rw [entries_keepNotes, entries_keepNotes, halike.entries]
  rw [keepNotes_eq (rfl : left.notebook = left.notebook),
    keepNotes_eq (rfl : right.notebook = right.notebook)]
  exact ⟨halike.dice, hentries, halike.seeding, halike.rolls, halike.wait⟩

/-- The next roll of both is the same and leaves them alike. -/
theorem PlayedAlike.roll (halike : PlayedAlike left right) (roller : Roller σ) (plan : Plan) :
    (left.roll roller plan).1 = (right.roll roller plan).1 ∧
      (left.roll roller plan).2.2 = (right.roll roller plan).2.2 ∧
      PlayedAlike (left.roll roller plan).2.1 (right.roll roller plan).2.1 := by
  have hcontrol : left.control = right.control := by
    rw [control, control, halike.seeding, halike.rolls, halike.wait]
  obtain ⟨hresult, hdice, hrequests⟩ := roll_alike left right halike.dice hcontrol roller plan
  exact ⟨hresult, hrequests, hdice, halike.entries, halike.seeding,
    congrArg (· + 1) halike.rolls, halike.wait⟩

/-- A command comes to the same in both and leaves them alike. -/
theorem PlayedAlike.execute (halike : PlayedAlike left right) (roller : Roller σ) (input : Text) :
    (left.execute roller input).result = (right.execute roller input).result ∧
      (left.execute roller input).requests = (right.execute roller input).requests ∧
      PlayedAlike (left.execute roller input).session (right.execute roller input).session := by
  have hread := halike.read input
  cases hcommand : right.read input with
  | error cause =>
      rw [execute_of_error hcommand, execute_of_error (hread.trans hcommand)]
      exact ⟨rfl, rfl, halike⟩
  | ok command =>
      cases hroll : command.hasRoll with
      | false =>
          rw [execute_of_notes hcommand hroll, execute_of_notes (hread.trans hcommand) hroll]
          exact ⟨congrArg Except.ok (halike.outcome command none), rfl, halike.keepNotes command⟩
      | true =>
          obtain ⟨hresult, hrequests, hrolled⟩ := halike.roll roller command.plan
          rw [execute_of_roll hcommand hroll, execute_of_roll (hread.trans hcommand) hroll]
          simp only [hresult, hrequests]
          cases (right.roll roller command.plan).1 with
          | error cause => exact ⟨rfl, rfl, hrolled⟩
          | ok resolution =>
              -- What is recorded goes into the history, which has no part in playing.
              obtain ⟨hdice, hentries, hseeding, hrolls, hwait⟩ := hrolled.keepNotes command
              exact ⟨congrArg Except.ok (halike.outcome command (some resolution)), rfl,
                hdice, hentries, hseeding, hrolls, hwait⟩

/-- A move that is played is seen the same in both and leaves them alike. -/
theorem PlayedAlike.move (halike : PlayedAlike left right) (roller : Roller σ) {move : Move}
    (hplayed : move.isPlayed = true) :
    (left.move roller move).1.play = (right.move roller move).1.play ∧
      PlayedAlike (left.move roller move).2 (right.move roller move).2 := by
  cases move with
  | execute input =>
      obtain ⟨hresult, hrequests, hafter⟩ := halike.execute roller input
      have hentries := funext hafter.entries
      exact ⟨by simp only [Session.move, sight, Sight.play, hresult, hrequests, hentries], hafter⟩
  | ingest event => cases hplayed
  | setHidden hidden => cases hplayed
  | cancel => cases hplayed
  | save name command =>
      have hentries : ∀ other, (left.notebook.save name command).load? other =
          (right.notebook.save name command).load? other := by
        intro other
        rw [Notebook.load?_save, Notebook.load?_save, halike.entries]
      exact ⟨by simp only [Session.move, sight, Sight.play, funext hentries],
        halike.dice, hentries, halike.seeding, halike.rolls, halike.wait⟩
  | delete name =>
      have hentries : ∀ other, (left.notebook.delete name).load? other =
          (right.notebook.delete name).load? other := by
        intro other
        rw [Notebook.load?_delete, Notebook.load?_delete, halike.entries]
      exact ⟨by simp only [Session.move, sight, Sight.play, funext hentries],
        halike.dice, hentries, halike.seeding, halike.rolls, halike.wait⟩

/-- A move that is not played can be made in one of the two alone. -/
theorem PlayedAlike.idle (halike : PlayedAlike left right) (roller : Roller σ) {move : Move}
    (hidle : move.isPlayed = false) : PlayedAlike (left.move roller move).2 right := by
  obtain ⟨hdice, hentries, hseeding, hrolls, hwait⟩ := halike
  cases move with
  | execute input => cases hidle
  | ingest event =>
      simp only [Session.move, ingest]
      split
      · exact ⟨hdice, hentries, hseeding, hrolls, hwait⟩
      · exact ⟨hdice, hentries, hseeding, hrolls, hwait⟩
  | setHidden hidden => exact ⟨hdice, hentries, hseeding, hrolls, hwait⟩
  | cancel => exact ⟨hdice, hentries, hseeding, hrolls, hwait⟩
  | save name command => cases hidle
  | delete name => cases hidle

/-- Leaving out the moves that are not played changes nothing about those that are. -/
theorem plays_filter (halike : PlayedAlike left right) (roller : Roller σ) (moves : List Move) :
    left.plays roller moves = right.plays roller (moves.filter Move.isPlayed) := by
  induction moves generalizing left right with
  | nil => rfl
  | cons move moves ih =>
      cases hplayed : move.isPlayed with
      | false =>
          have hrest := ih (halike.idle roller hplayed)
          simpa only [plays, hplayed, List.filter_cons, Bool.false_eq_true, if_false] using hrest
      | true =>
          obtain ⟨hseen, hmoved⟩ := halike.move roller hplayed
          have hrest := ih hmoved
          simp only [plays, hplayed, List.filter_cons, if_true, hseen, hrest]

/-- Sessions that agree on what playing goes by answer and ask the same for the same inputs and hold
the same texts after each, whatever is shared in between. -/
theorem plays_of_playedAlike {leftMoves rightMoves : List Move} (halike : PlayedAlike left right)
    (hplayed : leftMoves.filter Move.isPlayed = rightMoves.filter Move.isPlayed)
    (roller : Roller σ) : left.plays roller leftMoves = right.plays roller rightMoves :=
  calc
    left.plays roller leftMoves = right.plays roller (leftMoves.filter Move.isPlayed) :=
      plays_filter halike roller leftMoves
    _ = right.plays roller (rightMoves.filter Move.isPlayed) := by rw [hplayed]
    _ = right.plays roller rightMoves := (plays_filter (.refl right) roller rightMoves).symm

/-- Another player with another kind of notebook, a history of one entry and hidden results, who is
told of events and raises signals at other times.  The third command fails for want of dice. -/
theorem plays_of_playedAlike_hidden :
    let event : Event := ⟨.foreign 7, "guest".toList, "dmg 4".toList, none, none, none, false⟩
    let dice := ScriptedDice.ofValues [14, 3, 20, 5] none
    let left := { Session.new "one".toList dice (.sorted SortedNotebook.empty) fun _ => 0 with
      seeding := .given 7, sharing := true }
    let right := { Session.new "other".toList dice (.rows RowNotebook.empty) fun _ => 1 with
      seeding := .given 7, hidden := true, history := .empty 1 }
    let save := Move.execute "1n dmg 1d6 save a".toList
    let load := Move.execute "vs 30 load a delete a".toList
    let fail := Move.execute "2n".toList
    let leftMoves := [.ingest event, save, .cancel, load, .setHidden true, fail]
    let rightMoves := [save, .setHidden false, load, .cancel, .cancel, fail, .ingest event]
    left.plays ScriptedDice.roller leftMoves = right.plays ScriptedDice.roller rightMoves ∧
      (left.plays ScriptedDice.roller leftMoves).map (fun play => play.requests.length) =
        [2, 2, 1] := by
  intro event dice left right save load fail leftMoves rightMoves
  have halike : left.PlayedAlike right := ⟨rfl, fun _ => rfl, rfl, rfl, rfl⟩
  have hplayed : leftMoves.filter Move.isPlayed = rightMoves.filter Move.isPlayed := rfl
  have hrequests : (left.plays ScriptedDice.roller leftMoves).map
      (fun play => play.requests.length) = [2, 2, 1] := by
    decide +kernel
  exact ⟨plays_of_playedAlike halike hplayed ScriptedDice.roller, hrequests⟩

end Session

end Skirmish
