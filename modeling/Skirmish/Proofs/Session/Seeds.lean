import Mathlib.Data.List.Nodup
import Skirmish.Dice.Scripted
import Skirmish.Proofs.Session.Failure

/-!
# Seeds of a session

A session with a seed hands two seeds to every command that comes to rolling, the first for its
attacks and the one after it for its damage, and counts on in the circle of all seeds.  A failed
command keeps its seeds, and an input that does not come to rolling takes none.  So no seed is used
twice as long as the commands have not gone round the circle.
-/

namespace Skirmish

variable {σ : Type}

/-- The seed for a phase of the roll with a number, the first roll being number zero. -/
def Phase.seed (base : UInt64) (roll : Nat) : Phase → UInt64
  | .attack => .ofNat (base.toNat + 2 * roll)
  | .damage => .ofNat (base.toNat + 2 * roll + 1)

/-- The number of pairs of seeds in the circle of all seeds. -/
def seedPairs : Nat := 9223372036854775808

/-- Equal seeds are for the same phase, and the rolls are whole circles apart. -/
theorem Phase.seed_inj {base : UInt64} {first second : Nat} {one other : Phase}
    (hseed : one.seed base first = other.seed base second) :
    one = other ∧ first % seedPairs = second % seedPairs := by
  have hvalue := congrArg UInt64.toNat hseed
  simp only [seedPairs]
  cases one <;> cases other <;> simp only [seed, UInt64.toNat_ofNat'] at hvalue
  · exact ⟨rfl, by omega⟩
  · omega
  · omega
  · exact ⟨rfl, by omega⟩

/-- Whether requests are those of one roll: at most one for each phase, with the seed for it. -/
structure Request.SeededFor (base : UInt64) (roll : Nat) (requests : List Request) : Prop where
  phases : requests.map Request.phase ∈ [[], [.attack], [.damage], [.attack, .damage]]
  seeds : ∀ request ∈ requests, request.seed = request.phase.seed base roll

namespace Request.SeededFor

variable {base : UInt64} {roll : Nat} {requests : List Request}

theorem nil (base : UInt64) (roll : Nat) : SeededFor base roll [] where
  phases := List.mem_cons_self
  seeds := by simp

/-- The two phases of a roll have different seeds. -/
theorem nodup (hseeded : SeededFor base roll requests) : (requests.map Request.seed).Nodup := by
  have hphases : (requests.map Request.phase).Nodup := by
    have hcases := hseeded.phases
    simp only [List.mem_cons, List.not_mem_nil, or_false] at hcases
    rcases hcases with hcase | hcase | hcase | hcase <;> simp [hcase]
  have hseeds : requests.map Request.seed =
      (requests.map Request.phase).map fun phase => phase.seed base roll := by
    rw [List.map_map]
    exact List.map_congr_left hseeded.seeds
  rw [hseeds]
  apply hphases.map
  intro one other hsame
  exact (Phase.seed_inj hsame).1

end Request.SeededFor

/-- What a plan asks for on the terms of a session is seeded for the next roll. -/
theorem Plan.seededFor_requests {plan : Plan} {base : UInt64} {roll : Nat}
    (ending : Except DiceError (Option (List AttackOutcome))) :
    Request.SeededFor base roll (plan.requests ((Seeding.given base).seed roll) ending) where
  phases := phases_requests ..
  seeds := by
    intro request hmem
    have hattack : Phase.seed base roll .attack = (Seeding.given base).seed roll := by
      rw [Phase.seed, Seeding.seed, UInt64.ofNat_add, UInt64.ofNat_toNat]
    have hdamage : Phase.seed base roll .damage = (Seeding.given base).seed roll + 1 := by
      rw [Phase.seed, Seeding.seed, UInt64.ofNat_add, UInt64.ofNat_add, UInt64.ofNat_toNat]
      rfl
    obtain ⟨-, hmade | ⟨attacks, -, hmade⟩⟩ := mem_requests.1 hmem
    · obtain ⟨attack, -, -, rfl⟩ := mem_attackRequests.1 hmade
      rw [hattack]
    · rw [damageRequests] at hmade
      split at hmade
      · cases hmade
      · rw [(Request.mem_forGroups.1 hmade).2, hdamage]

/-- Whether an answer tells of a command that came to rolling: it was resolved or failed for its
dice. -/
def Answer.isRolled : Answer → Bool
  | .executed (.ok outcome) => outcome.resolution.isSome
  | .executed (.error (.resolve _)) => true
  | .executed (.error _) | .ingested _ | .nothing => false

namespace Session

/-- What is seen of the commands of a run that come to rolling. -/
def rolled (session : Session σ) (roller : Roller σ) (moves : List Move) : List Sight :=
  (session.run roller moves).1.filter fun sight => sight.answer.isRolled

/-- Whether a move takes seeds exactly when it is a command that comes to rolling. -/
structure TakesSeeds (session : Session σ) (base : UInt64) (moved : Sight × Session σ) :
    Prop where
  seeded : Request.SeededFor base session.rolls moved.1.requests
  requests : moved.1.answer.isRolled = false → moved.1.requests = []
  rolls : moved.2.rolls = session.rolls + if moved.1.answer.isRolled then 1 else 0
  seeding : moved.2.seeding = .given base

/-- Whether a run takes seeds from a base, two for each command that comes to rolling. -/
structure CountsSeeds (session : Session σ) (base : UInt64) (roller : Roller σ)
    (moves : List Move) : Prop where
  /-- The seeds of a command go by how many others have come to rolling before it. -/
  seeded : ∀ index sight, (session.rolled roller moves)[index]? = some sight →
    Request.SeededFor base (session.rolls + index) sight.requests
  /-- Nothing else makes requests. -/
  requests : ∀ sight ∈ (session.run roller moves).1,
    sight.answer.isRolled = false → sight.requests = []
  /-- Nothing else is counted. -/
  rolls : (session.run roller moves).2.rolls =
    session.rolls + (session.rolled roller moves).length
  seeding : (session.run roller moves).2.seeding = .given base

variable {session : Session σ} {base : UInt64}

/-- A roll has the two seeds that are next. -/
theorem seededFor_of_roll (hseeding : session.seeding = .given base) (roller : Roller σ)
    (plan : Plan) :
    Request.SeededFor base session.rolls (session.roll roller plan).2.2 := by
  have hmade : (session.roll roller plan).2.2 = plan.requests session.control.seed
      (plan.attackEnding roller session.control
        ⟨session.dice, .connected session.signal, []⟩) :=
    (plan.asked_resolve roller session.control
      ⟨session.dice, .connected session.signal, []⟩).requests
  rw [hmade, control, hseeding]
  exact Plan.seededFor_requests _

/-- An input that is no command has not come to rolling. -/
theorem isRolled_of_read {input : Text} {cause : SessionError}
    (hread : session.read input = .error cause) :
    (Answer.executed (.error cause)).isRolled = false := by
  cases cause with
  | resolve problem => exact absurd rfl (ne_resolve_of_read hread problem)
  | parse problem => rfl
  | unknownSaved name => rfl
  | nothingToSave name => rfl

theorem takesSeeds_execute (hseeding : session.seeding = .given base) (roller : Roller σ)
    (input : Text) :
    session.TakesSeeds base (session.move roller (.execute input)) := by
  have hseeded : ∀ command, session.read input = .ok command → command.hasRoll = true →
      Request.SeededFor base session.rolls (session.execute roller input).requests := by
    intro command hread hroll
    rw [requests_of_roll hread hroll]
    exact seededFor_of_roll hseeding roller command.plan
  have hexecutes := session.executes roller input
  simp only [move]
  generalize session.execute roller input = step at hseeded hexecutes ⊢
  cases hexecutes with
  | unread hread =>
      have hrolled := isRolled_of_read hread
      exact ⟨.nil .., fun _ => rfl, by simp [sight, hrolled], hseeding⟩
  | @noted command hread hnotes =>
      rw [keepNotes_eq (rfl : session.notebook = session.notebook)]
      exact ⟨.nil .., fun _ => rfl, rfl, hseeding⟩
  | unresolved hread hroll hfailed =>
      obtain ⟨problem, rfl⟩ := exists_resolve_of_roll hfailed
      exact ⟨hseeded _ hread hroll, Bool.noConfusion, rfl, hseeding⟩
  | resolved hread hroll hresolved hevent =>
      exact ⟨hseeded _ hread hroll, Bool.noConfusion, rfl, hseeding⟩

/-- Only commands take seeds. -/
theorem takesSeeds_move (hseeding : session.seeding = .given base) (roller : Roller σ)
    (move : Move) :
    session.TakesSeeds base (session.move roller move) := by
  cases move with
  | execute input => exact takesSeeds_execute hseeding roller input
  | ingest event =>
      simp only [Session.move, ingest]
      split
      · exact ⟨.nil .., fun _ => rfl, rfl, hseeding⟩
      · exact ⟨.nil .., fun _ => rfl, rfl, hseeding⟩
  | setHidden hidden => exact ⟨.nil .., fun _ => rfl, rfl, hseeding⟩
  | cancel => exact ⟨.nil .., fun _ => rfl, rfl, hseeding⟩
  | save name command => exact ⟨.nil .., fun _ => rfl, rfl, hseeding⟩
  | delete name => exact ⟨.nil .., fun _ => rfl, rfl, hseeding⟩

theorem rolled_cons (session : Session σ) (roller : Roller σ) (move : Move) (moves : List Move) :
    session.rolled roller (move :: moves) =
      if (session.move roller move).1.answer.isRolled then
        (session.move roller move).1 :: (session.move roller move).2.rolled roller moves
      else (session.move roller move).2.rolled roller moves :=
  List.filter_cons

/-- A move that comes to rolling is the first of those that do, and the others are counted from the
next number on. -/
theorem CountsSeeds.cons {roller : Roller σ} {move : Move} {moves : List Move}
    (hmove : session.TakesSeeds base (session.move roller move))
    (hrest : (session.move roller move).2.CountsSeeds base roller moves) :
    session.CountsSeeds base roller (move :: moves) := by
  obtain ⟨hseeded, hrequests, hrolls, -⟩ := hmove
  constructor
  case seeded =>
    intro index sight hfound
    rw [rolled_cons] at hfound
    cases hrolled : (session.move roller move).1.answer.isRolled with
    | false =>
        rw [hrolled, if_neg Bool.false_ne_true] at hfound
        have hlater := hrest.seeded index sight hfound
        rwa [hrolls, hrolled, if_neg Bool.false_ne_true, Nat.add_zero] at hlater
    | true =>
        rw [hrolled, if_pos rfl] at hfound
        cases index with
        | zero =>
            obtain rfl := Option.some.inj hfound
            exact hseeded
        | succ index =>
            have hlater := hrest.seeded index sight hfound
            rwa [hrolls, hrolled, if_pos rfl, Nat.add_assoc, Nat.add_comm 1] at hlater
  case requests =>
    intro sight hmem
    rcases List.mem_cons.1 hmem with rfl | hlater
    · exact hrequests
    · exact hrest.requests sight hlater
  case rolls =>
    have hlength : (session.rolled roller (move :: moves)).length =
        (if (session.move roller move).1.answer.isRolled then 1 else 0) +
          ((session.move roller move).2.rolled roller moves).length := by
      rw [rolled_cons]
      split
      · exact Nat.add_comm ..
      · exact (Nat.zero_add _).symm
    rw [hlength, ← Nat.add_assoc, ← hrolls]
    exact hrest.rolls
  case seeding => exact hrest.seeding

theorem countsSeeds (hseeding : session.seeding = .given base) (roller : Roller σ)
    (moves : List Move) :
    session.CountsSeeds base roller moves := by
  induction moves generalizing session with
  | nil => exact ⟨by simp [rolled, run], by simp [run], rfl, hseeding⟩
  | cons move moves ih =>
      have hmove := takesSeeds_move hseeding roller move
      exact .cons hmove (ih hmove.seeding)

/-- All requests of a run are made by the commands that come to rolling. -/
theorem CountsSeeds.requests_eq {roller : Roller σ} {moves : List Move}
    (hcounts : session.CountsSeeds base roller moves) :
    (session.run roller moves).1.flatMap Sight.requests =
      (session.rolled roller moves).flatMap Sight.requests := by
  have hrequests := hcounts.requests
  rw [rolled]
  generalize (session.run roller moves).1 = sights at hrequests ⊢
  induction sights with
  | nil => rfl
  | cons sight sights ih =>
      obtain ⟨hsight, hlater⟩ := List.forall_mem_cons.1 hrequests
      have hrest := ih hlater
      cases hrolled : sight.answer.isRolled with
      | false => simpa [hrolled, hsight hrolled] using hrest
      | true => simpa [hrolled] using hrest

/-- The commands of a run that come to rolling have no seed in common, unless they go round the
circle. -/
theorem CountsSeeds.nodup {roller : Roller σ} {moves : List Move}
    (hcounts : session.CountsSeeds base roller moves)
    (hroom : (session.rolled roller moves).length ≤ seedPairs) :
    (((session.rolled roller moves).flatMap Sight.requests).map Request.seed).Nodup := by
  rw [List.map_flatMap, List.nodup_flatMap]
  constructor
  · intro sight hmem
    obtain ⟨index, hfound⟩ := List.mem_iff_getElem?.1 hmem
    exact (hcounts.seeded index sight hfound).nodup
  · apply List.pairwise_iff_getElem.2
    intro first second hfirst hsecond hlt seed hone hother
    obtain ⟨one, hmem, rfl⟩ := List.mem_map.1 hone
    obtain ⟨other, hother, hsame⟩ := List.mem_map.1 hother
    have hleft := (hcounts.seeded first _ (List.getElem?_eq_getElem hfirst)).seeds one hmem
    have hright := (hcounts.seeded second _ (List.getElem?_eq_getElem hsecond)).seeds other hother
    rw [hleft, hright] at hsame
    have hcircle := (Phase.seed_inj hsame).2
    simp only [seedPairs] at hroom hcircle
    omega

/-- In a session with a seed, the commands that come to rolling take two seeds each, one after the
other from where the session stands, whether they succeed or fail, and nothing else takes any.  No
seed is used twice unless there are more of these commands than pairs of seeds. -/
theorem seeds_apart (hseeding : session.seeding = .given base) (roller : Roller σ)
    (moves : List Move) :
    session.CountsSeeds base roller moves ∧
      ((session.rolled roller moves).length ≤ seedPairs →
        (((session.run roller moves).1.flatMap Sight.requests).map Request.seed).Nodup) := by
  have hcounts := countsSeeds hseeding roller moves
  refine ⟨hcounts, ?_⟩
  intro hroom
  rw [hcounts.requests_eq]
  exact hcounts.nodup hroom

/-- The largest seed is followed by the smallest.  Of nine moves only the first and the last three
come to rolling, of which the second needs no damage dice and the others run out of dice. -/
theorem seeds_apart_around :
    let session := { Session.new "tester".toList (ScriptedDice.ofValues [14, 3, 5, 6] none)
      (.sorted SortedNotebook.empty) fun _ => 0 with seeding := .given 18446744073709551615 }
    let moves := [.execute "1n dmg 1d6 save a".toList, .execute "save b".toList,
      .execute "vs )".toList, .execute "load b".toList, .cancel, .execute "delete a".toList,
      .execute "2n vs 10 dmg 1d6".toList, .execute "1n dmg 1d6".toList, .execute "dmg 1d6".toList]
    let seeds := ((session.run ScriptedDice.roller moves).1.flatMap Sight.requests).map Request.seed
    session.CountsSeeds 18446744073709551615 ScriptedDice.roller moves ∧
      seeds = [18446744073709551615, 0, 1, 3, 6] ∧ seeds.Nodup := by
  intro session moves seeds
  have hseeds : seeds = [18446744073709551615, 0, 1, 3, 6] := by
    decide +kernel
  have hrolled : (session.rolled ScriptedDice.roller moves).length = 4 := by
    decide +kernel
  have hseeding : session.seeding = .given 18446744073709551615 := rfl
  obtain ⟨hcounts, hapart⟩ := seeds_apart hseeding ScriptedDice.roller moves
  refine ⟨hcounts, hseeds, hapart ?_⟩
  rw [hrolled]
  decide

end Session

end Skirmish
