import Skirmish.Dice.Sampled
import Skirmish.Proofs.Resolution.DiceBound

/-!
# Sampled dice always do

Sampled dice report on every group they are asked for, so a plan that is not refused for its number
of dice is always resolved.  A group gets no total only if its dice cannot be thrown, which within
the limit of a command is a matter of its sides alone, and the total it gets is one that its dice
can show.
-/

namespace Skirmish

namespace SampledDice

variable {γ : Type} {next : γ → Nat → Nat × γ}

/-- Whether a generator shows only faces that the dice have. -/
def ShowsFaces (next : γ → Nat → Nat × γ) : Prop :=
  ∀ state sides, 1 ≤ sides → 1 ≤ (next state sides).1 ∧ (next state sides).1 ≤ sides

/-- Whether a reply shows, for every group of dice that can be thrown within the limit of a command,
what was thrown for it. -/
def ShowsThrown (next : γ → Nat → Nat × γ) (groups : List DiceGroup) (reply : List GroupTotal) :
    Prop :=
  ∀ group ∈ groups, 0 < group.count → 2 ≤ group.sides → group.sides ≤ maxSides →
    ∃ state, ∃ thrown : Int, thrown = (throwDice next group.sides group.count 0 state).1 ∧
      ⟨group.id, some thrown⟩ ∈ reply ∧ group.accepts thrown = true ∧ group.shown reply = thrown

/-- How a group fares when it is to be thrown. -/
structure Throws (next : γ → Nat → Nat × γ) (group : DiceGroup) (state : γ) : Prop where
  id : (throwGroup next group state).1.id = group.id
  refused : (throwGroup next group state).1.total = none ↔
    (group.count = 0 ∨ maxDicePerCommand < group.count) ∨
      (group.sides < 2 ∨ maxSides < group.sides)
  accepted : ∀ total, (throwGroup next group state).1.total = some total →
    group.accepts total = true

theorem showsFaces_standardFace : ShowsFaces standardFace := by
  intro generator sides hsides
  have hordered : ¬1 > sides := Nat.not_lt.2 hsides
  have hbound : ∀ value, 1 + value % (sides - 1 + 1) ≤ sides := by
    intro value
    have hrest : value % (sides - 1 + 1) < sides - 1 + 1 := Nat.mod_lt _ (Nat.succ_pos _)
    omega
  simp only [standardFace, randNat, if_neg hordered]
  exact ⟨Nat.le_add_right .., hbound _⟩

/-- Every die adds one at least and the number of its sides at most. -/
theorem throwDice_bounds (hfaces : ShowsFaces next) {sides : Nat} (hsides : 1 ≤ sides)
    (count total : Nat) (state : γ) :
    total + count ≤ (throwDice next sides count total state).1 ∧
      (throwDice next sides count total state).1 ≤ total + count * sides := by
  induction count generalizing total state with
  | zero => simp [throwDice]
  | succ count ih =>
      obtain ⟨hleast, hmost⟩ := hfaces state sides hsides
      obtain ⟨hlow, hhigh⟩ := ih (total + (next state sides).1) (next state sides).2
      have hthrown : throwDice next sides (count + 1) total state =
          throwDice next sides count (total + (next state sides).1) (next state sides).2 := rfl
      rw [hthrown, Nat.succ_mul]
      omega

theorem isRollable_iff {group : DiceGroup} :
    isRollable group = true ↔ (1 ≤ group.count ∧ group.count ≤ maxDicePerCommand) ∧
      2 ≤ group.sides ∧ group.sides ≤ maxSides := by
  simp [isRollable, and_assoc]

@[simp]
theorem id_throwGroup (next : γ → Nat → Nat × γ) (group : DiceGroup) (state : γ) :
    (throwGroup next group state).1.id = group.id := by
  rw [throwGroup]
  split <;> rfl

theorem total_throwGroup (next : γ → Nat → Nat × γ) (group : DiceGroup) (state : γ) :
    (throwGroup next group state).1.total =
      if isRollable group then some ((throwDice next group.sides group.count 0 state).1 : Int)
      else none := by
  rw [throwGroup]
  split <;> rfl

/-- A group is refused exactly for its count or its sides. -/
theorem total_throwGroup_eq_none_iff (next : γ → Nat → Nat × γ) (group : DiceGroup) (state : γ) :
    (throwGroup next group state).1.total = none ↔
      (group.count = 0 ∨ maxDicePerCommand < group.count) ∨
        (group.sides < 2 ∨ maxSides < group.sides) := by
  rw [total_throwGroup, ite_eq_right_iff, isRollable_iff]
  simp only [reduceCtorEq, imp_false]
  omega

/-- The total of a group that is thrown is one of its dice. -/
theorem accepts_of_total_throwGroup (hfaces : ShowsFaces next) {group : DiceGroup} {state : γ}
    {total : Int} (htotal : (throwGroup next group state).1.total = some total) :
    group.accepts total = true := by
  rw [total_throwGroup] at htotal
  split at htotal
  · next hrollable =>
    cases htotal
    obtain ⟨-, hsides, -⟩ := isRollable_iff.1 hrollable
    obtain ⟨hlow, hhigh⟩ := throwDice_bounds hfaces (Nat.le_of_succ_le hsides) group.count 0 state
    rw [Nat.zero_add] at hlow hhigh
    simp only [DiceGroup.accepts, Bool.and_eq_true, decide_eq_true_eq]
    exact ⟨Int.ofNat_le.2 hlow, by exact_mod_cast hhigh⟩
  · cases htotal

theorem ids_throwGroups (next : γ → Nat → Nat × γ) (groups : List DiceGroup) (state : γ) :
    (throwGroups next groups state).1.map GroupTotal.id = groups.map DiceGroup.id := by
  induction groups generalizing state with
  | nil => rfl
  | cons group groups ih =>
      rw [throwGroups, List.map_cons, List.map_cons, id_throwGroup, ih]

/-- Every group is thrown in some state of the generator. -/
theorem exists_state_of_mem {groups : List DiceGroup} {group : DiceGroup} (hmem : group ∈ groups)
    (state : γ) :
    ∃ reached, (throwGroup next group reached).1 ∈ (throwGroups next groups state).1 := by
  induction groups generalizing state with
  | nil => cases hmem
  | cons first groups ih =>
      rw [throwGroups]
      cases hmem with
      | head => exact ⟨state, List.mem_cons_self⟩
      | tail _ hmem =>
          obtain ⟨reached, hreached⟩ := ih hmem (throwGroup next first state).2
          exact ⟨reached, List.mem_cons_of_mem _ hreached⟩

theorem throws_of_showsFaces (hfaces : ShowsFaces next) (group : DiceGroup) (state : γ) :
    Throws next group state where
  id := id_throwGroup ..
  refused := total_throwGroup_eq_none_iff ..
  accepted := fun _ htotal => accepts_of_total_throwGroup hfaces htotal

/-- No group is left out. -/
theorem exists_collect_throwGroups (next : γ → Nat → Nat × γ) (groups : List DiceGroup)
    (state : γ) :
    ∃ totals, Totals.collect groups (throwGroups next groups state).1 = .ok totals := by
  have hnone : (groups.find? fun group =>
      (Totals.reported? group.id (throwGroups next groups state).1).isNone) = none := by
    rw [List.find?_eq_none]
    intro group hmem
    obtain ⟨reached, hreached⟩ := exists_state_of_mem hmem state
    rw [Totals.reported?_eq_find?, Option.isNone_map, Option.isNone_iff_eq_none,
      List.find?_eq_none]
    intro hall
    have hlacks := hall _ (List.mem_reverse.2 hreached)
    rw [id_throwGroup] at hlacks
    exact hlacks (decide_eq_true rfl)
  rw [Totals.collect, hnone]
  exact ⟨_, rfl⟩

/-- With distinct places, every group that is thrown shows its own total. -/
theorem showsThrown_throwGroups (hfaces : ShowsFaces next) {groups : List DiceGroup}
    (hdistinct : (groups.map DiceGroup.id).Nodup)
    (hcounts : ∀ group ∈ groups, group.count ≤ maxDicePerCommand) (state : γ) :
    ShowsThrown next groups (throwGroups next groups state).1 := by
  intro group hmem hcount hleast hmost
  obtain ⟨reached, hreached⟩ := exists_state_of_mem hmem state
  have hrollable : isRollable group = true :=
    isRollable_iff.2 ⟨⟨hcount, hcounts group hmem⟩, hleast, hmost⟩
  have htotal := total_throwGroup next group reached
  rw [if_pos hrollable] at htotal
  have haccepted := accepts_of_total_throwGroup hfaces htotal
  have hentry : (throwGroup next group reached).1 =
      ⟨group.id, some ((throwDice next group.sides group.count 0 reached).1 : Int)⟩ := by
    rw [throwGroup, if_pos hrollable]
  rw [hentry] at hreached
  refine ⟨reached, _, rfl, hreached, haccepted, ?_⟩
  have hplaces : ((throwGroups next groups state).1.reverse.map GroupTotal.id).Nodup := by
    rwa [List.map_reverse, (List.reverse_perm _).nodup_iff, ids_throwGroups]
  have hfound : ((throwGroups next groups state).1.reverse.find? fun result =>
      result.id = group.id) =
      some ⟨group.id, some ((throwDice next group.sides group.count 0 reached).1 : Int)⟩ :=
    Keyed.find?_eq_some hplaces (List.mem_reverse.2 hreached) (by simp)
  rw [DiceGroup.shown, hfound, Option.bind_some]
  simp only [DiceGroup.accepts, Bool.and_eq_true, decide_eq_true_eq] at haccepted
  exact if_pos haccepted

/-- What is asked for in a phase is thrown, and groups without dice are not asked for. -/
theorem showsThrown_of_replies (hfaces : ShowsFaces next) {phase : Phase} {seed : UInt64}
    {groups : List DiceGroup} {before after : γ} {reply : List GroupTotal}
    (hdistinct : (groups.map DiceGroup.id).Nodup)
    (hcounts : ∀ request ∈ Request.forGroups phase seed groups, ∀ group ∈ request.groups,
      group.count ≤ maxDicePerCommand)
    (hreplies : (roller next).Replies phase seed groups before reply after) :
    ShowsThrown next groups reply := by
  cases hreplies with
  | silent hnone =>
      intro group hmem hcount
      rw [hnone group hmem] at hcount
      cases hcount
  | asked hsome hask =>
      cases hask
      have hasked : ⟨phase, seed, groups.filter fun group => 0 < group.count⟩ ∈
          Request.forGroups phase seed groups := by
        refine Request.mem_forGroups.2 ⟨?_, rfl⟩
        obtain ⟨group, hmem, hcount⟩ := hsome
        exact List.ne_nil_of_mem (List.mem_filter.2 ⟨hmem, by simpa using hcount⟩)
      have hthrown := showsThrown_throwGroups hfaces (hdistinct.sublist (List.filter_sublist.map _))
        (hcounts _ hasked) before
      intro group hmem hcount
      exact hthrown group (List.mem_filter.2 ⟨hmem, by simpa using hcount⟩) hcount

/-- A phase always has totals. -/
theorem exists_roll (next : γ → Nat → Nat × γ) (table : Table γ) (wait : Wait) (phase : Phase)
    (seed : UInt64) (groups : List DiceGroup) :
    ∃ totals, (table.roll (roller next) wait phase seed groups).1 = .ok totals := by
  simp only [Table.roll]
  split
  · exact ⟨_, rfl⟩
  · exact exists_collect_throwGroups next _ table.dice

end SampledDice

namespace Plan

variable {γ : Type} {next : γ → Nat → Nat × γ} {plan : Plan} {control : Control}
  {table after : Table γ}

/-- Whether a resolution is made of what was thrown for it: the outcomes and the slots are those of
replies that show the throws. -/
structure Thrown (plan : Plan) (next : γ → Nat → Nat × γ) (control : Control)
    (table after : Table γ) (resolution : Resolution) : Prop where
  attacks : ∀ roll, plan.attack = some roll → ∃ reply dice outcomes,
    (SampledDice.roller next).Replies .attack control.seed roll.allGroups table.dice reply dice ∧
    SampledDice.ShowsThrown next roll.allGroups reply ∧
    resolution.attacks = some outcomes ∧ outcomes.length = roll.count ∧
    ∀ attack outcome, outcomes[attack]? = some outcome →
      roll.Yields plan.armorClass reply attack outcome
  damage : ∀ components, plan.damage = some components → ∃ middle reply,
    plan.AttacksLead (SampledDice.roller next) control table.dice middle ∧
    (SampledDice.roller next).Replies .damage (control.seed + 1)
      (damageGroups components (strikes resolution.attacks)) middle reply after.dice ∧
    SampledDice.ShowsThrown next (damageGroups components (strikes resolution.attacks)) reply ∧
    resolution.damage = some ((List.range ((plan.attack.map AttackRoll.count).getD 1)).map
      (plan.slotOf components resolution reply))

/-- Within the limit of dice, sampled dice never fail a plan. -/
theorem exists_resolve_sampled (hlimit : plan.maxDice ≤ maxDicePerCommand)
    (next : γ → Nat → Nat × γ) (control : Control) (table : Table γ) :
    ∃ resolution, (plan.resolve (SampledDice.roller next) control table).1 = .ok resolution := by
  have hattacks : ∀ start : Table γ, ∃ attacks,
      (plan.rollAttacks (SampledDice.roller next) control start).1 = .ok attacks := by
    intro start
    rw [rollAttacks]
    cases plan.attack with
    | none => exact ⟨_, rfl⟩
    | some roll =>
        obtain ⟨totals, htotals⟩ := SampledDice.exists_roll next start control.wait .attack
          control.seed roll.allGroups
        dsimp only
        rw [htotals]
        exact ⟨_, rfl⟩
  have hdamage : ∀ (strikes : List (Option Strike)) (start : Table γ), ∃ slots,
      (plan.rollDamage (SampledDice.roller next) control strikes start).1 = .ok slots := by
    intro strikes start
    rw [rollDamage]
    cases plan.damage with
    | none => exact ⟨_, rfl⟩
    | some components =>
        obtain ⟨totals, htotals⟩ := SampledDice.exists_roll next start control.wait .damage
          (control.seed + 1) (damageGroups components strikes)
        dsimp only
        rw [htotals]
        exact ⟨_, rfl⟩
  rw [resolve_within hlimit]
  obtain ⟨attacks, hattacked⟩ := hattacks { table with line := table.line.acknowledge }
  dsimp only
  rw [hattacked]
  obtain ⟨slots, hslots⟩ := hdamage (strikes attacks)
    (plan.rollAttacks (SampledDice.roller next) control
      { table with line := table.line.acknowledge }).2
  dsimp only
  rw [hslots]
  exact ⟨_, rfl⟩

theorem thrown_of_resolve (hfaces : SampledDice.ShowsFaces next) {resolution : Resolution}
    (hlimit : plan.maxDice ≤ maxDicePerCommand)
    (hok : plan.resolve (SampledDice.roller next) control table = (.ok resolution, after)) :
    plan.Thrown next control table after resolution := by
  have hattacked := attackEnding_of_resolve hok
  have hcounts : ∀ request ∈ plan.requests control.seed (.ok resolution.attacks),
      ∀ group ∈ request.groups, group.count ≤ maxDicePerCommand := by
    intro request hrequest group hgroup
    rw [← hattacked] at hrequest
    exact count_le_of_mem_requests hlimit hrequest hgroup
  constructor
  case attacks =>
    intro roll hroll
    obtain ⟨-, middle, hrolled, -, -⟩ := exists_phases_of_resolve hok
    obtain ⟨reply, outcomes, hreplies, houtcomes⟩ := exists_yields_of_rollAttacks hroll hrolled
    refine ⟨reply, middle.dice, outcomes, hreplies, ?_, houtcomes⟩
    apply SampledDice.showsThrown_of_replies hfaces roll.nodup_allGroups _ hreplies
    intro request hrequest
    apply hcounts request
    refine mem_requests.2 ⟨hlimit, .inl ?_⟩
    rwa [attackRequests, hroll]
  case damage =>
    intro components hcomponents
    obtain ⟨middle, reply, hlead, hreplies, hslots⟩ := slots_of_resolve hcomponents hok
    refine ⟨middle, reply, hlead, hreplies, ?_, hslots⟩
    apply SampledDice.showsThrown_of_replies hfaces (nodup_damageGroups components resolution) _
      hreplies
    intro request hrequest
    apply hcounts request
    refine mem_requests.2 ⟨hlimit, .inr ⟨_, rfl, ?_⟩⟩
    rwa [damageRequests, hcomponents]

/-- Sampled dice refuse a group only for its count or its sides and report a possible total of it
otherwise, so every plan within the limit of dice is resolved, with what was thrown for its dice. -/
theorem sampled_of_showsFaces (hfaces : SampledDice.ShowsFaces next) :
    (∀ group state, SampledDice.Throws next group state) ∧
      ∀ (plan : Plan) (control : Control) (table : Table γ), plan.maxDice ≤ maxDicePerCommand →
        ∃ resolution after,
          plan.resolve (SampledDice.roller next) control table = (.ok resolution, after) ∧
            plan.Thrown next control table after resolution := by
  refine ⟨SampledDice.throws_of_showsFaces hfaces, ?_⟩
  intro plan control table hlimit
  obtain ⟨resolution, hresolved⟩ := exists_resolve_sampled hlimit next control table
  have hok : plan.resolve (SampledDice.roller next) control table =
      (.ok resolution, (plan.resolve (SampledDice.roller next) control table).2) := by
    rw [← hresolved]
  exact ⟨resolution, _, hok, thrown_of_resolve hfaces hlimit hok⟩

/-- With the standard generator, an attack whose critical rolls more dice of fire than a term may
have.  The die of one side cannot be thrown. -/
theorem sampled_of_showsFaces_standard :
    let plan : Plan := ⟨some ⟨1, .advantage, [], []⟩, none,
      some [⟨.plus, .dice 49998 6, "fi".toList⟩, ⟨.plus, .dice 1 1, []⟩], none, ⟨[], [], []⟩⟩
    let table : Table StdGen := ⟨mkStdGen 7, .absent, []⟩
    let control : Control := ⟨.ofMillis 12000, 0⟩
    plan.maxDice = 100000 ∧ (SampledDice.throwGroup SampledDice.standardFace
        ⟨⟨0, 1⟩, 2, 1, []⟩ (mkStdGen 7)).1.total = none ∧
      ∃ resolution after,
        plan.resolve SampledDice.standard control table = (.ok resolution, after) ∧
          plan.Thrown SampledDice.standardFace control table after resolution := by
  intro plan table control
  have hdice : plan.maxDice = 100000 := by
    decide
  obtain ⟨hthrows, hresolves⟩ := sampled_of_showsFaces SampledDice.showsFaces_standardFace
  exact ⟨hdice, (hthrows _ _).refused.2 (.inr (.inl (by decide))),
    hresolves plan control table (Nat.le_of_eq hdice)⟩

end Plan

end Skirmish
