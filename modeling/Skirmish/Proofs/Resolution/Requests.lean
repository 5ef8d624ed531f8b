import Mathlib.Data.List.ReduceOption
import Skirmish.Proofs.Resolution.Damage

/-!
# What the roller is asked

A plan asks at most twice: once for the dice of all its attacks and then, when it is known which of
them hit, once for the damage of the hits.  Dice that are not there are never asked for, no place is
asked for twice in a request, and the second request depends on the first reply only through the
hits and the criticals.
-/

namespace Skirmish

variable {σ : Type}

/-- The group that rolls an amount in a place, if the amount has dice: twice as many of them for a
critical. -/
def Amount.group? (amount : Amount) (place : GroupId) (critical : Bool) (tag : Text) :
    Option DiceGroup :=
  match amount with
  | .flat _ => none
  | .dice count sides =>
      if count = 0 then none
      else some ⟨place, if critical then 2 * count else count, sides, tag⟩

theorem Amount.isSome_group?_iff {amount : Amount} {place : GroupId} {critical : Bool}
    {tag : Text} : (amount.group? place critical tag).isSome = true ↔ 0 < amount.diceCount := by
  cases amount with
  | flat value => simp [group?, diceCount]
  | dice count sides =>
      by_cases hcount : count = 0 <;> simp [group?, diceCount, hcount, Nat.pos_iff_ne_zero]

/-- What an attack asks for: its d20s, and then every term of the bonus that has dice, in the slot
behind the d20s and the dice terms before it. -/
def AttackRoll.asked (roll : AttackRoll) (attack : Nat) : List DiceGroup :=
  (List.range roll.mode.d20Count).map (fun slot => ⟨⟨attack, slot⟩, 1, 20, roll.color⟩) ++
    (roll.bonus.mapIdx fun position term =>
      term.amount.group? ⟨attack, roll.mode.d20Count + diceTerms (roll.bonus.take position)⟩ false
        roll.color).reduceOption

/-- What a strike asks for: every component that has dice, in the slot of its position. -/
def Strike.asked (strike : Strike) (components : List Component) : List DiceGroup :=
  (components.mapIdx fun position component =>
    component.amount.group? ⟨strike.attack, position⟩ strike.critical
      component.damageType).reduceOption

/-- What the attacks that hit ask for as their damage, one after the other; without attack rolls the
only one does. -/
def Plan.damageAsked (components : List Component) : Option (List AttackOutcome) → List DiceGroup
  | none => Strike.asked ⟨0, false⟩ components
  | some outcomes =>
      (outcomes.mapIdx fun attack outcome =>
        if outcome.isHit then Strike.asked ⟨attack, outcome.isCritical⟩ components
        else []).flatten

/-- Whether some attack hit, which without attack rolls the only one does. -/
def Plan.HasHit (attacks : Option (List AttackOutcome)) : Prop :=
  ∀ outcomes, attacks = some outcomes → ∃ outcome ∈ outcomes, outcome.isHit = true

/-- Whether a plan makes certain requests when its attack phase ends in a certain way. -/
structure Plan.Asks (plan : Plan) (seed : UInt64)
    (ending : Except DiceError (Option (List AttackOutcome))) (made : List Request) : Prop where
  /-- At most one request for each phase, attacks first. -/
  phases : made.map Request.phase ∈ [[], [.attack], [.damage], [.attack, .damage]]
  /-- A plan with too many dice asks for nothing. -/
  refused : maxDicePerCommand < plan.maxDice → made = []
  /-- The attacks are asked for when there are any, each with all of its dice. -/
  attack : ∀ request : Request, request.phase = .attack →
    (request ∈ made ↔ plan.maxDice ≤ maxDicePerCommand ∧
      ∃ roll, plan.attack = some roll ∧ 1 ≤ roll.count ∧
        request = ⟨.attack, seed, (List.range roll.count).flatMap roll.asked⟩)
  /-- The damage is asked for after attacks that succeeded, when some damage has dice and some
  attack hit. -/
  damage : ∀ request : Request, request.phase = .damage →
    (request ∈ made ↔ plan.maxDice ≤ maxDicePerCommand ∧
      ∃ attacks components, ending = .ok attacks ∧ plan.damage = some components ∧
        (∃ component ∈ components, 0 < component.amount.diceCount) ∧ HasHit attacks ∧
        request = ⟨.damage, seed + 1, damageAsked components attacks⟩)
  /-- Every group has dice. -/
  dice : ∀ request ∈ made, ∀ group ∈ request.groups, 0 < group.count
  /-- No place is asked for twice in a request. -/
  places : ∀ request ∈ made, (request.groups.map DiceGroup.id).Nodup

/-- Whether the roller has been asked certain requests, one after the other and nothing else,
between two states of the table. -/
structure Table.Asked (roller : Roller σ) (before : Table σ) (made : List Request)
    (after : Table σ) : Prop where
  requests : after.requests = before.requests ++ made
  dice : after.dice = made.foldl (fun dice request => (roller.ask dice request).2) before.dice

namespace Table

theorem Asked.nothing (roller : Roller σ) (table : Table σ) : Asked roller table [] table where
  requests := (List.append_nil _).symm
  dice := rfl

theorem Asked.append {roller : Roller σ} {before middle after : Table σ}
    {first second : List Request} (hfirst : Asked roller before first middle)
    (hsecond : Asked roller middle second after) :
    Asked roller before (first ++ second) after where
  requests := by
    rw [hsecond.requests, hfirst.requests, List.append_assoc]
  dice := by
    rw [hsecond.dice, hfirst.dice, List.foldl_append]

end Table

/-- The request for the groups of a phase, if any of them has dice. -/
def Request.forGroups (phase : Phase) (seed : UInt64) (groups : List DiceGroup) :
    List Request :=
  if (groups.filter fun group => 0 < group.count).isEmpty then []
  else [⟨phase, seed, groups.filter fun group => 0 < group.count⟩]

theorem Request.mem_forGroups {phase : Phase} {seed : UInt64} {groups : List DiceGroup}
    {request : Request} :
    request ∈ forGroups phase seed groups ↔
      (groups.filter fun group => 0 < group.count) ≠ [] ∧
        request = ⟨phase, seed, groups.filter fun group => 0 < group.count⟩ := by
  rw [forGroups]
  cases groups.filter fun group => 0 < group.count with
  | nil => simp
  | cons group rest => simp

theorem Table.asked_roll (table : Table σ) (roller : Roller σ) (wait : Wait) (phase : Phase)
    (seed : UInt64) (groups : List DiceGroup) :
    Asked roller table (Request.forGroups phase seed groups)
      (table.roll roller wait phase seed groups).2 := by
  simp only [roll, Request.forGroups]
  split
  · exact .nothing roller table
  · split
    · exact ⟨rfl, rfl⟩
    · exact ⟨rfl, rfl⟩
    · exact ⟨rfl, rfl⟩

namespace AttackRoll

theorem filter_bonusGroups (attack slot : Nat) (color : Text) (terms : List Term) :
    (bonusGroups attack color slot terms).filter (fun group => 0 < group.count) =
      (terms.mapIdx fun position term =>
        term.amount.group? ⟨attack, slot + diceTerms (terms.take position)⟩ false
          color).reduceOption := by
  induction terms generalizing slot with
  | nil => rfl
  | cons term terms ih =>
      simp only [List.mapIdx_cons, slot_behind]
      cases term with
      | mk sign amount =>
          cases amount with
          | flat value => exact ih slot
          | dice count sides =>
              have hrest := ih (slot + 1)
              cases count with
              | zero => exact hrest
              | succ count => exact congrArg (List.cons _) hrest

/-- What is asked for an attack is its groups, as far as they have dice. -/
theorem filter_groups (roll : AttackRoll) (attack : Nat) :
    (roll.groups attack).filter (fun group => 0 < group.count) = roll.asked attack := by
  have hd20s : ((List.range roll.mode.d20Count).map fun slot =>
      DiceGroup.d20 ⟨attack, slot⟩ roll.color).filter (fun group => 0 < group.count) =
      (List.range roll.mode.d20Count).map fun slot => DiceGroup.d20 ⟨attack, slot⟩ roll.color := by
    apply List.filter_eq_self.2
    intro group hmem
    obtain ⟨slot, -, rfl⟩ := List.mem_map.1 hmem
    rfl
  rw [groups, List.filter_append, hd20s, filter_bonusGroups]
  rfl

theorem filter_allGroups (roll : AttackRoll) :
    roll.allGroups.filter (fun group => 0 < group.count) =
      (List.range roll.count).flatMap roll.asked := by
  rw [allGroups, List.filter_flatMap]
  simp only [filter_groups]

/-- Every attack has a d20, so something is asked for as soon as there is an attack. -/
theorem flatMap_asked_ne_nil_iff (roll : AttackRoll) :
    (List.range roll.count).flatMap roll.asked ≠ [] ↔ 1 ≤ roll.count := by
  constructor
  · intro hne
    obtain ⟨group, hmem⟩ := List.exists_mem_of_ne_nil _ hne
    obtain ⟨attack, hattack, -⟩ := List.mem_flatMap.1 hmem
    exact Nat.one_le_of_lt (List.mem_range.1 hattack)
  · intro hcount
    have hd20 : ⟨⟨0, 0⟩, 1, 20, roll.color⟩ ∈ roll.asked 0 := by
      apply List.mem_append_left
      apply List.mem_map.2
      refine ⟨0, List.mem_range.2 ?_, rfl⟩
      cases roll.mode <;> decide
    exact List.ne_nil_of_mem (List.mem_flatMap.2 ⟨0, List.mem_range.2 hcount, hd20⟩)

end AttackRoll

namespace Strike

variable {strike : Strike} {components : List Component}

/-- What is asked for a strike is its groups, as far as they have dice. -/
theorem filter_groups (hall : strike.RollsAll components) :
    (strike.groups components).filter (fun group => 0 < group.count) =
      strike.asked components := by
  rw [groups_eq_filterMap, List.filter_filterMap, asked, List.mapIdx_eq_zipIdx_map,
    List.reduceOption, List.filterMap_map]
  apply List.filterMap_congr
  intro placed hplaced
  have hmem : placed.1 ∈ components := List.fst_mem_of_mem_zipIdx hplaced
  have hcount := hall placed.1 hmem
  simp only [group?, Function.comp_apply, id_eq, Amount.group?]
  cases hamount : placed.1.amount with
  | flat value => rfl
  | dice count sides =>
      rw [hamount, Amount.diceCount] at hcount
      simp only [hcount, Option.filter]
      by_cases hnone : count = 0
      · simp [hnone]
      · have hsome : 0 < if strike.critical then 2 * count else count := by
          split <;> omega
        simp [hnone, hsome]

theorem asked_ne_nil_iff (strike : Strike) (components : List Component) :
    strike.asked components ≠ [] ↔ ∃ component ∈ components, 0 < component.amount.diceCount := by
  constructor
  · intro hne
    obtain ⟨group, hmem⟩ := List.exists_mem_of_ne_nil _ hne
    obtain ⟨position, hposition, hgroup⟩ := List.mem_mapIdx.1 (List.reduceOption_mem_iff.1 hmem)
    refine ⟨components[position], List.getElem_mem hposition, ?_⟩
    rw [← Amount.isSome_group?_iff, hgroup, Option.isSome_some]
  · rintro ⟨component, hmem, hcount⟩
    obtain ⟨position, hposition, rfl⟩ := List.getElem_of_mem hmem
    obtain ⟨group, hgroup⟩ := Option.isSome_iff_exists.1 (Amount.isSome_group?_iff.2 hcount)
    exact List.ne_nil_of_mem
      (List.reduceOption_mem_iff.2 (List.mem_mapIdx.2 ⟨position, hposition, hgroup⟩))

end Strike

/-- The places of a request for distinct places are distinct. -/
theorem Request.nodup_of_mem_forGroups {phase : Phase} {seed : UInt64}
    {groups : List DiceGroup} {request : Request}
    (hdistinct : (groups.map DiceGroup.id).Nodup) (hmem : request ∈ forGroups phase seed groups) :
    (request.groups.map DiceGroup.id).Nodup := by
  obtain ⟨-, rfl⟩ := mem_forGroups.1 hmem
  exact hdistinct.sublist (List.filter_sublist.map _)

theorem Request.pos_of_mem_forGroups {phase : Phase} {seed : UInt64}
    {groups : List DiceGroup} {request : Request} (hmem : request ∈ forGroups phase seed groups) :
    ∀ group ∈ request.groups, 0 < group.count := by
  obtain ⟨-, rfl⟩ := mem_forGroups.1 hmem
  intro group hgroup
  simpa using (List.mem_filter.1 hgroup).2

theorem Request.phases_forGroups (phase : Phase) (seed : UInt64)
    (groups : List DiceGroup) :
    (forGroups phase seed groups).map Request.phase ∈ [[], [phase]] := by
  rw [forGroups]
  split <;> simp

namespace Plan

variable {plan : Plan} {roller : Roller σ} {control : Control} {table after : Table σ}

/-- The attack request of a plan, if it makes one. -/
def attackRequests (plan : Plan) (seed : UInt64) : List Request :=
  match plan.attack with
  | none => []
  | some roll => Request.forGroups .attack seed roll.allGroups

/-- The damage request of a plan after an attack phase, if it makes one. -/
def damageRequests (plan : Plan) (seed : UInt64) (attacks : Option (List AttackOutcome)) :
    List Request :=
  match plan.damage with
  | none => []
  | some components =>
      Request.forGroups .damage (seed + 1) (damageGroups components (strikes attacks))

/-- All requests of a plan whose attack phase ends in a certain way. -/
def requests (plan : Plan) (seed : UInt64)
    (ending : Except DiceError (Option (List AttackOutcome))) : List Request :=
  if maxDicePerCommand < plan.maxDice then []
  else
    plan.attackRequests seed ++
      match ending with
      | .error _ => []
      | .ok attacks => plan.damageRequests seed attacks

/-- How the attack phase ends. -/
def attackEnding (plan : Plan) (roller : Roller σ) (control : Control) (table : Table σ) :
    Except DiceError (Option (List AttackOutcome)) :=
  (plan.rollAttacks roller control { table with line := table.line.acknowledge }).1

theorem rollAttacks_of_attackEnding {ending : Except DiceError (Option (List AttackOutcome))}
    (hending : plan.attackEnding roller control table = ending) :
    plan.rollAttacks roller control { table with line := table.line.acknowledge } =
      (ending,
        (plan.rollAttacks roller control { table with line := table.line.acknowledge }).2) := by
  rw [← hending, attackEnding]

theorem asked_rollAttacks (plan : Plan) (roller : Roller σ) (control : Control)
    (table : Table σ) :
    Table.Asked roller table (plan.attackRequests control.seed)
      (plan.rollAttacks roller control table).2 := by
  rw [rollAttacks, attackRequests]
  cases plan.attack with
  | none => exact .nothing roller table
  | some roll => exact table.asked_roll roller control.wait .attack control.seed roll.allGroups

theorem asked_rollDamage (plan : Plan) (roller : Roller σ) (control : Control)
    (attacks : Option (List AttackOutcome)) (table : Table σ) :
    Table.Asked roller table (plan.damageRequests control.seed attacks)
      (plan.rollDamage roller control (strikes attacks) table).2 := by
  rw [rollDamage, damageRequests]
  cases plan.damage with
  | none => exact .nothing roller table
  | some components => exact table.asked_roll ..

/-- The roller is asked for both phases, or for the attack phase alone when that one fails. -/
theorem asked_resolve (plan : Plan) (roller : Roller σ) (control : Control) (table : Table σ) :
    Table.Asked roller table
      (plan.requests control.seed (plan.attackEnding roller control table))
      (plan.resolve roller control table).2 := by
  by_cases hlimit : maxDicePerCommand < plan.maxDice
  · simp only [resolve, requests, hlimit, if_true]
    exact .nothing roller table
  · have hattacked :=
      plan.asked_rollAttacks roller control { table with line := table.line.acknowledge }
    have hfirst : Table.Asked roller table (plan.attackRequests control.seed)
        (plan.rollAttacks roller control { table with line := table.line.acknowledge }).2 :=
      ⟨hattacked.requests, hattacked.dice⟩
    simp only [resolve_within (Nat.not_lt.1 hlimit), requests, attackEnding, hlimit, if_false]
    cases (plan.rollAttacks roller control { table with line := table.line.acknowledge }).1 with
    | error cause => exact hfirst.append (.nothing ..)
    | ok attacks => exact hfirst.append (plan.asked_rollDamage ..)

/-- The attack phase, when it succeeds, has an outcome for each attack. -/
theorem length_of_attackEnding {attacks : Option (List AttackOutcome)}
    (hending : plan.attackEnding roller control table = .ok attacks) :
    attacks.map List.length = plan.attack.map AttackRoll.count := by
  exact (attacksLead_of_rollAttacks (rollAttacks_of_attackEnding hending)).2

/-- Whether every strike rolls all dice of the damage, and twice as many if it is critical. -/
def StrikesRollAll (plan : Plan) (attacks : Option (List AttackOutcome)) : Prop :=
  ∀ components, plan.damage = some components →
    ∀ strike, some strike ∈ strikes attacks → strike.RollsAll components

/-- Within the limit of dice, no count of dice is cut off. -/
theorem strikesRollAll_of_attackEnding {attacks : Option (List AttackOutcome)}
    (hlimit : plan.maxDice ≤ maxDicePerCommand)
    (hending : plan.attackEnding roller control table = .ok attacks) :
    plan.StrikesRollAll attacks := by
  intro components hcomponents strike hmem
  obtain ⟨attack, hattack⟩ := List.mem_iff_getElem?.1 hmem
  have hentry : (strikes (plan.summarize attacks none).attacks)[attack]? = some (some strike) :=
    hattack
  have hstrike := getElem?_strikes hentry
  have hlength := length_of_attackEnding hending
  split at hstrike
  · cases hstrike
    exact Strike.rollsAll_of_doubled (doubled_of_critical hlimit hcomponents hlength)
  · cases hstrike

/-- The strikes are the attacks that hit. -/
theorem flatMap_asked_strikes (attacks : Option (List AttackOutcome))
    (components : List Component) :
    (((strikes attacks).filterMap id).flatMap fun strike => strike.asked components) =
      damageAsked components attacks := by
  cases attacks with
  | none => simp [strikes, damageAsked]
  | some outcomes =>
      rw [damageAsked, List.mapIdx_eq_zipIdx_map, ← List.flatMap_def, strikes, List.filterMap_map,
        List.filterMap_eq_flatMap_toList, List.flatMap_assoc]
      apply List.flatMap_congr
      rintro ⟨outcome, attack⟩ -
      by_cases hhit : outcome.isHit = true <;> simp [hhit]

theorem filter_damageGroups {attacks : Option (List AttackOutcome)} {components : List Component}
    (hall : ∀ strike, some strike ∈ strikes attacks → strike.RollsAll components) :
    (damageGroups components (strikes attacks)).filter (fun group => 0 < group.count) =
      damageAsked components attacks := by
  rw [← flatMap_asked_strikes, damageGroups, List.filter_flatMap]
  apply List.flatMap_congr
  intro strike hmem
  obtain ⟨entry, hentry, rfl⟩ := List.mem_filterMap.1 hmem
  exact Strike.filter_groups (hall strike hentry)

/-- There are strikes exactly when some attack hit. -/
theorem exists_strike_iff (attacks : Option (List AttackOutcome)) :
    (∃ strike, some strike ∈ strikes attacks) ↔ HasHit attacks := by
  cases attacks with
  | none => simp [strikes, HasHit]
  | some outcomes =>
      simp only [strikes, HasHit, List.mem_map, Option.some.injEq, forall_eq']
      constructor
      · rintro ⟨strike, placed, hmem, hstrike⟩
        refine ⟨placed.1, List.fst_mem_of_mem_zipIdx hmem, ?_⟩
        by_contra hmiss
        simp [hmiss] at hstrike
      · rintro ⟨outcome, hmem, hhit⟩
        obtain ⟨attack, hattack⟩ := List.mem_iff_getElem?.1 hmem
        refine ⟨⟨attack, outcome.isCritical⟩, (outcome, attack), ?_, by simp [hhit]⟩
        exact List.mk_mem_zipIdx_iff_getElem?.2 hattack

theorem damageAsked_ne_nil_iff {components : List Component}
    {attacks : Option (List AttackOutcome)} :
    damageAsked components attacks ≠ [] ↔
      (∃ component ∈ components, 0 < component.amount.diceCount) ∧ HasHit attacks := by
  have hstrikes : ∀ strike, strike ∈ (strikes attacks).filterMap id ↔
      some strike ∈ strikes attacks := by
    simp
  rw [← flatMap_asked_strikes, ← exists_strike_iff, Ne, List.flatMap_eq_nil_iff]
  simp only [hstrikes, not_forall, exists_prop, ← ne_eq, Strike.asked_ne_nil_iff, exists_and_right]
  exact and_comm

theorem mem_attackRequests {seed : UInt64} {request : Request} :
    request ∈ plan.attackRequests seed ↔
      ∃ roll, plan.attack = some roll ∧ 1 ≤ roll.count ∧
        request = ⟨.attack, seed, (List.range roll.count).flatMap roll.asked⟩ := by
  rw [attackRequests]
  cases plan.attack with
  | none => simp
  | some roll =>
      simp only [Request.mem_forGroups, AttackRoll.filter_allGroups,
        AttackRoll.flatMap_asked_ne_nil_iff, Option.some.injEq, exists_eq_left']

theorem mem_damageRequests {seed : UInt64} {attacks : Option (List AttackOutcome)}
    {request : Request} (hall : plan.StrikesRollAll attacks) :
    request ∈ plan.damageRequests seed attacks ↔
      ∃ components, plan.damage = some components ∧
        (∃ component ∈ components, 0 < component.amount.diceCount) ∧ HasHit attacks ∧
        request = ⟨.damage, seed + 1, damageAsked components attacks⟩ := by
  rw [damageRequests]
  cases hcomponents : plan.damage with
  | none => simp
  | some components =>
      simp only [Request.mem_forGroups, filter_damageGroups (hall components hcomponents),
        damageAsked_ne_nil_iff, Option.some.injEq, exists_eq_left', and_assoc]

/-- All requests, and when they are made. -/
theorem mem_requests {seed : UInt64}
    {ending : Except DiceError (Option (List AttackOutcome))} {request : Request} :
    request ∈ plan.requests seed ending ↔ plan.maxDice ≤ maxDicePerCommand ∧
      (request ∈ plan.attackRequests seed ∨
        ∃ attacks, ending = .ok attacks ∧ request ∈ plan.damageRequests seed attacks) := by
  by_cases hlimit : maxDicePerCommand < plan.maxDice
  · simp [requests, hlimit, Nat.not_le.2 hlimit]
  · cases ending with
    | error cause => simp [requests, hlimit, Nat.not_lt.1 hlimit]
    | ok attacks => simp [requests, hlimit, Nat.not_lt.1 hlimit]

theorem phases_requests (seed : UInt64)
    (ending : Except DiceError (Option (List AttackOutcome))) :
    (plan.requests seed ending).map Request.phase ∈
      [[], [.attack], [.damage], [.attack, .damage]] := by
  have hattack : (plan.attackRequests seed).map Request.phase ∈ [[], [.attack]] := by
    rw [attackRequests]
    split
    · simp
    · exact Request.phases_forGroups ..
  have hdamage : ∀ attacks,
      (plan.damageRequests seed attacks).map Request.phase ∈ [[], [.damage]] := by
    intro attacks
    rw [damageRequests]
    split
    · simp
    · exact Request.phases_forGroups ..
  simp only [List.mem_cons, List.not_mem_nil, or_false] at hattack hdamage ⊢
  by_cases hlimit : maxDicePerCommand < plan.maxDice
  · simp [requests, hlimit]
  · cases ending with
    | error cause => rcases hattack with h | h <;> simp [requests, hlimit, h]
    | ok attacks =>
        rcases hattack with h | h <;> rcases hdamage attacks with h' | h' <;>
          simp [requests, hlimit, h, h']

theorem nodup_of_mem_requests {seed : UInt64}
    {ending : Except DiceError (Option (List AttackOutcome))} {request : Request}
    (hmem : request ∈ plan.requests seed ending) :
    (∀ group ∈ request.groups, 0 < group.count) ∧ (request.groups.map DiceGroup.id).Nodup := by
  obtain ⟨-, hattack | ⟨attacks, -, hdamage⟩⟩ := mem_requests.1 hmem
  · rw [attackRequests] at hattack
    split at hattack
    · cases hattack
    · next roll _ =>
      exact ⟨Request.pos_of_mem_forGroups hattack,
        Request.nodup_of_mem_forGroups roll.nodup_allGroups hattack⟩
  · rw [damageRequests] at hdamage
    split at hdamage
    · cases hdamage
    · next components _ =>
      exact ⟨Request.pos_of_mem_forGroups hdamage,
        Request.nodup_of_mem_forGroups
          (nodup_damageGroups components (plan.summarize attacks none)) hdamage⟩

theorem phase_of_mem_attackRequests {seed : UInt64} {request : Request}
    (hmem : request ∈ plan.attackRequests seed) : request.phase = .attack := by
  obtain ⟨roll, -, -, rfl⟩ := mem_attackRequests.1 hmem
  rfl

theorem phase_of_mem_damageRequests {seed : UInt64} {attacks : Option (List AttackOutcome)}
    {request : Request} (hmem : request ∈ plan.damageRequests seed attacks) :
    request.phase = .damage := by
  rw [damageRequests] at hmem
  split at hmem
  · cases hmem
  · rw [(Request.mem_forGroups.1 hmem).2]

/-- The requests of a plan are what it asks for. -/
theorem asks_requests (plan : Plan) (roller : Roller σ) (control : Control) (table : Table σ) :
    plan.Asks control.seed (plan.attackEnding roller control table)
      (plan.requests control.seed (plan.attackEnding roller control table)) where
  phases := phases_requests ..
  refused := by
    intro hlimit
    rw [requests.eq_def, if_pos hlimit]
  attack := by
    intro request hphase
    -- Requests of the other phase are told apart by their phase alone.
    have hnot : ∀ attacks, request ∉ plan.damageRequests control.seed attacks := by
      intro attacks hmem
      rw [phase_of_mem_damageRequests hmem] at hphase
      cases hphase
    simp only [mem_requests, hnot, and_false, exists_false, or_false, mem_attackRequests]
  damage := by
    intro request hphase
    have hnot : request ∉ plan.attackRequests control.seed := by
      intro hmem
      rw [phase_of_mem_attackRequests hmem] at hphase
      cases hphase
    simp only [mem_requests, hnot, false_or]
    refine and_congr_right fun hlimit => exists_congr fun attacks => ?_
    rw [exists_and_left]
    apply and_congr_right
    intro hending
    exact mem_damageRequests (strikesRollAll_of_attackEnding hlimit hending)
  dice := fun request hmem => (nodup_of_mem_requests hmem).1
  places := fun request hmem => (nodup_of_mem_requests hmem).2

/-- The outcomes of a resolved plan are those of its attack phase. -/
theorem attackEnding_of_resolve {resolution : Resolution}
    (hok : plan.resolve roller control table = (.ok resolution, after)) :
    plan.attackEnding roller control table = .ok resolution.attacks := by
  obtain ⟨-, middle, hattacks, -⟩ := exists_phases_of_resolve hok
  rw [attackEnding, hattacks]

/-- Resolving a plan makes the requests that the plan asks for and no others.  The attack phase that
they go by is the one whose failure or outcomes the result reports. -/
theorem resolve_asks (plan : Plan) (roller : Roller σ) (control : Control) (table : Table σ) :
    ∃ made, Table.Asked roller table made (plan.resolve roller control table).2 ∧
      plan.Asks control.seed (plan.attackEnding roller control table) made ∧
      (∀ cause, plan.maxDice ≤ maxDicePerCommand →
        plan.attackEnding roller control table = .error cause →
        (plan.resolve roller control table).1 = .error (.dice cause)) ∧
      ∀ resolution, (plan.resolve roller control table).1 = .ok resolution →
        plan.attackEnding roller control table = .ok resolution.attacks := by
  refine ⟨_, plan.asked_resolve roller control table, plan.asks_requests roller control table,
    ?_, ?_⟩
  · intro cause hlimit hending
    rw [resolve, if_neg (Nat.not_lt.2 hlimit), rollAttacks_of_attackEnding hending]
  · intro resolution hok
    have hboth : plan.resolve roller control table =
        (.ok resolution, (plan.resolve roller control table).2) := by
      rw [← hok]
    exact attackEnding_of_resolve hboth

/-- Of two attacks with a bonus without dice, the critical asks for twice the damage dice and the
miss for none. -/
example :
    let plan : Plan := ⟨some ⟨2, .normal, [], [⟨.minus, .dice 0 6⟩, ⟨.plus, .dice 1 4⟩]⟩,
      some ⟨15, 0⟩, some [⟨.plus, .flat 5, []⟩, ⟨.plus, .dice 2 6, "fi".toList⟩], none,
      ⟨[], [], []⟩⟩
    let table : Table ScriptedDice := ⟨.ofValues [20, 1, 2, 1, 9] none, .absent, []⟩
    let control : Control := ⟨.ofMillis 12000, 18446744073709551615⟩
    (plan.resolve ScriptedDice.roller control table).2.requests =
      [⟨.attack, 18446744073709551615,
          [⟨⟨0, 0⟩, 1, 20, []⟩, ⟨⟨0, 2⟩, 1, 4, []⟩, ⟨⟨1, 0⟩, 1, 20, []⟩, ⟨⟨1, 2⟩, 1, 4, []⟩]⟩,
        ⟨.damage, 0, [⟨⟨0, 1⟩, 4, 6, "fi".toList⟩]⟩] := by
  decide +kernel

end Plan

end Skirmish
