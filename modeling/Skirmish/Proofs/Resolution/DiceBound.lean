import Mathlib.Algebra.Group.Action.Defs
import Mathlib.Algebra.Order.BigOperators.Group.List
import Mathlib.Algebra.Order.Ring.Nat
import Skirmish.Proofs.Resolution.Requests

/-!
# How many dice are asked for

The dice of a plan are counted before anything is rolled, as if every attack were a critical hit.
No behaviour of the roller leads to more dice than that, and criticals throughout lead to exactly
that many.  Plans without attacks have no criticals and always ask for all of their dice.
-/

namespace Skirmish

variable {σ : Type}

/-- How many dice a number of requests ask for. -/
def diceAsked (made : List Request) : Nat :=
  (made.map fun request => diceRequested request.groups).sum

theorem diceRequested_filter (groups : List DiceGroup) :
    diceRequested (groups.filter fun group => 0 < group.count) = diceRequested groups := by
  induction groups with
  | nil => rfl
  | cons group groups ih =>
      by_cases hcount : 0 < group.count
      · simp [diceRequested, hcount, ih]
      · simp [diceRequested, ih, Nat.eq_zero_of_not_pos hcount]

theorem diceRequested_flatMap {α : Type} (parts : List α) (groups : α → List DiceGroup) :
    diceRequested (parts.flatMap groups) =
      (parts.map fun part => diceRequested (groups part)).sum := by
  induction parts with
  | nil => rfl
  | cons part parts ih =>
      rw [List.flatMap_cons, diceRequested_append, ih, List.map_cons, List.sum_cons]

/-- Leaving out groups without dice changes nothing about the number of dice. -/
theorem diceAsked_forGroups (phase : Phase) (seed : UInt64) (groups : List DiceGroup) :
    diceAsked (Request.forGroups phase seed groups) = diceRequested groups := by
  rw [← diceRequested_filter groups, Request.forGroups]
  split
  · next hempty =>
    rw [List.isEmpty_iff.1 hempty]
    rfl
  · simp [diceAsked]

theorem count_le_diceRequested {groups : List DiceGroup} {group : DiceGroup}
    (hmem : group ∈ groups) : group.count ≤ diceRequested groups := by
  induction hmem with
  | head => exact Nat.le_add_right ..
  | tail _ _ ih => exact Nat.le_add_left_of_le ih

theorem count_le_diceAsked {made : List Request} {request : Request} {group : DiceGroup}
    (hrequest : request ∈ made) (hgroup : group ∈ request.groups) :
    group.count ≤ diceAsked made :=
  (count_le_diceRequested hgroup).trans
    (List.single_le_sum (fun _ _ => Nat.zero_le _) _ (List.mem_map_of_mem hrequest))

namespace AttackRoll

theorem diceRequested_bonusGroups (attack slot : Nat) (color : Text) (terms : List Term) :
    diceRequested (bonusGroups attack color slot terms) = diceIn (terms.map Term.amount) := by
  induction terms generalizing slot with
  | nil => rfl
  | cons term terms ih =>
      cases term with
      | mk sign amount =>
          cases amount with
          | flat value => simp [bonusGroups, diceIn, Amount.diceCount, ih]
          | dice count sides => simp [bonusGroups, diceRequested, diceIn, Amount.diceCount, ih]

theorem diceRequested_d20s (roll : AttackRoll) (attack slots : Nat) :
    diceRequested ((List.range slots).map fun slot => DiceGroup.d20 ⟨attack, slot⟩ roll.color) =
      slots := by
  induction slots with
  | zero => rfl
  | succ slots ih =>
      rw [List.range_succ, List.map_append, diceRequested_append, ih]
      rfl

theorem diceRequested_allGroups (roll : AttackRoll) :
    diceRequested roll.allGroups = roll.count * roll.dicePerAttack := by
  have hattack : ∀ attack, diceRequested (roll.groups attack) = roll.dicePerAttack := by
    intro attack
    rw [groups, diceRequested_append, diceRequested_d20s, diceRequested_bonusGroups, dicePerAttack]
  rw [allGroups, diceRequested_flatMap]
  simp [hattack]

end AttackRoll

namespace Strike

variable {strike : Strike} {components : List Component}

theorem diceRequested_placed (hall : strike.RollsAll components) (offset : Nat) :
    diceRequested ((components.zipIdx offset).filterMap strike.group?) =
      diceIn (components.map Component.amount) * if strike.critical then 2 else 1 := by
  induction components generalizing offset with
  | nil => simp [diceRequested, diceIn]
  | cons component components ih =>
      have hfirst := hall component List.mem_cons_self
      have hrest := ih (fun other hmem => hall other (List.mem_cons_of_mem _ hmem)) (offset + 1)
      have hcount : strike.diceCount component.amount.diceCount =
          component.amount.diceCount * if strike.critical then 2 else 1 := by
        rw [hfirst]
        split <;> omega
      rw [List.zipIdx_cons, List.filterMap_cons, List.map_cons, diceIn, Nat.add_mul, ← hrest,
        ← hcount]
      cases hamount : component.amount with
      | flat value => simp [group?, hamount, diceCount, Amount.diceCount]
      | dice count sides => simp [group?, hamount, diceRequested, Amount.diceCount]

/-- A strike that rolls all of its dice asks for those of its components, twice for a critical. -/
theorem diceRequested_groups (hall : strike.RollsAll components) :
    diceRequested (strike.groups components) =
      diceIn (components.map Component.amount) * if strike.critical then 2 else 1 :=
  diceRequested_placed hall 0

end Strike

namespace Plan

variable {plan : Plan} {roller : Roller σ} {control : Control} {table : Table σ}

theorem diceAsked_attackRequests {roll : AttackRoll} (hroll : plan.attack = some roll)
    (seed : UInt64) :
    diceAsked (plan.attackRequests seed) = roll.count * roll.dicePerAttack := by
  rw [attackRequests, hroll]
  exact (diceAsked_forGroups ..).trans roll.diceRequested_allGroups

/-- The damage request asks for the dice of each strike. -/
theorem diceAsked_damageRequests (seed : UInt64) {attacks : Option (List AttackOutcome)}
    (hall : plan.StrikesRollAll attacks) :
    diceAsked (plan.damageRequests seed attacks) =
      (((strikes attacks).filterMap id).map fun strike =>
        plan.damageDice * if strike.critical then 2 else 1).sum := by
  rw [damageRequests, damageDice]
  cases hcomponents : plan.damage with
  | none => simp [diceAsked, diceIn]
  | some components =>
      rw [diceAsked_forGroups, damageGroups, diceRequested_flatMap]
      congr 1
      apply List.map_congr_left
      intro strike hmem
      obtain ⟨entry, hentry, rfl⟩ := List.mem_filterMap.1 hmem
      exact Strike.diceRequested_groups (hall components hcomponents strike hentry)

/-- A critical is a hit whatever the armor class. -/
theorem isHit_of_attackEnding {outcomes : List AttackOutcome}
    (hending : plan.attackEnding roller control table = .ok (some outcomes))
    {outcome : AttackOutcome} (hmem : outcome ∈ outcomes) (hcritical : outcome.isCritical = true) :
    outcome.isHit = true := by
  have hphase := rollAttacks_of_attackEnding hending
  cases hroll : plan.attack with
  | none =>
      rw [rollAttacks, hroll] at hphase
      cases hphase
  | some roll =>
      obtain ⟨reply, totals, -, -, hattacks⟩ := exists_reply_of_rollAttacks hroll hphase
      cases hattacks
      obtain ⟨attack, -, rfl⟩ := List.mem_map.1 hmem
      exact (AttackRoll.isHit_evaluate ..).2 (Or.inr (Or.inl hcritical))

theorem strikes_of_criticals {outcomes : List AttackOutcome}
    (hall : ∀ outcome ∈ outcomes, outcome.isHit = true ∧ outcome.isCritical = true) :
    (strikes (some outcomes)).filterMap id =
      (List.range outcomes.length).map fun attack => ⟨attack, true⟩ := by
  have hentries : strikes (some outcomes) =
      outcomes.zipIdx.map fun placed => some ⟨placed.2, true⟩ := by
    rw [strikes]
    apply List.map_congr_left
    intro placed hmem
    obtain ⟨hhit, hcritical⟩ := hall placed.1 (List.fst_mem_of_mem_zipIdx hmem)
    simp only [hhit, hcritical, if_true]
  calc
    (strikes (some outcomes)).filterMap id =
        outcomes.zipIdx.map fun placed => ⟨placed.2, true⟩ := by
      rw [hentries, List.filterMap_map]
      exact congrFun List.filterMap_eq_map _
    _ = (outcomes.zipIdx.map Prod.snd).map fun attack => ⟨attack, true⟩ := by
      rw [List.map_map]
      rfl
    _ = (List.range outcomes.length).map fun attack => ⟨attack, true⟩ := by
      rw [List.zipIdx_map_snd, List.range_eq_range']

/-- Within the limit, the number of dice that a plan is known by is the number of its dice. -/
theorem mostDice_eq_maxDice (hlimit : plan.maxDice ≤ maxDicePerCommand) :
    plan.mostDice = plan.maxDice := by
  simp only [maxDice, maxDicePerCommand, largestDiceTotal] at hlimit ⊢
  omega

theorem mostDice_of_attack {roll : AttackRoll} (hroll : plan.attack = some roll) :
    plan.mostDice = roll.count * roll.dicePerAttack + roll.count * (plan.damageDice * 2) := by
  rw [mostDice, hroll]
  exact Nat.mul_add ..

theorem diceAsked_requests_error (hlimit : plan.maxDice ≤ maxDicePerCommand)
    (seed : UInt64) (cause : DiceError) :
    diceAsked (plan.requests seed (.error cause)) = diceAsked (plan.attackRequests seed) := by
  rw [requests.eq_def, if_neg (Nat.not_lt.2 hlimit)]
  simp

theorem diceAsked_requests_ok (hlimit : plan.maxDice ≤ maxDicePerCommand)
    (seed : UInt64) (attacks : Option (List AttackOutcome)) :
    diceAsked (plan.requests seed (.ok attacks)) =
      diceAsked (plan.attackRequests seed) + diceAsked (plan.damageRequests seed attacks) := by
  rw [requests.eq_def, if_neg (Nat.not_lt.2 hlimit)]
  simp [diceAsked]

/-- A strike rolls the dice of the damage at most twice, and there are at most as many strikes as
attacks. -/
theorem diceAsked_damageRequests_le (seed : UInt64)
    {attacks : Option (List AttackOutcome)}
    (hall : plan.StrikesRollAll attacks) :
    diceAsked (plan.damageRequests seed attacks) ≤
      (attacks.map List.length).getD 1 * (plan.damageDice * 2) := by
  rw [diceAsked_damageRequests seed hall]
  have heach : ∀ dice ∈ ((strikes attacks).filterMap id).map
      (fun strike => plan.damageDice * if strike.critical then 2 else 1),
      dice ≤ plan.damageDice * 2 := by
    intro dice hmem
    obtain ⟨strike, -, rfl⟩ := List.mem_map.1 hmem
    apply Nat.mul_le_mul_left
    split <;> omega
  calc
    _ ≤ (((strikes attacks).filterMap id).map
        (fun strike => plan.damageDice * if strike.critical then 2 else 1)).length •
          (plan.damageDice * 2) := List.sum_le_card_nsmul _ _ heach
    _ ≤ (strikes attacks).length * (plan.damageDice * 2) := by
      rw [List.length_map, smul_eq_mul]
      exact Nat.mul_le_mul_right _ (List.length_filterMap_le ..)
    _ = (attacks.map List.length).getD 1 * (plan.damageDice * 2) := by
      rw [length_strikes]

/-- Whether the requests of a plan, whose attack phase ends in a certain way, keep to the number of
dice that the plan is known by. -/
structure AsksWithin (plan : Plan) (ending : Except DiceError (Option (List AttackOutcome)))
    (made : List Request) : Prop where
  bound : diceAsked made ≤ plan.maxDice
  limit : plan.maxDice ≤ maxDicePerCommand
  /-- Without attacks all dice of the damage are asked for. -/
  automatic : plan.attack = none → diceAsked made = plan.maxDice
  /-- When all attacks are critical, all dice are. -/
  critical : ∀ outcomes, ending = .ok (some outcomes) →
    (∀ outcome ∈ outcomes, outcome.isCritical = true) → diceAsked made = plan.maxDice
  /-- Doubling the dice of a critical never runs into the largest count. -/
  doubled : ∀ attacks, ending = .ok attacks → plan.StrikesRollAll attacks

theorem diceAsked_of_automatic (hlimit : plan.maxDice ≤ maxDicePerCommand)
    (hroll : plan.attack = none) :
    diceAsked (plan.requests control.seed (plan.attackEnding roller control table)) =
      plan.maxDice := by
  have hending : plan.attackEnding roller control table = .ok none := by
    rw [attackEnding, rollAttacks, hroll]
  have hdamage := diceAsked_damageRequests control.seed
    (strikesRollAll_of_attackEnding hlimit hending)
  rw [hending, diceAsked_requests_ok hlimit, hdamage, attackRequests, ← mostDice_eq_maxDice hlimit,
    mostDice, hroll]
  simp [diceAsked, strikes]

theorem diceAsked_le_maxDice (hlimit : plan.maxDice ≤ maxDicePerCommand) :
    diceAsked (plan.requests control.seed (plan.attackEnding roller control table)) ≤
      plan.maxDice := by
  cases hroll : plan.attack with
  | none => exact Nat.le_of_eq (diceAsked_of_automatic hlimit hroll)
  | some roll =>
      rw [← mostDice_eq_maxDice hlimit, mostDice_of_attack hroll]
      cases hending : plan.attackEnding roller control table with
      | error cause =>
          rw [diceAsked_requests_error hlimit, diceAsked_attackRequests hroll]
          exact Nat.le_add_right ..
      | ok attacks =>
          have hlength := length_of_attackEnding hending
          have hbound := diceAsked_damageRequests_le control.seed
            (strikesRollAll_of_attackEnding hlimit hending)
          rw [hlength, hroll] at hbound
          rw [diceAsked_requests_ok hlimit, diceAsked_attackRequests hroll]
          exact Nat.add_le_add_left hbound _

/-- No group that is asked for has more dice than a command may roll. -/
theorem count_le_of_mem_requests (hlimit : plan.maxDice ≤ maxDicePerCommand) {request : Request}
    (hrequest : request ∈ plan.requests control.seed (plan.attackEnding roller control table))
    {group : DiceGroup} (hgroup : group ∈ request.groups) : group.count ≤ maxDicePerCommand :=
  (count_le_diceAsked hrequest hgroup).trans ((diceAsked_le_maxDice hlimit).trans hlimit)

theorem diceAsked_of_criticals (hlimit : plan.maxDice ≤ maxDicePerCommand)
    {outcomes : List AttackOutcome}
    (hending : plan.attackEnding roller control table = .ok (some outcomes))
    (hcritical : ∀ outcome ∈ outcomes, outcome.isCritical = true) :
    diceAsked (plan.requests control.seed (.ok (some outcomes))) = plan.maxDice := by
  have hlength := length_of_attackEnding hending
  obtain ⟨roll, hroll, hcount⟩ := Option.map_eq_some_iff.1 hlength.symm
  have hstrikes := strikes_of_criticals fun outcome hmem =>
    ⟨isHit_of_attackEnding hending hmem (hcritical outcome hmem), hcritical outcome hmem⟩
  have hdamage := diceAsked_damageRequests control.seed
    (strikesRollAll_of_attackEnding hlimit hending)
  rw [diceAsked_requests_ok hlimit, diceAsked_attackRequests hroll, hdamage, hstrikes, ← hcount,
    ← mostDice_eq_maxDice hlimit, mostDice_of_attack hroll]
  simp [Function.comp_def]

/-- A plan that is not refused for its number of dice asks for at most the number it is known by,
which is within the limit, and for exactly that many when it has no attacks or all of them are
critical.  The dice of a critical are doubled without being cut off. -/
theorem dice_within (hrefused : ∀ count,
    (plan.resolve roller control table).1 ≠ .error (.tooManyDice count)) :
    ∃ made, Table.Asked roller table made (plan.resolve roller control table).2 ∧
      plan.AsksWithin (plan.attackEnding roller control table) made := by
  have hlimit : plan.maxDice ≤ maxDicePerCommand := by
    by_contra hover
    apply hrefused plan.maxDice
    rw [resolve, if_pos (Nat.not_le.1 hover)]
  exact ⟨_, plan.asked_resolve roller control table,
    { bound := diceAsked_le_maxDice hlimit
      limit := hlimit
      automatic := diceAsked_of_automatic hlimit
      critical := by
        intro outcomes hending hcritical
        rw [hending]
        exact diceAsked_of_criticals hlimit hending hcritical
      doubled := fun attacks hending => strikesRollAll_of_attackEnding hlimit hending }⟩

/-- Two criticals ask for all the dice that are counted beforehand. -/
theorem dice_within_criticals :
    let plan : Plan := ⟨some ⟨2, .advantage, [], [⟨.plus, .dice 1 4⟩]⟩, some ⟨15, 0⟩,
      some [⟨.plus, .dice 3 6, []⟩], none, ⟨[], [], []⟩⟩
    let table : Table ScriptedDice := ⟨.ofValues [20, 1, 4, 2, 20, 1, 36, 20] none, .absent, []⟩
    let control : Control := ⟨.ofMillis 12000, 0⟩
    let rolled := plan.resolve ScriptedDice.roller control table
    diceAsked rolled.2.requests = 18 ∧ ∃ made,
      Table.Asked ScriptedDice.roller table made rolled.2 ∧
      plan.AsksWithin (plan.attackEnding ScriptedDice.roller control table) made := by
  intro plan table control rolled
  have hasked : diceAsked rolled.2.requests = 18 := by
    decide +kernel
  refine ⟨hasked, dice_within ?_⟩
  intro count
  have hok : rolled.1.isOk = true := by
    decide +kernel
  intro herror
  rw [herror] at hok
  cases hok

end Plan

end Skirmish
