import Mathlib.Control.Monad.Basic
import Skirmish.Dice.Scripted
import Skirmish.Proofs.Resolution.Reply

/-!
# What an attack is made of

The slots of an attack are handed out by going through the dice terms of its bonus, and read back by
a counter that runs along with the terms.  Both come to the same: a dice term is in the slot behind
the d20s and behind as many slots as there are dice terms before it.
-/

namespace Skirmish

variable {σ : Type}

/-- What a signed term adds when its dice, if it has any, are in a slot of an attack. -/
def Term.share (term : Term) (reply : List GroupTotal) (place : GroupId) (color : Text) : Int :=
  term.sign.apply <|
    match term.amount with
    | .flat value => value
    | .dice count sides =>
        if count = 0 then 0 else DiceGroup.shown ⟨place, count, sides, color⟩ reply

/-- How many terms have dice. -/
def diceTerms (terms : List Term) : Nat :=
  terms.countP fun term => term.amount.isDice

namespace RollMode

theorem d20s_of_die (mode : RollMode) (die : Nat → Int) :
    (List.range mode.d20Count).map die =
      match mode with
      | .normal => [die 0]
      | .advantage | .disadvantage => [die 0, die 1] := by
  cases mode <;> rfl

theorem kept_of_die (mode : RollMode) (die : Nat → Int) :
    mode.kept ((List.range mode.d20Count).map die) =
      match mode with
      | .normal => die 0
      | .advantage => max (die 0) (die 1)
      | .disadvantage => min (die 0) (die 1) := by
  cases mode <;> rfl

theorem isCritical_of_die (mode : RollMode) (die : Nat → Int) :
    mode.isCritical ((List.range mode.d20Count).map die) = true ↔
      match mode with
      | .normal => die 0 = 20
      | .advantage => die 0 = 20 ∨ die 1 = 20
      | .disadvantage => die 0 = 20 ∧ die 1 = 20 := by
  rw [d20s_of_die]
  cases mode with
  | normal => simp [isCritical, criticalFace]
  | advantage => simp [isCritical, criticalFace, eq_comm (a := (20 : Int))]
  | disadvantage => simp [isCritical, criticalFace]

end RollMode

namespace AttackRoll

/-- What the reply shows for a d20 of an attack. -/
def d20 (roll : AttackRoll) (reply : List GroupTotal) (attack slot : Nat) : Int :=
  (DiceGroup.d20 ⟨attack, slot⟩ roll.color).shown reply

/-- What the terms of the bonus add to an attack. -/
def shares (roll : AttackRoll) (reply : List GroupTotal) (attack : Nat) : List Int :=
  roll.bonus.mapIdx fun position term =>
    term.share reply ⟨attack, roll.mode.d20Count + diceTerms (roll.bonus.take position)⟩ roll.color

/-- The result that an attack has from a reply. -/
structure Yields (roll : AttackRoll) (armorClass : Option Int) (reply : List GroupTotal)
    (attack : Nat) (outcome : AttackOutcome) : Prop where
  d20s : outcome.d20s =
    match roll.mode with
    | .normal => [roll.d20 reply attack 0]
    | .advantage | .disadvantage => [roll.d20 reply attack 0, roll.d20 reply attack 1]
  total : outcome.total =
    Points.add
      (match roll.mode with
      | .normal => roll.d20 reply attack 0
      | .advantage => max (roll.d20 reply attack 0) (roll.d20 reply attack 1)
      | .disadvantage => min (roll.d20 reply attack 0) (roll.d20 reply attack 1))
      (Points.sum (roll.shares reply attack))
  isCritical : outcome.isCritical = true ↔
    match roll.mode with
    | .normal => roll.d20 reply attack 0 = 20
    | .advantage => roll.d20 reply attack 0 = 20 ∨ roll.d20 reply attack 1 = 20
    | .disadvantage => roll.d20 reply attack 0 = 20 ∧ roll.d20 reply attack 1 = 20
  isHit : outcome.isHit = true ↔
    armorClass = none ∨ outcome.isCritical = true ∨
      ∃ goal, armorClass = some goal ∧ goal ≤ outcome.total

theorem diceTerms_cons (term : Term) (terms : List Term) :
    diceTerms (term :: terms) = diceTerms terms + if term.amount.isDice then 1 else 0 := by
  rw [diceTerms, List.countP_cons]
  rfl

/-- The dice of a bonus are in slots from the first one on. -/
theorem place_of_mem_bonusGroups {attack slot : Nat} {color : Text} {terms : List Term}
    {group : DiceGroup} (hmem : group ∈ bonusGroups attack color slot terms) :
    group.id.attack = attack ∧ slot ≤ group.id.slot := by
  induction terms generalizing slot with
  | nil => cases hmem
  | cons term terms ih =>
      cases term with
      | mk sign amount =>
          cases amount with
          | dice count sides =>
              cases hmem with
              | head => exact ⟨rfl, Nat.le_refl slot⟩
              | tail _ hrest =>
                  obtain ⟨hattack, hslot⟩ := ih hrest
                  exact ⟨hattack, Nat.le_of_succ_le hslot⟩
          | flat value => exact ih hmem

theorem nodup_bonusGroups (attack slot : Nat) (color : Text) (terms : List Term) :
    ((bonusGroups attack color slot terms).map DiceGroup.id).Nodup := by
  induction terms generalizing slot with
  | nil => exact List.nodup_nil
  | cons term terms ih =>
      cases term with
      | mk sign amount =>
          cases amount with
          | dice count sides =>
              refine List.nodup_cons.2 ⟨?_, ih (slot + 1)⟩
              intro hmem
              obtain ⟨group, hgroup, hid⟩ := List.mem_map.1 hmem
              have hslot := (place_of_mem_bonusGroups hgroup).2
              rw [hid] at hslot
              exact Nat.not_succ_le_self slot hslot
          | flat value => exact ih slot

/-- Behind a first term, the slots begin one later if that term has dice. -/
theorem slot_behind (first : Term) (terms : List Term) (slot position : Nat) :
    slot + diceTerms ((first :: terms).take (position + 1)) =
      slot + (if first.amount.isDice then 1 else 0) + diceTerms (terms.take position) := by
  rw [List.take_succ_cons, diceTerms_cons, Nat.add_assoc, Nat.add_comm (diceTerms _)]

/-- The values of the terms are their shares: the running slot of a term counts the dice terms
before it. -/
theorem bonusValues_eq_shares {totals : Totals} {reply : List GroupTotal} {attack slot : Nat}
    {color : Text} {terms : List Term}
    (hreads : totals.Reads reply (bonusGroups attack color slot terms)) :
    bonusValues totals attack slot terms =
      terms.mapIdx fun position term =>
        term.share reply ⟨attack, slot + diceTerms (terms.take position)⟩ color := by
  -- The slot moves with the induction, as the counter does.
  induction terms generalizing slot with
  | nil => rfl
  | cons term terms ih =>
      simp only [List.mapIdx_cons, slot_behind]
      cases term with
      | mk sign amount =>
          cases amount with
          | dice count sides =>
              have hhead := hreads _ List.mem_cons_self
              have hvalue : totals ⟨attack, slot⟩ =
                  if count = 0 then 0
                  else DiceGroup.shown ⟨⟨attack, slot⟩, count, sides, color⟩ reply := by
                by_cases hcount : count = 0
                · rw [if_pos hcount, hhead]
                  exact DiceGroup.shown_eq_zero hcount reply
                · rw [if_neg hcount, hhead]
              have hrest := ih fun group hmem => hreads group (List.mem_cons_of_mem _ hmem)
              rw [bonusValues, hvalue, hrest]
              rfl
          | flat value =>
              rw [bonusValues, ih hreads]
              rfl

theorem attack_of_mem_groups {roll : AttackRoll} {attack : Nat} {group : DiceGroup}
    (hmem : group ∈ roll.groups attack) : group.id.attack = attack := by
  cases List.mem_append.1 hmem with
  | inl hd20 =>
      obtain ⟨slot, -, rfl⟩ := List.mem_map.1 hd20
      rfl
  | inr hbonus => exact (place_of_mem_bonusGroups hbonus).1

theorem nodup_groups (roll : AttackRoll) (attack : Nat) :
    ((roll.groups attack).map DiceGroup.id).Nodup := by
  have hd20s : (((List.range roll.mode.d20Count).map fun slot =>
      DiceGroup.d20 ⟨attack, slot⟩ roll.color).map DiceGroup.id).Nodup := by
    rw [List.map_map]
    apply List.pairwise_map.2
    apply List.nodup_range.imp
    intro left right hne heq
    exact hne (GroupId.mk.inj heq).2
  rw [groups, List.map_append, List.nodup_append]
  refine ⟨hd20s, nodup_bonusGroups .., ?_⟩
  intro id hid other hother heq
  obtain ⟨group, hgroup, rfl⟩ := List.mem_map.1 hid
  obtain ⟨slot, hslot, rfl⟩ := List.mem_map.1 hgroup
  obtain ⟨bonus, hbonus, rfl⟩ := List.mem_map.1 hother
  have hlow : slot < roll.mode.d20Count := List.mem_range.1 hslot
  have hhigh := (place_of_mem_bonusGroups hbonus).2
  rw [← heq] at hhigh
  exact Nat.not_le.2 hlow hhigh

theorem nodup_allGroups (roll : AttackRoll) : (roll.allGroups.map DiceGroup.id).Nodup := by
  have hattacks : ((List.range roll.count).map fun attack => attack).Nodup := by
    rw [List.map_id']
    exact List.nodup_range
  apply DiceGroup.nodup_ids_flatMap hattacks
  · intro attack _
    exact roll.nodup_groups attack
  · intro attack _ group hmem
    exact attack_of_mem_groups hmem

theorem isHit_evaluate (mode : RollMode) (d20s : List Int) (bonus : Int)
    (armorClass : Option Int) :
    (AttackOutcome.evaluate mode d20s bonus armorClass).isHit = true ↔
      armorClass = none ∨ mode.isCritical d20s = true ∨
        ∃ goal, armorClass = some goal ∧ goal ≤ Points.add (mode.kept d20s) bonus := by
  cases armorClass <;> simp [AttackOutcome.evaluate]

/-- Totals that read the groups of an attack from a reply make the result that it yields. -/
theorem yields_outcome {roll : AttackRoll} {armorClass : Option Int} {totals : Totals}
    {reply : List GroupTotal} {attack : Nat} (hreads : totals.Reads reply (roll.groups attack)) :
    roll.Yields armorClass reply attack (roll.outcome armorClass totals attack) := by
  have hd20 : ∀ slot < roll.mode.d20Count, totals ⟨attack, slot⟩ = roll.d20 reply attack slot := by
    intro slot hslot
    have hmem : DiceGroup.d20 ⟨attack, slot⟩ roll.color ∈ roll.groups attack :=
      List.mem_append_left _ (List.mem_map.2 ⟨slot, List.mem_range.2 hslot, rfl⟩)
    exact hreads _ hmem
  have hd20s : (List.range roll.mode.d20Count).map (fun slot => totals ⟨attack, slot⟩) =
      (List.range roll.mode.d20Count).map (roll.d20 reply attack) := by
    apply List.map_congr_left
    intro slot hslot
    exact hd20 slot (List.mem_range.1 hslot)
  have hbonus : bonusValues totals attack roll.mode.d20Count roll.bonus =
      roll.shares reply attack :=
    bonusValues_eq_shares fun group hmem => hreads group (List.mem_append_right _ hmem)
  have houtcome : roll.outcome armorClass totals attack =
      AttackOutcome.evaluate roll.mode
        ((List.range roll.mode.d20Count).map (roll.d20 reply attack))
        (Points.sum (roll.shares reply attack)) armorClass := by
    rw [outcome, hd20s, hbonus]
  have hhit := isHit_evaluate roll.mode
    ((List.range roll.mode.d20Count).map (roll.d20 reply attack))
    (Points.sum (roll.shares reply attack)) armorClass
  rw [houtcome]
  refine ⟨roll.mode.d20s_of_die _, ?_, roll.mode.isCritical_of_die _, hhit⟩
  rw [← RollMode.kept_of_die]
  rfl

end AttackRoll

namespace Plan

/-- The attack phase of a plan with attacks: a reply of the roller, and what the attacks yield. -/
theorem exists_reply_of_rollAttacks {plan : Plan} {roller : Roller σ} {control : Control}
    {table after : Table σ} {roll : AttackRoll} {attacks : Option (List AttackOutcome)}
    (hroll : plan.attack = some roll)
    (hok : plan.rollAttacks roller control table = (.ok attacks, after)) :
    ∃ (reply : List GroupTotal) (totals : Totals),
      roller.Replies .attack control.seed roll.allGroups table.dice reply after.dice ∧
      totals.Reads reply roll.allGroups ∧
      attacks = some (roll.outcomes plan.armorClass totals) := by
  simp only [rollAttacks, hroll] at hok
  obtain ⟨totals, hphase, rfl⟩ := Table.exists_totals_of_map hok
  obtain ⟨reply, hreply, hreads⟩ := Table.exists_reply_of_roll roll.nodup_allGroups hphase
  exact ⟨reply, totals, hreply, hreads, rfl⟩

/-- An attack phase that succeeds has an outcome for each attack, which is what the attack yields
from the reply. -/
theorem exists_yields_of_rollAttacks {plan : Plan} {roller : Roller σ} {control : Control}
    {table after : Table σ} {roll : AttackRoll} {attacks : Option (List AttackOutcome)}
    (hroll : plan.attack = some roll)
    (hok : plan.rollAttacks roller control table = (.ok attacks, after)) :
    ∃ reply outcomes,
      roller.Replies .attack control.seed roll.allGroups table.dice reply after.dice ∧
      attacks = some outcomes ∧ outcomes.length = roll.count ∧
      ∀ attack outcome, outcomes[attack]? = some outcome →
        roll.Yields plan.armorClass reply attack outcome := by
  obtain ⟨reply, totals, hreply, hreads, hsome⟩ := exists_reply_of_rollAttacks hroll hok
  refine ⟨reply, roll.outcomes plan.armorClass totals, hreply, hsome, ?_, ?_⟩
  · rw [AttackRoll.outcomes, List.length_map, List.length_range]
  · intro attack outcome hfound
    rw [AttackRoll.outcomes, List.getElem?_map] at hfound
    obtain ⟨index, hindex, rfl⟩ := Option.map_eq_some_iff.1 hfound
    obtain ⟨hbound, rfl⟩ := List.getElem?_eq_some_iff.1 hindex
    rw [List.getElem_range]
    rw [List.length_range] at hbound
    apply AttackRoll.yields_outcome
    intro group hmem
    exact hreads group (List.mem_flatMap.2 ⟨attack, List.mem_range.2 hbound, hmem⟩)

/-- A resolved plan with attacks has an outcome for each of them, and each outcome is what its
attack yields from the reply to the attack phase. -/
theorem attacks_of_resolve {plan : Plan} {roller : Roller σ} {control : Control}
    {table after : Table σ} {resolution : Resolution} {roll : AttackRoll}
    (hroll : plan.attack = some roll)
    (hok : plan.resolve roller control table = (.ok resolution, after)) :
    ∃ reply dice outcomes,
      roller.Replies .attack control.seed roll.allGroups table.dice reply dice ∧
      resolution.attacks = some outcomes ∧ outcomes.length = roll.count ∧
      ∀ attack outcome, outcomes[attack]? = some outcome →
        roll.Yields plan.armorClass reply attack outcome := by
  obtain ⟨-, middle, hattacks, -, -⟩ := exists_phases_of_resolve hok
  obtain ⟨reply, outcomes, hreply, hyields⟩ := exists_yields_of_rollAttacks hroll hattacks
  exact ⟨reply, middle.dice, outcomes, hreply, hyields⟩

/-- The second attack has its die in the slot behind that of no dice, and a die that shows 21 does
not count. -/
theorem attacks_of_two_rolls :
    let roll : AttackRoll := ⟨2, .advantage, [],
      [⟨.plus, .flat 3⟩, ⟨.minus, .dice 0 6⟩, ⟨.plus, .dice 1 4⟩]⟩
    let plan : Plan := ⟨some roll, some ⟨15, 0⟩, none, none, ⟨[], [], []⟩⟩
    let table : Table ScriptedDice := ⟨.ofValues [12, 20, 3, 7, 21, 4] none, .absent, []⟩
    let resolution : Resolution :=
      ⟨some [⟨true, true, 26, [12, 20]⟩, ⟨false, false, 14, [7, 0]⟩], none, 0, none⟩
    (plan.resolve ScriptedDice.roller ⟨.ofMillis 12000, 0⟩ table).1 = .ok resolution ∧
      ∃ reply outcomes, resolution.attacks = some outcomes ∧ outcomes.length = 2 ∧
        ∀ attack outcome, outcomes[attack]? = some outcome →
          roll.Yields (some 15) reply attack outcome := by
  intro roll plan table resolution
  have hresult : (plan.resolve ScriptedDice.roller ⟨.ofMillis 12000, 0⟩ table).1 =
      .ok resolution := by
    decide +kernel
  have hok : plan.resolve ScriptedDice.roller ⟨.ofMillis 12000, 0⟩ table =
      (.ok resolution, (plan.resolve ScriptedDice.roller ⟨.ofMillis 12000, 0⟩ table).2) := by
    rw [← hresult]
  obtain ⟨reply, dice, outcomes, -, hattacks, hlength, hyields⟩ := attacks_of_resolve rfl hok
  exact ⟨hresult, reply, outcomes, hattacks, hlength, hyields⟩

end Plan

end Skirmish
