import Skirmish.Proofs.Points
import Skirmish.Proofs.Resolution.Attacks

/-!
# What the damage is made of

The damage phase knows only the strikes that hit, and its groups are keyed by the position of the
attack and the position of the component.  So every hit reads the dice of its own components, twice
as many when it is critical, and the damage in all is the exact sum of the wounds, cut off at the
largest number of points.
-/

namespace Skirmish

variable {σ : Type}

namespace Resolution

/-- Whether an attack hit.  Without attack rolls the only attack does. -/
def hitAt (resolution : Resolution) (attack : Nat) : Bool :=
  match resolution.attacks with
  | none => true
  | some outcomes => outcomes[attack]?.any AttackOutcome.isHit

/-- Whether an attack was critical, which takes an attack roll. -/
def criticalAt (resolution : Resolution) (attack : Nat) : Bool :=
  match resolution.attacks with
  | none => false
  | some outcomes => outcomes[attack]?.any AttackOutcome.isCritical

end Resolution

namespace Component

/-- What a component comes to before its sign, when its dice, if it has any, are in the place. -/
def magnitude (component : Component) (reply : List GroupTotal) (place : GroupId)
    (critical : Bool) : Int :=
  match component.amount with
  | .flat value => value
  | .dice count sides =>
      if count = 0 then 0
      else DiceGroup.shown
        ⟨place, if critical then 2 * count else count, sides, component.damageType⟩ reply

/-- The wound that a component causes. -/
def woundOf (component : Component) (defenses : Defenses) (reply : List GroupTotal)
    (place : GroupId) (critical : Bool) : Wound :=
  ⟨defenses.apply (max 0 (component.sign.apply (component.magnitude reply place critical)))
    component.damageType, component.damageType⟩

end Component

/-- The slot of an attack, from whether it hit, whether it was critical, and the reply. -/
def Plan.slotOf (plan : Plan) (components : List Component) (resolution : Resolution)
    (reply : List GroupTotal) (attack : Nat) : DamageSlot :=
  if resolution.hitAt attack then
    .hit (components.mapIdx fun position component =>
      component.woundOf plan.defenses reply ⟨attack, position⟩ (resolution.criticalAt attack))
  else .miss

namespace Strike

variable {strike : Strike} {components : List Component}

/-- The group of the component at a position. -/
def group? (strike : Strike) (placed : Component × Nat) : Option DiceGroup :=
  match placed.1.amount with
  | .dice count sides =>
      some ⟨⟨strike.attack, placed.2⟩, strike.diceCount count, sides, placed.1.damageType⟩
  | .flat _ => none

theorem groups_eq_filterMap (strike : Strike) (components : List Component) :
    strike.groups components = components.zipIdx.filterMap strike.group? :=
  rfl

theorem id_of_group? {placed : Component × Nat} {group : DiceGroup}
    (hgroup : strike.group? placed = some group) : group.id = ⟨strike.attack, placed.2⟩ := by
  rw [group?] at hgroup
  split at hgroup
  · cases hgroup
    rfl
  · cases hgroup

theorem attack_of_mem_groups {group : DiceGroup} (hmem : group ∈ strike.groups components) :
    group.id.attack = strike.attack := by
  rw [groups_eq_filterMap] at hmem
  obtain ⟨placed, -, hgroup⟩ := List.mem_filterMap.1 hmem
  rw [id_of_group? hgroup]

/-- The dice of a component are in the slot of its position. -/
theorem mem_groups {component : Component} {position count sides : Nat}
    (hcomponent : components[position]? = some component)
    (hamount : component.amount = .dice count sides) :
    ⟨⟨strike.attack, position⟩, strike.diceCount count, sides, component.damageType⟩ ∈
      strike.groups components := by
  rw [groups_eq_filterMap]
  apply List.mem_filterMap.2
  refine ⟨(component, position), List.mk_mem_zipIdx_iff_getElem?.2 hcomponent, ?_⟩
  simp only [group?, hamount]

theorem nodup_groups (strike : Strike) (components : List Component) :
    ((strike.groups components).map DiceGroup.id).Nodup := by
  have hpositions : components.zipIdx.Pairwise fun left right => left.2 ≠ right.2 := by
    apply List.pairwise_map.1
    rw [List.zipIdx_map_snd]
    exact List.nodup_range'
  rw [groups_eq_filterMap]
  apply List.pairwise_map.2
  apply List.pairwise_filterMap.2
  apply hpositions.imp
  intro left right hne group hgroup other hother heq
  rw [id_of_group? hgroup, id_of_group? hother] at heq
  exact hne (GroupId.mk.inj heq).2

/-- Whether a strike rolls all dice of the components, and twice as many if it is critical. -/
def RollsAll (strike : Strike) (components : List Component) : Prop :=
  ∀ component ∈ components, strike.diceCount component.amount.diceCount =
    if strike.critical then 2 * component.amount.diceCount else component.amount.diceCount

/-- The number of dice is cut off at the largest count, which matters to criticals only. -/
theorem rollsAll_of_doubled (hdoubled : strike.critical = true →
    ∀ component ∈ components, component.amount.diceCount * 2 ≤ largestCount) :
    strike.RollsAll components := by
  intro component hmem
  by_cases hcritical : strike.critical = true
  · have hroom := hdoubled hcritical component hmem
    rw [diceCount, if_pos hcritical, if_pos hcritical, Nat.min_eq_left hroom, Nat.mul_comm]
  · rw [diceCount, if_neg hcritical, if_neg hcritical]

/-- A strike that rolls all of its dice causes the wounds that its components come to in the
reply. -/
theorem wounds_eq_mapIdx {defenses : Defenses} {totals : Totals} {reply : List GroupTotal}
    (hreads : totals.Reads reply (strike.groups components))
    (hall : strike.RollsAll components) :
    strike.wounds components defenses totals =
      components.mapIdx fun position component =>
        component.woundOf defenses reply ⟨strike.attack, position⟩ strike.critical := by
  rw [wounds, List.mapIdx_eq_zipIdx_map]
  apply List.map_congr_left
  intro placed hplaced
  obtain ⟨component, position⟩ := placed
  have hcomponent := List.mk_mem_zipIdx_iff_getElem?.1 hplaced
  have hdoubled := hall component (List.mem_of_getElem? hcomponent)
  cases hamount : component.amount with
  | flat value => simp only [hamount, wound, Component.woundOf, Component.magnitude]
  | dice count sides =>
      have htotal := hreads _ (mem_groups hcomponent hamount)
      rw [hamount, Amount.diceCount] at hdoubled
      have hmagnitude : totals ⟨strike.attack, position⟩ =
          component.magnitude reply ⟨strike.attack, position⟩ strike.critical := by
        simp only [Component.magnitude, hamount]
        rw [htotal, hdoubled]
        by_cases hcount : count = 0
        · rw [if_pos hcount, DiceGroup.shown_eq_zero]
          simp [hcount]
        · rw [if_neg hcount]
      simp only [hamount, wound, Component.woundOf, hmagnitude]

end Strike

namespace Plan

theorem length_strikes (attacks : Option (List AttackOutcome)) :
    (strikes attacks).length = (attacks.map List.length).getD 1 := by
  cases attacks with
  | none => rfl
  | some outcomes => simp [strikes]

/-- The strike of an attack, if it hit. -/
theorem getElem?_strikes {resolution : Resolution} {attack : Nat} {entry : Option Strike}
    (hentry : (strikes resolution.attacks)[attack]? = some entry) :
    entry = if resolution.hitAt attack then some ⟨attack, resolution.criticalAt attack⟩
      else none := by
  cases hattacks : resolution.attacks with
  | none =>
      rw [hattacks, strikes] at hentry
      obtain ⟨hbound, rfl⟩ := List.getElem?_eq_some_iff.1 hentry
      obtain rfl : attack = 0 := by simpa using hbound
      simp [Resolution.hitAt, Resolution.criticalAt, hattacks]
  | some outcomes =>
      rw [hattacks, strikes, List.getElem?_map, List.getElem?_zipIdx, Option.map_map] at hentry
      obtain ⟨outcome, houtcome, rfl⟩ := Option.map_eq_some_iff.1 hentry
      simp [Resolution.hitAt, Resolution.criticalAt, hattacks, houtcome]

theorem nodup_damageGroups (components : List Component) (resolution : Resolution) :
    ((damageGroups components (strikes resolution.attacks)).map DiceGroup.id).Nodup := by
  have hstrike : ∀ (attack : Nat) (strike : Strike),
      (strikes resolution.attacks)[attack]? = some (some strike) → strike.attack = attack := by
    intro attack strike hfound
    have hentry := getElem?_strikes hfound
    split at hentry
    · cases hentry
      rfl
    · cases hentry
  have hattacks : (((strikes resolution.attacks).filterMap id).map Strike.attack).Nodup := by
    apply List.pairwise_map.2
    apply List.pairwise_filterMap.2
    apply List.pairwise_iff_getElem.2
    intro first second hfirst hsecond hlt strike hstrike' other hother heq
    have hleft := hstrike first strike (List.getElem?_eq_some_iff.2 ⟨hfirst, hstrike'⟩)
    have hright := hstrike second other (List.getElem?_eq_some_iff.2 ⟨hsecond, hother⟩)
    omega
  apply DiceGroup.nodup_ids_flatMap hattacks
  · intro strike _
    exact strike.nodup_groups components
  · intro strike _ group hmem
    exact Strike.attack_of_mem_groups hmem

/-- The hits among the strikes are the hits among the outcomes. -/
theorem countP_strikes (outcomes : List AttackOutcome) :
    (strikes (some outcomes)).countP Option.isSome = outcomes.countP AttackOutcome.isHit := by
  have htest : (Option.isSome ∘ fun placed : AttackOutcome × Nat =>
      if placed.1.isHit then some (⟨placed.2, placed.1.isCritical⟩ : Strike) else none) =
      AttackOutcome.isHit ∘ Prod.fst := by
    funext placed
    cases hhit : placed.1.isHit <;> simp [hhit]
  calc
    (strikes (some outcomes)).countP Option.isSome =
        outcomes.zipIdx.countP (AttackOutcome.isHit ∘ Prod.fst) := by
      rw [strikes, List.countP_map, ← htest]
    _ = (outcomes.zipIdx.map Prod.fst).countP AttackOutcome.isHit := List.countP_map.symm
    _ = outcomes.countP AttackOutcome.isHit := by rw [List.zipIdx_map_fst]

theorem diceCount_le_damageDice {plan : Plan} {components : List Component}
    (hdamage : plan.damage = some components) {component : Component}
    (hmem : component ∈ components) : component.amount.diceCount ≤ plan.damageDice := by
  rw [damageDice, hdamage, Option.getD_some]
  clear hdamage
  induction components with
  | nil => cases hmem
  | cons first components ih =>
      rw [List.map_cons, diceIn]
      cases hmem with
      | head => exact Nat.le_add_right ..
      | tail _ hrest => exact Nat.le_add_left_of_le (ih hrest)

/-- Within the limit of dice, the dice of a critical can be doubled. -/
theorem diceCount_doubled {plan : Plan} {roll : AttackRoll} {components : List Component}
    (hlimit : plan.maxDice ≤ maxDicePerCommand) (hroll : plan.attack = some roll)
    (hcount : 0 < roll.count) (hdamage : plan.damage = some components) {component : Component}
    (hmem : component ∈ components) : component.amount.diceCount * 2 ≤ largestCount := by
  have hdice := diceCount_le_damageDice hdamage hmem
  have hmost : plan.damageDice * 2 ≤ plan.mostDice := by
    rw [mostDice, hroll]
    calc
      plan.damageDice * 2 ≤ roll.dicePerAttack + plan.damageDice * 2 := Nat.le_add_left ..
      _ ≤ roll.count * (roll.dicePerAttack + plan.damageDice * 2) :=
        Nat.le_mul_of_pos_left _ hcount
  simp only [maxDice, maxDicePerCommand, largestDiceTotal] at hlimit
  simp only [largestCount]
  omega

end Plan

theorem Defenses.apply_nonneg (defenses : Defenses) {value : Int} (hvalue : 0 ≤ value)
    (damageType : Text) : 0 ≤ defenses.apply value damageType := by
  have hhalf : 0 ≤ if defenses.isResistant damageType then value / 2 else value := by
    split
    · omega
    · exact hvalue
  rw [apply]
  split
  · exact Int.le_refl 0
  · dsimp only
    split
    · simp only [Points.double, Points.clamp, Points.lowest, Points.highest]
      omega
    · exact hhalf

theorem Component.woundOf_nonneg (component : Component) (defenses : Defenses)
    (reply : List GroupTotal) (place : GroupId) (critical : Bool) :
    0 ≤ (component.woundOf defenses reply place critical).value :=
  defenses.apply_nonneg (Int.le_max_left ..) _

namespace Plan

/-- Whether the attack phase leads the roller from one state to the other. -/
def AttacksLead (plan : Plan) (roller : Roller σ) (control : Control) (before after : σ) : Prop :=
  match plan.attack with
  | none => after = before
  | some roll => ∃ reply, roller.Replies .attack control.seed roll.allGroups before reply after

/-- What holds of the parts of a resolution among each other. -/
structure Accounts (plan : Plan) (resolution : Resolution) : Prop where
  attacks : resolution.attacks = none ↔ plan.attack = none
  damage : resolution.damage = none ↔ plan.damage = none
  notNegative : ∀ slots, resolution.damage = some slots →
    ∀ slot ∈ slots, ∀ wound ∈ slot.wounds, 0 ≤ wound.value
  totalDamage : resolution.totalDamage =
    min Points.highest (((resolution.damage.getD []).flatMap DamageSlot.wounds).map Wound.value).sum
  hitPoints : resolution.hitPoints =
    plan.hitPoints.map fun old => ⟨old, Points.clamp (old - resolution.totalDamage)⟩
  hits : ∀ outcomes slots, resolution.attacks = some outcomes → resolution.damage = some slots →
    resolution.hits = slots.countP fun slot => !slot.isMiss

variable {plan : Plan} {roller : Roller σ} {control : Control} {table after : Table σ}

/-- The damage phase of a plan with damage: a reply of the roller, and the slots of the strikes. -/
theorem exists_reply_of_rollDamage {components : List Component} {resolution : Resolution}
    (hcomponents : plan.damage = some components)
    (hok : plan.rollDamage roller control (strikes resolution.attacks) table =
      (.ok resolution.damage, after)) :
    ∃ (reply : List GroupTotal) (totals : Totals),
      roller.Replies .damage (control.seed + 1)
        (damageGroups components (strikes resolution.attacks)) table.dice reply after.dice ∧
      totals.Reads reply (damageGroups components (strikes resolution.attacks)) ∧
      resolution.damage = some ((strikes resolution.attacks).map
        (damageSlot components plan.defenses totals)) := by
  simp only [rollDamage, hcomponents] at hok
  obtain ⟨totals, hphase, hslots⟩ := Table.exists_totals_of_map hok
  obtain ⟨reply, hreply, hreads⟩ :=
    Table.exists_reply_of_roll (nodup_damageGroups components resolution) hphase
  exact ⟨reply, totals, hreply, hreads, hslots⟩

/-- The slot of a strike is that of its attack. -/
theorem damageSlot_eq_slotOf {components : List Component} {resolution : Resolution}
    {totals : Totals} {reply : List GroupTotal} {attack : Nat} {entry : Option Strike}
    (hreads : totals.Reads reply (damageGroups components (strikes resolution.attacks)))
    (hdoubled : resolution.criticalAt attack = true →
      ∀ component ∈ components, component.amount.diceCount * 2 ≤ largestCount)
    (hentry : (strikes resolution.attacks)[attack]? = some entry) :
    damageSlot components plan.defenses totals entry =
      plan.slotOf components resolution reply attack := by
  have hstrike := getElem?_strikes hentry
  rw [slotOf]
  split at hstrike
  · next hhit =>
    rw [if_pos hhit]
    have hmem : some ⟨attack, resolution.criticalAt attack⟩ ∈ strikes resolution.attacks :=
      hstrike ▸ List.mem_of_getElem? hentry
    have hgroups : totals.Reads reply
        (Strike.groups ⟨attack, resolution.criticalAt attack⟩ components) := by
      intro group hgroup
      apply hreads group
      exact List.mem_flatMap.2 ⟨_, List.mem_filterMap.2 ⟨_, hmem, rfl⟩, hgroup⟩
    have hall : Strike.RollsAll ⟨attack, resolution.criticalAt attack⟩ components :=
      Strike.rollsAll_of_doubled hdoubled
    rw [hstrike, damageSlot, Strike.wounds_eq_mapIdx hgroups hall]
  · next hmiss =>
    rw [if_neg hmiss, hstrike, damageSlot]

/-- The attack phase gives an outcome to each attack, if there are attacks. -/
theorem attacksLead_of_rollAttacks {attacks : Option (List AttackOutcome)}
    (hok : plan.rollAttacks roller control table = (.ok attacks, after)) :
    plan.AttacksLead roller control table.dice after.dice ∧
      attacks.map List.length = plan.attack.map AttackRoll.count := by
  rw [AttacksLead]
  cases hroll : plan.attack with
  | none =>
      simp only [rollAttacks, hroll] at hok
      cases hok
      exact ⟨rfl, rfl⟩
  | some roll =>
      obtain ⟨reply, outcomes, hreply, rfl, hlength, -⟩ := exists_yields_of_rollAttacks hroll hok
      refine ⟨⟨reply, hreply⟩, ?_⟩
      rw [Option.map_some, Option.map_some, hlength]

/-- Only plans with attacks have criticals, so the dice of a critical were counted twice. -/
theorem doubled_of_critical {components : List Component} {resolution : Resolution} {attack : Nat}
    (hlimit : plan.maxDice ≤ maxDicePerCommand) (hdamage : plan.damage = some components)
    (hlength : resolution.attacks.map List.length = plan.attack.map AttackRoll.count)
    (hcritical : resolution.criticalAt attack = true) :
    ∀ component ∈ components, component.amount.diceCount * 2 ≤ largestCount := by
  rw [Resolution.criticalAt] at hcritical
  split at hcritical
  · cases hcritical
  · next outcomes hattacks =>
    rw [hattacks, Option.map_some] at hlength
    obtain ⟨roll, hroll, hcount⟩ := Option.map_eq_some_iff.1 hlength.symm
    obtain ⟨outcome, houtcome, -⟩ := (Option.any_eq_true ..).1 hcritical
    have hpositive : 0 < roll.count := by
      rw [hcount]
      exact Nat.zero_lt_of_lt (List.getElem?_eq_some_iff.1 houtcome).1
    intro component hmem
    exact diceCount_doubled hlimit hroll hpositive hdamage hmem

/-- The slots of the damage phase, attack by attack. -/
theorem slots_of_rollDamage {components : List Component} {resolution : Resolution}
    (hlimit : plan.maxDice ≤ maxDicePerCommand) (hcomponents : plan.damage = some components)
    (hlength : resolution.attacks.map List.length = plan.attack.map AttackRoll.count)
    (hok : plan.rollDamage roller control (strikes resolution.attacks) table =
      (.ok resolution.damage, after)) :
    ∃ reply,
      roller.Replies .damage (control.seed + 1)
        (damageGroups components (strikes resolution.attacks)) table.dice reply after.dice ∧
      resolution.damage = some ((List.range ((plan.attack.map AttackRoll.count).getD 1)).map
        (plan.slotOf components resolution reply)) := by
  obtain ⟨reply, totals, hreply, hreads, hslots⟩ := exists_reply_of_rollDamage hcomponents hok
  refine ⟨reply, hreply, ?_⟩
  rw [hslots, ← hlength, ← length_strikes]
  congr 1
  apply List.ext_getElem?
  intro attack
  rw [List.getElem?_map, List.getElem?_map]
  cases hentry : (strikes resolution.attacks)[attack]? with
  | none =>
      have hbound := List.getElem?_eq_none_iff.1 hentry
      rw [List.getElem?_eq_none (by rwa [List.length_range])]
      rfl
  | some entry =>
      obtain ⟨hbound, -⟩ := List.getElem?_eq_some_iff.1 hentry
      rw [List.getElem?_range hbound, Option.map_some, Option.map_some,
        damageSlot_eq_slotOf hreads (doubled_of_critical hlimit hcomponents hlength) hentry]

theorem slotOf_nonneg (components : List Component) (resolution : Resolution)
    (reply : List GroupTotal) (attack : Nat) :
    ∀ wound ∈ (plan.slotOf components resolution reply attack).wounds, 0 ≤ wound.value := by
  intro wound hmem
  rw [slotOf] at hmem
  split at hmem
  · obtain ⟨position, hposition, rfl⟩ := List.mem_mapIdx.1 hmem
    exact Component.woundOf_nonneg ..
  · cases hmem

theorem hits_eq_countP {components : List Component} {defenses : Defenses} {totals : Totals}
    {resolution : Resolution} {outcomes : List AttackOutcome}
    (hattacks : resolution.attacks = some outcomes) :
    resolution.hits = ((strikes (some outcomes)).map (damageSlot components defenses totals)).countP
      fun slot => !slot.isMiss := by
  have htest : (fun slot => !slot.isMiss) ∘ damageSlot components defenses totals =
      Option.isSome := by
    funext entry
    cases entry <;> rfl
  rw [List.countP_map, htest, countP_strikes, List.countP_eq_length_filter, Resolution.hits,
    hattacks]

/-- The damage phase takes place when the plan has damage. -/
theorem damage_eq_none_iff {resolution : Resolution}
    (hok : plan.rollDamage roller control (strikes resolution.attacks) table =
      (.ok resolution.damage, after)) : resolution.damage = none ↔ plan.damage = none := by
  cases hcomponents : plan.damage with
  | none =>
      simp only [rollDamage, hcomponents] at hok
      have hnone := Except.ok.inj (Prod.mk.inj hok).1
      exact ⟨fun _ => rfl, fun _ => hnone.symm⟩
  | some components =>
      obtain ⟨reply, totals, -, -, hslots⟩ := exists_reply_of_rollDamage hcomponents hok
      simp [hslots]

/-- Wounds that are not negative add up to the damage in all, however they are spread on slots. -/
theorem sum_totals {slots : List DamageSlot}
    (hnonneg : ∀ slot ∈ slots, ∀ wound ∈ slot.wounds, 0 ≤ wound.value) :
    Points.sum (slots.map DamageSlot.total) =
      min Points.highest ((slots.flatMap DamageSlot.wounds).map Wound.value).sum := by
  have hvalues : ∀ slot ∈ slots, ∀ value ∈ slot.wounds.map Wound.value, 0 ≤ value := by
    intro slot hslot value hvalue
    obtain ⟨wound, hwound, rfl⟩ := List.mem_map.1 hvalue
    exact hnonneg slot hslot wound hwound
  rw [List.map_flatMap, ← Points.sum_flatMap_of_nonneg hvalues]
  rfl

/-- The parts of a resolution account for each other once the damage phase is over. -/
theorem accounts_of_rollDamage {resolution : Resolution}
    (hlimit : plan.maxDice ≤ maxDicePerCommand)
    (hlength : resolution.attacks.map List.length = plan.attack.map AttackRoll.count)
    (hok : plan.rollDamage roller control (strikes resolution.attacks) table =
      (.ok resolution.damage, after))
    (hsummary : resolution = plan.summarize resolution.attacks resolution.damage) :
    plan.Accounts resolution := by
  have hpresent := damage_eq_none_iff hok
  have hnonneg : ∀ slot ∈ resolution.damage.getD [], ∀ wound ∈ slot.wounds, 0 ≤ wound.value := by
    intro slot hslot
    cases hcomponents : plan.damage with
    | none =>
        rw [hpresent.2 hcomponents] at hslot
        cases hslot
    | some components =>
        obtain ⟨reply, -, hslots⟩ := slots_of_rollDamage hlimit hcomponents hlength hok
        rw [hslots] at hslot
        obtain ⟨attack, -, rfl⟩ := List.mem_map.1 hslot
        exact slotOf_nonneg components resolution reply attack
  exact {
    attacks := by
      rw [← Option.map_eq_none_iff, hlength, Option.map_eq_none_iff]
    damage := hpresent
    notNegative := by
      intro slots hsome
      rwa [hsome] at hnonneg
    totalDamage := by
      rw [← sum_totals hnonneg, hsummary]
      rfl
    hitPoints := by
      rw [hsummary]
      rfl
    hits := by
      intro outcomes slots houtcomes hsome
      cases hcomponents : plan.damage with
      | none =>
          rw [hpresent.2 hcomponents] at hsome
          cases hsome
      | some components =>
          obtain ⟨reply, totals, -, -, hslots⟩ := exists_reply_of_rollDamage hcomponents hok
          obtain rfl := Option.some.inj (hsome.symm.trans hslots)
          rw [hits_eq_countP houtcomes, houtcomes] }

theorem accounts_of_resolve {resolution : Resolution}
    (hok : plan.resolve roller control table = (.ok resolution, after)) :
    plan.Accounts resolution := by
  obtain ⟨hlimit, middle, hattacks, hdamage, hsummary⟩ := exists_phases_of_resolve hok
  have hlength := (attacksLead_of_rollAttacks hattacks).2
  exact accounts_of_rollDamage hlimit hlength hdamage hsummary

/-- The slots of a resolved plan, after the reply to its attacks. -/
theorem slots_of_resolve {components : List Component} {resolution : Resolution}
    (hcomponents : plan.damage = some components)
    (hok : plan.resolve roller control table = (.ok resolution, after)) :
    ∃ middle reply, plan.AttacksLead roller control table.dice middle ∧
      roller.Replies .damage (control.seed + 1)
        (damageGroups components (strikes resolution.attacks)) middle reply after.dice ∧
      resolution.damage = some ((List.range ((plan.attack.map AttackRoll.count).getD 1)).map
        (plan.slotOf components resolution reply)) := by
  obtain ⟨hlimit, middle, hattacks, hdamage, -⟩ := exists_phases_of_resolve hok
  obtain ⟨hlead, hlength⟩ := attacksLead_of_rollAttacks hattacks
  obtain ⟨reply, hreply, hslots⟩ := slots_of_rollDamage hlimit hcomponents hlength hdamage
  exact ⟨middle.dice, reply, hlead, hreply, hslots⟩

/-- A resolved plan with damage has a slot for each attack, or a single one that hits without
attacks.  A slot of an attack that hit has a wound for each component, from the reply to the damage
phase.  No wound is negative, the damage in all is their exact sum as far as points go, and it is
what the hit points lose. -/
theorem damage_of_resolve {resolution : Resolution}
    (hok : plan.resolve roller control table = (.ok resolution, after)) :
    plan.Accounts resolution ∧
    ∀ components, plan.damage = some components → ∃ middle reply,
      plan.AttacksLead roller control table.dice middle ∧
      roller.Replies .damage (control.seed + 1)
        (damageGroups components (strikes resolution.attacks)) middle reply after.dice ∧
      resolution.damage = some ((List.range ((plan.attack.map AttackRoll.count).getD 1)).map
        (plan.slotOf components resolution reply)) := by
  constructor
  · exact accounts_of_resolve hok
  · intro components hcomponents
    exact slots_of_resolve hcomponents hok

/-- A critical with four dice of fire, of which half is resisted, and an attack that missed. -/
theorem damage_of_critical :
    let components : List Component := [⟨.plus, .dice 2 6, "fi".toList⟩, ⟨.minus, .flat 5, []⟩]
    let plan : Plan := ⟨some ⟨2, .normal, [], []⟩, some ⟨15, 0⟩, some components, some 10,
      ⟨["fi".toList], [], []⟩⟩
    let table : Table ScriptedDice := ⟨.ofValues [20, 1, 14] none, .absent, []⟩
    let resolution : Resolution :=
      ⟨some [⟨true, true, 20, [20]⟩, ⟨false, false, 1, [1]⟩],
        some [.hit [⟨7, "fi".toList⟩, ⟨0, []⟩], .miss], 7, some ⟨10, 3⟩⟩
    (plan.resolve ScriptedDice.roller ⟨.ofMillis 12000, 0⟩ table).1 = .ok resolution ∧
      plan.Accounts resolution ∧ ∃ reply, resolution.damage =
        some ((List.range 2).map (plan.slotOf components resolution reply)) := by
  intro components plan table resolution
  have hresult : (plan.resolve ScriptedDice.roller ⟨.ofMillis 12000, 0⟩ table).1 =
      .ok resolution := by
    decide +kernel
  have hok : plan.resolve ScriptedDice.roller ⟨.ofMillis 12000, 0⟩ table =
      (.ok resolution, (plan.resolve ScriptedDice.roller ⟨.ofMillis 12000, 0⟩ table).2) := by
    rw [← hresult]
  obtain ⟨haccounts, hslots⟩ := damage_of_resolve hok
  obtain ⟨middle, reply, -, -, hdamage⟩ := hslots components rfl
  exact ⟨hresult, haccounts, reply, hdamage⟩

end Plan

end Skirmish
