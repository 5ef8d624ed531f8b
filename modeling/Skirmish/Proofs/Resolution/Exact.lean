import Skirmish.Proofs.Command.Size
import Skirmish.Proofs.Resolution.Damage
import Skirmish.Session.Event

/-!
# Exact results

Points are cut off at the ends of their range, but a typed command never comes that far.  The
figures of its terms keep to limits, the number of its terms is bounded by its length, and a group
of dice shows no more than its dice can, so that every result is what whole numbers without any
range come to.
-/

namespace Skirmish

variable {σ : Type}

/-- The signed value of a magnitude of any size. -/
def Sign.exactly : Sign → Int → Int
  | plus, value => value
  | minus, value => -value

/-- The damage that is left of a value of any size. -/
def Defenses.exactly (defenses : Defenses) (value : Int) (damageType : Text) : Int :=
  if defenses.isImmune damageType then 0
  else
    let halved := if defenses.isResistant damageType then value / 2 else value
    if defenses.isVulnerable damageType then halved * 2 else halved

/-- What an amount comes to: a flat number is itself, and dice are what the reply shows for them in
a place, twice as many for a critical. -/
def Amount.shown (amount : Amount) (reply : List GroupTotal) (place : GroupId) (critical : Bool)
    (tag : Text) : Int :=
  match amount with
  | .flat value => value
  | .dice count sides =>
      if count = 0 then 0
      else DiceGroup.shown ⟨place, if critical then 2 * count else count, sides, tag⟩ reply

namespace AttackRoll

/-- What the terms of the bonus add to an attack, in whole numbers. -/
def exactShares (roll : AttackRoll) (reply : List GroupTotal) (attack : Nat) : List Int :=
  roll.bonus.mapIdx fun position term =>
    term.sign.exactly (term.amount.shown reply
      ⟨attack, roll.mode.d20Count + diceTerms (roll.bonus.take position)⟩ false roll.color)

/-- What the d20 that counts shows. -/
def keptDie (roll : AttackRoll) (reply : List GroupTotal) (attack : Nat) : Int :=
  match roll.mode with
  | .normal => roll.d20 reply attack 0
  | .advantage => max (roll.d20 reply attack 0) (roll.d20 reply attack 1)
  | .disadvantage => min (roll.d20 reply attack 0) (roll.d20 reply attack 1)

/-- Whether the total of an attack is the exact sum of its parts, and adding them up never comes to
the ends of the range. -/
structure AddsUp (roll : AttackRoll) (reply : List GroupTotal) (attack : Nat)
    (outcome : AttackOutcome) : Prop where
  shares : ∀ share ∈ roll.exactShares reply attack, Points.Inside share
  bonus : Points.AddsInside (roll.exactShares reply attack)
  total : outcome.total = roll.keptDie reply attack + (roll.exactShares reply attack).sum
  inside : Points.Inside outcome.total

end AttackRoll

/-- What a component comes to in whole numbers, with its sign. -/
def Component.exactShare (component : Component) (reply : List GroupTotal) (place : GroupId)
    (critical : Bool) : Int :=
  component.sign.exactly (component.amount.shown reply place critical component.damageType)

/-- The slot of an attack in whole numbers. -/
def Plan.exactSlot (plan : Plan) (components : List Component) (resolution : Resolution)
    (reply : List GroupTotal) (attack : Nat) : DamageSlot :=
  if resolution.hitAt attack then
    .hit (components.mapIdx fun position component =>
      let share := component.exactShare reply ⟨attack, position⟩ (resolution.criticalAt attack)
      ⟨plan.defenses.exactly (max 0 share) component.damageType, component.damageType⟩)
  else .miss

/-- The most terms that a text of the length allowed can have. -/
def mostTerms : Nat := 4294967297

/-- Whether a plan keeps to the limits of typed commands and to the most terms. -/
structure Plan.Moderate (plan : Plan) : Prop where
  limits : plan.KeepsLimits
  bonus : ∀ roll, plan.attack = some roll → roll.bonus.length ≤ mostTerms
  damage : ∀ components, plan.damage = some components → components.length ≤ mostTerms

theorem Command.moderate_of_parse {input : Text} {command : Command}
    (hlength : input.length ≤ 2147483648) (hok : parse input = .ok command) :
    command.plan.Moderate where
  limits := by
    obtain ⟨-, hcommand, rfl⟩ := (ofNormal_eq_ok_iff ..).1 hok
    exact hcommand.keepsLimits
  bonus := by
    intro roll hroll
    have hvalue : command.plan.value? .attack = some (.attack roll) :=
      congrArg (Option.map _) hroll
    have hterms : roll.bonus.length ≤ _ := termCount_le_of_parse hok hvalue
    simp only [mostTerms]
    omega
  damage := by
    intro components hdamage
    have hvalue : command.plan.value? .damage = some (.damage components) :=
      congrArg (Option.map _) hdamage
    have hterms : components.length ≤ _ := termCount_le_of_parse hok hvalue
    simp only [mostTerms]
    omega

/-- A group shows at most what its dice can. -/
theorem DiceGroup.natAbs_shown_le (group : DiceGroup) (reply : List GroupTotal) :
    (group.shown reply).natAbs ≤ group.count * group.sides := by
  rw [shown]
  split
  · split
    · omega
    · exact Nat.zero_le _
  · exact Nat.zero_le _

theorem Sign.apply_of_natAbs_le (sign : Sign) {value : Int} {bound : Nat}
    (hvalue : value.natAbs ≤ bound) (hroom : bound < 9223372036854775807) :
    sign.apply value = sign.exactly value ∧ (sign.exactly value).natAbs ≤ bound := by
  cases sign with
  | plus => exact ⟨rfl, hvalue⟩
  | minus =>
      have hnegated : (-value).natAbs ≤ bound := by rwa [Int.natAbs_neg]
      exact ⟨Points.clamp_of_inside (Points.inside_of_natAbs_le hnegated hroom), hnegated⟩

theorem Amount.twice_diceCount_lt {amount : Amount} (hlimits : amount.KeepsLimits) :
    2 * amount.diceCount < largestCount := by
  cases amount with
  | flat value =>
      rw [diceCount]
      decide
  | dice count sides =>
      obtain ⟨hcount, -⟩ := hlimits
      simp only [maxDicePerTerm] at hcount
      simp only [diceCount, largestCount]
      omega

/-- A typed amount comes to at most a million, and to two million for a critical. -/
theorem Amount.natAbs_shown_le {amount : Amount} (hlimits : amount.KeepsLimits)
    (reply : List GroupTotal) (place : GroupId) (critical : Bool) (tag : Text) :
    (amount.shown reply place critical tag).natAbs ≤ 2000000 := by
  cases amount with
  | flat value =>
      obtain ⟨hlow, hhigh⟩ := hlimits
      simp only [maxFlat] at hhigh
      simp only [shown]
      omega
  | dice count sides =>
      obtain ⟨hcount, hsides⟩ := hlimits
      have hdice : (if critical then 2 * count else count) ≤ 2 * 1000 := by
        simp only [maxDicePerTerm] at hcount
        split <;> omega
      have hshown := DiceGroup.natAbs_shown_le
        ⟨place, if critical then 2 * count else count, sides, tag⟩ reply
      rw [shown]
      split
      · exact Nat.zero_le _
      · exact Nat.le_trans hshown (Nat.mul_le_mul hdice hsides)

theorem Term.share_eq_apply (term : Term) (reply : List GroupTotal) (place : GroupId)
    (color : Text) : term.share reply place color =
      term.sign.apply (term.amount.shown reply place false color) := by
  rw [share]
  cases term.amount <;> rfl

theorem Component.magnitude_eq_shown (component : Component) (reply : List GroupTotal)
    (place : GroupId) (critical : Bool) : component.magnitude reply place critical =
      component.amount.shown reply place critical component.damageType := by
  rw [magnitude]
  cases component.amount <;> rfl

namespace AttackRoll

variable {roll : AttackRoll} {armorClass : Option Int} {reply : List GroupTotal} {attack : Nat}

/-- Every share of a typed bonus is small, and is not cut off. -/
theorem shares_eq_exactShares (hlimits : roll.KeepsLimits) (reply : List GroupTotal)
    (attack : Nat) :
    roll.shares reply attack = roll.exactShares reply attack ∧
      ∀ share ∈ roll.exactShares reply attack, share.natAbs ≤ 2000000 := by
  have hterm : ∀ term ∈ roll.bonus, ∀ place,
      term.share reply place roll.color =
        term.sign.exactly (term.amount.shown reply place false roll.color) ∧
      (term.sign.exactly (term.amount.shown reply place false roll.color)).natAbs ≤ 2000000 := by
    intro term hmem place
    have hshown := Amount.natAbs_shown_le (hlimits.1 term hmem) reply place false roll.color
    rw [term.share_eq_apply]
    exact term.sign.apply_of_natAbs_le hshown (by decide)
  constructor
  · rw [shares, exactShares, List.mapIdx_eq_mapIdx_iff]
    intro position hposition
    exact (hterm _ (List.getElem_mem hposition) _).1
  · intro share hmem
    obtain ⟨position, hposition, rfl⟩ := List.mem_mapIdx.1 hmem
    exact (hterm _ (List.getElem_mem hposition) _).2

theorem d20_le (roll : AttackRoll) (reply : List GroupTotal) (attack slot : Nat) :
    (roll.d20 reply attack slot).natAbs ≤ 20 :=
  DiceGroup.natAbs_shown_le ..

theorem natAbs_keptDie_le (roll : AttackRoll) (reply : List GroupTotal) (attack : Nat) :
    (roll.keptDie reply attack).natAbs ≤ 20 := by
  have hfirst := roll.d20_le reply attack 0
  have hsecond := roll.d20_le reply attack 1
  rw [keptDie]
  split <;> omega

/-- The total of an attack with a typed bonus is the exact one. -/
theorem addsUp_of_yields {outcome : AttackOutcome} (hlimits : roll.KeepsLimits)
    (hterms : roll.bonus.length ≤ mostTerms)
    (hyields : roll.Yields armorClass reply attack outcome) :
    roll.AddsUp reply attack outcome := by
  obtain ⟨hshares, hsmall⟩ := shares_eq_exactShares hlimits reply attack
  have hlength : (roll.exactShares reply attack).length = roll.bonus.length := List.length_mapIdx
  have hroom : (roll.exactShares reply attack).length * 2000000 ≤ mostTerms * 2000000 :=
    Nat.mul_le_mul_right _ (hlength ▸ hterms)
  have hbonus : Points.AddsInside (roll.exactShares reply attack) :=
    Points.addsInside_of_natAbs_le hsmall hroom (by decide)
  have hsum := Nat.le_trans (Points.natAbs_sum_le hsmall) hroom
  have hkept := roll.natAbs_keptDie_le reply attack
  have hinside : Points.Inside
      (roll.keptDie reply attack + (roll.exactShares reply attack).sum) := by
    have hbound : (roll.keptDie reply attack + (roll.exactShares reply attack).sum).natAbs ≤
        20 + mostTerms * 2000000 := by
      omega
    exact Points.inside_of_natAbs_le hbound (by decide)
  have htotal : outcome.total =
      roll.keptDie reply attack + (roll.exactShares reply attack).sum := by
    calc
      outcome.total =
          Points.add (roll.keptDie reply attack) (Points.sum (roll.shares reply attack)) :=
        hyields.total
      _ = roll.keptDie reply attack + (roll.exactShares reply attack).sum := by
        rw [hshares, Points.sum_of_addsInside hbonus, Points.add, Points.clamp_of_inside hinside]
  exact {
    shares := fun share hmem => Points.inside_of_natAbs_le (hsmall share hmem) (by decide)
    bonus := hbonus
    total := htotal
    inside := htotal ▸ hinside }

end AttackRoll

/-- Small damage is halved and doubled without coming to the ends of the range. -/
theorem Defenses.apply_of_natAbs_le (defenses : Defenses) {value : Int} {bound : Nat}
    (hvalue : value.natAbs ≤ bound) (hroom : 2 * bound < 9223372036854775807)
    (damageType : Text) :
    defenses.apply value damageType = defenses.exactly value damageType ∧
      (defenses.exactly value damageType).natAbs ≤ 2 * bound := by
  have hhalved : (if defenses.isResistant damageType then value / 2 else value).natAbs ≤ bound := by
    split <;> omega
  rw [apply, exactly]
  split
  · exact ⟨rfl, Nat.zero_le _⟩
  · simp only
    generalize (if defenses.isResistant damageType then value / 2 else value) = halved at hhalved ⊢
    split
    · have hdoubled : (halved * 2).natAbs ≤ 2 * bound := by omega
      exact ⟨Points.clamp_of_inside (Points.inside_of_natAbs_le hdoubled hroom), hdoubled⟩
    · exact ⟨rfl, by omega⟩

namespace Component

variable {component : Component}

theorem exactShare_of_keepsLimits (hlimits : component.KeepsLimits) (reply : List GroupTotal)
    (place : GroupId) (critical : Bool) :
    component.sign.apply (component.magnitude reply place critical) =
        component.exactShare reply place critical ∧
      (component.exactShare reply place critical).natAbs ≤ 2000000 := by
  rw [magnitude_eq_shown]
  exact component.sign.apply_of_natAbs_le (Amount.natAbs_shown_le hlimits.1 ..) (by decide)

/-- The wound that a typed component causes is the exact one. -/
theorem woundOf_of_keepsLimits (hlimits : component.KeepsLimits) (defenses : Defenses)
    (reply : List GroupTotal) (place : GroupId) (critical : Bool) :
    component.woundOf defenses reply place critical =
        ⟨defenses.exactly (max 0 (component.exactShare reply place critical))
          component.damageType, component.damageType⟩ ∧
      (component.woundOf defenses reply place critical).value.natAbs ≤ 4000000 := by
  obtain ⟨hsigned, hsmall⟩ := exactShare_of_keepsLimits hlimits reply place critical
  have hbase : (max 0 (component.exactShare reply place critical)).natAbs ≤ 2000000 := by omega
  obtain ⟨hvalue, hdoubled⟩ :=
    defenses.apply_of_natAbs_le hbase (by decide) component.damageType
  rw [woundOf, hsigned, hvalue]
  exact ⟨rfl, hdoubled⟩

end Component

namespace DamageSlot

/-- Whether the damage of a slot is the exact sum of its wounds, and adding them up never comes to
the ends of the range. -/
structure AddsUp (slot : DamageSlot) : Prop where
  wounds : ∀ wound ∈ slot.wounds, Points.Inside wound.value
  total : slot.total = (slot.wounds.map Wound.value).sum
  inside : Points.AddsInside (slot.wounds.map Wound.value)

/-- A slot of few and small wounds adds up, to no more than the wounds together can come to. -/
theorem addsUp_of_natAbs_le {slot : DamageSlot} {bound terms : Nat}
    (hsmall : ∀ wound ∈ slot.wounds, wound.value.natAbs ≤ bound)
    (hterms : slot.wounds.length ≤ terms) (hroom : terms * bound < 9223372036854775807)
    (hbound : bound < 9223372036854775807) :
    slot.AddsUp ∧ slot.total.natAbs ≤ terms * bound := by
  have hvalues : ∀ value ∈ slot.wounds.map Wound.value, value.natAbs ≤ bound := by
    intro value hmem
    obtain ⟨wound, hwound, rfl⟩ := List.mem_map.1 hmem
    exact hsmall wound hwound
  have hproduct : (slot.wounds.map Wound.value).length * bound ≤ terms * bound := by
    rw [List.length_map]
    exact Nat.mul_le_mul_right _ hterms
  have hinside := Points.addsInside_of_natAbs_le hvalues hproduct hroom
  have htotal : slot.total = (slot.wounds.map Wound.value).sum := Points.sum_of_addsInside hinside
  refine ⟨⟨?_, htotal, hinside⟩, ?_⟩
  · exact fun wound hmem => Points.inside_of_natAbs_le (hsmall wound hmem) hbound
  · rw [htotal]
    exact Nat.le_trans (Points.natAbs_sum_le hvalues) hproduct

end DamageSlot

/-- The damage of an event is added up without a range. -/
theorem Event.totalDamage_eq_sum (event : Event) :
    event.totalDamage = ((event.damage.getD []).map DamageSlot.total).sum := by
  rw [totalDamage, List.sum_eq_foldl, List.foldl_map]

namespace Plan

variable {plan : Plan} {components : List Component} {resolution : Resolution}

/-- The slots of a plan with typed damage are the exact ones, and small. -/
theorem slotOf_eq_exactSlot (plan : Plan) (resolution : Resolution)
    (hlimits : ∀ component ∈ components, component.KeepsLimits) (reply : List GroupTotal)
    (attack : Nat) :
    plan.slotOf components resolution reply attack =
        plan.exactSlot components resolution reply attack ∧
      (∀ wound ∈ (plan.slotOf components resolution reply attack).wounds,
        wound.value.natAbs ≤ 4000000) ∧
      (plan.slotOf components resolution reply attack).wounds.length ≤ components.length := by
  rw [slotOf, exactSlot]
  split
  · refine ⟨?_, ?_, ?_⟩
    · rw [DamageSlot.hit.injEq, List.mapIdx_eq_mapIdx_iff]
      intro position hposition
      exact (Component.woundOf_of_keepsLimits (hlimits _ (List.getElem_mem hposition)) ..).1
    · intro wound hmem
      obtain ⟨position, hposition, rfl⟩ := List.mem_mapIdx.1 hmem
      exact (Component.woundOf_of_keepsLimits (hlimits _ (List.getElem_mem hposition)) ..).2
    · exact Nat.le_of_eq List.length_mapIdx
  · simp [DamageSlot.wounds]

/-- Whether what a resolution tells is what whole numbers come to, and no step on the way comes to
the ends of a range. -/
structure ResolvedExactly (plan : Plan) (roller : Roller σ) (control : Control) (before : σ)
    (resolution : Resolution) (after : σ) : Prop where
  attacks : ∀ roll, plan.attack = some roll → ∃ reply dice outcomes,
    roller.Replies .attack control.seed roll.allGroups before reply dice ∧
    resolution.attacks = some outcomes ∧ outcomes.length = roll.count ∧
    ∀ attack outcome, outcomes[attack]? = some outcome → roll.AddsUp reply attack outcome
  damage : ∀ components, plan.damage = some components → ∃ middle reply,
    plan.AttacksLead roller control before middle ∧
    roller.Replies .damage (control.seed + 1)
      (damageGroups components (strikes resolution.attacks)) middle reply after ∧
    (∀ component ∈ components, ∀ place critical,
      Points.Inside (component.exactShare reply place critical)) ∧
    resolution.damage = some ((List.range ((plan.attack.map AttackRoll.count).getD 1)).map
      (plan.exactSlot components resolution reply))
  /-- The dice of a critical and the dice in all are counted without being cut off. -/
  dice : (∀ components, plan.damage = some components → ∀ component ∈ components,
    2 * component.amount.diceCount < largestCount) ∧ plan.maxDice = plan.mostDice
  slots : ∀ slot ∈ resolution.damage.getD [], slot.AddsUp
  totals : Points.AddsInside ((resolution.damage.getD []).map DamageSlot.total)
  totalDamage : resolution.totalDamage =
    ((resolution.damage.getD []).map fun slot => (slot.wounds.map Wound.value).sum).sum
  hitPoints : resolution.hitPoints =
      plan.hitPoints.map (fun old => ⟨old, old - resolution.totalDamage⟩) ∧
    ∀ old, plan.hitPoints = some old → Points.Inside (old - resolution.totalDamage)
  /-- The damage of an event is added up without a range, which it does not leave. -/
  event : ∀ id player label physical,
    let event := Event.ofResolution id player label resolution physical
    Points.AddsInside ((event.damage.getD []).map DamageSlot.total) ∧
      event.totalDamage = resolution.totalDamage

variable {roller : Roller σ} {control : Control} {table after : Table σ}

theorem addsUp_of_rollAttacks {roll : AttackRoll} (hmoderate : plan.Moderate)
    (hroll : plan.attack = some roll)
    (hok : plan.rollAttacks roller control table = (.ok resolution.attacks, after)) :
    ∃ reply outcomes,
      roller.Replies .attack control.seed roll.allGroups table.dice reply after.dice ∧
      resolution.attacks = some outcomes ∧ outcomes.length = roll.count ∧
      ∀ attack outcome, outcomes[attack]? = some outcome → roll.AddsUp reply attack outcome := by
  obtain ⟨reply, outcomes, hreply, hsome, hlength, hyields⟩ :=
    exists_yields_of_rollAttacks hroll hok
  refine ⟨reply, outcomes, hreply, hsome, hlength, ?_⟩
  intro attack outcome hfound
  exact AttackRoll.addsUp_of_yields (hmoderate.limits.attacks roll hroll).2.2
    (hmoderate.bonus roll hroll) (hyields attack outcome hfound)

/-- Slots that add up, as many as a command may have attacks, add up as well. -/
theorem addsInside_totals {slots : List DamageSlot} (hcount : slots.length ≤ maxAttacks)
    (hsmall : ∀ slot ∈ slots, slot.total.natAbs ≤ mostTerms * 4000000) :
    Points.AddsInside (slots.map DamageSlot.total) ∧
      (slots.map DamageSlot.total).sum.natAbs ≤ maxAttacks * (mostTerms * 4000000) := by
  have htotals : ∀ total ∈ slots.map DamageSlot.total, total.natAbs ≤ mostTerms * 4000000 := by
    intro total hmem
    obtain ⟨slot, hslot, rfl⟩ := List.mem_map.1 hmem
    exact hsmall slot hslot
  have hroom : (slots.map DamageSlot.total).length * (mostTerms * 4000000) ≤
      maxAttacks * (mostTerms * 4000000) := by
    rw [List.length_map]
    exact Nat.mul_le_mul_right _ hcount
  exact ⟨Points.addsInside_of_natAbs_le htotals hroom (by decide),
    Nat.le_trans (Points.natAbs_sum_le htotals) hroom⟩

/-- A plan that is moderate has few slots, each of which adds up to little. -/
theorem slots_of_moderate (hmoderate : plan.Moderate)
    (hlength : resolution.attacks.map List.length = plan.attack.map AttackRoll.count)
    (hok : plan.rollDamage roller control (strikes resolution.attacks) table =
      (.ok resolution.damage, after)) :
    (resolution.damage.getD []).length ≤ maxAttacks ∧
      ∀ slot ∈ resolution.damage.getD [],
        slot.AddsUp ∧ slot.total.natAbs ≤ mostTerms * 4000000 := by
  cases hcomponents : plan.damage with
  | none =>
      rw [(damage_eq_none_iff hok).2 hcomponents]
      exact ⟨Nat.zero_le _, fun slot hmem => nomatch hmem⟩
  | some components =>
      obtain ⟨reply, -, hslots⟩ :=
        slots_of_rollDamage hmoderate.limits.dice hcomponents hlength hok
      rw [hslots, Option.getD_some, List.length_map, List.length_range]
      constructor
      · cases hroll : plan.attack with
        | none => decide
        | some roll => exact (hmoderate.limits.attacks roll hroll).2.1
      · intro slot hmem
        obtain ⟨attack, -, rfl⟩ := List.mem_map.1 hmem
        obtain ⟨-, hsmall, hfew⟩ := plan.slotOf_eq_exactSlot resolution
          (hmoderate.limits.damage components hcomponents) reply attack
        exact DamageSlot.addsUp_of_natAbs_le hsmall
          (Nat.le_trans hfew (hmoderate.damage components hcomponents)) (by decide) (by decide)

/-- What is made of exact slots is exact. -/
theorem totalDamage_of_slots {slots : List DamageSlot} (hslots : ∀ slot ∈ slots, slot.AddsUp)
    (htotals : Points.AddsInside (slots.map DamageSlot.total)) :
    Points.sum (slots.map DamageSlot.total) =
      (slots.map fun slot => (slot.wounds.map Wound.value).sum).sum := by
  rw [Points.sum_of_addsInside htotals]
  congr 1
  exact List.map_congr_left fun slot hmem => (hslots slot hmem).total

/-- The slots of a resolved plan that is moderate are exact. -/
theorem exactSlots_of_resolve {components : List Component} (hmoderate : plan.Moderate)
    (hcomponents : plan.damage = some components)
    (hok : plan.resolve roller control table = (.ok resolution, after)) :
    ∃ middle reply, plan.AttacksLead roller control table.dice middle ∧
      roller.Replies .damage (control.seed + 1)
        (damageGroups components (strikes resolution.attacks)) middle reply after.dice ∧
      (∀ component ∈ components, ∀ place critical,
        Points.Inside (component.exactShare reply place critical)) ∧
      resolution.damage = some ((List.range ((plan.attack.map AttackRoll.count).getD 1)).map
        (plan.exactSlot components resolution reply)) := by
  have hlimits := hmoderate.limits.damage components hcomponents
  obtain ⟨middle, reply, hlead, hreply, hdealt⟩ := slots_of_resolve hcomponents hok
  refine ⟨middle, reply, hlead, hreply, ?_, ?_⟩
  · intro component hmem place critical
    have hshare := Component.exactShare_of_keepsLimits (hlimits component hmem) reply place critical
    exact Points.inside_of_natAbs_le hshare.2 (by decide)
  · rw [hdealt]
    congr 2
    funext attack
    exact (plan.slotOf_eq_exactSlot resolution hlimits reply attack).1

theorem dice_of_moderate (hmoderate : plan.Moderate) :
    (∀ components, plan.damage = some components → ∀ component ∈ components,
      2 * component.amount.diceCount < largestCount) ∧ plan.maxDice = plan.mostDice := by
  constructor
  · intro components hcomponents component hmem
    exact Amount.twice_diceCount_lt (hmoderate.limits.damage components hcomponents component hmem).1
  · have hlimit := hmoderate.limits.dice
    simp only [maxDice, maxDicePerCommand, largestDiceTotal] at hlimit ⊢
    omega

/-- The hit points of a moderate plan do not go far below zero. -/
theorem inside_hitPoints_of_moderate (hmoderate : plan.Moderate) {old total : Int}
    (hsmall : total.natAbs ≤ maxAttacks * (mostTerms * 4000000))
    (hold : plan.hitPoints = some old) : Points.Inside (old - total) := by
  obtain ⟨hlow, hhigh⟩ := hmoderate.limits.hitPoints old hold
  have hbound : (old - total).natAbs ≤ 1000000 + maxAttacks * (mostTerms * 4000000) := by
    simp only [maxFlat] at hhigh
    omega
  exact Points.inside_of_natAbs_le hbound (by decide)

theorem resolvedExactly_of_moderate (hmoderate : plan.Moderate)
    (hok : plan.resolve roller control table = (.ok resolution, after)) :
    plan.ResolvedExactly roller control table.dice resolution after.dice := by
  obtain ⟨-, middle, hattacks, hdamage, hsummary⟩ := exists_phases_of_resolve hok
  have hlength := (attacksLead_of_rollAttacks hattacks).2
  obtain ⟨hcount, hslots⟩ := slots_of_moderate hmoderate hlength hdamage
  have haddsUp : ∀ slot ∈ resolution.damage.getD [], slot.AddsUp :=
    fun slot hmem => (hslots slot hmem).1
  obtain ⟨hinside, hsmall⟩ := addsInside_totals hcount fun slot hmem => (hslots slot hmem).2
  have htotal : resolution.totalDamage =
      Points.sum ((resolution.damage.getD []).map DamageSlot.total) := by
    rw [hsummary]
    rfl
  have hplain : resolution.totalDamage = ((resolution.damage.getD []).map DamageSlot.total).sum :=
    htotal.trans (Points.sum_of_addsInside hinside)
  rw [← hplain] at hsmall
  constructor
  case attacks =>
    intro roll hroll
    obtain ⟨reply, outcomes, hreply, hsome⟩ := addsUp_of_rollAttacks hmoderate hroll hattacks
    exact ⟨reply, middle.dice, outcomes, hreply, hsome⟩
  case damage => exact fun components hcomponents => exactSlots_of_resolve hmoderate hcomponents hok
  case dice => exact dice_of_moderate hmoderate
  case slots => exact haddsUp
  case totals => exact hinside
  case totalDamage => rw [htotal, totalDamage_of_slots haddsUp hinside]
  case hitPoints =>
    refine ⟨?_, fun old hold => inside_hitPoints_of_moderate hmoderate hsmall hold⟩
    rw [(accounts_of_resolve hok).hitPoints]
    cases hold : plan.hitPoints with
    | none => rfl
    | some old =>
        have hleft := inside_hitPoints_of_moderate hmoderate hsmall hold
        rw [Option.map_some, Option.map_some, Points.clamp_of_inside hleft]
  case event =>
    intro id player label physical event
    exact ⟨hinside, event.totalDamage_eq_sum.trans hplain.symm⟩

/-- Whatever a typed command of at most 2 ^ 31 characters comes to is exact, with any dice. -/
theorem resolvedExactly_of_parse {input : Text} {command : Command}
    (hlength : input.length ≤ 2147483648) (hparse : Command.parse input = .ok command)
    (hok : command.plan.resolve roller control table = (.ok resolution, after)) :
    command.plan.ResolvedExactly roller control table.dice resolution after.dice :=
  resolvedExactly_of_moderate (Command.moderate_of_parse hlength hparse) hok

end Plan

/-- A critical against someone who is vulnerable to fire, and an attack that missed. -/
theorem Plan.resolvedExactly_of_parse_volley :
    let input := "2a+3-1d4 vs 15 dmg 2d6fi+-5+1d8 hp 10 vul fi".toList
    let plan : Plan := ⟨some ⟨2, .advantage, [], [⟨.plus, .flat 3⟩, ⟨.minus, .dice 1 4⟩]⟩,
      some ⟨15, 0⟩,
      some [⟨.plus, .dice 2 6, "fi".toList⟩, ⟨.minus, .flat 5, []⟩, ⟨.plus, .dice 1 8, []⟩],
      some 10, ⟨[], ["fi".toList], []⟩⟩
    let dice := ScriptedDice.ofValues [20, 3, 2, 5, 6, 1, 14, 9] none
    let run := plan.resolve ScriptedDice.roller ⟨.ofMillis 12000, 0⟩ ⟨dice, .absent, []⟩
    let resolution : Resolution :=
      ⟨some [⟨true, true, 21, [20, 3]⟩, ⟨false, false, 8, [5, 6]⟩],
        some [.hit [⟨28, "fi".toList⟩, ⟨0, []⟩, ⟨9, []⟩], .miss], 37, some ⟨10, -27⟩⟩
    input.length ≤ 2147483648 ∧ Command.parse input = .ok ⟨plan, Names.empty, input⟩ ∧
      run.1 = .ok resolution ∧
      plan.ResolvedExactly ScriptedDice.roller ⟨.ofMillis 12000, 0⟩ dice resolution
        run.2.dice := by
  intro input plan dice run resolution
  have hlength : input.length ≤ 2147483648 := by decide +kernel
  have hparse : Command.parse input = .ok ⟨plan, Names.empty, input⟩ := by decide +kernel
  have hresult : run.1 = .ok resolution := by decide +kernel
  have hok : run = (.ok resolution, run.2) := by rw [← hresult]
  exact ⟨hlength, hparse, hresult, resolvedExactly_of_parse hlength hparse hok⟩

end Skirmish
