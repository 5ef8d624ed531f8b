import Skirmish.Proofs.Resolution.Relevance

/-!
# Easier targets

A target that is easier to hit is hurt at least as much.  With dice that fall for each group by
itself, every attack comes to the same total against it and stays a hit if it was one.  The damage
phase then asks for more dice, but those of the old hits are among them in their old places, and
what the new hits add is never below zero.
-/

namespace Skirmish

variable {σ : Type}

namespace DiceGroup

/-- What a report counts as. -/
def Report.points : Report → Int
  | .total value => value
  | .missing | .unusable => 0

theorem shown_eq_points (group : DiceGroup) (reply : List GroupTotal) :
    group.shown reply = (group.report reply).points := by
  rw [← Totals.usable_eq_shown, Totals.usable_eq_report]
  cases group.report reply <;> rfl

/-- What dice that fall for each group by itself show for a group. -/
def answered (group : DiceGroup) (answer : Phase → GroupId → Nat → Nat → Report)
    (phase : Phase) : Int :=
  if group.count = 0 then 0 else (answer phase group.id group.count group.sides).points

end DiceGroup

/-- Whether a roller answers for each group by its phase, its place, the number of its dice and
their sides alone, whatever it has been asked before. -/
def Roller.AnswersBy (roller : Roller σ) (answer : Phase → GroupId → Nat → Nat → DiceGroup.Report)
    (dice : σ) : Prop :=
  ∀ (earlier : List Request) (request : Request) (reply : List GroupTotal),
    (request.groups.map DiceGroup.id).Nodup →
    (roller.ask (earlier.foldl (fun dice request => (roller.ask dice request).2) dice)
      request).1 = .results reply →
    ∀ group ∈ request.groups,
      group.report reply = answer request.phase group.id group.count group.sides

section Answers

variable {roller : Roller σ} {answer : Phase → GroupId → Nat → Nat → DiceGroup.Report}

theorem Table.Asked.answersBy {before after : Table σ} {made : List Request}
    (hasked : Table.Asked roller before made after)
    (hanswers : roller.AnswersBy answer before.dice) : roller.AnswersBy answer after.dice := by
  intro earlier request reply hdistinct hreply
  rw [hasked.dice, ← List.foldl_append] at hreply
  exact hanswers (made ++ earlier) request reply hdistinct hreply

/-- The totals of a phase are what the dice show for its groups. -/
theorem Roller.AnswersBy.total_eq {phase : Phase} {seed : UInt64} {groups : List DiceGroup}
    {before after : σ} {reply : List GroupTotal} {totals : Totals}
    (hanswers : roller.AnswersBy answer before) (hdistinct : (groups.map DiceGroup.id).Nodup)
    (hreply : roller.Replies phase seed groups before reply after)
    (hreads : totals.Reads reply groups) :
    ∀ group ∈ groups, totals group.id = group.answered answer phase := by
  intro group hmem
  rw [hreads group hmem, DiceGroup.answered]
  split
  · next hcount => exact DiceGroup.shown_eq_zero hcount reply
  · next hcount =>
    cases hreply with
    | silent hnone => exact absurd (hnone group hmem) hcount
    | asked hsome hask =>
        have hplaces : ((groups.filter fun group => 0 < group.count).map DiceGroup.id).Nodup :=
          hdistinct.sublist (List.filter_sublist.map _)
        have hgroup : group ∈ groups.filter fun group => 0 < group.count := by
          simpa [hmem, Nat.pos_iff_ne_zero] using hcount
        have hreport := hanswers [] _ reply hplaces (congrArg Prod.fst hask) group hgroup
        rw [group.shown_eq_points, hreport]

end Answers

/-- Whoever gives the same results whatever is asked answers for each group by itself. -/
theorem RemoteDice.answersBy_results (totals : List GroupTotal) :
    RemoteDice.roller.AnswersBy
      (fun _ id count sides => DiceGroup.report ⟨id, count, sides, []⟩ totals)
      (listening [.results totals]) := by
  intro earlier request reply _ hreply group _
  have hstays : earlier.foldl (fun dice request => (RemoteDice.roller.ask dice request).2)
      (listening [.results totals]) = listening [.results totals] := by
    induction earlier with
    | nil => rfl
    | cons first earlier ih => exact ih hreply
  rw [hstays] at hreply
  cases hreply
  rfl

/-- Whether one armor class is met as soon as the other one is.  None at all is always met. -/
def ArmorClass.Easier (easy hard : Option Int) : Prop :=
  ∀ goal, easy = some goal → ∃ first, hard = some first ∧ goal ≤ first

namespace AttackOutcome

/-- Whether an outcome comes of the same dice and is still a hit if the first one is. -/
structure KeptBy (hard easy : AttackOutcome) : Prop where
  d20s : easy.d20s = hard.d20s
  total : easy.total = hard.total
  isCritical : easy.isCritical = hard.isCritical
  isHit : hard.isHit = true → easy.isHit = true

/-- A lower armor class, or none, is met by the same dice.  Criticals have nothing to do with it. -/
theorem keptBy_evaluate (mode : RollMode) (d20s : List Int) (bonus : Int) {hard easy : Option Int}
    (heasier : ArmorClass.Easier easy hard) :
    (evaluate mode d20s bonus hard).KeptBy (evaluate mode d20s bonus easy) where
  d20s := rfl
  total := rfl
  isCritical := rfl
  isHit := by
    rw [AttackRoll.isHit_evaluate, AttackRoll.isHit_evaluate]
    intro hhit
    cases heasy : easy with
    | none => exact .inl rfl
    | some goal =>
        obtain ⟨first, rfl, hle⟩ := heasier goal heasy
        right
        rcases hhit with hnone | hcritical | ⟨met, hmet, hreached⟩
        · cases hnone
        · exact .inl hcritical
        · cases hmet
          exact .inr ⟨goal, rfl, hle.trans hreached⟩

end AttackOutcome

namespace AttackRoll

theorem bonusValues_congr {left right : Totals} {attack slot : Nat} {color : Text}
    {terms : List Term}
    (hsame : ∀ group ∈ bonusGroups attack color slot terms, left group.id = right group.id) :
    bonusValues left attack slot terms = bonusValues right attack slot terms := by
  induction terms generalizing slot with
  | nil => rfl
  | cons term terms ih =>
      cases term with
      | mk sign amount =>
          cases amount with
          | flat value => rw [bonusValues, bonusValues, ih hsame]
          | dice count sides =>
              obtain ⟨hhead, hrest⟩ := List.forall_mem_cons.1 hsame
              have hvalue : left ⟨attack, slot⟩ = right ⟨attack, slot⟩ := hhead
              rw [bonusValues, bonusValues, ih hrest, hvalue]

/-- The outcome of an attack goes by the totals of its own groups. -/
theorem outcome_congr {roll : AttackRoll} {left right : Totals} {attack : Nat}
    (hsame : ∀ group ∈ roll.groups attack, left group.id = right group.id)
    (armorClass : Option Int) :
    roll.outcome armorClass left attack = roll.outcome armorClass right attack := by
  have hd20s : (List.range roll.mode.d20Count).map (fun slot => left ⟨attack, slot⟩) =
      (List.range roll.mode.d20Count).map fun slot => right ⟨attack, slot⟩ := by
    apply List.map_congr_left
    intro slot hslot
    have hmem : DiceGroup.d20 ⟨attack, slot⟩ roll.color ∈ roll.groups attack :=
      List.mem_append_left _ (List.mem_map.2 ⟨slot, hslot, rfl⟩)
    exact hsame _ hmem
  have hbonus : bonusValues left attack roll.mode.d20Count roll.bonus =
      bonusValues right attack roll.mode.d20Count roll.bonus :=
    bonusValues_congr fun group hmem => hsame group (List.mem_append_right _ hmem)
  rw [outcome, outcome, hd20s, hbonus]

theorem outcomes_congr {roll : AttackRoll} {left right : Totals}
    (hsame : ∀ group ∈ roll.allGroups, left group.id = right group.id)
    (armorClass : Option Int) : roll.outcomes armorClass left = roll.outcomes armorClass right := by
  apply List.map_congr_left
  intro attack hattack
  apply outcome_congr
  intro group hmem
  exact hsame group (List.mem_flatMap.2 ⟨attack, hattack, hmem⟩)

theorem keptBy_outcomes (roll : AttackRoll) (totals : Totals) {hard easy : Option Int}
    (heasier : ArmorClass.Easier easy hard) :
    List.Forall₂ AttackOutcome.KeptBy (roll.outcomes hard totals) (roll.outcomes easy totals) := by
  rw [outcomes, outcomes, List.forall₂_map_left_iff, List.forall₂_map_right_iff, List.forall₂_same]
  intro attack _
  exact AttackOutcome.keptBy_evaluate _ _ _ heasier

end AttackRoll

namespace Resolution

/-- The slot of an attack, if there was a damage phase with that attack. -/
def slot? (resolution : Resolution) (attack : Nat) : Option DamageSlot :=
  resolution.damage.bind fun slots => slots[attack]?

/-- Whether a resolution has everything that hits in another one, attack by attack, and at least the
damage. -/
structure OutdoneBy (hard easy : Resolution) : Prop where
  attacks : Option.Rel (List.Forall₂ AttackOutcome.KeptBy) hard.attacks easy.attacks
  /-- There is a slot for each attack in both, or no damage phase. -/
  slots : hard.damage.map List.length = easy.damage.map List.length
  /-- Every hit does the same damage. -/
  damage : ∀ attack, hard.hitAt attack = true → easy.slot? attack = hard.slot? attack
  totalDamage : hard.totalDamage ≤ easy.totalDamage
  hitPoints : Option.Rel (fun before after => after.old = before.old ∧ after.new ≤ before.new)
    hard.hitPoints easy.hitPoints

end Resolution

namespace Strike

/-- The wounds of a strike go by the totals of its own groups. -/
theorem wounds_congr {strike : Strike} {components : List Component} {left right : Totals}
    (hsame : ∀ group ∈ strike.groups components, left group.id = right group.id)
    (defenses : Defenses) :
    strike.wounds components defenses left = strike.wounds components defenses right := by
  apply List.map_congr_left
  intro placed hplaced
  obtain ⟨component, position⟩ := placed
  have hcomponent := List.mk_mem_zipIdx_iff_getElem?.1 hplaced
  cases hamount : component.amount with
  | flat value => simp only [hamount]
  | dice count sides =>
      have htotal := hsame _ (mem_groups hcomponent hamount)
      simp only [hamount, htotal]

end Strike

namespace Plan

theorem damageSlots_congr {components : List Component} {entries : List (Option Strike)}
    {left right : Totals}
    (hsame : ∀ group ∈ damageGroups components entries, left group.id = right group.id)
    (defenses : Defenses) :
    entries.map (damageSlot components defenses left) =
      entries.map (damageSlot components defenses right) := by
  apply List.map_congr_left
  intro entry hentry
  cases entry with
  | none => rfl
  | some strike =>
      have hstrike : strike ∈ entries.filterMap id := by simpa using hentry
      have hgroups : ∀ group ∈ strike.groups components, left group.id = right group.id :=
        fun group hgroup => hsame group (List.mem_flatMap.2 ⟨strike, hstrike, hgroup⟩)
      rw [damageSlot, damageSlot, Strike.wounds_congr hgroups]

theorem zero_le_total (components : List Component) (defenses : Defenses) (totals : Totals)
    (entry : Option Strike) : 0 ≤ (damageSlot components defenses totals entry).total := by
  cases entry with
  | none => exact Int.le_refl 0
  | some strike =>
      apply Points.zero_le_sum
      intro value hvalue
      obtain ⟨wound, hwound, rfl⟩ := List.mem_map.1 hvalue
      obtain ⟨⟨component, position⟩, -, rfl⟩ := List.mem_map.1 hwound
      dsimp only
      split
      · exact defenses.apply_nonneg (Int.le_max_left ..) _
      · exact defenses.apply_nonneg (Int.le_max_left ..) _

/-- Whether the strikes of one list are in another list, in the same places. -/
def StrikesKept (hard easy : List (Option Strike)) : Prop :=
  List.Forall₂ (fun before after => ∀ strike, before = some strike → after = some strike) hard easy

theorem strikesKept_strikes {hard easy : Option (List AttackOutcome)}
    (hkept : Option.Rel (List.Forall₂ AttackOutcome.KeptBy) hard easy) :
    StrikesKept (strikes hard) (strikes easy) := by
  cases hkept with
  | none => exact List.forall₂_same.2 fun _ _ _ => id
  | @some hard easy hkept =>
      rw [strikes, strikes, StrikesKept, List.forall₂_map_left_iff, List.forall₂_map_right_iff]
      -- The number of the first attack moves with the induction.
      generalize 0 = first
      induction hkept generalizing first with
      | nil => exact .nil
      | @cons one other hard easy hone _ ih =>
          refine .cons ?_ (ih (first + 1))
          intro strike hstrike
          dsimp only at hstrike ⊢
          split at hstrike
          · next hhit => rwa [if_pos (hone.isHit hhit), hone.isCritical]
          · cases hstrike

namespace StrikesKept

variable {hard easy : List (Option Strike)}

theorem getElem? (hkept : StrikesKept hard easy) {attack : Nat} {strike : Strike}
    (hentry : hard[attack]? = some (some strike)) : easy[attack]? = some (some strike) := by
  induction hkept generalizing attack with
  | nil => cases hentry
  | cons hone _ ih =>
      cases attack with
      | zero =>
          have hhead := Option.some.inj hentry
          exact congrArg some (hone strike hhead)
      | succ attack => exact ih hentry

theorem mem (hkept : StrikesKept hard easy) {strike : Strike} (hmem : some strike ∈ hard) :
    some strike ∈ easy := by
  obtain ⟨attack, hentry⟩ := List.mem_iff_getElem?.1 hmem
  exact List.mem_of_getElem? (hkept.getElem? hentry)

/-- The dice of the old hits are among those that are asked for. -/
theorem mem_damageGroups (hkept : StrikesKept hard easy) {components : List Component}
    {group : DiceGroup} (hmem : group ∈ damageGroups components hard) :
    group ∈ damageGroups components easy := by
  obtain ⟨strike, hstrike, hgroup⟩ := List.mem_flatMap.1 hmem
  have hold : some strike ∈ hard := by simpa using hstrike
  have hnew : strike ∈ easy.filterMap id := by simpa using hkept.mem hold
  exact List.mem_flatMap.2 ⟨strike, hnew, hgroup⟩

/-- The new hits add what is not negative. -/
theorem sum_le (hkept : StrikesKept hard easy) (components : List Component) (defenses : Defenses)
    (totals : Totals) :
    Points.sum ((hard.map (damageSlot components defenses totals)).map DamageSlot.total) ≤
      Points.sum ((easy.map (damageSlot components defenses totals)).map DamageSlot.total) := by
  apply Points.sum_le_sum
  simp only [List.map_map, List.forall₂_map_left_iff, List.forall₂_map_right_iff]
  apply hkept.imp
  intro before after hkeeps
  cases before with
  | none => exact zero_le_total components defenses totals after
  | some strike => rw [hkeeps strike rfl]

end StrikesKept

section TwoRuns

variable {plan : Plan} {target : Option ArmorClass} {roller : Roller σ}
  {answer : Phase → GroupId → Nat → Nat → DiceGroup.Report} {control again : Control}
  {table later middle beyond : Table σ}

/-- The attack phase shows the same dice to both targets. -/
theorem keptBy_rollAttacks {hard easy : Option (List AttackOutcome)}
    (hhard : plan.rollAttacks roller control table = (.ok hard, middle))
    (heasy : { plan with target }.rollAttacks roller again later = (.ok easy, beyond))
    (hanswers : roller.AnswersBy answer table.dice) (hlater : roller.AnswersBy answer later.dice)
    (heasier : ArmorClass.Easier (target.map ArmorClass.total) plan.armorClass) :
    Option.Rel (List.Forall₂ AttackOutcome.KeptBy) hard easy := by
  cases hroll : plan.attack with
  | none =>
      simp only [rollAttacks, hroll] at hhard heasy
      cases hhard
      cases heasy
      exact .none
  | some roll =>
      obtain ⟨reply, totals, hreply, hreads, rfl⟩ := exists_reply_of_rollAttacks hroll hhard
      have hsame : Plan.attack { plan with target } = some roll := hroll
      obtain ⟨other, others, hother, hothers, rfl⟩ := exists_reply_of_rollAttacks hsame heasy
      have hfirst := hanswers.total_eq roll.nodup_allGroups hreply hreads
      have hsecond := hlater.total_eq roll.nodup_allGroups hother hothers
      have htotals : ∀ group ∈ roll.allGroups, totals group.id = others group.id :=
        fun group hmem => (hfirst group hmem).trans (hsecond group hmem).symm
      rw [AttackRoll.outcomes_congr htotals]
      exact .some (roll.keptBy_outcomes others heasier)

/-- One table of totals serves the damage phases of both targets. -/
theorem exists_totals_of_rollDamage {components : List Component} {hard easy : Resolution}
    {last ending : Table σ} (hanswers : roller.AnswersBy answer middle.dice)
    (hbeyond : roller.AnswersBy answer beyond.dice)
    (hkept : StrikesKept (strikes hard.attacks) (strikes easy.attacks))
    (hcomponents : plan.damage = some components)
    (hhard : plan.rollDamage roller control (strikes hard.attacks) middle = (.ok hard.damage, last))
    (heasy : { plan with target }.rollDamage roller again (strikes easy.attacks) beyond =
      (.ok easy.damage, ending)) :
    ∃ totals, hard.damage = some ((strikes hard.attacks).map
        (damageSlot components plan.defenses totals)) ∧
      easy.damage = some ((strikes easy.attacks).map
        (damageSlot components plan.defenses totals)) := by
  obtain ⟨reply, totals, hreply, hreads, hslots⟩ := exists_reply_of_rollDamage hcomponents hhard
  have hsame : Plan.damage { plan with target } = some components := hcomponents
  obtain ⟨other, others, hother, hothers, hmore⟩ := exists_reply_of_rollDamage hsame heasy
  have hfirst := hanswers.total_eq (nodup_damageGroups components hard) hreply hreads
  have hsecond := hbeyond.total_eq (nodup_damageGroups components easy) hother hothers
  have htotals : ∀ group ∈ damageGroups components (strikes hard.attacks),
      totals group.id = others group.id :=
    fun group hmem => (hfirst group hmem).trans (hsecond group (hkept.mem_damageGroups hmem)).symm
  refine ⟨others, ?_, hmore⟩
  rw [hslots, damageSlots_congr htotals]

/-- The strike of an attack that hit is still there. -/
theorem StrikesKept.slot_eq {hard easy : Resolution} {slot : Option Strike → DamageSlot}
    (hkept : StrikesKept (strikes hard.attacks) (strikes easy.attacks))
    (hhard : hard.damage = some ((strikes hard.attacks).map slot))
    (heasy : easy.damage = some ((strikes easy.attacks).map slot)) {attack : Nat}
    (hhit : hard.hitAt attack = true) : easy.slot? attack = hard.slot? attack := by
  rw [Resolution.slot?, Resolution.slot?, hhard, heasy, Option.bind_some, Option.bind_some,
    List.getElem?_map, List.getElem?_map]
  cases hentry : (strikes hard.attacks)[attack]? with
  | none =>
      have hbound := List.getElem?_eq_none_iff.1 hentry
      rw [hkept.length_eq] at hbound
      rw [List.getElem?_eq_none hbound]
  | some entry =>
      have hstrike := getElem?_strikes hentry
      rw [if_pos hhit] at hstrike
      rw [hstrike] at hentry ⊢
      rw [hkept.getElem? hentry]

/-- More damage leaves no more hit points. -/
theorem rel_hitPoints (points : Option Int) {less more : Int} (hle : less ≤ more) :
    Option.Rel (fun before after => after.old = before.old ∧ after.new ≤ before.new)
      (points.map fun old => HitPoints.after old less)
      (points.map fun old => HitPoints.after old more) := by
  cases points with
  | none => exact .none
  | some old => exact .some ⟨rfl, Points.clamp_mono (Int.sub_le_sub_left hle old)⟩

/-- What both phases give is summed up alike for both targets. -/
theorem outdoneBy_summarize {hard easy : Resolution}
    (hattacks : Option.Rel (List.Forall₂ AttackOutcome.KeptBy) hard.attacks easy.attacks)
    (hdamage : hard.damage = none ∧ easy.damage = none ∨
      ∃ components totals, hard.damage = some ((strikes hard.attacks).map
          (damageSlot components plan.defenses totals)) ∧
        easy.damage = some ((strikes easy.attacks).map
          (damageSlot components plan.defenses totals)))
    (hhard : hard = plan.summarize hard.attacks hard.damage)
    (heasy : easy = plan.summarize easy.attacks easy.damage) : hard.OutdoneBy easy := by
  have hkept := strikesKept_strikes hattacks
  have hparts : hard.damage.map List.length = easy.damage.map List.length ∧
      (∀ attack, hard.hitAt attack = true → easy.slot? attack = hard.slot? attack) ∧
      Points.sum ((hard.damage.getD []).map DamageSlot.total) ≤
        Points.sum ((easy.damage.getD []).map DamageSlot.total) := by
    obtain ⟨hnone, hnothing⟩ | ⟨components, totals, hslots, hmore⟩ := hdamage
    · simp only [Resolution.slot?, hnone, hnothing, le_refl, implies_true, and_self]
    · refine ⟨?_, fun attack hhit => hkept.slot_eq hslots hmore hhit, ?_⟩
      · simp only [hslots, hmore, Option.map_some, List.length_map, hkept.length_eq]
      · rw [hslots, hmore]
        exact hkept.sum_le components plan.defenses totals
  obtain ⟨hlength, hhits, hle⟩ := hparts
  constructor
  case attacks => exact hattacks
  case slots => exact hlength
  case damage => exact hhits
  case totalDamage =>
    rw [hhard, heasy]
    exact hle
  case hitPoints =>
    rw [hhard, heasy]
    exact rel_hitPoints plan.hitPoints hle

/-- An easier target is hurt at least as much: with dice that fall for each group by itself, every
attack has the same dice, the same total and the same critical, every hit stays a hit with the same
damage, the damage in all is not less and the hit points left are not more. -/
theorem outdoneBy_of_easier {hard easy : Resolution}
    (hanswers : roller.AnswersBy answer table.dice) (hlater : roller.AnswersBy answer later.dice)
    (heasier : ArmorClass.Easier (target.map ArmorClass.total) plan.armorClass)
    (hhard : (plan.resolve roller control table).1 = .ok hard)
    (heasy : ({ plan with target }.resolve roller again later).1 = .ok easy) :
    hard.OutdoneBy easy := by
  obtain ⟨-, middle, hattack, hdamage, hsum⟩ := exists_phases_of_resolve (Prod.ext hhard rfl)
  obtain ⟨-, beyond, hattackAgain, hdamageAgain, hsumAgain⟩ :=
    exists_phases_of_resolve (Prod.ext heasy rfl)
  have hattacks := keptBy_rollAttacks hattack hattackAgain hanswers hlater heasier
  refine outdoneBy_summarize hattacks ?_ hsum hsumAgain
  cases hcomponents : plan.damage with
  | none =>
      left
      exact ⟨(damage_eq_none_iff hdamage).2 hcomponents,
        (damage_eq_none_iff hdamageAgain).2 hcomponents⟩
  | some components =>
      right
      -- The damage phases find dice that still fall for each group by itself.
      have hasked := plan.asked_rollAttacks roller control
        { table with line := table.line.acknowledge }
      have haskedAgain := Plan.asked_rollAttacks { plan with target } roller again
        { later with line := later.line.acknowledge }
      rw [hattack] at hasked
      rw [hattackAgain] at haskedAgain
      have hmiddle := hasked.answersBy hanswers
      have hbeyond := haskedAgain.answersBy hlater
      exact ⟨components, exists_totals_of_rollDamage hmiddle hbeyond
        (strikesKept_strikes hattacks) hcomponents hdamage hdamageAgain⟩

end TwoRuns

/-- Of two attacks the second hits only the easier target, and its dice are then asked for in the
request that has those of the first. -/
theorem outdoneBy_of_easier_pair :
    let components : List Component := [⟨.plus, .flat 2, []⟩, ⟨.plus, .dice 2 6, "fi".toList⟩]
    let plan : Plan := ⟨some ⟨2, .normal, [], []⟩, some ⟨15, 0⟩, some components, some 20,
      ⟨[], [], []⟩⟩
    let target : Option ArmorClass := some ⟨10, -2⟩
    let control : Control := ⟨.ofMillis 12000, 0⟩
    let totals : List GroupTotal :=
      [⟨⟨0, 0⟩, some 18⟩, ⟨⟨0, 1⟩, some 7⟩, ⟨⟨1, 0⟩, some 9⟩, ⟨⟨1, 1⟩, some 5⟩]
    let table : Table RemoteDice := ⟨.listening [.results totals], .absent, []⟩
    let hard : Resolution :=
      ⟨some [⟨true, false, 18, [18]⟩, ⟨false, false, 9, [9]⟩],
        some [.hit [⟨2, []⟩, ⟨7, "fi".toList⟩], .miss], 9, some ⟨20, 11⟩⟩
    let easy : Resolution :=
      ⟨some [⟨true, false, 18, [18]⟩, ⟨true, false, 9, [9]⟩],
        some [.hit [⟨2, []⟩, ⟨7, "fi".toList⟩], .hit [⟨2, []⟩, ⟨5, "fi".toList⟩]], 16,
        some ⟨20, 4⟩⟩
    (plan.resolve RemoteDice.roller control table).1 = .ok hard ∧
      ({ plan with target }.resolve RemoteDice.roller control table).1 = .ok easy ∧
      hard.OutdoneBy easy := by
  intro components plan target control totals table hard easy
  have hhard : (plan.resolve RemoteDice.roller control table).1 = .ok hard := by
    decide +kernel
  have heasy : ({ plan with target }.resolve RemoteDice.roller control table).1 = .ok easy := by
    decide +kernel
  have heasier : ArmorClass.Easier (target.map ArmorClass.total) plan.armorClass := by
    intro goal hgoal
    cases hgoal
    exact ⟨15, rfl, by decide⟩
  have hanswers := RemoteDice.answersBy_results totals
  exact ⟨hhard, heasy, outdoneBy_of_easier hanswers hanswers heasier hhard heasy⟩

end Plan

end Skirmish
