import Skirmish.Dice.Scripted
import Skirmish.Proofs.Resolution.DiceBound

/-!
# What defenses do

Immunity and resistance never add to a wound and vulnerability never takes from one, whatever else a
type is.  Defenses act only through whether they name the type of a component, so the order of their
types, repetitions and the letter case make no difference.  None of this has a part in what is
asked of the roller, except that the letters of a type are a hint to it.
-/

namespace Skirmish

variable {σ : Type}

theorem sameType_comm (left right : Text) : sameType left right = sameType right left :=
  BEq.comm

namespace Defenses

/-- Whether types are all named among others, in any order and letter case. -/
def Among (types others : List Text) : Prop :=
  ∀ damageType ∈ types, ∃ other ∈ others, sameType damageType other = true

/-- Whether defenses are at most as good as others, which have all of their immunities and
resistances and no other vulnerabilities. -/
structure Weaker (soft hard : Defenses) : Prop where
  immune : Among soft.immune hard.immune
  resisted : Among soft.resisted hard.resisted
  vulnerable : Among hard.vulnerable soft.vulnerable

theorem among_of_subset {types others : List Text} (hsubset : types ⊆ others) :
    Among types others :=
  fun damageType hmem => ⟨damageType, hsubset hmem, beq_self_eq_true _⟩

theorem Weaker.of_subset {soft hard : Defenses} (himmune : soft.immune ⊆ hard.immune)
    (hresisted : soft.resisted ⊆ hard.resisted) (hvulnerable : hard.vulnerable ⊆ soft.vulnerable) :
    soft.Weaker hard :=
  ⟨among_of_subset himmune, among_of_subset hresisted, among_of_subset hvulnerable⟩

theorem names_of_among {types others : List Text} {damageType other : Text}
    (hamong : Among types others) (hsame : sameType damageType other = true)
    (hnames : names types damageType = true) : names others other = true := by
  obtain ⟨named, hnamed, hequal⟩ := List.any_eq_true.1 hnames
  obtain ⟨again, hagain, hcase⟩ := hamong named hnamed
  refine List.any_eq_true.2 ⟨again, hagain, ?_⟩
  simp only [sameType, beq_iff_eq] at hsame hequal hcase ⊢
  rw [← hsame, hequal, hcase]

/-- Better defenses leave no more of a value that is in range. -/
theorem apply_le_apply {soft hard : Defenses} (hweaker : soft.Weaker hard)
    {damageType other : Text} (hsame : sameType damageType other = true) {value : Int}
    (hvalue : 0 ≤ value) (hhigh : value ≤ Points.highest) :
    hard.apply value other ≤ soft.apply value damageType := by
  have hback : sameType other damageType = true := sameType_comm .. ▸ hsame
  have himmune : soft.isImmune damageType = true → hard.isImmune other = true :=
    names_of_among hweaker.immune hsame
  have hresisted : soft.isResistant damageType = true → hard.isResistant other = true :=
    names_of_among hweaker.resisted hsame
  have hvulnerable : hard.isVulnerable other = true → soft.isVulnerable damageType = true :=
    names_of_among hweaker.vulnerable hback
  by_cases hnothing : hard.isImmune other = true
  · rw [apply.eq_def hard, if_pos hnothing]
    exact soft.apply_nonneg hvalue damageType
  · have hwounded : ¬soft.isImmune damageType = true := fun hsoft => hnothing (himmune hsoft)
    simp only [apply, if_neg hnothing, if_neg hwounded]
    have hhalved : (if hard.isResistant other then value / 2 else value) ≤
        if soft.isResistant damageType then value / 2 else value := by
      by_cases hhalf : soft.isResistant damageType = true
      · rw [if_pos hhalf, if_pos (hresisted hhalf)]
      · rw [if_neg hhalf]
        split <;> omega
    have hbound : 0 ≤ (if soft.isResistant damageType then value / 2 else value) ∧
        (if soft.isResistant damageType then value / 2 else value) ≤ Points.highest := by
      split <;> omega
    generalize (if hard.isResistant other then value / 2 else value) = less at *
    generalize (if soft.isResistant damageType then value / 2 else value) = more at *
    have hdoubled : more ≤ Points.double more := by
      simp only [Points.double, Points.clamp, Points.lowest]
      omega
    by_cases hdouble : hard.isVulnerable other = true
    · rw [if_pos hdouble, if_pos (hvulnerable hdouble)]
      exact Points.clamp_mono (by omega)
    · rw [if_neg hdouble]
      split
      · exact hhalved.trans hdoubled
      · exact hhalved

end Defenses

/-- A group without its hint. -/
def DiceGroup.untagged (group : DiceGroup) : DiceGroup :=
  { group with tag := [] }

/-- A request without the hints of its groups. -/
def Request.untagged (request : Request) : Request :=
  { request with groups := request.groups.map DiceGroup.untagged }

/-- Whether the hints of a request make no difference to the response. -/
def Roller.IgnoresTags (roller : Roller σ) : Prop :=
  ∀ dice request other, request.untagged = other.untagged →
    (roller.ask dice request).1 = (roller.ask dice other).1

/-- Scripted dice keep the requests with their hints, but do not go by them. -/
theorem ScriptedDice.ignoresTags : ScriptedDice.roller.IgnoresTags := by
  have hdeal : ∀ (fallback : Option Int) (groups : List DiceGroup) (values : List Int),
      deal fallback (groups.map DiceGroup.untagged) values = deal fallback groups values := by
    intro fallback groups values
    fun_induction deal fallback groups values <;> simp_all [deal, DiceGroup.untagged]
  intro dice request other hsame
  have hgroups := (Request.mk.inj hsame).2.2
  have hdealt : deal dice.fallback request.groups dice.values =
      deal dice.fallback other.groups dice.values := by
    rw [← hdeal, hgroups, hdeal]
  simp only [roller, ask, hdealt]
  split <;> rfl

theorem Totals.collect_untagged (groups : List DiceGroup) (reply : List GroupTotal) :
    collect (groups.map DiceGroup.untagged) reply = collect groups reply := by
  simp only [collect, List.find?_map, Function.comp_def, DiceGroup.untagged]
  cases groups.find? fun group => (reported? group.id reply).isNone with
  | some group => rfl
  | none =>
      refine congrArg Except.ok (funext fun id => ?_)
      cases groups.find? fun group => group.id == id <;> rfl

/-- Totals are no more than the dice can show. -/
theorem Totals.le_of_collect {groups : List DiceGroup} {reply : List GroupTotal} {totals : Totals}
    {bound : Int} (hok : collect groups reply = .ok totals) (hzero : 0 ≤ bound)
    (hbound : ∀ group ∈ groups, (group.count * group.sides : Int) ≤ bound) (id : GroupId) :
    totals id ≤ bound := by
  rw [collect] at hok
  split at hok
  · cases hok
  · cases hok
    cases hfound : groups.find? fun group => group.id == id with
    | none => simpa only [hfound] using hzero
    | some group =>
        have hgroup := hbound group (List.mem_of_find?_eq_some hfound)
        simp only [hfound, usable]
        split
        · next total _ =>
          split
          · next haccepted =>
            simp only [DiceGroup.accepts, Bool.and_eq_true, decide_eq_true_eq] at haccepted
            omega
          · exact hzero
        · exact hzero

namespace Table

/-- Whether two tables wait on the same line and have made the same requests, hints aside. -/
structure SameButTags (left right : Table σ) : Prop where
  line : left.line = right.line
  requests : left.requests.map Request.untagged = right.requests.map Request.untagged

theorem SameButTags.refl (table : Table σ) : SameButTags table table :=
  ⟨rfl, rfl⟩

variable {roller : Roller σ} {wait : Wait} {phase : Phase} {seed : UInt64}

/-- A phase goes by its groups without their hints. -/
theorem roll_of_untagged {left right : List DiceGroup}
    (hsame : left.map DiceGroup.untagged = right.map DiceGroup.untagged)
    (hblind : left = right ∨ roller.IgnoresTags) (table : Table σ) :
    (table.roll roller wait phase seed left).1 = (table.roll roller wait phase seed right).1 ∧
      SameButTags (table.roll roller wait phase seed left).2
        (table.roll roller wait phase seed right).2 := by
  obtain rfl | hblind := hblind
  · exact ⟨rfl, .refl _⟩
  have hfilter : ∀ groups : List DiceGroup,
      (groups.filter fun group => 0 < group.count).map DiceGroup.untagged =
        (groups.map DiceGroup.untagged).filter fun group => 0 < group.count := by
    intro groups
    rw [List.filter_map]
    rfl
  have hasked : (left.filter fun group => 0 < group.count).map DiceGroup.untagged =
      (right.filter fun group => 0 < group.count).map DiceGroup.untagged := by
    rw [hfilter, hfilter, hsame]
  simp only [roll]
  generalize left.filter (fun group => 0 < group.count) = groups at hasked ⊢
  generalize right.filter (fun group => 0 < group.count) = others at hasked ⊢
  have hempty : groups.isEmpty = others.isEmpty := by
    rw [← List.isEmpty_map, hasked, List.isEmpty_map]
  have hrequest : (Request.mk phase seed groups).untagged =
      (Request.mk phase seed others).untagged :=
    congrArg (Request.mk phase seed) hasked
  have hrequests : (table.requests ++ [Request.mk phase seed groups]).map Request.untagged =
      (table.requests ++ [Request.mk phase seed others]).map Request.untagged := by
    rw [List.map_append, List.map_append, List.map_singleton, List.map_singleton, hrequest]
  rw [hempty, hblind table.dice _ _ hrequest]
  split
  · exact ⟨rfl, .refl table⟩
  · cases (roller.ask table.dice ⟨phase, seed, others⟩).1 with
    | results reply =>
        refine ⟨?_, rfl, hrequests⟩
        dsimp only
        rw [← Totals.collect_untagged, hasked, Totals.collect_untagged]
    | failed cause => exact ⟨rfl, rfl, hrequests⟩
    | unanswered signals => exact ⟨rfl, rfl, hrequests⟩

/-- The totals of a phase are no more than the dice that are asked for can show. -/
theorem le_of_roll {table : Table σ} {groups : List DiceGroup} {totals : Totals} {bound : Int}
    (hok : (table.roll roller wait phase seed groups).1 = .ok totals) (hzero : 0 ≤ bound)
    (hbound : ∀ request ∈ Request.forGroups phase seed groups, ∀ group ∈ request.groups,
      (group.count * group.sides : Int) ≤ bound) (id : GroupId) : totals id ≤ bound := by
  simp only [roll] at hok
  split at hok
  · cases hok
    exact hzero
  · next hsome =>
    have hrequest : ⟨phase, seed, groups.filter fun group => 0 < group.count⟩ ∈
        Request.forGroups phase seed groups :=
      Request.mem_forGroups.2 ⟨fun hnil => hsome (by rw [hnil, List.isEmpty_nil]), rfl⟩
    split at hok
    · exact Totals.le_of_collect hok hzero (hbound _ hrequest) id
    · cases hok
    · cases hok

end Table

/-- Whether two components differ at most in the letter case of their types. -/
structure Component.SameButCase (left right : Component) : Prop where
  sign : left.sign = right.sign
  amount : left.amount = right.amount
  damageType : sameType left.damageType right.damageType = true

namespace Strike

/-- The letter case of the types is in the hints of the groups only. -/
theorem map_untagged_groups {left right : List Component}
    (hsame : List.Forall₂ Component.SameButCase left right) (strike : Strike) :
    (strike.groups left).map DiceGroup.untagged = (strike.groups right).map DiceGroup.untagged := by
  simp only [groups_eq_filterMap, List.map_filterMap]
  -- The position of the first component moves with the induction.
  generalize 0 = position
  induction hsame generalizing position with
  | nil => rfl
  | @cons one other left right hone _ ih =>
      have hgroup : (strike.group? (one, position)).map DiceGroup.untagged =
          (strike.group? (other, position)).map DiceGroup.untagged := by
        rw [group?, group?, hone.amount]
        cases other.amount <;> rfl
      rw [List.zipIdx_cons, List.zipIdx_cons, List.filterMap_cons, List.filterMap_cons, hgroup,
        ih (position + 1)]

end Strike

/-- Whether a wound is of the type of another one, up to letter case, and their values are
related. -/
def Wound.Compared (relates : Int → Int → Prop) (left right : Wound) : Prop :=
  relates left.value right.value ∧ sameType left.damageType right.damageType = true

/-- Whether the wounds of two slots are related one by one.  A miss has none. -/
inductive DamageSlot.Compared (relates : Int → Int → Prop) : DamageSlot → DamageSlot → Prop
  | miss : Compared relates .miss .miss
  | hit {left right : List Wound} (hwounds : List.Forall₂ (Wound.Compared relates) left right) :
      Compared relates (.hit left) (.hit right)

/-- Whether two resolutions have the same attacks, and damage that is related wound by wound and in
all. -/
structure Resolution.Compared (relates : Int → Int → Prop) (left right : Resolution) : Prop where
  attacks : left.attacks = right.attacks
  damage : Option.Rel (List.Forall₂ (DamageSlot.Compared relates)) left.damage right.damage
  totalDamage : relates left.totalDamage right.totalDamage

/-- Whether relations of numbers are kept by adding them up as points. -/
def Points.Adds (relates : Int → Int → Prop) : Prop :=
  ∀ left right, List.Forall₂ relates left right → relates (sum left) (sum right)

/-- Whether what two defenses leave of every value in range is related. -/
def Defenses.Leave (relates : Int → Int → Prop) (left right : Defenses) : Prop :=
  ∀ {damageType other : Text}, sameType damageType other = true → ∀ {value : Int}, 0 ≤ value →
    value ≤ Points.highest → relates (left.apply value damageType) (right.apply value other)

/-- Whether the figures of an amount are ones that a component can state. -/
def Amount.Statable : Amount → Prop
  | .dice count sides => count ≤ largestCount ∧ sides ≤ largestCount
  | .flat value => Points.inRange value = true

section Compare

variable {relates : Int → Int → Prop} {left right : Defenses}

/-- Components that differ in letter case cause related wounds. -/
theorem Strike.compared_wounds (hleave : left.Leave relates right)
    {components others : List Component}
    (hsame : List.Forall₂ Component.SameButCase components others)
    (hflat : ∀ component ∈ components, component.amount.Statable) {totals : Totals}
    (htotals : ∀ id, totals id ≤ Points.highest) (strike : Strike) :
    List.Forall₂ (Wound.Compared relates) (strike.wounds components left totals)
      (strike.wounds others right totals) := by
  simp only [wounds]
  generalize 0 = position
  induction hsame generalizing position with
  | nil => exact .nil
  | @cons one other components others hone _ ih =>
      obtain ⟨hfirst, hrest⟩ := List.forall_mem_cons.1 hflat
      obtain ⟨hsign, hamount, htype⟩ := hone
      have hwound : ∀ magnitude ≤ Points.highest,
          Wound.Compared relates (wound left one magnitude) (wound right other magnitude) := by
        intro magnitude hmagnitude
        have hbase : max 0 (one.sign.apply magnitude) ≤ Points.highest := by
          cases one.sign
          · simp only [Sign.apply, Points.highest] at *
            omega
          · simp only [Sign.apply, Points.neg, Points.clamp, Points.lowest, Points.highest]
            omega
        simp only [Wound.Compared, wound, ← hsign]
        exact ⟨hleave htype (Int.le_max_left ..) hbase, htype⟩
      refine .cons ?_ (ih hrest (position + 1))
      dsimp only
      rw [← hamount]
      cases hkind : one.amount with
      | dice count sides => exact hwound _ (htotals _)
      | flat value =>
          rw [hkind, Amount.Statable, Points.inRange, Bool.and_eq_true, decide_eq_true_eq,
            decide_eq_true_eq] at hfirst
          exact hwound value hfirst.2

theorem DamageSlot.Compared.total (hadds : Points.Adds relates) {one other : DamageSlot}
    (hcompared : one.Compared relates other) : relates one.total other.total := by
  cases hcompared with
  | miss => exact hadds _ _ .nil
  | @hit left right hwounds =>
      apply hadds
      rw [List.forall₂_map_left_iff, List.forall₂_map_right_iff]
      exact hwounds.imp fun _ _ hwound => hwound.1

/-- The damage is added up in the same way. -/
theorem Plan.compared_summarize {plan other : Plan} (hadds : Points.Adds relates)
    {attacks : Option (List AttackOutcome)} {damage again : Option (List DamageSlot)}
    (hdamage : Option.Rel (List.Forall₂ (DamageSlot.Compared relates)) damage again) :
    (plan.summarize attacks damage).Compared relates (other.summarize attacks again) where
  attacks := rfl
  damage := hdamage
  totalDamage := by
    apply hadds
    rw [List.forall₂_map_left_iff, List.forall₂_map_right_iff]
    cases hdamage with
    | none => exact .nil
    | some hslots => exact hslots.imp fun _ _ hslot => hslot.total hadds

end Compare

/-- Whether two plans differ at most in their defenses and in the letter case of their types of
damage. -/
structure Plan.SameButDefenses (plan other : Plan) : Prop where
  attack : plan.attack = other.attack
  target : plan.target = other.target
  damage : Option.Rel (List.Forall₂ Component.SameButCase) plan.damage other.damage
  hitPoints : plan.hitPoints = other.hitPoints

/-- Whether two results are the same failure or related values. -/
inductive EndAlike {ε α : Type} (relates : α → α → Prop) : Except ε α → Except ε α → Prop
  | error (cause : ε) : EndAlike relates (.error cause) (.error cause)
  | ok {left right : α} (hrelated : relates left right) : EndAlike relates (.ok left) (.ok right)

/-- Whether two runs ask for the same dice, hints aside, and fail alike or come to resolutions that
are related. -/
structure Resolution.RunsCompared (relates : Int → Int → Prop)
    (left right : Except ResolveError Resolution × Table σ) : Prop where
  table : left.2.SameButTags right.2
  result : EndAlike (Resolution.Compared relates) left.1 right.1

namespace Plan

variable {plan other : Plan} {roller : Roller σ} {control : Control} {table : Table σ}

theorem SameButDefenses.damage_cases (hsame : plan.SameButDefenses other) :
    plan.damage = none ∧ other.damage = none ∨
      ∃ components others, plan.damage = some components ∧ other.damage = some others ∧
        List.Forall₂ Component.SameButCase components others := by
  have hdamage := hsame.damage
  generalize plan.damage = damage, other.damage = again at hdamage ⊢
  cases hdamage with
  | none => exact .inl ⟨rfl, rfl⟩
  | some hcomponents => exact .inr ⟨_, _, rfl, rfl, hcomponents⟩

theorem SameButDefenses.maxDice (hsame : plan.SameButDefenses other) :
    plan.maxDice = other.maxDice := by
  have hamounts : (plan.damage.getD []).map Component.amount =
      (other.damage.getD []).map Component.amount := by
    obtain ⟨hnone, hnothing⟩ | ⟨components, others, hsome, hother, hcases⟩ := hsame.damage_cases
    · rw [hnone, hnothing]
    · rw [hsome, hother, Option.getD_some, Option.getD_some, ← List.forall₂_eq_eq_eq,
        List.forall₂_map_left_iff, List.forall₂_map_right_iff]
      exact hcases.imp fun _ _ hcomponent => hcomponent.amount
  rw [Plan.maxDice, Plan.maxDice, mostDice, mostDice, damageDice, damageDice, hamounts,
    hsame.attack]

/-- The attack phase knows nothing of defenses. -/
theorem SameButDefenses.rollAttacks (hsame : plan.SameButDefenses other) :
    plan.rollAttacks roller control table = other.rollAttacks roller control table := by
  rw [Plan.rollAttacks, Plan.rollAttacks, armorClass, armorClass, hsame.attack, hsame.target]

/-- A group of the damage phase has the sides of one of the components. -/
theorem exists_component_of_mem_damageGroups {components : List Component}
    {strikes : List (Option Strike)} {group : DiceGroup}
    (hmem : group ∈ damageGroups components strikes) :
    ∃ component ∈ components, ∃ count, component.amount = .dice count group.sides := by
  obtain ⟨strike, -, hgroup⟩ := List.mem_flatMap.1 hmem
  rw [Strike.groups_eq_filterMap] at hgroup
  obtain ⟨placed, hplaced, hgroup⟩ := List.mem_filterMap.1 hgroup
  refine ⟨placed.1, List.fst_mem_of_mem_zipIdx hplaced, ?_⟩
  rw [Strike.group?] at hgroup
  split at hgroup
  · next count sides hamount =>
    cases hgroup
    exact ⟨count, hamount⟩
  · cases hgroup

/-- Dice that a command may roll show no more than the highest number of points. -/
theorem totals_le_highest {components : List Component} {attacks : Option (List AttackOutcome)}
    {totals : Totals} {seed : UInt64} (hcomponents : plan.damage = some components)
    (hstatable : ∀ component ∈ components, component.amount.Statable)
    (hcounts : ∀ request ∈ plan.damageRequests seed attacks, ∀ group ∈ request.groups,
      group.count ≤ maxDicePerCommand)
    (hok : (table.roll roller control.wait .damage (seed + 1)
      (damageGroups components (strikes attacks))).1 = .ok totals) (id : GroupId) :
    totals id ≤ Points.highest := by
  refine Table.le_of_roll hok (by decide) ?_ id
  intro request hrequest group hgroup
  have hcount : group.count ≤ 100000 := by
    apply hcounts request _ group hgroup
    rwa [damageRequests, hcomponents]
  have hsides : group.sides ≤ 4294967295 := by
    rw [(Request.mem_forGroups.1 hrequest).2] at hgroup
    obtain ⟨component, hmem, count, hamount⟩ :=
      exists_component_of_mem_damageGroups (List.mem_filter.1 hgroup).1
    have hstated := hstatable component hmem
    rw [hamount] at hstated
    exact hstated.2
  have hproduct := Nat.mul_le_mul hcount hsides
  simp only [Points.highest]
  omega

section Compare

variable {relates : Int → Int → Prop}

/-- The damage phases of two plans that differ in their defenses. -/
theorem compared_rollDamage (table : Table σ) (hsame : plan.SameButDefenses other)
    (hleave : plan.defenses.Leave relates other.defenses)
    (hblind : plan.damage = other.damage ∨ roller.IgnoresTags)
    {attacks : Option (List AttackOutcome)}
    (hstatable : ∀ component ∈ plan.damage.getD [], component.amount.Statable)
    (hcounts : ∀ request ∈ plan.damageRequests control.seed attacks, ∀ group ∈ request.groups,
      group.count ≤ maxDicePerCommand) :
    (plan.rollDamage roller control (strikes attacks) table).2.SameButTags
        (other.rollDamage roller control (strikes attacks) table).2 ∧
      EndAlike (Option.Rel (List.Forall₂ (DamageSlot.Compared relates)))
        (plan.rollDamage roller control (strikes attacks) table).1
        (other.rollDamage roller control (strikes attacks) table).1 := by
  obtain ⟨hnone, hnothing⟩ | ⟨components, others, hsome, hother, hcases⟩ := hsame.damage_cases
  · rw [rollDamage, rollDamage, hnone, hnothing]
    exact ⟨.refl table, .ok .none⟩
  · rw [hsome, hother] at hblind
    rw [hsome, Option.getD_some] at hstatable
    have hgroups : (damageGroups components (strikes attacks)).map DiceGroup.untagged =
        (damageGroups others (strikes attacks)).map DiceGroup.untagged := by
      rw [damageGroups, damageGroups, List.map_flatMap, List.map_flatMap]
      exact List.flatMap_congr fun strike _ => strike.map_untagged_groups hcases
    have hseen : damageGroups components (strikes attacks) =
        damageGroups others (strikes attacks) ∨ roller.IgnoresTags :=
      hblind.imp_left fun heq => by rw [Option.some.inj heq]
    simp only [rollDamage, hsome, hother]
    obtain ⟨hresult, htable⟩ := Table.roll_of_untagged hgroups hseen table
    refine ⟨htable, ?_⟩
    rw [← hresult]
    cases hrolled : (table.roll roller control.wait .damage (control.seed + 1)
        (damageGroups components (strikes attacks))).1 with
    | error cause => exact .error cause
    | ok totals =>
        refine .ok (.some ?_)
        rw [List.forall₂_map_left_iff, List.forall₂_map_right_iff, List.forall₂_same]
        intro entry _
        cases entry with
        | none => exact .miss
        | some strike =>
            exact .hit (strike.compared_wounds hleave hcases hstatable
              (totals_le_highest hsome hstatable hcounts hrolled))

/-- Two plans that differ in their defenses come to resolutions that are related as what the
defenses leave of single values is. -/
theorem compared_resolve (hsame : plan.SameButDefenses other) (hadds : Points.Adds relates)
    (hleave : plan.defenses.Leave relates other.defenses)
    (hblind : plan.damage = other.damage ∨ roller.IgnoresTags)
    (hstatable : ∀ component ∈ plan.damage.getD [], component.amount.Statable) :
    Resolution.RunsCompared relates (plan.resolve roller control table)
      (other.resolve roller control table) := by
  by_cases hlimit : maxDicePerCommand < plan.maxDice
  · rw [resolve, resolve, ← hsame.maxDice, if_pos hlimit, if_pos hlimit]
    exact ⟨.refl table, .error _⟩
  · have hwithin := Nat.not_lt.1 hlimit
    simp only [resolve_within hwithin, resolve_within (hsame.maxDice ▸ hwithin),
      ← hsame.rollAttacks]
    cases hattacked : (plan.rollAttacks roller control
        { table with line := table.line.acknowledge }).1 with
    | error cause => exact ⟨.refl _, .error _⟩
    | ok attacks =>
        have hcounts : ∀ request ∈ plan.damageRequests control.seed attacks,
            ∀ group ∈ request.groups, group.count ≤ maxDicePerCommand := by
          intro request hrequest group hgroup
          have hmade : request ∈
              plan.requests control.seed (plan.attackEnding roller control table) :=
            mem_requests.2 ⟨hwithin, .inr ⟨attacks, hattacked, hrequest⟩⟩
          exact count_le_of_mem_requests hwithin hmade hgroup
        obtain ⟨htable, hdamage⟩ := compared_rollDamage
          (plan.rollAttacks roller control { table with line := table.line.acknowledge }).2
          hsame hleave hblind hstatable hcounts
        refine ⟨htable, ?_⟩
        dsimp only
        generalize (plan.rollDamage roller control (strikes attacks) _).1 = left,
          (other.rollDamage roller control (strikes attacks) _).1 = right at hdamage ⊢
        cases hdamage with
        | error cause => exact .error _
        | ok hslots => exact .ok (compared_summarize hadds hslots)

end Compare

/-- With the same damage, the roller sees no difference at all. -/
theorem SameButDefenses.table_resolve (hsame : plan.SameButDefenses other)
    (hdamage : plan.damage = other.damage) :
    (plan.resolve roller control table).2 = (other.resolve roller control table).2 := by
  by_cases hlimit : maxDicePerCommand < plan.maxDice
  · rw [resolve, resolve, ← hsame.maxDice, if_pos hlimit, if_pos hlimit]
  · have hwithin := Nat.not_lt.1 hlimit
    simp only [resolve_within hwithin, resolve_within (hsame.maxDice ▸ hwithin),
      ← hsame.rollAttacks]
    cases (plan.rollAttacks roller control { table with line := table.line.acknowledge }).1 with
    | error cause => rfl
    | ok attacks =>
        simp only [rollDamage, hdamage]
        cases other.damage with
        | none => rfl
        | some components => rfl

/-- What becomes of a plan when its defenses are exchanged for others.  Better defenses leave no
wound greater, and those that are as good leave all wounds as they are. -/
structure DefendedBy (roller : Roller σ) (control : Control) (table : Table σ)
    (plan other : Plan) : Prop where
  rolling : plan.damage = other.damage →
    (plan.resolve roller control table).2 = (other.resolve roller control table).2
  runs : Resolution.RunsCompared (fun _ _ => True) (plan.resolve roller control table)
    (other.resolve roller control table)
  better : plan.defenses.Weaker other.defenses →
    Resolution.RunsCompared (· ≥ ·) (plan.resolve roller control table)
      (other.resolve roller control table)
  worse : other.defenses.Weaker plan.defenses →
    Resolution.RunsCompared (· ≤ ·) (plan.resolve roller control table)
      (other.resolve roller control table)
  alike : plan.defenses.Weaker other.defenses → other.defenses.Weaker plan.defenses →
    Resolution.RunsCompared (· = ·) (plan.resolve roller control table)
      (other.resolve roller control table)

/-- Plans that differ in their defenses and in the letter case of their types of damage.  Where this
changes the hints of a request, the roller must not go by hints. -/
theorem defendedBy_of_sameButDefenses (hsame : plan.SameButDefenses other)
    (hblind : plan.damage = other.damage ∨ roller.IgnoresTags)
    (hstatable : ∀ component ∈ plan.damage.getD [], component.amount.Statable) :
    DefendedBy roller control table plan other where
  rolling hdamage := hsame.table_resolve hdamage
  runs := compared_resolve hsame (fun _ _ _ => trivial) (fun _ _ _ _ => trivial) hblind hstatable
  better hweaker := by
    refine compared_resolve hsame ?_ ?_ hblind hstatable
    · exact fun _ _ hvalues => Points.sum_le_sum hvalues.flip
    · intro damageType again htype value hvalue hhigh
      exact Defenses.apply_le_apply hweaker htype hvalue hhigh
  worse hweaker := by
    refine compared_resolve hsame (fun _ _ => Points.sum_le_sum) ?_ hblind hstatable
    intro damageType again htype value hvalue hhigh
    exact Defenses.apply_le_apply hweaker (sameType_comm .. ▸ htype) hvalue hhigh
  alike hweaker hstronger := by
    refine compared_resolve hsame ?_ ?_ hblind hstatable
    · intro left right hvalues
      rw [List.forall₂_eq_eq_eq] at hvalues
      rw [hvalues]
    · intro damageType again htype value hvalue hhigh
      exact le_antisymm
        (Defenses.apply_le_apply hstronger (sameType_comm .. ▸ htype) hvalue hhigh)
        (Defenses.apply_le_apply hweaker htype hvalue hhigh)

/-- A target that is vulnerable to cold becomes immune to it as well, in capital letters, which also
change in the damage. -/
theorem defendedBy_immune :
    let attack : Option AttackRoll := some ⟨2, .normal, [], []⟩
    let plan : Plan := ⟨attack, some ⟨15, 0⟩,
      some [⟨.plus, .dice 2 6, "fire".toList⟩, ⟨.plus, .flat 9, "cold".toList⟩], some 60,
      ⟨["Fire".toList], ["cold".toList], []⟩⟩
    let other : Plan := ⟨attack, some ⟨15, 0⟩,
      some [⟨.plus, .dice 2 6, "FIRE".toList⟩, ⟨.plus, .flat 9, "Cold".toList⟩], some 60,
      ⟨["Fire".toList], ["cold".toList, "cold".toList], ["COLD".toList]⟩⟩
    let control : Control := ⟨.ofMillis 12000, 0⟩
    let table : Table ScriptedDice := ⟨.ofValues [18, 20, 7, 14] none, .absent, []⟩
    let before := plan.resolve ScriptedDice.roller control table
    let after := other.resolve ScriptedDice.roller control table
    before.1.map Resolution.totalDamage = .ok 46 ∧ after.1.map Resolution.totalDamage = .ok 10 ∧
      Resolution.RunsCompared (· ≥ ·) before after := by
  intro attack plan other control table before after
  have hbefore : before.1.map Resolution.totalDamage = .ok 46 := by
    decide +kernel
  have hafter : after.1.map Resolution.totalDamage = .ok 10 := by
    decide +kernel
  have hcase : List.Forall₂ Component.SameButCase
      [⟨.plus, .dice 2 6, "fire".toList⟩, ⟨.plus, .flat 9, "cold".toList⟩]
      [⟨.plus, .dice 2 6, "FIRE".toList⟩, ⟨.plus, .flat 9, "Cold".toList⟩] :=
    .cons ⟨rfl, rfl, by decide⟩ (.cons ⟨rfl, rfl, by decide⟩ .nil)
  have hstatable : ∀ component ∈ plan.damage.getD [], component.amount.Statable := by
    simp [plan, Amount.Statable, largestCount, Points.inRange, Points.lowest, Points.highest]
  have hweaker : plan.defenses.Weaker other.defenses :=
    .of_subset (by simp [plan]) (by simp [plan, other]) (by simp [plan, other])
  have hdefended : DefendedBy ScriptedDice.roller control table plan other :=
    defendedBy_of_sameButDefenses ⟨rfl, rfl, .some hcase, rfl⟩ (.inr ScriptedDice.ignoresTags)
      hstatable
  exact ⟨hbefore, hafter, hdefended.better hweaker⟩

end Plan

end Skirmish
