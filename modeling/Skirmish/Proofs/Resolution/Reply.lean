import Skirmish.Proofs.Keyed
import Skirmish.Resolution.Basic

/-!
# What a phase reads

The totals of a phase come from one reply of the roller, through a table whose keys are the places
of the groups.  As long as the groups of the phase have distinct places, each of them reads its own
usable total from the reply, and a group without dice reads zero.
-/

namespace Skirmish

variable {σ : Type}

/-- Whether the roller, asked in one state for the dice of the groups, gives the reply and is in the
other state afterwards.  Without any dice it is not asked, and there is nothing in the reply. -/
inductive Roller.Replies (roller : Roller σ) (phase : Phase) (seed : UInt64)
    (groups : List DiceGroup) : σ → List GroupTotal → σ → Prop
  | silent {dice : σ} (hnone : ∀ group ∈ groups, group.count = 0) :
      Replies roller phase seed groups dice [] dice
  | asked {before after : σ} {reply : List GroupTotal} (hsome : ∃ group ∈ groups, 0 < group.count)
      (hask : roller.ask before ⟨phase, seed, groups.filter fun group => 0 < group.count⟩ =
        (.results reply, after)) :
      Replies roller phase seed groups before reply after

/-- What a reply shows for a group: the last result for its place, if that is a number from the
count of its dice to the highest total of them, and otherwise nothing. -/
def DiceGroup.shown (group : DiceGroup) (reply : List GroupTotal) : Int :=
  match (reply.reverse.find? fun result => result.id = group.id).bind GroupTotal.total with
  | some total => if group.count ≤ total ∧ total ≤ group.count * group.sides then total else 0
  | none => 0

theorem DiceGroup.shown_eq_zero {group : DiceGroup} (hcount : group.count = 0)
    (reply : List GroupTotal) : group.shown reply = 0 := by
  rw [shown]
  split
  · next total _ =>
    split
    · next hrange =>
      rw [hcount] at hrange
      omega
    · rfl
  · rfl

/-- Whether the totals are what the reply shows for the groups. -/
def Totals.Reads (totals : Totals) (reply : List GroupTotal) (groups : List DiceGroup) : Prop :=
  ∀ group ∈ groups, totals group.id = group.shown reply

namespace Totals

theorem reported?_eq_find? (id : GroupId) (reply : List GroupTotal) :
    reported? id reply =
      (reply.reverse.find? fun result => result.id = id).map GroupTotal.total := by
  induction reply with
  | nil => rfl
  | cons result reply ih =>
      rw [reported?, ih, List.reverse_cons, List.find?_append]
      cases hlater : reply.reverse.find? fun result => result.id = id with
      | some later => rfl
      | none => by_cases hid : result.id = id <;> simp [hid]

theorem usable_eq_shown (group : DiceGroup) (reply : List GroupTotal) :
    usable reply group = group.shown reply := by
  rw [usable, reported?_eq_find?, DiceGroup.shown]
  cases reply.reverse.find? fun result => result.id = group.id with
  | none => rfl
  | some result =>
      cases htotal : result.total <;> simp [htotal, DiceGroup.accepts]

theorem reads_zero {groups : List DiceGroup} (hnone : ∀ group ∈ groups, group.count = 0) :
    zero.Reads [] groups := by
  intro group hmem
  rw [DiceGroup.shown_eq_zero (hnone group hmem), zero]

/-- What was collected for the groups with dice is right for all groups. -/
theorem reads_collect {groups : List DiceGroup} {reply : List GroupTotal} {totals : Totals}
    (hdistinct : (groups.map DiceGroup.id).Nodup)
    (hok : collect (groups.filter fun group => 0 < group.count) reply = .ok totals) :
    totals.Reads reply groups := by
  rw [collect] at hok
  split at hok
  · cases hok
  · cases hok
    -- A group without dice was not asked for.  Whatever is found for a place is the group itself.
    intro group hmem
    cases hfound : (groups.filter fun group => 0 < group.count).find? fun other =>
        other.id == group.id with
    | none =>
        have hcount : group.count = 0 := by
          have hself := List.find?_eq_none.1 hfound group
          rw [List.mem_filter] at hself
          simpa [hmem] using hself
        rw [DiceGroup.shown_eq_zero hcount]
        simp only [hfound]
    | some other =>
        have hother := (List.mem_filter.1 (List.mem_of_find?_eq_some hfound)).1
        have hid : other.id = group.id := by simpa using List.find?_some hfound
        simp only [hfound, Keyed.eq_of_key_eq hdistinct hmem hother hid, usable_eq_shown]

end Totals

/-- Groups have distinct places when each part's groups do and no two parts are of one attack. -/
theorem DiceGroup.nodup_ids_flatMap {α : Type} {parts : List α} {attack : α → Nat}
    {groups : α → List DiceGroup} (hparts : (parts.map attack).Nodup)
    (hgroups : ∀ part ∈ parts, ((groups part).map DiceGroup.id).Nodup)
    (hattack : ∀ part ∈ parts, ∀ group ∈ groups part, group.id.attack = attack part) :
    ((parts.flatMap groups).map DiceGroup.id).Nodup := by
  rw [List.map_flatMap, List.Nodup, List.pairwise_flatMap]
  refine ⟨hgroups, ?_⟩
  have hapart : parts.Pairwise fun left right => attack left ≠ attack right :=
    List.pairwise_map.1 hparts
  apply hapart.imp_of_mem
  intro left right hleft hright hne id hid other hother heq
  obtain ⟨group, hgroup, rfl⟩ := List.mem_map.1 hid
  obtain ⟨second, hsecond, rfl⟩ := List.mem_map.1 hother
  apply hne
  rw [← hattack left hleft group hgroup, ← hattack right hright second hsecond, heq]

namespace Table

/-- A phase that gives totals has had a reply, and its groups read their totals from it. -/
theorem exists_reply_of_roll {table after : Table σ} {roller : Roller σ} {wait : Wait}
    {phase : Phase} {seed : UInt64} {groups : List DiceGroup} {totals : Totals}
    (hdistinct : (groups.map DiceGroup.id).Nodup)
    (hok : table.roll roller wait phase seed groups = (.ok totals, after)) :
    ∃ reply, roller.Replies phase seed groups table.dice reply after.dice ∧
      totals.Reads reply groups := by
  simp only [roll] at hok
  split at hok
  · next hempty =>
    cases hok
    have hnone : ∀ group ∈ groups, group.count = 0 := by
      simpa using hempty
    exact ⟨[], .silent hnone, Totals.reads_zero hnone⟩
  · next hsome =>
    have hany : ∃ group ∈ groups, 0 < group.count := by
      simpa [Nat.pos_iff_ne_zero] using hsome
    cases hask : roller.ask table.dice
        ⟨phase, seed, groups.filter fun group => 0 < group.count⟩ with
    | mk response dice =>
        simp only [hask] at hok
        cases response with
        | results reply =>
            cases hcollect : Totals.collect (groups.filter fun group => 0 < group.count) reply with
            | error cause => simp [hcollect] at hok
            | ok collected =>
                simp only [hcollect] at hok
                cases hok
                exact ⟨reply, .asked hany hask, Totals.reads_collect hdistinct hcollect⟩
        | failed cause => cases hok
        | unanswered signals => cases hok

/-- What is made of the totals of a phase is made of totals that the phase gave. -/
theorem exists_totals_of_map {α : Type} {rolled : Except DiceError Totals × Table σ}
    {make : Totals → α} {value : α} {after : Table σ}
    (hok : (rolled.1.map make, rolled.2) = (.ok value, after)) :
    ∃ totals, rolled = (.ok totals, after) ∧ value = make totals := by
  obtain ⟨result, table⟩ := rolled
  obtain ⟨hvalue, rfl⟩ := Prod.mk.inj hok
  cases result with
  | error cause => cases hvalue
  | ok totals => exact ⟨totals, rfl, (Except.ok.inj hvalue).symm⟩

end Table

/-- Within the limit of dice, a plan is resolved by its attack phase and, if that succeeds, its
damage phase. -/
theorem Plan.resolve_within {plan : Plan} (hlimit : plan.maxDice ≤ maxDicePerCommand)
    (roller : Roller σ) (control : Control) (table : Table σ) :
    plan.resolve roller control table =
      let attacked := plan.rollAttacks roller control { table with line := table.line.acknowledge }
      match attacked.1 with
      | .error cause => (.error (.dice cause), attacked.2)
      | .ok attacks =>
          let damaged := plan.rollDamage roller control (strikes attacks) attacked.2
          ((damaged.1.map (plan.summarize attacks)).mapError .dice, damaged.2) := by
  rw [resolve, if_neg (Nat.not_lt.2 hlimit)]
  cases plan.rollAttacks roller control { table with line := table.line.acknowledge } with
  | mk ending middle =>
      cases ending with
      | error cause => rfl
      | ok attacks =>
          cases hdamaged : plan.rollDamage roller control (strikes attacks) middle with
          | mk result last =>
              simp only [hdamaged]
              cases result <;> rfl

/-- A plan that is resolved keeps to the limit of dice and goes through both of its phases. -/
theorem Plan.exists_phases_of_resolve {plan : Plan} {roller : Roller σ} {control : Control}
    {table after : Table σ} {resolution : Resolution}
    (hok : plan.resolve roller control table = (.ok resolution, after)) :
    plan.maxDice ≤ maxDicePerCommand ∧ ∃ middle,
      plan.rollAttacks roller control { table with line := table.line.acknowledge } =
        (.ok resolution.attacks, middle) ∧
      plan.rollDamage roller control (strikes resolution.attacks) middle =
        (.ok resolution.damage, after) ∧
      resolution = plan.summarize resolution.attacks resolution.damage := by
  rw [resolve] at hok
  split at hok
  · cases hok
  · next hlimit =>
    refine ⟨Nat.not_lt.1 hlimit, ?_⟩
    split at hok
    · cases hok
    · next attacks middle hattacks =>
      split at hok
      · cases hok
      · next damage last hdamage =>
        cases hok
        exact ⟨middle, hattacks, hdamage, rfl⟩

end Skirmish
