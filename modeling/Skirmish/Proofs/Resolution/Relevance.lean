import Mathlib.Data.List.Find
import Mathlib.Data.List.Forall2
import Mathlib.Logic.Relation
import Skirmish.Dice.Remote
import Skirmish.Proofs.Resolution.Requests

/-!
# What matters of a reply

A reply comes from whoever throws the dice, as a list in any order and with anything in it.  A phase
sees of it only what was reported last for each of the groups that it asked for: nothing at all, no
number that these dice can show, or such a number.  Two rollers that do not differ in this lead
through the same requests to the same result, although the second request depends on the first
reply.
-/

namespace Skirmish

variable {σ τ : Type}

namespace DiceGroup

/-- What a reply says of a group. -/
inductive Report where
  | missing
  | unusable
  | total (value : Int)
  deriving DecidableEq

/-- What a number says of a group, or that there is none. -/
def weigh (group : DiceGroup) : Option Int → Report
  | none => .unusable
  | some value =>
      if group.count ≤ value ∧ value ≤ group.count * group.sides then .total value else .unusable

/-- The report for a group is what its last result says. -/
def report (group : DiceGroup) (reply : List GroupTotal) : Report :=
  match reply.reverse.find? fun result => result.id = group.id with
  | none => .missing
  | some result => group.weigh result.total

theorem weigh_ne_missing (group : DiceGroup) (total : Option Int) :
    group.weigh total ≠ .missing := by
  cases total with
  | none => exact Report.noConfusion
  | some value =>
      rw [weigh]
      split
      · exact Report.noConfusion
      · exact Report.noConfusion

theorem report_eq_missing_iff (group : DiceGroup) (reply : List GroupTotal) :
    group.report reply = .missing ↔ ∀ result ∈ reply, result.id ≠ group.id := by
  have hnone : (reply.reverse.find? fun result => result.id = group.id) = none ↔
      ∀ result ∈ reply, result.id ≠ group.id := by
    simp
  rw [← hnone, report]
  cases reply.reverse.find? fun result => result.id = group.id with
  | none => simp
  | some result => simp [weigh_ne_missing]

/-- Whether a group is the first of those asked for that a reply does not mention. -/
def FirstMissing (groups : List DiceGroup) (reply : List GroupTotal) (group : DiceGroup) : Prop :=
  ∃ before after, groups = before ++ group :: after ∧
    (∀ result ∈ reply, result.id ≠ group.id) ∧
    ∀ earlier ∈ before, ∃ result ∈ reply, result.id = earlier.id

/-- A change of a reply that is to make no difference to the groups asked for. -/
inductive Idle (groups : List DiceGroup) : List GroupTotal → List GroupTotal → Prop
  | swap (before after : List GroupTotal) {first second : GroupTotal}
      (hapart : first.id ≠ second.id) :
      Idle groups (before ++ first :: second :: after) (before ++ second :: first :: after)
  | unasked (before after : List GroupTotal) {result : GroupTotal}
      (hunasked : ∀ group ∈ groups, group.id ≠ result.id) :
      Idle groups (before ++ result :: after) (before ++ after)
  | outdated (before after : List GroupTotal) {result later : GroupTotal} (hlater : later ∈ after)
      (hid : later.id = result.id) :
      Idle groups (before ++ result :: after) (before ++ after)

/-- A change that is to make no difference leaves the last result of every group asked for. -/
theorem report_of_idle {groups : List DiceGroup} {left right : List GroupTotal}
    (hidle : Idle groups left right) :
    ∀ group ∈ groups, group.report left = group.report right := by
  intro group hmem
  have hlast : (left.reverse.find? fun result => result.id = group.id) =
      right.reverse.find? fun result => result.id = group.id := by
    cases hidle with
    | @swap before after first second hapart =>
        -- At most one of the two is for the group.
        by_cases hfirst : first.id = group.id
        · have hsecond : second.id ≠ group.id := fun hsecond => hapart (hfirst.trans hsecond.symm)
          simp [List.find?_append, List.find?_cons, hsecond]
        · simp [List.find?_append, List.find?_cons, hfirst]
    | unasked before after hunasked =>
        simp [List.find?_append, (hunasked group hmem).symm]
    | @outdated before after result later hlater hid =>
        by_cases hresult : result.id = group.id
        · have hfound : (after.reverse.find? fun result => result.id = group.id).isSome = true := by
            rw [List.find?_isSome]
            exact ⟨later, List.mem_reverse.2 hlater, decide_eq_true (hid.trans hresult)⟩
          obtain ⟨last, hlast⟩ := Option.isSome_iff_exists.1 hfound
          simp [List.find?_append, hlast]
        · simp [List.find?_append, hresult]
  rw [report, report, hlast]

theorem report_of_eqvGen {groups : List DiceGroup} {left right : List GroupTotal}
    (hidle : Relation.EqvGen (Idle groups) left right) :
    ∀ group ∈ groups, group.report left = group.report right := by
  intro group hmem
  induction hidle with
  | rel left right hidle => exact report_of_idle hidle group hmem
  | refl reply => rfl
  | symm left right _ ih => exact ih.symm
  | trans left middle right _ _ ihleft ihright => exact ihleft.trans ihright

end DiceGroup

open DiceGroup

/-- Whether two responses come to the same for the groups that were asked for. -/
inductive Response.SameFor (groups : List DiceGroup) : Response → Response → Prop
  | results {left right : List GroupTotal}
      (hreports : ∀ group ∈ groups, group.report left = group.report right) :
      SameFor groups (.results left) (.results right)
  | equal (response : Response) : SameFor groups response response

/-- Whether a response differs from another one at most by changes that are to make no
difference. -/
inductive Response.Rearranged (groups : List DiceGroup) : Response → Response → Prop
  | results {left right : List GroupTotal} (hidle : Relation.EqvGen (Idle groups) left right) :
      Rearranged groups (.results left) (.results right)
  | equal (response : Response) : Rearranged groups response response

theorem Response.Rearranged.sameFor {groups : List DiceGroup} {left right : Response}
    (hchanged : Rearranged groups left right) : left.SameFor groups right := by
  cases hchanged with
  | results hidle => exact .results (report_of_eqvGen hidle)
  | equal => exact .equal _

/-- The requests with the responses that a roller gives to them one after the other. -/
def Roller.exchanges (roller : Roller σ) : List Request → σ → List (Request × Response)
  | [], _ => []
  | request :: requests, dice =>
      let answered := roller.ask dice request
      (request, answered.1) :: roller.exchanges requests answered.2

/-- Whether two rollers, asked the same, give responses that come to the same. -/
def Roller.AgreeOn (left : Roller σ) (right : Roller τ) (requests : List Request) (first : σ)
    (second : τ) : Prop :=
  List.Forall₂ (fun one other => one.2.SameFor one.1.groups other.2)
    (left.exchanges requests first) (right.exchanges requests second)

/-- Whether the response to a request is malformed: the roller says so, or the reply lacks a group,
the first of which is named. -/
def Request.Malformed (exchange : Request × Response) (cause : Malformation) : Prop :=
  exchange.2 = .failed (.malformed cause) ∨
    ∃ reply group, exchange.2 = .results reply ∧
      FirstMissing exchange.1.groups reply group ∧ cause = .missing group.id

theorem map_eq_error_iff {ε α β : Type} {result : Except ε α} {make : α → β} {cause : ε} :
    result.map make = .error cause ↔ result = .error cause := by
  cases result <;> simp [Except.map]

namespace Totals

theorem usable_eq_report (reply : List GroupTotal) (group : DiceGroup) :
    usable reply group = match group.report reply with
      | .total value => value
      | _ => 0 := by
  rw [usable_eq_shown, shown, report]
  cases reply.reverse.find? fun result => result.id = group.id with
  | none => rfl
  | some result =>
      simp only [Option.bind_some]
      cases result.total with
      | none => rfl
      | some value =>
          simp only [weigh]
          split <;> rfl

theorem isNone_reported?_iff (reply : List GroupTotal) (group : DiceGroup) :
    (reported? group.id reply).isNone = true ↔ group.report reply = .missing := by
  rw [report_eq_missing_iff, reported?_eq_find?]
  simp

/-- Only the reports for the groups asked for have a part in what is collected. -/
theorem collect_congr {groups : List DiceGroup} {left right : List GroupTotal}
    (hreports : ∀ group ∈ groups, group.report left = group.report right) :
    collect groups left = collect groups right := by
  have hmissing : (groups.find? fun group => (reported? group.id left).isNone) =
      groups.find? fun group => (reported? group.id right).isNone := by
    apply List.find?_congr
    intro group hmem
    rw [Bool.eq_iff_iff, isNone_reported?_iff, isNone_reported?_iff, hreports group hmem]
  rw [collect, collect, hmissing]
  split
  · rfl
  · refine congrArg Except.ok (funext fun id => ?_)
    cases hfound : groups.find? fun group => group.id == id with
    | none => rfl
    | some group =>
        have hsame := hreports group (List.mem_of_find?_eq_some hfound)
        simp only [usable_eq_report, hsame]

theorem firstMissing_iff_find? {groups : List DiceGroup} {reply : List GroupTotal}
    {group : DiceGroup} :
    FirstMissing groups reply group ↔
      groups.find? (fun group => (reported? group.id reply).isNone) = some group := by
  simp only [List.find?_eq_some_iff_append, Bool.not_eq_eq_eq_not, Bool.not_true,
    ← Bool.not_eq_true, isNone_reported?_iff, report_eq_missing_iff, FirstMissing]
  grind

theorem exists_firstMissing_iff {groups : List DiceGroup} {reply : List GroupTotal} :
    (∃ group, FirstMissing groups reply group) ↔
      ∃ group ∈ groups, ∀ result ∈ reply, result.id ≠ group.id := by
  simp only [firstMissing_iff_find?, ← Option.isSome_iff_exists, List.find?_isSome,
    isNone_reported?_iff, report_eq_missing_iff]

/-- A reply is malformed when it lacks a group, and the first such group is named. -/
theorem collect_eq_error_iff {groups : List DiceGroup} {reply : List GroupTotal}
    {cause : DiceError} :
    collect groups reply = .error cause ↔
      ∃ group, FirstMissing groups reply group ∧ cause = .malformed (.missing group.id) := by
  simp only [firstMissing_iff_find?, collect]
  cases groups.find? fun group => (reported? group.id reply).isNone with
  | none => simp
  | some group => simp [eq_comm]

end Totals

namespace Roller

theorem exchanges_append (roller : Roller σ) (first second : List Request) (dice : σ) :
    roller.exchanges (first ++ second) dice = roller.exchanges first dice ++
      roller.exchanges second
        (first.foldl (fun dice request => (roller.ask dice request).2) dice) := by
  induction first generalizing dice with
  | nil => rfl
  | cons request first ih => simp only [List.cons_append, exchanges, ih, List.foldl_cons]

/-- Two stretches of requests are agreed on one after the other. -/
theorem agreeOn_append_iff {left : Roller σ} {right : Roller τ} {earlier later : List Request}
    {first : σ} {second : τ} :
    left.AgreeOn right (earlier ++ later) first second ↔
      left.AgreeOn right earlier first second ∧
        left.AgreeOn right later
          (earlier.foldl (fun dice request => (left.ask dice request).2) first)
          (earlier.foldl (fun dice request => (right.ask dice request).2) second) := by
  simp only [AgreeOn]
  induction earlier generalizing first second with
  | nil => simp [exchanges]
  | cons request earlier ih =>
      simp only [List.cons_append, exchanges, List.forall₂_cons, List.foldl_cons, ih, and_assoc]

end Roller

namespace Table

/-- Whether two tables have made the same requests and wait on the same line, whatever their
dice. -/
structure Parallel (left : Table σ) (right : Table τ) : Prop where
  line : left.line = right.line
  requests : left.requests = right.requests

variable {left : Table σ} {right : Table τ} {one : Roller σ} {other : Roller τ}

/-- A phase goes by what the replies say of its groups. -/
theorem parallel_roll (hparallel : left.Parallel right) (wait : Wait) (phase : Phase)
    (seed : UInt64) (groups : List DiceGroup)
    (hagree : one.AgreeOn other (Request.forGroups phase seed groups) left.dice right.dice) :
    (left.roll one wait phase seed groups).1 = (right.roll other wait phase seed groups).1 ∧
      (left.roll one wait phase seed groups).2.Parallel
        (right.roll other wait phase seed groups).2 := by
  obtain ⟨hline, hrequests⟩ := hparallel
  simp only [Request.forGroups] at hagree
  simp only [roll]
  split
  · exact ⟨rfl, hline, hrequests⟩
  · next hsome =>
    rw [if_neg hsome] at hagree
    simp only [Roller.AgreeOn, Roller.exchanges, List.forall₂_cons] at hagree
    obtain ⟨hsame, -⟩ := hagree
    cases hleft : one.ask left.dice ⟨phase, seed, groups.filter fun group => 0 < group.count⟩ with
    | mk response dice =>
        cases hright : other.ask right.dice
            ⟨phase, seed, groups.filter fun group => 0 < group.count⟩ with
        | mk again after =>
            rw [hleft, hright] at hsame
            simp only [hleft, hright, hline, hrequests]
            cases hsame with
            | results hreports => exact ⟨Totals.collect_congr hreports, rfl, rfl⟩
            | equal response =>
                cases response with
                | results reply => exact ⟨rfl, rfl, rfl⟩
                | failed cause => exact ⟨rfl, rfl, rfl⟩
                | unanswered signals => exact ⟨rfl, rfl, rfl⟩

/-- A phase is malformed when the response to its request is. -/
theorem roll_eq_malformed_iff (table : Table σ) (roller : Roller σ) (wait : Wait) (phase : Phase)
    (seed : UInt64) (groups : List DiceGroup) (cause : Malformation) :
    (table.roll roller wait phase seed groups).1 = .error (.malformed cause) ↔
      ∃ exchange ∈ roller.exchanges (Request.forGroups phase seed groups) table.dice,
        Request.Malformed exchange cause := by
  simp only [roll, Request.forGroups]
  split
  · simp [Roller.exchanges]
  · simp only [Roller.exchanges, List.mem_singleton, exists_eq_left, Request.Malformed]
    cases hask : roller.ask table.dice
        ⟨phase, seed, groups.filter fun group => 0 < group.count⟩ with
    | mk response dice =>
        simp only [hask]
        cases response with
        | results reply => simp [Totals.collect_eq_error_iff]
        | failed problem => simp
        | unanswered signals =>
            simp only [reduceCtorEq, false_and, exists_false, or_false]
            split <;> simp

end Table

namespace Plan

variable {plan : Plan} {one : Roller σ} {other : Roller τ} {control : Control} {left : Table σ}
  {right : Table τ}

theorem parallel_rollAttacks (hparallel : left.Parallel right)
    (hagree : one.AgreeOn other (plan.attackRequests control.seed) left.dice right.dice) :
    (plan.rollAttacks one control left).1 = (plan.rollAttacks other control right).1 ∧
      (plan.rollAttacks one control left).2.Parallel (plan.rollAttacks other control right).2 := by
  rw [attackRequests] at hagree
  simp only [rollAttacks]
  cases hroll : plan.attack with
  | none => exact ⟨rfl, hparallel⟩
  | some roll =>
      rw [hroll] at hagree
      obtain ⟨hresult, htable⟩ :=
        Table.parallel_roll hparallel control.wait .attack control.seed roll.allGroups hagree
      exact ⟨by simp only [hresult], htable⟩

theorem parallel_rollDamage (hparallel : left.Parallel right)
    {attacks : Option (List AttackOutcome)}
    (hagree : one.AgreeOn other (plan.damageRequests control.seed attacks) left.dice right.dice) :
    (plan.rollDamage one control (strikes attacks) left).1 =
        (plan.rollDamage other control (strikes attacks) right).1 ∧
      (plan.rollDamage one control (strikes attacks) left).2.Parallel
        (plan.rollDamage other control (strikes attacks) right).2 := by
  rw [damageRequests] at hagree
  simp only [rollDamage]
  cases hdamage : plan.damage with
  | none => exact ⟨rfl, hparallel⟩
  | some components =>
      rw [hdamage] at hagree
      obtain ⟨hresult, htable⟩ := Table.parallel_roll hparallel control.wait .damage
        (control.seed + 1) (damageGroups components (strikes attacks)) hagree
      exact ⟨by simp only [hresult], htable⟩

/-- The requests of a run within the limit are those of the attack phase and, after it, those of the
damage phase, which find the dice as the attack phase has left them. -/
theorem agreeOn_phases (hlimit : plan.maxDice ≤ maxDicePerCommand) (hnone : left.requests = [])
    (hagree : one.AgreeOn other (plan.resolve one control left).2.requests left.dice right.dice) :
    let attacked := plan.rollAttacks one control { left with line := left.line.acknowledge }
    one.AgreeOn other (plan.attackRequests control.seed) left.dice right.dice ∧
      ∀ attacks, attacked.1 = .ok attacks →
        one.AgreeOn other (plan.damageRequests control.seed attacks) attacked.2.dice
          (plan.rollAttacks other control
            { right with line := right.line.acknowledge }).2.dice := by
  intro attacked
  have hone := plan.asked_rollAttacks one control { left with line := left.line.acknowledge }
  have hother := plan.asked_rollAttacks other control { right with line := right.line.acknowledge }
  rw [(plan.asked_resolve one control left).requests, hnone, List.nil_append, requests.eq_def,
    if_neg (Nat.not_lt.2 hlimit), Roller.agreeOn_append_iff] at hagree
  obtain ⟨hattack, hrest⟩ := hagree
  refine ⟨hattack, ?_⟩
  intro attacks hok
  rw [hone.dice, hother.dice]
  simpa only [attackEnding, attacked, hok] using hrest

theorem parallel_resolve (hparallel : left.Parallel right) (hnone : left.requests = [])
    (hagree : one.AgreeOn other (plan.resolve one control left).2.requests left.dice right.dice) :
    (plan.resolve one control left).1 = (plan.resolve other control right).1 ∧
      (plan.resolve one control left).2.Parallel (plan.resolve other control right).2 := by
  by_cases hlimit : maxDicePerCommand < plan.maxDice
  · rw [resolve, resolve, if_pos hlimit, if_pos hlimit]
    exact ⟨rfl, hparallel⟩
  · have hwithin := Nat.not_lt.1 hlimit
    obtain ⟨hattack, hdamage⟩ := agreeOn_phases hwithin hnone hagree
    obtain ⟨hline, hrequests⟩ := hparallel
    have hready : Table.Parallel { left with line := left.line.acknowledge }
        { right with line := right.line.acknowledge } :=
      ⟨congrArg CancelLine.acknowledge hline, hrequests⟩
    obtain ⟨hattacked, hmiddle⟩ := parallel_rollAttacks hready hattack
    simp only [resolve_within hwithin, ← hattacked]
    cases hending : (plan.rollAttacks one control
        { left with line := left.line.acknowledge }).1 with
    | error cause => exact ⟨rfl, hmiddle⟩
    | ok attacks =>
        obtain ⟨hdamaged, hlast⟩ := parallel_rollDamage hmiddle (hdamage attacks hending)
        exact ⟨by simp only [hdamaged], hlast⟩

theorem rollAttacks_eq_malformed_iff (plan : Plan) (roller : Roller σ) (control : Control)
    (table : Table σ) (cause : Malformation) :
    (plan.rollAttacks roller control table).1 = .error (.malformed cause) ↔
      ∃ exchange ∈ roller.exchanges (plan.attackRequests control.seed) table.dice,
        Request.Malformed exchange cause := by
  rw [rollAttacks, attackRequests]
  cases plan.attack with
  | none => simp [Roller.exchanges]
  | some roll =>
      rw [← Table.roll_eq_malformed_iff table roller control.wait]
      exact map_eq_error_iff

theorem rollDamage_eq_malformed_iff (plan : Plan) (roller : Roller σ) (control : Control)
    (attacks : Option (List AttackOutcome)) (table : Table σ) (cause : Malformation) :
    (plan.rollDamage roller control (strikes attacks) table).1 = .error (.malformed cause) ↔
      ∃ exchange ∈ roller.exchanges (plan.damageRequests control.seed attacks) table.dice,
        Request.Malformed exchange cause := by
  rw [rollDamage, damageRequests]
  cases plan.damage with
  | none => simp [Roller.exchanges]
  | some components =>
      rw [← Table.roll_eq_malformed_iff table roller control.wait]
      exact map_eq_error_iff

/-- A plan fails for malformed dice exactly when a response to one of its requests is malformed. -/
theorem resolve_eq_malformed_iff (plan : Plan) (roller : Roller σ) (control : Control)
    {table : Table σ} (hnone : table.requests = []) (cause : Malformation) :
    (plan.resolve roller control table).1 = .error (.dice (.malformed cause)) ↔
      ∃ exchange ∈ roller.exchanges (plan.resolve roller control table).2.requests table.dice,
        Request.Malformed exchange cause := by
  rw [(plan.asked_resolve roller control table).requests, hnone, List.nil_append,
    requests.eq_def]
  by_cases hlimit : maxDicePerCommand < plan.maxDice
  · simp [resolve, hlimit, Roller.exchanges]
  · rw [if_neg hlimit, Roller.exchanges_append,
      ← (plan.asked_rollAttacks roller control { table with line := table.line.acknowledge }).dice]
    have hattack := plan.rollAttacks_eq_malformed_iff roller control
      { table with line := table.line.acknowledge }
    simp only [List.mem_append, or_and_right, exists_or, ← hattack cause,
      resolve_within (Nat.not_lt.1 hlimit), attackEnding]
    cases (plan.rollAttacks roller control { table with line := table.line.acknowledge }).1 with
    | error problem => simp [Roller.exchanges]
    | ok attacks =>
        simp only [← rollDamage_eq_malformed_iff, reduceCtorEq, false_or]
        cases (plan.rollDamage roller control (strikes attacks) (plan.rollAttacks roller control
          { table with line := table.line.acknowledge }).2).1 <;> simp [Except.map, Except.mapError]

/-- The groups of a phase, also those without dice. -/
def phaseGroups (plan : Plan) (ending : Except DiceError (Option (List AttackOutcome))) :
    Phase → List DiceGroup
  | .attack =>
      match plan.attack with
      | none => []
      | some roll => roll.allGroups
  | .damage =>
      match plan.damage, ending with
      | some components, .ok attacks => damageGroups components (strikes attacks)
      | _, _ => []

/-- The place of a group without dice is not asked for. -/
theorem unasked_of_mem_requests {seed : UInt64}
    {ending : Except DiceError (Option (List AttackOutcome))} {request : Request}
    (hmem : request ∈ plan.requests seed ending) {group : DiceGroup}
    (hgroup : group ∈ plan.phaseGroups ending request.phase) (hcount : group.count = 0) :
    ∀ asked ∈ request.groups, asked.id ≠ group.id := by
  have happly : ∀ groups : List DiceGroup, (groups.map DiceGroup.id).Nodup → group ∈ groups →
      ∀ asked ∈ groups.filter fun group => 0 < group.count, asked.id ≠ group.id := by
    intro groups hdistinct hgroup asked hasked hid
    obtain ⟨hasked, hpos⟩ := List.mem_filter.1 hasked
    rw [Keyed.eq_of_key_eq hdistinct hgroup hasked hid, hcount] at hpos
    cases hpos
  obtain ⟨-, hattack | ⟨attacks, rfl, hdamage⟩⟩ := mem_requests.1 hmem
  · rw [attackRequests] at hattack
    cases hroll : plan.attack with
    | none => simp [hroll] at hattack
    | some roll =>
        rw [hroll] at hattack
        obtain ⟨-, rfl⟩ := Request.mem_forGroups.1 hattack
        simp only [phaseGroups, hroll] at hgroup
        exact happly _ roll.nodup_allGroups hgroup
  · rw [damageRequests] at hdamage
    cases hcomponents : plan.damage with
    | none => simp [hcomponents] at hdamage
    | some components =>
        rw [hcomponents] at hdamage
        obtain ⟨-, rfl⟩ := Request.mem_forGroups.1 hdamage
        simp only [phaseGroups, hcomponents] at hgroup
        exact happly _ (nodup_damageGroups components (plan.summarize attacks none)) hgroup

/-- Whether a plan goes by what the replies say of the groups asked for: it comes to the same with
two rollers, and what else is in a reply is of no concern. -/
structure GoesByReports (plan : Plan) (one : Roller σ) (other : Roller τ) (control : Control)
    (left : Table σ) (right : Table τ) : Prop where
  result : (plan.resolve one control left).1 = (plan.resolve other control right).1
  requests : (plan.resolve one control left).2.requests =
    (plan.resolve other control right).2.requests
  /-- Results of different groups may change places, and results that were not asked for or that are
  outdated may be put in and left out, without any effect. -/
  idle : ∀ {ρ : Type} (third : Roller ρ) (dice : ρ),
    List.Forall₂ (fun exchange changed => exchange.2.Rearranged exchange.1.groups changed.2)
      (one.exchanges (plan.resolve one control left).2.requests left.dice)
      (third.exchanges (plan.resolve one control left).2.requests dice) →
    (plan.resolve one control left).1 = (plan.resolve third control { left with dice }).1 ∧
      (plan.resolve one control left).2.requests =
        (plan.resolve third control { left with dice }).2.requests
  /-- The places of groups without dice are among those that are not asked for. -/
  unasked : ∀ request ∈ (plan.resolve one control left).2.requests,
    ∀ group ∈ plan.phaseGroups (plan.attackEnding one control left) request.phase,
      group.count = 0 → ∀ asked ∈ request.groups, asked.id ≠ group.id
  /-- The plan fails for malformed dice exactly when the response to one of its requests is. -/
  malformed : ∀ cause, (plan.resolve one control left).1 = .error (.dice (.malformed cause)) ↔
    ∃ exchange ∈ one.exchanges (plan.resolve one control left).2.requests left.dice,
      Request.Malformed exchange cause
  /-- A reply is malformed exactly when it has no result for one of the groups. -/
  lacking : ∀ request ∈ (plan.resolve one control left).2.requests, ∀ reply,
    (∃ cause, Request.Malformed (request, .results reply) cause) ↔
      ∃ group ∈ request.groups, ∀ result ∈ reply, result.id ≠ group.id
  message : ∀ id, (ResolveError.dice (.malformed (.missing id))).message =
    "dice error: malformed dice results: no result for group ".toList ++
      Decimal.ofNat id.attack ++ ':' :: Decimal.ofNat id.slot

/-- A plan makes the same requests and comes to the same with any two rollers whose replies to these
requests say the same of the groups asked for. -/
theorem resolve_of_agreeOn {plan : Plan} {one : Roller σ} {other : Roller τ} {control : Control}
    {line : CancelLine} {first : σ} {second : τ}
    (hagree : one.AgreeOn other (plan.resolve one control ⟨first, line, []⟩).2.requests first
      second) :
    plan.GoesByReports one other control ⟨first, line, []⟩ ⟨second, line, []⟩ := by
  have hparallel : Table.Parallel ⟨first, line, []⟩ ⟨second, line, []⟩ := ⟨rfl, rfl⟩
  obtain ⟨hresult, hlast⟩ := parallel_resolve hparallel rfl hagree
  constructor
  case result => exact hresult
  case requests => exact hlast.requests
  case idle =>
    intro ρ third dice hchanged
    have hthird : one.AgreeOn third (plan.resolve one control ⟨first, line, []⟩).2.requests first
        dice := hchanged.imp fun _ _ hresponse => hresponse.sameFor
    have hbeside : Table.Parallel ⟨first, line, []⟩ ⟨dice, line, []⟩ := ⟨rfl, rfl⟩
    obtain ⟨hsame, hunchanged⟩ := parallel_resolve hbeside rfl hthird
    exact ⟨hsame, hunchanged.requests⟩
  case unasked =>
    intro request hmem
    rw [(plan.asked_resolve one control ⟨first, line, []⟩).requests, List.nil_append] at hmem
    exact fun group hgroup hcount => unasked_of_mem_requests hmem hgroup hcount
  case malformed => exact plan.resolve_eq_malformed_iff one control rfl
  case lacking =>
    intro request _ reply
    rw [← Totals.exists_firstMissing_iff]
    simp [Request.Malformed]
  case message =>
    intro id
    have htext : "dice error: malformed dice results: no result for group ".toList =
        "dice error: ".toList ++ ("malformed dice results: ".toList ++
          "no result for group ".toList) := by
      decide +kernel
    rw [htext, List.append_assoc, List.append_assoc, List.append_assoc]
    rfl

end Plan

/-- A bonus without dice, a hit that is not certain before the first reply, and replies in another
order with results that were never asked for and a number that no die can show. -/
theorem Plan.resolve_of_agreeOn_shuffled :
    let plan : Plan := ⟨some ⟨1, .normal, [], [⟨.plus, .dice 0 6⟩]⟩, some ⟨15, 0⟩,
      some [⟨.plus, .dice 2 6, "fi".toList⟩, ⟨.plus, .dice 1 4, []⟩], none, ⟨[], [], []⟩⟩
    let control : Control := ⟨.ofMillis 12000, 7⟩
    let first := RemoteDice.listening [.results [⟨⟨0, 0⟩, some 18⟩],
      .results [⟨⟨0, 0⟩, some 9⟩, ⟨⟨0, 1⟩, none⟩]]
    let second := RemoteDice.listening [
      .results [⟨⟨0, 0⟩, none⟩, ⟨⟨0, 1⟩, some 3⟩, ⟨⟨0, 0⟩, some 18⟩],
      .results [⟨⟨0, 1⟩, some 5⟩, ⟨⟨3, 3⟩, some 4⟩, ⟨⟨0, 0⟩, some 9⟩]]
    plan.GoesByReports RemoteDice.roller RemoteDice.roller control ⟨first, .absent, []⟩
      ⟨second, .absent, []⟩ := by
  intro plan control first second
  have hrequests : (plan.resolve RemoteDice.roller control ⟨first, .absent, []⟩).2.requests =
      [⟨.attack, 7, [⟨⟨0, 0⟩, 1, 20, []⟩]⟩,
        ⟨.damage, 8, [⟨⟨0, 0⟩, 2, 6, "fi".toList⟩, ⟨⟨0, 1⟩, 1, 4, []⟩]⟩] := by
    decide +kernel
  apply resolve_of_agreeOn
  rw [hrequests]
  exact .cons (.results (by decide)) (.cons (.results (by decide)) .nil)

end Skirmish
