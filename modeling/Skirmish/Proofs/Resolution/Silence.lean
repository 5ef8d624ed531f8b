import Skirmish.Proofs.Resolution.Relevance

/-!
# What is not answered

A phase that stays unanswered is cancelled when a signal was raised while it waited and somebody
could hear it, and otherwise its time runs out.  Nothing else about a plan depends on signals: with
every signal left out it makes the same requests, finds the same dice and comes to the same result,
but for the time that runs out where it was cancelled.
-/

namespace Skirmish

variable {σ : Type}

namespace Response

/-- Whether the request stayed unanswered. -/
def isSilent : Response → Bool
  | unanswered _ => true
  | _ => false

/-- How often a signal was raised while the request waited. -/
def signals : Response → Nat
  | unanswered signals => signals
  | _ => 0

/-- The response when nobody raises a signal. -/
def withoutSignals : Response → Response
  | unanswered _ => unanswered 0
  | response => response

end Response

/-- The roller when nobody raises a signal while it is asked. -/
def Roller.withoutSignals (roller : Roller σ) : Roller σ where
  ask dice request :=
    let answered := roller.ask dice request
    (answered.1.withoutSignals, answered.2)
  physical := roller.physical

namespace CancelLine

/-- Whether a wait on the line is given up for signals that are raised during it. -/
def hears (line : CancelLine) (times : Nat) : Bool :=
  (line.raise times).isPending

/-- On a line whose past is marked as seen, every signal is heard as long as there is a line. -/
theorem hears_acknowledge (line : CancelLine) (times : Nat) :
    line.acknowledge.hears times =
      match line with
      | .connected _ => decide (0 < times)
      | _ => false := by
  cases line <;> simp [hears, acknowledge, raise, isPending, Signal.acknowledge, Signal.raise,
    Signal.isPending]

theorem hears_acknowledge_zero (line : CancelLine) : line.acknowledge.hears 0 = false := by
  rw [hears_acknowledge]
  cases line <;> rfl

end CancelLine

/-- Whether a stretch of rolling, with its exchanges on a line, comes to the same as another one,
but for being cancelled where the other one runs out of time.  Failures of the dice appear in the
results under a name. -/
structure SameUnlessCancelled {ε α : Type} (fail : DiceError → ε) (wait : Wait) (line : CancelLine)
    (exchanges : List (Request × Response)) (left right : Except ε α × Table σ) : Prop where
  result : left.1 =
    if exchanges.any fun exchange => line.hears exchange.2.signals then .error (fail .cancelled)
    else right.1
  timeout : exchanges.any (fun exchange => exchange.2.isSilent) = true →
    right.1 = .error (fail (.timeout wait))
  dice : left.2.dice = right.2.dice
  requests : left.2.requests = right.2.requests

namespace SameUnlessCancelled

variable {ε α β : Type} {fail : DiceError → ε} {wait : Wait} {line : CancelLine}
  {exchanges : List (Request × Response)} {left right : Except ε α × Table σ}

/-- What is heard was raised while nobody answered. -/
theorem timeout_of_heard (hsame : SameUnlessCancelled fail wait line exchanges left right)
    (hline : line.hears 0 = false)
    (hheard : exchanges.any (fun exchange => line.hears exchange.2.signals) = true) :
    right.1 = .error (fail (.timeout wait)) := by
  apply hsame.timeout
  obtain ⟨exchange, hmem, hhears⟩ := List.any_eq_true.1 hheard
  refine List.any_eq_true.2 ⟨exchange, hmem, ?_⟩
  cases hresponse : exchange.2 with
  | unanswered signals => rfl
  | results reply =>
      rw [hresponse] at hhears
      cases hline.symm.trans hhears
  | failed cause =>
      rw [hresponse] at hhears
      cases hline.symm.trans hhears

theorem map (hsame : SameUnlessCancelled fail wait line exchanges left right) (make : α → β) :
    SameUnlessCancelled fail wait line exchanges (left.1.map make, left.2)
      (right.1.map make, right.2) where
  result := by
    rw [hsame.result]
    split <;> rfl
  timeout := by
    intro hsilent
    rw [hsame.timeout hsilent]
    rfl
  dice := hsame.dice
  requests := hsame.requests

theorem mapError (hsame : SameUnlessCancelled fail wait line exchanges left right) (name : ε → β) :
    SameUnlessCancelled (name ∘ fail) wait line exchanges (left.1.mapError name, left.2)
      (right.1.mapError name, right.2) where
  result := by
    rw [hsame.result]
    split <;> rfl
  timeout := by
    intro hsilent
    rw [hsame.timeout hsilent]
    rfl
  dice := hsame.dice
  requests := hsame.requests

/-- A stretch that succeeds was answered throughout, and succeeds without signals as well. -/
theorem answered_of_ok (hsame : SameUnlessCancelled fail wait line exchanges left right) {value : α}
    (hok : left.1 = .ok value) :
    exchanges.any (fun exchange => line.hears exchange.2.signals) = false ∧
      exchanges.any (fun exchange => exchange.2.isSilent) = false ∧ right.1 = .ok value := by
  have hresult := hsame.result
  rw [hok] at hresult
  split at hresult
  · cases hresult
  · next hheard =>
    refine ⟨Bool.eq_false_of_not_eq_true hheard, Bool.eq_false_of_not_eq_true ?_, hresult.symm⟩
    intro hsilent
    cases hresult.trans (hsame.timeout hsilent)

theorem exists_error_of_error (hsame : SameUnlessCancelled fail wait line exchanges left right)
    (hline : line.hears 0 = false) {cause : ε} (hfailed : left.1 = .error cause) :
    ∃ problem, right.1 = .error problem := by
  have hresult := hsame.result
  rw [hfailed] at hresult
  split at hresult
  · next hheard => exact ⟨_, hsame.timeout_of_heard hline hheard⟩
  · exact ⟨cause, hresult.symm⟩

/-- What was answered before makes no difference. -/
theorem append {earlier : List (Request × Response)}
    (hheard : earlier.any (fun exchange => line.hears exchange.2.signals) = false)
    (hsilent : earlier.any (fun exchange => exchange.2.isSilent) = false)
    (hsame : SameUnlessCancelled fail wait line exchanges left right) :
    SameUnlessCancelled fail wait line (earlier ++ exchanges) left right where
  result := by
    rw [List.any_append, hheard, Bool.false_or]
    exact hsame.result
  timeout := by
    rw [List.any_append, hsilent, Bool.false_or]
    exact hsame.timeout
  dice := hsame.dice
  requests := hsame.requests

end SameUnlessCancelled

namespace Table

/-- A phase that gives totals has been answered, so nothing was raised on its line. -/
theorem line_of_roll {table : Table σ} {roller : Roller σ} {wait : Wait} {phase : Phase}
    {seed : UInt64} {groups : List DiceGroup} {totals : Totals}
    (hok : (table.roll roller wait phase seed groups).1 = .ok totals) :
    (table.roll roller wait phase seed groups).2.line = table.line := by
  simp only [roll] at hok ⊢
  split
  · rfl
  · next hsome =>
    rw [if_neg hsome] at hok
    split
    · rfl
    · rfl
    · next hask =>
      simp only [hask] at hok
      cases hok

/-- A phase in which nobody raises a signal, beside one in which they are heard. -/
theorem sameUnlessCancelled_roll {left right : Table σ} (hdice : left.dice = right.dice)
    (hrequests : left.requests = right.requests) (hleft : left.line.hears 0 = false)
    (hright : right.line.hears 0 = false) (roller : Roller σ) (wait : Wait) (phase : Phase)
    (seed : UInt64) (groups : List DiceGroup) :
    SameUnlessCancelled id wait left.line
      (roller.exchanges (Request.forGroups phase seed groups) left.dice)
      (left.roll roller wait phase seed groups)
      (right.roll roller.withoutSignals wait phase seed groups) := by
  simp only [roll, Request.forGroups, Roller.withoutSignals, ← hdice, ← hrequests]
  split
  · exact ⟨by simp [Roller.exchanges], by simp [Roller.exchanges], hdice, hrequests⟩
  · cases hask : roller.ask left.dice
        ⟨phase, seed, groups.filter fun group => 0 < group.count⟩ with
    | mk response dice =>
        simp only [Roller.exchanges, hask]
        cases response with
        | results reply =>
            exact ⟨by simp [Response.signals, Response.withoutSignals, hleft],
              by simp [Response.isSilent], rfl, rfl⟩
        | failed cause =>
            exact ⟨by simp [Response.signals, Response.withoutSignals, hleft],
              by simp [Response.isSilent], rfl, rfl⟩
        | unanswered signals =>
            -- The other line hears nothing, since nothing is raised on it.
            rw [CancelLine.hears] at hright
            refine ⟨?_, ?_, rfl, rfl⟩
            · simp only [Response.signals, Response.withoutSignals, CancelLine.hears, hright, id_eq,
                List.any_cons, List.any_nil, Bool.or_false, Bool.false_eq_true, if_false]
              split <;> rfl
            · intro _
              simp only [Response.withoutSignals, hright, id_eq, Bool.false_eq_true, if_false]

end Table

namespace Plan

theorem line_of_rollAttacks {plan : Plan} {roller : Roller σ} {control : Control} {table : Table σ}
    {attacks : Option (List AttackOutcome)}
    (hok : (plan.rollAttacks roller control table).1 = .ok attacks) :
    (plan.rollAttacks roller control table).2.line = table.line := by
  simp only [rollAttacks] at hok ⊢
  split
  · rfl
  · next roll hroll =>
    simp only [hroll] at hok
    cases htotals : (table.roll roller control.wait .attack control.seed roll.allGroups).1 with
    | error cause =>
        rw [htotals] at hok
        cases hok
    | ok totals => exact Table.line_of_roll htotals

theorem sameUnlessCancelled_rollAttacks (plan : Plan) (roller : Roller σ) (control : Control)
    (left right : Table σ) (hdice : left.dice = right.dice)
    (hrequests : left.requests = right.requests) (hleft : left.line.hears 0 = false)
    (hright : right.line.hears 0 = false) :
    SameUnlessCancelled id control.wait left.line
      (roller.exchanges (plan.attackRequests control.seed) left.dice)
      (plan.rollAttacks roller control left)
      (plan.rollAttacks roller.withoutSignals control right) := by
  simp only [rollAttacks, attackRequests]
  cases plan.attack with
  | none => exact ⟨by simp [Roller.exchanges], by simp [Roller.exchanges], hdice, hrequests⟩
  | some roll =>
      exact (Table.sameUnlessCancelled_roll hdice hrequests hleft hright roller control.wait .attack
        control.seed roll.allGroups).map _

theorem sameUnlessCancelled_rollDamage (plan : Plan) (roller : Roller σ) (control : Control)
    (attacks : Option (List AttackOutcome)) {left right : Table σ}
    (hdice : left.dice = right.dice) (hrequests : left.requests = right.requests)
    (hleft : left.line.hears 0 = false) (hright : right.line.hears 0 = false) :
    SameUnlessCancelled id control.wait left.line
      (roller.exchanges (plan.damageRequests control.seed attacks) left.dice)
      (plan.rollDamage roller control (strikes attacks) left)
      (plan.rollDamage roller.withoutSignals control (strikes attacks) right) := by
  simp only [rollDamage, damageRequests]
  cases plan.damage with
  | none => exact ⟨by simp [Roller.exchanges], by simp [Roller.exchanges], hdice, hrequests⟩
  | some components =>
      exact (Table.sameUnlessCancelled_roll hdice hrequests hleft hright roller control.wait .damage
        (control.seed + 1) (damageGroups components (strikes attacks))).map _

/-- What a plan comes to on a line, beside what it comes to on any line when nobody raises a
signal. -/
theorem sameUnlessCancelled_resolve (plan : Plan) (roller : Roller σ) (control : Control) (dice : σ)
    (line other : CancelLine) :
    let here := plan.resolve roller control ⟨dice, line, []⟩
    SameUnlessCancelled .dice control.wait line.acknowledge
      (roller.exchanges here.2.requests dice) here
      (plan.resolve roller.withoutSignals control ⟨dice, other, []⟩) := by
  intro here
  have hmade : here.2.requests = [] ++ plan.requests control.seed
      (plan.attackEnding roller control ⟨dice, line, []⟩) :=
    (plan.asked_resolve roller control ⟨dice, line, []⟩).requests
  rw [hmade, List.nil_append, requests.eq_def]
  by_cases hlimit : maxDicePerCommand < plan.maxDice
  · simp only [here, resolve, if_pos hlimit]
    exact ⟨by simp [Roller.exchanges], by simp [Roller.exchanges], rfl, rfl⟩
  · have hwithin := Nat.not_lt.1 hlimit
    have hasked := plan.asked_rollAttacks roller control ⟨dice, line.acknowledge, []⟩
    have hattacked := plan.sameUnlessCancelled_rollAttacks roller control
      ⟨dice, line.acknowledge, []⟩ ⟨dice, other.acknowledge, []⟩ rfl rfl
      line.hears_acknowledge_zero other.hears_acknowledge_zero
    simp only [here, resolve_within hwithin, attackEnding, if_neg hlimit, Roller.exchanges_append,
      ← hasked.dice]
    cases hending : (plan.rollAttacks roller control ⟨dice, line.acknowledge, []⟩).1 with
    | error cause =>
        -- The attack phase fails without signals as well, and nothing is asked after it.
        obtain ⟨problem, hother⟩ :=
          hattacked.exists_error_of_error line.hears_acknowledge_zero hending
        have hfailed := (hattacked.map fun attacks => plan.summarize attacks none).mapError
          ResolveError.dice
        rw [hending, hother] at hfailed
        simp only [hother, Roller.exchanges, List.append_nil]
        exact hfailed
    | ok attacks =>
        obtain ⟨hheard, hsilent, hother⟩ := hattacked.answered_of_ok hending
        have hfirst := line_of_rollAttacks hending
        have hsecond := line_of_rollAttacks hother
        have hdamaged := plan.sameUnlessCancelled_rollDamage roller control attacks
          hattacked.dice hattacked.requests (hfirst ▸ line.hears_acknowledge_zero)
          (hsecond ▸ other.hears_acknowledge_zero)
        rw [hfirst] at hdamaged
        simp only [hother]
        exact .append hheard hsilent
          ((hdamaged.map (plan.summarize attacks)).mapError ResolveError.dice)

/-- Whether a plan on a line whose other end is gone comes to the same as without any line, and a
phase that stays unanswered then ends when its time is over. -/
structure WaitsAlone (plan : Plan) (roller : Roller σ) (control : Control) (before : σ) : Prop where
  result : (plan.resolve roller control ⟨before, .orphaned, []⟩).1 =
    (plan.resolve roller control ⟨before, .absent, []⟩).1
  requests : (plan.resolve roller control ⟨before, .orphaned, []⟩).2.requests =
    (plan.resolve roller control ⟨before, .absent, []⟩).2.requests
  dice : (plan.resolve roller control ⟨before, .orphaned, []⟩).2.dice =
    (plan.resolve roller control ⟨before, .absent, []⟩).2.dice
  timeout : ∀ exchange ∈
      roller.exchanges (plan.resolve roller control ⟨before, .orphaned, []⟩).2.requests before,
    exchange.2.isSilent = true →
      (plan.resolve roller control ⟨before, .orphaned, []⟩).1 =
        .error (.dice (.timeout control.wait))

theorem waitsAlone (plan : Plan) (roller : Roller σ) (control : Control) (dice : σ) :
    plan.WaitsAlone roller control dice := by
  -- Neither line hears anything, so both come to what there is without signals.
  have horphaned := plan.sameUnlessCancelled_resolve roller control dice .orphaned .absent
  have habsent := plan.sameUnlessCancelled_resolve roller control dice .absent .absent
  have hdeaf : ∀ line : CancelLine, line = .orphaned ∨ line = .absent →
      ∀ exchanges : List (Request × Response),
        exchanges.any (fun exchange => line.acknowledge.hears exchange.2.signals) = false := by
    rintro line (rfl | rfl) exchanges
    · simp [CancelLine.hears_acknowledge]
    · simp [CancelLine.hears_acknowledge]
  have hfirst := horphaned.result
  have hsecond := habsent.result
  rw [hdeaf _ (.inl rfl), if_neg Bool.false_ne_true] at hfirst
  rw [hdeaf _ (.inr rfl), if_neg Bool.false_ne_true] at hsecond
  constructor
  case result => rw [hfirst, hsecond]
  case requests => rw [horphaned.requests, habsent.requests]
  case dice => rw [horphaned.dice, habsent.dice]
  case timeout =>
    intro exchange hmem hsilent
    rw [hfirst]
    exact horphaned.timeout (List.any_eq_true.2 ⟨exchange, hmem, hsilent⟩)

end Plan

end Skirmish
