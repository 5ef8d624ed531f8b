import Mathlib.Order.Basic
import Skirmish.Proofs.Resolution.EasierTarget

/-!
# Better modes

Of the same dice, disadvantage keeps no more than the first one and advantage no less, and a
critical in a mode is one in every better mode.  So an attack in a better mode comes to at least the
same total and stays a hit, also with a larger bonus and against an easier target.
-/

namespace Skirmish

namespace RollMode

/-- The place of a mode among the modes, from the worst to the best. -/
def rank : RollMode → Nat
  | disadvantage => 0
  | normal => 1
  | advantage => 2

/-- A mode is at most another one when it is the same or a worse one. -/
instance : Preorder RollMode :=
  Preorder.lift rank

theorem disadvantage_le_normal : disadvantage ≤ normal :=
  Nat.zero_le 1

theorem normal_le_advantage : normal ≤ advantage :=
  Nat.le_succ 1

/-- What relates each mode to the next one relates every mode to every better one. -/
theorem rel_of_le (rel : RollMode → RollMode → Prop) (hrefl : ∀ mode, rel mode mode)
    (htrans : ∀ first second third, rel first second → rel second third → rel first third)
    (hlower : rel disadvantage normal) (hupper : rel normal advantage) {worse better : RollMode}
    (hmode : worse ≤ better) : rel worse better := by
  cases worse with
  | disadvantage =>
      cases better with
      | disadvantage => exact hrefl disadvantage
      | normal => exact hlower
      | advantage => exact htrans _ _ _ hlower hupper
  | normal =>
      cases better with
      | disadvantage => exact absurd hmode (Nat.not_succ_le_zero 0)
      | normal => exact hrefl normal
      | advantage => exact hupper
  | advantage =>
      cases better with
      | disadvantage => exact absurd hmode (Nat.not_succ_le_zero 1)
      | normal => exact absurd hmode (Nat.not_succ_le_self 1)
      | advantage => exact hrefl advantage

section Better

variable {worse better : RollMode}

/-- The first die lies between the lowest and the highest one.  Without dice all of them are 0. -/
theorem kept_le_kept (hmode : worse ≤ better) (d20s : List Int) :
    worse.kept d20s ≤ better.kept d20s := by
  cases d20s with
  | nil => cases worse <;> cases better <;> exact Int.le_refl 0
  | cons first rest =>
      have hdice : first :: rest ≠ [] := List.cons_ne_nil first rest
      have hlowest : disadvantage.kept (first :: rest) = (first :: rest).min hdice := by
        rw [kept, List.min?_eq_some_min hdice, Option.getD_some]
      have hhighest : advantage.kept (first :: rest) = (first :: rest).max hdice := by
        rw [kept, List.max?_eq_some_max hdice, Option.getD_some]
      refine rel_of_le (fun worse better => worse.kept (first :: rest) ≤
        better.kept (first :: rest)) (fun _ => Int.le_refl _) (fun _ _ _ => Int.le_trans)
        ?_ ?_ hmode
      · rw [hlowest]
        exact List.min_le_of_mem List.mem_cons_self
      · rw [hhighest]
        exact List.le_max_of_mem List.mem_cons_self

/-- When all dice are critical the first one is, and when the first one is some die is. -/
theorem isCritical_of_le (hmode : worse ≤ better) (d20s : List Int) :
    worse.isCritical d20s = true → better.isCritical d20s = true := by
  cases d20s with
  | nil => cases worse <;> cases better <;> exact id
  | cons first rest =>
      refine rel_of_le (fun worse better => worse.isCritical (first :: rest) = true →
        better.isCritical (first :: rest) = true) (fun _ => id)
        (fun _ _ _ hlower hupper => hupper ∘ hlower) ?_ ?_ hmode
      · intro hall
        have hfirst : first = criticalFace := by
          simp only [isCritical, List.all_cons, Bool.and_eq_true, beq_iff_eq] at hall
          exact hall.2.1
        simp [isCritical, hfirst]
      · intro hfirst
        have hface : first = criticalFace := by
          simpa [isCritical] using hfirst
        simp [isCritical, hface]

end Better

end RollMode

namespace AttackOutcome

/-- Whether an outcome is at most as good as another one. -/
structure AtMost (worse better : AttackOutcome) : Prop where
  total : worse.total ≤ better.total
  isCritical : worse.isCritical = true → better.isCritical = true
  isHit : worse.isHit = true → better.isHit = true

theorem isHit_of_isCritical {mode : RollMode} {d20s : List Int} {bonus : Int}
    {armorClass : Option Int}
    (hcritical : (evaluate mode d20s bonus armorClass).isCritical = true) :
    (evaluate mode d20s bonus armorClass).isHit = true :=
  (AttackRoll.isHit_evaluate ..).2 (.inr (.inl hcritical))

theorem atMost_evaluate {worse better : RollMode} (hmode : worse ≤ better) (d20s : List Int)
    {bonus larger : Int} (hbonus : bonus ≤ larger) (armorClass : Option Int) :
    (evaluate worse d20s bonus armorClass).AtMost (evaluate better d20s larger armorClass) := by
  have htotal : Points.add (worse.kept d20s) bonus ≤ Points.add (better.kept d20s) larger :=
    Points.clamp_mono (Int.add_le_add (RollMode.kept_le_kept hmode d20s) hbonus)
  have hcritical : worse.isCritical d20s = true → better.isCritical d20s = true :=
    RollMode.isCritical_of_le hmode d20s
  refine ⟨htotal, hcritical, ?_⟩
  rw [AttackRoll.isHit_evaluate, AttackRoll.isHit_evaluate]
  rintro (hnone | hcrit | ⟨goal, hgoal, hreached⟩)
  · exact .inl hnone
  · exact .inr (.inl (hcritical hcrit))
  · exact .inr (.inr ⟨goal, hgoal, hreached.trans htotal⟩)

/-- The same dice in a better mode, with a larger bonus and against an easier target, keep at least
the same and make at least as good an outcome.  In every mode a critical is a hit. -/
theorem atMost_of_better {worse better : RollMode} (hmode : worse ≤ better) (d20s : List Int)
    {bonus larger : Int} (hbonus : bonus ≤ larger) {hard easy : Option Int}
    (heasier : ArmorClass.Easier easy hard) :
    worse.kept d20s ≤ better.kept d20s ∧
      (evaluate worse d20s bonus hard).AtMost (evaluate better d20s larger easy) ∧
      ∀ mode armorClass, (evaluate mode d20s bonus armorClass).isCritical = true →
        (evaluate mode d20s bonus armorClass).isHit = true := by
  have hbetter := atMost_evaluate hmode d20s hbonus hard
  have htarget := keptBy_evaluate better d20s larger heasier
  refine ⟨RollMode.kept_le_kept hmode d20s, ?_, fun _ _ => isHit_of_isCritical⟩
  constructor
  case total => exact hbetter.total
  case isCritical => exact hbetter.isCritical
  case isHit => exact fun hhit => htarget.isHit (hbetter.isHit hhit)

/-- A hit by the lower die is a critical by the higher one. -/
theorem atMost_of_better_twenty :
    RollMode.disadvantage ≤ RollMode.advantage ∧ (4 : Int) ≤ 5 ∧
      ArmorClass.Easier (some 15) (some 16) ∧
      evaluate .disadvantage [12, 20] 4 (some 16) = ⟨true, false, 16, [12, 20]⟩ ∧
      evaluate .advantage [12, 20] 5 (some 15) = ⟨true, true, 25, [12, 20]⟩ ∧
      RollMode.disadvantage.kept [12, 20] ≤ RollMode.advantage.kept [12, 20] ∧
      (evaluate .disadvantage [12, 20] 4 (some 16)).AtMost
        (evaluate .advantage [12, 20] 5 (some 15)) ∧
      ∀ mode armorClass, (evaluate mode [12, 20] 4 armorClass).isCritical = true →
        (evaluate mode [12, 20] 4 armorClass).isHit = true := by
  have hmode : RollMode.disadvantage ≤ RollMode.advantage :=
    RollMode.disadvantage_le_normal.trans RollMode.normal_le_advantage
  have heasier : ArmorClass.Easier (some 15) (some 16) := by
    rintro goal ⟨rfl⟩
    exact ⟨16, rfl, by decide⟩
  exact ⟨hmode, by decide, heasier, by decide, by decide,
    atMost_of_better hmode [12, 20] (by decide) heasier⟩

end AttackOutcome

end Skirmish
