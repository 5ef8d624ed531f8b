import Mathlib.Algebra.BigOperators.Group.List.Basic
import Mathlib.Algebra.Order.Ring.Int
import Skirmish.Proofs.Points
import Skirmish.Report

/-!
# Sums by type

The sums of a report have every type of the wounds once.  The wounds of the types, one type after
the other, are all wounds in some order, and as wounds are not negative, neither the order nor the
grouping makes a difference to their sum.
-/

namespace Skirmish

/-- Numbers that are not negative may be added in any order. -/
theorem Points.sum_of_perm {left right : List Int} (hperm : left.Perm right)
    (hnonneg : ∀ value ∈ left, 0 ≤ value) : sum left = sum right := by
  have hright : ∀ value ∈ right, 0 ≤ value := fun value hmem => hnonneg value (hperm.mem_iff.2 hmem)
  rw [sum_of_nonneg hnonneg, sum_of_nonneg hright, hperm.sum_eq]

namespace Report

variable {wounds : List Wound}

/-- Induction over the types of wounds: the type of the first wound goes with all its wounds. -/
theorem types_induction {motive : List Wound → Prop} (nil : motive [])
    (cons : ∀ wound wounds,
      motive (wounds.filter fun other => !other.damageType == wound.damageType) →
      motive (wound :: wounds)) : ∀ wounds, motive wounds
  | [] => nil
  | wound :: wounds => cons wound wounds (types_induction nil cons _)
termination_by wounds => wounds.length
decreasing_by exact Nat.lt_succ_of_le (List.length_filter_le ..)

theorem typesOf_cons (wound : Wound) (wounds : List Wound) :
    typesOf (wound :: wounds) = wound.damageType ::
      typesOf (wounds.filter fun other => !other.damageType == wound.damageType) := by
  rw [typesOf, List.map_cons, List.eraseDups_cons, List.filter_map]
  rfl

theorem mem_typesOf {damageType : Text} :
    damageType ∈ typesOf wounds ↔ ∃ wound ∈ wounds, wound.damageType = damageType := by
  rw [typesOf, List.mem_eraseDups, List.mem_map]

theorem nodup_typesOf (wounds : List Wound) : (typesOf wounds).Nodup := by
  induction wounds using types_induction with
  | nil => exact List.nodup_nil
  | cons wound wounds ih =>
      rw [typesOf_cons, List.nodup_cons]
      refine ⟨?_, ih⟩
      rw [mem_typesOf]
      rintro ⟨other, hother, hsame⟩
      have hdifferent := (List.mem_filter.1 hother).2
      rw [hsame, beq_self_eq_true] at hdifferent
      cases hdifferent

/-- The wounds of one type after the other are all wounds. -/
theorem perm_flatMap_typesOf (wounds : List Wound) :
    ((typesOf wounds).flatMap fun damageType =>
      wounds.filter fun wound => wound.damageType == damageType).Perm wounds := by
  induction wounds using types_induction with
  | nil => exact .nil
  | cons wound wounds ih =>
      generalize hrest : (wounds.filter fun other => !other.damageType == wound.damageType) = rest
        at ih
      have hothers : (typesOf rest).flatMap (fun damageType =>
          (wound :: wounds).filter fun other => other.damageType == damageType) =
          (typesOf rest).flatMap fun damageType =>
            rest.filter fun other => other.damageType == damageType := by
        apply List.flatMap_congr
        intro damageType hmem
        obtain ⟨other, hother, rfl⟩ := mem_typesOf.1 hmem
        subst hrest
        have hdifferent : other.damageType ≠ wound.damageType := by
          simpa using (List.mem_filter.1 hother).2
        rw [List.filter_cons_of_neg (by simpa using hdifferent.symm), List.filter_filter]
        apply List.filter_congr
        intro another _
        by_cases hsame : another.damageType = other.damageType
        · simp [hsame, hdifferent]
        · simp [hsame]
      have hdropped : (wound :: wounds).filter (fun other =>
          !other.damageType == wound.damageType) = rest := by
        rw [List.filter_cons_of_neg (by simp), hrest]
      rw [typesOf_cons, List.flatMap_cons, hrest, hothers]
      refine (List.Perm.append_left _ ih).trans ?_
      rw [← hdropped]
      exact List.filter_append_perm _ _

theorem perm_sumsByType (wounds : List Wound) :
    (sumsByType wounds).Perm
      ((typesOf wounds).map fun damageType => (damageType, sumOf wounds damageType)) :=
  List.mergeSort_perm ..

theorem perm_map_fst_sumsByType (wounds : List Wound) :
    ((sumsByType wounds).map Prod.fst).Perm (typesOf wounds) := by
  have hperm := (perm_sumsByType wounds).map Prod.fst
  rwa [List.map_map, Function.comp_def, List.map_id'] at hperm

theorem perm_map_snd_sumsByType (wounds : List Wound) :
    ((sumsByType wounds).map Prod.snd).Perm ((typesOf wounds).map (sumOf wounds)) := by
  have hperm := (perm_sumsByType wounds).map Prod.snd
  rwa [List.map_map, Function.comp_def] at hperm

theorem nodup_types_sumsByType (wounds : List Wound) :
    ((sumsByType wounds).map Prod.fst).Nodup :=
  (perm_map_fst_sumsByType wounds).nodup_iff.2 (nodup_typesOf wounds)

theorem mem_types_sumsByType {damageType : Text} :
    damageType ∈ (sumsByType wounds).map Prod.fst ↔
      ∃ wound ∈ wounds, wound.damageType = damageType := by
  rw [(perm_map_fst_sumsByType wounds).mem_iff, mem_typesOf]

/-- Without wounds there is nothing to sum up. -/
theorem sumsByType_eq_nil_iff : sumsByType wounds = [] ↔ wounds = [] := by
  rw [← List.length_eq_zero_iff, (perm_sumsByType wounds).length_eq, List.length_map,
    List.length_eq_zero_iff]
  cases wounds with
  | nil => exact ⟨fun _ => rfl, fun _ => rfl⟩
  | cons wound wounds => simp [typesOf_cons]

section Nonneg

variable (hnonneg : ∀ wound ∈ wounds, 0 ≤ wound.value)

include hnonneg

theorem values_nonneg : ∀ damageType ∈ typesOf wounds, ∀ value ∈
    (wounds.filter fun wound => wound.damageType == damageType).map Wound.value, 0 ≤ value := by
  intro damageType _ value hvalue
  obtain ⟨wound, hwound, rfl⟩ := List.mem_map.1 hvalue
  exact hnonneg wound (List.mem_filter.1 hwound).1

theorem sums_nonneg : ∀ value ∈ (sumsByType wounds).map Prod.snd, 0 ≤ value := by
  intro value hvalue
  rw [(perm_map_snd_sumsByType wounds).mem_iff] at hvalue
  exact Points.sums_nonneg (values_nonneg hnonneg) value hvalue

theorem sums_le_highest : ∀ value ∈ (sumsByType wounds).map Prod.snd, value ≤ Points.highest := by
  intro value hvalue
  rw [(perm_map_snd_sumsByType wounds).mem_iff] at hvalue
  obtain ⟨damageType, hmem, rfl⟩ := List.mem_map.1 hvalue
  rw [sumOf, Points.sum_of_nonneg (values_nonneg hnonneg damageType hmem)]
  exact Int.min_le_left ..

/-- The sums by type add up to the sum of all wounds. -/
theorem sum_sumsByType :
    Points.sum ((sumsByType wounds).map Prod.snd) =
      min Points.highest (wounds.map Wound.value).sum := by
  calc
    Points.sum ((sumsByType wounds).map Prod.snd) =
        Points.sum ((typesOf wounds).map (sumOf wounds)) :=
      Points.sum_of_perm (perm_map_snd_sumsByType wounds) (sums_nonneg hnonneg)
    _ = min Points.highest ((typesOf wounds).flatMap fun damageType =>
          (wounds.filter fun wound => wound.damageType == damageType).map Wound.value).sum :=
      Points.sum_flatMap_of_nonneg (values_nonneg hnonneg)
    _ = min Points.highest (wounds.map Wound.value).sum := by
      rw [← List.map_flatMap, ((perm_flatMap_typesOf wounds).map Wound.value).sum_eq]

end Nonneg

end Report

end Skirmish
