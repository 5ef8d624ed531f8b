import Mathlib.Algebra.Ring.Int.Defs
import Mathlib.Data.List.Induction
import Skirmish.Points

/-!
# Sums of points

Adding up numbers that are not negative can leave the range of points only at its upper end, and
then it stays there.  Such a sum is the exact one, cut off once at the end.  A sum of numbers of
either sign is exact when it stays inside the range on its way, as it does when the numbers are few
and small.
-/

namespace Skirmish.Points

theorem sum_exact_nonneg {values : List Int} (hnonneg : ∀ value ∈ values, 0 ≤ value) :
    0 ≤ values.sum := by
  induction values with
  | nil => exact Int.le_refl 0
  | cons value values ih =>
      have hvalue := hnonneg value List.mem_cons_self
      have hrest := ih fun other hmem => hnonneg other (List.mem_cons_of_mem _ hmem)
      rw [List.sum_cons]
      omega

/-- From a start that is cut off, numbers that are not negative add up to a sum that is cut off. -/
theorem foldl_add_of_nonneg {values : List Int} (hnonneg : ∀ value ∈ values, 0 ≤ value)
    {start : Int} (hstart : 0 ≤ start) :
    values.foldl add (min highest start) = min highest (start + values.sum) := by
  induction values generalizing start with
  | nil => rw [List.foldl_nil, List.sum_nil, Int.add_zero]
  | cons value values ih =>
      have hvalue := hnonneg value List.mem_cons_self
      have hrest : ∀ other ∈ values, 0 ≤ other :=
        fun other hmem => hnonneg other (List.mem_cons_of_mem _ hmem)
      have hstep : add (min highest start) value = min highest (start + value) := by
        simp only [add, clamp, lowest, highest]
        omega
      calc
        (value :: values).foldl add (min highest start) =
            values.foldl add (add (min highest start) value) := List.foldl_cons ..
        _ = values.foldl add (min highest (start + value)) := by rw [hstep]
        _ = min highest (start + value + values.sum) := ih hrest (by omega)
        _ = min highest (start + (value :: values).sum) := by rw [List.sum_cons, Int.add_assoc]

theorem sum_of_nonneg {values : List Int} (hnonneg : ∀ value ∈ values, 0 ≤ value) :
    sum values = min highest values.sum := by
  have hzero : min highest 0 = 0 := by decide
  rw [sum, ← hzero, foldl_add_of_nonneg hnonneg (Int.le_refl 0), Int.zero_add]

theorem zero_le_sum {values : List Int} (hnonneg : ∀ value ∈ values, 0 ≤ value) :
    0 ≤ sum values := by
  have hexact := sum_exact_nonneg hnonneg
  rw [sum_of_nonneg hnonneg]
  simp only [highest]
  omega

section Parts

variable {α : Type} {parts : List α} {values : α → List Int}

theorem sums_nonneg (hnonneg : ∀ part ∈ parts, ∀ value ∈ values part, 0 ≤ value) :
    ∀ total ∈ parts.map fun part => sum (values part), 0 ≤ total := by
  intro total hmem
  obtain ⟨part, hpart, rfl⟩ := List.mem_map.1 hmem
  exact zero_le_sum (hnonneg part hpart)

/-- A sum of sums is the sum of everything. -/
theorem sum_flatMap_of_nonneg (hnonneg : ∀ part ∈ parts, ∀ value ∈ values part, 0 ≤ value) :
    sum (parts.map fun part => sum (values part)) = min highest (parts.flatMap values).sum := by
  rw [sum_of_nonneg (sums_nonneg hnonneg)]
  induction parts with
  | nil => rfl
  | cons part parts ih =>
      have hpart := hnonneg part List.mem_cons_self
      have hrest : ∀ other ∈ parts, ∀ value ∈ values other, 0 ≤ value :=
        fun other hmem => hnonneg other (List.mem_cons_of_mem _ hmem)
      have hexact := sum_exact_nonneg hpart
      have htotals := sum_exact_nonneg (sums_nonneg hrest)
      have hinner := ih hrest
      rw [List.map_cons, List.sum_cons, List.flatMap_cons, List.sum_append, sum_of_nonneg hpart]
      omega

end Parts

theorem foldl_add_le_foldl_add {left right : List Int} (hle : List.Forall₂ (· ≤ ·) left right)
    {first second : Int} (hstart : first ≤ second) :
    left.foldl add first ≤ right.foldl add second := by
  induction hle generalizing first second with
  | nil => exact hstart
  | cons hvalue _ ih => exact ih (clamp_mono (Int.add_le_add hstart hvalue))

/-- Larger numbers have a larger sum, also when it is cut off on its way. -/
theorem sum_le_sum {left right : List Int} (hle : List.Forall₂ (· ≤ ·) left right) :
    sum left ≤ sum right :=
  foldl_add_le_foldl_add hle (Int.le_refl 0)

/-- Whether a number is in the range of points and not at its ends, where a sum would stay. -/
def Inside (value : Int) : Prop :=
  lowest < value ∧ value < highest

/-- Whether numbers can be added from left to right without coming to the ends of the range. -/
def AddsInside (values : List Int) : Prop :=
  ∀ steps, Inside (values.take steps).sum

theorem clamp_of_inside {value : Int} (hinside : Inside value) : clamp value = value := by
  obtain ⟨hlow, hhigh⟩ := hinside
  simp only [clamp]
  omega

theorem inside_of_natAbs_le {value : Int} {bound : Nat} (hbound : value.natAbs ≤ bound)
    (hroom : bound < 9223372036854775807) : Inside value := by
  simp only [Inside, lowest, highest]
  omega

theorem AddsInside.sum_inside {values : List Int} (hinside : AddsInside values) :
    Inside values.sum := by
  have hall := hinside values.length
  rwa [List.take_length] at hall

theorem sum_of_addsInside {values : List Int} (hinside : AddsInside values) :
    sum values = values.sum := by
  induction values using List.reverseRecOn with
  | nil => rfl
  | append_singleton values last ih =>
      have hbefore : AddsInside values := by
        intro steps
        have hshorter := hinside (min steps values.length)
        rwa [List.take_append_of_le_length (Nat.min_le_right ..), ← List.take_eq_take_min]
          at hshorter
      have hlast := hinside.sum_inside
      rw [List.sum_append, List.sum_singleton] at hlast ⊢
      rw [sum_append_singleton, ih hbefore, add, clamp_of_inside hlast]

theorem natAbs_sum_le {values : List Int} {bound : Nat}
    (hbound : ∀ value ∈ values, value.natAbs ≤ bound) :
    values.sum.natAbs ≤ values.length * bound := by
  induction values with
  | nil => simp
  | cons value values ih =>
      obtain ⟨hvalue, hrest⟩ := List.forall_mem_cons.1 hbound
      have hsum := ih hrest
      rw [List.sum_cons, List.length_cons, Nat.add_mul, Nat.one_mul]
      omega

/-- Few and small numbers add up inside the range. -/
theorem addsInside_of_natAbs_le {values : List Int} {bound room : Nat}
    (hbound : ∀ value ∈ values, value.natAbs ≤ bound) (hroom : values.length * bound ≤ room)
    (hinside : room < 9223372036854775807) : AddsInside values := by
  intro steps
  have htaken : ∀ value ∈ values.take steps, value.natAbs ≤ bound :=
    fun value hmem => hbound value (List.mem_of_mem_take hmem)
  have hlength : (values.take steps).length ≤ values.length := List.length_take_le' ..
  have hsum := natAbs_sum_le htaken
  have hproduct := Nat.mul_le_mul_right bound hlength
  exact inside_of_natAbs_le (Nat.le_trans hsum (Nat.le_trans hproduct hroom)) hinside

end Skirmish.Points
