import Mathlib.Data.List.Sort
import Skirmish.Proofs.Keyed
import Skirmish.Proofs.Report.Sums

/-!
# How sums are listed

A report lists the sum of every type that occurs, by descending value and then by type.  As wounds
are not negative there is only one such list, whatever order they come in.  It can be made by
keeping the sums in the order of their types while the wounds come in and sorting them by value
alone in the end, since a stable sort leaves ties as they were.
-/

namespace Skirmish.Report

variable {wounds : List Wound}

/-- Whether one sum is listed above another one. -/
def Outranks (left right : Text × Int) : Prop :=
  right.2 < left.2 ∨ (left.2 = right.2 ∧ left.1 < right.1)

/-- Whether sums are those of the wounds as a report lists them. -/
structure Lists (wounds : List Wound) (sums : List (Text × Int)) : Prop where
  once : (sums.map Prod.fst).Nodup
  types : ∀ damageType, damageType ∈ sums.map Prod.fst ↔
    ∃ wound ∈ wounds, wound.damageType = damageType
  /-- The exact sum, or the highest number of points when there are more. -/
  values : ∀ sum ∈ sums, sum.2 = min Points.highest
    ((wounds.filter fun wound => wound.damageType == sum.1).map Wound.value).sum
  ordered : sums.Pairwise Outranks

/-! ## The sorted list -/

theorem listedBefore_iff {left right : Text × Int} :
    listedBefore left right = true ↔
      right.2 < left.2 ∨ (left.2 = right.2 ∧ ¬right.1 < left.1) := by
  simp [listedBefore]

theorem listedBefore_trans (first second third : Text × Int)
    (hleft : listedBefore first second = true) (hright : listedBefore second third = true) :
    listedBefore first third = true := by
  rw [listedBefore_iff, Std.not_lt] at *
  rcases hleft with hless | ⟨htied, htypes⟩
  · left
    rcases hright with hless' | ⟨htied', -⟩ <;> omega
  · rcases hright with hless | ⟨htied', htypes'⟩
    · left
      omega
    · exact .inr ⟨htied.trans htied', Std.le_trans htypes htypes'⟩

theorem listedBefore_total (left right : Text × Int) :
    (listedBefore left right || listedBefore right left) = true := by
  rw [Bool.or_eq_true, listedBefore_iff, listedBefore_iff]
  rcases Int.lt_trichotomy left.2 right.2 with hless | htied | hless
  · exact .inr (.inl hless)
  · by_cases htypes : right.1 < left.1
    · exact .inr (.inr ⟨htied.symm, fun hback => List.lt_asymm htypes hback⟩)
    · exact .inl (.inr ⟨htied, htypes⟩)
  · exact .inl (.inl hless)

/-- Of two sums of different types that are tied, the type decides. -/
theorem outranks_of_listedBefore {left right : Text × Int}
    (hbefore : listedBefore left right = true) (hdiffer : left.1 ≠ right.1) :
    Outranks left right := by
  refine (listedBefore_iff.1 hbefore).imp_right ?_
  rintro ⟨htied, htypes⟩
  exact ⟨htied, Std.lt_of_le_of_ne (Std.not_lt.1 htypes) hdiffer⟩

/-- No sum is listed above one that is listed above it. -/
instance : Std.Asymm Outranks where
  asymm := by
    intro left right hleft hright
    rcases hleft with hless | ⟨htied, htypes⟩
    · rcases hright with hless' | ⟨htied', -⟩ <;> omega
    · rcases hright with hless | ⟨-, htypes'⟩
      · omega
      · exact List.lt_asymm htypes htypes'

theorem mem_sumsByType {sum : Text × Int} :
    sum ∈ sumsByType wounds ↔
      (∃ wound ∈ wounds, wound.damageType = sum.1) ∧ sum.2 = sumOf wounds sum.1 := by
  rw [(perm_sumsByType wounds).mem_iff, List.mem_map, ← mem_typesOf]
  constructor
  · rintro ⟨damageType, hmem, rfl⟩
    exact ⟨hmem, rfl⟩
  · rintro ⟨hmem, hvalue⟩
    exact ⟨sum.1, hmem, Prod.ext rfl hvalue.symm⟩

theorem ordered_sumsByType (wounds : List Wound) : (sumsByType wounds).Pairwise Outranks := by
  have hsorted : (sumsByType wounds).Pairwise fun left right => listedBefore left right = true :=
    List.pairwise_mergeSort listedBefore_trans listedBefore_total _
  have hdiffer := List.pairwise_map.1 (nodup_types_sumsByType wounds)
  exact (hsorted.and hdiffer).imp fun hboth => outranks_of_listedBefore hboth.1 hboth.2

theorem sumOf_of_nonneg (hnonneg : ∀ wound ∈ wounds, 0 ≤ wound.value) (damageType : Text) :
    sumOf wounds damageType = min Points.highest
      ((wounds.filter fun wound => wound.damageType == damageType).map Wound.value).sum := by
  apply Points.sum_of_nonneg
  intro value hvalue
  obtain ⟨wound, hwound, rfl⟩ := List.mem_map.1 hvalue
  exact hnonneg wound (List.mem_filter.1 hwound).1

theorem lists_sumsByType (hnonneg : ∀ wound ∈ wounds, 0 ≤ wound.value) :
    Lists wounds (sumsByType wounds) where
  once := nodup_types_sumsByType wounds
  types := fun _ => mem_types_sumsByType
  values := by
    intro sum hsum
    rw [(mem_sumsByType.1 hsum).2, sumOf_of_nonneg hnonneg]
  ordered := ordered_sumsByType wounds

namespace Lists

variable {sums others : List (Text × Int)}

theorem mem_iff (hlists : Lists wounds sums) {sum : Text × Int} :
    sum ∈ sums ↔ (∃ wound ∈ wounds, wound.damageType = sum.1) ∧ sum.2 = min Points.highest
      ((wounds.filter fun wound => wound.damageType == sum.1).map Wound.value).sum := by
  constructor
  · intro hsum
    exact ⟨(hlists.types _).1 (List.mem_map_of_mem hsum), hlists.values sum hsum⟩
  · rintro ⟨htype, hvalue⟩
    obtain ⟨other, hother, hsame⟩ := List.mem_map.1 ((hlists.types _).2 htype)
    have hvalue' := hlists.values other hother
    rw [hsame, ← hvalue] at hvalue'
    rwa [← Prod.ext hsame hvalue']

theorem unique (hlists : Lists wounds sums) (hothers : Lists wounds others) : sums = others :=
  hlists.ordered.eq_of_mem_iff hothers.ordered
    fun _ => hlists.mem_iff.trans hothers.mem_iff.symm

/-- The order in which the wounds come does not matter. -/
theorem perm {rearranged : List Wound} (hlists : Lists wounds sums)
    (hperm : wounds.Perm rearranged) : Lists rearranged sums where
  once := hlists.once
  types := by
    intro damageType
    rw [hlists.types]
    exact exists_congr fun wound => and_congr_left fun _ => hperm.mem_iff
  values := by
    intro sum hsum
    rw [hlists.values sum hsum, ((hperm.filter _).map Wound.value).sum_eq]
  ordered := hlists.ordered

end Lists

/-! ## Keeping sums as the wounds come in -/

/-- Adds a wound to sums in the order of their types. -/
def enter (wound : Wound) : List (Text × Int) → List (Text × Int)
  | [] => [(wound.damageType, Points.add 0 wound.value)]
  | sum :: sums =>
      if wound.damageType < sum.1 then
        (wound.damageType, Points.add 0 wound.value) :: sum :: sums
      else if wound.damageType = sum.1 then (sum.1, Points.add sum.2 wound.value) :: sums
      else sum :: enter wound sums

/-- The sums by type, in the order of the types, kept while the wounds come in. -/
def tally (wounds : List Wound) : List (Text × Int) :=
  wounds.foldl (fun sums wound => enter wound sums) []

/-- Whether sums are in the order of their types. -/
def TypesAscend (sums : List (Text × Int)) : Prop :=
  sums.Pairwise fun left right => left.1 < right.1

/-- The sum that is kept for a type. -/
def kept? (sums : List (Text × Int)) (damageType : Text) : Option Int :=
  (sums.find? fun sum => sum.1 == damageType).map Prod.snd

section Enter

variable {wound : Wound} {sums : List (Text × Int)}

theorem TypesAscend.nodup (hascend : TypesAscend sums) : (sums.map Prod.fst).Nodup :=
  (List.pairwise_map.2 hascend).nodup

theorem kept?_eq_some_iff (hascend : TypesAscend sums) {damageType : Text} {value : Int} :
    kept? sums damageType = some value ↔ (damageType, value) ∈ sums :=
  Keyed.find?_map_eq_some_iff (fun _ _ => Prod.ext) hascend.nodup (damageType, value)

theorem kept?_cons (sum : Text × Int) (sums : List (Text × Int)) (damageType : Text) :
    kept? (sum :: sums) damageType =
      if sum.1 = damageType then some sum.2 else kept? sums damageType := by
  by_cases htype : sum.1 = damageType <;> simp [kept?, htype]

theorem kept?_eq_none_of_lt {damageType : Text} (hless : ∀ sum ∈ sums, damageType < sum.1) :
    kept? sums damageType = none := by
  rw [kept?, Option.map_eq_none_iff, List.find?_eq_none]
  intro sum hmem
  have hdiffer : sum.1 ≠ damageType := fun heq => List.lt_irrefl _ (heq ▸ hless sum hmem)
  simpa using hdiffer

theorem type_of_mem_enter {sum : Text × Int} (hmem : sum ∈ enter wound sums) :
    sum.1 = wound.damageType ∨ ∃ other ∈ sums, sum.1 = other.1 := by
  induction sums with
  | nil => exact .inl (congrArg Prod.fst (List.mem_singleton.1 hmem))
  | cons first sums ih =>
      rw [enter] at hmem
      split at hmem
      · cases hmem with
        | head => exact .inl rfl
        | tail _ hmem => exact .inr ⟨sum, hmem, rfl⟩
      · split at hmem
        · cases hmem with
          | head => exact .inr ⟨first, List.mem_cons_self, rfl⟩
          | tail _ hmem => exact .inr ⟨sum, List.mem_cons_of_mem _ hmem, rfl⟩
        · cases hmem with
          | head => exact .inr ⟨sum, List.mem_cons_self, rfl⟩
          | tail _ hmem =>
              refine (ih hmem).imp_right ?_
              rintro ⟨other, hother, hsame⟩
              exact ⟨other, List.mem_cons_of_mem _ hother, hsame⟩

theorem typesAscend_enter (hascend : TypesAscend sums) : TypesAscend (enter wound sums) := by
  induction sums with
  | nil => exact List.pairwise_singleton ..
  | cons first sums ih =>
      obtain ⟨hfirst, hsums⟩ := List.pairwise_cons.1 hascend
      rw [enter]
      split
      · next hless =>
        refine List.pairwise_cons.2 ⟨List.forall_mem_cons.2 ⟨hless, ?_⟩, hascend⟩
        exact fun sum hmem => List.lt_trans hless (hfirst sum hmem)
      · next hnotLess =>
        split
        · exact List.pairwise_cons.2 ⟨hfirst, hsums⟩
        · next hdiffer =>
          have hgreater : first.1 < wound.damageType :=
            Std.lt_of_le_of_ne (Std.not_lt.1 hnotLess) fun heq => hdiffer heq.symm
          refine List.pairwise_cons.2 ⟨fun sum hmem => ?_, ih hsums⟩
          rcases type_of_mem_enter hmem with htype | ⟨other, hother, htype⟩
          · rwa [htype]
          · rw [htype]
            exact hfirst other hother

/-- A wound adds to the sum of its type, which begins with zero. -/
theorem kept?_enter (hascend : TypesAscend sums) (damageType : Text) :
    kept? (enter wound sums) damageType =
      if wound.damageType = damageType then
        some (Points.add ((kept? sums damageType).getD 0) wound.value)
      else kept? sums damageType := by
  induction sums with
  | nil => exact kept?_cons ..
  | cons first sums ih =>
      obtain ⟨hfirst, hsums⟩ := List.pairwise_cons.1 hascend
      rw [enter]
      split
      · next hless =>
        have hnone : kept? (first :: sums) wound.damageType = none := by
          apply kept?_eq_none_of_lt
          refine List.forall_mem_cons.2 ⟨hless, ?_⟩
          exact fun sum hmem => List.lt_trans hless (hfirst sum hmem)
        rw [kept?_cons]
        split
        · next htype => rw [← htype, hnone, Option.getD_none]
        · rfl
      · split
        · next hsame =>
          rw [kept?_cons, kept?_cons, hsame]
          split <;> rfl
        · next hdiffer =>
          rw [kept?_cons, kept?_cons, ih hsums]
          split
          · next htype =>
            have hother : wound.damageType ≠ damageType := fun heq => hdiffer (heq.trans htype.symm)
            rw [if_neg hother]
          · rfl

end Enter

theorem tally_append_singleton (wounds : List Wound) (wound : Wound) :
    tally (wounds ++ [wound]) = enter wound (tally wounds) := by
  rw [tally, List.foldl_append]
  rfl

theorem typesAscend_tally (wounds : List Wound) : TypesAscend (tally wounds) := by
  induction wounds using List.reverseRecOn with
  | nil => exact List.Pairwise.nil
  | append_singleton wounds wound ih =>
      rw [tally_append_singleton]
      exact typesAscend_enter ih

theorem sumOf_append_singleton (wounds : List Wound) (wound : Wound) (damageType : Text) :
    sumOf (wounds ++ [wound]) damageType =
      if wound.damageType = damageType then Points.add (sumOf wounds damageType) wound.value
      else sumOf wounds damageType := by
  rw [sumOf, List.filter_append, List.map_append]
  by_cases htype : wound.damageType = damageType
  · rw [if_pos htype, List.filter_cons_of_pos (by simpa using htype)]
    exact Points.sum_append_singleton ..
  · rw [if_neg htype, List.filter_cons_of_neg (by simpa using htype)]
    simp [sumOf]

theorem sumOf_of_not_mem {damageType : Text} (hnone : damageType ∉ typesOf wounds) :
    sumOf wounds damageType = 0 := by
  have hempty : (wounds.filter fun wound => wound.damageType == damageType) = [] := by
    rw [List.filter_eq_nil_iff]
    intro wound hwound htype
    exact hnone (mem_typesOf.2 ⟨wound, hwound, by simpa using htype⟩)
  rw [sumOf, hempty]
  rfl

theorem kept?_tally (wounds : List Wound) (damageType : Text) :
    kept? (tally wounds) damageType =
      if damageType ∈ typesOf wounds then some (sumOf wounds damageType) else none := by
  induction wounds using List.reverseRecOn with
  | nil => rfl
  | append_singleton wounds wound ih =>
      have hbefore : (kept? (tally wounds) damageType).getD 0 = sumOf wounds damageType := by
        rw [ih]
        split
        · rfl
        · next hnone => exact (sumOf_of_not_mem hnone).symm
      have htypes : damageType ∈ typesOf (wounds ++ [wound]) ↔
          damageType ∈ typesOf wounds ∨ wound.damageType = damageType := by
        simp only [mem_typesOf, List.mem_append, List.mem_singleton, or_and_right, exists_or,
          exists_eq_left]
      rw [tally_append_singleton, kept?_enter (typesAscend_tally wounds), hbefore,
        sumOf_append_singleton]
      by_cases hsame : wound.damageType = damageType
      · rw [if_pos hsame, if_pos hsame, if_pos (htypes.2 (.inr hsame))]
      · have hold : damageType ∈ typesOf (wounds ++ [wound]) ↔ damageType ∈ typesOf wounds :=
          htypes.trans (or_iff_left hsame)
        rw [if_neg hsame, if_neg hsame, ih]
        simp only [hold]

theorem mem_tally {sum : Text × Int} : sum ∈ tally wounds ↔ sum ∈ sumsByType wounds := by
  rw [mem_sumsByType, ← mem_typesOf, ← kept?_eq_some_iff (typesAscend_tally wounds), kept?_tally]
  split
  · next hmem => simp [hmem, eq_comm]
  · next hmem => simp [hmem]

/-- Whether the value of one sum is not below that of another one. -/
def notBelow (left right : Text × Int) : Bool :=
  right.2 ≤ left.2

theorem notBelow_trans (first second third : Text × Int) (hleft : notBelow first second = true)
    (hright : notBelow second third = true) : notBelow first third = true := by
  simp only [notBelow, decide_eq_true_eq] at *
  omega

theorem notBelow_total (left right : Text × Int) :
    (notBelow left right || notBelow right left) = true := by
  simp only [notBelow, Bool.or_eq_true, decide_eq_true_eq]
  omega

/-- Sorting by value leaves the sums of one value as they were. -/
theorem filter_mergeSort_notBelow (sums : List (Text × Int)) (value : Int) :
    (sums.mergeSort notBelow).filter (fun sum => sum.2 == value) =
      sums.filter fun sum => sum.2 == value := by
  have htied : (sums.filter fun sum => sum.2 == value).Pairwise
      fun left right => notBelow left right = true := by
    apply List.pairwise_of_forall_mem_list
    intro left hleft right hright
    have hleft' : left.2 = value := by simpa using (List.mem_filter.1 hleft).2
    have hright' : right.2 = value := by simpa using (List.mem_filter.1 hright).2
    simp only [notBelow, decide_eq_true_eq]
    omega
  have hsublist : (sums.filter fun sum => sum.2 == value).Sublist (sums.mergeSort notBelow) :=
    List.sublist_mergeSort notBelow_trans notBelow_total htied List.filter_sublist
  have hkept := hsublist.filter fun sum => sum.2 == value
  rw [List.filter_filter] at hkept
  simp only [Bool.and_self] at hkept
  refine (hkept.eq_of_length ?_).symm
  exact ((List.mergeSort_perm sums notBelow).filter _).length_eq.symm

theorem ordered_mergeSort_tally (wounds : List Wound) :
    ((tally wounds).mergeSort notBelow).Pairwise Outranks := by
  rw [List.pairwise_iff_forall_sublist]
  intro left right hpair
  have hsorted := List.pairwise_mergeSort notBelow_trans notBelow_total (tally wounds)
  have hbelow : right.2 ≤ left.2 := by
    have hnotBelow := List.pairwise_iff_forall_sublist.1 hsorted hpair
    simpa only [notBelow, decide_eq_true_eq] using hnotBelow
  rcases Int.lt_or_eq_of_le hbelow with hless | htied
  · exact .inl hless
  · right
    refine ⟨htied.symm, ?_⟩
    have hfiltered := hpair.filter fun sum => sum.2 == left.2
    rw [filter_mergeSort_notBelow, List.filter_eq_self.2 (by simpa using htied)] at hfiltered
    have hbefore := hfiltered.trans List.filter_sublist
    exact List.pairwise_iff_forall_sublist.1 (typesAscend_tally wounds) hbefore

/-- Only the order of values has to be made when sums are kept in the order of types. -/
theorem sumsByType_eq_mergeSort_tally (wounds : List Wound) :
    sumsByType wounds = (tally wounds).mergeSort notBelow := by
  apply (ordered_sumsByType wounds).eq_of_mem_iff (ordered_mergeSort_tally wounds)
  intro sum
  rw [List.mem_mergeSort, mem_tally]

/-- A report lists the sums of wounds that are not negative in the one way there is, whatever order
the wounds come in, as does the tally when it is sorted by value. -/
theorem lists_iff_eq_sumsByType (hnonneg : ∀ wound ∈ wounds, 0 ≤ wound.value) :
    (∀ sums, Lists wounds sums ↔ sums = sumsByType wounds) ∧
      (∀ rearranged, wounds.Perm rearranged → sumsByType rearranged = sumsByType wounds) ∧
      sumsByType wounds = (tally wounds).mergeSort notBelow := by
  have hlists := lists_sumsByType hnonneg
  refine ⟨fun sums => ⟨fun hsums => hsums.unique hlists, ?_⟩, ?_,
    sumsByType_eq_mergeSort_tally wounds⟩
  · rintro rfl
    exact hlists
  · intro rearranged hperm
    have hnonneg' : ∀ wound ∈ rearranged, 0 ≤ wound.value :=
      fun wound hmem => hnonneg wound (hperm.mem_iff.2 hmem)
    exact (lists_sumsByType hnonneg').unique (hlists.perm hperm)

/-- Fire and an unnamed type are tied, and the acid is more than there can be. -/
theorem lists_iff_eq_sumsByType_tied :
    let wounds : List Wound := [⟨3, "fi".toList⟩, ⟨9223372036854775807, "ac".toList⟩, ⟨3, []⟩,
      ⟨1, "ac".toList⟩, ⟨0, "fi".toList⟩]
    (∀ wound ∈ wounds, 0 ≤ wound.value) ∧
      sumsByType wounds = [("ac".toList, 9223372036854775807), ([], 3), ("fi".toList, 3)] ∧
      (∀ sums, Lists wounds sums ↔ sums = sumsByType wounds) ∧
      (∀ rearranged, wounds.Perm rearranged → sumsByType rearranged = sumsByType wounds) ∧
      sumsByType wounds = (tally wounds).mergeSort notBelow := by
  intro wounds
  have hnonneg : ∀ wound ∈ wounds, 0 ≤ wound.value := by
    decide
  have hsums : (typesOf wounds).map (fun damageType => (damageType, sumOf wounds damageType)) =
      [("fi".toList, 3), ("ac".toList, 9223372036854775807), ([], 3)] := by
    decide
  refine ⟨hnonneg, ?_, lists_iff_eq_sumsByType hnonneg⟩
  rw [sumsByType, hsums]
  simp [List.mergeSort, List.MergeSort.Internal.splitInTwo, listedBefore]

end Skirmish.Report
