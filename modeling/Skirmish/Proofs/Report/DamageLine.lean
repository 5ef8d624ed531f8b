import Skirmish.Proofs.Report.Reading
import Skirmish.Proofs.Report.Sums
import Skirmish.Proofs.Resolution.Damage

/-!
# What the damage line says

The damage line is cut into parts at its equals signs.  Its first part has an entry for each attack,
whose figures add up to the damage of that attack, the second one lists the types that occurred, and
the last figure is the damage in all.
-/

namespace Skirmish

namespace Report

/-- Whether the damage line, which is cut into parts at its equals signs, says what a resolution
comes to. -/
structure Tells (resolution : Resolution) (slots : List DamageSlot) (attacks sums : Text)
    (inAll : List Text) : Prop where
  attacks : List.Forall₂
    (fun entry slot => (entry = ['m'] ↔ slot = .miss) ∧ Points.sum (figures entry) = slot.total)
    (entries attacks) slots
  once : (listedTypes sums).Nodup
  types : (∃ slot ∈ slots, slot.wounds ≠ []) → ∀ damageType, damageType ∈ listedTypes sums ↔
    ∃ slot ∈ slots, ∃ wound ∈ slot.wounds, wound.damageType = damageType
  /-- A bare zero stands for no sums. -/
  noTypes : (∀ slot ∈ slots, slot.wounds = []) → entries sums = [['0']]
  total : figures (inAll.getLastD sums) = [resolution.totalDamage]

/-! ## Sums and slots -/

theorem solid_of_isDigit_or_isLower {character : Char}
    (hvisible : character.isDigit = true ∨ character.isLower = true) :
    Text.isBlank character = false ∧ character ≠ '+' ∧ character ≠ '[' ∧ character ≠ ']' ∧
      character ≠ '=' := by
  have hrange : 48 ≤ character.toNat ∧ character.toNat ≤ 57 ∨
      97 ≤ character.toNat ∧ character.toNat ≤ 122 :=
    hvisible.imp Char.isDigit_iff_toNat.1 Text.isLower_iff.1
  refine ⟨?_, ?_, ?_, ?_, ?_⟩
  · rw [Bool.eq_false_iff]
    intro hblank
    simp only [Text.isBlank, Bool.or_eq_true, Bool.and_eq_true, decide_eq_true_eq, beq_iff_eq]
      at hblank
    omega
  all_goals
    rintro rfl
    revert hrange
    decide

/-- Whether sums are not negative and have types of small letters. -/
def Plain (sums : List (Text × Int)) : Prop :=
  ∀ sum ∈ sums, 0 ≤ sum.2 ∧ ∀ character ∈ sum.1, character.isLower = true

section Sums

variable {sums : List (Text × Int)} (hplain : Plain sums)

include hplain

theorem Plain.isDigit_or_isLower {sum : Text × Int} (hsum : sum ∈ sums) :
    ∀ character ∈ Decimal.ofInt sum.2 ++ sum.1,
      character.isDigit = true ∨ character.isLower = true := by
  obtain ⟨hvalue, hletters⟩ := hplain sum hsum
  obtain ⟨number, hnumber⟩ := Int.eq_ofNat_of_zero_le hvalue
  rw [List.forall_mem_append, hnumber]
  exact ⟨fun _ hmem => .inl (Decimal.isDigit_of_mem_ofNat hmem),
    fun character hmem => .inr (hletters character hmem)⟩

theorem Plain.isEntry {sum : Text × Int} (hsum : sum ∈ sums) :
    IsEntry (Decimal.ofInt sum.2 ++ sum.1) := by
  have hsolid := hplain.isDigit_or_isLower hsum
  have hfigure := figures_ofInt_append (hplain sum hsum).1 (hplain sum hsum).2
  generalize Decimal.ofInt sum.2 ++ sum.1 = text at hsolid hfigure
  cases text with
  | nil => cases hfigure
  | cons first rest =>
      refine .bare fun character hmem => ?_
      obtain ⟨hblank, hplus, hbracket, -⟩ := solid_of_isDigit_or_isLower (hsolid character hmem)
      exact ⟨hblank, hplus, hbracket⟩

theorem Plain.figures_sumsText (hne : sums ≠ []) :
    figures (sumsText sums) = sums.map Prod.snd := by
  rw [sumsText, if_neg (by rwa [List.isEmpty_iff]), figures_intercalate_plus, List.flatMap_map,
    ← List.flatMap_singleton' (sums.map Prod.snd), List.flatMap_map]
  apply List.flatMap_congr
  intro sum hsum
  exact figures_ofInt_append (hplain sum hsum).1 (hplain sum hsum).2

/-- Nothing to sum up is told as zero. -/
theorem Plain.sum_figures_sumsText :
    Points.sum (figures (sumsText sums)) = Points.sum (sums.map Prod.snd) := by
  by_cases hnone : sums = []
  · rw [hnone]
    decide
  · rw [hplain.figures_sumsText hnone]

theorem Plain.notMem_sumsText : ∀ character ∈ sumsText sums, character ≠ ']' ∧ character ≠ '=' := by
  rw [sumsText]
  split
  · exact List.forall_mem_singleton.2 (by decide)
  · have hpieces : ∀ piece ∈ sums.map fun sum => Decimal.ofInt sum.2 ++ sum.1,
        ∀ character ∈ piece, character ≠ ']' ∧ character ≠ '=' := by
      intro piece hpiece
      obtain ⟨sum, hsum, rfl⟩ := List.mem_map.1 hpiece
      intro character hmem
      exact (solid_of_isDigit_or_isLower (hplain.isDigit_or_isLower hsum _ hmem)).2.2.2
    exact forall_mem_intercalate_plus hpieces (by decide) (by decide)

theorem Plain.entries_sumsText (hne : sums ≠ []) {after : Text}
    (hafter : after = [] ∨ after = [' ']) :
    entries (' ' :: sumsText sums ++ after) =
      sums.map fun sum => Decimal.ofInt sum.2 ++ sum.1 := by
  rw [List.cons_append, entries_cons_blank, sumsText, if_neg (by rwa [List.isEmpty_iff])]
  apply entries_intercalate_plus _ hafter
  intro piece hpiece
  obtain ⟨sum, hsum, rfl⟩ := List.mem_map.1 hpiece
  exact hplain.isEntry hsum

theorem Plain.listedTypes_sumsText (hne : sums ≠ []) {after : Text}
    (hafter : after = [] ∨ after = [' ']) :
    listedTypes (' ' :: sumsText sums ++ after) = sums.map Prod.fst := by
  rw [listedTypes, hplain.entries_sumsText hne hafter, List.map_map]
  apply List.map_congr_left
  intro sum hsum
  obtain ⟨hvalue, hletters⟩ := hplain sum hsum
  obtain ⟨number, hnumber⟩ := Int.eq_ofNat_of_zero_le hvalue
  rw [Function.comp_apply, hnumber]
  refine (Text.run_append (fun _ hmem => Decimal.isDigit_of_mem_ofNat hmem) ?_).2
  intro character hmem
  exact isDigit_eq_false_of_isLower (hletters character (List.mem_of_mem_head? hmem))

/-- Sums of one type, or of none, are one entry. -/
theorem Plain.isEntry_sumsText (hfew : ¬1 < sums.length) : IsEntry (sumsText sums) := by
  match sums, hplain, hfew with
  | [], _, _ => exact .bare (List.forall_mem_singleton.2 (by decide))
  | [sum], hplain, _ =>
      have htext : sumsText [sum] = Decimal.ofInt sum.2 ++ sum.1 := by
        simp [sumsText]
      rw [htext]
      exact hplain.isEntry List.mem_cons_self
  | _ :: _ :: _, _, hfew => simp at hfew

end Sums

/-- Whether wounds are not negative and have types of small letters. -/
def Told (wounds : List Wound) : Prop :=
  ∀ wound ∈ wounds, 0 ≤ wound.value ∧ ∀ character ∈ wound.damageType, character.isLower = true

theorem Told.nonneg {wounds : List Wound} (htold : Told wounds) :
    ∀ wound ∈ wounds, 0 ≤ wound.value :=
  fun wound hmem => (htold wound hmem).1

theorem Told.plain {wounds : List Wound} (htold : Told wounds) : Plain (sumsByType wounds) := by
  intro sum hsum
  refine ⟨sums_nonneg htold.nonneg _ (List.mem_map_of_mem hsum), ?_⟩
  obtain ⟨wound, hwound, htype⟩ := mem_types_sumsByType.1 (List.mem_map_of_mem hsum)
  rw [← htype]
  exact (htold wound hwound).2

section Slots

variable {slot : DamageSlot} (htold : Told slot.wounds)

include htold

theorem Told.isEntry_slotText : IsEntry (slotText slot) := by
  cases slot with
  | miss => exact .bare (List.forall_mem_singleton.2 (by decide))
  | hit wounds =>
      have hplain := htold.plain
      simp only [slotText, DamageSlot.wounds] at hplain ⊢
      split
      · exact .enclosed fun hmem => (hplain.notMem_sumsText _ hmem).1 rfl
      · next hfew => exact hplain.isEntry_sumsText hfew

theorem Told.notMem_slotText : ∀ character ∈ slotText slot, character ≠ '=' := by
  cases slot with
  | miss => exact List.forall_mem_singleton.2 (by decide)
  | hit wounds =>
      have hnotMem : ∀ character ∈ sumsText (sumsByType wounds), character ≠ '=' :=
        fun character hmem => (Told.plain htold).notMem_sumsText character hmem |>.2
      simp only [slotText]
      split
      · simp only [List.forall_mem_cons, List.forall_mem_append]
        exact ⟨⟨by decide, hnotMem⟩, by decide, List.forall_mem_nil _⟩
      · exact hnotMem

/-- The figures of an attack's entry add up to its damage. -/
theorem Told.sum_figures_slotText : Points.sum (figures (slotText slot)) = slot.total := by
  cases slot with
  | miss => decide
  | hit wounds =>
      replace htold : Told wounds := htold
      have hplain := htold.plain
      have hbare : figures (slotText (.hit wounds)) = figures (sumsText (sumsByType wounds)) := by
        simp only [slotText]
        split
        · rw [List.cons_append, figures_cons rfl, figures_append rfl]
          exact List.append_nil _
        · rfl
      have hexact : Points.sum (wounds.map Wound.value) =
          min Points.highest (wounds.map Wound.value).sum := by
        apply Points.sum_of_nonneg
        intro value hvalue
        obtain ⟨wound, hwound, rfl⟩ := List.mem_map.1 hvalue
        exact htold.nonneg wound hwound
      rw [hbare, hplain.sum_figures_sumsText, sum_sumsByType htold.nonneg, ← hexact]
      rfl

/-- The entry of a miss is that of no hit, which has figures. -/
theorem Told.slotText_eq_miss_iff : slotText slot = ['m'] ↔ slot = .miss := by
  constructor
  · intro htext
    cases slot with
    | miss => rfl
    | hit wounds =>
        have hplain : Plain (sumsByType wounds) := Told.plain htold
        have hnone : figures (sumsText (sumsByType wounds)) ≠ [] := by
          by_cases hempty : sumsByType wounds = []
          · rw [hempty]
            decide
          · rwa [hplain.figures_sumsText hempty, Ne, List.map_eq_nil_iff]
        simp only [slotText] at htext
        split at htext
        · cases htext
        · rw [htext] at hnone
          exact absurd rfl hnone
  · rintro rfl
    rfl

end Slots

/-! ## The line -/

section Line

variable {slots : List DamageSlot}

/-- The wounds of all slots. -/
theorem told_flatMap (htold : ∀ slot ∈ slots, Told slot.wounds) :
    Told (slots.flatMap DamageSlot.wounds) := by
  intro wound hwound
  obtain ⟨slot, hslot, hmem⟩ := List.mem_flatMap.1 hwound
  exact htold slot hslot wound hmem

/-- Sums of at most one type show the damage in all. -/
theorem Told.figures_sumsText_of_few {wounds : List Wound} (htold : Told wounds)
    (hfew : ¬1 < (sumsByType wounds).length) :
    figures (sumsText (sumsByType wounds)) = [min Points.highest (wounds.map Wound.value).sum] := by
  have hplain := htold.plain
  have hnonneg := sums_nonneg htold.nonneg
  have hhighest := sums_le_highest htold.nonneg
  rw [← sum_sumsByType htold.nonneg]
  generalize sumsByType wounds = sums at *
  match sums, hfew with
  | [], _ => decide
  | [sum], _ =>
      have hleast := hnonneg sum.2 List.mem_cons_self
      have hmost := hhighest sum.2 List.mem_cons_self
      have hsingle : Points.sum [sum.2] = sum.2 := by
        simp only [Points.sum, List.foldl_cons, List.foldl_nil, Points.add, Points.clamp,
          Points.lowest]
        omega
      rw [hplain.figures_sumsText (List.cons_ne_nil _ _), List.map_singleton, hsingle]
  | _ :: _ :: _, hfew => simp at hfew

theorem notMem_attacks (htold : ∀ slot ∈ slots, Told slot.wounds) :
    '=' ∉ " + ".toList.intercalate (slots.map slotText) ++ [' '] := by
  have hpieces : ∀ piece ∈ slots.map slotText, ∀ character ∈ piece, character ≠ '=' := by
    intro piece hpiece
    obtain ⟨slot, hslot, rfl⟩ := List.mem_map.1 hpiece
    exact (htold slot hslot).notMem_slotText
  have hjoined := forall_mem_intercalate_plus hpieces (by decide) (by decide)
  intro hmem
  obtain hmem | hmem := List.mem_append.1 hmem
  · exact hjoined _ hmem rfl
  · exact absurd hmem (by decide)

theorem Plain.notMem_sums {sums : List (Text × Int)} (hplain : Plain sums) {after : Text}
    (hafter : after = [] ∨ after = [' ']) : '=' ∉ ' ' :: sumsText sums ++ after := by
  intro hmem
  obtain hmem | hmem := List.mem_append.1 hmem
  · obtain hblank | hmem := List.mem_cons.1 hmem
    · exact absurd hblank (by decide)
    · exact (hplain.notMem_sumsText _ hmem).2 rfl
  · obtain rfl | rfl := hafter <;> exact absurd hmem (by decide)

theorem notMem_ofInt {value : Int} (hvalue : 0 ≤ value) : '=' ∉ ' ' :: Decimal.ofInt value := by
  obtain ⟨number, rfl⟩ := Int.eq_ofNat_of_zero_le hvalue
  intro hmem
  obtain hblank | hmem := List.mem_cons.1 hmem
  · exact absurd hblank (by decide)
  · exact absurd (Decimal.isDigit_of_mem_ofNat hmem) (by decide)

/-- The damage line without its heading, cut at its equals signs.  The damage in all stands behind a
second one if there are several types. -/
theorem exists_body (htold : ∀ slot ∈ slots, Told slot.wounds) {totalDamage : Int}
    (htotal : 0 ≤ totalDamage) :
    let sums := sumsByType (slots.flatMap DamageSlot.wounds)
    ∃ body after inAll, damageLine slots totalDamage = "DMG ".toList ++ body ∧
      body.splitOn '=' = (" + ".toList.intercalate (slots.map slotText) ++ [' ']) ::
        (' ' :: sumsText sums ++ after) :: inAll ∧
      (1 < sums.length ∧ after = [' '] ∧ inAll = [' ' :: Decimal.ofInt totalDamage] ∨
        ¬1 < sums.length ∧ after = [] ∧ inAll = []) := by
  intro sums
  have hplain : Plain sums := (told_flatMap htold).plain
  by_cases hmany : 1 < sums.length
  · refine ⟨(" + ".toList.intercalate (slots.map slotText) ++ [' ']) ++ '=' ::
      ((' ' :: sumsText sums ++ [' ']) ++ '=' :: ' ' :: Decimal.ofInt totalDamage),
      [' '], _, ?_, ?_, .inl ⟨hmany, rfl, rfl⟩⟩
    · unfold damageLine
      dsimp only
      rw [if_pos hmany]
      simp only [List.append_assoc]
      rfl
    · rw [List.splitOn_append_cons_self_of_not_mem (notMem_attacks htold),
        List.splitOn_append_cons_self_of_not_mem (hplain.notMem_sums (.inr rfl)),
        List.splitOn_eq_singleton (notMem_ofInt htotal)]
  · refine ⟨(" + ".toList.intercalate (slots.map slotText) ++ [' ']) ++ '=' ::
      (' ' :: sumsText sums ++ []), [], [], ?_, ?_, .inr ⟨hmany, rfl, rfl⟩⟩
    · unfold damageLine
      dsimp only
      rw [if_neg hmany]
      simp only [List.append_assoc]
      rfl
    · rw [List.splitOn_append_cons_self_of_not_mem (notMem_attacks htold),
        List.splitOn_eq_singleton (hplain.notMem_sums (.inl rfl))]

/-- There is one line of damage among the lines. -/
theorem filter_lines {resolution : Resolution} (hdamage : resolution.damage = some slots)
    {body : Text} (hline : damageLine slots resolution.totalDamage = "DMG ".toList ++ body) :
    (lines resolution).filter ("DMG ".toList.isPrefixOf ·) = ["DMG ".toList ++ body] := by
  rw [lines, hdamage, Option.map_some, hline]
  cases resolution.attacks <;> cases resolution.hitPoints <;> rfl

/-- Each slot has its entry among the attacks. -/
theorem forall₂_entries_attacks (htold : ∀ slot ∈ slots, Told slot.wounds) :
    List.Forall₂
      (fun entry slot => (entry = ['m'] ↔ slot = .miss) ∧ Points.sum (figures entry) = slot.total)
      (entries (" + ".toList.intercalate (slots.map slotText) ++ [' '])) slots := by
  have hentries : ∀ piece ∈ slots.map slotText, IsEntry piece := by
    intro piece hpiece
    obtain ⟨slot, hslot, rfl⟩ := List.mem_map.1 hpiece
    exact (htold slot hslot).isEntry_slotText
  rw [entries_intercalate_plus hentries (.inr rfl), List.forall₂_map_left_iff, List.forall₂_same]
  exact fun slot hslot =>
    ⟨(htold slot hslot).slotText_eq_miss_iff, (htold slot hslot).sum_figures_slotText⟩

theorem mem_types_flatMap {damageType : Text} :
    damageType ∈ (sumsByType (slots.flatMap DamageSlot.wounds)).map Prod.fst ↔
      ∃ slot ∈ slots, ∃ wound ∈ slot.wounds, wound.damageType = damageType := by
  rw [mem_types_sumsByType]
  simp only [List.mem_flatMap]
  constructor
  · rintro ⟨wound, ⟨slot, hslot, hmem⟩, htype⟩
    exact ⟨slot, hslot, wound, hmem, htype⟩
  · rintro ⟨slot, hslot, wound, hmem, htype⟩
    exact ⟨wound, ⟨slot, hslot, hmem⟩, htype⟩

/-- The damage line of wounds that are not negative and of small letters, if the damage in all is
theirs. -/
theorem exists_tells {resolution : Resolution} (hdamage : resolution.damage = some slots)
    (htold : ∀ slot ∈ slots, Told slot.wounds)
    (htotal : resolution.totalDamage =
      min Points.highest ((slots.flatMap DamageSlot.wounds).map Wound.value).sum) :
    ∃ body attacks sums inAll,
      (lines resolution).filter ("DMG ".toList.isPrefixOf ·) = ["DMG ".toList ++ body] ∧
      body.splitOn '=' = attacks :: sums :: inAll ∧
      Tells resolution slots attacks sums inAll := by
  have hall := told_flatMap htold
  have hplain := hall.plain
  have hnonneg : 0 ≤ resolution.totalDamage := by
    rw [htotal, ← sum_sumsByType hall.nonneg]
    exact Points.zero_le_sum (sums_nonneg hall.nonneg)
  obtain ⟨body, after, inAll, hline, hparts, hinAll⟩ := exists_body htold hnonneg
  have hafter : after = [] ∨ after = [' '] := by
    obtain ⟨-, hafter, -⟩ | ⟨-, hafter, -⟩ := hinAll
    · exact .inr hafter
    · exact .inl hafter
  refine ⟨body, _, _, inAll, filter_lines hdamage hline, hparts, ?_⟩
  constructor
  case attacks => exact forall₂_entries_attacks htold
  case once =>
    by_cases hnone : sumsByType (slots.flatMap DamageSlot.wounds) = []
    · rw [hnone]
      obtain rfl | rfl := hafter <;> decide
    · rw [hplain.listedTypes_sumsText hnone hafter]
      exact nodup_types_sumsByType _
  case types =>
    rintro ⟨slot, hslot, hwounds⟩ damageType
    have hsome : sumsByType (slots.flatMap DamageSlot.wounds) ≠ [] := by
      rw [Ne, sumsByType_eq_nil_iff, List.flatMap_eq_nil_iff]
      exact fun hnone => hwounds (hnone slot hslot)
    rw [hplain.listedTypes_sumsText hsome hafter]
    exact mem_types_flatMap
  case noTypes =>
    intro hnone
    rw [sumsByType_eq_nil_iff.2 (List.flatMap_eq_nil_iff.2 hnone)]
    obtain rfl | rfl := hafter <;> decide
  case total =>
    obtain ⟨-, rfl, rfl⟩ | ⟨hfew, rfl, rfl⟩ := hinAll
    · have hnumber := figures_ofInt_append hnonneg (List.forall_mem_nil fun character : Char =>
        character.isLower = true)
      rw [List.append_nil] at hnumber
      exact (figures_cons rfl _).trans hnumber
    · rw [List.append_nil, htotal, ← hall.figures_sumsText_of_few hfew]
      exact figures_cons rfl _

end Line

end Report

namespace Plan

variable {σ : Type} {plan : Plan} {roller : Roller σ} {control : Control} {table after : Table σ}

theorem exists_component_of_mem_slotOf {components : List Component} {resolution : Resolution}
    {reply : List GroupTotal} {attack : Nat} {wound : Wound}
    (hmem : wound ∈ (plan.slotOf components resolution reply attack).wounds) :
    ∃ component ∈ components, wound.damageType = component.damageType := by
  rw [slotOf] at hmem
  split at hmem
  · obtain ⟨position, hposition, rfl⟩ := List.mem_mapIdx.1 hmem
    exact ⟨_, List.getElem_mem hposition, rfl⟩
  · cases hmem

/-- The types of the wounds are those of the components. -/
theorem told_of_resolve {resolution : Resolution} {slots : List DamageSlot}
    (hok : plan.resolve roller control table = (.ok resolution, after))
    (hdamage : resolution.damage = some slots)
    (hletters : ∀ component ∈ plan.damage.getD [], component.damageType.all Char.isLower = true) :
    ∀ slot ∈ slots, Report.Told slot.wounds := by
  have haccounts := accounts_of_resolve hok
  intro slot hslot wound hwound
  refine ⟨haccounts.notNegative slots hdamage slot hslot wound hwound, ?_⟩
  cases hcomponents : plan.damage with
  | none =>
      rw [haccounts.damage.2 hcomponents] at hdamage
      cases hdamage
  | some components =>
      obtain ⟨-, reply, -, -, heq⟩ := slots_of_resolve hcomponents hok
      obtain rfl := Option.some.inj (hdamage.symm.trans heq)
      obtain ⟨attack, -, rfl⟩ := List.mem_map.1 hslot
      obtain ⟨component, hcomponent, htype⟩ := exists_component_of_mem_slotOf hwound
      rw [hcomponents, Option.getD_some] at hletters
      rw [htype]
      exact List.all_eq_true.1 (hletters component hcomponent)

/-- The report of a plan with damage of types in small letters has one line of damage, which tells
the slots, their types and the damage in all. -/
theorem exists_tells_of_resolve {resolution : Resolution} {slots : List DamageSlot}
    (hok : plan.resolve roller control table = (.ok resolution, after))
    (hdamage : resolution.damage = some slots)
    (hletters : ∀ component ∈ plan.damage.getD [], component.damageType.all Char.isLower = true) :
    ∃ body attacks sums inAll,
      (Report.lines resolution).filter ("DMG ".toList.isPrefixOf ·) = ["DMG ".toList ++ body] ∧
      body.splitOn '=' = attacks :: sums :: inAll ∧
      Report.Tells resolution slots attacks sums inAll := by
  have htotal := (accounts_of_resolve hok).totalDamage
  rw [hdamage, Option.getD_some] at htotal
  exact Report.exists_tells hdamage (told_of_resolve hok hdamage hletters) htotal

/-- A hit, a critical and a miss, with fire of which half is resisted. -/
theorem exists_tells_of_resolve_volley :
    let plan : Plan := ⟨some ⟨3, .normal, [], []⟩, some ⟨15, 0⟩,
      some [⟨.plus, .dice 2 6, "fi".toList⟩, ⟨.plus, .flat 5, []⟩], none, ⟨["fi".toList], [], []⟩⟩
    let table : Table ScriptedDice := ⟨.ofValues [16, 20, 8, 7, 16] none, .absent, []⟩
    let slots : List DamageSlot :=
      [.hit [⟨3, "fi".toList⟩, ⟨5, []⟩], .hit [⟨8, "fi".toList⟩, ⟨5, []⟩], .miss]
    let resolution : Resolution := ⟨some [⟨true, false, 16, [16]⟩, ⟨true, true, 20, [20]⟩,
      ⟨false, false, 8, [8]⟩], some slots, 21, none⟩
    (plan.resolve ScriptedDice.roller ⟨.ofMillis 12000, 0⟩ table).1 = .ok resolution ∧
      ∃ body attacks sums inAll,
        (Report.lines resolution).filter ("DMG ".toList.isPrefixOf ·) = ["DMG ".toList ++ body] ∧
        body.splitOn '=' = attacks :: sums :: inAll ∧
        Report.Tells resolution slots attacks sums inAll := by
  intro plan table slots resolution
  have hresult : (plan.resolve ScriptedDice.roller ⟨.ofMillis 12000, 0⟩ table).1 =
      .ok resolution := by
    decide +kernel
  have hok : plan.resolve ScriptedDice.roller ⟨.ofMillis 12000, 0⟩ table =
      (.ok resolution, (plan.resolve ScriptedDice.roller ⟨.ofMillis 12000, 0⟩ table).2) := by
    rw [← hresult]
  exact ⟨hresult, exists_tells_of_resolve hok rfl (by decide)⟩

end Plan

end Skirmish
