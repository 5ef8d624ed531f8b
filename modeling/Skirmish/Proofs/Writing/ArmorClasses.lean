import Mathlib.Algebra.Order.BigOperators.Group.List
import Mathlib.Algebra.Order.Ring.Int
import Mathlib.Data.Option.Basic
import Mathlib.Tactic.Choose
import Mathlib.Tactic.Push
import Skirmish.Proofs.Writing.Items
import Skirmish.Proofs.Writing.Signs
import Skirmish.Target

/-!
# Written armor classes

The modifiers of an armor class count through their sum, but they are added up from left to right
and every sum on the way has to keep to the limit.  So their order decides whether they are read,
though never what they are read as, and modifiers whose sum keeps to the limit are read in some
order: it is enough to add a number of the other sign whenever there is one.
-/

namespace Skirmish.ArmorClass

/-- Whether a number is at most the limit in magnitude. -/
def Within (value : Int) : Prop :=
  -maxFlat ≤ value ∧ value ≤ maxFlat

instance (value : Int) : Decidable (Within value) :=
  inferInstanceAs (Decidable (_ ∧ _))

/-- Whether a sign and the digits behind it write a modifier. -/
inductive Modifies : Sign × Text → Int → Prop
  | plus {digits : Text} {magnitude : Nat} (hdigits : Decimal.Written digits magnitude) :
      Modifies (.plus, digits) magnitude
  | minus {digits : Text} {magnitude : Nat} (hdigits : Decimal.Written digits magnitude) :
      Modifies (.minus, digits) (-magnitude)

theorem Modifies.unsigned {term : Sign × Text} {modifier : Int}
    (hterm : Modifies term modifier) : Sign.Unsigned term.2 := by
  cases hterm with
  | plus hdigits => exact hdigits.unsigned
  | minus hdigits => exact hdigits.unsigned

/-- The magnitude of a modifier is read, and within the limit its sign makes the modifier of it. -/
theorem Modifies.exists_magnitude {term : Sign × Text} {modifier : Int}
    (hterm : Modifies term modifier) :
    ∃ magnitude : Nat, Decimal.readNat? term.2 = some magnitude ∧
      (magnitude ≤ maxFlat ↔ Within modifier) ∧
      (Within modifier → term.1.apply magnitude = modifier) := by
  cases hterm with
  | @plus digits magnitude hdigits =>
      refine ⟨magnitude, Decimal.readNat?_eq_some_iff.2 hdigits, ?_, fun _ => rfl⟩
      simp only [Within, maxFlat]
      omega
  | @minus digits magnitude hdigits =>
      refine ⟨magnitude, Decimal.readNat?_eq_some_iff.2 hdigits, ?_, ?_⟩
      · simp only [Within, maxFlat]
        omega
      · simp only [Within, Sign.apply, Points.neg, Points.clamp, Points.lowest, Points.highest,
          maxFlat]
        omega

/-- Whether a text writes a base and modifiers in their order. -/
def Written (text : Text) (base : Nat) (modifiers : List Int) : Prop :=
  ∃ digits terms, Decimal.Written digits base ∧ List.Forall₂ Modifies terms modifiers ∧
    text = digits ++ terms.flatMap Sign.signed

/-- Modifiers are added up as long as each of them and each sum on the way is within the limit. -/
theorem addModifiers_eq_some_iff {terms : List (Sign × Text)} {modifiers : List Int}
    (hterms : List.Forall₂ Modifies terms modifiers) {sum total : Int} (hsum : Within sum) :
    addModifiers sum terms = some total ↔
      (∀ modifier ∈ modifiers, Within modifier) ∧
        (∀ steps, Within (sum + (modifiers.take steps).sum)) ∧ total = sum + modifiers.sum := by
  induction hterms generalizing sum with
  | nil => simp [addModifiers, hsum, eq_comm]
  | @cons term modifier terms modifiers hterm _ ih =>
      obtain ⟨sign, body⟩ := term
      obtain ⟨magnitude, hread, hmagnitude, happly⟩ := hterm.exists_magnitude
      have hsteps : (∀ steps, Within (sum + ((modifier :: modifiers).take steps).sum)) ↔
          Within (sum + modifier) ∧
            ∀ steps, Within (sum + modifier + (modifiers.take steps).sum) := by
        constructor
        · intro hall
          refine ⟨by simpa using hall 1, fun steps => ?_⟩
          simpa [Int.add_assoc] using hall (steps + 1)
        · rintro ⟨-, hall⟩ steps
          cases steps with
          | zero => simpa using hsum
          | succ steps => simpa [Int.add_assoc] using hall steps
      simp only [addModifiers, hread, Option.bind_eq_bind, Option.bind_some,
        Option.bind_eq_some_iff, Option.guard_eq_some', hmagnitude, exists_const,
        List.forall_mem_cons, List.sum_cons, hsteps]
      constructor
      · rintro ⟨hmodifier, hnext, hrest⟩
        rw [happly hmodifier] at hnext hrest
        obtain ⟨hmodifiers, hsums, htotal⟩ := (ih hnext).1 hrest
        exact ⟨⟨hmodifier, hmodifiers⟩, ⟨hnext, hsums⟩, by omega⟩
      · rintro ⟨⟨hmodifier, hmodifiers⟩, ⟨hnext, hsums⟩, htotal⟩
        rw [happly hmodifier]
        exact ⟨hmodifier, hnext, (ih hnext).2 ⟨hmodifiers, hsums, by omega⟩⟩

/-- What a written armor class is read as, and when. -/
theorem read?_eq_some_iff {text : Text} {base : Nat} {modifiers : List Int}
    (hwritten : Written text base modifiers) {armorClass : ArmorClass} :
    read? text = some armorClass ↔
      base ≤ maxFlat ∧ (∀ modifier ∈ modifiers, Within modifier) ∧
        (∀ steps, Within (modifiers.take steps).sum) ∧ armorClass = ⟨base, modifiers.sum⟩ := by
  obtain ⟨digits, terms, hdigits, hterms, rfl⟩ := hwritten
  have hcut : Sign.cut (digits ++ terms.flatMap Sign.signed) = (digits, terms) := by
    refine Sign.cut_eq_iff.2 ⟨rfl, hdigits.unsigned, ?_⟩
    intro term hmem
    obtain ⟨modifier, hterm⟩ := exists_of_forall₂ hterms term hmem
    exact hterm.unsigned
  have hzero : Within 0 := by decide
  simp only [read?, hcut, Decimal.readNat?_eq_some_iff.2 hdigits, Option.bind_eq_bind,
    Option.bind_some, Option.bind_eq_some_iff, Option.guard_eq_some', exists_const,
    addModifiers_eq_some_iff hterms hzero, Int.zero_add, Option.some.injEq]
  constructor
  · rintro ⟨hbase, total, ⟨hmodifiers, hsums, rfl⟩, rfl⟩
    exact ⟨hbase, hmodifiers, hsums, rfl⟩
  · rintro ⟨hbase, hmodifiers, hsums, rfl⟩
    exact ⟨hbase, _, ⟨hmodifiers, hsums, rfl⟩, rfl⟩

/-- Some number can always be added first without leaving the limit. -/
theorem exists_within_add {values : List Int} {sum : Int} (hne : values ≠ [])
    (hvalues : ∀ value ∈ values, Within value) (hsum : Within sum)
    (htotal : Within (sum + values.sum)) : ∃ value ∈ values, Within (sum + value) := by
  obtain ⟨first, rest, rfl⟩ := List.exists_cons_of_ne_nil hne
  by_cases hother : ∃ value ∈ first :: rest, 0 ≤ value ∧ sum ≤ 0 ∨ value ≤ 0 ∧ 0 ≤ sum
  · obtain ⟨value, hmem, hopposite⟩ := hother
    refine ⟨value, hmem, ?_⟩
    have hvalue := hvalues value hmem
    simp only [Within] at *
    omega
  · -- All numbers have the sign of the sum, so the sum only moves towards the total.
    refine ⟨first, List.mem_cons_self, ?_⟩
    push Not at hother
    obtain ⟨hfirst, hrest⟩ := List.forall_mem_cons.1 hother
    rw [List.sum_cons] at htotal
    rcases Int.le_total sum 0 with hlow | hhigh
    · have hnegative : rest.sum ≤ rest.length • 0 :=
        List.sum_le_card_nsmul rest 0 fun value hvalue => by
          have hsign := hrest value hvalue
          omega
      rw [nsmul_zero] at hnegative
      simp only [Within] at *
      omega
    · have hpositive : rest.length • 0 ≤ rest.sum :=
        List.card_nsmul_le_sum rest 0 fun value hvalue => by
          have hsign := hrest value hvalue
          omega
      rw [nsmul_zero] at hpositive
      simp only [Within] at *
      omega

/-- Numbers within the limit whose sum is within it, too, can be added in an order that never leaves
it. -/
theorem exists_perm_within {values : List Int} {sum : Int}
    (hvalues : ∀ value ∈ values, Within value) (hsum : Within sum)
    (htotal : Within (sum + values.sum)) :
    ∃ order : List Int, order.Perm values ∧ ∀ steps, Within (sum + (order.take steps).sum) := by
  induction hlength : values.length generalizing values sum with
  | zero =>
      rw [List.length_eq_zero_iff] at hlength
      exact ⟨[], by rw [hlength], by simpa using hsum⟩
  | succ length ih =>
      have hne : values ≠ [] := List.ne_nil_of_length_eq_add_one hlength
      obtain ⟨value, hmem, hnext⟩ := exists_within_add hne hvalues hsum htotal
      have hperm : values.Perm (value :: values.erase value) := List.perm_cons_erase hmem
      have hrest : sum + value + (values.erase value).sum = sum + values.sum := by
        rw [hperm.sum_eq, List.sum_cons, Int.add_assoc]
      obtain ⟨order, horder, hsteps⟩ := ih
        (fun other hother => hvalues other (List.mem_of_mem_erase hother)) hnext
        (by rwa [hrest]) (by rw [List.length_erase_of_mem hmem, hlength, Nat.add_sub_cancel])
      refine ⟨value :: order, (horder.cons value).trans hperm.symm, ?_⟩
      intro steps
      cases steps with
      | zero => simpa using hsum
      | succ steps => simpa [Int.add_assoc] using hsteps steps

/-- Every order of modifiers can be written. -/
theorem exists_written (base : Nat) (modifiers : List Int) :
    ∃ text, Written text base modifiers := by
  have hterm : ∀ modifier : Int, ∃ term, Modifies term modifier := by
    intro modifier
    rcases Int.eq_nat_or_neg modifier with ⟨magnitude, rfl | rfl⟩
    · exact ⟨_, .plus (Decimal.written_ofNat magnitude)⟩
    · exact ⟨_, .minus (Decimal.written_ofNat magnitude)⟩
  choose term hterm using hterm
  refine ⟨_, _, modifiers.map term, Decimal.written_ofNat base, ?_, rfl⟩
  rw [List.forall₂_map_left_iff, List.forall₂_same]
  exact fun modifier _ => hterm modifier

/-- A written armor class is read, as its base and the sum of its modifiers, when the base, every
modifier and every sum on the way is within the limit.  Its modifiers can be put into an order in
which it is read when the base, every modifier and the sum of all of them are within the limit. -/
theorem read?_modifiers_iff {text : Text} {base : Nat} {modifiers : List Int}
    (hwritten : Written text base modifiers) :
    (∀ armorClass, read? text = some armorClass ↔
      base ≤ maxFlat ∧ (∀ modifier ∈ modifiers, Within modifier) ∧
        (∀ steps, Within (modifiers.take steps).sum) ∧ armorClass = ⟨base, modifiers.sum⟩) ∧
    (∀ order written armorClass, order.Perm modifiers → Written written base order →
      read? written = some armorClass → armorClass = ⟨base, modifiers.sum⟩) ∧
    ((∃ order written, order.Perm modifiers ∧ Written written base order ∧
        (read? written).isSome) ↔
      base ≤ maxFlat ∧ (∀ modifier ∈ modifiers, Within modifier) ∧ Within modifiers.sum) := by
  refine ⟨fun armorClass => read?_eq_some_iff hwritten, ?_, ?_, ?_⟩
  · intro order written armorClass horder hother hread
    obtain ⟨-, -, -, rfl⟩ := (read?_eq_some_iff hother).1 hread
    rw [horder.sum_eq]
  · rintro ⟨order, written, horder, hother, hread⟩
    obtain ⟨armorClass, hread⟩ := Option.isSome_iff_exists.1 hread
    obtain ⟨hbase, hmodifiers, hsums, -⟩ := (read?_eq_some_iff hother).1 hread
    have hall := hsums order.length
    rw [List.take_length, horder.sum_eq] at hall
    exact ⟨hbase, fun modifier hmem => hmodifiers modifier (horder.mem_iff.2 hmem), hall⟩
  · rintro ⟨hbase, hmodifiers, hsum⟩
    have hzero : Within 0 := by decide
    rw [← Int.zero_add modifiers.sum] at hsum
    obtain ⟨order, horder, hsteps⟩ := exists_perm_within hmodifiers hzero hsum
    simp only [Int.zero_add] at hsteps
    obtain ⟨written, hother⟩ := exists_written base order
    refine ⟨order, written, horder, hother, ?_⟩
    rw [(read?_eq_some_iff hother).2 ⟨hbase,
      fun modifier hmem => hmodifiers modifier (horder.mem_iff.1 hmem), hsteps, rfl⟩]
    rfl

theorem written_swing : Written "0+1000000+001-1".toList 0 [1000000, 1, -1] :=
  ⟨['0'], [(.plus, "1000000".toList), (.plus, "001".toList), (.minus, ['1'])],
    Decimal.written_ofNat 0,
    .cons (.plus (Decimal.written_ofNat 1000000)) (.cons (.plus ⟨2, by decide⟩)
      (.cons (.minus (Decimal.written_ofNat 1)) .nil)), by decide +kernel⟩

/-- A sum that leaves the limit on its way is not read, but comes back within the limit in another
order. -/
theorem read?_modifiers_swing :
    Written "0+1000000+001-1".toList 0 [1000000, 1, -1] ∧
      read? "0+1000000+001-1".toList ≠ some ⟨0, 1000000⟩ ∧
      ∃ order written, order.Perm [1000000, 1, -1] ∧ Written written 0 order ∧
        (read? written).isSome := by
  obtain ⟨hread, -, horder⟩ := read?_modifiers_iff written_swing
  refine ⟨written_swing, ?_, horder.2 (by decide)⟩
  intro hswing
  obtain ⟨-, -, hsums, -⟩ := (hread _).1 hswing
  exact absurd (hsums 2) (by decide)

/-- The base, the modifiers and their sum are within the limit here, yet one order of the modifiers
is not read and another one is. -/
theorem read?_goes_by_order :
    Written "0+1000000+001-1".toList 0 [1000000, 1, -1] ∧ (0 : Int) ≤ maxFlat ∧
      (∀ modifier ∈ [1000000, 1, -1], Within modifier) ∧ Within [1000000, 1, -1].sum ∧
      read? "0+1000000+001-1".toList = none ∧
      read? "0+1000000-1+001".toList = some ⟨0, 1000000⟩ :=
  ⟨written_swing, by decide, by decide, by decide, by decide +kernel, by decide +kernel⟩

end Skirmish.ArmorClass
