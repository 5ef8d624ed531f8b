import Mathlib.Data.List.TakeWhile
import Skirmish.Proofs.Command.Limits
import Skirmish.Proofs.Text.Letters
import Skirmish.Proofs.Writing.Signs

/-!
# Written amounts

An amount is written as its figures, with a `d` between those of dice.  The start of a text is read
as an amount as far as its figures go, so what stands behind must not go on with them: no digit, and
no `d` behind a flat number.
-/

namespace Skirmish

/-- A run of characters ends where a text goes on without them. -/
theorem Text.run_append {stays : Char → Bool} {run rest : Text}
    (hrun : ∀ character ∈ run, stays character = true)
    (hrest : ∀ character ∈ rest.head?, stays character = false) :
    (run ++ rest).takeWhile stays = run ∧ (run ++ rest).dropWhile stays = rest := by
  rw [List.takeWhile_append_of_pos hrun, List.dropWhile_append_of_pos hrun]
  cases rest with
  | nil => exact ⟨List.append_nil run, rfl⟩
  | cons first rest =>
      have hfirst : stays first = false := hrest first rfl
      rw [List.takeWhile_cons, List.dropWhile_cons, hfirst]
      exact ⟨List.append_nil run, rfl⟩

/-- What stands behind the longest run does not go on with it. -/
theorem Text.head?_dropWhile (stays : Char → Bool) (text : Text) :
    ∀ character ∈ (text.dropWhile stays).head?, stays character = false := by
  intro character hmem
  have hhead := List.head?_dropWhile_not stays text
  rwa [hmem] at hhead

theorem isDigit_eq_false_of_isLower {character : Char} (hlower : character.isLower = true) :
    character.isDigit = false := by
  rw [Bool.eq_false_iff]
  intro hdigit
  have hmost : character.toNat ≤ 57 := (Char.isDigit_iff_toNat.1 hdigit).2
  have hleast := (Text.isLower_iff.1 hlower).1
  omega

namespace Amount

/-- Whether a text writes an amount whose figures may be typed. -/
inductive Written : Text → Amount → Prop
  | dice {count sides : Text} {number faces : Nat} (hcount : Decimal.Written count number)
      (hsides : Decimal.Written sides faces)
      (hlimits : number ≤ maxDicePerTerm ∧ faces ≤ maxSides) :
      Written (count ++ 'd' :: sides) (.dice number faces)
  | flat {figure : Text} {value : Nat} (hfigure : Decimal.Written figure value)
      (hlimit : (value : Int) ≤ maxFlat) : Written figure (.flat value)

/-- Whether a text does not go on with the figures of an amount before it. -/
def EndsBefore (amount : Amount) (rest : Text) : Prop :=
  ∀ character ∈ rest.head?, character.isDigit = false ∧ (amount.isDice = false → character ≠ 'd')

theorem dice?_eq_some_iff {count sides : Text} {amount : Amount}
    (hcount : Sign.Unsigned count) (hsides : Sign.Unsigned sides) :
    dice? count sides = some amount ↔
      ∃ number faces, amount = .dice number faces ∧ Decimal.Written count number ∧
        Decimal.Written sides faces ∧ number ≤ maxDicePerTerm ∧ faces ≤ maxSides := by
  have hcounts : ∀ {text : Text}, Sign.Unsigned text →
      readCount? text = Decimal.readNat? text := by
    intro text htext
    rw [readCount?.eq_def]
    split
    · cases htext '+' List.mem_cons_self
    · rfl
  simp only [dice?, hcounts hcount, hcounts hsides, Option.bind_eq_bind, Option.bind_eq_some_iff,
    Decimal.readNat?_eq_some_iff]
  constructor
  · rintro ⟨number, hnumber, faces, hfaces, hread⟩
    split at hread
    · next hlimits => exact ⟨number, faces, (Option.some.inj hread).symm, hnumber, hfaces, hlimits⟩
    · cases hread
  · rintro ⟨number, faces, rfl, hnumber, hfaces, hlimits⟩
    exact ⟨number, hnumber, faces, hfaces, if_pos hlimits⟩

theorem flat?_eq_some_iff {figure : Text} {amount : Amount} (hfigure : Sign.Unsigned figure) :
    flat? figure = some amount ↔
      ∃ value : Nat, amount = .flat value ∧ Decimal.Written figure value ∧
        (value : Int) ≤ maxFlat := by
  have hdigits : Decimal.readInt? figure =
      (Decimal.readNat? figure).map fun value : Nat => (value : Int) := by
    rw [Decimal.readInt?.eq_def]
    split
    · cases hfigure '-' List.mem_cons_self
    · cases hfigure '+' List.mem_cons_self
    · cases Decimal.readNat? figure <;> rfl
  have hlowest : Points.lowest ≤ 0 := by decide
  rw [flat?, hdigits]
  constructor
  · intro hread
    obtain ⟨value, hvalue, hlimits⟩ := Option.bind_eq_some_iff.1 hread
    obtain ⟨magnitude, hmagnitude, rfl⟩ := Option.map_eq_some_iff.1 hvalue
    split at hlimits
    · next hle =>
      exact ⟨magnitude, (Option.some.inj hlimits).symm,
        Decimal.readNat?_eq_some_iff.1 hmagnitude, hle.2⟩
    · cases hlimits
  · rintro ⟨value, rfl, hwritten, hlimit⟩
    rw [Decimal.readNat?_eq_some_iff.2 hwritten]
    exact if_pos ⟨Int.le_trans hlowest (Int.natCast_nonneg value), hlimit⟩

/-- The start of a text is read as the amount that it writes, if the rest does not go on with it. -/
theorem scan?_eq_some_iff {text rest : Text} {amount : Amount} :
    scan? text = some (amount, rest) ↔
      ∃ written, Written written amount ∧ text = written ++ rest ∧ amount.EndsBefore rest := by
  constructor
  · intro hscan
    have hwhole : text.takeWhile Char.isDigit ++ text.dropWhile Char.isDigit = text :=
      List.takeWhile_append_dropWhile
    have hbehind := Text.head?_dropWhile Char.isDigit text
    simp only [scan?] at hscan
    split at hscan
    · next more hdrop =>
      obtain ⟨found, hread, heq⟩ := Option.map_eq_some_iff.1 hscan
      obtain ⟨rfl, rfl⟩ := Prod.mk.inj heq
      obtain ⟨number, faces, rfl, hcount, hsides, hlimits⟩ :=
        (dice?_eq_some_iff (Sign.unsigned_takeWhile text) (Sign.unsigned_takeWhile more)).1 hread
      refine ⟨_, .dice hcount hsides hlimits, ?_, ?_⟩
      · rw [List.append_assoc, List.cons_append, List.takeWhile_append_dropWhile, ← hdrop, hwhole]
      · intro character hmem
        exact ⟨Text.head?_dropWhile Char.isDigit more character hmem, fun hflat => by cases hflat⟩
    · next hnot =>
      obtain ⟨found, hread, heq⟩ := Option.map_eq_some_iff.1 hscan
      obtain ⟨rfl, rfl⟩ := Prod.mk.inj heq
      obtain ⟨value, rfl, hfigure, hlimit⟩ :=
        (flat?_eq_some_iff (Sign.unsigned_takeWhile text)).1 hread
      refine ⟨_, .flat hfigure hlimit, hwhole.symm, ?_⟩
      intro character hmem
      refine ⟨hbehind character hmem, ?_⟩
      rintro - rfl
      obtain ⟨more, hmore⟩ := List.head?_eq_some_iff.1 hmem
      exact hnot more hmore
  · rintro ⟨written, hwritten, rfl, hends⟩
    cases hwritten with
    | @dice count sides number faces hcount hsides hlimits =>
        have hletter : ∀ character ∈ ('d' :: (sides ++ rest)).head?,
            character.isDigit = false := by simp
        obtain ⟨htake, hdrop⟩ := Text.run_append hcount.isDigit hletter
        obtain ⟨htake', hdrop'⟩ :=
          Text.run_append hsides.isDigit fun character hmem => (hends character hmem).1
        have hread := (dice?_eq_some_iff hcount.unsigned hsides.unsigned).2
          ⟨number, faces, rfl, hcount, hsides, hlimits⟩
        simp only [scan?, List.append_assoc, List.cons_append, htake, hdrop, htake', hdrop', hread,
          Option.map_some]
    | @flat _ value hfigure hlimit =>
        obtain ⟨htake, hdrop⟩ :=
          Text.run_append hfigure.isDigit fun character hmem => (hends character hmem).1
        have hread := (flat?_eq_some_iff hfigure.unsigned).2 ⟨value, rfl, hfigure, hlimit⟩
        have hnot : ∀ more, rest ≠ 'd' :: more := by
          rintro more rfl
          exact (hends 'd' rfl).2 rfl rfl
        simp only [scan?, htake, hdrop, hread, Option.map_some]

theorem read?_eq_some_iff {text : Text} {amount : Amount} :
    read? text = some amount ↔ Written text amount := by
  have hread : read? text = some amount ↔ scan? text = some (amount, []) := by
    cases hscan : scan? text with
    | none => simp [read?, hscan]
    | some found =>
        obtain ⟨found, rest⟩ := found
        cases rest <;> simp [read?, hscan]
  rw [hread, scan?_eq_some_iff]
  constructor
  · rintro ⟨written, hwritten, rfl, -⟩
    rwa [List.append_nil]
  · intro hwritten
    exact ⟨text, hwritten, (List.append_nil text).symm, fun _ hmem => by cases hmem⟩

theorem written_write {amount : Amount} (hlimits : amount.KeepsLimits) :
    Written amount.write amount := by
  cases amount with
  | dice count sides =>
      exact .dice (Decimal.written_ofNat count) (Decimal.written_ofNat sides) hlimits
  | flat value =>
      obtain ⟨figure, rfl⟩ := Int.eq_ofNat_of_zero_le hlimits.1
      exact .flat (Decimal.written_ofNat figure) hlimits.2

/-- An amount is made of digits and the letter of dice. -/
theorem Written.isDigit_or_eq {text : Text} {amount : Amount} (hwritten : Written text amount) :
    ∀ character ∈ text, character.isDigit = true ∨ character = 'd' := by
  have hfigure : ∀ {digits : Text} {value : Nat}, Decimal.Written digits value →
      ∀ character ∈ digits, character.isDigit = true ∨ character = 'd' :=
    fun hdigits character hmem => .inl (hdigits.isDigit character hmem)
  cases hwritten with
  | dice hcount hsides _ =>
      exact List.forall_mem_append.2
        ⟨hfigure hcount, List.forall_mem_cons.2 ⟨.inr rfl, hfigure hsides⟩⟩
  | flat hvalue _ => exact hfigure hvalue

/-- An amount starts with a digit. -/
theorem Written.exists_cons {text : Text} {amount : Amount} (hwritten : Written text amount) :
    ∃ digit rest, text = digit :: rest ∧ digit.isDigit = true := by
  have hfigure : ∀ {digits : Text} {value : Nat}, Decimal.Written digits value →
      ∃ digit rest, digits = digit :: rest ∧ digit.isDigit = true := by
    intro digits value hdigits
    obtain ⟨hne, hall, -⟩ := Decimal.written_iff.1 hdigits
    obtain ⟨digit, rest, rfl⟩ := List.exists_cons_of_ne_nil hne
    exact ⟨digit, rest, rfl, hall digit List.mem_cons_self⟩
  cases hwritten with
  | dice hcount _ _ =>
      obtain ⟨digit, rest, rfl, hdigit⟩ := hfigure hcount
      exact ⟨digit, _, List.cons_append, hdigit⟩
  | flat hvalue _ => exact hfigure hvalue

/-- There is no sign in an amount. -/
theorem Written.unsigned {text : Text} {amount : Amount} (hwritten : Written text amount) :
    Sign.Unsigned text := by
  cases hwritten with
  | dice hcount hsides _ =>
      exact List.forall_mem_append.2
        ⟨hcount.unsigned, List.forall_mem_cons.2 ⟨rfl, hsides.unsigned⟩⟩
  | flat hfigure _ => exact hfigure.unsigned

end Amount

end Skirmish
