import Skirmish.Text.Decimal

/-!
# Numerals

A run of digits writes a number when it is the decimal text of the number behind any number of
zeros.  These are all the texts that are read as the number, so a run of at least one digit always
writes exactly one.
-/

namespace Skirmish.Decimal

/-- Whether digits write a number: leading zeros, and the decimal text of the number. -/
def Written (digits : Text) (value : Nat) : Prop :=
  ∃ zeros, digits = List.replicate zeros '0' ++ ofNat value

theorem written_ofNat (value : Nat) : Written (ofNat value) value :=
  ⟨0, rfl⟩

/-- A digit is the decimal text of its value. -/
theorem ofNat_of_isDigit {digit : Char} (hdigit : digit.isDigit = true) :
    digit.toNat - '0'.toNat < 10 ∧ ofNat (digit.toNat - '0'.toNat) = [digit] := by
  have hpoints : ∀ point < 58, 48 ≤ point → ofNat (point - '0'.toNat) = [Char.ofNat point] := by
    decide +kernel
  have hrange : 48 ≤ digit.toNat ∧ digit.toNat ≤ 57 := Char.isDigit_iff_toNat.1 hdigit
  have hzero : '0'.toNat = 48 := rfl
  refine ⟨by omega, ?_⟩
  rw [hpoints digit.toNat (by omega) hrange.1, Char.ofNat_toNat]

/-- Digits behind a number without leading zeros go on with its decimal text. -/
theorem ofNat_append {value : Nat} {digits : Text} (hpos : 0 < value)
    (hdigits : ∀ character ∈ digits, character.isDigit = true) :
    ofNat value ++ digits = ofNat (Nat.ofDigitChars 10 digits value) := by
  induction digits generalizing value with
  | nil => rw [List.append_nil, Nat.ofDigitChars_nil]
  | cons digit digits ih =>
      obtain ⟨hdigit, hrest⟩ := List.forall_mem_cons.1 hdigits
      obtain ⟨hsmall, htext⟩ := ofNat_of_isDigit hdigit
      have hnext : ofNat value ++ [digit] = ofNat (10 * value + (digit.toNat - '0'.toNat)) := by
        rw [← htext]
        exact Nat.toDigits_append_toDigits (by decide) hpos hsmall
      calc
        ofNat value ++ digit :: digits = (ofNat value ++ [digit]) ++ digits := by
          rw [List.append_assoc, List.singleton_append]
        _ = ofNat (Nat.ofDigitChars 10 (digit :: digits) value) := by
          rw [hnext, ih (by omega) hrest, Nat.ofDigitChars_cons]

theorem written_of_digits {digits : Text} (hne : digits ≠ [])
    (hdigits : ∀ character ∈ digits, character.isDigit = true) :
    Written digits (Nat.ofDigitChars 10 digits 0) := by
  induction digits with
  | nil => exact absurd rfl hne
  | cons digit digits ih =>
      obtain ⟨hdigit, hrest⟩ := List.forall_mem_cons.1 hdigits
      rw [Nat.ofDigitChars_cons, Nat.mul_zero, Nat.zero_add]
      by_cases hzero : digit = '0'
      · obtain rfl := hzero
        by_cases hlast : digits = []
        · rw [hlast]
          exact written_ofNat 0
        · obtain ⟨zeros, heq⟩ := ih hlast hrest
          exact ⟨zeros + 1, congrArg ('0' :: ·) heq⟩
      · have hvalue : 0 < digit.toNat - '0'.toNat := by
          have hne : digit.toNat ≠ '0'.toNat := fun heq => hzero (Char.toNat_inj.1 heq)
          have hleast : '0'.toNat ≤ digit.toNat := (Char.isDigit_iff_toNat.1 hdigit).1
          omega
        refine ⟨0, ?_⟩
        rw [← ofNat_append hvalue hrest, (ofNat_of_isDigit hdigit).2]
        rfl

/-- The texts that write a number are the runs of digits with its value. -/
theorem written_iff {digits : Text} {value : Nat} :
    Written digits value ↔ digits ≠ [] ∧ (∀ character ∈ digits, character.isDigit = true) ∧
      Nat.ofDigitChars 10 digits 0 = value := by
  constructor
  · rintro ⟨zeros, rfl⟩
    refine ⟨by simp, ?_, ?_⟩
    · rw [List.forall_mem_append]
      refine ⟨?_, fun character hmem => isDigit_of_mem_ofNat hmem⟩
      intro character hmem
      rw [(List.mem_replicate.1 hmem).2]
      rfl
    · rw [Nat.ofDigitChars_append, Nat.ofDigitChars_replicate_zero, Nat.mul_zero, ofNat,
        Nat.ofDigitChars_ten_toDigits]
  · rintro ⟨hne, hdigits, rfl⟩
    exact written_of_digits hne hdigits

theorem Written.isDigit {digits : Text} {value : Nat} (hwritten : Written digits value) :
    ∀ character ∈ digits, character.isDigit = true :=
  (written_iff.1 hwritten).2.1

/-- A text is read as a number exactly when it writes the number. -/
theorem readNat?_eq_some_iff {text : Text} {value : Nat} :
    readNat? text = some value ↔ Written text value := by
  rw [written_iff, readNat?]
  constructor
  · intro hread
    split at hread
    · next hdigits => exact ⟨hdigits.1, List.all_eq_true.1 hdigits.2, Option.some.inj hread⟩
    · cases hread
  · rintro ⟨hne, hdigits, rfl⟩
    rw [if_pos ⟨hne, List.all_eq_true.2 hdigits⟩]

end Skirmish.Decimal
