import Skirmish.Text.Basic

/-!
# ASCII letters

The points of the ASCII letters, and what becomes of them when a text is folded to small letters.
Folding leaves all other characters alone.
-/

namespace Skirmish.Text

variable {character : Char}

theorem isUpper_iff : character.isUpper = true ↔ 65 ≤ character.toNat ∧ character.toNat ≤ 90 := by
  change decide (65 ≤ character.val ∧ character.val ≤ 90) = true ↔ _
  simp [UInt32.le_iff_toNat_le]

theorem isLower_iff : character.isLower = true ↔ 97 ≤ character.toNat ∧ character.toNat ≤ 122 := by
  change (decide (97 ≤ character.val) && decide (character.val ≤ 122)) = true ↔ _
  simp [UInt32.le_iff_toNat_le]

theorem isAlpha_iff : character.isAlpha = true ↔
    (65 ≤ character.toNat ∧ character.toNat ≤ 90) ∨
      (97 ≤ character.toNat ∧ character.toNat ≤ 122) := by
  rw [← isUpper_iff, ← isLower_iff]
  exact Bool.or_eq_true_iff

theorem isAlpha_of_isLower (hlower : character.isLower = true) : character.isAlpha = true :=
  isAlpha_iff.2 (.inr (isLower_iff.1 hlower))

theorem toLower_of_not_isUpper (hupper : character.isUpper ≠ true) :
    character.toLower = character :=
  dif_neg fun hcapital => hupper (decide_eq_true hcapital)

/-- A small letter has its point 32 places after that of its capital. -/
theorem toNat_toLower_of_isUpper (hupper : character.isUpper = true) :
    character.toLower.toNat = character.toNat + 32 := by
  have hpoints := isUpper_iff.1 hupper
  have hlowered : character.toLower.toNat = (character.val + 32).toNat :=
    congrArg Char.toNat (dif_pos (of_decide_eq_true hupper))
  have hsum : (character.val + 32).toNat = (character.toNat + 32) % 4294967296 :=
    UInt32.toNat_add ..
  rw [hlowered, hsum, Nat.mod_eq_of_lt (by omega)]

theorem toLower_of_isLower (hlower : character.isLower = true) :
    character.toLower = character := by
  apply toLower_of_not_isUpper
  intro hupper
  have hsmall := isLower_iff.1 hlower
  have hcapital := isUpper_iff.1 hupper
  omega

theorem isLower_toLower_of_isUpper (hupper : character.isUpper = true) :
    character.toLower.isLower = true := by
  have hpoints := isUpper_iff.1 hupper
  rw [isLower_iff, toNat_toLower_of_isUpper hupper]
  omega

/-- Folding keeps a character, or makes a small letter of a capital. -/
theorem toLower_cases (character : Char) :
    character.toLower = character ∨
      character.isAlpha = true ∧ character.toLower.isLower = true := by
  by_cases hupper : character.isUpper = true
  · exact .inr ⟨isAlpha_iff.2 (.inl (isUpper_iff.1 hupper)), isLower_toLower_of_isUpper hupper⟩
  · exact .inl (toLower_of_not_isUpper hupper)

end Skirmish.Text
