import Mathlib.Data.List.Basic
import Skirmish.Command.Basic
import Skirmish.Proofs.Text.Letters

/-!
# Spelling does not matter

A command may be typed with any spacing, and in small letters or capitals.  What a capital sigma
becomes depends on its neighbours, but only on whether these are cased and whether casing looks past
them, and every ASCII letter is cased and not looked past.  So texts that fall together once their
blanks are gone and their ASCII capitals are small letters have one normal form, and they are the
same command or fail for the same reason.
-/

namespace Skirmish

namespace Text

/-- The text without its blanks, with small letters for its ASCII capitals. -/
def folded (text : Text) : Text :=
  (withoutBlanks text).map Char.toLower

section AsciiLetters

variable {character : Char}

theorem toNat_lt_of_isAlpha (hletter : character.isAlpha = true) : character.toNat < 128 := by
  have hpoints := isAlpha_iff.1 hletter
  omega

theorem isCased_of_isAlpha (hletter : character.isAlpha = true) : isCased character = true := by
  rw [isCased, List.any_eq_true]
  rcases isAlpha_iff.1 hletter with hcapital | hsmall
  · exact ⟨(0x41, 0x5A), by decide, by simpa using hcapital⟩
  · exact ⟨(0x61, 0x7A), by decide, by simpa using hsmall⟩

theorem caseIgnorableRanges_avoid_letters :
    (caseIgnorableRanges.all fun range =>
      range.2.blt 65 || Nat.blt 90 range.1 && range.2.blt 97 || Nat.blt 122 range.1) = true := by
  decide +kernel

theorem isCaseIgnorable_of_isAlpha (hletter : character.isAlpha = true) :
    isCaseIgnorable character = false := by
  rw [isCaseIgnorable, List.any_eq_false]
  intro range hmem hinside
  have havoids := List.all_eq_true.1 caseIgnorableRanges_avoid_letters range hmem
  have hpoints := isAlpha_iff.1 hletter
  simp only [Bool.or_eq_true, Bool.and_eq_true, Nat.blt_eq, decide_eq_true_eq] at havoids hinside
  omega

/-- An answer that all ASCII letters give alike is not changed by the letter case. -/
theorem apply_toLower {α : Type} {answer : Char → α} {common : α}
    (hletters : ∀ {letter : Char}, letter.isAlpha = true → answer letter = common)
    (character : Char) : answer character.toLower = answer character := by
  rcases toLower_cases character with hself | ⟨hletter, hlowered⟩
  · rw [hself]
  · rw [hletters hletter, hletters (isAlpha_of_isLower hlowered)]

end AsciiLetters

/-- Casing meets a cased letter in a text whatever the case of the ASCII letters. -/
theorem meetsCased_map_toLower (text : Text) :
    meetsCased (text.map Char.toLower) = meetsCased text := by
  have hignorable : isCaseIgnorable ∘ Char.toLower = isCaseIgnorable :=
    funext (apply_toLower isCaseIgnorable_of_isAlpha)
  rw [meetsCased, meetsCased, List.dropWhile_map, hignorable]
  cases text.dropWhile isCaseIgnorable with
  | nil => rfl
  | cons character rest => exact apply_toLower isCased_of_isAlpha character

theorem lowerCharacter_toLower (before : Text) (character : Char) (after : Text) :
    lowerCharacter (before.map Char.toLower) character.toLower (after.map Char.toLower) =
      lowerCharacter before character after := by
  rcases toLower_cases character with hself | ⟨hletter, hlowered⟩
  · -- Only a capital sigma looks at its surroundings, and what it meets there is the same.
    rw [hself, lowerCharacter, lowerCharacter, meetsCased_map_toLower, meetsCased_map_toLower]
  · rw [lowerCharacter_ascii _ _ _ (toNat_lt_of_isAlpha (isAlpha_of_isLower hlowered)),
      lowerCharacter_ascii _ _ _ (toNat_lt_of_isAlpha hletter), toLower_of_isLower hlowered]

theorem lowerAfter_map_toLower (before text : Text) :
    lowerAfter (before.map Char.toLower) (text.map Char.toLower) = lowerAfter before text := by
  induction text generalizing before with
  | nil => rfl
  | cons character after ih =>
      rw [List.map_cons, lowerAfter, lowerAfter, lowerCharacter_toLower, ← List.map_cons, ih]

end Text

/-- The normal form is found from the folded text. -/
theorem normalize_eq_lower_folded (input : Text) :
    normalize input = Text.lower (Text.folded input) :=
  (Text.lowerAfter_map_toLower [] (Text.withoutBlanks input)).symm

namespace Command

/-- Texts that differ only in their blanks and in the case of their ASCII letters are the same
command, or are rejected for the same reason. -/
theorem parse_eq_of_folded {left right : Text} (hsame : Text.folded left = Text.folded right) :
    parse left = parse right := by
  rw [parse, parse, normalize_eq_lower_folded, normalize_eq_lower_folded, hsame]

/-- The blanks cut the keyword and the name, and without them the sigma does not end a word. -/
theorem parse_eq_of_folded_sigma :
    let left := "1 n s A ve  xΣ\tY".toList
    let right := "1NSAVEXΣy".toList
    Text.folded left = Text.folded right ∧ parse left = parse right ∧
      parse right = .error (.invalidName .save "xσy".toList) := by
  have hsame : Text.folded "1 n s A ve  xΣ\tY".toList = Text.folded "1NSAVEXΣy".toList := by
    decide
  exact ⟨hsame, parse_eq_of_folded hsame, by decide +kernel⟩

end Command

end Skirmish
