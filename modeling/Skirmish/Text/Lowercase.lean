import Skirmish.Text.Blank
import Skirmish.Text.Cased
import Skirmish.Text.CaseIgnorable
import Skirmish.Text.SmallLetter

/-!
# Lowercase text

Full lowercase of a text. Two capitals are not settled by the letter alone: the dotted capital I
becomes two characters, and a capital sigma becomes the final form when it ends a word, which means
that a cased letter stands before it and none after it, looking past case-ignorable characters.
-/

namespace Skirmish.Text

/-- Whether the first character that casing does not look past is a cased letter. -/
def meetsCased (text : Text) : Bool :=
  match text.dropWhile isCaseIgnorable with
  | [] => false
  | character :: _ => isCased character

/-- The lowercase of one character between what stands before it, nearest first, and what
stands after it. -/
def lowerCharacter (before : Text) (character : Char) (after : Text) : Text :=
  if character = 'Σ' then
    if meetsCased before && !meetsCased after then ['ς'] else ['σ']
  else if character = 'İ' then ['i', '\u0307']
  else [smallLetter character]

/-- The lowercase of a text that follows `before`, given nearest character first. -/
def lowerAfter (before : Text) : Text → Text
  | [] => []
  | character :: after =>
    lowerCharacter before character after ++ lowerAfter (character :: before) after

def lower (text : Text) : Text :=
  lowerAfter [] text

example : lower "ΟΔΟΣ 1D6".toList = "οδος 1d6".toList := by decide +kernel

theorem lowerCharacter_ascii (before after : Text) (character : Char)
    (hascii : character.toNat < 128) :
    lowerCharacter before character after = [character.toLower] := by
  have hsigma : character ≠ 'Σ' := by rintro rfl; revert hascii; decide
  have hdotted : character ≠ 'İ' := by rintro rfl; revert hascii; decide
  simp [lowerCharacter, hsigma, hdotted, smallLetter, hascii]

end Skirmish.Text
