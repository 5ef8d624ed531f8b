import Skirmish.Text.Basic

/-!
# Blank characters

The blank characters are those with the Unicode property `White_Space`. Spacing carries no meaning
in a command, and `withoutBlanks` is the text that is left when it is gone.
-/

namespace Skirmish.Text

/-- The characters with the Unicode property `White_Space`. -/
def isBlank (character : Char) : Bool :=
  let point := character.toNat
  (0x9 ≤ point && point ≤ 0xD) || point == 0x20 || point == 0x85 || point == 0xA0 ||
    point == 0x1680 || (0x2000 ≤ point && point ≤ 0x200A) || point == 0x2028 ||
    point == 0x2029 || point == 0x202F || point == 0x205F || point == 0x3000

/-- The text without its blank characters. -/
def withoutBlanks (text : Text) : Text :=
  text.filter fun character => !isBlank character

/-- The text without the blanks before its first and after its last other character. -/
def trim (text : Text) : Text :=
  ((text.dropWhile isBlank).reverse.dropWhile isBlank).reverse

@[simp]
theorem withoutBlanks_append (left right : Text) :
    withoutBlanks (left ++ right) = withoutBlanks left ++ withoutBlanks right :=
  List.filter_append ..

end Skirmish.Text
