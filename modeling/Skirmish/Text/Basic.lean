/-!
# Text

Commands, names and messages are kept as their list of characters. A recogniser is then a recursion
on the list, and an equation about it is an equation between lists.
-/

namespace Skirmish

/-- A text, character by character. -/
abbrev Text := List Char

end Skirmish
