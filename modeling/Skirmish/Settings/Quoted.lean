import Skirmish.Text.Digit

/-!
# Quoted strings

A string in double quotes knows escapes, and a string in single quotes stands for itself. A string
in three quotes is a long one: it may go over several lines, and shorter runs of its quotes belong
to it. A line end right after the opening quotes of a long string does not count.
-/

namespace Skirmish.Quoted

/-- The blanks that may stand in a line. -/
def isGap (character : Char) : Bool :=
  character == ' ' || character == '\t'

/-- Whether a character may stand in a string or a comment as it is: any but the control
characters besides the tab. -/
def isPlain (character : Char) : Bool :=
  character == '\t' || (32 ≤ character.toNat && character.toNat ≠ 127)

def afterLineEnd? : Text → Option Text
  | '\n' :: rest => some rest
  | '\r' :: '\n' :: rest => some rest
  | _ => none

/-- The character of a code point given in hexadecimal digits. -/
def codePoint? (digits : Text) : Option Char := do
  let point ← Text.numberIn? 16 digits
  if point.isValidChar then some (Char.ofNat point) else none

def escaped? : Char → Option Char
  | '"' => some '"'
  | '\\' => some '\\'
  | 'b' => some '\x08'
  | 't' => some '\t'
  | 'n' => some '\n'
  | 'f' => some '\x0c'
  | 'r' => some '\r'
  | _ => none

def put (character : Char) (string : Option (Text × Text)) : Option (Text × Text) :=
  string.map fun (text, after) => (character :: text, after)

/-- What a long string takes in behind its closing quotes: up to two more of them. -/
def closing (quote : Char) (text : Text) : Text × Text :=
  let more := (text.takeWhile (· == quote)).take 2
  (more, text.drop more.length)

/-- The rest of a string in double quotes, and the text after it. A backslash at the end of a line
of a long string joins the next line to it: the reading is then `joining` until something other
than blanks and line ends comes. -/
def double? (long joining : Bool) : Text → Option (Text × Text)
  | [] => none
  | '"' :: rest =>
    if long then
      match rest with
      | '"' :: '"' :: after => some (closing '"' after)
      | _ => put '"' (double? long false rest)
    else some ([], rest)
  | '\\' :: 'u' :: a :: b :: c :: d :: rest => do
    put (← codePoint? [a, b, c, d]) (double? long false rest)
  | '\\' :: 'U' :: a :: b :: c :: d :: e :: f :: g :: h :: rest => do
    put (← codePoint? [a, b, c, d, e, f, g, h]) (double? long false rest)
  | '\\' :: character :: rest =>
    match escaped? character with
    | some meant => put meant (double? long false rest)
    | none =>
      if long && (afterLineEnd? ((character :: rest).dropWhile isGap)).isSome then
        double? long true (character :: rest)
      else none
  | '\r' :: '\n' :: rest =>
    if !long then none
    else if joining then double? long true rest
    else put '\n' (double? long false rest)
  | '\n' :: rest =>
    if !long then none
    else if joining then double? long true rest
    else put '\n' (double? long false rest)
  | character :: rest =>
    if joining && isGap character then double? long true rest
    else if isPlain character then put character (double? long false rest)
    else none

/-- The rest of a string in single quotes, and the text after it. -/
def single? (long : Bool) : Text → Option (Text × Text)
  | [] => none
  | '\'' :: rest =>
    if long then
      match rest with
      | '\'' :: '\'' :: after => some (closing '\'' after)
      | _ => put '\'' (single? long rest)
    else some ([], rest)
  | '\r' :: '\n' :: rest => if long then put '\n' (single? long rest) else none
  | '\n' :: rest => if long then put '\n' (single? long rest) else none
  | character :: rest => if isPlain character then put character (single? long rest) else none

/-- The text after a line end, if there is one, and the text itself otherwise. -/
def afterFirstLineEnd (text : Text) : Text :=
  (afterLineEnd? text).getD text

/-- The string of any kind at the start of a text, and the text after it. -/
def string? (text : Text) : Option (Text × Text) :=
  match text with
  | '"' :: '"' :: '"' :: rest => double? true false (afterFirstLineEnd rest)
  | '"' :: rest => double? false false rest
  | '\'' :: '\'' :: '\'' :: rest => single? true (afterFirstLineEnd rest)
  | '\'' :: rest => single? false rest
  | _ => none

example : string? "\"a\\u0062\"c".toList = some ("ab".toList, "c".toList) := by decide

example : string? "'''a'b''''c".toList = some ("a'b'".toList, "c".toList) := by decide

example : string? "\"\"\"a \\\n  b\"\"\"".toList = some ("a b".toList, []) := by decide

end Skirmish.Quoted
