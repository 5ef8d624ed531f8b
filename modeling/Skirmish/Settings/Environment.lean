import Skirmish.Settings.File

/-!
# Settings in the environment

An environment variable makes a setting when its name is that of the setting behind a common
beginning, in letters of any case. Its value is read as a flag, a number, a quoted string, a list in
brackets or a group in braces. A value that does not end where such a reading ends is a text as it
stands.
-/

namespace Skirmish.SettingsEnvironment

def nameStart : Text := "quickdice_".toList

/-- The name of the setting that a variable makes. Blanks around the name of a variable do not
count, and dots divide it up to the first part that is empty. -/
def settingName? (variableName : Text) : Option DottedName := do
  let name ← nameStart.isPrefixOf? ((Text.trim variableName).map Char.toLower)
  match (name.splitOn '.').takeWhile (!·.isEmpty) with
  | first :: inner => some ⟨first, inner⟩
  | [] => none

/-- The blanks that may stand around a value. -/
def isGap (character : Char) : Bool :=
  character == ' ' || character == '\t' || character == '\n' || character == '\x0c' ||
    character == '\r'

def isSeparator (character : Char) : Bool :=
  character == ',' || character == '{' || character == '}' || character == '[' ||
    character == ']'

/-- Whether a text is what may follow the digits of a number with a decimal point: nothing, or an
exponent. -/
def isExponent (text : Text) : Bool :=
  match text with
  | [] => true
  | mark :: rest =>
    let digits := SettingsFile.withoutSign rest
    (mark == 'e' || mark == 'E') && !digits.isEmpty && digits.all Char.isDigit

/-- Whether a text is a number with a decimal point, which needs a digit on one side of it. -/
def isFraction (text : Text) : Bool :=
  let unsigned := SettingsFile.withoutSign text
  match unsigned.dropWhile Char.isDigit with
  | '.' :: rest =>
    (unsigned.head?.any Char.isDigit || rest.head?.any Char.isDigit) &&
      isExponent (rest.dropWhile Char.isDigit)
  | _ => false

example : isFraction "-.5E+2".toList = true ∧ isFraction "1.2.3".toList = false := by decide

/-- The integer that a text looks like: an unsigned one of 64 bits, or a negative one. -/
def integer? (text : Text) : Option Int :=
  (Decimal.readInt? text).filter fun value => Points.lowest ≤ value && value < UInt64.size

def plainValue (text : Text) : SettingValue :=
  if isFraction text then .other
  else
    match integer? text with
    | some value => .integer value
    | none => .text text

def flag? (text : Text) : Option (SettingValue × Text) :=
  match "true".toList.isPrefixOf? text, "false".toList.isPrefixOf? text with
  | some after, _ => some (.flag true, after)
  | none, some after => some (.flag false, after)
  | none, none => none

/-- The text after the name of a member of a group. -/
def afterMemberName? (text : Text) : Option Text :=
  match text with
  | '"' :: rest => (Quoted.double? false false rest).map Prod.snd
  | _ =>
    if text.head?.any SettingsFile.isNameCharacter then
      some (text.dropWhile SettingsFile.isNameCharacter)
    else none

mutual

/-- The value at the start of a text, and the text after it and its gaps. The reading goes at most
`depth` steps. -/
def value? (depth : Nat) (text : Text) : Option (SettingValue × Text) :=
  match depth with
  | 0 => none
  | depth + 1 => do
    let (value, after) ←
      match text.dropWhile isGap with
      | '{' :: rest => (afterGroup? depth rest).map fun after => (.other, after)
      | '[' :: rest => (afterList? depth rest).map fun after => (.other, after)
      | '"' :: rest => (Quoted.double? false false rest).map fun (value, after) =>
        (.text value, after)
      | '\'' :: character :: '\'' :: rest => some (.text [character], rest)
      | '\'' :: _ => none
      | text =>
        (flag? text).or
          (some (plainValue (Text.trim (text.takeWhile (!isSeparator ·))),
            text.dropWhile (!isSeparator ·)))
    return (value, after.dropWhile isGap)

/-- The text after the rest of a list. -/
def afterList? (depth : Nat) (text : Text) : Option Text :=
  match depth, text with
  | 0, _ => none
  | _, ']' :: rest => some rest
  | depth + 1, text => do
    let (_, after) ← value? depth text
    match after with
    | ',' :: rest => afterList? depth rest
    | ']' :: rest => some rest
    | _ => none

/-- The text after the rest of a group. -/
def afterGroup? (depth : Nat) (text : Text) : Option Text :=
  match depth, text with
  | 0, _ => none
  | _, '}' :: rest => some rest
  | depth + 1, text => do
    match (← afterMemberName? (text.dropWhile isGap)).dropWhile isGap with
    | '=' :: rest =>
      let (_, after) ← value? depth rest
      match after with
      | ',' :: rest => afterGroup? depth rest
      | '}' :: rest => some rest
      | _ => none
    | _ => none

end

def value (text : Text) : SettingValue :=
  match value? (2 * text.length + 1) text with
  | some (value, []) => value
  | _ => .text text

example : value " trueish ".toList = .text " trueish ".toList := by decide +kernel

example : value "[1, [true]] ".toList = .other := by decide +kernel

/-- The assignments that variables make, the last variable first: of several variables for one
setting the last one counts. -/
def read (environment : List (Text × Text)) : Assignments :=
  (environment.filterMap fun (name, text) =>
    (settingName? name).map fun setting => setting.assignment (value text)).reverse

end Skirmish.SettingsEnvironment
