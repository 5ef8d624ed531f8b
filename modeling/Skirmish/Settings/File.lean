import Skirmish.Points
import Skirmish.Settings.Basic
import Skirmish.Settings.Quoted

/-!
# Settings files

A settings file has one assignment on a line, `name = value`, where the value is a quoted string, a
number, `true` or `false`. A name may have several parts with dots between them. Blank lines count
for nothing, and neither does anything after a `#` that stands outside of a string.
-/

namespace Skirmish.SettingsFile

open Quoted

/-- The characters of a name that needs no quotes. -/
def isNameCharacter (character : Char) : Bool :=
  character.isAlphanum || character == '_' || character == '-'

/-- The number of digits in a base, at least one; a single underscore may stand between two. -/
def digitsIn? (base : Nat) : Text → Option Nat
  | [] => none
  | first :: rest => do
    let start ← Text.digitIn? base first
    go start rest
where
  go (value : Nat) : Text → Option Nat
    | [] => some value
    | '_' :: next :: rest => do go (value * base + (← Text.digitIn? base next)) rest
    | next :: rest => do go (value * base + (← Text.digitIn? base next)) rest

/-- A number in decimal digits without leading zeros. -/
def decimal? (text : Text) : Option Nat :=
  match text with
  | '0' :: _ :: _ => none
  | digits => digitsIn? 10 digits

/-- A whole number: decimal with an optional sign, or in base two, eight or sixteen. -/
def integer? (text : Text) : Option Int :=
  let value? : Option Int :=
    match text with
    | '0' :: 'x' :: digits => (digitsIn? 16 digits).map Int.ofNat
    | '0' :: 'o' :: digits => (digitsIn? 8 digits).map Int.ofNat
    | '0' :: 'b' :: digits => (digitsIn? 2 digits).map Int.ofNat
    | '-' :: digits => (decimal? digits).map fun value => -(value : Int)
    | '+' :: digits => (decimal? digits).map Int.ofNat
    | digits => (decimal? digits).map Int.ofNat
  value?.filter Points.inRange

def withoutSign (text : Text) : Text :=
  match text with
  | '+' :: rest => rest
  | '-' :: rest => rest
  | rest => rest

/-- Whether a text is the exponent of a number: digits with an optional sign. -/
def isExponent (text : Text) : Bool :=
  (digitsIn? 10 (withoutSign text)).isSome

/-- Whether a text is a number with a fraction, an exponent or both, or one that no digits write. -/
def isFraction (text : Text) : Bool :=
  let unsigned := withoutSign text
  let isMark := fun character => character == 'e' || character == 'E'
  let mantissa := unsigned.takeWhile (!isMark ·)
  let hasExponent :=
    match unsigned.dropWhile (!isMark ·) with
    | [] => none
    | _ :: exponent => some (isExponent exponent)
  let whole := mantissa.takeWhile (· != '.')
  let hasFraction :=
    match mantissa.dropWhile (· != '.') with
    | [] => none
    | _ :: fraction => some (digitsIn? 10 fraction).isSome
  unsigned = "inf".toList || unsigned = "nan".toList ||
    ((decimal? whole).isSome && (hasExponent.isSome || hasFraction.isSome) &&
      hasExponent.getD true && hasFraction.getD true)

example : isFraction "-1_0.5e+3".toList = true ∧ isFraction "1.".toList = false := by decide

/-- The value at the start of a text, and the text after it. -/
def value? (text : Text) : Option (SettingValue × Text) :=
  if text.head? = some '"' ∨ text.head? = some '\'' then
    (string? text).map fun (value, after) => (.text value, after)
  else
    let isPart := fun character =>
      !isGap character && character != '#' && character != '\n' && character != '\r'
    let word := text.takeWhile isPart
    let after := text.dropWhile isPart
    if word = "true".toList then some (.flag true, after)
    else if word = "false".toList then some (.flag false, after)
    else if isFraction word then some (.other, after)
    else (integer? word).map fun value => (.integer value, after)

/-- The part of a name at the start of a text, and the text after it. -/
def namePart? (text : Text) : Option (Text × Text) :=
  match text with
  | '"' :: rest => double? false false rest
  | '\'' :: rest => single? false rest
  | _ =>
    let name := text.takeWhile isNameCharacter
    if name.isEmpty then none else some (name, text.dropWhile isNameCharacter)

/-- The parts of a name at the start of a text, which are no more than `most`, and the text after
them. Gaps may stand around each part. -/
def nameParts? (most : Nat) (text : Text) : Option (List Text × Text) :=
  match most with
  | 0 => none
  | most + 1 => do
    let (part, after) ← namePart? (text.dropWhile isGap)
    match after.dropWhile isGap with
    | '.' :: rest =>
      let (parts, after) ← nameParts? most rest
      return (part :: parts, after)
    | after => return ([part], after)

def name? (text : Text) : Option (DottedName × Text) := do
  match ← nameParts? text.length text with
  | (first :: inner, after) => some (⟨first, inner⟩, after)
  | ([], _) => none

/-- The text after a line of which nothing but a comment is left. -/
def nextLine? (text : Text) : Option Text :=
  let rest :=
    match text.dropWhile isGap with
    | '#' :: comment => comment.dropWhile isPlain
    | rest => rest
  if rest.isEmpty then some [] else afterLineEnd? rest

/-- The assignment on the first line of a text, and the text after that line. -/
def assignment? (text : Text) : Option ((DottedName × SettingValue) × Text) := do
  let (name, afterName) ← name? text
  match afterName with
  | '=' :: rest =>
    let (value, afterValue) ← value? (rest.dropWhile isGap)
    return ((name, value), ← nextLine? afterValue)
  | _ => none

/-- The assignments on the lines of a text, of which there are at most `lines`. None may clash with
one before it. -/
def readLines (lines : Nat) (assigned : List (DottedName × SettingValue)) (text : Text) :
    Except SettingsError (List (DottedName × SettingValue)) :=
  match lines, text with
  | 0, _ => .ok assigned
  | _, [] => .ok assigned
  | lines + 1, text =>
    match nextLine? text with
    | some rest => readLines lines assigned rest
    | none =>
      match assignment? text with
      | none => .error (.malformedLine (text.takeWhile (· != '\n')))
      | some ((name, value), rest) =>
        if assigned.any fun other => other.1.clashes name then .error (.repeatedName name)
        else readLines lines (assigned ++ [(name, value)]) rest

/-- The content of a file without the byte order mark that it may begin with. -/
def withoutMark (content : Text) : Text :=
  match content with
  | '\ufeff' :: rest => rest
  | rest => rest

def read (content : Text) : Except SettingsError Assignments := do
  let text := withoutMark content
  let assigned ← readLines text.length [] text
  return assigned.map fun (name, value) => name.assignment value

end Skirmish.SettingsFile
