import Skirmish.Text.Decimal

/-!
# JSON values

The values of JSON, as far as slots and plans are exchanged in them. Numbers that are not whole are
told apart from those that are, but their digits do not matter here. The written form is the
indented one: a level of nesting takes two blanks.
-/

namespace Skirmish

/-- A JSON value. Fields stand in the order in which they are written. -/
inductive Json where
  | null
  | bool (value : Bool)
  | integer (value : Int)
  | fraction
  | string (value : Text)
  | array (items : List Json)
  | object (fields : List (Text × Json))
  deriving Inhabited

namespace Json

/-- An optional value; none is null. -/
def ofOption {α : Type} (encode : α → Json) : Option α → Json
  | none => null
  | some value => encode value

/-- The values under a key, in the order in which they stand. -/
def valuesOf (key : Text) (fields : List (Text × Json)) : List Json :=
  (fields.filter fun field => field.1 == key).map Prod.snd

/-- The last four hexadecimal digits of a number. -/
def hexDigits (value : Nat) : Text :=
  [value / 4096, value / 256, value / 16, value].map fun part => Nat.digitChar (part % 16)

/-- A character as it stands between the quotes of a string. -/
def escape (character : Char) : Text :=
  match character with
  | '"' => ['\\', '"']
  | '\\' => ['\\', '\\']
  | '\n' => ['\\', 'n']
  | '\r' => ['\\', 'r']
  | '\t' => ['\\', 't']
  | '\x08' => ['\\', 'b']
  | '\x0c' => ['\\', 'f']
  | other => if other.toNat < 32 then '\\' :: 'u' :: hexDigits other.toNat else [other]

def quote (text : Text) : Text :=
  '"' :: text.flatMap escape ++ ['"']

def newLine (level : Nat) : Text :=
  '\n' :: List.replicate (2 * level) ' '

mutual

/-- The written form of a value at a level of nesting. -/
def writeAt (level : Nat) : Json → Text
  | null => "null".toList
  | bool true => "true".toList
  | bool false => "false".toList
  | integer value => Decimal.ofInt value
  | fraction => "0.0".toList
  | string value => quote value
  | array [] => "[]".toList
  | array (item :: items) =>
    '[' :: newLine (level + 1) ++ writeAt (level + 1) item ++ writeItems (level + 1) items ++
      newLine level ++ [']']
  | object [] => ['{', '}']
  | object ((key, value) :: fields) =>
    '{' :: newLine (level + 1) ++ quote key ++ ':' :: ' ' :: writeAt (level + 1) value ++
      writeFields (level + 1) fields ++ newLine level ++ ['}']

/-- The written form of the further items of an array. -/
def writeItems (level : Nat) : List Json → Text
  | [] => []
  | item :: items => ',' :: newLine level ++ writeAt level item ++ writeItems level items

/-- The written form of the further fields of an object. -/
def writeFields (level : Nat) : List (Text × Json) → Text
  | [] => []
  | (key, value) :: fields =>
    ',' :: newLine level ++ quote key ++ ':' :: ' ' :: writeAt level value ++
      writeFields level fields

end

def write (value : Json) : Text :=
  writeAt 0 value

end Json

end Skirmish
