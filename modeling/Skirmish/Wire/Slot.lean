import Skirmish.Damage.Slot
import Skirmish.Wire.Json

/-!
# Slots in JSON

A miss is written as the string `m`, a hit as the array of its wounds, each an object with the
fields `value` and `damage_type`. A wound is also read from an array of just these two values.
Further fields of a wound are passed over, but each of the two has to be there exactly once.
-/

namespace Skirmish

/-- Why a JSON value is no slot. -/
inductive SlotError where
  | unknownMarker (marker : Text)
  | unrecognized
  deriving DecidableEq, Repr

def SlotError.message : SlotError → Text
  | unknownMarker marker => "unknown damage marker '".toList ++ marker ++ ['\'']
  | unrecognized => "data did not match any variant of untagged enum Repr".toList

namespace Wound

def valueKey : Text := "value".toList

def typeKey : Text := "damage_type".toList

def toJson (wound : Wound) : Json :=
  .object [(valueKey, .integer wound.value), (typeKey, .string wound.damageType)]

/-- The wound of two JSON values: points, and the name of a type. -/
def ofPair? : Json → Json → Option Wound
  | .integer value, .string damageType =>
    if Points.inRange value then some ⟨value, damageType⟩ else none
  | _, _ => none

def ofJson? : Json → Option Wound
  | .object fields =>
    match Json.valuesOf valueKey fields, Json.valuesOf typeKey fields with
    | [value], [damageType] => ofPair? value damageType
    | _, _ => none
  | .array [value, damageType] => ofPair? value damageType
  | _ => none

end Wound

namespace DamageSlot

/-- The string that stands for a miss. -/
def missMarker : Text := ['m']

/-- A slot as a JSON value. -/
def toJson : DamageSlot → Json
  | miss => .string missMarker
  | hit wounds => .array (wounds.map Wound.toJson)

def ofJson : Json → Except SlotError DamageSlot
  | .string marker =>
    if marker = missMarker then .ok miss else .error (.unknownMarker marker)
  | .array items =>
    match items.mapM Wound.ofJson? with
    | some wounds => .ok (hit wounds)
    | none => .error .unrecognized
  | _ => .error .unrecognized

end DamageSlot

end Skirmish
