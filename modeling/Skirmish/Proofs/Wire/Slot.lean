import Mathlib.Data.List.Forall2
import Skirmish.Proofs.Writing.Items
import Skirmish.Wire.Slot

/-!
# Slots come back from JSON

A slot is written as a string or as an array of wounds, and a wound as an object of two fields.  It
is read as the slot it was, as long as its wounds are whole numbers of points, and no two slots are
written alike.  A value is read as no slot for one of a few reasons only: it is neither a string nor
an array, it is another string than that of a miss, or one of its items is no wound.  An object is
no wound when one of the two fields is not there exactly once with a value of its kind.
-/

namespace Skirmish

namespace Json

/-- Whether the value is a whole number in the range of points. -/
def isPoints : Json → Bool
  | integer value => Points.inRange value
  | _ => false

/-- Whether the value is a string. -/
def isString : Json → Bool
  | string _ => true
  | _ => false

variable {key : Text} {kind : Json → Bool} {value : Json} {fields : List (Text × Json)}

theorem mem_valuesOf : value ∈ valuesOf key fields ↔ (key, value) ∈ fields := by
  simp [valuesOf]

theorem length_valuesOf (key : Text) (fields : List (Text × Json)) :
    (valuesOf key fields).length = (fields.map Prod.fst).count key := by
  rw [valuesOf, List.length_map, ← List.countP_eq_length_filter, List.count, List.countP_map]
  rfl

/-- The reasons for which fields give no single value of a kind under a key. -/
inductive Misses (key : Text) (kind : Json → Bool) (fields : List (Text × Json)) : Prop where
  | lacks (hlacks : key ∉ fields.map Prod.fst)
  | repeats (hrepeats : 1 < (fields.map Prod.fst).count key)
  | wrong {value : Json} (hmem : (key, value) ∈ fields) (hkind : kind value = false)

theorem misses_iff :
    Misses key kind fields ↔ ¬∃ value, valuesOf key fields = [value] ∧ kind value = true := by
  constructor
  · rintro hmisses ⟨value, hvalue, hkind⟩
    have hcount : (fields.map Prod.fst).count key = 1 := by
      rw [← length_valuesOf, hvalue, List.length_singleton]
    cases hmisses with
    | lacks hlacks => exact hlacks (List.count_pos_iff.1 (by omega))
    | repeats hrepeats => omega
    | wrong hmem hwrong =>
        rw [← mem_valuesOf, hvalue, List.mem_singleton] at hmem
        rw [hmem, hkind] at hwrong
        cases hwrong
  · intro hnone
    cases hvalues : valuesOf key fields with
    | nil =>
        apply Misses.lacks
        rw [← List.count_eq_zero, ← length_valuesOf, hvalues, List.length_nil]
    | cons value rest =>
        cases rest with
        | nil =>
            have hmem : (key, value) ∈ fields := by
              rw [← mem_valuesOf, hvalues]
              exact List.mem_singleton_self value
            exact .wrong hmem (Bool.eq_false_iff.2 fun hkind => hnone ⟨value, hvalues, hkind⟩)
        | cons next rest =>
            apply Misses.repeats
            rw [← length_valuesOf, hvalues, List.length_cons, List.length_cons]
            omega

end Json

namespace Wound

/-- The JSON values that are no wound. -/
inductive Unreadable : Json → Prop where
  | null : Unreadable .null
  | bool (value : Bool) : Unreadable (.bool value)
  | integer (value : Int) : Unreadable (.integer value)
  | fraction : Unreadable .fraction
  | string (text : Text) : Unreadable (.string text)
  | noValue {fields : List (Text × Json)} (hmisses : Json.Misses valueKey Json.isPoints fields) :
      Unreadable (.object fields)
  | noType {fields : List (Text × Json)} (hmisses : Json.Misses typeKey Json.isString fields) :
      Unreadable (.object fields)
  | items {items : List Json}
      (hitems : ¬∃ value damageType, items = [value, damageType] ∧ value.isPoints = true ∧
        damageType.isString = true) : Unreadable (.array items)

theorem isSome_ofPair? (value damageType : Json) :
    (ofPair? value damageType).isSome = (value.isPoints && damageType.isString) := by
  cases value with
  | integer points =>
      cases damageType with
      | string damageType =>
          rw [ofPair?, Json.isPoints, Json.isString, Bool.and_true]
          cases Points.inRange points <;> rfl
      | _ => exact (Bool.and_false _).symm
  | _ => rfl

theorem ofJson?_toJson (wound : Wound) :
    ofJson? wound.toJson = if Points.inRange wound.value then some wound else none :=
  rfl

theorem toJson_injective : Function.Injective toJson := by
  rintro ⟨value, damageType⟩ ⟨otherValue, otherType⟩ heq
  simpa [toJson] using heq

theorem isSome_ofJson?_object_iff {fields : List (Text × Json)} :
    (ofJson? (.object fields)).isSome = true ↔
      (∃ value, Json.valuesOf valueKey fields = [value] ∧ value.isPoints = true) ∧
        ∃ damageType, Json.valuesOf typeKey fields = [damageType] ∧ damageType.isString = true := by
  rw [ofJson?]
  split
  · next value damageType hvalue hdamageType =>
    rw [isSome_ofPair?, Bool.and_eq_true, hvalue, hdamageType]
    simp
  · next hnot =>
    constructor
    · intro hsome
      cases hsome
    · rintro ⟨⟨value, hvalue, -⟩, damageType, hdamageType, -⟩
      exact absurd hdamageType (hnot value damageType hvalue)

theorem isSome_ofJson?_array_iff {items : List Json} :
    (ofJson? (.array items)).isSome = true ↔
      ∃ value damageType, items = [value, damageType] ∧ value.isPoints = true ∧
        damageType.isString = true := by
  constructor
  · intro hsome
    match items with
    | [value, damageType] =>
      have hpair : (ofPair? value damageType).isSome = true := hsome
      rw [isSome_ofPair?, Bool.and_eq_true] at hpair
      exact ⟨value, damageType, rfl, hpair⟩
  · rintro ⟨value, damageType, rfl, hpair⟩
    have hsome : (ofPair? value damageType).isSome = true := by
      rwa [isSome_ofPair?, Bool.and_eq_true]
    exact hsome

/-- A value that is not read as a wound is one of those that are listed. -/
theorem ofJson?_eq_none_iff {json : Json} : ofJson? json = none ↔ Unreadable json := by
  cases json with
  | null => exact ⟨fun _ => .null, fun _ => rfl⟩
  | bool value => exact ⟨fun _ => .bool value, fun _ => rfl⟩
  | integer value => exact ⟨fun _ => .integer value, fun _ => rfl⟩
  | fraction => exact ⟨fun _ => .fraction, fun _ => rfl⟩
  | string text => exact ⟨fun _ => .string text, fun _ => rfl⟩
  | object fields =>
      rw [← Option.not_isSome_iff_eq_none, isSome_ofJson?_object_iff, not_and_or, ← Json.misses_iff,
        ← Json.misses_iff]
      constructor
      · rintro (hvalue | htype)
        · exact .noValue hvalue
        · exact .noType htype
      · intro hunreadable
        cases hunreadable with
        | noValue hvalue => exact .inl hvalue
        | noType htype => exact .inr htype
  | array items =>
      rw [← Option.not_isSome_iff_eq_none, isSome_ofJson?_array_iff]
      constructor
      · exact .items
      · intro hunreadable
        cases hunreadable with
        | items hitems => exact hitems

end Wound

namespace DamageSlot

/-- The JSON values that are no slot. -/
inductive Unreadable : Json → Prop where
  | null : Unreadable .null
  | bool (value : Bool) : Unreadable (.bool value)
  | integer (value : Int) : Unreadable (.integer value)
  | fraction : Unreadable .fraction
  | object (fields : List (Text × Json)) : Unreadable (.object fields)
  | string {marker : Text} (hmarker : marker ≠ missMarker) : Unreadable (.string marker)
  | array {items : List Json} {item : Json} (hmem : item ∈ items)
      (hitem : Wound.Unreadable item) : Unreadable (.array items)

theorem toJson_injective : Function.Injective toJson := by
  intro left right heq
  cases left with
  | miss =>
      cases right with
      | miss => rfl
      | hit others => cases heq
  | hit wounds =>
      cases right with
      | miss => cases heq
      | hit others =>
          exact congrArg hit (Wound.toJson_injective.list_map (Json.array.inj heq))

theorem ofJson_toJson_eq_ok_iff (slot : DamageSlot) :
    ofJson slot.toJson = .ok slot ↔
      ∀ wound ∈ slot.wounds, Points.inRange wound.value = true := by
  cases slot with
  | miss => exact ⟨fun _ => List.forall_mem_nil _, fun _ => rfl⟩
  | hit wounds =>
      have hread : (wounds.map Wound.toJson).mapM Wound.ofJson? = some wounds ↔
          ∀ wound ∈ wounds, Points.inRange wound.value = true := by
        rw [mapM_eq_some_iff, List.forall₂_map_left_iff, List.forall₂_same]
        simp [Wound.ofJson?_toJson]
      rw [DamageSlot.wounds, ← hread, toJson, ofJson]
      cases (wounds.map Wound.toJson).mapM Wound.ofJson? with
      | none => simp
      | some others => simp

theorem mapM_ofJson?_eq_none_iff {items : List Json} :
    items.mapM Wound.ofJson? = none ↔ Unreadable (.array items) := by
  simp only [mapM_eq_none_iff, Wound.ofJson?_eq_none_iff]
  constructor
  · rintro ⟨item, hmem, hitem⟩
    exact .array hmem hitem
  · intro hunreadable
    cases hunreadable with
    | array hmem hitem => exact ⟨_, hmem, hitem⟩

/-- A value that is not read as a slot is one of those that are listed. -/
theorem exists_ofJson_eq_error_iff (json : Json) :
    (∃ cause, ofJson json = .error cause) ↔ Unreadable json := by
  cases json with
  | null => exact ⟨fun _ => .null, fun _ => ⟨_, rfl⟩⟩
  | bool value => exact ⟨fun _ => .bool value, fun _ => ⟨_, rfl⟩⟩
  | integer value => exact ⟨fun _ => .integer value, fun _ => ⟨_, rfl⟩⟩
  | fraction => exact ⟨fun _ => .fraction, fun _ => ⟨_, rfl⟩⟩
  | object fields => exact ⟨fun _ => .object fields, fun _ => ⟨_, rfl⟩⟩
  | string marker =>
      rw [ofJson]
      constructor
      · rintro ⟨cause, hcause⟩
        apply Unreadable.string
        rintro rfl
        rw [if_pos rfl] at hcause
        cases hcause
      · intro hunreadable
        cases hunreadable with
        | string hmarker => exact ⟨_, if_neg hmarker⟩
  | array items =>
      rw [← mapM_ofJson?_eq_none_iff, ofJson]
      cases items.mapM Wound.ofJson? with
      | none => simp
      | some wounds => simp

/-- A slot comes back from JSON as it was exactly when its wounds are whole numbers of points, no
two slots are written alike, and exactly the values that are listed are read as no slot. -/
theorem survives_json :
    (∀ slot : DamageSlot, ofJson slot.toJson = .ok slot ↔
      ∀ wound ∈ slot.wounds, Points.inRange wound.value = true) ∧
    Function.Injective toJson ∧
    ∀ json, (∃ cause, ofJson json = .error cause) ↔ Unreadable json :=
  ⟨ofJson_toJson_eq_ok_iff, toJson_injective, exists_ofJson_eq_error_iff⟩

/-- A hit without wounds is told from a miss, and a wound may also come as an array. -/
example :
    ofJson (.string ['m']) = .ok miss ∧ ofJson (.array []) = .ok (hit []) ∧
      ofJson (.array [.array [.integer 5, .string ['c', 'o']]]) = .ok (hit [⟨5, ['c', 'o']⟩]) := by
  decide

end DamageSlot

end Skirmish
