import Skirmish.Text.Basic

/-!
# Characters in the order of their bytes

UTF-8 writes a larger character with larger bytes: the first byte grows with the number of bytes,
and among as many bytes the first difference decides.  So texts are ordered by their characters as
they are by their bytes.
-/

namespace Skirmish.Text

/-- The UTF-8 bytes of a text. -/
def bytes (text : Text) : List UInt8 :=
  (String.ofList text).toUTF8.data.toList

theorem bytes_eq_flatMap (text : Text) : bytes text = text.flatMap String.utf8EncodeChar := by
  rw [bytes, String.toUTF8_eq_toByteArray, String.toByteArray_ofList, List.utf8Encode,
    List.data_toByteArray]

section Bytes

variable {low high : Nat} {left right : List UInt8}

/-- A byte that is not larger comes first when the bytes behind it break a tie. -/
theorem byte_cons_lt (hbyte : high < 256) (hle : low ≤ high) (htie : low = high → left < right) :
    UInt8.ofNat low :: left < UInt8.ofNat high :: right := by
  rw [List.cons_lt_cons_iff]
  rcases Nat.lt_or_eq_of_le hle with hless | hsame
  · left
    exact (UInt8.ofNat_lt_iff_lt (Nat.lt_of_le_of_lt hle hbyte) hbyte).2 hless
  · exact .inr ⟨congrArg UInt8.ofNat hsame, htie hsame⟩

theorem byte_cons_lt_of_lt (hbyte : high < 256) (hless : low < high) :
    UInt8.ofNat low :: left < UInt8.ofNat high :: right :=
  byte_cons_lt hbyte (Nat.le_of_lt hless) fun hsame => absurd hsame (Nat.ne_of_lt hless)

/-! The last bytes each carry six bits, and tell numbers apart that agree in the bits before. -/

theorem lastByte_lt (hless : low < high) (hsame : low / 64 = high / 64) :
    UInt8.ofNat (low % 64 + 128) :: left < UInt8.ofNat (high % 64 + 128) :: right :=
  byte_cons_lt_of_lt (by omega) (by omega)

theorem lastTwoBytes_lt (hless : low < high) (hsame : low / 4096 = high / 4096) :
    UInt8.ofNat (low / 64 % 64 + 128) :: UInt8.ofNat (low % 64 + 128) :: left <
      UInt8.ofNat (high / 64 % 64 + 128) :: UInt8.ofNat (high % 64 + 128) :: right :=
  byte_cons_lt (by omega) (by omega) fun _ => lastByte_lt hless (by omega)

theorem lastThreeBytes_lt (hless : low < high) (hsame : low / 262144 = high / 262144) :
    UInt8.ofNat (low / 4096 % 64 + 128) :: UInt8.ofNat (low / 64 % 64 + 128) ::
        UInt8.ofNat (low % 64 + 128) :: left <
      UInt8.ofNat (high / 4096 % 64 + 128) :: UInt8.ofNat (high / 64 % 64 + 128) ::
        UInt8.ofNat (high % 64 + 128) :: right :=
  byte_cons_lt (by omega) (by omega) fun _ => lastTwoBytes_lt hless (by omega)

end Bytes

/-- A larger character has larger bytes, whatever follows. -/
theorem utf8EncodeChar_append_lt {first second : Char} (hless : first < second)
    (left right : List UInt8) :
    String.utf8EncodeChar first ++ left < String.utf8EncodeChar second ++ right := by
  have hvalue : first.val.toNat < second.val.toNat := hless
  have hmost : second.val.toNat < 1114112 := by
    rcases second.valid with hsmall | ⟨-, hlarge⟩
    · exact Nat.lt_trans hsmall (by decide)
    · exact hlarge
  rw [String.utf8EncodeChar, String.utf8EncodeChar]
  generalize first.val.toNat = low at hvalue ⊢
  generalize second.val.toNat = high at hvalue hmost ⊢
  -- The cases are the numbers of bytes, of the larger character first.
  by_cases hone : high ≤ 127
  · rw [if_pos hone, if_pos (by omega)]
    exact byte_cons_lt_of_lt (by omega) hvalue
  rw [if_neg hone]
  by_cases htwo : high ≤ 2047
  · rw [if_pos htwo]
    split
    · exact byte_cons_lt_of_lt (by omega) (by omega)
    · rw [if_pos (by omega)]
      exact byte_cons_lt (by omega) (by omega) fun _ => lastByte_lt hvalue (by omega)
  rw [if_neg htwo]
  by_cases hthree : high ≤ 65535
  · rw [if_pos hthree]
    split
    · exact byte_cons_lt_of_lt (by omega) (by omega)
    split
    · exact byte_cons_lt_of_lt (by omega) (by omega)
    · rw [if_pos (by omega)]
      exact byte_cons_lt (by omega) (by omega) fun _ => lastTwoBytes_lt hvalue (by omega)
  rw [if_neg hthree]
  split
  · exact byte_cons_lt_of_lt (by omega) (by omega)
  split
  · exact byte_cons_lt_of_lt (by omega) (by omega)
  split
  · exact byte_cons_lt_of_lt (by omega) (by omega)
  · exact byte_cons_lt (by omega) (by omega) fun _ => lastThreeBytes_lt hvalue (by omega)

theorem bytes_lt_of_lt {left right : Text} (hless : left < right) : bytes left < bytes right := by
  rw [bytes_eq_flatMap, bytes_eq_flatMap]
  induction left generalizing right with
  | nil =>
      cases right with
      | nil => exact absurd hless (List.lt_irrefl _)
      | cons second right =>
          rw [List.flatMap_nil, List.flatMap_cons]
          cases hbytes : String.utf8EncodeChar second with
          | nil =>
              have hlength := String.length_utf8EncodeChar second
              rw [hbytes] at hlength
              exact absurd hlength (Nat.ne_of_lt second.utf8Size_pos)
          | cons byte rest => exact List.nil_lt_cons ..
  | cons first left ih =>
      cases right with
      | nil => exact absurd hless (List.not_lt_nil _)
      | cons second right =>
          rw [List.flatMap_cons, List.flatMap_cons]
          rcases List.cons_lt_cons_iff.1 hless with hfirst | ⟨rfl, hrest⟩
          · exact utf8EncodeChar_append_lt hfirst _ _
          · exact List.append_left_lt (ih hrest)

/-- Texts are in the order of their bytes. -/
theorem bytes_lt_bytes_iff {left right : Text} : bytes left < bytes right ↔ left < right := by
  refine ⟨fun hbytes => ?_, bytes_lt_of_lt⟩
  rcases Std.lt_trichotomy left right with hless | rfl | hgreater
  · exact hless
  · exact absurd hbytes (List.lt_irrefl _)
  · exact absurd hbytes (List.lt_asymm (bytes_lt_of_lt hgreater))

end Skirmish.Text
