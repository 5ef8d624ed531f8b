import Skirmish.Text.Basic

/-!
# Decimal numbers

Decimal text is a run of the ASCII digits. `ofNat` writes a number without leading zeros and
`readNat?` reads any run of at least one digit, so reading undoes writing. A signed number may
carry one sign in front.
-/

namespace Skirmish.Decimal

def ofNat (value : Nat) : Text :=
  Nat.toDigits 10 value

/-- The number that a run of digits stands for; no digit at all is no number. -/
def readNat? (text : Text) : Option Nat :=
  if text ≠ [] ∧ text.all Char.isDigit then some (Nat.ofDigitChars 10 text 0) else none

def ofInt : Int → Text
  | .ofNat value => ofNat value
  | .negSucc value => '-' :: ofNat (value + 1)

/-- The integer that digits with an optional sign stand for. -/
def readInt? : Text → Option Int
  | '-' :: digits => (readNat? digits).map fun value => -(value : Int)
  | '+' :: digits => (readNat? digits).map fun value => (value : Int)
  | digits => (readNat? digits).map fun value => (value : Int)

@[simp]
theorem readNat?_nil : readNat? [] = none := by
  simp [readNat?]

theorem readNat?_eq_some {text : Text} {value : Nat} (heq : readNat? text = some value) :
    text ≠ [] ∧ (∀ character ∈ text, character.isDigit) ∧
      value = Nat.ofDigitChars 10 text 0 := by
  unfold readNat? at heq
  split at heq
  · next hdigits =>
    exact ⟨hdigits.1, by simpa using hdigits.2, (Option.some.inj heq).symm⟩
  · cases heq

theorem isDigit_of_mem_ofNat {value : Nat} {character : Char} (hmem : character ∈ ofNat value) :
    character.isDigit :=
  Nat.isDigit_of_mem_toDigits (by decide) (by decide) hmem

@[simp]
theorem ofNat_ne_nil (value : Nat) : ofNat value ≠ [] :=
  Nat.toDigits_ne_nil

@[simp]
theorem readNat?_ofNat (value : Nat) : readNat? (ofNat value) = some value := by
  have hdigits : ∀ character ∈ Nat.toDigits 10 value, character.isDigit :=
    fun _ => isDigit_of_mem_ofNat
  simpa [readNat?, ofNat] using hdigits

theorem readInt?_of_digit {text : Text} {first : Char} (hdigit : first.isDigit) :
    readInt? (first :: text) =
      (readNat? (first :: text)).map fun value => (value : Int) := by
  have hminus : first ≠ '-' := by rintro rfl; revert hdigit; decide
  have hplus : first ≠ '+' := by rintro rfl; revert hdigit; decide
  unfold readInt?
  split
  · next heq => exact absurd (List.cons.inj heq).1 hminus
  · next heq => exact absurd (List.cons.inj heq).1 hplus
  · rfl

end Skirmish.Decimal
