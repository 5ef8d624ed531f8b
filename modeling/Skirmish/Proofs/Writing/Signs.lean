import Mathlib.Data.List.TakeWhile
import Skirmish.Proofs.Writing.Numerals
import Skirmish.Term

/-!
# Texts cut at their signs

A text that is cut before each of its signs is put together again from its parts, and the parts are
the only ones without further signs that make it up.  Numerals have no sign in them.
-/

namespace Skirmish

namespace Sign

@[simp]
theorem ofMark?_mark (sign : Sign) : ofMark? sign.mark = some sign := by
  cases sign <;> rfl

theorem ofMark?_eq_some_iff {character : Char} {sign : Sign} :
    ofMark? character = some sign ↔ character = sign.mark := by
  constructor
  · intro hmark
    unfold ofMark? at hmark
    split at hmark
    · cases hmark
      rfl
    · cases hmark
      rfl
    · cases hmark
  · rintro rfl
    exact ofMark?_mark sign

/-- A sign with the text behind it. -/
def signed (term : Sign × Text) : Text :=
  term.1.mark :: term.2

/-- Signed terms start with a sign. -/
theorem head?_flatMap_signed (terms : List (Sign × Text)) :
    ∀ character ∈ (terms.flatMap signed).head?, ∃ sign : Sign, character = sign.mark := by
  cases terms with
  | nil => simp
  | cons term terms =>
      intro character hmem
      exact ⟨term.1, (Option.some.inj hmem).symm⟩

/-- Whether there is no sign in a text. -/
def Unsigned (text : Text) : Prop :=
  ∀ character ∈ text, ofMark? character = none

theorem unsigned_of_digits {text : Text}
    (hdigits : ∀ character ∈ text, character.isDigit = true) : Unsigned text := by
  intro character hmem
  cases hmark : ofMark? character with
  | none => rfl
  | some sign =>
      have hdigit := hdigits character hmem
      rw [ofMark?_eq_some_iff.1 hmark] at hdigit
      cases sign <;> cases hdigit

theorem unsigned_takeWhile (text : Text) : Unsigned (text.takeWhile Char.isDigit) :=
  unsigned_of_digits fun _ => List.mem_takeWhile_imp

theorem cut_append {gap : Text} (hgap : Unsigned gap) (rest : Text) :
    cut (gap ++ rest) = (gap ++ (cut rest).1, (cut rest).2) := by
  induction gap with
  | nil => rfl
  | cons character gap ih =>
      obtain ⟨hfirst, hrest⟩ := List.forall_mem_cons.1 hgap
      rw [List.cons_append, cut, ih hrest, hfirst]
      rfl

theorem cut_signed (term : Sign × Text) (hbody : Unsigned term.2) (rest : Text) :
    cut (signed term ++ rest) = ([], (term.1, term.2 ++ (cut rest).1) :: (cut rest).2) := by
  rw [signed, List.cons_append, cut, cut_append hbody, ofMark?_mark]

/-- The parts that a text is cut into are the only ones without further signs that make it up. -/
theorem cut_eq_iff {text gap : Text} {terms : List (Sign × Text)} :
    cut text = (gap, terms) ↔
      text = gap ++ terms.flatMap signed ∧ Unsigned gap ∧ ∀ term ∈ terms, Unsigned term.2 := by
  constructor
  · intro hcut
    induction text generalizing gap terms with
    | nil =>
        cases hcut
        exact ⟨rfl, List.forall_mem_nil _, List.forall_mem_nil _⟩
    | cons character rest ih =>
        have hsame : cut rest = ((cut rest).1, (cut rest).2) := rfl
        obtain ⟨hrest, hgap, hterms⟩ := ih hsame
        cases hmark : ofMark? character with
        | none =>
            simp only [cut, hmark, Prod.mk.injEq] at hcut
            obtain ⟨rfl, rfl⟩ := hcut
            refine ⟨?_, List.forall_mem_cons.2 ⟨hmark, hgap⟩, hterms⟩
            rw [List.cons_append, ← hrest]
        | some sign =>
            simp only [cut, hmark, Prod.mk.injEq] at hcut
            obtain ⟨rfl, rfl⟩ := hcut
            refine ⟨?_, List.forall_mem_nil _, List.forall_mem_cons.2 ⟨hgap, hterms⟩⟩
            rw [List.nil_append, List.flatMap_cons, signed, List.cons_append, ← hrest,
              ofMark?_eq_some_iff.1 hmark]
  · rintro ⟨rfl, hgap, hterms⟩
    have hbehind : cut (terms.flatMap signed) = ([], terms) := by
      induction terms with
      | nil => rfl
      | cons term terms ih =>
          obtain ⟨hbody, hrest⟩ := List.forall_mem_cons.1 hterms
          rw [List.flatMap_cons, cut_signed term hbody, ih hrest, List.append_nil]
    rw [cut_append hgap, hbehind, List.append_nil]

end Sign

theorem Decimal.Written.unsigned {digits : Text} {value : Nat} (hwritten : Written digits value) :
    Sign.Unsigned digits :=
  Sign.unsigned_of_digits hwritten.isDigit

end Skirmish
