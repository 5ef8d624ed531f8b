import Skirmish.Text.Basic

/-!
# Words

A text that was put together from words with spaces between them gives the words back.
-/

namespace Skirmish.Text

/-- The parts of a text between its spaces. -/
def words (text : Text) : List Text :=
  (text.splitOn ' ').filter fun word => !word.isEmpty

/-- A text as a word of its own; the empty text is none. -/
def asWord (text : Text) : List Text :=
  if text.isEmpty then [] else [text]

@[simp]
theorem asWord_nil : asWord [] = [] :=
  rfl

theorem asWord_of_ne_nil {text : Text} (hne : text ≠ []) : asWord text = [text] := by
  rw [asWord, if_neg (by simpa using hne)]

@[simp]
theorem flatten_asWord (text : Text) : (asWord text).flatten = text := by
  by_cases hempty : text = []
  · rw [hempty]
    rfl
  · rw [asWord_of_ne_nil hempty, List.flatten_singleton]

theorem mem_asWord {word text : Text} : word ∈ asWord text ↔ word = text ∧ text ≠ [] := by
  by_cases hempty : text = []
  · simp [hempty]
  · simp [asWord_of_ne_nil hempty, hempty]

/-- A space ends one word and begins another. -/
theorem words_append (left right : Text) :
    words (left ++ ' ' :: right) = words left ++ words right := by
  rw [words, List.splitOn, List.splitOnP_append_cons _ _ (by simp), List.filter_append]
  rfl

theorem words_intercalate {pieces : List Text}
    (hpieces : ∀ piece ∈ pieces, piece ≠ [] ∧ ' ' ∉ piece) :
    words ([' '].intercalate pieces) = pieces := by
  by_cases hnone : pieces = []
  · rw [hnone]
    rfl
  · have hspace : ∀ piece ∈ pieces, ' ' ∉ piece := fun piece hmem => (hpieces piece hmem).2
    rw [words, List.splitOn_intercalate ' ' hspace hnone, List.filter_eq_self]
    intro piece hmem
    simpa using (hpieces piece hmem).1

/-- Texts that are put together in two steps are put together. -/
theorem intercalate_append {left right : List Text} (hleft : left ≠ []) (hright : right ≠ []) :
    [' '].intercalate (left ++ right) =
      [' '].intercalate left ++ ' ' :: [' '].intercalate right := by
  induction left with
  | nil => exact absurd rfl hleft
  | cons piece left ih =>
      have hrest : left ++ right ≠ [] := by simp [hright]
      rw [List.cons_append, List.intercalate_cons_of_ne_nil hrest]
      by_cases hlast : left = []
      · rw [hlast, List.nil_append, List.intercalate_singleton, List.append_assoc]
        rfl
      · rw [ih hlast, List.intercalate_cons_of_ne_nil hlast]
        simp only [List.append_assoc]

/-- The same where each piece is put together from pieces. -/
theorem intercalate_flatten {pieces : List (List Text)} (hpieces : ∀ piece ∈ pieces, piece ≠ []) :
    [' '].intercalate (pieces.map [' '].intercalate) = [' '].intercalate pieces.flatten := by
  induction pieces with
  | nil => rfl
  | cons piece pieces ih =>
      obtain ⟨hpiece, hrest⟩ := List.forall_mem_cons.1 hpieces
      cases pieces with
      | nil => simp
      | cons next pieces =>
          have hnext : (next :: pieces).flatten ≠ [] := by
            simp [(List.forall_mem_cons.1 hrest).1]
          rw [List.flatten_cons, intercalate_append hpiece hnext, ← ih hrest, List.map_cons,
            List.intercalate_cons_of_ne_nil (by simp), List.append_assoc]
          rfl

end Skirmish.Text
