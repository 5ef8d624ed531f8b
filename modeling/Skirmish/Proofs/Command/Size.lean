import Skirmish.Proofs.Command.Limits
import Skirmish.Proofs.Command.Naming

/-!
# How long a command can be

A grammar bounds the figures of a term but not the number of terms.  That number is bounded by the
text alone: each term begins with a mark of its own, and the text that is read is at most twice as
long as what was typed, since a letter has at most two small ones.
-/

namespace Skirmish

namespace Text

theorem length_lowerCharacter_le (before : Text) (character : Char) (after : Text) :
    (lowerCharacter before character after).length ≤ 2 := by
  rw [lowerCharacter]
  split
  · split <;> simp
  · split <;> simp

theorem length_lowerAfter_le (before text : Text) :
    (lowerAfter before text).length ≤ 2 * text.length := by
  induction text generalizing before with
  | nil => simp [lowerAfter]
  | cons character after ih =>
      have hfirst := length_lowerCharacter_le before character after
      have hrest := ih (character :: before)
      rw [lowerAfter, List.length_append, List.length_cons]
      omega

/-- A text has at most one piece more than it has characters. -/
theorem length_splitOn_le (separator : Char) (text : Text) :
    (text.splitOn separator).length ≤ text.length + 1 := by
  have hjoined : ∀ pieces : List Text,
      pieces.length ≤ ([separator].intercalate pieces).length + 1 := by
    intro pieces
    induction pieces with
    | nil => simp
    | cons piece pieces ih =>
        cases pieces with
        | nil => simp
        | cons next pieces =>
            rw [List.intercalate_cons_cons]
            simp only [List.length_cons, List.length_append] at ih ⊢
            omega
  have hpieces := hjoined (text.splitOn separator)
  rwa [List.intercalate_splitOn] at hpieces

end Text

theorem length_normalize_le (input : Text) : (normalize input).length ≤ 2 * input.length := by
  have hkept : (Text.withoutBlanks input).length ≤ input.length := List.length_filter_le ..
  have hlower := Text.length_lowerAfter_le [] (Text.withoutBlanks input)
  rw [normalize, Text.lower]
  omega

/-- Each part of a cut text begins with a sign. -/
theorem Sign.length_cut_le (text : Text) : (cut text).2.length ≤ text.length := by
  induction text with
  | nil => simp [cut]
  | cons character rest ih =>
      cases hmark : ofMark? character with
      | some sign => simpa [cut, hmark] using ih
      | none => simpa [cut, hmark] using Nat.le_succ_of_le ih

theorem length_of_mapM {α β : Type} {read : α → Option β} {items : List α} {results : List β}
    (hread : items.mapM read = some results) : results.length = items.length := by
  induction items generalizing results with
  | nil =>
      rw [List.mapM_nil] at hread
      cases hread
      rfl
  | cons item items ih =>
      rw [List.mapM_cons] at hread
      obtain ⟨result, -, hrest⟩ := Option.bind_eq_some_iff.1 hread
      obtain ⟨others, hothers, heq⟩ := Option.bind_eq_some_iff.1 hrest
      cases heq
      rw [List.length_cons, List.length_cons, ih hothers]

/-- How many terms have been read. -/
def Reading.termCount : Reading → Nat
  | .attack roll => roll.bonus.length
  | .damage components => components.length
  | _ => 0

/-- A text has at most one term more than it has characters. -/
theorem Role.termCount_le_of_read? {role : Role} {text : Text} {reading : Reading}
    (hread : role.read? text = some reading) : reading.termCount ≤ text.length + 1 := by
  cases role <;> obtain ⟨value, hvalue, rfl⟩ := Option.map_eq_some_iff.1 hread
  case attack =>
    obtain ⟨letter, rest, hdrop, -, -, -, -, hbonus⟩ := AttackRoll.read?_eq_some hvalue
    have hterms := length_of_mapM hbonus
    have hcut := Sign.length_cut_le (rest.dropWhile Char.isLower)
    have hcolor := (List.dropWhile_suffix Char.isLower (l := rest)).length_le
    have hdigits := (List.dropWhile_suffix Char.isDigit (l := text)).length_le
    rw [hdrop, List.length_cons] at hdigits
    simp only [Reading.termCount]
    omega
  case damage =>
    rw [DamageExpression.toOption_read] at hvalue
    have hterms := length_of_mapM hvalue
    have hpieces : (DamageExpression.pieces text).length ≤ (text.splitOn '+').length := by
      calc
        (DamageExpression.pieces text).length ≤ ((text.splitOn '+').map Text.trim).length :=
          List.length_filter_le ..
        _ = (text.splitOn '+').length := List.length_map ..
    have hsplit := Text.length_splitOn_le '+' text
    simp only [Reading.termCount]
    omega
  all_goals exact Nat.zero_le _

namespace Layout

/-- A value of a layout was read from a part of its text. -/
theorem exists_text_of_value? {layout : Layout} {role : Role} {reading : Reading}
    (hvalue : layout.value? role = some reading) :
    ∃ text, role.read? text = some reading ∧ text.length ≤ layout.source.length := by
  rw [value?] at hvalue
  split at hvalue
  · next text htext =>
    obtain ⟨chunk, hchunk, rfl⟩ := Option.map_eq_some_iff.1 htext
    have hlength := length_source_le_of_mem (List.mem_of_find?_eq_some hchunk)
    rw [Chunk.source, List.length_append] at hlength
    exact ⟨chunk.text, hvalue, by omega⟩
  · split at hvalue
    · refine ⟨layout.leading, hvalue, ?_⟩
      rw [source, List.length_append]
      exact Nat.le_add_right ..
    · cases hvalue

end Layout

/-- A command has at most one term more than twice the characters that were typed. -/
theorem Command.termCount_le_of_parse {input : Text} {command : Command}
    (hok : parse input = .ok command) {role : Role} {reading : Reading}
    (hvalue : command.plan.value? role = some reading) :
    reading.termCount ≤ 2 * input.length + 1 := by
  obtain ⟨-, -, rfl⟩ := (ofNormal_eq_ok_iff ..).1 hok
  rw [Layout.value?_plan] at hvalue
  obtain ⟨text, hread, hlength⟩ := Layout.exists_text_of_value? hvalue
  rw [Layout.source_ofText] at hlength
  have hnormal := length_normalize_le input
  have hterms := Role.termCount_le_of_read? hread
  omega

end Skirmish
