import Skirmish.Proofs.Command.Characters
import Skirmish.Proofs.Writing.Amounts

/-!
# Reading reports

A player reads the parts of a report by the plus signs outside of brackets, which separate entries,
and by the runs of digits, which are figures.  Texts that are free of plus signs and brackets, or
stand in brackets as a whole, are read as one entry each when they are joined by plus signs.
-/

namespace Skirmish.Report

/-- The pieces of a text between the plus signs outside of brackets. -/
def outerPieces (inside : Bool) : Text → List Text
  | [] => [[]]
  | character :: rest =>
    if character == '+' && !inside then [] :: outerPieces inside rest
    else
      let stays := if inside then character != ']' else character == '['
      (outerPieces stays rest).modifyHead (character :: ·)

/-- The entries of a part of the line: its pieces that are not blank, without the blanks around
them. -/
def entries (part : Text) : List Text :=
  ((outerPieces false part).map Text.trim).filter (!·.isEmpty)

/-- The numbers that the runs of digits in a text stand for. -/
def figures (text : Text) : List Int :=
  (text.splitOnP fun character => !character.isDigit).filterMap fun run =>
    (Decimal.readNat? run).map Int.ofNat

/-- The types of the entries of a part, which stand behind the figures. -/
def listedTypes (part : Text) : List Text :=
  (entries part).map fun entry => entry.dropWhile Char.isDigit

/-- Pieces stand with a plus sign between them, and blanks around it. -/
theorem intercalate_plus (piece next : Text) (pieces : List Text) :
    " + ".toList.intercalate (piece :: next :: pieces) =
      piece ++ ' ' :: '+' :: ' ' :: " + ".toList.intercalate (next :: pieces) := by
  rw [List.intercalate_cons_cons, List.append_assoc]
  rfl

theorem forall_mem_intercalate_plus {holds : Char → Prop} {pieces : List Text}
    (hpieces : ∀ piece ∈ pieces, ∀ character ∈ piece, holds character) (hblank : holds ' ')
    (hplus : holds '+') : ∀ character ∈ " + ".toList.intercalate pieces, holds character := by
  induction pieces with
  | nil => exact List.forall_mem_nil _
  | cons piece pieces ih =>
      obtain ⟨hpiece, hrest⟩ := List.forall_mem_cons.1 hpieces
      cases pieces with
      | nil => rwa [List.intercalate_singleton]
      | cons next pieces =>
          simp only [intercalate_plus, List.forall_mem_append, List.forall_mem_cons]
          exact ⟨hpiece, hblank, hplus, hblank, ih hrest⟩

section Figures

theorem figures_append {separator : Char} (hseparator : separator.isDigit = false)
    (before after : Text) :
    figures (before ++ separator :: after) = figures before ++ figures after := by
  rw [figures, List.splitOnP_append_cons before after (by simpa using hseparator),
    List.filterMap_append]
  rfl

theorem figures_cons {separator : Char} (hseparator : separator.isDigit = false) (text : Text) :
    figures (separator :: text) = figures text :=
  figures_append hseparator [] text

theorem figures_ofNat (value : Nat) : figures (Decimal.ofNat value) = [(value : Int)] := by
  rw [figures, List.splitOnP_eq_singleton]
  · simp
  · intro character hmem
    rw [Decimal.isDigit_of_mem_ofNat hmem, Bool.not_true]

theorem figures_of_letters {text : Text}
    (hletters : ∀ character ∈ text, character.isLower = true) : figures text = [] := by
  induction text with
  | nil => rfl
  | cons letter text ih =>
      obtain ⟨hletter, hrest⟩ := List.forall_mem_cons.1 hletters
      rw [figures_cons (isDigit_eq_false_of_isLower hletter), ih hrest]

/-- A number that is not negative is the only figure of a text with letters behind it. -/
theorem figures_ofInt_append {value : Int} (hvalue : 0 ≤ value) {letters : Text}
    (hletters : ∀ character ∈ letters, character.isLower = true) :
    figures (Decimal.ofInt value ++ letters) = [value] := by
  obtain ⟨number, rfl⟩ := Int.eq_ofNat_of_zero_le hvalue
  cases letters with
  | nil =>
      rw [List.append_nil]
      exact figures_ofNat number
  | cons letter letters =>
      obtain ⟨hletter, hrest⟩ := List.forall_mem_cons.1 hletters
      rw [figures_append (isDigit_eq_false_of_isLower hletter), figures_of_letters hrest,
        List.append_nil]
      exact figures_ofNat number

theorem figures_intercalate_plus (pieces : List Text) :
    figures (" + ".toList.intercalate pieces) = pieces.flatMap figures := by
  induction pieces with
  | nil => rfl
  | cons piece pieces ih =>
      cases pieces with
      | nil => rw [List.intercalate_singleton, List.flatMap_singleton]
      | cons next pieces =>
          rw [intercalate_plus, figures_append rfl, figures_cons rfl, figures_cons rfl, ih]
          exact (List.flatMap_cons ..).symm

end Figures

/-! ## Entries -/

/-- The texts that are read as one entry: without blanks, plus signs and opening brackets, or in
brackets. -/
inductive IsEntry : Text → Prop
  | bare {first : Char} {rest : Text} (hsolid : ∀ character ∈ first :: rest,
      Text.isBlank character = false ∧ character ≠ '+' ∧ character ≠ '[') : IsEntry (first :: rest)
  | enclosed {inner : Text} (hinner : ']' ∉ inner) : IsEntry ('[' :: inner ++ [']'])

section Entries

theorem trim_cons_blank (text : Text) : Text.trim (' ' :: text) = Text.trim text := by
  rw [Text.trim, Text.trim, List.dropWhile_cons_of_pos (by decide)]

theorem trim_append_blank {text after : Text} (hne : text ≠ [])
    (hfirst : text.dropWhile Text.isBlank = text)
    (hlast : text.reverse.dropWhile Text.isBlank = text.reverse)
    (hafter : after = [] ∨ after = [' ']) : Text.trim (text ++ after) = text := by
  obtain rfl | rfl := hafter
  · rw [List.append_nil, Text.trim, hfirst, hlast, List.reverse_reverse]
  · have hkept : (text ++ [' ']).dropWhile Text.isBlank = text ++ [' '] := by
      rw [List.dropWhile_append, hfirst, if_neg (by rwa [List.isEmpty_iff])]
    rw [Text.trim, hkept, List.reverse_append, List.reverse_singleton, List.singleton_append,
      List.dropWhile_cons_of_pos (by decide), hlast, List.reverse_reverse]

theorem outerPieces_append_of_bare {piece : Text}
    (hbare : ∀ character ∈ piece, character ≠ '+' ∧ character ≠ '[') (rest : Text) :
    outerPieces false (piece ++ rest) = (outerPieces false rest).modifyHead (piece ++ ·) := by
  induction piece with
  | nil => exact (congrFun List.modifyHead_id _).symm
  | cons first piece ih =>
      obtain ⟨⟨hplus, hbracket⟩, hrest⟩ := List.forall_mem_cons.1 hbare
      rw [List.cons_append, outerPieces, if_neg (by simp [hplus])]
      simp only [Bool.false_eq_true, if_false, beq_eq_false_iff_ne.2 hbracket]
      rw [ih hrest, List.modifyHead_modifyHead]
      rfl

theorem outerPieces_append_of_inner {inner : Text} (hinner : ']' ∉ inner) (rest : Text) :
    outerPieces true (inner ++ ']' :: rest) =
      (outerPieces false rest).modifyHead (inner ++ ']' :: ·) := by
  induction inner with
  | nil => rfl
  | cons first inner ih =>
      obtain ⟨hbracket, hrest⟩ := not_or.1 (mt List.mem_cons.2 hinner)
      rw [List.cons_append, outerPieces, if_neg (by simp)]
      simp only [if_true, bne_iff_ne.2 (Ne.symm hbracket)]
      rw [ih hrest, List.modifyHead_modifyHead]
      rfl

namespace IsEntry

variable {entry : Text}

theorem ne_nil (hentry : IsEntry entry) : entry ≠ [] := by
  cases hentry <;> simp

theorem trim_append (hentry : IsEntry entry) {after : Text}
    (hafter : after = [] ∨ after = [' ']) : Text.trim (entry ++ after) = entry := by
  apply trim_append_blank hentry.ne_nil _ _ hafter
  · cases hentry with
    | bare hsolid => exact Text.dropWhile_isBlank_eq_self fun _ hmem => (hsolid _ hmem).1
    | enclosed hinner => exact List.dropWhile_cons_of_neg (by decide)
  · cases hentry with
    | bare hsolid =>
        exact Text.dropWhile_isBlank_eq_self fun _ hmem => (hsolid _ (List.mem_reverse.1 hmem)).1
    | enclosed hinner =>
        rw [List.reverse_append]
        exact List.dropWhile_cons_of_neg (by decide)

/-- The pieces go on within an entry. -/
theorem outerPieces_append (hentry : IsEntry entry) (rest : Text) :
    outerPieces false (entry ++ rest) = (outerPieces false rest).modifyHead (entry ++ ·) := by
  cases hentry with
  | bare hsolid => exact outerPieces_append_of_bare (fun _ hmem => (hsolid _ hmem).2) rest
  | @enclosed inner hinner =>
      have hinside : outerPieces false ('[' :: inner ++ [']'] ++ rest) =
          (outerPieces true (inner ++ ']' :: rest)).modifyHead ('[' :: ·) := by
        rw [List.append_assoc]
        rfl
      rw [hinside, outerPieces_append_of_inner hinner, List.modifyHead_modifyHead]
      simp [Function.comp_def]

end IsEntry

/-- A blank in front of the first piece is lost. -/
theorem map_trim_outerPieces_cons_blank (text : Text) :
    (outerPieces false (' ' :: text)).map Text.trim = (outerPieces false text).map Text.trim := by
  have hblank : outerPieces false (' ' :: text) =
      (outerPieces false text).modifyHead (' ' :: ·) := rfl
  rw [hblank]
  cases outerPieces false text with
  | nil => rfl
  | cons piece pieces => rw [List.modifyHead_cons, List.map_cons, List.map_cons, trim_cons_blank]

theorem entries_cons_blank (text : Text) : entries (' ' :: text) = entries text := by
  rw [entries, entries, map_trim_outerPieces_cons_blank]

/-- Entries with plus signs between them are read one by one. -/
theorem entries_intercalate_plus {pieces : List Text} (hpieces : ∀ piece ∈ pieces, IsEntry piece)
    {after : Text} (hafter : after = [] ∨ after = [' ']) :
    entries (" + ".toList.intercalate pieces ++ after) = pieces := by
  cases pieces with
  | nil => obtain rfl | rfl := hafter <;> rfl
  | cons first pieces =>
      have htrimmed : (outerPieces false
          (" + ".toList.intercalate (first :: pieces) ++ after)).map Text.trim =
          first :: pieces := by
        induction pieces generalizing first with
        | nil =>
            have hfirst := hpieces first List.mem_cons_self
            have hend : outerPieces false after = [after] := by
              obtain rfl | rfl := hafter <;> rfl
            rw [List.intercalate_singleton, hfirst.outerPieces_append, hend, List.modifyHead_cons,
              List.map_singleton, hfirst.trim_append hafter]
        | cons next pieces ih =>
            obtain ⟨hfirst, hrest⟩ := List.forall_mem_cons.1 hpieces
            have hplus : ∀ text, outerPieces false (' ' :: '+' :: text) =
                [' '] :: outerPieces false text := fun _ => rfl
            rw [intercalate_plus, List.append_assoc, hfirst.outerPieces_append, List.cons_append,
              List.cons_append, hplus, List.modifyHead_cons, List.map_cons,
              hfirst.trim_append (.inr rfl), List.cons_append, map_trim_outerPieces_cons_blank,
              ih next hrest]
      rw [entries, htrimmed, List.filter_eq_self]
      intro piece hmem
      simpa using (hpieces piece hmem).ne_nil

example : entries " [5 + 3fi] + m + 8fi ".toList =
    ["[5 + 3fi]".toList, ['m'], "8fi".toList] := by
  decide

end Entries

end Skirmish.Report
