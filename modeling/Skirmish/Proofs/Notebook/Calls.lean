import Mathlib.Data.List.Induction
import Mathlib.Data.List.Sort
import Skirmish.Proofs.Keyed
import Skirmish.Proofs.Notebook.Entries
import Skirmish.Proofs.Text.Bytes

/-!
# Calls of a notebook

A notebook is asked to save, to load, to remove and to list.  What it answers depends on nothing but
the calls before: a name has the text that was saved for it last, unless it was removed since.  So a
sorted notebook and one of rows cannot be told apart.
-/

namespace Skirmish

/-- Whether a command was saved under a name by a call after which the name was neither saved again
nor removed. -/
def LastSaved (calls : List NotebookCall) (name command : Text) : Prop :=
  ∃ before after, calls = before ++ .save name command :: after ∧
    (∀ other, .save name other ∉ after) ∧ .delete name ∉ after

/-- Whether an answer is the right one after earlier calls. -/
inductive Answered (earlier : List NotebookCall) : NotebookCall → NotebookAnswer → Prop
  | saved {name command : Text} : Answered earlier (.save name command) .saved
  | loaded {name : Text} {found : Option Text}
      (hfound : ∀ command, found = some command ↔ LastSaved earlier name command) :
      Answered earlier (.load name) (.loaded found)
  | deleted {name : Text} {existed : Bool}
      (hexisted : existed = true ↔ ∃ command, LastSaved earlier name command) :
      Answered earlier (.delete name) (.deleted existed)
  /-- As the names ascend, each is listed once. -/
  | listed {entries : List SavedCommand}
      (hentries : ∀ entry, entry ∈ entries ↔ LastSaved earlier entry.name entry.command)
      (hascend : entries.Pairwise fun left right => Text.bytes left.name < Text.bytes right.name) :
      Answered earlier .list (.listed entries)

namespace Notebook

/-- The notebook after calls. -/
def afterAll (notebook : Notebook) (calls : List NotebookCall) : Notebook :=
  calls.foldl (fun notebook call => (notebook.call call).2) notebook

/-- The answers to calls. -/
def answers (notebook : Notebook) : List NotebookCall → List NotebookAnswer
  | [] => []
  | call :: calls => (notebook.call call).1 :: (notebook.call call).2.answers calls

/-! ## What a notebook has and lists -/

theorem removes_eq_contains (notebook : Notebook) (name : Text) :
    notebook.removes name = notebook.contains name := by
  cases notebook with
  | sorted notebook => rfl
  | rows notebook =>
      rw [Bool.eq_iff_iff]
      simp only [removes, RowNotebook.removes, RowNotebook.delete, contains, load?,
        RowNotebook.load?, Option.isSome_map, List.find?_isSome, decide_eq_true_eq,
        List.length_filter_lt_length_iff_exists, bne, Bool.not_eq_true', Bool.not_eq_false]

theorem nodup_row_names (notebook : RowNotebook) :
    (notebook.rows.map SavedCommand.name).Nodup :=
  List.pairwise_map.2 notebook.differ

theorem nodup_names (notebook : Notebook) :
    (notebook.toList.map SavedCommand.name).Nodup := by
  cases notebook with
  | sorted notebook => exact (List.pairwise_map.2 notebook.ascend).nodup
  | rows notebook =>
      have hperm := List.mergeSort_perm notebook.rows fun left right => !(right.name < left.name)
      exact (hperm.map SavedCommand.name).nodup_iff.2 (nodup_row_names notebook)

theorem load?_eq_some_iff (notebook : Notebook) {entry : SavedCommand} :
    notebook.load? entry.name = some entry.command ↔ entry ∈ notebook.toList := by
  have hext : ∀ left right : SavedCommand, left.name = right.name →
      left.command = right.command → left = right := by
    rintro ⟨_, _⟩ ⟨_, _⟩ rfl rfl
    rfl
  cases notebook with
  | sorted notebook => exact Keyed.find?_map_eq_some_iff hext (sorted notebook).nodup_names entry
  | rows notebook =>
      refine Iff.trans ?_ List.mem_mergeSort.symm
      exact Keyed.find?_map_eq_some_iff hext (nodup_row_names notebook) entry

/-- No row is listed after one of a larger name. -/
theorem pairwise_toList_rows (notebook : RowNotebook) :
    notebook.toList.Pairwise fun left right => ¬right.name < left.name := by
  have htrans : ∀ first second third : SavedCommand, (!(second.name < first.name)) = true →
      (!(third.name < second.name)) = true → (!(third.name < first.name)) = true := by
    intro first second third hleft hright
    simp only [Bool.not_eq_true', decide_eq_false_iff_not, Std.not_lt] at *
    exact Std.le_trans hleft hright
  have htotal : ∀ left right : SavedCommand,
      (!(right.name < left.name) || !(left.name < right.name)) = true := by
    intro left right
    simp only [Bool.or_eq_true, Bool.not_eq_true', decide_eq_false_iff_not, Std.not_lt]
    exact Std.le_total
  refine (List.pairwise_mergeSort htrans htotal notebook.rows).imp fun hsorted => ?_
  simpa using hsorted

theorem namesAscend_toList (notebook : Notebook) : NamesAscend notebook.toList := by
  cases notebook with
  | sorted notebook => exact notebook.ascend
  | rows notebook =>
      have hdiffer := List.pairwise_map.1 (rows notebook).nodup_names
      refine ((pairwise_toList_rows notebook).and hdiffer).imp fun hboth => ?_
      exact Std.lt_of_le_of_ne (Std.not_lt.1 hboth.1) hboth.2

/-- Whether two notebooks have the same texts under all names. -/
def Alike (left right : Notebook) : Prop :=
  ∀ name, left.load? name = right.load? name

section Alike

variable {left right : Notebook}

theorem Alike.toList_eq (halike : Alike left right) : left.toList = right.toList := by
  have hmem : ∀ entry, entry ∈ left.toList ↔ entry ∈ right.toList := by
    intro entry
    rw [← load?_eq_some_iff, ← load?_eq_some_iff, halike]
  have hasymm : Std.Asymm fun left right : SavedCommand => left.name < right.name :=
    ⟨fun _ _ => List.lt_asymm⟩
  exact left.namesAscend_toList.eq_of_mem_iff right.namesAscend_toList hmem

theorem Alike.removes_eq (halike : Alike left right) (name : Text) :
    left.removes name = right.removes name := by
  rw [removes_eq_contains, removes_eq_contains, contains, contains, halike]

/-- A call is answered the same and leaves the same. -/
theorem Alike.call (halike : Alike left right) (asked : NotebookCall) :
    (left.call asked).1 = (right.call asked).1 ∧
      Alike (left.call asked).2 (right.call asked).2 := by
  cases asked with
  | save name command =>
      refine ⟨rfl, fun other => ?_⟩
      simp only [Notebook.call, load?_save, halike other]
  | load name => exact ⟨congrArg NotebookAnswer.loaded (halike name), halike⟩
  | delete name =>
      refine ⟨congrArg NotebookAnswer.deleted (halike.removes_eq name), fun other => ?_⟩
      simp only [Notebook.call, load?_delete, halike other]
  | list => exact ⟨congrArg NotebookAnswer.listed halike.toList_eq, halike⟩

theorem Alike.answers_eq (halike : Alike left right) (calls : List NotebookCall) :
    left.answers calls = right.answers calls := by
  induction calls generalizing left right with
  | nil => rfl
  | cons asked calls ih =>
      obtain ⟨hanswer, hafter⟩ := halike.call asked
      rw [answers, answers, hanswer, ih hafter]

end Alike

end Notebook

/-! ## What was saved last -/

/-- A call saves for its name, and leaves alone what was saved for other names. -/
theorem lastSaved_append_singleton {calls : List NotebookCall} {asked : NotebookCall}
    {name command : Text} :
    LastSaved (calls ++ [asked]) name command ↔ asked = .save name command ∨
      (LastSaved calls name command ∧ (∀ other, asked ≠ .save name other) ∧
        asked ≠ .delete name) := by
  constructor
  · rintro ⟨before, after, hcalls, hsaves, hdelete⟩
    rcases List.eq_nil_or_concat after with rfl | ⟨rest, last, rfl⟩
    · obtain ⟨-, hasked⟩ := List.append_inj' hcalls rfl
      exact .inl (List.singleton_inj.1 hasked)
    · rw [List.concat_eq_append, ← List.cons_append, ← List.append_assoc] at hcalls
      obtain ⟨rfl, hlast⟩ := List.append_inj' hcalls rfl
      cases List.singleton_inj.1 hlast
      simp only [List.concat_eq_append, List.mem_append, List.mem_singleton, not_or]
        at hsaves hdelete
      right
      refine ⟨⟨before, rest, rfl, fun other => (hsaves other).1, hdelete.1⟩, ?_, ?_⟩
      · exact fun other hsaved => (hsaves other).2 hsaved.symm
      · exact fun hdeleted => hdelete.2 hdeleted.symm
  · rintro (rfl | ⟨⟨before, after, rfl, hsaves, hdelete⟩, hother, hkept⟩)
    · exact ⟨calls, [], rfl, by simp, by simp⟩
    · refine ⟨before, after ++ [asked], by simp, fun other => ?_, ?_⟩
      · simp only [List.mem_append, List.mem_singleton, not_or]
        exact ⟨hsaves other, (hother other).symm⟩
      · simp only [List.mem_append, List.mem_singleton, not_or]
        exact ⟨hdelete, hkept.symm⟩

namespace Notebook

/-- What a call leaves under a name. -/
theorem load?_call_eq_some_iff (notebook : Notebook) (asked : NotebookCall) (name command : Text) :
    (notebook.call asked).2.load? name = some command ↔ asked = .save name command ∨
      (notebook.load? name = some command ∧ (∀ other, asked ≠ .save name other) ∧
        asked ≠ .delete name) := by
  cases asked with
  | save saved text =>
      simp only [call, load?_save]
      by_cases hname : saved = name <;> simp [hname]
  | load other => simp [call]
  | delete deleted =>
      simp only [call, load?_delete]
      by_cases hname : deleted = name <;> simp [hname]
  | list => simp [call]

theorem afterAll_append_singleton (notebook : Notebook) (calls : List NotebookCall)
    (asked : NotebookCall) :
    notebook.afterAll (calls ++ [asked]) = ((notebook.afterAll calls).call asked).2 := by
  rw [afterAll, List.foldl_append]
  rfl

/-- A notebook that had nothing has what was saved last. -/
theorem load?_afterAll_eq_some_iff {notebook : Notebook}
    (hempty : ∀ name, notebook.load? name = none) (calls : List NotebookCall)
    (name command : Text) :
    (notebook.afterAll calls).load? name = some command ↔ LastSaved calls name command := by
  induction calls using List.reverseRecOn with
  | nil =>
      have hnothing : ¬LastSaved [] name command := by
        rintro ⟨before, after, hcalls, -⟩
        exact absurd hcalls (by simp)
      simp [afterAll, hempty, hnothing]
  | append_singleton calls asked ih =>
      rw [afterAll_append_singleton, load?_call_eq_some_iff, ih, lastSaved_append_singleton]

theorem answered_call {notebook : Notebook} {earlier : List NotebookCall}
    (hholds : ∀ name command, notebook.load? name = some command ↔ LastSaved earlier name command)
    (asked : NotebookCall) : Answered earlier asked (notebook.call asked).1 := by
  cases asked with
  | save name command => exact .saved
  | load name => exact .loaded (hholds name)
  | delete name =>
      apply Answered.deleted
      rw [removes_eq_contains, contains, Option.isSome_iff_exists]
      exact exists_congr (hholds name)
  | list =>
      apply Answered.listed
      · intro entry
        rw [← load?_eq_some_iff, hholds]
      · exact notebook.namesAscend_toList.imp Text.bytes_lt_bytes_iff.2

theorem getElem?_answers (notebook : Notebook) (earlier later : List NotebookCall)
    (asked : NotebookCall) :
    (notebook.answers (earlier ++ asked :: later))[earlier.length]? =
      some ((notebook.afterAll earlier).call asked).1 := by
  induction earlier generalizing notebook with
  | nil => rfl
  | cons first earlier ih => exact ih (notebook.call first).2

/-- A sorted notebook and one of rows, without commands at first, give the same answers to any
calls, each the right one after the calls before it. -/
theorem answers_interchangeable :
    (∀ calls, (sorted .empty).answers calls = (rows .empty).answers calls) ∧
      ∀ earlier asked later, ∃ answer,
        ((sorted .empty).answers (earlier ++ asked :: later))[earlier.length]? = some answer ∧
          Answered earlier asked answer := by
  have hempty : ∀ name, (sorted .empty).load? name = none := fun _ => rfl
  have halike : Alike (sorted .empty) (rows .empty) := fun _ => rfl
  refine ⟨halike.answers_eq, fun earlier asked later => ?_⟩
  refine ⟨_, getElem?_answers (sorted .empty) earlier later asked, ?_⟩
  exact answered_call (load?_afterAll_eq_some_iff hempty earlier) asked

/-- A name that begins past ASCII comes after one that does not. -/
example :
    let sword := "épée".toList
    let zeal := "zeal".toList
    (sorted .empty).answers [.save sword ['1'], .save zeal ['2'], .save sword ['3'], .list,
        .delete zeal, .delete zeal, .load zeal, .load sword] =
      [.saved, .saved, .saved, .listed [⟨zeal, ['2']⟩, ⟨sword, ['3']⟩], .deleted true,
        .deleted false, .loaded none, .loaded (some ['3'])] := by
  decide

end Notebook

end Skirmish
