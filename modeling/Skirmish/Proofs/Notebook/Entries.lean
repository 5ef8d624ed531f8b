import Skirmish.Notebook.Basic

/-!
# What a notebook holds

Saving and removing change the entry of one name.  The order of the entries, by name or by arrival,
does not show in what is loaded.
-/

namespace Skirmish

theorem find?_insertSaved (entry : SavedCommand) (entries : List SavedCommand) (name : Text) :
    (insertSaved entry entries).find? (fun other => other.name == name) =
      if entry.name = name then some entry else entries.find? fun other => other.name == name := by
  induction entries with
  | nil => by_cases hname : entry.name = name <;> simp [insertSaved, hname]
  | cons first entries ih =>
      rw [insertSaved]
      split
      · by_cases hname : entry.name = name <;> simp [hname]
      · split
        · next hsame =>
          by_cases hname : entry.name = name
          · simp [hname]
          · have hfirst : first.name ≠ name := hsame ▸ hname
            simp [hname, hfirst]
        · next hother =>
          by_cases hname : first.name = name
          · have hentry : entry.name ≠ name := fun heq => hother (heq.trans hname.symm)
            simp [hname, hentry]
          · simp [hname, ih]

theorem find?_upsertRow (row : SavedCommand) (rows : List SavedCommand) (name : Text) :
    (upsertRow row rows).find? (fun other => other.name == name) =
      if row.name = name then some row else rows.find? fun other => other.name == name := by
  induction rows with
  | nil => by_cases hname : row.name = name <;> simp [upsertRow, hname]
  | cons first rows ih =>
      rw [upsertRow]
      split
      · next hsame =>
        by_cases hname : row.name = name
        · simp [hname]
        · have hfirst : first.name ≠ name := fun heq => hname (hsame.symm.trans heq)
          simp [hname, hfirst]
      · next hother =>
        by_cases hname : first.name = name
        · have hrow : row.name ≠ name := fun heq => hother (hname.trans heq.symm)
          simp [hname, hrow]
        · simp [hname, ih]

/-- A search among what is left after a name was removed does not find that name. -/
theorem find?_filter_name (entries : List SavedCommand) (name other : Text) :
    (entries.filter fun entry => entry.name != name).find? (fun entry => entry.name == other) =
      if name = other then none else entries.find? fun entry => entry.name == other := by
  rw [List.find?_filter]
  by_cases hname : name = other
  · simp [hname]
  · have htest : (fun entry : SavedCommand =>
        decide ((entry.name != name) = true ∧ (entry.name == other) = true)) =
        fun entry => entry.name == other := by
      funext entry
      by_cases hentry : entry.name = other
      · simp [hentry, Ne.symm hname]
      · simp [hentry]
    rw [if_neg hname, htest]

/-- After saving, the name has the new command and every other name what it had. -/
theorem Notebook.load?_save (notebook : Notebook) (name command other : Text) :
    (notebook.save name command).load? other =
      if name = other then some command else notebook.load? other := by
  cases notebook with
  | sorted notebook =>
      simp only [save, load?, SortedNotebook.save, SortedNotebook.load?, find?_insertSaved]
      split <;> rfl
  | rows notebook =>
      simp only [save, load?, RowNotebook.save, RowNotebook.load?, find?_upsertRow]
      split <;> rfl

/-- After removing, the name has no command and every other name what it had. -/
theorem Notebook.load?_delete (notebook : Notebook) (name other : Text) :
    (notebook.delete name).load? other = if name = other then none else notebook.load? other := by
  cases notebook with
  | sorted notebook =>
      simp only [delete, load?, SortedNotebook.delete, SortedNotebook.load?, find?_filter_name]
      split <;> rfl
  | rows notebook =>
      simp only [delete, load?, RowNotebook.delete, RowNotebook.load?, find?_filter_name]
      split <;> rfl

end Skirmish
