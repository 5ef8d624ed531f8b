import Skirmish.Notebook.Sorted

/-!
# Notebooks of rows

Saved commands kept as the rows of a table whose key is the name. Rows stand in the order in which
their names arrived; a new command for a name replaces the old one in its row. The order of names
is made when the rows are listed.
-/

namespace Skirmish

/-- Replaces the command in the row of a name, or adds a row at the end. -/
def upsertRow (row : SavedCommand) : List SavedCommand → List SavedCommand
  | [] => [row]
  | other :: rows => if other.name = row.name then row :: rows else other :: upsertRow row rows

theorem mem_upsertRow {row member : SavedCommand} {rows : List SavedCommand}
    (hmem : member ∈ upsertRow row rows) : member = row ∨ member ∈ rows := by
  induction rows with
  | nil => simpa [upsertRow] using hmem
  | cons other rows ih =>
    unfold upsertRow at hmem
    split at hmem
    · rcases List.mem_cons.1 hmem with heq | hrest
      · exact .inl heq
      · exact .inr (List.mem_cons_of_mem _ hrest)
    · rcases List.mem_cons.1 hmem with heq | hrest
      · exact .inr (heq ▸ List.mem_cons_self)
      · exact (ih hrest).imp_right (List.mem_cons_of_mem _)

/-- Whether no name has two rows. -/
def NamesDiffer (rows : List SavedCommand) : Prop :=
  rows.Pairwise fun left right => left.name ≠ right.name

theorem namesDiffer_upsertRow (row : SavedCommand) {rows : List SavedCommand}
    (hdiffer : NamesDiffer rows) : NamesDiffer (upsertRow row rows) := by
  induction rows with
  | nil => simp [upsertRow, NamesDiffer]
  | cons other rows ih =>
    obtain ⟨hother, hrows⟩ := List.pairwise_cons.1 hdiffer
    unfold upsertRow
    split
    · next heq =>
      exact List.pairwise_cons.2 ⟨fun member hmem => heq ▸ hother member hmem, hrows⟩
    · next hne =>
      refine List.pairwise_cons.2 ⟨fun member hmem => ?_, ih hrows⟩
      rcases mem_upsertRow hmem with rfl | hrest
      · exact hne
      · exact hother member hrest

/-- Saved commands as rows with different names. -/
structure RowNotebook where
  rows : List SavedCommand
  differ : NamesDiffer rows

namespace RowNotebook

def empty : RowNotebook :=
  ⟨[], List.Pairwise.nil⟩

def save (notebook : RowNotebook) (name command : Text) : RowNotebook :=
  ⟨upsertRow ⟨name, command⟩ notebook.rows, namesDiffer_upsertRow _ notebook.differ⟩

def load? (notebook : RowNotebook) (name : Text) : Option Text :=
  (notebook.rows.find? fun row => row.name == name).map SavedCommand.command

def delete (notebook : RowNotebook) (name : Text) : RowNotebook :=
  ⟨notebook.rows.filter fun row => row.name != name, List.Pairwise.filter _ notebook.differ⟩

/-- Whether rows go when a name is removed. -/
def removes (notebook : RowNotebook) (name : Text) : Bool :=
  (notebook.delete name).rows.length < notebook.rows.length

/-- The saved commands by ascending name. -/
def toList (notebook : RowNotebook) : List SavedCommand :=
  notebook.rows.mergeSort fun left right => !(right.name < left.name)

end RowNotebook

end Skirmish
