import Skirmish.Text.Basic

/-!
# Sorted notebooks

Saved commands kept in the order of their names, each name once. Names are ordered by code points,
which is also the order of their UTF-8 bytes.
-/

namespace Skirmish

/-- A command saved under a name. -/
structure SavedCommand where
  name : Text
  command : Text
  deriving DecidableEq, Repr

/-- Whether the names ascend strictly. -/
def NamesAscend (entries : List SavedCommand) : Prop :=
  entries.Pairwise fun left right => left.name < right.name

/-- Puts an entry into its place among ascending ones, over an entry of its name. -/
def insertSaved (entry : SavedCommand) : List SavedCommand → List SavedCommand
  | [] => [entry]
  | other :: entries =>
    if entry.name < other.name then entry :: other :: entries
    else if entry.name = other.name then entry :: entries
    else other :: insertSaved entry entries

theorem mem_insertSaved {entry member : SavedCommand} {entries : List SavedCommand}
    (hmem : member ∈ insertSaved entry entries) : member = entry ∨ member ∈ entries := by
  induction entries with
  | nil => simpa [insertSaved] using hmem
  | cons other entries ih =>
    unfold insertSaved at hmem
    split at hmem
    · simpa using hmem
    · split at hmem
      · rcases List.mem_cons.1 hmem with heq | hrest
        · exact .inl heq
        · exact .inr (List.mem_cons_of_mem _ hrest)
      · rcases List.mem_cons.1 hmem with heq | hrest
        · exact .inr (heq ▸ List.mem_cons_self)
        · exact (ih hrest).imp_right (List.mem_cons_of_mem _)

theorem namesAscend_insertSaved (entry : SavedCommand) {entries : List SavedCommand}
    (hascend : NamesAscend entries) : NamesAscend (insertSaved entry entries) := by
  induction entries with
  | nil => simp [insertSaved, NamesAscend]
  | cons other entries ih =>
    obtain ⟨hother, hentries⟩ := List.pairwise_cons.1 hascend
    unfold insertSaved
    split
    · next hlt =>
      refine List.pairwise_cons.2 ⟨fun member hmem => ?_, hascend⟩
      rcases List.mem_cons.1 hmem with rfl | hrest
      · exact hlt
      · exact List.lt_trans hlt (hother member hrest)
    · split
      · next heq =>
        exact List.pairwise_cons.2 ⟨fun member hmem => heq ▸ hother member hmem, hentries⟩
      · next hnotLt hne =>
        have hgt : other.name < entry.name :=
          Std.lt_of_le_of_ne (Std.not_lt.1 hnotLt) fun heq => hne heq.symm
        refine List.pairwise_cons.2 ⟨fun member hmem => ?_, ih hentries⟩
        rcases mem_insertSaved hmem with rfl | hrest
        · exact hgt
        · exact hother member hrest

/-- Saved commands in the order of their names. -/
structure SortedNotebook where
  entries : List SavedCommand
  ascend : NamesAscend entries

namespace SortedNotebook

def empty : SortedNotebook :=
  ⟨[], List.Pairwise.nil⟩

def save (notebook : SortedNotebook) (name command : Text) : SortedNotebook :=
  ⟨insertSaved ⟨name, command⟩ notebook.entries, namesAscend_insertSaved _ notebook.ascend⟩

def load? (notebook : SortedNotebook) (name : Text) : Option Text :=
  (notebook.entries.find? fun entry => entry.name == name).map SavedCommand.command

def delete (notebook : SortedNotebook) (name : Text) : SortedNotebook :=
  ⟨notebook.entries.filter fun entry => entry.name != name,
    List.Pairwise.filter _ notebook.ascend⟩

/-- Whether there is an entry to take out under a name. -/
def removes (notebook : SortedNotebook) (name : Text) : Bool :=
  (notebook.load? name).isSome

/-- The saved commands by ascending name. -/
def toList (notebook : SortedNotebook) : List SavedCommand :=
  notebook.entries

end SortedNotebook

end Skirmish
