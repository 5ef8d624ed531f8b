import Skirmish.Console.Location
import Skirmish.Notebook.Rows

/-!
# Directories

The part of a file system that the console works with: documents that it can read and notebooks
that it keeps, each at a path. A notebook can only be kept in a folder that is there, and in a
place that no document has.
-/

namespace Skirmish

/-- What stands at a path. -/
inductive Directory.Entry where
  | document (content : Text)
  | notebook (rows : RowNotebook)

/-- Entries by path, and the folders there are besides the directory itself and those around it. -/
structure Directory where
  entries : List (Text × Directory.Entry)
  folders : List Text

namespace Directory

def ofDocuments (documents : List (Text × Text)) : Directory :=
  ⟨documents.map fun (path, content) => (path, .document content), []⟩

def isFolder (directory : Directory) (path : Text) : Bool :=
  Path.onlyClimbs path || directory.folders.contains path

inductive Found where
  | nothing
  | folder
  | entry (entry : Entry)

def find (directory : Directory) (path : Text) : Found :=
  let followed := Path.followed path
  if directory.isFolder followed then .folder
  else
    match directory.entries.lookup followed with
    | some entry => .entry entry
    | none => .nothing

/-- Whether a notebook can be kept at a path where there is nothing yet. -/
def hasRoomAt (directory : Directory) (path : Text) : Bool :=
  !directory.isFolder path && (Path.folder? path).all directory.isFolder

/-- Whether a document can become a notebook: it holds a byte at most. -/
def isVacant (content : Text) : Bool :=
  (String.ofList content).utf8ByteSize ≤ 1

/-- The notebook at a location, which is empty when there is none yet. -/
def notebook? (directory : Directory) (location : Location) : Option RowNotebook :=
  match location with
  | .passing => some RowNotebook.empty
  | .kept path =>
    match directory.entries.lookup path with
    | some (.notebook rows) => some rows
    | some (.document content) => if isVacant content then some RowNotebook.empty else none
    | none => if directory.hasRoomAt path then some RowNotebook.empty else none
  | .unreachable => none

def keep (directory : Directory) (location : Location) (rows : RowNotebook) : Directory :=
  match location with
  | .kept path =>
    { directory with
      entries := (path, .notebook rows) :: directory.entries.filter fun entry => entry.1 != path }
  | .passing => directory
  | .unreachable => directory

end Directory

end Skirmish
