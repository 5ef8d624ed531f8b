import Skirmish.Notebook.Rows

/-!
# Written notebooks

Rows as lines of text: the name, a blank, and the command. Names hold no blanks and commands no
line ends, so the lines tell the rows apart.
-/

namespace Skirmish

/-- The line of a row. -/
def SavedCommand.line (row : SavedCommand) : Text :=
  row.name ++ ' ' :: row.command

def SavedCommand.ofLine (line : Text) : SavedCommand :=
  ⟨line.takeWhile (· != ' '), (line.dropWhile (· != ' ')).drop 1⟩

namespace RowNotebook

def write (notebook : RowNotebook) : Text :=
  notebook.rows.flatMap fun row => row.line ++ ['\n']

/-- The rows that a text is the written form of. -/
def read (content : Text) : RowNotebook :=
  let lines := (content.splitOn '\n').filter (!·.isEmpty)
  (lines.map SavedCommand.ofLine).foldl (fun notebook row => notebook.save row.name row.command)
    empty

end RowNotebook

end Skirmish
