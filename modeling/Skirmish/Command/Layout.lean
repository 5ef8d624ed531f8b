import Skirmish.Command.Keyword
import Skirmish.Text.Lowercase

/-!
# The layout of a command

Keywords are found anywhere in a command, from left to right. Each owns the text up to the next
one, and the text before the first is unmarked. Spacing and letter case are taken away before, so
the layout of a command is that of its normal form.
-/

namespace Skirmish

/-- The form of a command that its reading depends on: no blanks, small letters. -/
def normalize (input : Text) : Text :=
  Text.lower (Text.withoutBlanks input)

/-- A keyword with the text that it owns. -/
structure Chunk where
  keyword : Keyword
  text : Text
  deriving DecidableEq, Repr

namespace Chunk

/-- The chunk in the spelling of labels: the keyword, and its text after a blank. -/
def label (chunk : Chunk) : Text :=
  if chunk.text.isEmpty then chunk.keyword.labelWord
  else chunk.keyword.labelWord ++ ' ' :: chunk.text

/-- The chunk as it stands in a normal form. -/
def source (chunk : Chunk) : Text :=
  chunk.keyword.word ++ chunk.text

end Chunk

/-- A text cut at its keywords: the text before the first one, and a chunk for each. -/
structure Layout where
  leading : Text
  chunks : List Chunk
  deriving DecidableEq, Repr

namespace Layout

/-- Puts a keyword in front: the leading text becomes its own. -/
def mark (keyword : Keyword) (layout : Layout) : Layout :=
  ⟨[], ⟨keyword, layout.leading⟩ :: layout.chunks⟩

/-- Puts a character in front of the leading text. -/
def extend (character : Char) (layout : Layout) : Layout :=
  { layout with leading := character :: layout.leading }

/-- The layout of a text whose first `skipped` characters belong to a keyword already found. -/
def scan : Nat → Text → Layout
  | _, [] => ⟨[], []⟩
  | skipped + 1, _ :: rest => scan skipped rest
  | 0, character :: rest =>
    match Keyword.at? (character :: rest) with
    | some keyword => mark keyword (scan (keyword.word.length - 1) rest)
    | none => extend character (scan 0 rest)

def ofText (text : Text) : Layout :=
  scan 0 text

def source (layout : Layout) : Text :=
  layout.leading ++ layout.chunks.flatMap Chunk.source

end Layout

end Skirmish
