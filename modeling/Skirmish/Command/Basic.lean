import Skirmish.Command.Draft

/-!
# Commands

A command is read from its normal form, so spacing and letter case do not matter. Its label is what
it says about rolling, in the order in which it was said and in one spelling; the names are left
out.
-/

namespace Skirmish

/-- The label of a layout: its text in the spelling of labels, without names. -/
def Layout.label (layout : Layout) : Text :=
  let leading := if layout.leading.isEmpty then [] else [layout.leading]
  let rolled := layout.chunks.filter fun chunk => chunk.keyword.topic.isLeft
  [' '].intercalate (leading ++ rolled.map Chunk.label)

/-- A command: what to roll, which saved commands it speaks of, and its label. -/
structure Command where
  plan : Plan
  names : Names
  label : Text
  deriving DecidableEq, Repr

namespace Command

/-- Whether the command says anything besides names. -/
def hasRoll (command : Command) : Bool :=
  !command.label.isEmpty

/-- Reads a command from its normal form. -/
def ofNormal (text : Text) : Except ParseError Command :=
  if text.isEmpty then .error .empty
  else
    let layout := Layout.ofText text
    match (Draft.ofLayout layout).bind Draft.checkLimits with
    | .ok draft => .ok ⟨draft.plan, draft.names, layout.label⟩
    | .error cause => .error cause

def parse (input : Text) : Except ParseError Command :=
  ofNormal (normalize input)

end Command

end Skirmish
