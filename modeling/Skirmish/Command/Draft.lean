import Skirmish.Command.Layout
import Skirmish.Command.Names
import Skirmish.Command.Plan

/-!
# Reading a layout

Unmarked text that fits exactly one role takes it at once; text that fits several waits until the
keywords have spoken and then takes the first role that is still open. A keyword's text has to fit
its role, and no role or use of a name is given twice.
-/

namespace Skirmish

/-- Why a text is no command. -/
inductive ParseError where
  | empty
  | invalidText (role : Role) (text : Text)
  | repeatedRole (role : Role)
  | repeatedName (use : NameUse)
  | unresolvable (text : Text)
  | attackCount (count : Nat)
  | tooManyDice (count : Nat)
  | invalidName (use : NameUse) (name : Text)
  deriving DecidableEq, Repr

def tooManyDiceMessage (count : Nat) : Text :=
  "command could roll ".toList ++ Decimal.ofNat count ++ " dice (limit ".toList ++
    Decimal.ofNat maxDicePerCommand ++ [')']

namespace ParseError

def message : ParseError → Text
  | empty => "empty command".toList
  | invalidText role text => "invalid ".toList ++ role.name ++ ": '".toList ++ text ++ ['\'']
  | repeatedRole role => "multiple ".toList ++ role.name ++ " values".toList
  | repeatedName use => "multiple ".toList ++ use.word ++ " values".toList
  | unresolvable text => "unable to determine what '".toList ++ text ++ "' is".toList
  | attackCount count =>
    "invalid number of attacks: ".toList ++ Decimal.ofNat count ++ " (1 to ".toList ++
      Decimal.ofNat maxAttacks ++ [')']
  | tooManyDice count => tooManyDiceMessage count
  | invalidName use name =>
    "invalid ".toList ++ use.word ++ " name '".toList ++ name ++ ['\'']

end ParseError

/-- What has been read of a command: its plan and the names in it. -/
structure Draft where
  plan : Plan
  names : Names
  deriving DecidableEq, Repr

namespace Draft

def empty : Draft :=
  ⟨Plan.empty, Names.empty⟩

def assign (draft : Draft) (reading : Reading) : Draft :=
  { draft with plan := draft.plan.assign reading }

def addChunk (draft : Draft) (chunk : Chunk) : Except ParseError Draft :=
  match chunk.keyword.topic with
  | .inl role =>
    if draft.plan.has role then .error (.repeatedRole role)
    else
      match role.read? chunk.text with
      | some reading => .ok (draft.assign reading)
      | none => .error (.invalidText role chunk.text)
  | .inr use =>
    if (draft.names.get? use).isSome then .error (.repeatedName use)
    else if Names.isName chunk.text then
      .ok { draft with names := draft.names.put use chunk.text }
    else .error (.invalidName use chunk.text)

/-- Takes in chunks up to the first that does not fit. -/
def addChunks (draft : Draft) : List Chunk → Except ParseError Draft
  | [] => .ok draft
  | chunk :: chunks =>
    match draft.addChunk chunk with
    | .ok draft => draft.addChunks chunks
    | .error cause => .error cause

/-- Takes in unmarked text that has waited: the first of its readings whose role is open. -/
def settle (draft : Draft) (text : Text) (readings : List Reading) : Except ParseError Draft :=
  match readings.find? fun reading => !draft.plan.has reading.role with
  | some reading => .ok (draft.assign reading)
  | none => .error (.unresolvable text)

def ofLayout (layout : Layout) : Except ParseError Draft :=
  if layout.leading.isEmpty then empty.addChunks layout.chunks
  else
    match Role.readings (fun _ => true) layout.leading with
    | [reading] => (empty.assign reading).addChunks layout.chunks
    | readings =>
      match empty.addChunks layout.chunks with
      | .ok draft => draft.settle layout.leading readings
      | .error cause => .error cause

/-- Whether the attacks and dice of the plan keep to the limits of a command. -/
def checkLimits (draft : Draft) : Except ParseError Draft :=
  let count := draft.plan.attack.map AttackRoll.count
  match count.filter fun count => count == 0 || maxAttacks < count with
  | some count => .error (.attackCount count)
  | none =>
    if maxDicePerCommand < draft.plan.maxDice then .error (.tooManyDice draft.plan.maxDice)
    else .ok draft

end Draft

end Skirmish
