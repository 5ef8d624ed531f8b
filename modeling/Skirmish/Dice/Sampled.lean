import Skirmish.Dice.Roller
import Skirmish.Term

/-!
# Sampled dice

Dice thrown by a generator of faces. The generator is given by its step: from a state and a number
of sides, one face and the next state. A group without dice, with more dice than a command may roll
or with a number of sides that no real die has is not rolled and gets no total.
-/

namespace Skirmish.SampledDice

/-- Whether the group can be thrown at all. The count is bounded by the limit for a command, since
a critical may double a term past the limit for terms. -/
def isRollable (group : DiceGroup) : Bool :=
  1 ≤ group.count && group.count ≤ maxDicePerCommand &&
    2 ≤ group.sides && group.sides ≤ maxSides

variable {γ : Type}

/-- The sum of `count` faces, added to `total`. -/
def throwDice (next : γ → Nat → Nat × γ) (sides : Nat) : Nat → Nat → γ → Nat × γ
  | 0, total, state => (total, state)
  | count + 1, total, state =>
    let (face, state) := next state sides
    throwDice next sides count (total + face) state

/-- The total of one group, or none if the group cannot be thrown. -/
def throwGroup (next : γ → Nat → Nat × γ) (group : DiceGroup) (state : γ) : GroupTotal × γ :=
  if isRollable group then
    let (total, state) := throwDice next group.sides group.count 0 state
    (⟨group.id, some total⟩, state)
  else (⟨group.id, none⟩, state)

/-- The totals of the groups, thrown in order. -/
def throwGroups (next : γ → Nat → Nat × γ) : List DiceGroup → γ → List GroupTotal × γ
  | [], state => ([], state)
  | group :: groups, state =>
    let (total, state) := throwGroup next group state
    let (totals, state) := throwGroups next groups state
    (total :: totals, state)

/-- Sampled dice as a roller, whose state is that of the generator. -/
def roller (next : γ → Nat → Nat × γ) : Roller γ where
  ask state request :=
    let (totals, state) := throwGroups next request.groups state
    (.results totals, state)
  physical := false

/-- A face from a standard generator. -/
def standardFace (generator : StdGen) (sides : Nat) : Nat × StdGen :=
  randNat generator 1 sides

def standard : Roller StdGen :=
  roller standardFace

end Skirmish.SampledDice
