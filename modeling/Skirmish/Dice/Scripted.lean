import Skirmish.Dice.Roller

/-!
# Scripted dice

Dice with totals set beforehand, for rolls made by hand. The groups of all requests, one after the
other, receive the scripted values in order, and then the fallback value if there is one. A request
that the script cannot complete has used up what was left of it.
-/

namespace Skirmish

/-- A script, the value used after its end, and the requests served so far, oldest first. -/
structure ScriptedDice where
  values : List Int
  fallback : Option Int
  served : List Request
  deriving DecidableEq, Repr

namespace ScriptedDice

/-- A script of which nothing is used up yet. -/
def ofValues (values : List Int) (fallback : Option Int) : ScriptedDice :=
  ⟨values, fallback, []⟩

def always (value : Int) : ScriptedDice :=
  ofValues [] (some value)

/-- Hands one value to each group; also gives the values left over. No totals result when the
values run out and there is no fallback. -/
def deal (fallback : Option Int) :
    List DiceGroup → List Int → Option (List GroupTotal) × List Int
  | [], values => (some [], values)
  | group :: groups, value :: values =>
    let (dealt, left) := deal fallback groups values
    (dealt.map (⟨group.id, some value⟩ :: ·), left)
  | group :: groups, [] =>
    match fallback with
    | none => (none, [])
    | some value =>
      let (dealt, left) := deal fallback groups []
      (dealt.map (⟨group.id, some value⟩ :: ·), left)

def ask (dice : ScriptedDice) (request : Request) : Response × ScriptedDice :=
  match deal dice.fallback request.groups dice.values with
  | (some totals, values) =>
    (.results totals, { dice with values, served := dice.served ++ [request] })
  | (none, values) => (.failed (.malformed .scriptExhausted), { dice with values })

/-- The number of scripted values not yet used. -/
def remaining (dice : ScriptedDice) : Nat :=
  dice.values.length

def roller : Roller ScriptedDice :=
  ⟨ask, false⟩

end ScriptedDice

end Skirmish
