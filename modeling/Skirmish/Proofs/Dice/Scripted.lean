import Mathlib.Data.List.Induction
import Skirmish.Dice.Scripted
import Skirmish.Proofs.Resolution.Relevance

/-!
# Scripts are used up in order

Over all requests, the groups receive the values of a script one after the other and then the
fallback, where a group counts even if its request cannot be completed.  A request fails only when
the script ends within it and there is no fallback.  Then the rest of the script is gone, and
nothing else about the dice has changed.
-/

namespace Skirmish

/-- Whether a response has results. -/
def Response.isAnswer : Response → Bool
  | .results _ => true
  | .failed _ | .unanswered _ => false

namespace ScriptedDice

/-- The totals that groups receive one after the other, until nothing is left for the next one. -/
def handed (fallback : Option Int) : List DiceGroup → List Int → List GroupTotal
  | [], _ => []
  | group :: groups, value :: values => ⟨group.id, some value⟩ :: handed fallback groups values
  | group :: groups, [] =>
      match fallback with
      | none => []
      | some value => ⟨group.id, some value⟩ :: handed fallback groups []

/-- The totals that the groups of a request receive, also when it cannot be completed. -/
def handsOut (dice : ScriptedDice) (request : Request) : List GroupTotal :=
  handed dice.fallback request.groups dice.values

/-- The dice after requests that are made one after the other. -/
def afterAll (dice : ScriptedDice) (requests : List Request) : ScriptedDice :=
  requests.foldl (fun dice request => (dice.ask request).2) dice

/-- The totals that the groups of all requests receive. -/
def handsOutAll (dice : ScriptedDice) : List Request → List GroupTotal
  | [] => []
  | request :: requests => dice.handsOut request ++ (dice.ask request).2.handsOutAll requests

/-- Whether the script ends within a request and there is no value to go on with. -/
def RunsOut (dice : ScriptedDice) (request : Request) : Prop :=
  dice.fallback = none ∧ dice.remaining < request.groups.length

/-- Whether a request is served as a script should be. -/
structure Serves (dice : ScriptedDice) (request : Request) : Prop where
  failed_iff : (dice.ask request).1.isAnswer = false ↔ dice.RunsOut request
  /-- The rest of the script goes to the first groups, and the request is not recorded. -/
  failed : dice.RunsOut request →
    (dice.ask request).1 = .failed (.malformed .scriptExhausted) ∧
    (dice.handsOut request).map GroupTotal.id =
      (request.groups.take dice.remaining).map DiceGroup.id ∧
    (dice.ask request).2 = { dice with values := [] }
  answered : ¬dice.RunsOut request →
    (dice.ask request).1 = .results (dice.handsOut request) ∧
    (dice.handsOut request).map GroupTotal.id = request.groups.map DiceGroup.id ∧
    (dice.ask request).2 = { dice with
      values := dice.values.drop request.groups.length, served := dice.served ++ [request] }

/-- Whether the values of a script are handed out over all requests in order and without loss. -/
structure UsesUp (script : List Int) (fallback : Option Int) (requests : List Request) : Prop where
  /-- Each total is the next value of the script, or the fallback after its end. -/
  totals : ∀ (position : Nat) (total : GroupTotal),
    ((ofValues script fallback).handsOutAll requests)[position]? = some total →
      total.total.isSome = true ∧ total.total = script[position]?.or fallback
  serves : ∀ earlier request later, requests = earlier ++ request :: later →
    ((ofValues script fallback).afterAll earlier).fallback = fallback ∧
    ((ofValues script fallback).afterAll earlier).Serves request
  remaining : ((ofValues script fallback).afterAll requests).remaining +
    min script.length ((ofValues script fallback).handsOutAll requests).length = script.length
  /-- The requests that are recorded are those that were answered, in order. -/
  served : ((ofValues script fallback).afterAll requests).served =
    ((roller.exchanges requests (ofValues script fallback)).filter
      fun exchange => exchange.2.isAnswer).map Prod.fst

/-! ## One request -/

theorem getElem?_handed (fallback : Option Int) (groups : List DiceGroup) (values : List Int)
    (position : Nat) :
    (handed fallback groups values)[position]? = groups[position]?.bind fun group =>
      (values[position]?.or fallback).map fun value => ⟨group.id, some value⟩ := by
  induction groups generalizing values position with
  | nil => rfl
  | cons group groups ih =>
      cases values with
      | cons value values =>
          cases position with
          | zero => rfl
          | succ position => exact ih values position
      | nil =>
          cases fallback with
          | none =>
              rw [handed, List.getElem?_nil, List.getElem?_nil]
              cases (group :: groups)[position]? <;> rfl
          | some value =>
              cases position with
              | zero => rfl
              | succ position => exact ih [] position

theorem length_handed_none (groups : List DiceGroup) (values : List Int) :
    (handed none groups values).length = min groups.length values.length := by
  induction groups generalizing values with
  | nil => simp [handed]
  | cons group groups ih =>
      cases values with
      | nil => rfl
      | cons value values =>
          rw [handed, List.length_cons, ih, List.length_cons, List.length_cons]
          omega

theorem length_handed_some (value : Int) (groups : List DiceGroup) (values : List Int) :
    (handed (some value) groups values).length = groups.length := by
  induction groups generalizing values with
  | nil => rfl
  | cons group groups ih => cases values <;> simp [handed, ih]

theorem ids_handed (fallback : Option Int) (groups : List DiceGroup) (values : List Int) :
    (handed fallback groups values).map GroupTotal.id =
      (groups.take (handed fallback groups values).length).map DiceGroup.id := by
  induction groups generalizing values with
  | nil => rfl
  | cons group groups ih =>
      cases values with
      | cons value values => simp [handed, ih]
      | nil => cases fallback <;> simp [handed, ih]

/-- Dealing gives what is handed out, if it is enough, and leaves what comes after it. -/
theorem deal_eq (fallback : Option Int) (groups : List DiceGroup) (values : List Int) :
    deal fallback groups values =
      (if fallback = none ∧ values.length < groups.length then none
        else some (handed fallback groups values), values.drop groups.length) := by
  induction groups generalizing values with
  | nil => simp [deal, handed]
  | cons group groups ih =>
      cases values with
      | cons value values =>
          have hlonger : (value :: values).length < (group :: groups).length ↔
              values.length < groups.length := Nat.add_lt_add_iff_right
          simp only [deal, ih, hlonger]
          split <;> rfl
      | nil =>
          cases fallback with
          | none => simp [deal]
          | some value => simp [deal, ih, handed]

section OneRequest

variable {dice : ScriptedDice} {request : Request}

theorem ask_of_runsOut (hout : dice.RunsOut request) :
    dice.ask request = (.failed (.malformed .scriptExhausted), { dice with values := [] }) := by
  have hshort : dice.fallback = none ∧ dice.values.length < request.groups.length := hout
  have hnone : dice.values.drop request.groups.length = [] :=
    List.drop_eq_nil_of_le (Nat.le_of_lt hshort.2)
  rw [ask, deal_eq, if_pos hshort, hnone]

theorem ask_of_not_runsOut (henough : ¬dice.RunsOut request) :
    dice.ask request = (.results (dice.handsOut request), { dice with
      values := dice.values.drop request.groups.length, served := dice.served ++ [request] }) := by
  have hlong : ¬(dice.fallback = none ∧ dice.values.length < request.groups.length) := henough
  rw [ask, deal_eq, if_neg hlong]
  rfl

theorem length_handsOut_of_runsOut (hout : dice.RunsOut request) :
    (dice.handsOut request).length = dice.remaining := by
  rw [handsOut, hout.1, length_handed_none]
  exact Nat.min_eq_right (Nat.le_of_lt hout.2)

theorem length_handsOut_of_not_runsOut (henough : ¬dice.RunsOut request) :
    (dice.handsOut request).length = request.groups.length := by
  rw [handsOut]
  cases hfallback : dice.fallback with
  | some value => exact length_handed_some ..
  | none =>
      rw [length_handed_none]
      exact Nat.min_eq_left (Nat.not_lt.1 fun hless => henough ⟨hfallback, hless⟩)

theorem serves (dice : ScriptedDice) (request : Request) : dice.Serves request where
  failed_iff := by
    by_cases hout : dice.RunsOut request
    · simp [ask_of_runsOut hout, hout, Response.isAnswer]
    · simp [ask_of_not_runsOut hout, hout, Response.isAnswer]
  failed := by
    intro hout
    refine ⟨by rw [ask_of_runsOut hout], ?_, by rw [ask_of_runsOut hout]⟩
    rw [← length_handsOut_of_runsOut hout]
    exact ids_handed ..
  answered := by
    intro henough
    refine ⟨by rw [ask_of_not_runsOut henough], ?_, by rw [ask_of_not_runsOut henough]⟩
    have hids := ids_handed dice.fallback request.groups dice.values
    rwa [← handsOut, length_handsOut_of_not_runsOut henough, List.take_length] at hids

/-- What is left is what comes after as many values as were handed out. -/
theorem values_ask (dice : ScriptedDice) (request : Request) :
    (dice.ask request).2.values = dice.values.drop (dice.handsOut request).length := by
  by_cases hout : dice.RunsOut request
  · rw [ask_of_runsOut hout, length_handsOut_of_runsOut hout]
    exact (List.drop_length ..).symm
  · rw [ask_of_not_runsOut hout, length_handsOut_of_not_runsOut hout]

@[simp]
theorem fallback_ask (dice : ScriptedDice) (request : Request) :
    (dice.ask request).2.fallback = dice.fallback := by
  by_cases hout : dice.RunsOut request
  · rw [ask_of_runsOut hout]
  · rw [ask_of_not_runsOut hout]

/-- A request is recorded when it is answered. -/
theorem served_ask (dice : ScriptedDice) (request : Request) :
    (dice.ask request).2.served =
      dice.served ++ if (dice.ask request).1.isAnswer then [request] else [] := by
  by_cases hout : dice.RunsOut request
  · rw [ask_of_runsOut hout]
    exact (List.append_nil _).symm
  · rw [ask_of_not_runsOut hout]
    rfl

theorem total_of_getElem?_handsOut {position : Nat} {total : GroupTotal}
    (htotal : (dice.handsOut request)[position]? = some total) :
    total.total.isSome = true ∧ total.total = dice.values[position]?.or dice.fallback := by
  rw [handsOut, getElem?_handed, Option.bind_eq_some_iff] at htotal
  obtain ⟨group, -, hvalue⟩ := htotal
  obtain ⟨value, hdrawn, rfl⟩ := Option.map_eq_some_iff.1 hvalue
  exact ⟨rfl, hdrawn.symm⟩

end OneRequest

/-! ## All requests -/

section AllRequests

variable (dice : ScriptedDice) (requests : List Request) (request : Request)

theorem afterAll_append_singleton :
    dice.afterAll (requests ++ [request]) = ((dice.afterAll requests).ask request).2 := by
  rw [afterAll, List.foldl_append]
  rfl

theorem handsOutAll_append_singleton :
    dice.handsOutAll (requests ++ [request]) =
      dice.handsOutAll requests ++ (dice.afterAll requests).handsOut request := by
  induction requests generalizing dice with
  | nil => simp [handsOutAll, afterAll]
  | cons first requests ih =>
      rw [List.cons_append, handsOutAll, ih, handsOutAll, List.append_assoc]
      rfl

theorem fallback_afterAll : (dice.afterAll requests).fallback = dice.fallback := by
  induction requests using List.reverseRecOn with
  | nil => rfl
  | append_singleton requests request ih => rw [afterAll_append_singleton, fallback_ask, ih]

theorem values_afterAll :
    (dice.afterAll requests).values = dice.values.drop (dice.handsOutAll requests).length := by
  induction requests using List.reverseRecOn with
  | nil => rfl
  | append_singleton requests request ih =>
      rw [afterAll_append_singleton, values_ask, ih, List.drop_drop, handsOutAll_append_singleton,
        List.length_append]

theorem served_afterAll :
    (dice.afterAll requests).served = dice.served ++
      ((roller.exchanges requests dice).filter fun exchange => exchange.2.isAnswer).map
        Prod.fst := by
  induction requests generalizing dice with
  | nil => exact (List.append_nil _).symm
  | cons request requests ih =>
      have hrest := ih (dice.ask request).2
      rw [served_ask] at hrest
      have hexchanges : roller.exchanges (request :: requests) dice =
          (request, (dice.ask request).1) :: roller.exchanges requests (dice.ask request).2 := rfl
      rw [hexchanges, List.filter_cons]
      refine hrest.trans ?_
      split <;> simp

theorem total_of_getElem?_handsOutAll {position : Nat} {total : GroupTotal}
    (htotal : (dice.handsOutAll requests)[position]? = some total) :
    total.total.isSome = true ∧ total.total = dice.values[position]?.or dice.fallback := by
  induction requests using List.reverseRecOn with
  | nil => cases htotal
  | append_singleton requests request ih =>
      rw [handsOutAll_append_singleton] at htotal
      by_cases hearlier : position < (dice.handsOutAll requests).length
      · rw [List.getElem?_append_left hearlier] at htotal
        exact ih htotal
      · have hlater := Nat.not_lt.1 hearlier
        rw [List.getElem?_append_right hlater] at htotal
        have hvalue := total_of_getElem?_handsOut htotal
        rwa [values_afterAll, fallback_afterAll, List.getElem?_drop,
          Nat.add_sub_cancel' hlater] at hvalue

end AllRequests

/-- Whatever is asked for, the values of a script are handed out in order, each once, and only a
request that the script cannot complete fails. -/
theorem usesUp_script (script : List Int) (fallback : Option Int) (requests : List Request) :
    UsesUp script fallback requests where
  totals := fun _ _ => total_of_getElem?_handsOutAll (ofValues script fallback) requests
  serves := fun _ request _ _ => ⟨fallback_afterAll .., serves _ request⟩
  remaining := by
    rw [remaining, values_afterAll, List.length_drop]
    exact Nat.sub_add_min_cancel ..
  served := served_afterAll ..

/-- The second request uses up what it can get, and the third one gets nothing. -/
example :
    let request (slots : List Nat) : Request :=
      ⟨.damage, 0, slots.map fun slot => DiceGroup.d20 ⟨0, slot⟩ []⟩
    let requests := [request [0], request [1, 2, 3], request [4]]
    let dice := ofValues [3, 20, 7] none
    (dice.handsOutAll requests).map GroupTotal.total = [some 3, some 20, some 7] ∧
      (dice.afterAll requests).served = [request [0]] := by
  decide

end ScriptedDice

end Skirmish
