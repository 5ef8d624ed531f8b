import Skirmish.Notebook.Basic
import Skirmish.Session.History

/-!
# Sessions

A session runs commands one after the other over its dice, its notebook and its history. A command
is read, a saved one is loaded in front of it if it names one, and it is rolled. Only when all of
this has succeeded is anything deleted, saved, recorded or published.
-/

namespace Skirmish

def defaultWait : Wait :=
  .ofMillis 12000

/-- Where the seeds of the commands come from: they derive from a given one, or each roll, by its
number, draws its own. -/
inductive Seeding where
  | given (base : UInt64)
  | drawn (draws : Nat → UInt64)

/-- The seed that a roll starts from. Its damage phase takes the one after it, so the seeds that
derive from a given one go in steps of two. -/
def Seeding.seed : Seeding → Nat → UInt64
  | given base, roll => base + UInt64.ofNat (2 * roll)
  | drawn draws, roll => draws roll

/-- Everything that outlives a single command. -/
structure Session (σ : Type) where
  player : Text
  wait : Wait
  seeding : Seeding
  /-- Whether there is anyone to publish to. -/
  sharing : Bool
  /-- Whether results are kept from being published. -/
  hidden : Bool
  /-- The number of commands that have come to rolling. -/
  rolls : Nat
  signal : Signal
  dice : σ
  notebook : Notebook
  history : History

/-- What an executed command did. The command is the one that ran, with what was loaded. -/
structure Outcome where
  command : Command
  resolution : Option Resolution
  saved : Option Text
  deleted : Option Text
  loaded : Option Text
  deriving DecidableEq, Repr

/-- Why a session does not carry out a command. -/
inductive SessionError where
  | parse (cause : ParseError)
  | resolve (cause : ResolveError)
  | unknownSaved (name : Text)
  | nothingToSave (name : Text)
  deriving DecidableEq, Repr

def SessionError.message : SessionError → Text
  | parse cause => cause.message
  | resolve cause => cause.message
  | unknownSaved name => "no saved command named '".toList ++ name ++ ['\'']
  | nothingToSave name => "nothing to save as '".toList ++ name ++ ['\'']

/-- A command's result, the session after it, the requests it made and the event it published. -/
structure Step (σ : Type) where
  result : Except SessionError Outcome
  session : Session σ
  requests : List Request
  published : Option Event

namespace Session

variable {σ : Type}

def new (player : Text) (dice : σ) (notebook : Notebook) (draws : Nat → UInt64) : Session σ where
  player
  wait := defaultWait
  seeding := .drawn draws
  sharing := false
  hidden := false
  rolls := 0
  signal := ⟨0, 0⟩
  dice
  notebook
  history := .empty History.defaultLimit

/-- The terms for the next command that rolls. -/
def control (session : Session σ) : Control :=
  ⟨session.wait, session.seeding.seed session.rolls⟩

/-- The command that a typed one stands for: with a name to load, the saved text is put in front of
what was typed. The names are those typed, whatever the saved text speaks of. -/
def expand (session : Session σ) (command : Command) : Except SessionError Command :=
  match command.names.load with
  | none => .ok command
  | some name =>
    match session.notebook.load? name with
    | none => .error (.unknownSaved name)
    | some saved =>
      match Command.parse (saved ++ ' ' :: command.label) with
      | .error cause => .error (.parse cause)
      | .ok expanded => .ok { expanded with names := command.names }

/-- The command that an input stands for. A command that is to be saved has to say something. -/
def read (session : Session σ) (input : Text) : Except SessionError Command :=
  match Command.parse input with
  | .error cause => .error (.parse cause)
  | .ok typed =>
    match session.expand typed with
    | .error cause => .error cause
    | .ok command =>
      match command.names.save with
      | none => .ok command
      | some name => if command.hasRoll then .ok command else .error (.nothingToSave name)

/-- Resolves a plan. This takes up the next seeds, whether it succeeds or not. -/
def roll (session : Session σ) (roller : Roller σ) (plan : Plan) :
    Except SessionError Resolution × Session σ × List Request :=
  let (result, table) :=
    plan.resolve roller session.control ⟨session.dice, .connected session.signal, []⟩
  let signal :=
    match table.line with
    | .connected signal => signal
    | _ => session.signal
  (result.mapError .resolve,
    { session with dice := table.dice, signal, rolls := session.rolls + 1 }, table.requests)

/-- Deletes and then saves what the command names. -/
def keepNotes (session : Session σ) (command : Command) : Session σ :=
  let notebook :=
    match command.names.delete with
    | some name => session.notebook.delete name
    | none => session.notebook
  match command.names.save with
  | some name => { session with notebook := notebook.save name command.label }
  | none => { session with notebook }

/-- Records a resolved command; the event is published unless the session hides its results. -/
def record (session : Session σ) (event : Event) : Session σ × Option Event :=
  ({ session with history := session.history.push ⟨event, true⟩ },
    if session.sharing && !session.hidden then some event else none)

/-- What the command did, seen from the session before its notes were kept. -/
def outcome (session : Session σ) (command : Command) (resolution : Option Resolution) : Outcome :=
  { command
    resolution
    saved := command.names.save
    deleted := command.names.delete.filter session.notebook.contains
    loaded := command.names.load }

def execute (session : Session σ) (roller : Roller σ) (input : Text) : Step σ :=
  match session.read input with
  | .error cause => ⟨.error cause, session, [], none⟩
  | .ok command =>
    if command.hasRoll then
      match session.roll roller command.plan with
      | (.error cause, rolled, requests) => ⟨.error cause, rolled, requests, none⟩
      | (.ok resolution, rolled, requests) =>
        let event := Event.ofResolution (.own session.rolls) session.player command.label
          resolution roller.physical
        let (recorded, published) := (rolled.keepNotes command).record event
        ⟨.ok (session.outcome command (some resolution)), recorded, requests, published⟩
    else ⟨.ok (session.outcome command none), session.keepNotes command, [], none⟩

/-- Takes in an event from elsewhere, unless the history has it already. -/
def ingest (session : Session σ) (event : Event) : Bool × Session σ :=
  if session.history.contains event.id then (false, session)
  else (true, { session with history := session.history.push ⟨event, false⟩ })

def setHidden (session : Session σ) (hidden : Bool) : Session σ :=
  { session with hidden }

/-- Raises the cancel signal between commands. -/
def cancel (session : Session σ) : Session σ :=
  { session with signal := session.signal.raise 1 }

end Session

end Skirmish
