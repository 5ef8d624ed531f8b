import Skirmish.Session.Basic

/-!
# Settings

What a player can set: in a file, by environment variables over the file, and by arguments over
both. A setting that nobody gives has its default, names of no setting are passed over, and a value
of the wrong kind is an error only where it would count.
-/

namespace Skirmish

/-- A value given to a setting; `other` is a value of a kind that no setting has. -/
inductive SettingValue where
  | text (value : Text)
  | integer (value : Int)
  | flag (value : Bool)
  | other
  deriving DecidableEq, Repr

/-- Values given to settings by name. -/
abbrev Assignments := List (Text × SettingValue)

/-- A name of one part or of several, each of which is a name inside of the part before it. -/
structure DottedName where
  first : Text
  inner : List Text
  deriving DecidableEq, Repr

namespace DottedName

def parts (name : DottedName) : List Text :=
  name.first :: name.inner

/-- Whether one of two names is the other one or lies inside of it. -/
def clashes (left right : DottedName) : Bool :=
  left.parts.isPrefixOf right.parts || right.parts.isPrefixOf left.parts

/-- What a value does for the setting that the first part names. A value inside of a setting makes
it a group of values, and no setting is one. -/
def assignment (name : DottedName) (value : SettingValue) : Text × SettingValue :=
  (name.first, if name.inner.isEmpty then value else .other)

end DottedName

/-- Why there are no settings. -/
inductive SettingsError where
  | missingFile
  | unreadableFile
  | malformedLine (line : Text)
  | repeatedName (name : DottedName)
  | wrongKind (name : Text)
  deriving DecidableEq, Repr

/-- Everything that can be set. -/
structure Settings where
  player : Text
  seed : Option UInt64
  waitMillis : Nat
  historyLimit : Nat
  /-- Where saved commands are kept beyond the session. -/
  notebookPath : Option Text
  hidden : Bool
  deriving DecidableEq, Repr

namespace Settings

def default : Settings where
  player := "player".toList
  seed := none
  waitMillis := 12000
  historyLimit := History.defaultLimit
  notebookPath := none
  hidden := false

/-- The value of a name; the first assignment counts. -/
def lookup? (name : Text) (assignments : Assignments) : Option SettingValue :=
  (assignments.find? fun assignment => assignment.1 == name).map Prod.snd

def text? (assignments : Assignments) (name : Text) : Except SettingsError (Option Text) :=
  match lookup? name assignments with
  | none => .ok none
  | some (.text value) => .ok (some value)
  | some _ => .error (.wrongKind name)

/-- The unsigned number of 64 bits given for a setting. -/
def number? (assignments : Assignments) (name : Text) : Except SettingsError (Option Nat) :=
  match lookup? name assignments with
  | none => .ok none
  | some (.integer (.ofNat value)) =>
    if value < UInt64.size then .ok (some value) else .error (.wrongKind name)
  | some _ => .error (.wrongKind name)

def flag? (assignments : Assignments) (name : Text) : Except SettingsError (Option Bool) :=
  match lookup? name assignments with
  | none => .ok none
  | some (.flag value) => .ok (some value)
  | some _ => .error (.wrongKind name)

def ofAssignments (assignments : Assignments) : Except SettingsError Settings := do
  let player ← text? assignments "player_id".toList
  let seed ← number? assignments "seed".toList
  let waitMillis ← number? assignments "roll_timeout_ms".toList
  let historyLimit ← number? assignments "history_limit".toList
  let notebookPath ← text? assignments "db_path".toList
  let hidden ← flag? assignments "hidden".toList
  return {
    player := player.getD default.player
    seed := seed.map UInt64.ofNat
    waitMillis := waitMillis.getD default.waitMillis
    historyLimit := historyLimit.getD default.historyLimit
    notebookPath
    hidden := hidden.getD default.hidden }

def wait (settings : Settings) : Wait :=
  .ofMillis settings.waitMillis

/-- The session that the settings open; it shares its results. -/
def openSession {σ : Type} (settings : Settings) (dice : σ) (notebook : Notebook)
    (draws : Nat → UInt64) : Session σ :=
  { Session.new settings.player dice notebook draws with
    wait := settings.wait
    seeding := settings.seed.elim (.drawn draws) .given
    sharing := true
    hidden := settings.hidden
    history := .empty settings.historyLimit }

end Settings

end Skirmish
