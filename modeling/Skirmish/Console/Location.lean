import Skirmish.Console.Path
import Skirmish.Text.Digit

/-!
# Locations of notebooks

The setting for the notebook says where it is kept. Markers of the kind of notebook may stand in
front, characters may be written by their bytes behind a percent sign, and some names stand for a
notebook that only lasts as long as the run.
-/

namespace Skirmish

/-- Where a notebook is. -/
inductive Location where
  /-- Nowhere beyond the run. -/
  | passing
  | kept (path : Text)
  | unreachable
  deriving DecidableEq, Repr

namespace Location

/-- Drops a text from the front as often as it stands there, up to `times`. -/
def dropRepeated (start : Text) (times : Nat) (text : Text) : Text :=
  match times with
  | 0 => text
  | times + 1 =>
    match start.isPrefixOf? text with
    | some rest => dropRepeated start times rest
    | none => text

/-- The text behind the markers of the kind of notebook and of a location. -/
def withoutMarkers (text : Text) : Text :=
  let unmarked := dropRepeated "sqlite:".toList text.length text
  dropRepeated "//".toList unmarked.length unmarked

def hexDigit? (byte : UInt8) : Option Nat :=
  Text.digitIn? 16 (Char.ofNat byte.toNat)

/-- The bytes after those behind percent signs are put for their two digits. A percent sign without
two digits stands for itself. -/
def decodedBytes : List UInt8 → List UInt8
  | [] => []
  | 37 :: high :: low :: rest =>
    match hexDigit? high, hexDigit? low with
    | some high, some low => UInt8.ofNat (16 * high + low) :: decodedBytes rest
    | _, _ => 37 :: decodedBytes (high :: low :: rest)
  | byte :: rest => byte :: decodedBytes rest

/-- The text with its decoded bytes, if they make one. -/
def decoded? (text : Text) : Option Text :=
  let bytes := decodedBytes (String.ofList text).toUTF8.data.toList
  (String.fromUTF8? ⟨bytes.toArray⟩).map String.toList

/-- The most bytes that a file name can have. -/
def longestName : Nat := 255

/-- What the longest file beside a notebook adds to its name. -/
def sideFileEnding : Text := "-journal".toList

/-- Whether the file of a notebook and those beside it can have their names. -/
def isNameable (path : Text) : Bool :=
  !path.contains '\x00' &&
    (String.ofList (Path.lastStep path ++ sideFileEnding)).utf8ByteSize ≤ longestName

def ofFileName (name : Text) : Location :=
  if name.isEmpty || name == ":memory:".toList then passing
  else if isNameable name then kept (Path.collapsed name)
  else unreachable

/-- The location that a file name stands for, or an address made of `file:` and a file name. -/
def ofAddress (address : Text) : Location :=
  match "file:".toList.isPrefixOf? address with
  | none => ofFileName address
  | some ('/' :: '/' :: _) => unreachable
  | some rest => ofFileName (rest.takeWhile fun character => character != '?' && character != '#')

/-- The location that a setting stands for. What follows a question mark would be parameters, and a
setting has no place for any. -/
def ofSetting (setting : Text) : Location :=
  let text := withoutMarkers setting
  if text.contains '?' then unreachable
  else if text = ":memory:".toList then passing
  else
    match decoded? text with
    | none => unreachable
    | some address => ofAddress address

end Location

end Skirmish
