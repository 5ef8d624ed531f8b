import Skirmish.Term
import Skirmish.Text.Lowercase

/-!
# Damage expressions

Damage is typed as terms joined by `+`, each with an optional minus sign, an amount and the letters
of a damage type, as in `3d8fi+-1d4+3bl`. Blank pieces between the plus signs count for nothing, so
an empty expression is damage of no terms. A minus sign belongs to the term after it.
-/

namespace Skirmish

/-- One term of a damage expression; the empty type is untyped damage. -/
structure Component where
  sign : Sign
  amount : Amount
  damageType : Text
  deriving DecidableEq, Repr

/-- Why a text is no damage expression. -/
inductive DamageError where
  | invalidTerm (term : Text)
  deriving DecidableEq, Repr

def DamageError.message : DamageError → Text
  | invalidTerm term => "invalid damage term '".toList ++ term ++ ['\'']

namespace Component

def write (component : Component) : Text :=
  let sign :=
    match component.sign with
    | .plus => []
    | .minus => ['-']
  sign ++ component.amount.write ++ component.damageType

/-- The component that a text in small letters stands for after its sign. -/
def readUnsigned? (sign : Sign) (text : Text) : Option Component :=
  match Amount.scan? text with
  | some (amount, damageType) =>
    if damageType.all Char.isLower then some ⟨sign, amount, damageType⟩ else none
  | none => none

/-- The component that a text in small letters stands for. -/
def read? : Text → Option Component
  | '-' :: body => readUnsigned? .minus body
  | body => readUnsigned? .plus body

end Component

namespace DamageExpression

/-- The pieces of an expression that are not blank, without the blanks around them. -/
def pieces (text : Text) : List Text :=
  ((text.splitOn '+').map Text.trim).filter (!·.isEmpty)

/-- Reads one piece, in any letter case. -/
def readPiece (piece : Text) : Except DamageError Component :=
  match Component.read? (Text.lower piece) with
  | some component => .ok component
  | none => .error (.invalidTerm piece)

/-- Reads an expression, up to the first piece that is no term. -/
def read (text : Text) : Except DamageError (List Component) :=
  (pieces text).mapM readPiece

def write (components : List Component) : Text :=
  ['+'].intercalate (components.map Component.write)

end DamageExpression

end Skirmish
