import Skirmish.Text.Basic

/-!
# Keywords

A keyword says what the text after it is about: one of the seven roles of a roll, or one of the
three uses of a saved command's name. Damage has two keywords. No keyword is the beginning of
another, so at most one of them starts at any place of a text.
-/

namespace Skirmish

/-- What a part of a command is about, in the order in which unmarked text is assigned. -/
inductive Role where
  | attack
  | target
  | damage
  | hitPoints
  | resisted
  | vulnerable
  | immune
  deriving DecidableEq, Repr

namespace Role

def all : List Role :=
  [attack, target, damage, hitPoints, resisted, vulnerable, immune]

/-- The name of the role in messages. -/
def name : Role → Text
  | attack => "attack".toList
  | target => "target_ac".toList
  | damage => "damage".toList
  | hitPoints => "hp".toList
  | resisted => "res".toList
  | vulnerable => "vul".toList
  | immune => "imm".toList

def word : Role → Text
  | attack => "atk".toList
  | target => "vs".toList
  | damage => "dmg".toList
  | hitPoints => "hp".toList
  | resisted => "res".toList
  | vulnerable => "vul".toList
  | immune => "imm".toList

end Role

/-- What is done with the name of a saved command. -/
inductive NameUse where
  | save
  | load
  | delete
  deriving DecidableEq, Repr

def NameUse.word : NameUse → Text
  | save => "save".toList
  | load => "load".toList
  | delete => "delete".toList

/-- A word that says what the text after it is about. -/
inductive Keyword where
  | role (about : Role)
  | dealing
  | name (use : NameUse)
  deriving DecidableEq, Repr

namespace Keyword

def all : List Keyword :=
  [role .attack, role .target, role .damage, dealing, role .hitPoints, role .resisted,
    role .vulnerable, role .immune, name .save, name .load, name .delete]

def word : Keyword → Text
  | role about => about.word
  | dealing => "dealing".toList
  | name use => use.word

/-- What the keyword introduces: a role, or a use of a name. -/
def topic : Keyword → Role ⊕ NameUse
  | role about => .inl about
  | dealing => .inl .damage
  | name use => .inr use

/-- The word that stands for the keyword in labels. -/
def labelWord (keyword : Keyword) : Text :=
  match keyword.topic with
  | .inl about => about.word
  | .inr use => use.word

/-- The keyword that a text starts with. -/
def at? (text : Text) : Option Keyword :=
  all.find? fun keyword => keyword.word.isPrefixOf text

theorem mem_all (keyword : Keyword) : keyword ∈ all := by
  cases keyword with
  | role about => cases about <;> decide
  | dealing => decide
  | name use => cases use <;> decide

/-- At most one keyword starts a text. -/
theorem eq_of_word_isPrefix {left right : Keyword} (hstart : left.word <+: right.word) :
    left = right := by
  have hall : ∀ left ∈ all, ∀ right ∈ all,
      left.word.isPrefixOf right.word = true → left = right := by
    decide +kernel
  exact hall left (mem_all left) right (mem_all right) (List.isPrefixOf_iff_prefix.2 hstart)

end Keyword

end Skirmish
