import Skirmish.Command.Basic
import Skirmish.Wire.Json

/-!
# Commands in JSON

What has been read of a command, as one flat object whose fields come in a fixed order. A role that
was left open has the value null or the neutral one of its kind.
-/

namespace Skirmish

def Json.ofTexts (texts : List Text) : Json :=
  .array (texts.map .string)

def Sign.toJson (sign : Sign) : Json :=
  .string [sign.mark]

def Amount.toJson : Amount → Json
  | dice count sides =>
    .object [("dice".toList,
      .object [("count".toList, .integer count), ("sides".toList, .integer sides)])]
  | flat value => .object [("flat".toList, .integer value)]

def Term.toJson (term : Term) : Json :=
  .object [("sign".toList, term.sign.toJson), ("amount".toList, term.amount.toJson)]

def Component.toJson (component : Component) : Json :=
  .object [("sign".toList, component.sign.toJson), ("amount".toList, component.amount.toJson),
    ("damage_type".toList, .string component.damageType)]

def attackFields (roll : Option AttackRoll) : List (Text × Json) :=
  let mode := (roll.map AttackRoll.mode).getD .normal
  let bonus := (roll.map AttackRoll.bonus).getD []
  let color := (roll.map AttackRoll.color).getD []
  [("num_attacks".toList, .ofOption (fun roll => .integer roll.count) roll),
    ("modifier".toList, .string [mode.letter]),
    ("attack_bonus".toList, .array (bonus.map Term.toJson)),
    ("attack_color".toList, .string color)]

def targetFields (armorClass : Option ArmorClass) : List (Text × Json) :=
  let modifier := (armorClass.map ArmorClass.modifier).getD 0
  [("base_target_ac".toList, .ofOption (fun armorClass => .integer armorClass.base) armorClass),
    ("ac_modifier".toList, .integer modifier),
    ("target_ac".toList, .ofOption (fun armorClass => .integer armorClass.total) armorClass)]

/-- What was read of a command as a JSON value. -/
def Command.toJson (command : Command) : Json :=
  let plan := command.plan
  .object (attackFields plan.attack ++ targetFields plan.target ++
    [("damage_components".toList,
        .ofOption (fun components => .array (components.map Component.toJson)) plan.damage),
      ("hp".toList, .ofOption .integer plan.hitPoints),
      ("res".toList, .ofTexts plan.defenses.resisted),
      ("vul".toList, .ofTexts plan.defenses.vulnerable),
      ("imm".toList, .ofTexts plan.defenses.immune),
      ("save_content".toList, .ofOption .string command.names.save),
      ("load_content".toList, .ofOption .string command.names.load),
      ("delete_content".toList, .ofOption .string command.names.delete)])

end Skirmish
