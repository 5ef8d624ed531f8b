import Mathlib.Data.List.TakeWhile
import Mathlib.Data.Option.Basic
import Skirmish.Proofs.Command.Label

/-!
# The limits of a command

Every grammar refuses figures beyond its limits, and a whole command is refused when it attacks too
often or could roll too many dice.  What is read therefore keeps to all of the limits, whether the
text stood behind a keyword or had to wait for one, and the rolling of a plan can rely on them.
-/

namespace Skirmish

/-- Reading each item of a list gives results in the list and leaves no item out. -/
theorem mem_mapM_some {α β : Type} {read : α → Option β} {items : List α} {results : List β}
    (hread : items.mapM read = some results) :
    (∀ item ∈ items, ∃ result ∈ results, read item = some result) ∧
      ∀ result ∈ results, ∃ item ∈ items, read item = some result := by
  induction items generalizing results with
  | nil =>
      rw [List.mapM_nil] at hread
      cases hread
      simp
  | cons item items ih =>
      rw [List.mapM_cons] at hread
      obtain ⟨result, hresult, hrest⟩ := Option.bind_eq_some_iff.1 hread
      obtain ⟨others, hothers, heq⟩ := Option.bind_eq_some_iff.1 hrest
      cases heq
      obtain ⟨hleft, hright⟩ := ih hothers
      constructor
      · intro other hother
        rcases List.mem_cons.1 hother with rfl | hmem
        · exact ⟨result, List.mem_cons_self, hresult⟩
        · obtain ⟨found, hfound, heq⟩ := hleft other hmem
          exact ⟨found, List.mem_cons_of_mem _ hfound, heq⟩
      · intro other hother
        rcases List.mem_cons.1 hother with rfl | hmem
        · exact ⟨item, List.mem_cons_self, hresult⟩
        · obtain ⟨found, hfound, heq⟩ := hright other hmem
          exact ⟨found, List.mem_cons_of_mem _ hfound, heq⟩

namespace Amount

/-- Whether the figures of the amount are ones that may be typed. -/
def KeepsLimits : Amount → Prop
  | dice count sides => count ≤ maxDicePerTerm ∧ sides ≤ maxSides
  | flat value => 0 ≤ value ∧ value ≤ maxFlat

theorem dice?_eq_some {count sides : Text} {amount : Amount}
    (hread : dice? count sides = some amount) :
    ∃ count sides, amount = dice count sides ∧ count ≤ maxDicePerTerm ∧ sides ≤ maxSides := by
  simp only [dice?, Option.bind_eq_bind, Option.bind_eq_some_iff] at hread
  obtain ⟨count, -, sides, -, hlimits⟩ := hread
  split at hlimits
  · next hle =>
    exact ⟨count, sides, (Option.some.inj hlimits).symm, hle⟩
  · cases hlimits

theorem flat?_eq_some {digits : Text} {amount : Amount}
    (hdigits : ∀ character ∈ digits, character.isDigit = true)
    (hread : flat? digits = some amount) :
    ∃ value, amount = flat value ∧ 0 ≤ value ∧ value ≤ maxFlat := by
  simp only [flat?, Option.bind_eq_bind, Option.bind_eq_some_iff] at hread
  obtain ⟨value, hvalue, hlimits⟩ := hread
  have hnonneg : 0 ≤ value := by
    cases digits with
    | nil => simp [Decimal.readInt?] at hvalue
    | cons first rest =>
        rw [Decimal.readInt?_of_digit (hdigits first List.mem_cons_self)] at hvalue
        obtain ⟨magnitude, hmagnitude, rfl⟩ := Option.map_eq_some_iff.1 hvalue
        obtain ⟨figure, -, heq⟩ := Option.bind_eq_some_iff.1 hmagnitude
        cases heq
        exact Int.natCast_nonneg figure
  split at hlimits
  · next hle =>
    exact ⟨value, (Option.some.inj hlimits).symm, hnonneg, hle.2⟩
  · cases hlimits

/-- An amount at the start of a text keeps to the limits, and no `d` is left behind a flat one. -/
theorem scan?_eq_some {text rest : Text} {amount : Amount}
    (hscan : scan? text = some (amount, rest)) :
    amount.KeepsLimits ∧ ∀ value, amount = flat value → rest.head? ≠ some 'd' := by
  simp only [scan?] at hscan
  split at hscan
  · obtain ⟨found, hread, heq⟩ := Option.map_eq_some_iff.1 hscan
    obtain ⟨rfl, -⟩ := Prod.mk.inj heq
    obtain ⟨count, sides, rfl, hlimits⟩ := dice?_eq_some hread
    refine ⟨hlimits, ?_⟩
    intro value heq
    cases heq
  · next hnot =>
    obtain ⟨found, hread, heq⟩ := Option.map_eq_some_iff.1 hscan
    obtain ⟨rfl, rfl⟩ := Prod.mk.inj heq
    have hdigits : ∀ character ∈ text.takeWhile Char.isDigit, character.isDigit = true :=
      fun character hmem => List.mem_takeWhile_imp hmem
    obtain ⟨value, rfl, hlimits⟩ := flat?_eq_some hdigits hread
    refine ⟨hlimits, ?_⟩
    intro _ _ hhead
    obtain ⟨more, hmore⟩ := List.head?_eq_some_iff.1 hhead
    exact hnot more hmore

theorem keepsLimits_of_read? {text : Text} {amount : Amount} (hread : read? text = some amount) :
    amount.KeepsLimits := by
  rw [read?] at hread
  split at hread
  · next hscan =>
    cases hread
    exact (scan?_eq_some hscan).1
  · cases hread

end Amount

namespace AttackRoll

/-- How attacks are written: a count, the letter of a mode, a color, and a bonus. -/
theorem read?_eq_some {text : Text} {roll : AttackRoll} (hread : read? text = some roll) :
    ∃ letter rest, text.dropWhile Char.isDigit = letter :: rest ∧ letter.isLower = true ∧
      Decimal.readNat? (text.takeWhile Char.isDigit) = some roll.count ∧
      roll.color = rest.takeWhile Char.isLower ∧
      (Sign.cut (rest.dropWhile Char.isLower)).1 = [] ∧
      (Sign.cut (rest.dropWhile Char.isLower)).2.mapM (fun (sign, body) => Term.read? sign body) =
        some roll.bonus := by
  simp only [read?, Option.bind_eq_bind, Option.bind_eq_some_iff] at hread
  obtain ⟨count, hcount, -, -, hrest⟩ := hread
  split at hrest
  · cases hrest
  · next letter rest hdrop =>
    simp only [Option.bind_eq_some_iff, Option.guard_eq_some', List.isEmpty_iff] at hrest
    obtain ⟨-, hletter, mode, -, -, hgap, bonus, hbonus, heq⟩ := hrest
    cases heq
    exact ⟨letter, rest, hdrop, hletter, hcount, rfl, hgap, hbonus⟩

/-- Whether the bonus and the color are ones that may be typed. -/
def KeepsLimits (roll : AttackRoll) : Prop :=
  (∀ term ∈ roll.bonus, term.amount.KeepsLimits) ∧ roll.color.all Char.isLower = true

theorem keepsLimits_of_read? {text : Text} {roll : AttackRoll} (hread : read? text = some roll) :
    roll.KeepsLimits := by
  obtain ⟨letter, rest, -, -, -, hcolor, -, hbonus⟩ := read?_eq_some hread
  constructor
  · intro term hterm
    obtain ⟨⟨sign, body⟩, -, hbody⟩ := (mem_mapM_some hbonus).2 term hterm
    obtain ⟨amount, hamount, rfl⟩ := Option.map_eq_some_iff.1 hbody
    exact Amount.keepsLimits_of_read? hamount
  · rw [hcolor, List.all_eq_true]
    exact fun character hmem => List.mem_takeWhile_imp hmem

end AttackRoll

namespace ArmorClass

/-- Whether the base and the sum of the modifiers are ones that may be typed. -/
def KeepsLimits (armorClass : ArmorClass) : Prop :=
  0 ≤ armorClass.base ∧ armorClass.base ≤ maxFlat ∧
    -maxFlat ≤ armorClass.modifier ∧ armorClass.modifier ≤ maxFlat

/-- A sum that is within the limit stays there. -/
theorem addModifiers_within {sum total : Int} {signed : List (Sign × Text)}
    (hsum : -maxFlat ≤ sum ∧ sum ≤ maxFlat) (hadd : addModifiers sum signed = some total) :
    -maxFlat ≤ total ∧ total ≤ maxFlat := by
  induction signed generalizing sum with
  | nil =>
      cases hadd
      exact hsum
  | cons first signed ih =>
      simp only [addModifiers, Option.bind_eq_bind, Option.bind_eq_some_iff,
        Option.guard_eq_some'] at hadd
      obtain ⟨magnitude, -, -, -, -, hnext, hrest⟩ := hadd
      exact ih hnext hrest

theorem keepsLimits_of_read? {text : Text} {armorClass : ArmorClass}
    (hread : read? text = some armorClass) : armorClass.KeepsLimits := by
  simp only [read?, Option.bind_eq_bind, Option.bind_eq_some_iff, Option.guard_eq_some'] at hread
  obtain ⟨base, -, -, hbase, modifier, hmodifier, heq⟩ := hread
  cases heq
  have hzero : -maxFlat ≤ 0 ∧ (0 : Int) ≤ maxFlat := by decide
  exact ⟨Int.natCast_nonneg base, hbase, addModifiers_within hzero hmodifier⟩

end ArmorClass

namespace Component

/-- Whether the amount may be typed and the type is made of letters, which do not look like the
sides of a die. -/
def KeepsLimits (component : Component) : Prop :=
  component.amount.KeepsLimits ∧ component.damageType.all Char.isLower = true ∧
    ∀ value, component.amount = .flat value → component.damageType.head? ≠ some 'd'

theorem keepsLimits_of_readUnsigned? {sign : Sign} {text : Text} {component : Component}
    (hread : readUnsigned? sign text = some component) : component.KeepsLimits := by
  rw [readUnsigned?] at hread
  split at hread
  · next amount damageType hscan =>
    obtain ⟨hamount, hflat⟩ := Amount.scan?_eq_some hscan
    split at hread
    · next hletters =>
      cases hread
      exact ⟨hamount, hletters, hflat⟩
    · cases hread
  · cases hread

theorem keepsLimits_of_read? {text : Text} {component : Component}
    (hread : read? text = some component) : component.KeepsLimits := by
  rw [read?.eq_def] at hread
  split at hread
  · exact keepsLimits_of_readUnsigned? hread
  · exact keepsLimits_of_readUnsigned? hread

end Component

/-- An expression is read piece by piece. -/
theorem DamageExpression.toOption_read (text : Text) :
    (read text).toOption = (pieces text).mapM fun piece => Component.read? (Text.lower piece) := by
  rw [read]
  induction pieces text with
  | nil => rfl
  | cons piece pieces ih =>
      rw [List.mapM_cons, List.mapM_cons, ← ih, readPiece]
      cases Component.read? (Text.lower piece) with
      | none => rfl
      | some component => cases pieces.mapM readPiece <;> rfl

theorem HitPoints.within_of_read? {text : Text} {points : Int} (hread : read? text = some points) :
    0 ≤ points ∧ points ≤ maxFlat := by
  simp only [read?, Option.bind_eq_bind, Option.bind_eq_some_iff, Option.guard_eq_some'] at hread
  obtain ⟨value, -, -, hvalue, heq⟩ := hread
  cases heq
  exact ⟨Int.natCast_nonneg value, hvalue⟩

theorem readTypes?_eq_some {text : Text} {types : List Text}
    (hread : readTypes? text = some types) :
    types = text.splitOn '+' ∧ ∀ type ∈ types, isTypeName type = true := by
  simp only [readTypes?] at hread
  split at hread
  · next hnames =>
    cases hread
    exact ⟨rfl, List.all_eq_true.1 hnames⟩
  · cases hread

/-- Whether what was read keeps to the limits of its grammar. -/
def Reading.KeepsLimits : Reading → Prop
  | attack roll => roll.KeepsLimits
  | target armorClass => armorClass.KeepsLimits
  | damage components => ∀ component ∈ components, component.KeepsLimits
  | hitPoints points => 0 ≤ points ∧ points ≤ maxFlat
  | resisted types | vulnerable types | immune types => ∀ type ∈ types, isTypeName type = true

/-- No grammar reads a value beyond its limits. -/
theorem Role.keepsLimits_of_read? {role : Role} {text : Text} {reading : Reading}
    (hread : role.read? text = some reading) : reading.KeepsLimits := by
  cases role <;> obtain ⟨value, hvalue, rfl⟩ := Option.map_eq_some_iff.1 hread
  case attack => exact AttackRoll.keepsLimits_of_read? hvalue
  case target => exact ArmorClass.keepsLimits_of_read? hvalue
  case damage =>
    rw [DamageExpression.toOption_read] at hvalue
    intro component hmem
    obtain ⟨piece, -, hpiece⟩ := (mem_mapM_some hvalue).2 component hmem
    exact Component.keepsLimits_of_read? hpiece
  case hitPoints => exact HitPoints.within_of_read? hvalue
  all_goals exact (readTypes?_eq_some hvalue).2

/-- Whether everything that a plan asks for keeps to the limits of typed commands. -/
structure Plan.KeepsLimits (plan : Plan) : Prop where
  attacks : ∀ roll, plan.attack = some roll →
    1 ≤ roll.count ∧ roll.count ≤ maxAttacks ∧ roll.KeepsLimits
  target : ∀ armorClass, plan.target = some armorClass → armorClass.KeepsLimits
  /-- The armor class to meet is the base with its modifiers, and there is none without a base. -/
  armorClass : plan.armorClass =
    plan.target.map fun armorClass => armorClass.base + armorClass.modifier
  damage : ∀ components, plan.damage = some components →
    ∀ component ∈ components, component.KeepsLimits
  hitPoints : ∀ points, plan.hitPoints = some points → 0 ≤ points ∧ points ≤ maxFlat
  types : ∀ type ∈ plan.defenses.resisted ++ plan.defenses.vulnerable ++ plan.defenses.immune,
    isTypeName type = true
  dice : plan.maxDice ≤ maxDicePerCommand

namespace Plan

/-- A list of types in a plan is the value of its role, unless it is empty. -/
theorem listed?_of_mem {make : List Text → Reading} {types : List Text} {type : Text}
    (hmem : type ∈ types) : listed? make types = some (make types) :=
  if_neg (List.ne_nil_of_mem hmem)

/-- A plan keeps to the limits when its values do, with as many attacks and dice as allowed. -/
theorem keepsLimits_of_values {plan : Plan}
    (hvalues : ∀ role reading, plan.value? role = some reading → reading.KeepsLimits)
    (hattacks : ∀ roll, plan.attack = some roll → 1 ≤ roll.count ∧ roll.count ≤ maxAttacks)
    (hdice : plan.maxDice ≤ maxDicePerCommand) : plan.KeepsLimits where
  attacks := by
    intro roll hroll
    have hvalue : plan.value? .attack = some (.attack roll) := congrArg (Option.map _) hroll
    exact ⟨(hattacks roll hroll).1, (hattacks roll hroll).2, hvalues _ _ hvalue⟩
  target := by
    intro armorClass htarget
    have hvalue : plan.value? .target = some (.target armorClass) := congrArg (Option.map _) htarget
    exact hvalues _ _ hvalue
  armorClass := rfl
  damage := by
    intro components hdamage
    have hvalue : plan.value? .damage = some (.damage components) := congrArg (Option.map _) hdamage
    exact hvalues _ _ hvalue
  hitPoints := by
    intro points hpoints
    have hvalue : plan.value? .hitPoints = some (.hitPoints points) :=
      congrArg (Option.map _) hpoints
    exact hvalues _ _ hvalue
  types := by
    intro type hmem
    rcases List.mem_append.1 hmem with hmem | himmune
    · rcases List.mem_append.1 hmem with hresisted | hvulnerable
      · exact hvalues .resisted _ (listed?_of_mem hresisted) type hresisted
      · exact hvalues .vulnerable _ (listed?_of_mem hvulnerable) type hvulnerable
    · exact hvalues .immune _ (listed?_of_mem himmune) type himmune
  dice := hdice

end Plan

/-- The values of a layout's plan were read from texts, so none is beyond its limits. -/
theorem Layout.IsCommand.keepsLimits {layout : Layout} (hcommand : layout.IsCommand) :
    layout.plan.KeepsLimits := by
  refine Plan.keepsLimits_of_values ?_ hcommand.attacksFit hcommand.diceFit
  intro role reading hvalue
  rw [Layout.value?_plan] at hvalue
  obtain ⟨text, hread⟩ := Layout.role_of_value? hvalue
  exact Role.keepsLimits_of_read? hread

namespace Command

/-- Whatever the input, a command that is read from it keeps to the limits, and its names are made
of the characters of names and hold no keyword. -/
theorem limits_of_parse {input : Text} {command : Command} (hok : parse input = .ok command) :
    command.plan.KeepsLimits ∧
      ∀ use name, command.names.get? use = some name →
        (name ≠ [] ∧ ∀ character ∈ name, Names.isNameCharacter character = true) ∧
          ∀ keyword ∈ Keyword.all, ¬keyword.word <:+: name := by
  constructor
  · obtain ⟨-, hcommand, rfl⟩ := (ofNormal_eq_ok_iff ..).1 hok
    exact hcommand.keepsLimits
  · intro use name hname
    obtain ⟨hisName, hquiet, -⟩ := get?_of_parse hok hname
    refine ⟨?_, Quiet.alone_iff_wordless.1 hquiet⟩
    simpa [Names.isName] using hisName

/-- The unmarked attacks have waited for the damage; the largest figures of a term are kept. -/
theorem limits_of_volley :
    ∃ command, parse "3n save b-2 Dmg 1000d1000fi+1000000 vs 9+1000000-8".toList = .ok command ∧
      command.plan.KeepsLimits ∧ command.plan.armorClass = some 1000001 ∧
      ∀ keyword ∈ Keyword.all, ¬keyword.word <:+: "b-2".toList := by
  have hok : parse "3n save b-2 Dmg 1000d1000fi+1000000 vs 9+1000000-8".toList =
      .ok ⟨⟨some ⟨3, .normal, [], []⟩, some ⟨9, 999992⟩,
        some [⟨.plus, .dice 1000 1000, "fi".toList⟩, ⟨.plus, .flat 1000000, []⟩], none,
        ⟨[], [], []⟩⟩, ⟨some "b-2".toList, none, none⟩,
        "3n dmg 1000d1000fi+1000000 vs 9+1000000-8".toList⟩ := by
    decide +kernel
  obtain ⟨hlimits, hnames⟩ := limits_of_parse hok
  refine ⟨_, hok, hlimits, rfl, ?_⟩
  exact (hnames .save "b-2".toList rfl).2

end Command

end Skirmish
