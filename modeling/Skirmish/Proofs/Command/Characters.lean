import Mathlib.Data.List.TakeWhile
import Skirmish.Proofs.Command.Limits
import Skirmish.Proofs.Text.Letters

/-!
# The characters of a command

What the grammars accept is made of small letters, digits and the signs of terms, so every command
is, in its normal form, a text of these characters and those of names.  A capital sigma or a dotted
capital I therefore never stands in a command, and without these the normal form is found letter by
letter: texts that agree but for blanks and the case of letters are the same command.
-/

namespace Skirmish

namespace Text

theorem dropWhile_isBlank_eq_self {text : Text}
    (hblank : ∀ character ∈ text, isBlank character = false) : text.dropWhile isBlank = text := by
  rw [List.dropWhile_eq_self_iff]
  intro hlength
  rw [hblank _ (List.getElem_mem hlength)]
  exact Bool.false_ne_true

theorem trim_eq_self {text : Text} (hblank : ∀ character ∈ text, isBlank character = false) :
    trim text = text := by
  have hreversed : ∀ character ∈ text.reverse, isBlank character = false :=
    fun character hmem => hblank character (List.mem_reverse.1 hmem)
  rw [trim, dropWhile_isBlank_eq_self hblank, dropWhile_isBlank_eq_self hreversed,
    List.reverse_reverse]

/-- The characters of a piece are characters of the whole. -/
theorem mem_intercalate_of_mem {separator character : Char} {piece : Text} {pieces : List Text}
    (hpiece : piece ∈ pieces) (hmem : character ∈ piece) :
    character ∈ [separator].intercalate pieces := by
  induction pieces with
  | nil => cases hpiece
  | cons first pieces ih =>
      cases pieces with
      | nil =>
        rw [List.intercalate_singleton]
        rwa [List.mem_singleton.1 hpiece] at hmem
      | cons next pieces =>
          rw [List.intercalate_cons_cons]
          rcases List.mem_cons.1 hpiece with rfl | hrest
          · exact List.mem_append_left _ (List.mem_append_left _ hmem)
          · exact List.mem_append_right _ (ih hrest)

theorem mem_of_mem_splitOn {separator character : Char} {piece text : Text}
    (hpiece : piece ∈ text.splitOn separator) (hmem : character ∈ piece) : character ∈ text := by
  have hwhole : character ∈ [separator].intercalate (text.splitOn separator) :=
    mem_intercalate_of_mem hpiece hmem
  rwa [List.intercalate_splitOn] at hwhole

end Text

namespace Command

/-- The characters of commands in their normal form. -/
def isCharacter (character : Char) : Bool :=
  Names.isNameCharacter character || character == '+'

theorem isCharacter_of_isDigit {character : Char} (hdigit : character.isDigit = true) :
    isCharacter character = true := by
  simp [isCharacter, Names.isNameCharacter, hdigit]

theorem isCharacter_of_isLower {character : Char} (hletter : character.isLower = true) :
    isCharacter character = true := by
  simp [isCharacter, Names.isNameCharacter, hletter]

/-- A text in which every character may stand in a command. -/
def IsPlain (text : Text) : Prop :=
  ∀ character ∈ text, isCharacter character = true

theorem settled_of_isCharacter {character : Char} (hcharacter : isCharacter character = true) :
    Text.Settled character := by
  simp only [isCharacter, Names.isNameCharacter, Bool.or_eq_true, beq_iff_eq] at hcharacter
  rcases hcharacter with (((hlower | hdigit) | rfl) | rfl) | rfl
  · have hrange := Text.isLower_iff.1 hlower
    exact Text.settled_of_visible (by omega) (by omega)
  · have hrange : 48 ≤ character.toNat ∧ character.toNat ≤ 57 := Char.isDigit_iff_toNat.1 hdigit
    exact Text.settled_of_visible (by omega) (by omega)
  all_goals exact Text.settled_of_visible (by decide) (by decide)

theorem isPlain_append {left right : Text} :
    IsPlain (left ++ right) ↔ IsPlain left ∧ IsPlain right :=
  List.forall_mem_append

theorem isPlain_cons {character : Char} {text : Text} :
    IsPlain (character :: text) ↔ isCharacter character = true ∧ IsPlain text :=
  List.forall_mem_cons

theorem isPlain_of_digits {text : Text}
    (hdigits : ∀ character ∈ text, character.isDigit = true) : IsPlain text :=
  fun character hmem => isCharacter_of_isDigit (hdigits character hmem)

theorem isPlain_of_letters {text : Text}
    (hletters : ∀ character ∈ text, character.isLower = true) : IsPlain text :=
  fun character hmem => isCharacter_of_isLower (hletters character hmem)

theorem isPlain_takeWhile_isDigit (text : Text) : IsPlain (text.takeWhile Char.isDigit) :=
  isPlain_of_digits fun _ hmem => List.mem_takeWhile_imp hmem

theorem isPlain_of_readNat? {text : Text} {value : Nat}
    (hread : Decimal.readNat? text = some value) : IsPlain text :=
  isPlain_of_digits (Decimal.readNat?_eq_some hread).2.1

theorem isCharacter_of_ofMark? {character : Char} {sign : Sign}
    (hmark : Sign.ofMark? character = some sign) : isCharacter character = true := by
  unfold Sign.ofMark? at hmark
  split at hmark
  · rfl
  · rfl
  · cases hmark

/-- A text is plain when it is plain up to its first sign and after each sign. -/
theorem isPlain_of_cut {text : Text} (hgap : IsPlain (Sign.cut text).1)
    (hsigned : ∀ term ∈ (Sign.cut text).2, IsPlain term.2) : IsPlain text := by
  induction text with
  | nil => exact List.forall_mem_nil _
  | cons character rest ih =>
      cases hmark : Sign.ofMark? character with
      | none =>
          simp only [Sign.cut, hmark, isPlain_cons] at hgap hsigned
          exact isPlain_cons.2 ⟨hgap.1, ih hgap.2 hsigned⟩
      | some sign =>
          simp only [Sign.cut, hmark, List.forall_mem_cons] at hsigned
          exact isPlain_cons.2 ⟨isCharacter_of_ofMark? hmark, ih hsigned.1 hsigned.2⟩

/-- Text without a sign between its parts is plain when the parts are. -/
theorem isPlain_of_intercalate {pieces : List Text} (hpieces : ∀ piece ∈ pieces, IsPlain piece) :
    IsPlain (['+'].intercalate pieces) := by
  induction pieces with
  | nil => exact List.forall_mem_nil _
  | cons piece pieces ih =>
      obtain ⟨hpiece, hrest⟩ := List.forall_mem_cons.1 hpieces
      cases pieces with
      | nil => simpa using hpiece
      | cons next pieces =>
          rw [List.intercalate_cons_cons, isPlain_append, isPlain_append]
          exact ⟨⟨hpiece, isPlain_cons.2 ⟨rfl, List.forall_mem_nil _⟩⟩, ih hrest⟩

theorem isPlain_of_splitOn {text : Text} (hpieces : ∀ piece ∈ text.splitOn '+', IsPlain piece) :
    IsPlain text := by
  have hwhole := isPlain_of_intercalate hpieces
  rwa [List.intercalate_splitOn] at hwhole

theorem isPlain_of_scan? {text rest : Text} {amount : Amount}
    (hscan : Amount.scan? text = some (amount, rest)) (hrest : IsPlain rest) : IsPlain text := by
  rw [← List.takeWhile_append_dropWhile (p := Char.isDigit) (l := text), isPlain_append]
  refine ⟨isPlain_takeWhile_isDigit text, ?_⟩
  simp only [Amount.scan?] at hscan
  split at hscan
  · next more hdrop =>
    obtain ⟨found, -, heq⟩ := Option.map_eq_some_iff.1 hscan
    obtain ⟨-, rfl⟩ := Prod.mk.inj heq
    rw [hdrop, isPlain_cons, ← List.takeWhile_append_dropWhile (p := Char.isDigit) (l := more),
      isPlain_append]
    exact ⟨rfl, isPlain_takeWhile_isDigit more, hrest⟩
  · obtain ⟨found, -, heq⟩ := Option.map_eq_some_iff.1 hscan
    obtain ⟨-, rfl⟩ := Prod.mk.inj heq
    exact hrest

theorem isPlain_of_readTerm? {sign : Sign} {body : Text} {term : Term}
    (hread : Term.read? sign body = some term) : IsPlain body := by
  obtain ⟨amount, hamount, -⟩ := Option.map_eq_some_iff.1 hread
  rw [Amount.read?] at hamount
  split at hamount
  · next hscan => exact isPlain_of_scan? hscan (List.forall_mem_nil _)
  · cases hamount

theorem isPlain_of_readAttacks? {text : Text} {roll : AttackRoll}
    (hread : AttackRoll.read? text = some roll) : IsPlain text := by
  obtain ⟨letter, rest, hdrop, hletter, -, -, hgap, hbonus⟩ := AttackRoll.read?_eq_some hread
  rw [← List.takeWhile_append_dropWhile (p := Char.isDigit) (l := text), isPlain_append, hdrop,
    isPlain_cons, ← List.takeWhile_append_dropWhile (p := Char.isLower) (l := rest), isPlain_append]
  refine ⟨isPlain_takeWhile_isDigit text, isCharacter_of_isLower hletter, ?_, ?_⟩
  · exact isPlain_of_letters fun _ hmem => List.mem_takeWhile_imp hmem
  · apply isPlain_of_cut
    · rw [hgap]
      exact List.forall_mem_nil _
    · intro term hmem
      obtain ⟨read, -, hterm⟩ := (mem_mapM_some hbonus).1 term hmem
      exact isPlain_of_readTerm? hterm

theorem isPlain_of_addModifiers {sum total : Int} {signed : List (Sign × Text)}
    (hadd : ArmorClass.addModifiers sum signed = some total) :
    ∀ term ∈ signed, IsPlain term.2 := by
  induction signed generalizing sum with
  | nil => exact List.forall_mem_nil _
  | cons first signed ih =>
      simp only [ArmorClass.addModifiers, Option.bind_eq_bind, Option.bind_eq_some_iff] at hadd
      obtain ⟨magnitude, hread, -, -, -, -, hrest⟩ := hadd
      exact List.forall_mem_cons.2 ⟨isPlain_of_readNat? hread, ih hrest⟩

theorem isPlain_of_readArmorClass? {text : Text} {armorClass : ArmorClass}
    (hread : ArmorClass.read? text = some armorClass) : IsPlain text := by
  simp only [ArmorClass.read?, Option.bind_eq_bind, Option.bind_eq_some_iff] at hread
  obtain ⟨base, hbase, -, -, modifier, hmodifier, -⟩ := hread
  exact isPlain_of_cut (isPlain_of_readNat? hbase) (isPlain_of_addModifiers hmodifier)

theorem isPlain_of_readComponent? {text : Text} {component : Component}
    (hread : Component.read? text = some component) : IsPlain text := by
  have hunsigned : ∀ {sign body}, Component.readUnsigned? sign body = some component →
      IsPlain body := by
    intro sign body hbody
    rw [Component.readUnsigned?] at hbody
    split at hbody
    · next hscan =>
      split at hbody
      · next hletters =>
        exact isPlain_of_scan? hscan (isPlain_of_letters (List.all_eq_true.1 hletters))
      · cases hbody
    · cases hbody
  rw [Component.read?.eq_def] at hread
  split at hread
  · exact isPlain_cons.2 ⟨rfl, hunsigned hread⟩
  · exact hunsigned hread

/-- Settled text has no blanks to trim, and its letters are small. -/
theorem isPlain_of_readDamage {text : Text} {components : List Component}
    (hsettled : ∀ character ∈ text, Text.Settled character)
    (hread : (DamageExpression.read text).toOption = some components) : IsPlain text := by
  rw [DamageExpression.toOption_read] at hread
  apply isPlain_of_splitOn
  intro piece hpiece
  have hinside : ∀ character ∈ piece, Text.Settled character :=
    fun character hmem => hsettled character (Text.mem_of_mem_splitOn hpiece hmem)
  have htrim : Text.trim piece = piece :=
    Text.trim_eq_self fun character hmem => (hinside character hmem).unreserved.1
  by_cases hempty : piece = []
  · rw [hempty]
    exact List.forall_mem_nil _
  · have hmem : piece ∈ DamageExpression.pieces text := by
      refine List.mem_filter.2 ⟨List.mem_map.2 ⟨piece, hpiece, htrim⟩, ?_⟩
      simpa using hempty
    obtain ⟨component, -, hcomponent⟩ := (mem_mapM_some hread).1 piece hmem
    rw [Text.lower, Text.lowerAfter_settled hinside] at hcomponent
    exact isPlain_of_readComponent? hcomponent

theorem isPlain_of_readTypes? {text : Text} {types : List Text}
    (hread : readTypes? text = some types) : IsPlain text := by
  obtain ⟨rfl, hnames⟩ := readTypes?_eq_some hread
  apply isPlain_of_splitOn
  intro type hmem
  have hname := hnames type hmem
  rw [isTypeName, Bool.and_eq_true] at hname
  exact isPlain_of_letters (List.all_eq_true.1 hname.2)

theorem isPlain_of_readHitPoints? {text : Text} {points : Int}
    (hread : HitPoints.read? text = some points) : IsPlain text := by
  simp only [HitPoints.read?, Option.bind_eq_bind, Option.bind_eq_some_iff] at hread
  obtain ⟨value, hvalue, -⟩ := hread
  exact isPlain_of_readNat? hvalue

/-- Normal text that has a value in some role is made of the characters of commands. -/
theorem isPlain_of_read? {role : Role} {text : Text}
    (hsettled : ∀ character ∈ text, Text.Settled character)
    (hread : (role.read? text).isSome = true) : IsPlain text := by
  obtain ⟨reading, hread⟩ := Option.isSome_iff_exists.1 hread
  cases role <;> obtain ⟨value, hvalue, -⟩ := Option.map_eq_some_iff.1 hread
  case attack => exact isPlain_of_readAttacks? hvalue
  case target => exact isPlain_of_readArmorClass? hvalue
  case damage => exact isPlain_of_readDamage hsettled hvalue
  case hitPoints => exact isPlain_of_readHitPoints? hvalue
  all_goals exact isPlain_of_readTypes? hvalue

theorem isPlain_of_isName {name : Text} (hname : Names.isName name = true) : IsPlain name := by
  rw [Names.isName, Bool.and_eq_true] at hname
  intro character hmem
  rw [isCharacter, List.all_eq_true.1 hname.2 character hmem, Bool.true_or]

theorem isPlain_word (keyword : Keyword) : IsPlain keyword.word := by
  have hall : (Keyword.all.all fun keyword => keyword.word.all isCharacter) = true := by
    decide +kernel
  exact List.all_eq_true.1 (List.all_eq_true.1 hall keyword (Keyword.mem_all keyword))

/-- Keywords are made of the characters of commands, so only the texts between them count. -/
theorem isPlain_source_iff {layout : Layout} :
    IsPlain layout.source ↔
      IsPlain layout.leading ∧ ∀ chunk ∈ layout.chunks, IsPlain chunk.text := by
  rw [Layout.source, isPlain_append]
  refine and_congr_right fun _ => ?_
  constructor
  · intro hchunks chunk hmem character htext
    exact hchunks character (List.mem_flatMap.2 ⟨chunk, hmem, List.mem_append_right _ htext⟩)
  · intro htexts character hmem
    obtain ⟨chunk, hchunk, hmem⟩ := List.mem_flatMap.1 hmem
    rcases List.mem_append.1 hmem with hword | htext
    · exact isPlain_word chunk.keyword character hword
    · exact htexts chunk hchunk character htext

/-- A command laid out from a normal form is made of the characters of commands. -/
theorem isPlain_source {layout : Layout} (hcommand : layout.IsCommand)
    (hsettled : ∀ character ∈ layout.source, Text.Settled character) : IsPlain layout.source := by
  rw [isPlain_source_iff]
  constructor
  · by_cases hleading : layout.leading = []
    · rw [hleading]
      exact List.forall_mem_nil _
    · obtain ⟨role, hfill⟩ := hcommand.leadingFits hleading
      rw [Layout.mayFill, Bool.and_eq_true, Option.any_eq_true] at hfill
      obtain ⟨reading, hread, -⟩ := hfill.2
      have hsome : (role.read? layout.leading).isSome = true :=
        Option.isSome_iff_exists.2 ⟨reading, hread⟩
      refine isPlain_of_read? ?_ hsome
      exact fun character hmem => hsettled character (List.mem_append_left _ hmem)
  · intro chunk hchunk
    cases htopic : chunk.keyword.topic with
    | inl role =>
        refine isPlain_of_read? ?_ (hcommand.rolesFit chunk hchunk role htopic)
        exact fun other hother => hsettled other (Layout.mem_source_of_mem_text hchunk hother)
    | inr use => exact isPlain_of_isName (hcommand.namesFit chunk hchunk use htopic)

theorem isPlain_normalize {input : Text} {command : Command} (hok : parse input = .ok command) :
    IsPlain (normalize input) := by
  obtain ⟨-, hcommand, -⟩ := (ofNormal_eq_ok_iff ..).1 hok
  have hsource := Layout.source_ofText (normalize input)
  rw [← hsource]
  apply isPlain_source hcommand
  intro character hmem
  rw [hsource] at hmem
  exact settled_of_mem_normalize hmem

end Command

namespace Text

/-- The small letters of a text without its blanks: what counts where spacing and letter case do
not. -/
def letters (text : Text) : Text :=
  (withoutBlanks text).map smallLetter

@[simp]
theorem letters_append (left right : Text) :
    letters (left ++ right) = letters left ++ letters right := by
  rw [letters, withoutBlanks_append, List.map_append]
  rfl

theorem letters_settled {text : Text} (hsettled : ∀ character ∈ text, Settled character) :
    letters text = text := by
  have hblank := withoutBlanks_eq_self fun character hmem => (hsettled character hmem).unreserved.1
  rw [letters, hblank]
  calc
    text.map smallLetter = text.map id :=
      List.map_congr_left fun character hmem => (hsettled character hmem).isSmall
    _ = text := List.map_id text

/-- Only the capitals sigma and dotted I are not lowered letter by letter. -/
theorem lowerAfter_eq_map {before text : Text}
    (halone : ∀ character ∈ text, character ≠ 'Σ' ∧ character ≠ 'İ') :
    lowerAfter before text = text.map smallLetter := by
  induction text generalizing before with
  | nil => rfl
  | cons character after ih =>
      obtain ⟨⟨hsigma, hdotted⟩, hrest⟩ := List.forall_mem_cons.1 halone
      have hfirst : lowerCharacter before character after = [smallLetter character] := by
        rw [lowerCharacter, if_neg hsigma, if_neg hdotted]
      rw [lowerAfter, hfirst, ih hrest]
      rfl

end Text

namespace Command

/-- What the capitals sigma and dotted I become stands in no command. -/
theorem ne_of_isPlain_lowerCharacter {before after : Text} {character : Char}
    (hplain : IsPlain (Text.lowerCharacter before character after)) :
    character ≠ 'Σ' ∧ character ≠ 'İ' := by
  have hfinal : isCharacter 'ς' = false := by decide
  have hsmall : isCharacter 'σ' = false := by decide
  have hdot : isCharacter '\u0307' = false := by decide
  constructor
  · rintro rfl
    rw [Text.lowerCharacter, if_pos rfl] at hplain
    split at hplain
    · simp [IsPlain, hfinal] at hplain
    · simp [IsPlain, hsmall] at hplain
  · rintro rfl
    rw [Text.lowerCharacter, if_neg (by decide), if_pos rfl] at hplain
    simp [IsPlain, hdot] at hplain

theorem ne_of_isPlain_lowerAfter {before text : Text}
    (hplain : IsPlain (Text.lowerAfter before text)) :
    ∀ character ∈ text, character ≠ 'Σ' ∧ character ≠ 'İ' := by
  induction text generalizing before with
  | nil => exact List.forall_mem_nil _
  | cons character after ih =>
      rw [Text.lowerAfter, isPlain_append] at hplain
      exact List.forall_mem_cons.2 ⟨ne_of_isPlain_lowerCharacter hplain.1, ih hplain.2⟩

theorem ne_of_isPlain_map {text : Text} (hplain : IsPlain (text.map Text.smallLetter)) :
    ∀ character ∈ text, character ≠ 'Σ' ∧ character ≠ 'İ' := by
  have hsigma : isCharacter (Text.smallLetter 'Σ') = false := by decide +kernel
  have hdotted : isCharacter (Text.smallLetter 'İ') = false := by decide +kernel
  intro character hmem
  have hsmall := hplain _ (List.mem_map_of_mem hmem)
  constructor
  · rintro rfl
    rw [hsigma] at hsmall
    cases hsmall
  · rintro rfl
    rw [hdotted] at hsmall
    cases hsmall

/-- The normal form of a command is found letter by letter. -/
theorem normalize_eq_letters {text : Text}
    (hplain : IsPlain (normalize text) ∨ IsPlain (Text.letters text)) :
    normalize text = Text.letters text := by
  apply Text.lowerAfter_eq_map
  rcases hplain with hnormal | hletters
  · exact ne_of_isPlain_lowerAfter hnormal
  · exact ne_of_isPlain_map hletters

theorem letters_of_parse {input : Text} {command : Command} (hok : parse input = .ok command) :
    normalize input = Text.letters input :=
  normalize_eq_letters (.inl (isPlain_normalize hok))

end Command

end Skirmish
