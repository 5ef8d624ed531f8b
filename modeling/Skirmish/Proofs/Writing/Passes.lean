import Skirmish.Proofs.Writing.Attacks

/-!
# Attacks read in two passes

Attacks may also be read by their form first: a pass over the whole text settles where the count,
the mode, the color and the terms of the bonus stand, and a second pass over the bonus alone finds
its terms one after the other.  The second pass finds the terms of the first one, whatever counts as
a digit beyond the ASCII ones, and both passes together read what is read in one.
-/

namespace Skirmish

/-- Whether a class of digits agrees with the ASCII ones on the ASCII characters.  The digits of
other scripts may belong to it. -/
def DigitClass (digit : Char → Bool) : Prop :=
  ∀ character, character.toNat < 128 → digit character = character.isDigit

/-- Whether a text is a run of at least one digit of a class. -/
def IsFigure (digit : Char → Bool) (text : Text) : Prop :=
  text ≠ [] ∧ ∀ character ∈ text, digit character = true

/-- Whether a text has the form of an amount, in digits of a class. -/
inductive IsBody (digit : Char → Bool) : Text → Prop
  | dice {count sides : Text} (hcount : IsFigure digit count) (hsides : IsFigure digit sides) :
      IsBody digit (count ++ 'd' :: sides)
  | flat {figure : Text} (hfigure : IsFigure digit figure) : IsBody digit figure

/-- The ways to take a figure off a text, the longest first. -/
def figures (digit : Char → Bool) : Text → List (Text × Text)
  | [] => []
  | character :: rest =>
    if digit character then
      (figures digit rest).map (fun (figure, after) => (character :: figure, after)) ++
        [([character], rest)]
    else []

/-- The dice that a count and a text behind it make, with the longest sides first. -/
def diceBehind (digit : Char → Bool) (count : Text) : Text → List Text
  | 'd' :: rest => (figures digit rest).map fun found => count ++ 'd' :: found.1
  | _ => []

/-- The dice that a text starts with, preferring the longest count and then the longest sides. -/
def diceAt (digit : Char → Bool) (text : Text) : List Text :=
  (figures digit text).flatMap fun found => diceBehind digit found.1 found.2

/-- The body that a text starts with: dice if there are any, and otherwise a flat number. -/
def bodyAt? (digit : Char → Bool) (text : Text) : Option Text :=
  (diceAt digit text ++ (figures digit text).map Prod.fst).head?

/-- The signed bodies of a text from left to right, when its first `skipped` characters belong to a
body already found.  Where none starts, a character is passed over. -/
def findTerms (digit : Char → Bool) : Nat → Text → List (Sign × Text)
  | _, [] => []
  | skipped + 1, _ :: rest => findTerms digit skipped rest
  | 0, character :: rest =>
    match Sign.ofMark? character, bodyAt? digit rest with
    | some sign, some body => (sign, body) :: findTerms digit body.length rest
    | _, _ => findTerms digit 0 rest

/-- The amount that a body stands for, taken apart at its first `d`. -/
def Amount.ofBody? (body : Text) : Option Amount :=
  match body.dropWhile (· != 'd') with
  | _ :: sides => dice? (body.takeWhile (· != 'd')) sides
  | [] => flat? body

/-- A text taken apart as attacks by its form, before any of its numbers is read. -/
structure AttackForm where
  count : Text
  letter : Char
  color : Text
  terms : List (Sign × Text)

namespace AttackForm

/-- The terms of the bonus as they stand in the text. -/
def bonus (form : AttackForm) : Text :=
  form.terms.flatMap Sign.signed

/-- The text that was taken apart. -/
def text (form : AttackForm) : Text :=
  form.count ++ form.letter :: (form.color ++ form.bonus)

/-- Whether the parts have the form of attacks, in digits of a class. -/
structure Fits (digit : Char → Bool) (form : AttackForm) : Prop where
  count : IsFigure digit form.count
  letter : ∃ mode : RollMode, form.letter = mode.letter
  color : ∀ character ∈ form.color, character.isLower = true
  terms : ∀ term ∈ form.terms, IsBody digit term.2

/-- Reads the numbers of the parts, and the terms that a second pass finds in the bonus. -/
def read? (digit : Char → Bool) (form : AttackForm) : Option AttackRoll := do
  let count ← Decimal.readNat? form.count
  guard (count ≤ largestCount)
  let mode ← RollMode.ofLetter? form.letter
  let bonus ← (findTerms digit 0 form.bonus).mapM fun (sign, body) =>
    (Amount.ofBody? body).map fun amount => Term.mk sign amount
  some ⟨count, mode, form.color, bonus⟩

end AttackForm

variable {digit : Char → Bool}

namespace DigitClass

theorem of_isDigit (hclass : DigitClass digit) {character : Char}
    (hdigit : character.isDigit = true) : digit character = true := by
  have hrange : 48 ≤ character.toNat ∧ character.toNat ≤ 57 := Char.isDigit_iff_toNat.1 hdigit
  rw [hclass character (by omega), hdigit]

theorem letter_eq_false (hclass : DigitClass digit) {letter : Char}
    (hlower : letter.isLower = true) : digit letter = false := by
  have hmost := (Text.isLower_iff.1 hlower).2
  rw [hclass letter (by omega), isDigit_eq_false_of_isLower hlower]

/-- A figure ends before a small letter. -/
theorem head?_letter (hclass : DigitClass digit) {letter : Char} (hlower : letter.isLower = true)
    (rest : Text) : ∀ character ∈ (letter :: rest).head?, digit character = false := by
  intro character hmem
  rw [← Option.some.inj hmem]
  exact hclass.letter_eq_false hlower

theorem mark_eq_false (hclass : DigitClass digit) (sign : Sign) : digit sign.mark = false := by
  cases sign
  · exact hclass '+' (by decide)
  · exact hclass '-' (by decide)

end DigitClass

namespace IsFigure

variable {text : Text}

theorem notMem (hfigure : IsFigure digit text) {character : Char}
    (hother : digit character = false) : character ∉ text := by
  intro hmem
  rw [hfigure.2 character hmem] at hother
  cases hother

theorem unsigned (hfigure : IsFigure digit text) (hclass : DigitClass digit) :
    Sign.Unsigned text := by
  intro character hmem
  cases hmark : Sign.ofMark? character with
  | none => rfl
  | some sign =>
      rw [Sign.ofMark?_eq_some_iff.1 hmark] at hmem
      exact absurd hmem (hfigure.notMem (hclass.mark_eq_false sign))

theorem of_isDigit (hclass : DigitClass digit) (hne : text ≠ [])
    (hdigits : ∀ character ∈ text, character.isDigit = true) : IsFigure digit text :=
  ⟨hne, fun character hmem => hclass.of_isDigit (hdigits character hmem)⟩

theorem of_written (hclass : DigitClass digit) {value : Nat}
    (hwritten : Decimal.Written text value) : IsFigure digit text :=
  .of_isDigit hclass (Decimal.written_iff.1 hwritten).1 hwritten.isDigit

end IsFigure

theorem IsBody.of_written (hclass : DigitClass digit) {text : Text} {amount : Amount}
    (hwritten : Amount.Written text amount) : IsBody digit text := by
  cases hwritten with
  | dice hcount hsides _ => exact .dice (.of_written hclass hcount) (.of_written hclass hsides)
  | flat hvalue _ => exact .flat (.of_written hclass hvalue)

theorem mem_figures {figure after text : Text} (hmem : (figure, after) ∈ figures digit text) :
    IsFigure digit figure ∧ text = figure ++ after := by
  induction text generalizing figure after with
  | nil => cases hmem
  | cons character rest ih =>
      rw [figures] at hmem
      split at hmem
      · next hdigit =>
        rcases List.mem_append.1 hmem with hlong | hshort
        · obtain ⟨⟨inner, behind⟩, hinner, heq⟩ := List.mem_map.1 hlong
          cases heq
          obtain ⟨⟨-, hdigits⟩, rfl⟩ := ih hinner
          exact ⟨⟨List.cons_ne_nil _ _, List.forall_mem_cons.2 ⟨hdigit, hdigits⟩⟩, rfl⟩
        · cases List.mem_singleton.1 hshort
          exact ⟨⟨List.cons_ne_nil _ _, by simpa using hdigit⟩, rfl⟩
      · cases hmem

theorem figures_eq_nil {rest : Text} (hrest : ∀ character ∈ rest.head?, digit character = false) :
    figures digit rest = [] := by
  cases rest with
  | nil => rfl
  | cons first rest => exact if_neg (by simp [hrest first rfl])

/-- The longest figure comes first. -/
theorem exists_figures {figure rest : Text} (hfigure : IsFigure digit figure)
    (hrest : ∀ character ∈ rest.head?, digit character = false) :
    ∃ shorter, figures digit (figure ++ rest) = (figure, rest) :: shorter := by
  obtain ⟨hne, hdigits⟩ := hfigure
  induction figure with
  | nil => exact absurd rfl hne
  | cons character figure ih =>
      obtain ⟨hdigit, hinner⟩ := List.forall_mem_cons.1 hdigits
      rw [List.cons_append, figures, if_pos hdigit]
      by_cases hlast : figure = []
      · rw [hlast, List.nil_append, figures_eq_nil hrest]
        exact ⟨[], rfl⟩
      · obtain ⟨shorter, heq⟩ := ih hlast hinner
        rw [heq]
        exact ⟨_, rfl⟩

theorem findTerms_append (skipped rest : Text) :
    findTerms digit skipped.length (skipped ++ rest) = findTerms digit 0 rest := by
  induction skipped with
  | nil => rfl
  | cons character skipped ih => exact ih

section

variable (hclass : DigitClass digit)
include hclass

/-- A body is found whole, before a text that does not go on with it. -/
theorem bodyAt?_append {body rest : Text} (hbody : IsBody digit body)
    (hrest : ∀ character ∈ rest.head?, digit character = false ∧ character ≠ 'd') :
    bodyAt? digit (body ++ rest) = some body := by
  have hbehind : ∀ character ∈ rest.head?, digit character = false :=
    fun character hmem => (hrest character hmem).1
  have hletter : Char.isLower 'd' = true := rfl
  cases hbody with
  | @dice count sides hcount hsides =>
      obtain ⟨fewer, hcounts⟩ := exists_figures hcount (hclass.head?_letter hletter (sides ++ rest))
      obtain ⟨shorter, hfaces⟩ := exists_figures hsides hbehind
      rw [List.append_assoc, List.cons_append, bodyAt?, diceAt, hcounts, List.flatMap_cons,
        diceBehind, hfaces]
      rfl
  | flat hfigure =>
      obtain ⟨shorter, hfigures⟩ := exists_figures hfigure hbehind
      have hnone : diceAt digit (body ++ rest) = [] := by
        rw [diceAt, List.flatMap_eq_nil_iff]
        rintro ⟨count, after⟩ hmem
        obtain ⟨hcount, hsplit⟩ := mem_figures hmem
        rw [diceBehind.eq_def]
        split
        · next more hafter =>
          obtain rfl : after = 'd' :: more := hafter
          -- A figure that ends before a `d` is the whole one, but no `d` stands behind that.
          have hwhole := (Text.run_append hfigure.2 hbehind).2
          have hcut := (Text.run_append hcount.2 (hclass.head?_letter hletter more)).2
          rw [hsplit, hcut] at hwhole
          exact absurd rfl (hrest 'd' (congrArg List.head? hwhole.symm)).2
        · rfl
      rw [bodyAt?, hnone, hfigures]
      rfl

/-- The second pass finds the terms of which the bonus is made. -/
theorem findTerms_flatMap_signed {terms : List (Sign × Text)}
    (hterms : ∀ term ∈ terms, IsBody digit term.2) :
    findTerms digit 0 (terms.flatMap Sign.signed) = terms := by
  induction terms with
  | nil => rfl
  | cons term terms ih =>
      obtain ⟨hbody, hrest⟩ := List.forall_mem_cons.1 hterms
      have hbehind : ∀ character ∈ (terms.flatMap Sign.signed).head?,
          digit character = false ∧ character ≠ 'd' := by
        intro character hmem
        obtain ⟨sign, rfl⟩ := Sign.head?_flatMap_signed terms character hmem
        exact ⟨hclass.mark_eq_false sign, by cases sign <;> decide⟩
      rw [List.flatMap_cons, Sign.signed, List.cons_append, findTerms, Sign.ofMark?_mark,
        bodyAt?_append hclass hbody hbehind]
      show term :: findTerms digit term.2.length (term.2 ++ terms.flatMap Sign.signed) =
        term :: terms
      rw [findTerms_append, ih hrest]

/-- A body is read, where its `d` is, as the amount that it writes. -/
theorem Amount.ofBody?_eq_some_iff {body : Text} {amount : Amount} (hbody : IsBody digit body) :
    ofBody? body = some amount ↔ Written body amount := by
  have hletter : digit 'd' = false := hclass.letter_eq_false rfl
  have hbefore : ∀ {figure : Text}, IsFigure digit figure →
      ∀ character ∈ figure, (character != 'd') = true := by
    intro figure hfigure character hmem
    exact bne_iff_ne.2 fun heq => hfigure.notMem hletter (heq ▸ hmem)
  cases hbody with
  | @dice count sides hcount hsides =>
      have hbehind : ∀ character ∈ ('d' :: sides).head?, (character != 'd') = false := by simp
      obtain ⟨htake, hdrop⟩ := Text.run_append (hbefore hcount) hbehind
      rw [ofBody?, hdrop, htake]
      refine (dice?_eq_some_iff (hcount.unsigned hclass) (hsides.unsigned hclass)).trans ⟨?_, ?_⟩
      · rintro ⟨number, faces, rfl, hnumber, hfaces, hlimits⟩
        exact .dice hnumber hfaces hlimits
      · intro hwritten
        generalize htext : count ++ 'd' :: sides = text at hwritten
        cases hwritten with
        | @dice _ _ number faces hnumber hfaces hlimits =>
            obtain ⟨rfl, -, rfl⟩ := (List.append_cons_inj_of_notMem (hcount.notMem hletter)
              (hsides.notMem hletter)).1 htext
            exact ⟨number, faces, rfl, hnumber, hfaces, hlimits⟩
        | flat hvalue _ =>
            have hmem : 'd' ∈ count ++ 'd' :: sides := List.mem_append_right _ List.mem_cons_self
            exact absurd (htext ▸ hmem) ((IsFigure.of_written hclass hvalue).notMem hletter)
  | flat hfigure =>
      rw [ofBody?, List.dropWhile_eq_nil_iff.2 (hbefore hfigure)]
      refine (flat?_eq_some_iff (hfigure.unsigned hclass)).trans ⟨?_, ?_⟩
      · rintro ⟨value, rfl, hvalue, hlimit⟩
        exact .flat hvalue hlimit
      · intro hwritten
        cases hwritten with
        | dice => exact absurd (List.mem_append_right _ List.mem_cons_self) (hfigure.notMem hletter)
        | flat hvalue hlimit => exact ⟨_, rfl, hvalue, hlimit⟩

namespace AttackForm

/-- The figure of the count is the longest run of digits that the text starts with. -/
theorem Fits.cut_text {form : AttackForm} (hform : form.Fits digit) :
    form.text.takeWhile digit = form.count ∧
      form.text.dropWhile digit = form.letter :: (form.color ++ form.bonus) := by
  obtain ⟨mode, hmode⟩ := hform.letter
  have hlower : form.letter.isLower = true := hmode ▸ mode.isLower_letter
  exact Text.run_append hform.count.2 (hclass.head?_letter hlower _)

/-- A text has the form of attacks in at most one way. -/
theorem eq_of_text_eq {form other : AttackForm} (hform : form.Fits digit)
    (hother : other.Fits digit) (htext : form.text = other.text) : form = other := by
  -- The text gives back each part in turn: a run ends where the next part starts.
  obtain ⟨hcount, hrest⟩ := hform.cut_text hclass
  obtain ⟨hcount', hrest'⟩ := hother.cut_text hclass
  have hcolor : ∀ {shape : AttackForm}, shape.Fits digit →
      (shape.color ++ shape.bonus).takeWhile Char.isLower = shape.color ∧
        (shape.color ++ shape.bonus).dropWhile Char.isLower = shape.bonus :=
    fun hfits => Text.run_append hfits.color (Sign.isLower_of_head?_flatMap_signed _)
  have hcounts : form.count = other.count := by
    rw [← hcount, htext, hcount']
  have hrests : form.letter :: (form.color ++ form.bonus) =
      other.letter :: (other.color ++ other.bonus) := by
    rw [← hrest, htext, hrest']
  obtain ⟨hletters, hbehind⟩ := List.cons.inj hrests
  have hcolors : form.color = other.color := by
    rw [← (hcolor hform).1, hbehind, (hcolor hother).1]
  have hbonuses : form.bonus = other.bonus := by
    rw [← (hcolor hform).2, hbehind, (hcolor hother).2]
  have hterms : form.terms = other.terms := by
    calc
      form.terms = findTerms digit 0 form.bonus :=
        (findTerms_flatMap_signed hclass hform.terms).symm
      _ = findTerms digit 0 other.bonus := congrArg (findTerms digit 0) hbonuses
      _ = other.terms := findTerms_flatMap_signed hclass hother.terms
  cases form
  cases other
  rw [AttackForm.mk.injEq]
  exact ⟨hcounts, hletters, hcolors, hterms⟩

theorem read?_eq_some_iff {form : AttackForm} {roll : AttackRoll} (hform : form.Fits digit) :
    form.read? digit = some roll ↔
      Decimal.Written form.count roll.count ∧ roll.count ≤ largestCount ∧
        form.letter = roll.mode.letter ∧ form.color = roll.color ∧
        List.Forall₂ Term.Written form.terms roll.bonus := by
  obtain ⟨mode, hmode⟩ := hform.letter
  have hterm : ∀ {signed : Sign × Text} {term : Term}, IsBody digit signed.2 →
      ((Amount.ofBody? signed.2).map (fun amount => Term.mk signed.1 amount) = some term ↔
        Term.Written signed term) :=
    fun hbody => Term.map_eq_some_iff fun _ => Amount.ofBody?_eq_some_iff hclass hbody
  have hfound : ∀ {found : List Term},
      form.terms.mapM (fun signed =>
          (Amount.ofBody? signed.2).map fun amount => Term.mk signed.1 amount) = some found ↔
        List.Forall₂ Term.Written form.terms found := by
    intro found
    rw [mapM_eq_some_iff]
    constructor
    · intro hread
      exact ((List.forall₂_and_left _ _).2 ⟨hform.terms, hread⟩).imp
        fun _ _ hboth => (hterm hboth.1).1 hboth.2
    · intro hwritten
      exact ((List.forall₂_and_left _ _).2 ⟨hform.terms, hwritten⟩).imp
        fun _ _ hboth => (hterm hboth.1).2 hboth.2
  simp only [read?, bonus, findTerms_flatMap_signed hclass hform.terms, Option.bind_eq_bind,
    Option.bind_eq_some_iff, Option.guard_eq_some', Decimal.readNat?_eq_some_iff, hfound, hmode,
    RollMode.ofLetter?_letter, RollMode.letter_inj]
  constructor
  · rintro ⟨count, hcount, -, hle, other, hother, terms, hterms, heq⟩
    cases heq
    exact ⟨hcount, hle, Option.some.inj hother, rfl, hterms⟩
  · rintro ⟨hcount, hle, hsame, hcolor, hterms⟩
    refine ⟨roll.count, hcount, (), hle, roll.mode, congrArg some hsame, roll.bonus, hterms, ?_⟩
    rw [hcolor]

end AttackForm

/-- Both passes together read what is read in one. -/
theorem AttackRoll.read?_eq_some_iff_exists_form {text : Text} {roll : AttackRoll} :
    read? text = some roll ↔
      ∃ form : AttackForm, form.Fits digit ∧ form.text = text ∧ form.read? digit = some roll := by
  rw [AttackRoll.read?_eq_some_iff]
  constructor
  · rintro ⟨⟨count, terms, hcount, hterms, rfl⟩, hle, hletters⟩
    have hfits : (AttackForm.mk count roll.mode.letter roll.color terms).Fits digit := by
      refine ⟨.of_written hclass hcount, ⟨roll.mode, rfl⟩, hletters, ?_⟩
      intro term hmem
      obtain ⟨found, -, hamount⟩ := exists_of_forall₂ hterms term hmem
      exact .of_written hclass hamount
    exact ⟨_, hfits, rfl,
      (AttackForm.read?_eq_some_iff hclass hfits).2 ⟨hcount, hle, rfl, rfl, hterms⟩⟩
  · rintro ⟨form, hfits, rfl, hread⟩
    obtain ⟨hcount, hle, hletter, hcolor, hterms⟩ :=
      (AttackForm.read?_eq_some_iff hclass hfits).1 hread
    refine ⟨⟨form.count, form.terms, hcount, hterms, ?_⟩, hle, ?_⟩
    · rw [← hletter, ← hcolor]
      rfl
    · rw [← hcolor]
      exact hfits.color

end

namespace AttackRoll

/-- Attacks within the limits are read back from what is written of them, and what is read as
attacks writes them, up to leading zeros.  In two passes the same is read: a text has one form, and
the second pass finds the terms of that form in its bonus. -/
theorem read_unambiguous :
    (∀ roll : AttackRoll, roll.count ≤ largestCount → roll.KeepsLimits →
      read? roll.write = some roll) ∧
    (∀ text roll, read? text = some roll ↔ Written text roll) ∧
    ∀ digit, DigitClass digit →
      (∀ form : AttackForm, form.Fits digit → findTerms digit 0 form.bonus = form.terms) ∧
      (∀ form other : AttackForm, form.Fits digit → other.Fits digit → form.text = other.text →
        form = other) ∧
      ∀ text roll, read? text = some roll ↔
        ∃ form : AttackForm, form.Fits digit ∧ form.text = text ∧ form.read? digit = some roll := by
  refine ⟨?_, fun _ _ => read?_eq_some_iff, ?_⟩
  · intro roll hcount hlimits
    exact read?_eq_some_iff.2 (written_write hcount hlimits)
  · intro digit hclass
    exact ⟨fun form hform => findTerms_flatMap_signed hclass hform.terms,
      fun _ _ => AttackForm.eq_of_text_eq hclass,
      fun _ _ => read?_eq_some_iff_exists_form hclass⟩

theorem read_unambiguous_leading_zeros :
    let digit : Char → Bool := fun character => character.isDigit || character.toNat == 0x663
    let roll : AttackRoll :=
      ⟨2, .disadvantage, ['d', 'd'], [⟨.plus, .dice 3 6⟩, ⟨.minus, .flat 0⟩]⟩
    let form : AttackForm :=
      ⟨['0', '2'], 'd', ['d', 'd'], [(.plus, ['0', '3'] ++ 'd' :: ['6']), (.minus, ['0', '0'])]⟩
    (roll.count ≤ largestCount ∧ roll.KeepsLimits ∧ DigitClass digit ∧ form.Fits digit) ∧
      read? roll.write = some roll ∧ Written form.text roll ∧
      findTerms digit 0 form.bonus = form.terms ∧ form.read? digit = some roll := by
  intro digit roll form
  have hclass : DigitClass digit := by
    intro character hascii
    have hother : character.toNat ≠ 0x663 := by omega
    simp [digit, hother]
  have hfits : form.Fits digit := by
    have hfigure : ∀ figure : Text, figure ≠ [] ∧ figure.all Char.isDigit = true →
        IsFigure digit figure :=
      fun figure hdigits => .of_isDigit hclass hdigits.1 (List.all_eq_true.1 hdigits.2)
    refine ⟨hfigure _ (by decide), ⟨.disadvantage, rfl⟩, List.all_eq_true.1 rfl, ?_⟩
    exact List.forall_mem_cons.2 ⟨.dice (hfigure _ (by decide)) (hfigure _ (by decide)),
      List.forall_mem_cons.2 ⟨.flat (hfigure _ (by decide)), List.forall_mem_nil _⟩⟩
  have hread : read? form.text = some roll := by decide +kernel
  have hcount : roll.count ≤ largestCount := by decide
  have hlimits : roll.KeepsLimits := keepsLimits_of_read? hread
  obtain ⟨hback, hwritten, hpasses⟩ := read_unambiguous
  obtain ⟨hterms, hunique, hforms⟩ := hpasses digit hclass
  obtain ⟨other, hother, htext, hforms⟩ := (hforms _ _).1 hread
  obtain rfl := hunique _ _ hother hfits htext
  exact ⟨⟨hcount, hlimits, hclass, hfits⟩, hback _ hcount hlimits, (hwritten _ _).1 hread,
    hterms _ hfits, hforms⟩

-- The form takes a digit of another script, and the number refuses it.
example : read? ['1', 'n', '+', '\u0663'] = none := by decide +kernel

end AttackRoll

end Skirmish
