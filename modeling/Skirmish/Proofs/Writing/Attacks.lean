import Skirmish.Proofs.Writing.Amounts
import Skirmish.Proofs.Writing.Items

/-!
# Written attacks

Attacks are written as their count, the letter of their mode, the letters of their color, and the
terms of their bonus behind their signs.  A text is read as the attacks that it writes and has no
other reading.
-/

namespace Skirmish

/-- Whether a sign and the text behind it write a term. -/
def Term.Written (signed : Sign × Text) (term : Term) : Prop :=
  signed.1 = term.sign ∧ Amount.Written signed.2 term.amount

/-- An amount that is what the text behind a sign writes makes the term that both write. -/
theorem Term.map_eq_some_iff {signed : Sign × Text} {term : Term} {found : Option Amount}
    (hfound : ∀ amount, found = some amount ↔ Amount.Written signed.2 amount) :
    found.map (fun amount => Term.mk signed.1 amount) = some term ↔ Written signed term := by
  rw [Option.map_eq_some_iff]
  constructor
  · rintro ⟨amount, hamount, rfl⟩
    exact ⟨rfl, (hfound amount).1 hamount⟩
  · rintro ⟨hsign, hwritten⟩
    exact ⟨term.amount, (hfound term.amount).2 hwritten, by rw [hsign]⟩

theorem Term.read?_eq_some_iff {signed : Sign × Text} {term : Term} :
    read? signed.1 signed.2 = some term ↔ Written signed term :=
  map_eq_some_iff fun _ => Amount.read?_eq_some_iff

theorem Term.mapM_read?_eq_some_iff {terms : List (Sign × Text)} {bonus : List Term} :
    terms.mapM (fun signed => read? signed.1 signed.2) = some bonus ↔
      List.Forall₂ Written terms bonus := by
  simp only [mapM_eq_some_iff, read?_eq_some_iff]

/-- A written bonus is cut into its terms. -/
theorem Term.cut_flatMap_signed {terms : List (Sign × Text)} {bonus : List Term}
    (hterms : List.Forall₂ Written terms bonus) :
    Sign.cut (terms.flatMap Sign.signed) = ([], terms) := by
  refine Sign.cut_eq_iff.2 ⟨rfl, List.forall_mem_nil _, ?_⟩
  intro term hmem
  obtain ⟨written, -, hamount⟩ := exists_of_forall₂ hterms term hmem
  exact hamount.unsigned

/-- A run of small letters ends before signed terms. -/
theorem Sign.isLower_of_head?_flatMap_signed (terms : List (Sign × Text)) :
    ∀ character ∈ (terms.flatMap signed).head?, character.isLower = false := by
  intro character hmem
  obtain ⟨sign, rfl⟩ := head?_flatMap_signed terms character hmem
  cases sign <;> rfl

theorem RollMode.isLower_letter (mode : RollMode) : mode.letter.isLower = true := by
  cases mode <;> rfl

theorem RollMode.letter_inj {mode other : RollMode} :
    mode.letter = other.letter ↔ mode = other := by
  constructor
  · intro heq
    have hread := ofLetter?_letter mode
    rwa [heq, ofLetter?_letter, Option.some.injEq, eq_comm] at hread
  · rintro rfl
    rfl

/-- A small letter stands for the mode that is written with it. -/
theorem RollMode.ofLetter?_eq_some_iff {letter : Char} {mode : RollMode}
    (hlower : letter.isLower = true) : ofLetter? letter = some mode ↔ letter = mode.letter := by
  constructor
  · intro hread
    rw [ofLetter?, Text.toLower_of_isLower hlower] at hread
    split at hread <;> cases hread <;> rfl
  · rintro rfl
    exact ofLetter?_letter mode

namespace AttackRoll

/-- Whether a text writes attacks. -/
structure Written (text : Text) (roll : AttackRoll) : Prop where
  parts : ∃ count terms, Decimal.Written count roll.count ∧
    List.Forall₂ Term.Written terms roll.bonus ∧
    text = count ++ roll.mode.letter :: (roll.color ++ terms.flatMap Sign.signed)
  count_le : roll.count ≤ largestCount
  letters : ∀ character ∈ roll.color, character.isLower = true

theorem written_of_read? {text : Text} {roll : AttackRoll} (hread : read? text = some roll) :
    Written text roll := by
  simp only [read?, Option.bind_eq_bind, Option.bind_eq_some_iff, Option.guard_eq_some'] at hread
  obtain ⟨count, hcount, -, hle, hrest⟩ := hread
  split at hrest
  · cases hrest
  · next letter rest hdrop =>
    simp only [Option.bind_eq_some_iff, Option.guard_eq_some', List.isEmpty_iff] at hrest
    obtain ⟨-, hlower, mode, hmode, -, hgap, bonus, hbonus, heq⟩ := hrest
    cases heq
    have hcut : Sign.cut (rest.dropWhile Char.isLower) =
        ([], (Sign.cut (rest.dropWhile Char.isLower)).2) := Prod.ext hgap rfl
    obtain ⟨hsigned, -, -⟩ := Sign.cut_eq_iff.1 hcut
    rw [List.nil_append] at hsigned
    refine ⟨⟨_, _, Decimal.readNat?_eq_some_iff.1 hcount, Term.mapM_read?_eq_some_iff.1 hbonus, ?_⟩,
      hle, fun _ => List.mem_takeWhile_imp⟩
    calc
      text = text.takeWhile Char.isDigit ++ letter :: rest := by
        rw [← hdrop, List.takeWhile_append_dropWhile]
      _ = _ := by
        rw [← hsigned, List.takeWhile_append_dropWhile,
          (RollMode.ofLetter?_eq_some_iff hlower).1 hmode]

theorem read?_of_written {text : Text} {roll : AttackRoll} (hwritten : Written text roll) :
    read? text = some roll := by
  obtain ⟨⟨count, terms, hcount, hterms, rfl⟩, hle, hletters⟩ := hwritten
  have hlower : roll.mode.letter.isLower = true := roll.mode.isLower_letter
  have hdigits : ∀ character ∈ (roll.mode.letter :: (roll.color ++
      terms.flatMap Sign.signed)).head?, character.isDigit = false := by
    intro character hmem
    rw [← Option.some.inj hmem]
    exact isDigit_eq_false_of_isLower hlower
  obtain ⟨htake, hdrop⟩ := Text.run_append hcount.isDigit hdigits
  obtain ⟨htake', hdrop'⟩ := Text.run_append hletters (Sign.isLower_of_head?_flatMap_signed terms)
  simp [read?, htake, hdrop, htake', hdrop', Term.cut_flatMap_signed hterms,
    Term.mapM_read?_eq_some_iff.2 hterms, Decimal.readNat?_eq_some_iff.2 hcount, hle, hlower]

/-- A text is read as the attacks that it writes. -/
theorem read?_eq_some_iff {text : Text} {roll : AttackRoll} :
    read? text = some roll ↔ Written text roll :=
  ⟨written_of_read?, read?_of_written⟩

/-- Attacks within the limits are written as a text that writes them. -/
theorem written_write {roll : AttackRoll} (hcount : roll.count ≤ largestCount)
    (hlimits : roll.KeepsLimits) : Written roll.write roll where
  parts := by
    refine ⟨_, roll.bonus.map fun term => (term.sign, term.amount.write),
      Decimal.written_ofNat roll.count, ?_, ?_⟩
    · rw [List.forall₂_map_left_iff, List.forall₂_same]
      exact fun term hmem => ⟨rfl, Amount.written_write (hlimits.1 term hmem)⟩
    · rw [write, List.append_assoc, List.cons_append, List.flatMap_map]
      rfl
  count_le := hcount
  letters := List.all_eq_true.1 hlimits.2

end AttackRoll

end Skirmish
