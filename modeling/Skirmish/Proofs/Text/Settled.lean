import Skirmish.Command.Layout

/-!
# Normal forms stay as they are

The small letter of a letter is its own small letter, is not blank, and is none of the capitals that
casing treats by their surroundings.  Characters of this kind are settled: a text of them is its own
normal form, in whatever surroundings it stands.  The normal form of any input is made of settled
characters, so pieces of normal forms can be put together again without changing.
-/

namespace Skirmish

namespace Text

namespace CaseRun

/-- The small letter of the first letter of the run. -/
def low (run : CaseRun) : Nat :=
  (run.first + run.shift).toNat

/-- The small letter of the last letter of the run. -/
def high (run : CaseRun) : Nat :=
  (run.last + run.shift).toNat

/-- Whether the small letters of the run lie outside of an interval. -/
def avoids (run : CaseRun) (first last : Nat) : Bool :=
  run.high.blt first || last.blt run.low

/-- Whether no small letter of the run is a capital of the other one: the two lie apart, or both
take every second point and alternate. -/
def separate (run other : CaseRun) : Bool :=
  run.avoids other.first other.last ||
    other.step == 2 && (run.step == 2 || run.first == run.last) &&
      (run.low + other.first) % 2 == 1

end CaseRun

/-- The blank characters and the dotted capital I, as intervals of points. -/
def reservedPoints : List (Nat × Nat) :=
  [(0x9, 0xD), (0x20, 0x20), (0x85, 0x85), (0xA0, 0xA0), (0x130, 0x130), (0x1680, 0x1680),
   (0x2000, 0x200A), (0x2028, 0x2029), (0x202F, 0x202F), (0x205F, 0x205F), (0x3000, 0x3000)]

theorem caseRuns_separate :
    (caseRuns.all fun run => caseRuns.all fun other => run.separate other) = true := by
  decide +kernel

theorem caseRuns_avoid_reserved :
    (caseRuns.all fun run => reservedPoints.all fun gap => run.avoids gap.1 gap.2) = true := by
  decide +kernel

theorem caseRuns_shift :
    (caseRuns.all fun run => decide (0 ≤ run.first + run.shift)) = true := by
  decide +kernel

namespace CaseRun

variable {run : CaseRun} {point : Nat}

theorem mem_interval_of_covers (hcovers : run.covers point = true) :
    run.first ≤ point ∧ point ≤ run.last ∧ (point - run.first) % run.step = 0 := by
  simpa [covers, and_assoc] using hcovers

/-- A small letter of a run in an interval that the run avoids would lie beyond both ends. -/
theorem not_mem_of_avoids (hmem : run ∈ caseRuns) (hcovers : run.covers point = true)
    {first last : Nat} (havoids : run.avoids first last = true) :
    ¬(first ≤ (point + run.shift).toNat ∧ (point + run.shift).toNat ≤ last) := by
  obtain ⟨hfirst, hlast, -⟩ := mem_interval_of_covers hcovers
  have hshift : 0 ≤ run.first + run.shift := by
    simpa using List.all_eq_true.1 caseRuns_shift run hmem
  simp only [avoids, low, high, Bool.or_eq_true, Nat.blt_eq] at havoids
  omega

theorem not_covers_of_separate (hmem : run ∈ caseRuns) (hcovers : run.covers point = true)
    {other : CaseRun} (hseparate : run.separate other = true) :
    other.covers (point + run.shift).toNat = false := by
  rw [Bool.eq_false_iff]
  intro hother
  obtain ⟨hfirst, hlast, hstep⟩ := mem_interval_of_covers hcovers
  obtain ⟨hfirst', hlast', hstep'⟩ := mem_interval_of_covers hother
  rcases Bool.or_eq_true_iff.1 hseparate with havoids | halternate
  · exact not_mem_of_avoids hmem hcovers havoids ⟨hfirst', hlast'⟩
  · have hshift : 0 ≤ run.first + run.shift := by
      simpa using List.all_eq_true.1 caseRuns_shift run hmem
    simp only [low, Bool.and_eq_true, Bool.or_eq_true, beq_iff_eq] at halternate
    obtain ⟨⟨htwo, hrun⟩, hodd⟩ := halternate
    rw [htwo] at hstep'
    rcases hrun with hrun | hsingle
    · rw [hrun] at hstep
      omega
    · omega

end CaseRun

/-- A point is its own small letter, or the small letter of a point in some run. -/
theorem smallPoint_cases (point : Nat) :
    smallPoint point = point ∨
      ∃ run ∈ caseRuns, run.covers point = true ∧ smallPoint point = (point + run.shift).toNat := by
  rw [smallPoint]
  cases hfound : caseRuns.find? (CaseRun.covers · point) with
  | none => exact .inl rfl
  | some run =>
      have hcovers : run.covers point = true := by simpa using List.find?_some hfound
      exact .inr ⟨run, List.mem_of_find?_eq_some hfound, hcovers, rfl⟩

@[simp]
theorem smallPoint_smallPoint (point : Nat) : smallPoint (smallPoint point) = smallPoint point := by
  rcases smallPoint_cases point with hself | ⟨run, hmem, hcovers, hpoint⟩
  · rw [hself, hself]
  · have hnone : caseRuns.find? (CaseRun.covers · (smallPoint point)) = none := by
      rw [List.find?_eq_none]
      intro other hother
      have hothers := List.all_eq_true.1 caseRuns_separate run hmem
      have hseparate := List.all_eq_true.1 hothers other hother
      rw [hpoint, CaseRun.not_covers_of_separate hmem hcovers hseparate]
      exact Bool.false_ne_true
    rw [smallPoint, hnone]

theorem smallPoint_not_reserved {point : Nat}
    (hpoint : ∀ gap ∈ reservedPoints, ¬(gap.1 ≤ point ∧ point ≤ gap.2)) :
    ∀ gap ∈ reservedPoints, ¬(gap.1 ≤ smallPoint point ∧ smallPoint point ≤ gap.2) := by
  rcases smallPoint_cases point with hself | ⟨run, hmem, hcovers, hsmall⟩
  · rwa [hself]
  · intro gap hgap
    rw [hsmall]
    exact CaseRun.not_mem_of_avoids hmem hcovers
      (List.all_eq_true.1 (List.all_eq_true.1 caseRuns_avoid_reserved run hmem) gap hgap)

/-- The table settles ASCII letters too. -/
theorem smallLetter_eq (character : Char) :
    smallLetter character = Char.ofNat (smallPoint character.toNat) := by
  rw [smallLetter]
  split
  · next hascii => rw [smallPoint_ascii _ hascii, Char.ofNat_toNat]
  · rfl

/-- A point that is no character makes the first one. -/
theorem toNat_ofNat_cases (point : Nat) :
    (Char.ofNat point).toNat = point ∨ Char.ofNat point = Char.ofNat 0 := by
  by_cases hvalid : point.isValidChar
  · left
    rw [Char.ofNat, dif_pos hvalid]
    rfl
  · right
    rw [Char.ofNat, dif_neg hvalid]
    rfl

@[simp]
theorem smallLetter_smallLetter (character : Char) :
    smallLetter (smallLetter character) = smallLetter character := by
  rw [smallLetter_eq character]
  rcases toNat_ofNat_cases (smallPoint character.toNat) with hpoint | hzero
  · rw [smallLetter_eq, hpoint, smallPoint_smallPoint]
  · rw [hzero]
    rfl

/-- Neither blank nor the dotted capital I. -/
def Unreserved (character : Char) : Prop :=
  isBlank character = false ∧ character ≠ 'İ'

theorem unreserved_iff (character : Char) :
    Unreserved character ↔
      ∀ gap ∈ reservedPoints, ¬(gap.1 ≤ character.toNat ∧ character.toNat ≤ gap.2) := by
  have hdotted : character ≠ 'İ' ↔ character.toNat ≠ 0x130 := not_congr Char.toNat_inj.symm
  rw [Unreserved, hdotted]
  simp only [isBlank, reservedPoints, List.forall_mem_cons, List.not_mem_nil, false_imp_iff,
    implies_true, and_true, Bool.or_eq_false_iff, Bool.and_eq_false_iff, decide_eq_false_iff_not,
    beq_eq_false_iff_ne]
  omega

/-- Whether casing keeps the character in any surroundings, and it is not blank. -/
structure Settled (character : Char) : Prop where
  isSmall : smallLetter character = character
  notSigma : character ≠ 'Σ'
  unreserved : Unreserved character

theorem settled_smallLetter {character : Char} (hunreserved : Unreserved character) :
    Settled (smallLetter character) := by
  refine ⟨smallLetter_smallLetter character, ?_, ?_⟩
  · intro hsigma
    have hfixed := smallLetter_smallLetter character
    rw [hsigma] at hfixed
    revert hfixed
    decide +kernel
  · rw [smallLetter_eq]
    rcases toNat_ofNat_cases (smallPoint character.toNat) with hpoint | hzero
    · rw [unreserved_iff, hpoint]
      exact smallPoint_not_reserved ((unreserved_iff character).1 hunreserved)
    · rw [hzero]
      exact ⟨by decide, by decide⟩

/-- All visible ASCII characters but the capitals are settled. -/
theorem settled_of_visible {character : Char}
    (hvisible : 32 < character.toNat ∧ character.toNat < 127)
    (hcapital : ¬(65 ≤ character.toNat ∧ character.toNat ≤ 90)) : Settled character := by
  have hpoints : ∀ point < 127, ¬(65 ≤ point ∧ point ≤ 90) → smallPoint point = point := by
    decide +kernel
  refine ⟨?_, ?_, (unreserved_iff character).2 ?_⟩
  · rw [smallLetter_eq, hpoints _ hvisible.2 hcapital, Char.ofNat_toNat]
  · rintro rfl
    revert hvisible
    decide
  · simp only [reservedPoints, List.forall_mem_cons, List.not_mem_nil, false_imp_iff,
      implies_true, and_true]
    omega

/-- The small letters from `a` to `z`. -/
def isPlainLetter (character : Char) : Bool :=
  97 ≤ character.toNat && character.toNat ≤ 122

theorem settled_of_isPlainLetter {character : Char} (hletter : isPlainLetter character = true) :
    Settled character := by
  have hrange : 97 ≤ character.toNat ∧ character.toNat ≤ 122 := by
    simpa [isPlainLetter] using hletter
  exact settled_of_visible (by omega) (by omega)

/-- What a character that is not blank becomes is settled. -/
theorem settled_of_mem_lowerCharacter {before after : Text} {character lowered : Char}
    (hblank : isBlank character = false)
    (hmem : lowered ∈ lowerCharacter before character after) : Settled lowered := by
  have hfinal : Settled 'ς' := ⟨by decide +kernel, by decide, by decide, by decide⟩
  have hsmall : Settled 'σ' := ⟨by decide +kernel, by decide, by decide, by decide⟩
  have hletter : Settled 'i' := settled_of_isPlainLetter (by decide)
  have hdot : Settled '\u0307' := ⟨by decide +kernel, by decide, by decide, by decide⟩
  rw [lowerCharacter] at hmem
  split at hmem
  · split at hmem
    · rwa [List.mem_singleton.1 hmem]
    · rwa [List.mem_singleton.1 hmem]
  · split at hmem
    · rcases List.mem_cons.1 hmem with rfl | hrest
      · exact hletter
      · rwa [List.mem_singleton.1 hrest]
    · next hdotted =>
      rw [List.mem_singleton.1 hmem]
      exact settled_smallLetter ⟨hblank, hdotted⟩

theorem settled_of_mem_lowerAfter {before text : Text} {lowered : Char}
    (hblank : ∀ character ∈ text, isBlank character = false)
    (hmem : lowered ∈ lowerAfter before text) : Settled lowered := by
  induction text generalizing before with
  | nil => cases hmem
  | cons character after ih =>
      rcases List.mem_append.1 hmem with hhead | hrest
      · exact settled_of_mem_lowerCharacter (hblank _ List.mem_cons_self) hhead
      · exact ih (fun other hother => hblank other (List.mem_cons_of_mem _ hother)) hrest

/-- Settled text is kept in any surroundings. -/
theorem lowerAfter_settled {before text : Text}
    (hsettled : ∀ character ∈ text, Settled character) : lowerAfter before text = text := by
  induction text generalizing before with
  | nil => rfl
  | cons character after ih =>
      have hfirst := hsettled character List.mem_cons_self
      have hcharacter : lowerCharacter before character after = [character] := by
        rw [lowerCharacter, if_neg hfirst.notSigma, if_neg hfirst.unreserved.2, hfirst.isSmall]
      rw [lowerAfter, hcharacter,
        ih fun other hother => hsettled other (List.mem_cons_of_mem _ hother)]
      rfl

end Text

/-- Normal forms are made of settled characters. -/
theorem settled_of_mem_normalize {input : Text} {character : Char}
    (hmem : character ∈ normalize input) : Text.Settled character := by
  refine Text.settled_of_mem_lowerAfter ?_ hmem
  intro other hother
  simpa using (List.mem_filter.1 hother).2

/-- What is settled but for its blanks only loses these. -/
theorem normalize_eq_withoutBlanks {text : Text}
    (hsettled : ∀ character ∈ Text.withoutBlanks text, Text.Settled character) :
    normalize text = Text.withoutBlanks text :=
  Text.lowerAfter_settled hsettled

end Skirmish
