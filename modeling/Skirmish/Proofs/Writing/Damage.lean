import Skirmish.Proofs.Command.Characters
import Skirmish.Proofs.Writing.Amounts
import Skirmish.Proofs.Writing.Items

/-!
# Written damage

A damage expression is read exactly when each of its pieces, in small letters, writes a component:
an optional minus sign, an amount, and the letters of a type.  The components are those of the
pieces, and a failure names the first piece that writes none.  What a component is written as writes
it, so expressions that are written down are read back.
-/

namespace Skirmish

/-- A sign in front of a term that needs none to be added. -/
def Sign.lead : Sign → Text
  | plus => []
  | minus => ['-']

namespace Text

theorem lowerCharacter_ne_nil (before after : Text) (character : Char) :
    lowerCharacter before character after ≠ [] := by
  rw [lowerCharacter]
  split_ifs <;> simp

/-- Only the empty text has nothing in small letters. -/
theorem lower_eq_nil_iff {text : Text} : lower text = [] ↔ text = [] := by
  constructor
  · intro hlower
    cases text with
    | nil => rfl
    | cons character after =>
        exact absurd (List.append_eq_nil_iff.1 hlower).1 (lowerCharacter_ne_nil _ _ _)
  · rintro rfl
    rfl

end Text

namespace Component

/-- Whether a text in small letters writes a component. -/
structure Written (text : Text) (component : Component) : Prop where
  parts : ∃ figures, Amount.Written figures component.amount ∧
    text = component.sign.lead ++ figures ++ component.damageType
  letters : ∀ character ∈ component.damageType, character.isLower = true
  /-- A `d` behind a flat number belongs to dice. -/
  apart : component.amount.isDice = false → component.damageType.head? ≠ some 'd'

theorem readUnsigned?_eq_some_iff {sign : Sign} {text : Text} {component : Component} :
    readUnsigned? sign text = some component ↔
      component.sign = sign ∧ ∃ figures, Amount.Written figures component.amount ∧
        text = figures ++ component.damageType ∧
        (∀ character ∈ component.damageType, character.isLower = true) ∧
        (component.amount.isDice = false → component.damageType.head? ≠ some 'd') := by
  have hends : ∀ {amount : Amount} {letters : Text},
      (∀ character ∈ letters, character.isLower = true) →
      (amount.EndsBefore letters ↔ (amount.isDice = false → letters.head? ≠ some 'd')) := by
    intro amount letters hletters
    cases letters with
    | nil => simp [Amount.EndsBefore]
    | cons first letters =>
        have hdigit := isDigit_eq_false_of_isLower (hletters first List.mem_cons_self)
        simp [Amount.EndsBefore, hdigit]
  rw [readUnsigned?]
  constructor
  · intro hread
    split at hread
    · next amount letters hscan =>
      split at hread
      · next hlower =>
        cases hread
        obtain ⟨figures, hwritten, htext, hbehind⟩ := Amount.scan?_eq_some_iff.1 hscan
        have hletters := List.all_eq_true.1 hlower
        exact ⟨rfl, figures, hwritten, htext, hletters, (hends hletters).1 hbehind⟩
      · cases hread
    · cases hread
  · rintro ⟨rfl, figures, hwritten, htext, hletters, hapart⟩
    rw [Amount.scan?_eq_some_iff.2 ⟨figures, hwritten, htext, (hends hletters).2 hapart⟩]
    exact if_pos (List.all_eq_true.2 hletters)

/-- A text in small letters is read as the component that it writes. -/
theorem read?_eq_some_iff {text : Text} {component : Component} :
    read? text = some component ↔ Written text component := by
  constructor
  · intro hread
    rw [read?.eq_def] at hread
    split at hread
    · obtain ⟨hsign, figures, hwritten, rfl, hletters, hapart⟩ := readUnsigned?_eq_some_iff.1 hread
      exact ⟨⟨figures, hwritten, by rw [hsign]; rfl⟩, hletters, hapart⟩
    · obtain ⟨hsign, figures, hwritten, rfl, hletters, hapart⟩ := readUnsigned?_eq_some_iff.1 hread
      exact ⟨⟨figures, hwritten, by rw [hsign]; rfl⟩, hletters, hapart⟩
  · rintro ⟨⟨figures, hwritten, rfl⟩, hletters, hapart⟩
    have hunsigned : readUnsigned? component.sign (figures ++ component.damageType) =
        some component :=
      readUnsigned?_eq_some_iff.2 ⟨rfl, figures, hwritten, rfl, hletters, hapart⟩
    cases hsign : component.sign with
    | minus =>
        rw [hsign] at hunsigned
        exact hunsigned
    | plus =>
        obtain ⟨digit, rest, rfl, hdigit⟩ := hwritten.exists_cons
        have hminus : digit ≠ '-' := by
          rintro rfl
          cases hdigit
        rw [hsign] at hunsigned
        rw [read?.eq_def]
        split
        · next heq => exact absurd (List.cons.inj heq).1 hminus
        · exact hunsigned

/-- A component whose figures and letters may be typed is written as a text that writes it. -/
theorem written_write {component : Component} (hlimits : component.KeepsLimits) :
    Written component.write component where
  parts := by
    refine ⟨component.amount.write, Amount.written_write hlimits.1, ?_⟩
    rw [write]
    cases component.sign <;> rfl
  letters := List.all_eq_true.1 hlimits.2.1
  apart := by
    intro hflat
    cases hamount : component.amount with
    | dice count sides =>
        rw [hamount] at hflat
        cases hflat
    | flat value => exact hlimits.2.2 value hamount

/-- A written component is made of characters of commands, without a plus sign. -/
theorem Written.isCharacter {text : Text} {component : Component}
    (hwritten : Written text component) :
    ∀ character ∈ text, Command.isCharacter character = true ∧ character ≠ '+' := by
  obtain ⟨⟨figures, hfigures, rfl⟩, hletters, -⟩ := hwritten
  have hletter : ∀ {character : Char}, character.isLower = true →
      Command.isCharacter character = true ∧ character ≠ '+' := by
    intro character hlower
    refine ⟨Command.isCharacter_of_isLower hlower, ?_⟩
    rintro rfl
    cases hlower
  intro character hmem
  rcases List.mem_append.1 hmem with hmem | hmem
  · rcases List.mem_append.1 hmem with hmem | hmem
    · cases hsign : component.sign with
      | plus =>
          rw [hsign] at hmem
          cases hmem
      | minus =>
          rw [hsign] at hmem
          obtain rfl := List.mem_singleton.1 hmem
          exact ⟨rfl, by decide⟩
    · rcases hfigures.isDigit_or_eq character hmem with hdigit | rfl
      · refine ⟨Command.isCharacter_of_isDigit hdigit, ?_⟩
        rintro rfl
        cases hdigit
      · exact hletter rfl
  · exact hletter (hletters character hmem)

theorem Written.ne_nil {text : Text} {component : Component} (hwritten : Written text component) :
    text ≠ [] := by
  obtain ⟨⟨figures, hfigures, rfl⟩, -, -⟩ := hwritten
  obtain ⟨digit, rest, rfl, -⟩ := hfigures.exists_cons
  simp

end Component

namespace DamageExpression

theorem readPiece_eq_ok_iff {piece : Text} {component : Component} :
    readPiece piece = .ok component ↔ Component.Written (Text.lower piece) component := by
  rw [readPiece, ← Component.read?_eq_some_iff]
  cases Component.read? (Text.lower piece) <;> simp

theorem readPiece_eq_error_iff {piece : Text} {error : DamageError} :
    readPiece piece = .error error ↔
      (¬∃ component, Component.Written (Text.lower piece) component) ∧
        error = .invalidTerm piece := by
  simp only [← Component.read?_eq_some_iff]
  rw [readPiece]
  cases Component.read? (Text.lower piece) with
  | none => simp [eq_comm]
  | some component => simp

theorem pieces_append (left right : Text) :
    pieces (left ++ '+' :: right) = pieces left ++ pieces right := by
  rw [pieces, List.splitOn, List.splitOnP_append_cons _ _ (by simp), List.map_append,
    List.filter_append]
  rfl

theorem mem_pieces_iff {piece text : Text} :
    piece ∈ pieces text ↔ piece ≠ [] ∧ ∃ raw ∈ text.splitOn '+', Text.trim raw = piece := by
  rw [pieces, List.mem_filter, List.mem_map, and_comm]
  simp

/-- Blank pieces count for nothing, and the others have to write components. -/
theorem exists_read_iff {text : Text} :
    (∃ components, read text = .ok components) ↔
      ∀ raw ∈ text.splitOn '+', Text.lower (Text.trim raw) = [] ∨
        ∃ component, Component.Written (Text.lower (Text.trim raw)) component := by
  simp only [read, exists_mapM_ok_iff, readPiece_eq_ok_iff, Text.lower_eq_nil_iff]
  constructor
  · intro hpieces raw hraw
    by_cases hblank : Text.trim raw = []
    · exact .inl hblank
    · exact .inr (hpieces _ (mem_pieces_iff.2 ⟨hblank, raw, hraw, rfl⟩))
  · intro hraws piece hpiece
    obtain ⟨hne, raw, hraw, rfl⟩ := mem_pieces_iff.1 hpiece
    exact (hraws raw hraw).resolve_left hne

theorem read_eq_ok_iff {text : Text} {components : List Component} :
    read text = .ok components ↔
      List.Forall₂ (fun piece component => Component.Written (Text.lower piece) component)
        (pieces text) components := by
  simp only [read, mapM_eq_ok_iff, readPiece_eq_ok_iff]

theorem read_eq_error_iff {text : Text} {error : DamageError} :
    read text = .error error ↔
      ∃ before piece after, pieces text = before ++ piece :: after ∧
        (∀ earlier ∈ before, ∃ component, Component.Written (Text.lower earlier) component) ∧
        (¬∃ component, Component.Written (Text.lower piece) component) ∧
        error = .invalidTerm piece := by
  simp only [read, mapM_eq_error_iff, readPiece_eq_ok_iff, readPiece_eq_error_iff]

/-- Expressions joined by a plus sign are read one after the other. -/
theorem read_append (left right : Text) :
    read (left ++ '+' :: right) = do
      let first ← read left
      let second ← read right
      return first ++ second := by
  rw [read, pieces_append, List.mapM_append]
  rfl

/-- The texts that are read as expressions, the components and the failures of all texts, and
expressions joined by a plus sign. -/
theorem read_iff_written :
    (∀ text, (∃ components, read text = .ok components) ↔
      ∀ raw ∈ text.splitOn '+', Text.lower (Text.trim raw) = [] ∨
        ∃ component, Component.Written (Text.lower (Text.trim raw)) component) ∧
    (∀ text components, read text = .ok components ↔
      List.Forall₂ (fun piece component => Component.Written (Text.lower piece) component)
        (pieces text) components) ∧
    (∀ text error, read text = .error error ↔
      ∃ before piece after, pieces text = before ++ piece :: after ∧
        (∀ earlier ∈ before, ∃ component, Component.Written (Text.lower earlier) component) ∧
        (¬∃ component, Component.Written (Text.lower piece) component) ∧
        error = .invalidTerm piece) ∧
    ∀ left right, read (left ++ '+' :: right) = do
      let first ← read left
      let second ← read right
      return first ++ second :=
  ⟨fun _ => exists_read_iff, fun _ _ => read_eq_ok_iff, fun _ _ => read_eq_error_iff, read_append⟩

-- The Kelvin sign is a `k` in small letters, and the failure keeps the piece as it was typed.
example : read "2\u212A".toList = .ok [⟨.plus, .flat 2, ['k']⟩] ∧
    read "1 + 3FI + 1D + x".toList = .error (.invalidTerm "1D".toList) := by decide +kernel

/-- The pieces of a written expression are its written components. -/
theorem pieces_write {components : List Component}
    (hlimits : ∀ component ∈ components, component.KeepsLimits) :
    pieces (write components) = components.map Component.write := by
  by_cases hnone : components = []
  · rw [hnone]
    rfl
  have hwritten : ∀ piece ∈ components.map Component.write, piece ≠ [] ∧
      ∀ character ∈ piece, Command.isCharacter character = true ∧ character ≠ '+' := by
    intro piece hpiece
    obtain ⟨component, hcomponent, rfl⟩ := List.mem_map.1 hpiece
    have hwrite := Component.written_write (hlimits component hcomponent)
    exact ⟨hwrite.ne_nil, hwrite.isCharacter⟩
  have hsplit : (write components).splitOn '+' = components.map Component.write := by
    apply List.splitOn_intercalate
    · intro piece hpiece hplus
      exact ((hwritten piece hpiece).2 '+' hplus).2 rfl
    · simpa using hnone
  have htrim : ∀ piece ∈ components.map Component.write, Text.trim piece = piece := by
    intro piece hpiece
    apply Text.trim_eq_self
    intro character hmem
    exact (Command.settled_of_isCharacter ((hwritten piece hpiece).2 character hmem).1).unreserved.1
  rw [pieces, hsplit, List.map_congr_left htrim, List.map_id', List.filter_eq_self]
  intro piece hpiece
  simpa using (hwritten piece hpiece).1

theorem readPiece_write {component : Component} (hlimits : component.KeepsLimits) :
    readPiece component.write = .ok component := by
  have hwritten := Component.written_write hlimits
  have hlower : Text.lower component.write = component.write :=
    Text.lowerAfter_settled fun character hmem =>
      Command.settled_of_isCharacter (hwritten.isCharacter character hmem).1
  rw [readPiece_eq_ok_iff, hlower]
  exact hwritten

theorem keepsLimits_of_read {text : Text} {components : List Component}
    (hread : read text = .ok components) : ∀ component ∈ components, component.KeepsLimits := by
  have hrole : Role.damage.read? text = some (.damage components) := by
    rw [Role.read?, hread]
    rfl
  exact Role.keepsLimits_of_read? hrole

/-- Components within the limits are read back from what is written of them, and so are those of
every expression that was read. -/
theorem read_write :
    (∀ text components, read text = .ok components → read (write components) = .ok components) ∧
    ∀ components : List Component, (∀ component ∈ components, component.KeepsLimits) →
      read (write components) = .ok components := by
  have hwrite : ∀ components : List Component,
      (∀ component ∈ components, component.KeepsLimits) →
        read (write components) = .ok components := by
    intro components hlimits
    rw [read, pieces_write hlimits, mapM_eq_ok_iff, List.forall₂_map_left_iff, List.forall₂_same]
    exact fun component hmem => readPiece_write (hlimits component hmem)
  exact ⟨fun _ components hread => hwrite components (keepsLimits_of_read hread), hwrite⟩

theorem read_write_minus_zero :
    let components : List Component :=
      [⟨.minus, .flat 0, []⟩, ⟨.plus, .dice 2 10, ['d', 'x']⟩, ⟨.minus, .dice 0 1000, ['f', 'i']⟩]
    (read "-0 + +2D10dx+ -000d1000FI".toList = .ok components ∧
      ∀ component ∈ components.reverse, component.KeepsLimits) ∧
      read (write components) = .ok components ∧
      read (write components.reverse) = .ok components.reverse := by
  intro components
  have hread : read "-0 + +2D10dx+ -000d1000FI".toList = .ok components := by decide +kernel
  have hlimits : ∀ component ∈ components.reverse, component.KeepsLimits :=
    fun component hmem => keepsLimits_of_read hread component (List.mem_reverse.1 hmem)
  exact ⟨⟨hread, hlimits⟩, read_write.1 _ _ hread, read_write.2 _ hlimits⟩

end DamageExpression

end Skirmish
