import Skirmish.Proofs.Command.Cut

/-!
# Seams

Whether a text without keywords stays apart from the keyword behind it depends on the two alone, and
not on what follows.  A layout is therefore cut as soon as none of its texts holds a keyword and
none meets the keyword behind it.  Where a text does meet the keyword behind it, the keyword that
the two make is found in its place.
-/

namespace Skirmish

/-- Whether a text ends at a seam with the keyword behind it. -/
def Meets (text : Text) (next : Keyword) : Prop :=
  ∃ seam ∈ Keyword.seams, seam.2 = next ∧ seam.1 <:+ text

instance (text : Text) (next : Keyword) : Decidable (Meets text next) :=
  inferInstanceAs (Decidable (∃ seam ∈ Keyword.seams, seam.2 = next ∧ seam.1 <:+ text))

theorem meets_iff {text : Text} {next : Keyword} :
    Meets text next ↔ ∃ ending, (ending, next) ∈ Keyword.seams ∧ ending <:+ text := by
  constructor
  · rintro ⟨⟨ending, next⟩, hseam, rfl, hsuffix⟩
    exact ⟨ending, hseam, hsuffix⟩
  · rintro ⟨ending, hseam, hsuffix⟩
    exact ⟨(ending, next), hseam, rfl, hsuffix⟩

/-- The two keywords of damage begin alike, so a text meets both or none. -/
theorem meets_dealing_iff {text : Text} : Meets text .dealing ↔ Meets text (.role .damage) := by
  simp [meets_iff, Keyword.seams]

namespace Keyword

/-- What the two sides of a seam make, and what is left of the keyword behind it. -/
structure Seam (ending : Text) (next made : Keyword) (remaining : Text) : Prop where
  mem : (ending, next) ∈ seams
  joined : ending ++ next.word = made.word ++ remaining
  shorter : remaining.length < next.word.length
  other : made ≠ next

/-- A text that ends at a seam, before the keyword behind it. -/
theorem Seam.append_assoc {ending remaining : Text} {next made : Keyword}
    (hseam : Seam ending next made remaining) (start rest : Text) :
    start ++ ending ++ (next.word ++ rest) = start ++ (made.word ++ (remaining ++ rest)) := by
  rw [List.append_assoc, ← List.append_assoc ending, hseam.joined, List.append_assoc]

theorem exists_seam {ending : Text} {next : Keyword} (hmem : (ending, next) ∈ seams) :
    ∃ made remaining, Seam ending next made remaining := by
  have hall : ∀ seam ∈ seams, ∃ made ∈ all, ∃ size ≤ made.word.length + seam.2.word.length,
      seam.1 ++ seam.2.word = made.word ++ (seam.1 ++ seam.2.word).drop size ∧
        ((seam.1 ++ seam.2.word).drop size).length < seam.2.word.length ∧ made ≠ seam.2 := by
    decide +kernel
  obtain ⟨made, -, size, -, hjoined, hshorter, hother⟩ := hall _ hmem
  exact ⟨made, _, hmem, hjoined, hshorter, hother⟩

/-- No ending of a seam is a part of another one before the same keyword. -/
theorem eq_nil_of_mem_seams {front ending : Text} {next : Keyword}
    (hlong : (front ++ ending, next) ∈ seams) (hshort : (ending, next) ∈ seams) : front = [] := by
  have hall : ∀ long ∈ seams, ∀ short ∈ seams, short.2 = long.2 → short.1 <:+ long.1 →
      short.1 = long.1 := by
    decide +kernel
  have heq := hall _ hlong _ hshort rfl (List.suffix_append ..)
  exact List.append_left_eq_self.1 heq.symm

theorem ending_ne_nil {ending : Text} {next : Keyword} (hmem : (ending, next) ∈ seams) :
    ending ≠ [] := by
  have hall : ∀ seam ∈ seams, seam.1 ≠ [] := by decide
  exact hall _ hmem

end Keyword

namespace Quiet

/-- Before a text that ends at a seam, the keyword is found that the seam makes. -/
theorem before_seam {start ending remaining : Text} {next made : Keyword}
    (hquiet : Quiet (start ++ ending) []) (hseam : Keyword.Seam ending next made remaining)
    (rest : Text) : Quiet start (made.word ++ (remaining ++ rest)) := by
  rw [← List.append_assoc, ← hseam.joined, List.append_assoc]
  intro front hsuffix hne
  rw [Keyword.at?_eq_none_iff]
  intro other hstart
  have hwhole : front ++ ending <:+ start ++ ending := by
    obtain ⟨before, rfl⟩ := hsuffix
    exact ⟨before, by rw [List.append_assoc]⟩
  have hlong : front ++ ending ≠ [] := by simp [hne]
  have hleaves : ¬other.word <+: front ++ ending := by
    have hnone := hquiet _ hwhole hlong
    rw [List.append_nil] at hnone
    exact Keyword.at?_eq_none_iff.1 hnone other
  rw [← List.append_assoc] at hstart
  exact hne (Keyword.eq_nil_of_mem_seams (Keyword.mem_seams hstart hlong hleaves) hseam.mem)

/-- A text is quiet before a keyword when it holds no keyword and does not meet the one behind. -/
theorem before_word_iff {text : Text} {next : Keyword} (rest : Text) :
    Quiet text (next.word ++ rest) ↔ Quiet text [] ∧ ¬Meets text next := by
  constructor
  · intro hquiet
    refine ⟨hquiet.alone, ?_⟩
    intro hmeets
    obtain ⟨ending, hmem, hsuffix⟩ := meets_iff.1 hmeets
    obtain ⟨made, remaining, hseam⟩ := Keyword.exists_seam hmem
    have hnone := hquiet ending hsuffix (Keyword.ending_ne_nil hmem)
    rw [← List.append_assoc, hseam.joined, List.append_assoc, Keyword.at?_word_append] at hnone
    cases hnone
  · rintro ⟨hquiet, hmeets⟩
    refine hquiet.before_word ?_ rest
    intro ending hsuffix hmem
    exact hmeets (meets_iff.2 ⟨ending, hmem, hsuffix⟩)

end Quiet

/-- Whether no text meets the keyword of the chunk behind it. -/
def SeamFree : Text → List Chunk → Prop
  | _, [] => True
  | text, chunk :: chunks => ¬Meets text chunk.keyword ∧ SeamFree chunk.text chunks

/-- The text that stands last. -/
def closing : Text → List Chunk → Text
  | text, [] => text
  | _, chunk :: chunks => closing chunk.text chunks

theorem seamFree_append_singleton {text : Text} {chunks : List Chunk} {last : Chunk} :
    SeamFree text (chunks ++ [last]) ↔
      SeamFree text chunks ∧ ¬Meets (closing text chunks) last.keyword := by
  induction chunks generalizing text with
  | nil => simp [SeamFree, closing]
  | cons chunk chunks ih => simp [SeamFree, closing, ih, and_assoc]

/-- Texts and chunks are cut when no text holds a keyword or meets the keyword behind it. -/
theorem quiet_iff_seamFree {text : Text} {chunks : List Chunk} :
    (Quiet text (chunks.flatMap Chunk.source) ∧ ChunksQuiet chunks) ↔
      (Quiet text [] ∧ ∀ chunk ∈ chunks, Quiet chunk.text []) ∧ SeamFree text chunks := by
  induction chunks generalizing text with
  | nil => simp [ChunksQuiet, SeamFree]
  | cons chunk chunks ih =>
      rw [List.flatMap_cons, Chunk.source, List.append_assoc, Quiet.before_word_iff, ChunksQuiet,
        ih, List.forall_mem_cons, SeamFree]
      constructor
      · rintro ⟨⟨htext, hmeets⟩, ⟨hchunk, hchunks⟩, hfree⟩
        exact ⟨⟨htext, hchunk, hchunks⟩, hmeets, hfree⟩
      · rintro ⟨⟨htext, hchunk, hchunks⟩, hmeets, hfree⟩
        exact ⟨⟨htext, hmeets⟩, ⟨hchunk, hchunks⟩, hfree⟩

namespace Layout

theorem isCut_iff {layout : Layout} :
    layout.IsCut ↔ (Quiet layout.leading [] ∧ ∀ chunk ∈ layout.chunks, Quiet chunk.text []) ∧
      SeamFree layout.leading layout.chunks :=
  quiet_iff_seamFree

/-- The text that stands last in a layout. -/
def closing (layout : Layout) : Text :=
  Skirmish.closing layout.leading layout.chunks

end Layout

end Skirmish
