import Skirmish.Command.Layout

/-!
# Where a text is cut

Laying out a text loses nothing, and no keyword starts inside of any of its parts, even when a part
is read together with what stands behind it.  A layout with this property is the layout of its own
source.  Whether a keyword starts inside of a part can depend on the keyword behind it, but only for
six pairs of an ending and a keyword.
-/

namespace Skirmish

namespace Keyword

@[simp]
theorem word_role (about : Role) : (role about).word = about.word :=
  rfl

@[simp]
theorem word_name (use : NameUse) : (name use).word = use.word :=
  rfl

theorem word_ne_nil (keyword : Keyword) : keyword.word ≠ [] := by
  have hall : ∀ keyword ∈ all, keyword.word ≠ [] := by decide
  exact hall keyword (mem_all keyword)

theorem at?_eq_none_iff {text : Text} :
    at? text = none ↔ ∀ keyword : Keyword, ¬keyword.word <+: text := by
  simp [at?, mem_all]

theorem prefix_of_at? {text : Text} {keyword : Keyword} (hstart : at? text = some keyword) :
    keyword.word <+: text := by
  simpa using List.find?_some hstart

/-- The keyword at the start of a text is the one that is found there. -/
@[simp]
theorem at?_word_append (keyword : Keyword) (rest : Text) :
    at? (keyword.word ++ rest) = some keyword := by
  cases hfound : at? (keyword.word ++ rest) with
  | none => exact absurd (List.prefix_append ..) (at?_eq_none_iff.1 hfound keyword)
  | some other =>
      have hother : other.word <+: keyword.word ++ rest := prefix_of_at? hfound
      have hself : keyword.word <+: keyword.word ++ rest := List.prefix_append ..
      rcases List.prefix_or_prefix_of_prefix hother hself with hshort | hlong
      · rw [eq_of_word_isPrefix hshort]
      · rw [eq_of_word_isPrefix hlong]

/-- The endings of a text that make a keyword together with the start of the keyword behind. -/
def seams : List (Text × Keyword) :=
  [(['v'], .name .save), ("re".toList, .name .save), ("vu".toList, .name .load),
    ("loa".toList, .role .damage), ("loa".toList, .dealing), ("loa".toList, .name .delete)]

/-- A keyword that starts in a text and does not end there runs into the keyword behind only at a
seam. -/
theorem mem_seams {keyword next : Keyword} {ending rest : Text}
    (hstart : keyword.word <+: ending ++ (next.word ++ rest)) (hending : ending ≠ [])
    (hleaves : ¬keyword.word <+: ending) : (ending, next) ∈ seams := by
  -- Where the words meet, nothing but the two words counts, so all pairs can be gone through.
  have hfinite : ∀ keyword ∈ all, ∀ next ∈ all, ∀ size < keyword.word.length,
      (size ≠ 0 ∧ ((keyword.word.drop size).isPrefixOf next.word = true ∨
        next.word.isPrefixOf (keyword.word.drop size) = true)) →
      (keyword.word.take size, next) ∈ seams := by
    decide +kernel
  have hshort : ending <+: keyword.word :=
    (List.prefix_or_prefix_of_prefix hstart (List.prefix_append ..)).resolve_left hleaves
  obtain ⟨remaining, hword⟩ := hshort
  have hsize : ending.length < keyword.word.length := by
    rcases Nat.lt_or_ge ending.length keyword.word.length with hlt | hge
    · exact hlt
    · have hnil : remaining = [] := by
        rw [← hword, List.length_append] at hge
        exact List.length_eq_zero_iff.1 (by omega)
      rw [hnil, List.append_nil] at hword
      exact absurd (hword ▸ List.prefix_refl _) hleaves
  have htake : keyword.word.take ending.length = ending := by rw [← hword]; simp
  have hdrop : keyword.word.drop ending.length = remaining := by rw [← hword]; simp
  have hrest : remaining <+: next.word ++ rest := by
    rw [← hword] at hstart
    exact (List.prefix_append_right_inj ending).1 hstart
  have hmeet : remaining.isPrefixOf next.word = true ∨ next.word.isPrefixOf remaining = true := by
    simp only [List.isPrefixOf_iff_prefix]
    exact List.prefix_or_prefix_of_prefix hrest (List.prefix_append ..)
  have hpair := hfinite keyword (mem_all _) next (mem_all _) ending.length hsize
    ⟨by simpa using hending, by rwa [hdrop]⟩
  rwa [htake] at hpair

end Keyword

/-- Whether no keyword starts inside of a text that is followed by `rest`. -/
def Quiet (text rest : Text) : Prop :=
  ∀ ending, ending <:+ text → ending ≠ [] → Keyword.at? (ending ++ rest) = none

namespace Quiet

theorem nil (rest : Text) : Quiet [] rest := by
  intro ending hsuffix hne
  exact absurd (List.suffix_nil.1 hsuffix) hne

theorem cons_iff {character : Char} {text rest : Text} :
    Quiet (character :: text) rest ↔
      Keyword.at? (character :: text ++ rest) = none ∧ Quiet text rest := by
  constructor
  · intro hquiet
    refine ⟨hquiet _ (List.suffix_refl _) (List.cons_ne_nil _ _), ?_⟩
    intro ending hsuffix hne
    exact hquiet ending (hsuffix.trans (List.suffix_cons ..)) hne
  · rintro ⟨hstart, hquiet⟩ ending hsuffix hne
    rcases List.suffix_cons_iff.1 hsuffix with rfl | hinner
    · exact hstart
    · exact hquiet ending hinner hne

/-- What is quiet before a text is quiet at the end of all text. -/
theorem alone {text rest : Text} (hquiet : Quiet text rest) : Quiet text [] := by
  intro ending hsuffix hne
  rw [List.append_nil, Keyword.at?_eq_none_iff]
  intro keyword hstart
  exact Keyword.at?_eq_none_iff.1 (hquiet ending hsuffix hne) keyword
    (hstart.trans (List.prefix_append ..))

/-- A text is quiet at the end of all text when no keyword occurs in it. -/
theorem alone_iff_wordless {text : Text} :
    Quiet text [] ↔ ∀ keyword ∈ Keyword.all, ¬keyword.word <:+: text := by
  constructor
  · rintro hquiet keyword - ⟨front, back, hsplit⟩
    have hsuffix : keyword.word ++ back <:+ text := ⟨front, by rw [← hsplit, List.append_assoc]⟩
    have hnone := hquiet _ hsuffix (by simp [keyword.word_ne_nil])
    rw [List.append_nil, Keyword.at?_word_append] at hnone
    cases hnone
  · intro hwordless ending hsuffix _
    rw [List.append_nil, Keyword.at?_eq_none_iff]
    intro keyword hstart
    exact hwordless keyword (Keyword.mem_all keyword) (hstart.isInfix.trans hsuffix.isInfix)

/-- A text without keywords stays quiet before a keyword, unless it ends in a seam with it. -/
theorem before_word {text : Text} {next : Keyword} (hquiet : Quiet text [])
    (hseam : ∀ ending, ending <:+ text → (ending, next) ∉ Keyword.seams) (rest : Text) :
    Quiet text (next.word ++ rest) := by
  intro ending hsuffix hne
  rw [Keyword.at?_eq_none_iff]
  intro keyword hstart
  refine hseam ending hsuffix (Keyword.mem_seams hstart hne ?_)
  have halone := hquiet ending hsuffix hne
  rw [List.append_nil] at halone
  exact Keyword.at?_eq_none_iff.1 halone keyword

end Quiet

/-- Whether every chunk's text is quiet before the chunks behind it. -/
def ChunksQuiet : List Chunk → Prop
  | [] => True
  | chunk :: chunks => Quiet chunk.text (chunks.flatMap Chunk.source) ∧ ChunksQuiet chunks

namespace ChunksQuiet

/-- The chunks' texts are quiet at the end of all text. -/
theorem alone_of_mem {chunks : List Chunk} (hchunks : ChunksQuiet chunks) {chunk : Chunk}
    (hmem : chunk ∈ chunks) : Quiet chunk.text [] := by
  induction chunks with
  | nil => cases hmem
  | cons first chunks ih =>
      rcases List.mem_cons.1 hmem with rfl | hrest
      · exact hchunks.1.alone
      · exact ih hchunks.2 hrest

end ChunksQuiet

namespace Layout

/-- Whether keywords start in the source of the layout only where the layout has them. -/
def IsCut (layout : Layout) : Prop :=
  Quiet layout.leading (layout.chunks.flatMap Chunk.source) ∧ ChunksQuiet layout.chunks

theorem scan_append (skipped rest : Text) :
    scan skipped.length (skipped ++ rest) = scan 0 rest := by
  induction skipped with
  | nil => rfl
  | cons character skipped ih => simpa [scan] using ih

theorem scan_word (keyword : Keyword) (rest : Text) :
    scan 0 (keyword.word ++ rest) = mark keyword (scan 0 rest) := by
  have hfound := Keyword.at?_word_append keyword rest
  cases hword : keyword.word with
  | nil => exact absurd hword keyword.word_ne_nil
  | cons character word =>
      rw [hword, List.cons_append] at hfound
      rw [List.cons_append, scan, hfound]
      simp [hword, scan_append]

theorem scan_quiet {text rest : Text} (hquiet : Quiet text rest) :
    scan 0 (text ++ rest) =
      ⟨text ++ (scan 0 rest).leading, (scan 0 rest).chunks⟩ := by
  induction text with
  | nil => rfl
  | cons character text ih =>
      obtain ⟨hstart, hinner⟩ := Quiet.cons_iff.1 hquiet
      rw [List.cons_append] at hstart ⊢
      rw [scan, hstart, ih hinner]
      rfl

theorem source_mark (keyword : Keyword) (layout : Layout) :
    (mark keyword layout).source = keyword.word ++ layout.source := by
  simp [mark, source, Chunk.source]

theorem source_extend (character : Char) (layout : Layout) :
    (extend character layout).source = character :: layout.source := by
  simp [extend, source]

/-- A keyword behind quiet text is where the first chunk begins. -/
theorem ofText_word {text rest : Text} {keyword : Keyword}
    (hquiet : Quiet text (keyword.word ++ rest)) :
    ofText (text ++ (keyword.word ++ rest)) =
      ⟨text, ⟨keyword, (ofText rest).leading⟩ :: (ofText rest).chunks⟩ := by
  rw [ofText, scan_quiet hquiet, scan_word, mark, List.append_nil, ofText]

/-- A chunk list that is quiet is found again, behind any quiet text. -/
theorem ofText_quiet {text : Text} {chunks : List Chunk}
    (hquiet : Quiet text (chunks.flatMap Chunk.source)) (hchunks : ChunksQuiet chunks) :
    ofText (text ++ chunks.flatMap Chunk.source) = ⟨text, chunks⟩ := by
  induction chunks generalizing text with
  | nil =>
      rw [List.flatMap_nil] at hquiet ⊢
      rw [ofText, scan_quiet hquiet, scan, List.append_nil]
  | cons chunk chunks ih =>
      rw [List.flatMap_cons, Chunk.source, List.append_assoc] at hquiet ⊢
      rw [ofText_word hquiet, ih hchunks.1 hchunks.2]

/-- A cut layout is the layout of its source. -/
theorem ofText_source {layout : Layout} (hcut : layout.IsCut) : ofText layout.source = layout :=
  ofText_quiet hcut.1 hcut.2

/-- Scanning loses only what it is told to skip, and cuts at every keyword. -/
theorem scan_spec (skipped : Nat) (text : Text) :
    (scan skipped text).source = text.drop skipped ∧ (scan skipped text).IsCut := by
  induction text generalizing skipped with
  | nil => cases skipped <;> exact ⟨rfl, Quiet.nil _, trivial⟩
  | cons character rest ih =>
      cases skipped with
      | succ skipped => exact ih skipped
      | zero =>
          cases hfound : Keyword.at? (character :: rest) with
          | some keyword =>
              obtain ⟨hsource, hcut⟩ := ih (keyword.word.length - 1)
              have hword : keyword.word <+: character :: rest := Keyword.prefix_of_at? hfound
              simp only [scan, hfound, source_mark, hsource, List.drop_zero]
              refine ⟨?_, Quiet.nil _, hcut⟩
              obtain ⟨after, hafter⟩ := hword
              cases hletters : keyword.word with
              | nil => exact absurd hletters keyword.word_ne_nil
              | cons first letters =>
                  rw [hletters] at hafter
                  obtain ⟨rfl, rfl⟩ := List.cons.inj hafter
                  simp
          | none =>
              obtain ⟨hsource, hleading, hchunks⟩ := ih 0
              simp only [scan, hfound, source_extend, hsource, List.drop_zero, true_and]
              refine ⟨Quiet.cons_iff.2 ⟨?_, hleading⟩, hchunks⟩
              have hwhole : (scan 0 rest).leading ++ (scan 0 rest).chunks.flatMap Chunk.source =
                  rest := hsource
              simpa [extend, hwhole] using hfound

theorem source_ofText (text : Text) : (ofText text).source = text :=
  (scan_spec 0 text).1

theorem isCut_ofText (text : Text) : (ofText text).IsCut :=
  (scan_spec 0 text).2

end Layout

end Skirmish
