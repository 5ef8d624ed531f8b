import Mathlib.Data.List.Chain
import Skirmish.Proofs.Command.Seams

/-!
# Segments

A command is read segment by segment: text that a keyword owns, or text that stands before every
keyword.  The segments of a text are the only way to cut it up at its leftmost keywords.  That a
keyword is the leftmost one can be said of its own word and of the text in front of it alone, for no
keyword reaches over another one.
-/

namespace Skirmish

/-- A part of a command: the text that a keyword owns, or text without a keyword. -/
structure Segment where
  keyword : Option Keyword
  text : Text
  deriving DecidableEq, Repr

/-- The segment as it stands in the command. -/
def Segment.source (segment : Segment) : Text :=
  segment.keyword.elim [] Keyword.word ++ segment.text

/-- The chunk as a segment of its command. -/
def Chunk.segment (chunk : Chunk) : Segment :=
  ⟨some chunk.keyword, chunk.text⟩

/-- The segments of a layout; an empty leading text is none. -/
def Layout.segments (layout : Layout) : List Segment :=
  (if layout.leading.isEmpty then [] else [⟨none, layout.leading⟩]) ++
    layout.chunks.map Chunk.segment

namespace Keyword

/-- Whether some keyword starts at a place of a text. -/
def StartsAt (text : Text) (place : Nat) : Prop :=
  ∃ keyword : Keyword, keyword.word <+: text.drop place

/-- Whether a place is the first one of a text where a keyword starts. -/
def FirstAt (text : Text) (place : Nat) : Prop :=
  StartsAt text place ∧ ∀ earlier < place, ¬StartsAt text earlier

/-- The keyword behind a text is the first one when the text is quiet before it. -/
theorem firstAt_append_word_iff {text : Text} {next : Keyword} :
    FirstAt (text ++ next.word) text.length ↔ Quiet text next.word := by
  constructor
  · rintro ⟨-, hearlier⟩ ending ⟨front, rfl⟩ hne
    rw [at?_eq_none_iff]
    intro keyword hstart
    have hshorter : front.length < (front ++ ending).length := by
      simpa using List.length_pos_iff.2 hne
    refine hearlier front.length hshorter ⟨keyword, ?_⟩
    rwa [List.append_assoc, List.drop_left]
  · intro hquiet
    refine ⟨⟨next, [], by rw [List.append_nil, List.drop_left]⟩, ?_⟩
    rintro earlier hshorter ⟨keyword, hstart⟩
    rw [List.drop_append_of_le_length (Nat.le_of_lt hshorter)] at hstart
    have hne : text.drop earlier ≠ [] := by simpa using hshorter
    exact at?_eq_none_iff.1 (hquiet _ (List.drop_suffix ..) hne) keyword hstart

end Keyword

/-- Whether, of the text of a segment and the keyword behind it, the keyword is the first one. -/
def Segment.Precedes (former latter : Segment) : Prop :=
  ∀ keyword, latter.keyword = some keyword →
    Keyword.FirstAt (former.text ++ keyword.word) former.text.length

/-- Whether a list of segments cuts a text up at its leftmost keywords. -/
structure CutsUp (segments : List Segment) (text : Text) : Prop where
  /-- Nothing is lost, and nothing added. -/
  whole : segments.flatMap Segment.source = text
  /-- Only the first segment may have no keyword. -/
  marked : ∀ segment ∈ segments.tail, segment.keyword ≠ none
  /-- A segment without a keyword is there for its text. -/
  leading : ∀ segment ∈ segments, segment.keyword = none → segment.text ≠ []
  /-- No text holds a keyword. -/
  wordless : ∀ segment ∈ segments, ∀ keyword ∈ Keyword.all, ¬keyword.word <:+: segment.text
  apart : segments.IsChain Segment.Precedes

/-- Segments with keywords are chunks. -/
theorem exists_chunks {segments : List Segment}
    (hmarked : ∀ segment ∈ segments, segment.keyword ≠ none) :
    ∃ chunks : List Chunk, chunks.map Chunk.segment = segments := by
  induction segments with
  | nil => exact ⟨[], rfl⟩
  | cons segment segments ih =>
      obtain ⟨hfirst, hrest⟩ := List.forall_mem_cons.1 hmarked
      obtain ⟨keyword, hkeyword⟩ := Option.ne_none_iff_exists'.1 hfirst
      obtain ⟨chunks, rfl⟩ := ih hrest
      refine ⟨⟨keyword, segment.text⟩ :: chunks, ?_⟩
      rw [List.map_cons, Chunk.segment, ← hkeyword]

/-- Segments of which only the first may be without a keyword are those of a layout. -/
theorem exists_layout {segments : List Segment}
    (hmarked : ∀ segment ∈ segments.tail, segment.keyword ≠ none)
    (hleading : ∀ segment ∈ segments, segment.keyword = none → segment.text ≠ []) :
    ∃ layout : Layout, layout.segments = segments := by
  cases segments with
  | nil => exact ⟨⟨[], []⟩, rfl⟩
  | cons first segments =>
      obtain ⟨chunks, rfl⟩ := exists_chunks hmarked
      obtain ⟨keyword, text⟩ := first
      cases keyword with
      | some keyword => exact ⟨⟨[], ⟨keyword, text⟩ :: chunks⟩, rfl⟩
      | none =>
          have hne : text ≠ [] := hleading _ List.mem_cons_self rfl
          exact ⟨⟨text, chunks⟩, by simp [Layout.segments, hne]⟩

theorem seamFree_nil_cons {chunk : Chunk} {chunks : List Chunk} :
    SeamFree [] (chunk :: chunks) ↔ SeamFree chunk.text chunks := by
  have hnone : ¬Meets [] chunk.keyword := by
    intro hmeets
    obtain ⟨ending, hmem, hsuffix⟩ := meets_iff.1 hmeets
    exact Keyword.ending_ne_nil hmem (List.suffix_nil.1 hsuffix)
  rw [SeamFree, and_iff_right hnone]

/-- Between texts without keywords, the keyword behind is the first one where there is no seam. -/
theorem isChain_precedes_iff {first : Segment} {chunks : List Chunk} (hfirst : Quiet first.text [])
    (hchunks : ∀ chunk ∈ chunks, Quiet chunk.text []) :
    (first :: chunks.map Chunk.segment).IsChain Segment.Precedes ↔ SeamFree first.text chunks := by
  induction chunks generalizing first with
  | nil => simp [SeamFree]
  | cons chunk chunks ih =>
      obtain ⟨hchunk, hrest⟩ := List.forall_mem_cons.1 hchunks
      have hseam : first.Precedes chunk.segment ↔ ¬Meets first.text chunk.keyword := by
        have hbefore : Quiet first.text (chunk.keyword.word ++ []) ↔
            Quiet first.text [] ∧ ¬Meets first.text chunk.keyword := Quiet.before_word_iff []
        rw [List.append_nil, and_iff_right hfirst] at hbefore
        rw [← hbefore, ← Keyword.firstAt_append_word_iff]
        exact ⟨fun hfirst => hfirst _ rfl, fun hword _ heq => Option.some.inj heq ▸ hword⟩
      have hinner : (chunk.segment :: chunks.map Chunk.segment).IsChain Segment.Precedes ↔
          SeamFree chunk.text chunks := ih hchunk hrest
      rw [List.map_cons, List.isChain_cons_cons, hinner, hseam, SeamFree]

namespace Layout

variable {layout : Layout}

theorem segments_of_leading (hleading : layout.leading ≠ []) :
    layout.segments = ⟨none, layout.leading⟩ :: layout.chunks.map Chunk.segment := by
  simp [segments, hleading]

theorem segments_of_leading_eq_nil (hleading : layout.leading = []) :
    layout.segments = layout.chunks.map Chunk.segment := by
  simp [segments, hleading]

theorem flatMap_source_segments (layout : Layout) :
    layout.segments.flatMap Segment.source = layout.source := by
  have hchunks : (layout.chunks.map Chunk.segment).flatMap Segment.source =
      layout.chunks.flatMap Chunk.source := by
    rw [List.flatMap_map]
    rfl
  by_cases hleading : layout.leading = []
  · rw [segments_of_leading_eq_nil hleading, hchunks, source, hleading, List.nil_append]
  · rw [segments_of_leading hleading, List.flatMap_cons, hchunks]
    rfl

theorem quiet_of_mem_segments_iff :
    (∀ segment ∈ layout.segments, Quiet segment.text []) ↔
      Quiet layout.leading [] ∧ ∀ chunk ∈ layout.chunks, Quiet chunk.text [] := by
  have hchunks : (∀ segment ∈ layout.chunks.map Chunk.segment, Quiet segment.text []) ↔
      ∀ chunk ∈ layout.chunks, Quiet chunk.text [] := List.forall_mem_map
  by_cases hleading : layout.leading = []
  · rw [segments_of_leading_eq_nil hleading, hchunks, hleading, and_iff_right (Quiet.nil [])]
  · rw [segments_of_leading hleading, List.forall_mem_cons, hchunks]

theorem isChain_segments_iff
    (hquiet : Quiet layout.leading [] ∧ ∀ chunk ∈ layout.chunks, Quiet chunk.text []) :
    layout.segments.IsChain Segment.Precedes ↔ SeamFree layout.leading layout.chunks := by
  by_cases hleading : layout.leading = []
  · rw [segments_of_leading_eq_nil hleading, hleading]
    cases hchunks : layout.chunks with
    | nil => simp [SeamFree]
    | cons chunk chunks =>
        rw [hchunks, List.forall_mem_cons] at hquiet
        rw [seamFree_nil_cons]
        exact isChain_precedes_iff hquiet.2.1 hquiet.2.2
  · rw [segments_of_leading hleading]
    exact isChain_precedes_iff hquiet.1 hquiet.2

theorem keyword_of_mem_tail_segments :
    ∀ segment ∈ layout.segments.tail, segment.keyword ≠ none := by
  intro segment hmem
  have hchunk : segment ∈ layout.chunks.map Chunk.segment := by
    by_cases hleading : layout.leading = []
    · rw [segments_of_leading_eq_nil hleading] at hmem
      exact List.mem_of_mem_tail hmem
    · rwa [segments_of_leading hleading, List.tail_cons] at hmem
  obtain ⟨chunk, -, rfl⟩ := List.mem_map.1 hchunk
  exact Option.some_ne_none _

theorem text_of_mem_segments :
    ∀ segment ∈ layout.segments, segment.keyword = none → segment.text ≠ [] := by
  intro segment hmem hnone
  have hunmarked : segment ∉ layout.chunks.map Chunk.segment := by
    intro hchunk
    obtain ⟨chunk, -, rfl⟩ := List.mem_map.1 hchunk
    cases hnone
  by_cases hleading : layout.leading = []
  · rw [segments_of_leading_eq_nil hleading] at hmem
    exact absurd hmem hunmarked
  · rw [segments_of_leading hleading] at hmem
    obtain rfl := (List.mem_cons.1 hmem).resolve_right hunmarked
    exact hleading

/-- The segments of a layout cut its source up when the layout is cut. -/
theorem cutsUp_segments_iff {text : Text} :
    CutsUp layout.segments text ↔ layout.source = text ∧ layout.IsCut := by
  have hwordless : (∀ segment ∈ layout.segments,
      ∀ keyword ∈ Keyword.all, ¬keyword.word <:+: segment.text) ↔
        Quiet layout.leading [] ∧ ∀ chunk ∈ layout.chunks, Quiet chunk.text [] := by
    simp only [← Quiet.alone_iff_wordless, quiet_of_mem_segments_iff]
  rw [isCut_iff, ← flatMap_source_segments]
  constructor
  · intro hcuts
    have hquiet := hwordless.1 hcuts.wordless
    exact ⟨hcuts.whole, hquiet, (isChain_segments_iff hquiet).1 hcuts.apart⟩
  · rintro ⟨hwhole, hquiet, hfree⟩
    exact ⟨hwhole, keyword_of_mem_tail_segments, text_of_mem_segments, hwordless.2 hquiet,
      (isChain_segments_iff hquiet).2 hfree⟩

/-- The segments of a text cut it up at its leftmost keywords, and no other segments do. -/
theorem segments_ofText_iff {text : Text} {segments : List Segment} :
    (ofText text).segments = segments ↔ CutsUp segments text := by
  constructor
  · rintro rfl
    exact cutsUp_segments_iff.2 ⟨source_ofText text, isCut_ofText text⟩
  · intro hcuts
    obtain ⟨layout, rfl⟩ := exists_layout hcuts.marked hcuts.leading
    obtain ⟨rfl, hcut⟩ := cutsUp_segments_iff.1 hcuts
    rw [ofText_source hcut]

-- Of two keywords that overlap, the one that starts first stands.
example : (ofText "vsaveloadmg2".toList).segments =
    [⟨some (.role .target), "ave".toList⟩, ⟨some (.name .load), "mg2".toList⟩] := by decide +kernel

end Layout

end Skirmish
