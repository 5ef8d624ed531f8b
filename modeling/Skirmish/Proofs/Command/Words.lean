import Mathlib.Data.List.Chain
import Skirmish.Proofs.Command.Reread
import Skirmish.Proofs.Text.Words

/-!
# Words that stay apart

A label is a row of words, some of them the keywords of roles.  Without the spaces the row reads as
the same words exactly when of any two neighbors one is a keyword, and no word that ends in `loa` is
followed by the keyword of damage.
-/

namespace Skirmish

/-- The role whose keyword a word is. -/
def Role.ofWord? (word : Text) : Option Role :=
  all.find? fun role => role.word == word

@[simp]
theorem Role.ofWord?_word (role : Role) : ofWord? role.word = some role := by
  cases role <;> decide

theorem Role.ofWord?_eq_some {word : Text} {role : Role} (hword : ofWord? word = some role) :
    role.word = word := by
  simpa using List.find?_some hword

/-- Whether two words are read as two when nothing stands between them. -/
def StaysApart (word next : Text) : Prop :=
  ((Role.ofWord? word).isSome ∨ (Role.ofWord? next).isSome) ∧
    ¬("loa".toList <:+ word ∧ Role.ofWord? next = some .damage)

instance (word next : Text) : Decidable (StaysApart word next) :=
  inferInstanceAs (Decidable (_ ∧ _))

/-- Whether the words of a text are read as they stand when the spaces are taken away. -/
def Text.KeepsApart (text : Text) : Prop :=
  (words text).IsChain StaysApart

instance (text : Text) : Decidable text.KeepsApart :=
  inferInstanceAs (Decidable (List.IsChain _ _))

theorem staysApart_of_role (role : Role) (next : Text) : StaysApart role.word next := by
  refine ⟨.inl (by simp), ?_⟩
  rintro ⟨hsuffix, -⟩
  revert hsuffix
  cases role <;> decide

/-- What can be a word of a label: the keyword of a role, or a text without keywords. -/
structure IsLabelWord (word : Text) : Prop where
  settled : ∀ character ∈ word, Text.Settled character
  kind : (∃ role : Role, role.word = word) ∨ word ≠ [] ∧ Quiet word []

namespace IsLabelWord

theorem of_role (role : Role) : IsLabelWord role.word where
  settled := fun _ hmem => (Keyword.role role).settled_of_mem_word hmem
  kind := .inl ⟨role, rfl⟩

theorem ne_nil_and_spaceless {word : Text} (hword : IsLabelWord word) : word ≠ [] ∧ ' ' ∉ word := by
  constructor
  · rcases hword.kind with ⟨role, rfl⟩ | ⟨hne, -⟩
    · exact (Keyword.role role).word_ne_nil
    · exact hne
  · intro hmem
    have hblank := (hword.settled _ hmem).unreserved.1
    revert hblank
    decide

end IsLabelWord

/-- The words of a chunk in labels. -/
def Chunk.words (chunk : Chunk) : List Text :=
  chunk.keyword.labelWord :: chunk.text.asWord

/-- The words of a text and of the chunks behind it. -/
def wordsFrom (text : Text) (chunks : List Chunk) : List Text :=
  text.asWord ++ chunks.flatMap Chunk.words

/-- The words of a layout's label. -/
def Layout.words (layout : Layout) : List Text :=
  wordsFrom layout.leading layout.rolled.chunks

theorem Quiet.ofWord?_eq_none {text : Text} (hquiet : Quiet text []) (hne : text ≠ []) :
    Role.ofWord? text = none := by
  cases hword : Role.ofWord? text with
  | none => rfl
  | some role =>
      have hnone := hquiet text (List.suffix_refl _) hne
      rw [List.append_nil, ← Role.ofWord?_eq_some hword, ← List.append_nil role.word] at hnone
      have hfound := Keyword.at?_word_append (.role role) []
      rw [Keyword.word_role, hnone] at hfound
      cases hfound

/-- A text stays apart from the keyword of a role exactly when the two do not meet. -/
theorem staysApart_role_iff {text : Text} (role : Role) :
    StaysApart text role.word ↔ ¬Meets text (.role role) := by
  rw [StaysApart, Role.ofWord?_word, meets_iff_of_topic rfl]
  simp

theorem wordsFrom_cons (text : Text) (chunk : Chunk) (chunks : List Chunk) :
    wordsFrom text (chunk :: chunks) =
      text.asWord ++ chunk.keyword.labelWord :: wordsFrom chunk.text chunks := by
  rw [wordsFrom, List.flatMap_cons, Chunk.words, wordsFrom]
  rfl

/-- In a row of chunks the words stay apart exactly when no text meets the keyword behind it. -/
theorem isChain_wordsFrom_iff {text : Text} {chunks : List Chunk} (hplain : ChunksPlain chunks) :
    (wordsFrom text chunks).IsChain StaysApart ↔ SeamFree text chunks := by
  induction chunks generalizing text with
  | nil =>
      by_cases hempty : text = []
      · simp [wordsFrom, SeamFree, hempty]
      · simp [wordsFrom, SeamFree, Text.asWord_of_ne_nil hempty]
  | cons chunk chunks ih =>
      obtain ⟨⟨-, role, hkeyword⟩, hrest⟩ := List.forall_mem_cons.1 hplain
      have hbehind : (role.word :: wordsFrom chunk.text chunks).IsChain StaysApart ↔
          SeamFree chunk.text chunks := by
        rw [List.isChain_cons, ih hrest]
        exact and_iff_right fun next _ => staysApart_of_role role next
      have hword : chunk.keyword.labelWord = role.word := by
        rw [hkeyword]
        rfl
      rw [wordsFrom_cons, hword, SeamFree, ← hbehind, hkeyword]
      by_cases hempty : text = []
      · have hmeets : ¬Meets text (.role role) := by
          rw [hempty, meets_iff_of_topic rfl]
          simp
        rw [hempty] at hmeets ⊢
        exact (and_iff_right hmeets).symm
      · rw [Text.asWord_of_ne_nil hempty, List.singleton_append, List.isChain_cons_cons,
          staysApart_role_iff]

theorem flatten_wordsFrom {text : Text} {chunks : List Chunk} (hplain : ChunksPlain chunks) :
    (wordsFrom text chunks).flatten = text ++ chunks.flatMap Chunk.source := by
  induction chunks generalizing text with
  | nil => simp [wordsFrom]
  | cons chunk chunks ih =>
      obtain ⟨⟨-, role, hkeyword⟩, hrest⟩ := List.forall_mem_cons.1 hplain
      have hword : chunk.keyword.labelWord = chunk.keyword.word := by
        rw [hkeyword]
        rfl
      rw [wordsFrom_cons, List.flatten_append, Text.flatten_asWord, List.flatten_cons, ih hrest,
        hword, List.flatMap_cons, Chunk.source, List.append_assoc]

theorem isLabelWord_of_mem_wordsFrom {text : Text} {chunks : List Chunk} (htext : Quiet text [])
    (hplain : ChunksPlain chunks)
    (hsettled : ∀ character ∈ text ++ chunks.flatMap Chunk.source, Text.Settled character) :
    ∀ word ∈ wordsFrom text chunks, IsLabelWord word := by
  intro word hmem
  rcases List.mem_append.1 hmem with hfirst | hchunks
  · obtain ⟨rfl, hne⟩ := Text.mem_asWord.1 hfirst
    exact ⟨fun character hcharacter => hsettled character (List.mem_append_left _ hcharacter),
      .inr ⟨hne, htext⟩⟩
  · obtain ⟨chunk, hchunk, hword⟩ := List.mem_flatMap.1 hchunks
    obtain ⟨hquiet, role, hkeyword⟩ := hplain chunk hchunk
    rcases List.mem_cons.1 hword with rfl | hinside
    · rw [hkeyword]
      exact IsLabelWord.of_role role
    · obtain ⟨rfl, hne⟩ := Text.mem_asWord.1 hinside
      refine ⟨fun character hcharacter => hsettled character ?_, .inr ⟨hne, hquiet⟩⟩
      refine List.mem_append_right _ (List.mem_flatMap.2 ⟨chunk, hchunk, ?_⟩)
      exact List.mem_append_right _ hcharacter

theorem Chunk.label_eq (chunk : Chunk) : chunk.label = [' '].intercalate chunk.words := by
  rw [label, words]
  split
  · next hempty => rw [List.isEmpty_iff.1 hempty, Text.asWord_nil, List.intercalate_singleton]
  · next hsome =>
    rw [Text.asWord_of_ne_nil (by simpa using hsome), List.intercalate_cons_cons,
      List.intercalate_singleton, List.append_assoc]
    rfl

namespace Layout

/-- A label is a row of words. -/
theorem label_eq (layout : Layout) : layout.label = [' '].intercalate layout.words := by
  have hchunks : (layout.chunks.filter fun chunk => chunk.keyword.topic.isLeft).map Chunk.label =
      (layout.rolled.chunks.map Chunk.words).map [' '].intercalate := by
    rw [rolled, List.map_map, List.map_map]
    apply List.map_congr_left
    intro chunk _
    rw [← Chunk.label_spelled, Chunk.label_eq]
    rfl
  have hpieces : ∀ piece ∈ layout.rolled.chunks.map Chunk.words, piece ≠ [] :=
    List.forall_mem_map.2 fun chunk _ => List.cons_ne_nil _ _
  rw [label, hchunks, words, wordsFrom, List.flatMap_def]
  by_cases hempty : layout.leading = []
  · rw [hempty, Text.asWord_nil, List.nil_append, ← Text.intercalate_flatten hpieces]
    rfl
  · have hmore : ∀ piece ∈ [layout.leading] :: layout.rolled.chunks.map Chunk.words, piece ≠ [] :=
      List.forall_mem_cons.2 ⟨List.cons_ne_nil _ _, hpieces⟩
    have hrow := Text.intercalate_flatten hmore
    rw [List.map_cons, List.intercalate_singleton, List.flatten_cons] at hrow
    rw [if_neg (by simpa using hempty), Text.asWord_of_ne_nil hempty, ← hrow,
      List.singleton_append]

/-- The layout of words that are read one by one. -/
def ofWords : List Text → Layout
  | [] => ⟨[], []⟩
  | word :: words =>
    match Role.ofWord? word with
    | some role => mark (.role role) (ofWords words)
    | none => ⟨word ++ (ofWords words).leading, (ofWords words).chunks⟩

theorem leading_ofWords {words : List Text}
    (hfirst : ∀ word ∈ words.head?, (Role.ofWord? word).isSome) : (ofWords words).leading = [] := by
  cases words with
  | nil => rfl
  | cons word words =>
      obtain ⟨role, hrole⟩ := Option.isSome_iff_exists.1 (hfirst word rfl)
      simp only [ofWords, hrole, mark]

/-- Words that stay apart are the words of the layout that they make. -/
theorem ofWords_spec {words : List Text} (hwords : ∀ word ∈ words, IsLabelWord word)
    (hapart : words.IsChain StaysApart) :
    Quiet (ofWords words).leading [] ∧ ChunksPlain (ofWords words).chunks ∧
      wordsFrom (ofWords words).leading (ofWords words).chunks = words := by
  induction words with
  | nil => exact ⟨Quiet.nil _, List.forall_mem_nil _, rfl⟩
  | cons word words ih =>
      obtain ⟨hword, hrest⟩ := List.forall_mem_cons.1 hwords
      obtain ⟨hnext, hbehind⟩ := List.isChain_cons.1 hapart
      obtain ⟨hleading, hplain, hsame⟩ := ih hrest hbehind
      rcases hword.kind with ⟨role, rfl⟩ | ⟨hne, hquiet⟩
      · simp only [ofWords, Role.ofWord?_word, mark]
        refine ⟨Quiet.nil _, List.forall_mem_cons.2 ⟨⟨hleading, role, rfl⟩, hplain⟩, ?_⟩
        rw [wordsFrom_cons, hsame]
        rfl
      · have hnone := hquiet.ofWord?_eq_none hne
        -- Behind a text stands a keyword, so there is no other text to run into.
        have hempty : (ofWords words).leading = [] := by
          apply leading_ofWords
          intro next hmem
          simpa [hnone] using (hnext next hmem).1
        rw [hempty] at hsame
        simp only [ofWords, hnone, hempty, List.append_nil]
        refine ⟨hquiet, hplain, ?_⟩
        have hself : wordsFrom word (ofWords words).chunks =
            word :: wordsFrom [] (ofWords words).chunks := by
          rw [wordsFrom, Text.asWord_of_ne_nil hne]
          rfl
        rw [hself, hsame]

/-- Words that begin with a keyword only add chunks to what stands before them. -/
theorem ofWords_append {left right : List Text} (hright : (ofWords right).leading = []) :
    ofWords (left ++ right) =
      ⟨(ofWords left).leading, (ofWords left).chunks ++ (ofWords right).chunks⟩ := by
  induction left with
  | nil =>
      rw [List.nil_append, ofWords, ← hright]
      rfl
  | cons word left ih =>
      rw [List.cons_append, ofWords, ofWords, ih]
      cases Role.ofWord? word <;> rfl

theorem source_ofWords {words : List Text} (hwords : ∀ word ∈ words, IsLabelWord word)
    (hapart : words.IsChain StaysApart) : (ofWords words).source = words.flatten := by
  obtain ⟨-, hplain, hsame⟩ := ofWords_spec hwords hapart
  rw [source, ← flatten_wordsFrom hplain, hsame]

theorem ofText_flatten {words : List Text} (hwords : ∀ word ∈ words, IsLabelWord word)
    (hapart : words.IsChain StaysApart) : ofText words.flatten = ofWords words := by
  obtain ⟨hleading, hplain, hsame⟩ := ofWords_spec hwords hapart
  rw [← source_ofWords hwords hapart]
  apply ofText_source
  rw [← hsame, isChain_wordsFrom_iff hplain] at hapart
  exact isCut_iff.2 ⟨⟨hleading, fun chunk hmem => (hplain chunk hmem).1⟩, hapart⟩

theorem rolled_of_chunksPlain {layout : Layout} (hplain : ChunksPlain layout.chunks) :
    layout.rolled = layout := by
  have hroles : ∀ chunk ∈ layout.chunks, chunk.keyword.topic.isLeft = true := by
    intro chunk hmem
    obtain ⟨-, role, hkeyword⟩ := hplain chunk hmem
    rw [hkeyword]
    rfl
  rw [rolled_eq_spelled hroles, spelled, hplain.map_spelled]

theorem isLabelWord_of_mem_words {layout : Layout} (hcut : layout.IsCut)
    (hsettled : ∀ character ∈ layout.source, Text.Settled character) :
    ∀ word ∈ layout.words, IsLabelWord word := by
  apply isLabelWord_of_mem_wordsFrom hcut.1.alone (chunksPlain_rolled hcut)
  exact fun _ hmem => settled_of_mem_rolled hsettled hmem

theorem words_label {layout : Layout} (hcut : layout.IsCut)
    (hsettled : ∀ character ∈ layout.source, Text.Settled character) :
    Text.words layout.label = layout.words := by
  have hwords := isLabelWord_of_mem_words hcut hsettled
  rw [label_eq, Text.words_intercalate fun word hmem => (hwords word hmem).ne_nil_and_spaceless]

/-- A layout that is as long without its names has none. -/
theorem isLeft_of_source_rolled {layout : Layout} (hsource : layout.rolled.source = layout.source) :
    ∀ chunk ∈ layout.chunks, chunk.keyword.topic.isLeft = true := by
  intro chunk hmem
  cases hkeyword : chunk.keyword with
  | role about => rfl
  | dealing => rfl
  | name use =>
      have hshorter := length_rolled_lt hmem hkeyword
      rw [hsource] at hshorter
      exact absurd hshorter (Nat.lt_irrefl _)

/-- Read without the spaces, a row of words is the label again exactly when the words stay apart. -/
theorem label_ofText_flatten_iff {words : List Text} (hwords : ∀ word ∈ words, IsLabelWord word) :
    (ofText words.flatten).label = [' '].intercalate words ↔ words.IsChain StaysApart := by
  constructor
  · intro hlabel
    have hcut := isCut_ofText words.flatten
    have hsource := source_ofText words.flatten
    have hsettled : ∀ character ∈ (ofText words.flatten).source, Text.Settled character := by
      intro character hmem
      rw [hsource] at hmem
      obtain ⟨word, hword, hcharacter⟩ := List.mem_flatten.1 hmem
      exact (hwords word hword).settled character hcharacter
    have hsame : (ofText words.flatten).words = words := by
      rw [← words_label hcut hsettled, hlabel,
        Text.words_intercalate fun word hmem => (hwords word hmem).ne_nil_and_spaceless]
    have hplain := chunksPlain_rolled hcut
    generalize ofText words.flatten = layout at *
    -- The row has no names in it, so the label leaves out nothing of what was read.
    have hrolled : layout.rolled.source = layout.source := by
      rw [hsource, ← hsame, Layout.words, flatten_wordsFrom hplain]
      rfl
    have hkept := rolled_eq_spelled (isLeft_of_source_rolled hrolled)
    rw [← hsame, Layout.words, isChain_wordsFrom_iff hplain, hkept, spelled, seamFree_map_spelled]
    exact (isCut_iff.1 hcut).2
  · intro hapart
    obtain ⟨-, hplain, hsame⟩ := ofWords_spec hwords hapart
    rw [ofText_flatten hwords hapart, label_eq, Layout.words, rolled_of_chunksPlain hplain, hsame]

end Layout

end Skirmish
