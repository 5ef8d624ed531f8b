import Skirmish.Proofs.Command.Label
import Skirmish.Proofs.Command.Seams

/-!
# Which labels read back

Where the names are cut out of a command, parts meet that stood apart.  Of the six seams only one
can come about in this way, since labels are made of the keywords of roles: text that ends in `loa`
before damage.  The label of a command reads as the same command exactly when it has no such seam.
-/

namespace Skirmish

/-- Whether some text ends in `loa` where damage follows, so that the two make `load`. -/
def joinsLoad (text : Text) : List Chunk → Bool
  | [] => false
  | chunk :: chunks =>
      ("loa".toList.isSuffixOf text && chunk.keyword == .role .damage) ||
        joinsLoad chunk.text chunks

/-- Whether, once the names are left out, some text that ends in `loa` is right before a keyword of
damage. -/
def Layout.JoinsLoad (layout : Layout) : Prop :=
  joinsLoad layout.leading layout.rolled.chunks = true

instance (layout : Layout) : Decidable layout.JoinsLoad :=
  inferInstanceAs (Decidable (_ = true))

theorem meets_spelled {text : Text} {keyword : Keyword} :
    Meets text keyword.spelled ↔ Meets text keyword := by
  cases keyword with
  | dealing => exact meets_dealing_iff.symm
  | role about => rfl
  | name use => rfl

theorem seamFree_map_spelled {text : Text} {chunks : List Chunk} :
    SeamFree text (chunks.map Chunk.spelled) ↔ SeamFree text chunks := by
  induction chunks generalizing text with
  | nil => rfl
  | cons chunk chunks ih =>
      rw [List.map_cons, SeamFree, SeamFree, Chunk.spelled, meets_spelled, ih]

/-- The only seam before a keyword of a role is that of `load`. -/
theorem meets_iff_of_topic {keyword : Keyword} {about : Role} (htopic : keyword.topic = .inl about)
    {text : Text} : Meets text keyword ↔ "loa".toList <:+ text ∧ about = .damage := by
  have hseams : ∀ ending, (ending, keyword) ∈ Keyword.seams ↔
      ending = "loa".toList ∧ about = .damage := by
    intro ending
    cases keyword with
    | role other =>
        cases htopic
        simp [Keyword.seams]
    | dealing =>
        cases htopic
        simp [Keyword.seams]
    | name use => cases htopic
  rw [meets_iff]
  constructor
  · rintro ⟨ending, hmem, hsuffix⟩
    obtain ⟨rfl, hdamage⟩ := (hseams ending).1 hmem
    exact ⟨hsuffix, hdamage⟩
  · rintro ⟨hsuffix, hdamage⟩
    exact ⟨_, (hseams _).2 ⟨rfl, hdamage⟩, hsuffix⟩

theorem Keyword.seam_of_damage {keyword : Keyword} (htopic : keyword.topic = .inl .damage) :
    Seam "loa".toList keyword (name .load) (keyword.word.drop 1) := by
  cases keyword with
  | role about =>
      cases htopic
      exact ⟨by decide, by decide, by decide, by decide⟩
  | dealing => exact ⟨by decide, by decide, by decide, by decide⟩
  | name use => cases htopic

/-- Whether each chunk is about a role, in either spelling, and has no keyword in its text. -/
def ChunksOfRoles (chunks : List Chunk) : Prop :=
  ∀ chunk ∈ chunks, Quiet chunk.text [] ∧ ∃ about, chunk.keyword.topic = .inl about

/-- Between chunks of roles the only seams are those where two of them make `load`. -/
theorem seamFree_iff_joinsLoad {text : Text} {chunks : List Chunk} (hroles : ChunksOfRoles chunks) :
    SeamFree text chunks ↔ joinsLoad text (chunks.map Chunk.spelled) = false := by
  induction chunks generalizing text with
  | nil => simp [SeamFree, joinsLoad]
  | cons chunk chunks ih =>
      obtain ⟨⟨-, about, htopic⟩, hrest⟩ := List.forall_mem_cons.1 hroles
      have hspelled := Keyword.spelled_eq_role htopic
      rw [SeamFree, meets_iff_of_topic htopic, ih hrest, List.map_cons, joinsLoad,
        Bool.or_eq_false_iff, Chunk.spelled, hspelled]
      simp

/-- Chunks of roles stay cut before each other, unless two of them make `load`. -/
theorem quiet_of_not_joinsLoad {text : Text} {chunks : List Chunk} (hquiet : Quiet text [])
    (hroles : ChunksOfRoles chunks) (hjoins : joinsLoad text (chunks.map Chunk.spelled) = false) :
    Quiet text (chunks.flatMap Chunk.source) ∧ ChunksQuiet chunks := by
  refine quiet_iff_seamFree.2 ⟨⟨hquiet, ?_⟩, (seamFree_iff_joinsLoad hroles).2 hjoins⟩
  exact fun chunk hmem => (hroles chunk hmem).1

/-- Two chunks of roles that make `load` let it be found. -/
theorem load_found_of_joinsLoad {text : Text} {chunks : List Chunk} (hquiet : Quiet text [])
    (hroles : ChunksOfRoles chunks) (hjoins : joinsLoad text (chunks.map Chunk.spelled) = true) :
    ∃ chunk ∈ (Layout.ofText (text ++ chunks.flatMap Chunk.source)).chunks,
      chunk.keyword = .name .load := by
  induction chunks generalizing text with
  | nil => cases hjoins
  | cons chunk chunks ih =>
      obtain ⟨⟨hchunk, about, htopic⟩, hrest⟩ := List.forall_mem_cons.1 hroles
      rw [List.flatMap_cons, Chunk.source, List.append_assoc]
      by_cases hhere : "loa".toList <:+ text ∧ about = .damage
      · obtain ⟨⟨start, rfl⟩, rfl⟩ := hhere
        have hseam := Keyword.seam_of_damage htopic
        rw [hseam.append_assoc, Layout.ofText_word (hquiet.before_seam hseam _)]
        exact ⟨_, List.mem_cons_self, rfl⟩
      · have hthere : joinsLoad chunk.text (chunks.map Chunk.spelled) = true := by
          rcases Bool.or_eq_true_iff.1 hjoins with hseam | hthere
          · exact absurd (by simpa [Chunk.spelled, Keyword.spelled_eq_role htopic] using hseam)
              hhere
          · exact hthere
        obtain ⟨found, hmem, hfound⟩ := ih hchunk hrest hthere
        have happart := mt (meets_iff_of_topic htopic).1 hhere
        rw [Layout.ofText_word ((Quiet.before_word_iff _).2 ⟨hquiet, happart⟩)]
        exact ⟨found, List.mem_cons_of_mem _ hmem, hfound⟩

/-- Whether each chunk is about a role, as labels spell it, and has no keyword in its text. -/
def ChunksPlain (chunks : List Chunk) : Prop :=
  ∀ chunk ∈ chunks, Quiet chunk.text [] ∧ ∃ about, chunk.keyword = .role about

theorem ChunksPlain.ofRoles {chunks : List Chunk} (hplain : ChunksPlain chunks) :
    ChunksOfRoles chunks := by
  intro chunk hmem
  obtain ⟨hquiet, about, hkeyword⟩ := hplain chunk hmem
  exact ⟨hquiet, about, congrArg Keyword.topic hkeyword⟩

/-- Plain chunks are spelled as labels spell them. -/
theorem ChunksPlain.map_spelled {chunks : List Chunk} (hplain : ChunksPlain chunks) :
    chunks.map Chunk.spelled = chunks := by
  calc
    chunks.map Chunk.spelled = chunks.map id := by
      apply List.map_congr_left
      intro chunk hmem
      obtain ⟨keyword, text⟩ := chunk
      obtain ⟨-, about, rfl⟩ := hplain ⟨keyword, text⟩ hmem
      rfl
    _ = chunks := List.map_id chunks

theorem Chunk.length_spelled_le (chunk : Chunk) :
    chunk.spelled.source.length ≤ chunk.source.length := by
  have hword := chunk.keyword.length_labelWord_le
  simp only [source, spelled, Keyword.word_spelled, List.length_append]
  omega

namespace Layout

/-- Labels are not longer than what they are made of. -/
theorem length_rolled_chunks_le (chunks : List Chunk) :
    (((chunks.filter fun chunk => chunk.keyword.topic.isLeft).map Chunk.spelled).flatMap
      Chunk.source).length ≤ (chunks.flatMap Chunk.source).length := by
  induction chunks with
  | nil => exact Nat.le_refl 0
  | cons chunk chunks ih =>
      have hchunk := chunk.length_spelled_le
      rw [List.filter_cons]
      split
      · rw [List.map_cons, List.flatMap_cons, List.flatMap_cons, List.length_append,
          List.length_append]
        omega
      · rw [List.flatMap_cons, List.length_append]
        omega

/-- A layout with a name is longer than its label. -/
theorem length_rolled_lt {layout : Layout} {chunk : Chunk} {use : NameUse}
    (hmem : chunk ∈ layout.chunks) (hname : chunk.keyword = .name use) :
    layout.rolled.source.length < layout.source.length := by
  obtain ⟨front, back, hsplit⟩ := List.append_of_mem hmem
  have hfront := length_rolled_chunks_le front
  have hback := length_rolled_chunks_le back
  have hword : 0 < chunk.source.length := by
    have hne := List.length_pos_iff.2 chunk.keyword.word_ne_nil
    rw [Chunk.source, List.length_append]
    omega
  have hcut : chunk.keyword.topic.isLeft = false := by
    rw [hname]
    rfl
  simp only [rolled, source, hsplit, List.filter_append, List.filter_cons, hcut, List.map_append,
    List.flatMap_append, List.flatMap_cons, List.length_append]
  simp only [Bool.false_eq_true, if_false]
  omega

theorem chunksPlain_rolled {layout : Layout} (hcut : layout.IsCut) :
    ChunksPlain layout.rolled.chunks := by
  intro chunk hmem
  obtain ⟨original, horiginal, rfl⟩ := List.mem_map.1 hmem
  obtain ⟨hchunk, hrole⟩ := List.mem_filter.1 horiginal
  have hquiet : Quiet original.text [] := hcut.2.alone_of_mem hchunk
  refine ⟨hquiet, ?_⟩
  obtain ⟨about, htopic⟩ := Sum.isLeft_iff.1 hrole
  exact ⟨about, Keyword.spelled_eq_role htopic⟩

theorem ofText_rolled {layout : Layout} (hcut : layout.IsCut) (hjoins : ¬layout.JoinsLoad) :
    ofText layout.rolled.source = layout.rolled := by
  have hplain := chunksPlain_rolled hcut
  rw [JoinsLoad, ← hplain.map_spelled, Bool.not_eq_true] at hjoins
  obtain ⟨hleading, hchunks⟩ := quiet_of_not_joinsLoad hcut.1.alone hplain.ofRoles hjoins
  exact ofText_quiet hleading hchunks

/-- Only the empty layout has no source. -/
theorem source_eq_nil_iff {layout : Layout} :
    layout.source = [] ↔ layout.leading = [] ∧ layout.chunks = [] := by
  obtain ⟨leading, chunks⟩ := layout
  rw [source, List.append_eq_nil_iff]
  refine and_congr_right fun _ => ?_
  cases chunks with
  | nil => simp
  | cons chunk chunks => simp [Chunk.source, chunk.keyword.word_ne_nil]

end Layout

theorem Keyword.settled_of_mem_word {keyword : Keyword} {character : Char}
    (hmem : character ∈ keyword.word) : Text.Settled character := by
  have hall : (all.all fun keyword => keyword.word.all Text.isPlainLetter) = true := by decide
  have hword := List.all_eq_true.1 hall keyword (mem_all keyword)
  exact Text.settled_of_isPlainLetter (List.all_eq_true.1 hword character hmem)

/-- What a layout is made of is settled, and so is its label but for the blanks. -/
theorem Layout.settled_of_mem_rolled {layout : Layout}
    (hsettled : ∀ character ∈ layout.source, Text.Settled character) {character : Char}
    (hmem : character ∈ layout.rolled.source) : Text.Settled character := by
  rcases List.mem_append.1 hmem with hleading | hchunks
  · exact hsettled character (List.mem_append_left _ hleading)
  · obtain ⟨chunk, hchunk, hsource⟩ := List.mem_flatMap.1 hchunks
    obtain ⟨original, horiginal, rfl⟩ := List.mem_map.1 hchunk
    rcases List.mem_append.1 hsource with hword | htext
    · exact Keyword.settled_of_mem_word hword
    · exact hsettled character (mem_source_of_mem_text (List.mem_filter.1 horiginal).1 htext)

/-- Whatever its blanks, a text with the characters of the label has the label's source as its
normal form. -/
theorem Layout.normalize_label {layout : Layout} {text : Text}
    (hsettled : ∀ character ∈ layout.source, Text.Settled character)
    (htext : Text.withoutBlanks text = Text.withoutBlanks layout.label) :
    normalize text = layout.rolled.source := by
  have hsource : Text.withoutBlanks text = layout.rolled.source := by
    rw [htext]
    exact withoutBlanks_label fun character hmem => (hsettled character hmem).unreserved.1
  rw [← hsource]
  apply normalize_eq_withoutBlanks
  intro character hmem
  rw [hsource] at hmem
  exact settled_of_mem_rolled hsettled hmem

theorem Layout.settled_of_mem_ofText {input : Text} {character : Char}
    (hmem : character ∈ (ofText (normalize input)).source) : Text.Settled character := by
  rw [source_ofText] at hmem
  exact settled_of_mem_normalize hmem

namespace Command

/-- A label that makes no `load` reads as the command that it was made of, less the names. -/
theorem parse_label {input text : Text} {command : Command}
    (hok : parse input = .ok command) (hroll : command.hasRoll = true)
    (hjoins : ¬(Layout.ofText (normalize input)).JoinsLoad)
    (htext : Text.withoutBlanks text = Text.withoutBlanks command.label) :
    parse text = .ok ⟨command.plan, Names.empty, command.label⟩ := by
  obtain ⟨-, hcommand, rfl⟩ := (ofNormal_eq_ok_iff ..).1 hok
  have hreread := Layout.ofText_rolled (Layout.isCut_ofText (normalize input)) hjoins
  have hnormal := Layout.normalize_label (fun _ hmem => Layout.settled_of_mem_ofText hmem) htext
  generalize Layout.ofText (normalize input) = layout at *
  rw [parse, hnormal, ofNormal_eq_ok_iff, hreread, Layout.plan_rolled, Layout.label_rolled,
    Layout.names_rolled]
  refine ⟨?_, hcommand.rolled, rfl⟩
  intro hnil
  obtain ⟨hleading, hchunks⟩ := Layout.source_eq_nil_iff.1 hnil
  have hlabel : layout.rolled.label = [] := by
    rw [Layout.label, hleading, hchunks]
    rfl
  rw [Layout.label_rolled] at hlabel
  rw [hasRoll, hlabel] at hroll
  cases hroll

end Command

end Skirmish
