import Skirmish.Proofs.Command.Assignment
import Skirmish.Proofs.Command.Cut
import Skirmish.Proofs.Text.Settled

/-!
# Reading a label again

A label is the layout of its command without the names, written with blanks that the next reading
takes away.  Parts that stood apart meet in it, and one pair of parts makes a keyword that was not
there: text that ends in `loa` before a damage keyword.  Every other label reads as the command that
it was made of, less the names.
-/

namespace Skirmish

namespace Keyword

/-- The keyword that labels are written with. -/
def spelled : Keyword → Keyword
  | dealing => role .damage
  | keyword => keyword

@[simp]
theorem topic_spelled (keyword : Keyword) : keyword.spelled.topic = keyword.topic := by
  cases keyword <;> rfl

@[simp]
theorem word_spelled (keyword : Keyword) : keyword.spelled.word = keyword.labelWord := by
  cases keyword <;> rfl

@[simp]
theorem labelWord_spelled (keyword : Keyword) : keyword.spelled.labelWord = keyword.labelWord := by
  cases keyword <;> rfl

theorem spelled_eq_role {keyword : Keyword} {about : Role} (htopic : keyword.topic = .inl about) :
    keyword.spelled = .role about := by
  cases keyword with
  | role other =>
      obtain rfl : other = about := by simpa [topic] using htopic
      rfl
  | dealing =>
      obtain rfl : Role.damage = about := by simpa [topic] using htopic
      rfl
  | name use => simp [topic] at htopic

theorem length_labelWord_le (keyword : Keyword) :
    keyword.labelWord.length ≤ keyword.word.length := by
  have hall : ∀ keyword ∈ all, keyword.labelWord.length ≤ keyword.word.length := by decide
  exact hall keyword (mem_all keyword)

theorem withoutBlanks_labelWord (keyword : Keyword) :
    Text.withoutBlanks keyword.labelWord = keyword.labelWord := by
  have hall : ∀ keyword ∈ all, Text.withoutBlanks keyword.labelWord = keyword.labelWord := by
    decide +kernel
  exact hall keyword (mem_all keyword)

end Keyword

namespace Text

theorem withoutBlanks_eq_self {text : Text}
    (hblank : ∀ character ∈ text, isBlank character = false) : withoutBlanks text = text := by
  rw [withoutBlanks, List.filter_eq_self]
  intro character hmem
  rw [hblank character hmem]
  rfl

/-- Blanks between pieces do not count. -/
theorem withoutBlanks_intercalate (pieces : List Text) :
    withoutBlanks ([' '].intercalate pieces) = pieces.flatMap withoutBlanks := by
  induction pieces with
  | nil => rfl
  | cons piece pieces ih =>
      cases pieces with
      | nil => simp
      | cons next pieces =>
          have hspace : withoutBlanks [' '] = [] := by decide
          rw [List.intercalate_cons_cons, withoutBlanks_append, withoutBlanks_append, ih, hspace,
            List.append_nil]
          rfl

end Text

/-- The chunk as labels write it. -/
def Chunk.spelled (chunk : Chunk) : Chunk :=
  ⟨chunk.keyword.spelled, chunk.text⟩

@[simp]
theorem Chunk.label_spelled (chunk : Chunk) : chunk.spelled.label = chunk.label := by
  simp [label, spelled]

theorem Chunk.withoutBlanks_label {chunk : Chunk}
    (hblank : ∀ character ∈ chunk.text, Text.isBlank character = false) :
    Text.withoutBlanks chunk.label = chunk.spelled.source := by
  have htext := Text.withoutBlanks_eq_self hblank
  have hword := chunk.keyword.withoutBlanks_labelWord
  have hspace : Text.withoutBlanks (' ' :: chunk.text) = Text.withoutBlanks chunk.text := rfl
  rw [label]
  split
  · next hempty =>
    rw [hword, source, spelled, Keyword.word_spelled, List.isEmpty_iff.1 hempty, List.append_nil]
  · rw [Text.withoutBlanks_append, hspace, hword, htext, source, spelled, Keyword.word_spelled]

namespace Layout

/-- The layout without names, as labels write it. -/
def rolled (layout : Layout) : Layout :=
  ⟨layout.leading,
    (layout.chunks.filter fun chunk => chunk.keyword.topic.isLeft).map Chunk.spelled⟩

/-- The layout with the keywords that labels are written with. -/
def spelled (layout : Layout) : Layout :=
  ⟨layout.leading, layout.chunks.map Chunk.spelled⟩

/-- A layout without names leaves nothing out. -/
theorem rolled_eq_spelled {layout : Layout}
    (hroles : ∀ chunk ∈ layout.chunks, chunk.keyword.topic.isLeft = true) :
    layout.rolled = layout.spelled := by
  rw [rolled, List.filter_eq_self.2 hroles, spelled]

theorem mem_source_of_mem_text {layout : Layout} {chunk : Chunk} {character : Char}
    (hchunk : chunk ∈ layout.chunks) (hmem : character ∈ chunk.text) :
    character ∈ layout.source := by
  refine List.mem_append_right _ (List.mem_flatMap.2 ⟨chunk, hchunk, ?_⟩)
  exact List.mem_append_right _ hmem

/-- A label says what the layout without names says. -/
theorem withoutBlanks_label {layout : Layout}
    (hblank : ∀ character ∈ layout.source, Text.isBlank character = false) :
    Text.withoutBlanks layout.label = layout.rolled.source := by
  have hleading : Text.withoutBlanks layout.leading = layout.leading :=
    Text.withoutBlanks_eq_self fun character hmem => hblank _ (List.mem_append_left _ hmem)
  have hfirst : (if layout.leading.isEmpty then [] else [layout.leading]).flatMap
      Text.withoutBlanks = layout.leading := by
    split
    · next hempty => rw [List.isEmpty_iff.1 hempty, List.flatMap_nil]
    · rw [List.flatMap_singleton, hleading]
  have hchunks : ((layout.chunks.filter fun chunk => chunk.keyword.topic.isLeft).map
      Chunk.label).flatMap Text.withoutBlanks = layout.rolled.chunks.flatMap Chunk.source := by
    rw [rolled, List.flatMap_map, List.flatMap_map, List.flatMap_def, List.flatMap_def]
    congr 1
    apply List.map_congr_left
    intro chunk hmem
    have hchunk := (List.mem_filter.1 hmem).1
    exact Chunk.withoutBlanks_label fun character htext =>
      hblank _ (mem_source_of_mem_text hchunk htext)
  rw [label, Text.withoutBlanks_intercalate, List.flatMap_append, hfirst, hchunks]
  rfl

@[simp]
theorem textOf?_rolled_role (layout : Layout) (role : Role) :
    layout.rolled.textOf? (.inl role) = layout.textOf? (.inl role) := by
  have htest : (fun chunk : Chunk => decide (chunk.keyword.topic.isLeft = true ∧
      ((fun chunk => decide (chunk.keyword.topic = .inl role)) ∘ Chunk.spelled) chunk = true)) =
      fun chunk => decide (chunk.keyword.topic = .inl role) := by
    funext chunk
    cases htopic : chunk.keyword.topic <;> simp [Chunk.spelled, htopic]
  rw [textOf?, textOf?, rolled, List.find?_map, List.find?_filter, Option.map_map, htest]
  rfl

@[simp]
theorem textOf?_rolled_name (layout : Layout) (use : NameUse) :
    layout.rolled.textOf? (.inr use) = none := by
  rw [textOf?_eq_none_iff]
  intro chunk hmem
  obtain ⟨original, horiginal, rfl⟩ := List.mem_map.1 hmem
  have hrole : original.keyword.topic.isLeft = true := (List.mem_filter.1 horiginal).2
  intro htopic
  rw [Chunk.spelled, Keyword.topic_spelled] at htopic
  rw [htopic] at hrole
  cases hrole

@[simp]
theorem names_rolled (layout : Layout) : layout.rolled.names = Names.empty := by
  apply Names.ext_get?
  intro use
  rw [get?_names, textOf?_rolled_name, Names.get?_empty]

@[simp]
theorem label_rolled (layout : Layout) : layout.rolled.label = layout.label := by
  have hall : ∀ chunk ∈ layout.rolled.chunks, chunk.keyword.topic.isLeft = true := by
    intro chunk hmem
    obtain ⟨original, horiginal, rfl⟩ := List.mem_map.1 hmem
    rw [Chunk.spelled, Keyword.topic_spelled]
    exact (List.mem_filter.1 horiginal).2
  have hlabels : layout.rolled.chunks.map Chunk.label =
      (layout.chunks.filter fun chunk => chunk.keyword.topic.isLeft).map Chunk.label := by
    rw [rolled, List.map_map]
    apply List.map_congr_left
    intro chunk _
    exact chunk.label_spelled
  rw [label, label, List.filter_eq_self.2 hall, hlabels]
  rfl

/-- The plan of a layout depends on its leading text and the texts of the roles. -/
theorem plan_congr {left right : Layout} (hleading : left.leading = right.leading)
    (htext : ∀ role, left.textOf? (.inl role) = right.textOf? (.inl role)) :
    left.plan = right.plan ∧ ∀ role, left.mayFill role = right.mayFill role := by
  have hfill : ∀ role, left.mayFill role = right.mayFill role := by
    intro role
    rw [mayFill, mayFill, hleading, htext]
  have hrole : left.leadingRole? = right.leadingRole? := by
    rw [leadingRole?, leadingRole?, hleading, funext hfill]
  have hvalue : left.value? = right.value? := by
    funext role
    rw [value?, value?, htext, hrole, hleading]
  exact ⟨by rw [plan, plan, hvalue], hfill⟩

@[simp]
theorem plan_rolled (layout : Layout) : layout.rolled.plan = layout.plan := by
  have hleading : layout.rolled.leading = layout.leading := rfl
  exact (plan_congr hleading layout.textOf?_rolled_role).1

/-- Without its names a command is still one, and asks for the same. -/
theorem IsCommand.rolled {layout : Layout} (hcommand : layout.IsCommand) :
    layout.rolled.IsCommand where
  distinct := by
    have htopics : (layout.rolled.chunks.map fun chunk => chunk.keyword.topic) =
        (layout.chunks.filter fun chunk => chunk.keyword.topic.isLeft).map
          fun chunk => chunk.keyword.topic := by
      rw [Layout.rolled, List.map_map]
      apply List.map_congr_left
      intro chunk _
      exact chunk.keyword.topic_spelled
    rw [htopics]
    exact hcommand.distinct.sublist (List.filter_sublist.map _)
  namesFit := by
    intro chunk hmem use htopic
    have hnone := (textOf?_eq_none_iff ..).1 (layout.textOf?_rolled_name use) chunk hmem
    exact absurd htopic hnone
  rolesFit := by
    intro chunk hmem role htopic
    obtain ⟨original, horiginal, rfl⟩ := List.mem_map.1 hmem
    rw [Chunk.spelled, Keyword.topic_spelled] at htopic
    exact hcommand.rolesFit original (List.mem_filter.1 horiginal).1 role htopic
  leadingFits := by
    intro hleading
    obtain ⟨role, hfill⟩ := hcommand.leadingFits hleading
    have hkept : layout.rolled.leading = layout.leading := rfl
    exact ⟨role, by rwa [(plan_congr hkept layout.textOf?_rolled_role).2]⟩
  attacksFit := by
    rw [plan_rolled]
    exact hcommand.attacksFit
  diceFit := by
    rw [plan_rolled]
    exact hcommand.diceFit

end Layout

/-- A name in a command is a name, and its characters stand in the normal form without a keyword. -/
theorem Command.get?_of_parse {input name : Text} {command : Command} {use : NameUse}
    (hok : parse input = .ok command) (hname : command.names.get? use = some name) :
    Names.isName name = true ∧ Quiet name [] ∧ ∀ character ∈ name, Text.Settled character := by
  obtain ⟨-, hcommand, rfl⟩ := (ofNormal_eq_ok_iff ..).1 hok
  have hcut := Layout.isCut_ofText (normalize input)
  have hsource := Layout.source_ofText (normalize input)
  rw [Layout.get?_names, Layout.textOf?] at hname
  obtain ⟨chunk, hfound, rfl⟩ := Option.map_eq_some_iff.1 hname
  have hmem := List.mem_of_find?_eq_some hfound
  have htopic : chunk.keyword.topic = .inr use := by simpa using List.find?_some hfound
  refine ⟨hcommand.namesFit chunk hmem use htopic, hcut.2.alone_of_mem hmem, ?_⟩
  intro character hcharacter
  have hwhole := Layout.mem_source_of_mem_text hmem hcharacter
  rw [hsource] at hwhole
  exact settled_of_mem_normalize hwhole

end Skirmish
