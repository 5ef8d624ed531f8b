import Skirmish.Proofs.Command.Characters
import Skirmish.Proofs.Command.Words

/-!
# Labels as canonical forms

A label reads back as the command that it was made of, less the names, exactly when it makes no
`load`.  When the names of a command stand behind everything that is rolled, no parts meet in its
label that stood apart, so its label always reads back.  Which of its two keywords introduces the
damage makes no difference either, since both meet the same texts.
-/

namespace Skirmish

/-- Leaving out what stands last brings no parts together. -/
theorem SeamFree.filter {text : Text} {chunks : List Chunk} {keep : Chunk → Bool}
    (hfree : SeamFree text chunks)
    (hlast : chunks.Pairwise fun earlier later => keep later = true → keep earlier = true) :
    SeamFree text (chunks.filter keep) := by
  induction chunks generalizing text with
  | nil => trivial
  | cons chunk chunks ih =>
      obtain ⟨hchunk, hrest⟩ := List.pairwise_cons.1 hlast
      by_cases hkeep : keep chunk = true
      · rw [List.filter_cons_of_pos hkeep]
        exact ⟨hfree.1, ih hfree.2 hrest⟩
      · have hnone : chunks.filter keep = [] := by
          rw [List.filter_eq_nil_iff]
          exact fun later hmem hlater => hkeep (hchunk later hmem hlater)
        rw [List.filter_cons_of_neg hkeep, hnone]
        trivial

namespace Layout

variable {layout left right : Layout}

/-- The label is the same after it is read again exactly when it makes no `load`. -/
theorem label_ofText_rolled_iff (hcut : layout.IsCut)
    (hsettled : ∀ character ∈ layout.source, Text.Settled character) :
    (ofText layout.rolled.source).label = layout.label ↔ ¬layout.JoinsLoad := by
  have hplain := chunksPlain_rolled hcut
  have hsource : layout.words.flatten = layout.rolled.source := flatten_wordsFrom hplain
  rw [← hsource, layout.label_eq, label_ofText_flatten_iff (isLabelWord_of_mem_words hcut hsettled),
    words, isChain_wordsFrom_iff hplain, seamFree_iff_joinsLoad hplain.ofRoles, hplain.map_spelled,
    JoinsLoad, Bool.not_eq_true]

/-- Whether the names stand behind everything that is rolled. -/
def NamesLast (layout : Layout) : Prop :=
  layout.chunks.Pairwise fun earlier later =>
    later.keyword.topic.isLeft = true → earlier.keyword.topic.isLeft = true

instance (layout : Layout) : Decidable layout.NamesLast :=
  inferInstanceAs (Decidable (List.Pairwise _ _))

theorem NamesLast.not_joinsLoad (hlast : layout.NamesLast) (hcut : layout.IsCut) :
    ¬layout.JoinsLoad := by
  obtain ⟨⟨-, hquiet⟩, hfree⟩ := isCut_iff.1 hcut
  have hroles : ChunksOfRoles (layout.chunks.filter fun chunk => chunk.keyword.topic.isLeft) := by
    intro chunk hmem
    obtain ⟨hchunk, hrole⟩ := List.mem_filter.1 hmem
    exact ⟨hquiet chunk hchunk, Sum.isLeft_iff.1 hrole⟩
  rw [JoinsLoad, Bool.not_eq_true]
  exact (seamFree_iff_joinsLoad hroles).1 (hfree.filter hlast)

@[simp]
theorem leading_spelled (layout : Layout) : layout.spelled.leading = layout.leading :=
  rfl

@[simp]
theorem textOf?_spelled (layout : Layout) (topic : Role ⊕ NameUse) :
    layout.spelled.textOf? topic = layout.textOf? topic := by
  have htest : (fun chunk : Chunk => decide (chunk.keyword.topic = topic)) ∘ Chunk.spelled =
      fun chunk => decide (chunk.keyword.topic = topic) := by
    funext chunk
    simp [Chunk.spelled]
  rw [textOf?, textOf?, spelled, List.find?_map, htest, Option.map_map]
  rfl

@[simp]
theorem names_spelled (layout : Layout) : layout.spelled.names = layout.names := by
  simp only [names, textOf?_spelled]

@[simp]
theorem plan_spelled (layout : Layout) : layout.spelled.plan = layout.plan :=
  (plan_congr layout.leading_spelled fun role => layout.textOf?_spelled (.inl role)).1

@[simp]
theorem mayFill_spelled (layout : Layout) (role : Role) :
    layout.spelled.mayFill role = layout.mayFill role :=
  (plan_congr layout.leading_spelled fun role => layout.textOf?_spelled (.inl role)).2 role

@[simp]
theorem label_spelled (layout : Layout) : layout.spelled.label = layout.label := by
  have htest : (fun chunk : Chunk => chunk.keyword.topic.isLeft) ∘ Chunk.spelled =
      fun chunk => chunk.keyword.topic.isLeft := by
    funext chunk
    simp [Chunk.spelled]
  have hlabel : Chunk.label ∘ Chunk.spelled = Chunk.label := funext Chunk.label_spelled
  rw [label, label, spelled, List.filter_map, htest, List.map_map, hlabel]

theorem isCut_spelled_iff : layout.spelled.IsCut ↔ layout.IsCut := by
  rw [isCut_iff, isCut_iff, spelled, seamFree_map_spelled, List.forall_mem_map]
  rfl

theorem isPlain_spelled_iff :
    Command.IsPlain layout.spelled.source ↔ Command.IsPlain layout.source := by
  rw [Command.isPlain_source_iff, Command.isPlain_source_iff, spelled, List.forall_mem_map]
  rfl

theorem source_spelled_eq_nil_iff : layout.spelled.source = [] ↔ layout.source = [] := by
  rw [source_eq_nil_iff, source_eq_nil_iff, spelled, List.map_eq_nil_iff]

/-- What holds of the texts under their topics holds in either spelling. -/
theorem forall_mem_spelled_iff (fits : Role ⊕ NameUse → Text → Prop) :
    (∀ chunk ∈ layout.spelled.chunks, fits chunk.keyword.topic chunk.text) ↔
      ∀ chunk ∈ layout.chunks, fits chunk.keyword.topic chunk.text := by
  rw [spelled, List.forall_mem_map]
  simp only [Chunk.spelled, Keyword.topic_spelled]

theorem isCommand_spelled_iff : layout.spelled.IsCommand ↔ layout.IsCommand := by
  have htopics : (layout.spelled.chunks.map fun chunk => chunk.keyword.topic) =
      layout.chunks.map fun chunk => chunk.keyword.topic := by
    rw [spelled, List.map_map]
    exact List.map_congr_left fun chunk _ => chunk.keyword.topic_spelled
  have hnames := layout.forall_mem_spelled_iff fun topic text =>
    ∀ use, topic = .inr use → Names.isName text = true
  have hroles := layout.forall_mem_spelled_iff fun topic text =>
    ∀ role, topic = .inl role → (role.read? text).isSome = true
  constructor
  · rintro ⟨hdistinct, hnamesFit, hrolesFit, hleading, hattacks, hdice⟩
    simp only [htopics, leading_spelled, mayFill_spelled, plan_spelled] at *
    exact ⟨hdistinct, hnames.1 hnamesFit, hroles.1 hrolesFit, hleading, hattacks, hdice⟩
  · rintro ⟨hdistinct, hnamesFit, hrolesFit, hleading, hattacks, hdice⟩
    refine ⟨by rwa [htopics], hnames.2 hnamesFit, hroles.2 hrolesFit, ?_, ?_, ?_⟩
    · simpa only [leading_spelled, mayFill_spelled] using hleading
    · rwa [plan_spelled]
    · rwa [plan_spelled]

/-- Whether two layouts differ only in which keyword introduces the damage. -/
def Respells (left right : Layout) : Prop :=
  left.spelled = right.spelled

instance (left right : Layout) : Decidable (left.Respells right) :=
  inferInstanceAs (Decidable (_ = _))

end Layout

namespace Command

/-- A text with the characters of a command's label, whatever its blanks, reads as a command with
the same plan and label exactly when the label makes no `load`. -/
theorem parse_label_iff {input text : Text} {command : Command}
    (hok : parse input = .ok command) (hroll : command.hasRoll = true)
    (htext : Text.withoutBlanks text = Text.withoutBlanks command.label) :
    (∃ again, parse text = .ok again ∧ again.plan = command.plan ∧ again.label = command.label) ↔
      ¬(Layout.ofText (normalize input)).JoinsLoad := by
  constructor
  · rintro ⟨again, hagain, -, hlabel⟩
    obtain ⟨-, -, rfl⟩ := (ofNormal_eq_ok_iff ..).1 hok
    obtain ⟨-, -, rfl⟩ := (ofNormal_eq_ok_iff ..).1 hagain
    have hsettled : ∀ character ∈ (Layout.ofText (normalize input)).source,
        Text.Settled character := fun _ hmem => Layout.settled_of_mem_ofText hmem
    rw [Layout.normalize_label hsettled htext] at hlabel
    exact (Layout.label_ofText_rolled_iff (Layout.isCut_ofText _) hsettled).1 hlabel
  · intro hjoins
    exact ⟨_, parse_label hok hroll hjoins htext, rfl, rfl⟩

theorem ofNormal_of_respells {text : Text} {command : Command} {respelled : Layout}
    (hok : ofNormal text = .ok command) (hsame : (Layout.ofText text).Respells respelled) :
    ofNormal respelled.source = .ok command := by
  obtain ⟨hne, hcommand, rfl⟩ := (ofNormal_eq_ok_iff ..).1 hok
  have hcut := Layout.isCut_ofText text
  rw [← Layout.source_ofText text] at hne
  generalize Layout.ofText text = layout at *
  rw [Layout.Respells] at hsame
  have hrespelled : Layout.ofText respelled.source = respelled := by
    apply Layout.ofText_source
    rwa [← Layout.isCut_spelled_iff, ← hsame, Layout.isCut_spelled_iff]
  rw [ofNormal_eq_ok_iff, hrespelled]
  refine ⟨?_, ?_, ?_⟩
  · rwa [ne_eq, ← Layout.source_spelled_eq_nil_iff, ← hsame, Layout.source_spelled_eq_nil_iff]
  · rwa [← Layout.isCommand_spelled_iff, ← hsame, Layout.isCommand_spelled_iff]
  · rw [← respelled.plan_spelled, ← respelled.names_spelled, ← respelled.label_spelled, ← hsame,
      Layout.plan_spelled, Layout.names_spelled, Layout.label_spelled]

/-- Which keyword introduces the damage, spacing and letter case make no difference. -/
theorem parse_of_respells {input written : Text} {command : Command} {respelled : Layout}
    (hok : parse input = .ok command)
    (hsame : (Layout.ofText (normalize input)).Respells respelled)
    (hwritten : Text.letters written = respelled.source) : parse written = .ok command := by
  have hplain := isPlain_normalize hok
  rw [← Layout.source_ofText (normalize input), ← Layout.isPlain_spelled_iff, hsame,
    Layout.isPlain_spelled_iff, ← hwritten] at hplain
  rw [parse, normalize_eq_letters (.inr hplain), hwritten]
  exact ofNormal_of_respells hok hsame

/-- The label of a command with its names behind everything that is rolled is a canonical form.  It
reads as the command without the names and gives the same label again; commands of this kind with
one label ask for the same; and inputs that differ in spacing, in letter case or in which keyword
introduces the damage are the same command. -/
theorem parse_label_of_namesLast {input : Text} {command : Command}
    (hok : parse input = .ok command) (hroll : command.hasRoll = true)
    (hlast : (Layout.ofText (normalize input)).NamesLast) :
    parse command.label = .ok ⟨command.plan, Names.empty, command.label⟩ ∧
      (∀ other another, parse other = .ok another → another.hasRoll = true →
        (Layout.ofText (normalize other)).NamesLast → another.label = command.label →
        another.plan = command.plan) ∧
      ∀ respelled written, (Layout.ofText (normalize input)).Respells respelled →
        Text.letters written = respelled.source → parse written = .ok command := by
  have hlabel : ∀ {input command}, parse input = .ok command → command.hasRoll = true →
      (Layout.ofText (normalize input)).NamesLast →
      parse command.label = .ok ⟨command.plan, Names.empty, command.label⟩ := by
    intro input command hok hroll hlast
    exact parse_label hok hroll (hlast.not_joinsLoad (Layout.isCut_ofText _)) rfl
  refine ⟨hlabel hok hroll hlast, ?_, ?_⟩
  · intro other another hother hroll' hlast' hsame
    have hfirst := hlabel hok hroll hlast
    rw [← hsame, hlabel hother hroll' hlast'] at hfirst
    cases another
    cases command
    cases hfirst
    rfl
  · intro respelled written hsame hwritten
    exact parse_of_respells hok hsame hwritten

theorem parse_label_volley :
    let command : Command :=
      ⟨⟨some ⟨2, .normal, "lo".toList, []⟩, none, some [⟨.plus, .dice 1 6, "fi".toList⟩],
        none, ⟨[], [], []⟩⟩, ⟨some "axe".toList, none, none⟩, "2nlo dmg 1d6fi".toList⟩
    parse "2N LO Dealing 1d6fi save Axe".toList = .ok command ∧
      parse "2nlo dmg 1d6fi".toList = .ok ⟨command.plan, Names.empty, command.label⟩ ∧
      parse "2nlo DMG1D6 FI saveaxe".toList = .ok command := by
  intro command
  have hok : parse "2N LO Dealing 1d6fi save Axe".toList = .ok command := by
    decide +kernel
  obtain ⟨hlabel, -, hwritten⟩ := parse_label_of_namesLast hok rfl (by decide +kernel)
  refine ⟨hok, hlabel, hwritten ⟨"2nlo".toList, [⟨.role .damage, "1d6fi".toList⟩,
    ⟨.name .save, "axe".toList⟩]⟩ _ ?_ ?_⟩
  · decide +kernel
  · decide +kernel

end Command

end Skirmish
