import Skirmish.Proofs.Command.Characters
import Skirmish.Proofs.Command.Label
import Skirmish.Proofs.Command.Seams

/-!
# Naming a command

A keyword of saved commands and a name can be written behind every command, but they are not always
read so.  The name is cut where a keyword stands in it, and the keyword is not found at all where
its first letters make another one with the last letters of the command.
-/

namespace Skirmish

theorem Keyword.topic_eq_name_iff {keyword : Keyword} {use : NameUse} :
    keyword.topic = .inr use ↔ keyword = .name use := by
  cases keyword <;> simp [topic]

namespace Layout

variable {layout : Layout} {use : NameUse} {name : Text}

/-- The layout with a name behind everything else. -/
def withName (layout : Layout) (use : NameUse) (name : Text) : Layout :=
  ⟨layout.leading, layout.chunks ++ [⟨.name use, name⟩]⟩

theorem source_withName (layout : Layout) (use : NameUse) (name : Text) :
    (layout.withName use name).source = layout.source ++ (use.word ++ name) := by
  rw [source, withName, List.flatMap_append, List.flatMap_singleton, ← List.append_assoc]
  rfl

/-- A name behind a layout is found when it holds no keyword and nothing meets its keyword. -/
theorem isCut_withName_iff (hcut : layout.IsCut) :
    (layout.withName use name).IsCut ↔
      ¬Meets layout.closing (.name use) ∧ Quiet name [] := by
  obtain ⟨⟨hleading, hchunks⟩, hfree⟩ := isCut_iff.1 hcut
  rw [isCut_iff, withName, seamFree_append_singleton, List.forall_mem_append,
    List.forall_mem_singleton]
  constructor
  · rintro ⟨⟨-, -, hname⟩, -, hmeets⟩
    exact ⟨hmeets, hname⟩
  · rintro ⟨hmeets, hname⟩
    exact ⟨⟨hleading, hchunks, hname⟩, hfree, hmeets⟩

@[simp]
theorem rolled_withName (layout : Layout) (use : NameUse) (name : Text) :
    (layout.withName use name).rolled = layout.rolled := by
  rw [rolled, withName, List.filter_append]
  simp [rolled, Keyword.topic]

/-- The name is heard only where the layout says nothing about its use. -/
theorem textOf?_withName (layout : Layout) (use : NameUse) (name : Text)
    (topic : Role ⊕ NameUse) :
    (layout.withName use name).textOf? topic =
      (layout.textOf? topic).or (if topic = .inr use then some name else none) := by
  rw [textOf?, textOf?, withName, List.find?_append, Option.map_or]
  congr 1
  by_cases htopic : topic = .inr use
  · simp [htopic, Keyword.topic]
  · simp [htopic, Ne.symm htopic, Keyword.topic]

theorem plan_withName (layout : Layout) (use : NameUse) (name : Text) :
    (layout.withName use name).plan = layout.plan := by
  rw [← plan_rolled, rolled_withName, plan_rolled]

theorem label_withName (layout : Layout) (use : NameUse) (name : Text) :
    (layout.withName use name).label = layout.label := by
  rw [← label_rolled, rolled_withName, label_rolled]

theorem textOf?_of_names_eq_empty (hnames : layout.names = Names.empty) (use : NameUse) :
    layout.textOf? (.inr use) = none := by
  rw [← get?_names, hnames, Names.get?_empty]

theorem names_withName (hnames : layout.names = Names.empty) :
    (layout.withName use name).names = Names.empty.put use name := by
  apply Names.ext_get?
  intro other
  rw [get?_names, textOf?_withName, textOf?_of_names_eq_empty hnames, Option.none_or,
    Names.get?_put, Names.get?_empty]
  simp only [Sum.inr.injEq, eq_comm]

theorem IsCommand.withName (hcommand : layout.IsCommand) (hnames : layout.names = Names.empty)
    (hname : Names.isName name = true) : (layout.withName use name).IsCommand where
  distinct := by
    rw [Layout.withName, List.map_append, List.map_singleton, List.nodup_append]
    refine ⟨hcommand.distinct, List.nodup_cons.2 ⟨List.not_mem_nil, List.nodup_nil⟩, ?_⟩
    rintro topic hmem other hother rfl
    obtain ⟨chunk, hchunk, htopic⟩ := List.mem_map.1 hmem
    rw [List.mem_singleton.1 hother] at htopic
    have hnone := textOf?_of_names_eq_empty hnames use
    exact (textOf?_eq_none_iff ..).1 hnone chunk hchunk htopic
  namesFit := by
    rw [Layout.withName, List.forall_mem_append, List.forall_mem_singleton]
    exact ⟨hcommand.namesFit, fun other _ => hname⟩
  rolesFit := by
    rw [Layout.withName, List.forall_mem_append, List.forall_mem_singleton]
    refine ⟨hcommand.rolesFit, ?_⟩
    intro role htopic
    cases htopic
  leadingFits := by
    intro hleading
    obtain ⟨role, hfill⟩ := hcommand.leadingFits hleading
    have hroles : ∀ role, (layout.withName use name).textOf? (.inl role) =
        layout.textOf? (.inl role) := by
      intro role
      simp [textOf?_withName]
    have hkept : (layout.withName use name).leading = layout.leading := rfl
    exact ⟨role, by rwa [(plan_congr hkept hroles).2]⟩
  attacksFit := by
    rw [plan_withName]
    exact hcommand.attacksFit
  diceFit := by
    rw [plan_withName]
    exact hcommand.diceFit

theorem length_source_le_of_mem {chunk : Chunk} (hmem : chunk ∈ layout.chunks) :
    chunk.source.length ≤ layout.source.length := by
  have hpart : chunk.source <:+: layout.chunks.flatMap Chunk.source := by
    obtain ⟨front, back, hsplit⟩ := List.append_of_mem hmem
    rw [hsplit, List.flatMap_append, List.flatMap_cons]
    exact ⟨_, _, List.append_assoc ..⟩
  have hlength := hpart.length_le
  rw [source, List.length_append]
  omega

/-- Where the text that stands last meets the keyword of a name, the name is not found whole. -/
theorem text_ne_of_meets {text : Text} {chunks : List Chunk} (htext : Quiet text [])
    (hquiet : ∀ chunk ∈ chunks, Quiet chunk.text []) (hfree : SeamFree text chunks)
    (hnames : ∀ chunk ∈ chunks, chunk.keyword.topic ≠ .inr use)
    (hmeets : Meets (Skirmish.closing text chunks) (.name use)) :
    ∀ chunk ∈ (ofText (text ++ (chunks.flatMap Chunk.source ++ (use.word ++ name)))).chunks,
      chunk.keyword.topic = .inr use → chunk.text ≠ name := by
  induction chunks generalizing text with
  | nil =>
      obtain ⟨ending, hmem, start, rfl⟩ := meets_iff.1 hmeets
      obtain ⟨made, remaining, hseam⟩ := Keyword.exists_seam hmem
      have hfound := hseam.append_assoc start name
      rw [Keyword.word_name] at hfound
      rw [List.flatMap_nil, List.nil_append, hfound, ofText_word (htext.before_seam hseam name)]
      intro chunk hchunk htopic hwhole
      have hkeyword := Keyword.topic_eq_name_iff.1 htopic
      rcases List.mem_cons.1 hchunk with rfl | hrest
      · exact hseam.other hkeyword
      · -- What is left of the keyword is too short for the keyword to be found before the name.
        have hlength := length_source_le_of_mem hrest
        have hshorter := hseam.shorter
        rw [source_ofText, Chunk.source, hkeyword, hwhole, List.length_append, List.length_append]
          at hlength
        omega
  | cons chunk chunks ih =>
      obtain ⟨hchunk, hrest⟩ := List.forall_mem_cons.1 hquiet
      obtain ⟨hkeyword, hothers⟩ := List.forall_mem_cons.1 hnames
      rw [List.flatMap_cons, Chunk.source, List.append_assoc, List.append_assoc,
        ofText_word ((Quiet.before_word_iff _).2 ⟨htext, hfree.1⟩)]
      intro found hmem hname
      rcases List.mem_cons.1 hmem with rfl | hbehind
      · exact absurd hname hkeyword
      · exact ih hchunk hrest hfree.2 hothers hmeets found hbehind hname

end Layout

namespace Command

theorem normalize_withName {input name : Text} {command : Command}
    (hok : parse input = .ok command) (use : NameUse) (hname : Names.isName name = true) :
    normalize (input ++ ' ' :: use.word ++ ' ' :: name) =
      ((Layout.ofText (normalize input)).withName use name).source := by
  have hplain : IsPlain (use.word ++ name) :=
    isPlain_append.2 ⟨isPlain_word (.name use), isPlain_of_isName hname⟩
  have hself : Text.letters (use.word ++ name) = use.word ++ name :=
    Text.letters_settled fun character hmem => settled_of_isCharacter (hplain character hmem)
  have hletters : Text.letters (input ++ ' ' :: use.word ++ ' ' :: name) =
      normalize input ++ (use.word ++ name) := by
    calc
      Text.letters (input ++ ' ' :: use.word ++ ' ' :: name) =
          Text.letters input ++ (Text.letters use.word ++ Text.letters name) := by
        rw [List.append_assoc, Text.letters_append, Text.letters_append]
        rfl
      _ = normalize input ++ (use.word ++ name) := by
        rw [← Text.letters_append, hself, letters_of_parse hok]
  rw [Layout.source_withName, Layout.source_ofText, ← hletters]
  apply normalize_eq_letters
  right
  rw [hletters]
  exact isPlain_append.2 ⟨isPlain_normalize hok, hplain⟩

/-- A name behind a command without one is read whole, and changes nothing else, exactly when no
keyword stands in it and the command does not end in letters that make another keyword with those
that the name is introduced by. -/
theorem parse_withName_iff {input name : Text} {command : Command}
    (hok : parse input = .ok command) (hnames : command.names = Names.empty) (use : NameUse)
    (hname : Names.isName name = true) :
    parse (input ++ ' ' :: use.word ++ ' ' :: name) =
        .ok ⟨command.plan, Names.empty.put use name, command.label⟩ ↔
      ¬Meets (Layout.ofText (normalize input)).closing (.name use) ∧
        ∀ keyword ∈ Keyword.all, ¬keyword.word <:+: name := by
  have hnormal := normalize_withName hok use hname
  obtain ⟨-, hcommand, rfl⟩ := (ofNormal_eq_ok_iff ..).1 hok
  have hcut := Layout.isCut_ofText (normalize input)
  obtain ⟨⟨hleading, hquiet⟩, hfree⟩ := Layout.isCut_iff.1 hcut
  rw [← Quiet.alone_iff_wordless]
  generalize Layout.ofText (normalize input) = layout at *
  constructor
  · intro hparse
    have hgiven : (Names.empty.put use name).get? use = some name := by
      rw [Names.get?_put, if_pos rfl]
    refine ⟨?_, (get?_of_parse hparse hgiven).2.1⟩
    intro hmeets
    rw [parse, hnormal] at hparse
    obtain ⟨-, -, hsame⟩ := (ofNormal_eq_ok_iff ..).1 hparse
    have hheard : Names.empty.put use name =
        (Layout.ofText (layout.withName use name).source).names := congrArg names hsame
    rw [hheard, Layout.get?_names, Layout.textOf?, Layout.source_withName, Layout.source,
      List.append_assoc] at hgiven
    obtain ⟨chunk, hfound, htext⟩ := Option.map_eq_some_iff.1 hgiven
    have htopic : chunk.keyword.topic = .inr use := by simpa using List.find?_some hfound
    have hothers := (Layout.textOf?_eq_none_iff ..).1 (Layout.textOf?_of_names_eq_empty hnames use)
    exact Layout.text_ne_of_meets hleading hquiet hfree hothers hmeets chunk
      (List.mem_of_find?_eq_some hfound) htopic htext
  · intro hapart
    have hsource : (layout.withName use name).source ≠ [] := by
      rw [Layout.source_withName]
      simp [show use.word ≠ [] from (Keyword.name use).word_ne_nil]
    rw [parse, hnormal, ofNormal_eq_ok_iff,
      Layout.ofText_source ((Layout.isCut_withName_iff hcut).2 hapart), Layout.plan_withName,
      Layout.names_withName hnames, Layout.label_withName]
    exact ⟨hsource, hcommand.withName hnames hname, rfl⟩

theorem parse_withName_swing :
    ∃ command, parse "atk 2n vs 14".toList = .ok command ∧
      parse "atk 2n vs 14 save swing-2".toList =
        .ok ⟨command.plan, ⟨some "swing-2".toList, none, none⟩, command.label⟩ := by
  have hok : parse "atk 2n vs 14".toList = .ok ⟨⟨some ⟨2, .normal, [], []⟩, some ⟨14, 0⟩,
      none, none, ⟨[], [], []⟩⟩, Names.empty, "atk 2n vs 14".toList⟩ := by
    decide +kernel
  exact ⟨_, hok, (parse_withName_iff hok rfl .save (by decide)).2
    ⟨by decide +kernel, by decide +kernel⟩⟩

/-- A name that holds the keyword `hp` gives hit points. -/
theorem parse_name_cut :
    (∃ command, parse "1n".toList = .ok command ∧ command.names = Names.empty) ∧
      Names.isName "xhp10".toList = true ∧
      parse "1n save xhp10".toList = .ok ⟨⟨some ⟨1, .normal, [], []⟩, none, none, some 10,
        ⟨[], [], []⟩⟩, ⟨some "x".toList, none, none⟩, "1n hp 10".toList⟩ := by
  refine ⟨⟨⟨⟨some ⟨1, .normal, [], []⟩, none, none, none, ⟨[], [], []⟩⟩, Names.empty,
    "1n".toList⟩, ?_, rfl⟩, ?_, ?_⟩
  · decide +kernel
  · decide
  · decide +kernel

end Command

end Skirmish
