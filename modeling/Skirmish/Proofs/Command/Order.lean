import Skirmish.Proofs.Command.Reread

/-!
# The order of chunks

What a command rolls is said by chunks whose order is free but for one accident of writing without
blanks: a text that ends in `loa` right before a keyword of damage makes the keyword `load`.  In
every other order the same chunks make the same plan, and each role holds what its own chunk says.
-/

namespace Skirmish

/-- Whether chunks say what to roll: about distinct roles, with texts in small letters and without
blanks or keywords that fit their roles, and within the limits of a command. -/
structure FormRoll (chunks : List Chunk) : Prop where
  distinct : (chunks.map fun chunk => chunk.keyword.topic).Nodup
  roles : ∀ chunk ∈ chunks, ∃ role ∈ Role.all,
    chunk.keyword.topic = .inl role ∧ (role.read? chunk.text).isSome
  normal : ∀ chunk ∈ chunks, normalize chunk.text = chunk.text
  wordless : ∀ chunk ∈ chunks, ∀ keyword ∈ Keyword.all, ¬keyword.word <:+: chunk.text
  attacksFit : ∀ roll, (Layout.mk [] chunks).plan.attack = some roll →
    1 ≤ roll.count ∧ roll.count ≤ maxAttacks
  diceFit : (Layout.mk [] chunks).plan.maxDice ≤ maxDicePerCommand

namespace Layout

variable {left right : List Chunk}

theorem textOf?_perm (hperm : left.Perm right)
    (hdistinct : (left.map fun chunk => chunk.keyword.topic).Nodup) (topic : Role ⊕ NameUse) :
    (Layout.mk [] left).textOf? topic = (Layout.mk [] right).textOf? topic := by
  simp only [textOf?, Keyed.find?_perm hperm hdistinct topic]

/-- The plan of distinct chunks does not depend on their order. -/
theorem plan_perm (hperm : left.Perm right)
    (hdistinct : (left.map fun chunk => chunk.keyword.topic).Nodup) :
    (Layout.mk [] left).plan = (Layout.mk [] right).plan := by
  have hleading : (Layout.mk [] left).leading = (Layout.mk [] right).leading := rfl
  exact (plan_congr hleading fun role => textOf?_perm hperm hdistinct (.inl role)).1

end Layout

namespace FormRoll

variable {chunks order : List Chunk}

theorem perm (hroll : FormRoll chunks) (horder : order.Perm chunks) : FormRoll order := by
  have hdistinct : (order.map fun chunk => chunk.keyword.topic).Nodup :=
    (horder.map _).nodup_iff.2 hroll.distinct
  have hplan := Layout.plan_perm horder hdistinct
  exact
    { distinct := hdistinct
      roles := fun chunk hmem => hroll.roles chunk (horder.mem_iff.1 hmem)
      normal := fun chunk hmem => hroll.normal chunk (horder.mem_iff.1 hmem)
      wordless := fun chunk hmem => hroll.wordless chunk (horder.mem_iff.1 hmem)
      attacksFit := by
        rw [hplan]
        exact hroll.attacksFit
      diceFit := by
        rw [hplan]
        exact hroll.diceFit }

theorem chunksOfRoles (hroll : FormRoll chunks) : ChunksOfRoles chunks := by
  intro chunk hmem
  obtain ⟨role, -, htopic, -⟩ := hroll.roles chunk hmem
  exact ⟨Quiet.alone_iff_wordless.2 (hroll.wordless chunk hmem), role, htopic⟩

theorem topic_ne_name (hroll : FormRoll chunks) {chunk : Chunk} (hmem : chunk ∈ chunks)
    (use : NameUse) : chunk.keyword.topic ≠ .inr use := by
  obtain ⟨role, -, hrole, -⟩ := hroll.roles chunk hmem
  intro hname
  rw [hrole] at hname
  cases hname

theorem isCommand (hroll : FormRoll chunks) : (Layout.mk [] chunks).IsCommand where
  distinct := hroll.distinct
  namesFit := fun chunk hmem use hname => absurd hname (hroll.topic_ne_name hmem use)
  rolesFit := by
    intro chunk hmem role htopic
    obtain ⟨other, -, hother, hread⟩ := hroll.roles chunk hmem
    rw [htopic] at hother
    cases hother
    exact hread
  leadingFits := fun hleading => absurd rfl hleading
  attacksFit := hroll.attacksFit
  diceFit := hroll.diceFit

theorem names_eq_empty (hroll : FormRoll chunks) : (Layout.mk [] chunks).names = Names.empty := by
  apply Names.ext_get?
  intro use
  rw [Layout.get?_names, Names.get?_empty, Layout.textOf?_eq_none_iff]
  intro chunk hmem
  exact hroll.topic_ne_name hmem use

theorem settled_of_mem_source (hroll : FormRoll chunks) {character : Char}
    (hmem : character ∈ chunks.flatMap Chunk.source) : Text.Settled character := by
  obtain ⟨chunk, hchunk, hsource⟩ := List.mem_flatMap.1 hmem
  rcases List.mem_append.1 hsource with hword | htext
  · exact Keyword.settled_of_mem_word hword
  · rw [← hroll.normal chunk hchunk] at htext
    exact settled_of_mem_normalize htext

/-- Whatever its blanks, a text that writes the chunks has their source as its normal form. -/
theorem normalize_eq_source (hroll : FormRoll chunks) {written : Text}
    (hwritten : Text.withoutBlanks written = chunks.flatMap Chunk.source) :
    normalize written = (Layout.mk [] chunks).source := by
  have hsettled : ∀ character ∈ Text.withoutBlanks written, Text.Settled character := by
    intro character hmem
    rw [hwritten] at hmem
    exact hroll.settled_of_mem_source hmem
  rw [normalize_eq_withoutBlanks hsettled, hwritten]
  rfl

theorem map_spelled_eq_rolled (hroll : FormRoll chunks) :
    chunks.map Chunk.spelled = (Layout.mk [] chunks).rolled.chunks := by
  have hroles : ∀ chunk ∈ (Layout.mk [] chunks).chunks, chunk.keyword.topic.isLeft = true := by
    intro chunk hmem
    obtain ⟨role, -, hrole, -⟩ := hroll.roles chunk hmem
    rw [hrole]
    rfl
  rw [Layout.rolled_eq_spelled hroles, Layout.spelled]

end FormRoll

namespace Layout

variable {chunks : List Chunk}

/-- Chunks that form a roll are found as they were written, unless they make `load`. -/
theorem ofText_of_formRoll (hroll : FormRoll chunks) (hjoins : ¬(Layout.mk [] chunks).JoinsLoad) :
    ofText (Layout.mk [] chunks).source = Layout.mk [] chunks := by
  rw [JoinsLoad, ← hroll.map_spelled_eq_rolled, Bool.not_eq_true] at hjoins
  obtain ⟨hleading, hchunks⟩ :=
    quiet_of_not_joinsLoad (Quiet.nil []) hroll.chunksOfRoles hjoins
  exact ofText_quiet hleading hchunks

/-- If they make `load`, a name to load is found. -/
theorem names_ne_empty_of_joinsLoad (hroll : FormRoll chunks)
    (hjoins : (Layout.mk [] chunks).JoinsLoad) :
    (ofText (Layout.mk [] chunks).source).names ≠ Names.empty := by
  rw [JoinsLoad, ← hroll.map_spelled_eq_rolled] at hjoins
  obtain ⟨chunk, hmem, hkeyword⟩ :=
    load_found_of_joinsLoad (Quiet.nil []) hroll.chunksOfRoles hjoins
  intro hnames
  have hnone : (ofText (Layout.mk [] chunks).source).textOf? (.inr .load) = none := by
    rw [← get?_names, hnames, Names.get?_empty]
  apply (textOf?_eq_none_iff ..).1 hnone chunk hmem
  rw [hkeyword]
  rfl

/-- Each role holds what its own chunk says and the other roles hold nothing. -/
theorem value?_plan_of_formRoll (hroll : FormRoll chunks) (role : Role) :
    (∀ chunk ∈ chunks, chunk.keyword.topic = .inl role →
      (Layout.mk [] chunks).plan.value? role = role.read? chunk.text) ∧
    ((∀ chunk ∈ chunks, chunk.keyword.topic ≠ .inl role) →
      (Layout.mk [] chunks).plan.value? role = none) := by
  rw [value?_plan, value?]
  constructor
  · intro chunk hmem htopic
    rw [← htopic, hroll.isCommand.textOf?_topic hmem]
  · intro hother
    have hleading : (Layout.mk [] chunks).leadingRole? = none := rfl
    rw [(textOf?_eq_none_iff ..).2 hother]
    simp [hleading]

end Layout

namespace Command

variable {chunks order : List Chunk} {written : Text}

theorem parse_of_not_joinsLoad (hroll : FormRoll chunks) (hne : chunks ≠ [])
    (hwritten : Text.withoutBlanks written = chunks.flatMap Chunk.source)
    (hjoins : ¬(Layout.mk [] chunks).JoinsLoad) :
    parse written =
      .ok ⟨(Layout.mk [] chunks).plan, Names.empty, (Layout.mk [] chunks).label⟩ := by
  rw [parse, hroll.normalize_eq_source hwritten, ofNormal_eq_ok_iff,
    Layout.ofText_of_formRoll hroll hjoins, hroll.names_eq_empty]
  refine ⟨?_, hroll.isCommand, rfl⟩
  intro hsource
  obtain ⟨chunk, hmem⟩ := List.exists_mem_of_ne_nil chunks hne
  have hnil := List.flatMap_eq_nil_iff.1 hsource chunk hmem
  exact chunk.keyword.word_ne_nil (List.append_eq_nil_iff.1 hnil).1

/-- Chunks that form a roll, written in any order and with any blanks, read as the plan in which
each role holds what its own chunk says, with two exceptions: no chunks at all are no command, and a
text that ends in `loa` right before the damage makes `load`. -/
theorem parse_order_iff (hroll : FormRoll chunks) (horder : order.Perm chunks)
    (hwritten : Text.withoutBlanks written = order.flatMap Chunk.source) :
    ((∃ command, parse written = .ok command ∧ command.plan = (Layout.mk [] chunks).plan ∧
        command.names = Names.empty) ↔ chunks ≠ [] ∧ ¬(Layout.mk [] order).JoinsLoad) ∧
      ∀ role,
        (∀ chunk ∈ chunks, chunk.keyword.topic = .inl role →
          (Layout.mk [] chunks).plan.value? role = role.read? chunk.text) ∧
        ((∀ chunk ∈ chunks, chunk.keyword.topic ≠ .inl role) →
          (Layout.mk [] chunks).plan.value? role = none) := by
  have hordered := hroll.perm horder
  refine ⟨?_, Layout.value?_plan_of_formRoll hroll⟩
  constructor
  · rintro ⟨command, hok, -, hnames⟩
    rw [parse, hordered.normalize_eq_source hwritten] at hok
    obtain ⟨hne, -, rfl⟩ := (ofNormal_eq_ok_iff ..).1 hok
    constructor
    · rintro rfl
      rw [horder.eq_nil] at hne
      exact hne rfl
    · intro hjoins
      exact Layout.names_ne_empty_of_joinsLoad hordered hjoins hnames
  · rintro ⟨hne, hjoins⟩
    have hne' : order ≠ [] := fun hnil => hne (hnil ▸ horder).symm.eq_nil
    refine ⟨_, parse_of_not_joinsLoad hordered hne' hwritten hjoins, ?_, rfl⟩
    exact Layout.plan_perm horder hordered.distinct

/-- The attacks keep the type `loa` and the damage apart. -/
theorem parse_order_apart :
    let chunks : List Chunk :=
      [⟨.dealing, "1d6fi".toList⟩, ⟨.role .resisted, "loa".toList⟩, ⟨.role .attack, "2n".toList⟩]
    FormRoll chunks ∧ ∃ command, parse "res loa  atk 2n dealing 1d6fi".toList = .ok command ∧
      command.plan = (Layout.mk [] chunks).plan ∧
      command.plan.value? .damage = some (.damage [⟨.plus, .dice 1 6, "fi".toList⟩]) := by
  intro chunks
  have hattack : (Layout.mk [] chunks).plan.attack = some ⟨2, .normal, [], []⟩ := by
    decide +kernel
  have hroll : FormRoll chunks := by
    refine ⟨by decide +kernel, by decide +kernel, by decide +kernel, by decide +kernel, ?_,
      by decide +kernel⟩
    intro roll hfound
    rw [hattack] at hfound
    cases hfound
    decide
  have horder : List.Perm [⟨.role .resisted, "loa".toList⟩, ⟨.role .attack, "2n".toList⟩,
      ⟨.dealing, "1d6fi".toList⟩] chunks := by
    decide +kernel
  have hwritten : Text.withoutBlanks "res loa  atk 2n dealing 1d6fi".toList =
      ([⟨.role .resisted, "loa".toList⟩, ⟨.role .attack, "2n".toList⟩,
        ⟨.dealing, "1d6fi".toList⟩] : List Chunk).flatMap Chunk.source := by
    decide +kernel
  obtain ⟨hread, hvalue⟩ := parse_order_iff hroll horder hwritten
  obtain ⟨command, hok, hplan, -⟩ := hread.2 ⟨by decide, by decide +kernel⟩
  refine ⟨hroll, command, hok, hplan, ?_⟩
  rw [hplan, (hvalue .damage).1 ⟨.dealing, "1d6fi".toList⟩ (by decide) rfl]
  decide +kernel

/-- In one order the type `loa` and the damage make `load`, which leaves nothing to resist. -/
theorem parse_order_makes_load :
    let chunks : List Chunk := [⟨.role .resisted, "loa".toList⟩, ⟨.role .damage, "5".toList⟩]
    FormRoll chunks ∧
      (∃ command, parse "dmg 5 res loa".toList = .ok command ∧
        command.plan = (Layout.mk [] chunks).plan) ∧
      parse "res loa dmg 5".toList = .error (.invalidText .resisted []) := by
  intro chunks
  have hattack : (Layout.mk [] chunks).plan.attack = none := by
    decide +kernel
  have hroll : FormRoll chunks := by
    refine ⟨by decide +kernel, by decide +kernel, by decide +kernel, by decide +kernel, ?_,
      by decide +kernel⟩
    intro roll hfound
    rw [hattack] at hfound
    cases hfound
  refine ⟨hroll, ⟨⟨(Layout.mk [] chunks).plan, Names.empty, "dmg 5 res loa".toList⟩, ?_, rfl⟩, ?_⟩
  · decide +kernel
  · decide +kernel

end Command

end Skirmish
