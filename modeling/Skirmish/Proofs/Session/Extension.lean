import Skirmish.Proofs.Session.Replay

/-!
# Loading with something to add

What is typed beside the name of a saved command is put behind its label, with a space that the
reading takes away again.  Both parts are kept as they are exactly when their words stay apart, the
last saved one from the first typed one included.
-/

namespace Skirmish

namespace Command

variable {input : Text} {command : Command}

theorem isLabelWord_of_parse (hok : parse input = .ok command) :
    ∀ word ∈ Text.words command.label, IsLabelWord word := by
  obtain ⟨-, -, rfl⟩ := (ofNormal_eq_ok_iff ..).1 hok
  have hcut := Layout.isCut_ofText (normalize input)
  have hsettled : ∀ character ∈ (Layout.ofText (normalize input)).source,
      Text.Settled character := fun _ hmem => Layout.settled_of_mem_ofText hmem
  rw [Layout.words_label hcut hsettled]
  exact Layout.isLabelWord_of_mem_words hcut hsettled

/-- The words of a label make it again. -/
theorem label_eq_intercalate (hok : parse input = .ok command) :
    command.label = [' '].intercalate (Text.words command.label) := by
  obtain ⟨-, -, rfl⟩ := (ofNormal_eq_ok_iff ..).1 hok
  have hcut := Layout.isCut_ofText (normalize input)
  rw [Layout.words_label hcut fun _ hmem => Layout.settled_of_mem_ofText hmem, Layout.label_eq]

end Command

/-- The words of labels hold no blanks. -/
theorem withoutBlanks_row {words : List Text} (hwords : ∀ word ∈ words, IsLabelWord word) :
    Text.withoutBlanks ([' '].intercalate words) = words.flatten := by
  rw [Text.withoutBlanks_intercalate, List.flatMap_def]
  congr 1
  calc
    words.map Text.withoutBlanks = words.map id := by
      apply List.map_congr_left
      intro word hword
      exact Text.withoutBlanks_eq_self fun character hcharacter =>
        ((hwords word hword).settled character hcharacter).unreserved.1
    _ = words := List.map_id words

/-- Whatever its blanks, a text made of the words of labels has these as its normal form. -/
theorem normalize_eq_flatten {text : Text} {words : List Text}
    (hwords : ∀ word ∈ words, IsLabelWord word)
    (htext : Text.withoutBlanks text = words.flatten) : normalize text = words.flatten := by
  rw [← htext]
  apply normalize_eq_withoutBlanks
  intro character hmem
  rw [htext] at hmem
  obtain ⟨word, hword, hcharacter⟩ := List.mem_flatten.1 hmem
  exact (hwords word hword).settled character hcharacter

namespace Command

variable {first second : Text} {stored typed : Command}

/-- The labels of two commands, one behind the other. -/
theorem join_labels (hstored : parse first = .ok stored) (htyped : parse second = .ok typed)
    (hroll : stored.label ≠ []) :
    (if typed.label = [] then stored.label else stored.label ++ ' ' :: typed.label) =
      [' '].intercalate (Text.words stored.label ++ Text.words typed.label) := by
  have hleft := label_eq_intercalate hstored
  have hright := label_eq_intercalate htyped
  have hne : ∀ {label : Text}, label = [' '].intercalate (Text.words label) → label ≠ [] →
      Text.words label ≠ [] := by
    intro label hlabel hlabelne hnone
    rw [hnone] at hlabel
    exact hlabelne hlabel
  split
  · next hempty =>
    have hnone : Text.words typed.label = [] := by
      rw [hempty]
      rfl
    rw [hnone, List.append_nil, ← hleft]
  · next hsome =>
    rw [Text.intercalate_append (hne hleft hroll) (hne hright hsome), ← hleft, ← hright]

theorem withoutBlanks_label (hok : parse first = .ok stored) :
    Text.withoutBlanks stored.label = (Text.words stored.label).flatten := by
  rw [← withoutBlanks_row (isLabelWord_of_parse hok), ← label_eq_intercalate hok]

theorem normalize_label (hok : parse first = .ok stored) :
    normalize stored.label = (Text.words stored.label).flatten :=
  normalize_eq_flatten (isLabelWord_of_parse hok) (withoutBlanks_label hok)

theorem isLabelWord_of_labels (hstored : parse first = .ok stored)
    (htyped : parse second = .ok typed) :
    ∀ word ∈ Text.words stored.label ++ Text.words typed.label, IsLabelWord word :=
  List.forall_mem_append.2 ⟨isLabelWord_of_parse hstored, isLabelWord_of_parse htyped⟩

theorem normalize_labels (hstored : parse first = .ok stored) (htyped : parse second = .ok typed) :
    normalize (stored.label ++ ' ' :: typed.label) =
      (Text.words stored.label ++ Text.words typed.label).flatten := by
  apply normalize_eq_flatten (isLabelWord_of_labels hstored htyped)
  rw [List.flatten_append, ← withoutBlanks_label hstored, ← withoutBlanks_label htyped,
    Text.withoutBlanks_append]
  rfl

/-- Two labels, one behind the other, read as the label that they make exactly when their words stay
apart. -/
theorem label_of_labels_iff (hstored : parse first = .ok stored) (htyped : parse second = .ok typed)
    (hroll : stored.label ≠ []) :
    (Layout.ofText (normalize (stored.label ++ ' ' :: typed.label))).label =
        (if typed.label = [] then stored.label else stored.label ++ ' ' :: typed.label) ↔
      Text.KeepsApart (stored.label ++ ' ' :: typed.label) := by
  rw [join_labels hstored htyped hroll, normalize_labels hstored htyped, Text.KeepsApart,
    Text.words_append]
  exact Layout.label_ofText_flatten_iff (isLabelWord_of_labels hstored htyped)

/-- Chunks behind chunks stay what they are when the words stay apart. -/
theorem ofText_labels (hstored : parse first = .ok stored) (htyped : parse second = .ok typed)
    (hapart : Text.KeepsApart (stored.label ++ ' ' :: typed.label))
    (hmarked : (Layout.ofText (normalize typed.label)).leading = []) :
    Layout.ofText (normalize (stored.label ++ ' ' :: typed.label)) =
      ⟨(Layout.ofText (normalize stored.label)).leading,
        (Layout.ofText (normalize stored.label)).chunks ++
          (Layout.ofText (normalize typed.label)).chunks⟩ := by
  rw [Text.KeepsApart, Text.words_append] at hapart
  have hleft := Layout.ofText_flatten (isLabelWord_of_parse hstored) hapart.left_of_append
  have hright := Layout.ofText_flatten (isLabelWord_of_parse htyped) hapart.right_of_append
  rw [normalize_label htyped, hright] at hmarked
  rw [normalize_labels hstored htyped, normalize_label hstored, normalize_label htyped, hleft,
    hright, Layout.ofText_flatten (isLabelWord_of_labels hstored htyped) hapart,
    Layout.ofWords_append hmarked]

end Command

namespace Session

variable {σ τ : Type}

/-- What is read has the label of a command that was parsed. -/
theorem exists_parse_of_read {session : Session σ} {input : Text} {command : Command}
    (hok : session.read input = .ok command) :
    ∃ text parsed, Command.parse text = .ok parsed ∧ parsed.label = command.label := by
  obtain ⟨typed, hparse, hexpand, -⟩ := read_cases hok
  rcases expand_cases hexpand with ⟨-, rfl⟩ | ⟨-, saved, again, -, -, hagain, rfl⟩
  · exact ⟨input, command, hparse, rfl⟩
  · exact ⟨_, again, hagain, rfl⟩

/-- Where a name is loaded whose entry is as an executed command has left it, the expanded command's
label is the saved label with the typed one behind it exactly when the words of the two stay apart.
Unless unmarked text was typed, its chunks are then those of the two labels. -/
theorem label_of_expand_iff {session : Session σ} {roller : Roller σ} {input line name : Text}
    {outcome : Outcome} {later : Session τ} {typed expanded : Command}
    (hok : (session.execute roller input).result = .ok outcome)
    (hsave : outcome.command.names.save = some name)
    (huntouched : later.notebook.load? name =
      (session.execute roller input).session.notebook.load? name)
    (htyped : Command.parse line = .ok typed) (hload : typed.names.load = some name)
    (hexpand : later.expand typed = .ok expanded) :
    let together := outcome.command.label ++ ' ' :: typed.label
    (expanded.label = (if typed.label = [] then outcome.command.label else together) ↔
        together.KeepsApart) ∧
      (together.KeepsApart → (Layout.ofText (normalize typed.label)).leading = [] →
        Layout.ofText (normalize together) =
          ⟨(Layout.ofText (normalize outcome.command.label)).leading,
            (Layout.ofText (normalize outcome.command.label)).chunks ++
              (Layout.ofText (normalize typed.label)).chunks⟩) := by
  obtain ⟨hread, hsaved⟩ := execute_saves hok hsave
  obtain ⟨text, stored, hstored, hlabel⟩ := exists_parse_of_read hread
  have hroll : stored.label ≠ [] := by
    have hsome := hasRoll_of_read hread hsave
    rw [hlabel]
    simpa [Command.hasRoll] using hsome
  rcases expand_cases hexpand with ⟨hnone, -⟩ | ⟨other, saved, again, hother, hfound, hagain, rfl⟩
  · rw [hnone] at hload
    cases hload
  · rw [hload, Option.some.injEq] at hother
    rw [← hother, huntouched, hsaved, Option.some.injEq] at hfound
    rw [← hfound] at hagain
    rw [← hlabel] at hagain ⊢
    obtain ⟨-, -, rfl⟩ := (Command.ofNormal_eq_ok_iff ..).1 hagain
    exact ⟨Command.label_of_labels_iff hstored htyped hroll, Command.ofText_labels hstored htyped⟩

/-- Typed damage is put behind a saved armor class, and each stays what it is. -/
theorem label_of_expand_damage :
    let session := Session.new "tester".toList (ScriptedDice.always 10) (.sorted .empty) fun _ => 0
    let step := session.execute ScriptedDice.roller "vs 10 save n".toList
    ∃ outcome typed expanded, step.result = .ok outcome ∧
      Command.parse "dmg 12 load n".toList = .ok typed ∧
      step.session.expand typed = .ok expanded ∧ expanded.label = "vs 10 dmg 12".toList ∧
      Layout.ofText (normalize expanded.label) =
        ⟨[], [⟨.role .target, "10".toList⟩, ⟨.role .damage, "12".toList⟩]⟩ := by
  intro session step
  have hok : step.result = .ok ⟨⟨⟨none, some ⟨10, 0⟩, none, none, ⟨[], [], []⟩⟩,
      ⟨some "n".toList, none, none⟩, "vs 10".toList⟩, some ⟨none, none, 0, none⟩,
      some "n".toList, none, none⟩ := by
    decide +kernel
  have htyped : Command.parse "dmg 12 load n".toList = .ok ⟨⟨none, none,
      some [⟨.plus, .flat 12, []⟩], none, ⟨[], [], []⟩⟩, ⟨none, some "n".toList, none⟩,
      "dmg 12".toList⟩ := by
    decide +kernel
  have hexpand : step.session.expand ⟨⟨none, none, some [⟨.plus, .flat 12, []⟩], none,
      ⟨[], [], []⟩⟩, ⟨none, some "n".toList, none⟩, "dmg 12".toList⟩ = .ok ⟨⟨none, some ⟨10, 0⟩,
      some [⟨.plus, .flat 12, []⟩], none, ⟨[], [], []⟩⟩, ⟨none, some "n".toList, none⟩,
      "vs 10 dmg 12".toList⟩ := by
    decide +kernel
  have hapart : Text.KeepsApart "vs 10 dmg 12".toList := by
    decide +kernel
  obtain ⟨hlabel, hchunks⟩ := label_of_expand_iff hok rfl rfl htyped rfl hexpand
  refine ⟨_, _, _, hok, htyped, hexpand, hlabel.2 hapart, ?_⟩
  exact (hchunks hapart (by decide +kernel)).trans (by decide +kernel)

/-- Typed damage that begins with a sign runs into the saved armor class and is added to it. -/
theorem load_extends_armorClass :
    let session := Session.new "tester".toList (ScriptedDice.always 10) (.sorted .empty) fun _ => 0
    let step := session.execute ScriptedDice.roller "vs 10 save n".toList
    ∃ outcome typed expanded, step.result = .ok outcome ∧
      outcome.command.names.save = some "n".toList ∧
      Command.parse "+5 load n".toList = .ok typed ∧ typed.names.load = some "n".toList ∧
      step.session.expand typed = .ok expanded ∧
      typed.plan.damage = some [⟨.plus, .flat 5, []⟩] ∧
      expanded.plan.target = some ⟨10, 5⟩ ∧ expanded.plan.damage = none ∧
      expanded.label = "vs 10+5".toList ∧
      expanded.label ≠ outcome.command.label ++ ' ' :: typed.label := by
  intro session step
  have hok : step.result = .ok ⟨⟨⟨none, some ⟨10, 0⟩, none, none, ⟨[], [], []⟩⟩,
      ⟨some "n".toList, none, none⟩, "vs 10".toList⟩, some ⟨none, none, 0, none⟩,
      some "n".toList, none, none⟩ := by
    decide +kernel
  have htyped : Command.parse "+5 load n".toList = .ok ⟨⟨none, none, some [⟨.plus, .flat 5, []⟩],
      none, ⟨[], [], []⟩⟩, ⟨none, some "n".toList, none⟩, "+5".toList⟩ := by
    decide +kernel
  have hexpand : step.session.expand ⟨⟨none, none, some [⟨.plus, .flat 5, []⟩], none,
      ⟨[], [], []⟩⟩, ⟨none, some "n".toList, none⟩, "+5".toList⟩ = .ok ⟨⟨none, some ⟨10, 5⟩, none,
      none, ⟨[], [], []⟩⟩, ⟨none, some "n".toList, none⟩, "vs 10+5".toList⟩ := by
    decide +kernel
  exact ⟨_, _, _, hok, rfl, htyped, rfl, hexpand, rfl, rfl, rfl, rfl, by decide⟩

end Session

end Skirmish
