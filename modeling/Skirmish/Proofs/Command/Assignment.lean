import Mathlib.Control.Monad.Basic
import Skirmish.Proofs.Command.Values
import Skirmish.Proofs.Keyed

/-!
# Reading a layout without regard to order

A command is read chunk by chunk, and text without a keyword may have to wait for the keywords.  The
result does not show this: every keyword's topic gets what its own text says, and the unmarked text
goes to the first role, in the order of assignment, that accepts it and has no keyword anywhere.
-/

namespace Skirmish

namespace Layout

/-- The text that the keyword of a topic owns. -/
def textOf? (layout : Layout) (topic : Role ⊕ NameUse) : Option Text :=
  (layout.chunks.find? fun chunk => chunk.keyword.topic = topic).map Chunk.text

/-- Whether the unmarked text may be the value of a role: no keyword speaks of the role, and the
text says something in it. -/
def mayFill (layout : Layout) (role : Role) : Bool :=
  (layout.textOf? (.inl role)).isNone && (role.read? layout.leading).any Reading.isSubstantial

/-- The role that the unmarked text goes to. -/
def leadingRole? (layout : Layout) : Option Role :=
  if layout.leading.isEmpty then none else Role.all.find? layout.mayFill

/-- The value of a role: what its keyword's text says, or else what the unmarked text says, if it
goes to this role. -/
def value? (layout : Layout) (role : Role) : Option Reading :=
  match layout.textOf? (.inl role) with
  | some text => role.read? text
  | none => if layout.leadingRole? = some role then role.read? layout.leading else none

/-- The plan with the values of the layout. -/
def plan (layout : Layout) : Plan :=
  (Role.all.filterMap layout.value?).foldl Plan.assign Plan.empty

/-- The names that the layout gives. -/
def names (layout : Layout) : Names :=
  ⟨layout.textOf? (.inr .save), layout.textOf? (.inr .load), layout.textOf? (.inr .delete)⟩

/-- The layouts that are commands. -/
structure IsCommand (layout : Layout) : Prop where
  /-- No role and no use of a name is given twice. -/
  distinct : (layout.chunks.map fun chunk => chunk.keyword.topic).Nodup
  /-- The texts of the name keywords are names. -/
  namesFit : ∀ chunk ∈ layout.chunks, ∀ use, chunk.keyword.topic = .inr use →
    Names.isName chunk.text
  /-- The text of a role keyword has a value in the role. -/
  rolesFit : ∀ chunk ∈ layout.chunks, ∀ role, chunk.keyword.topic = .inl role →
    (role.read? chunk.text).isSome
  /-- Unmarked text says something in a role without a keyword. -/
  leadingFits : layout.leading ≠ [] → ∃ role, layout.mayFill role
  /-- The attacks keep to the limit. -/
  attacksFit : ∀ roll, layout.plan.attack = some roll → 1 ≤ roll.count ∧ roll.count ≤ maxAttacks
  /-- The dice keep to the limit. -/
  diceFit : layout.plan.maxDice ≤ maxDicePerCommand

/-- With distinct topics, the text of a topic is that of its only chunk. -/
theorem IsCommand.textOf?_topic {layout : Layout} (hcommand : layout.IsCommand) {chunk : Chunk}
    (hmem : chunk ∈ layout.chunks) :
    layout.textOf? chunk.keyword.topic = some chunk.text := by
  rw [textOf?, Keyed.find?_eq_some hcommand.distinct hmem (by simp), Option.map_some]

/-- What the layout says about a topic. -/
def content? (layout : Layout) : Role ⊕ NameUse → Option (Reading ⊕ Text)
  | .inl role => (layout.value? role).map .inl
  | .inr use => (layout.textOf? (.inr use)).map .inr

end Layout

/-- What chunks say about a topic. -/
def Chunk.said? (chunks : List Chunk) (topic : Role ⊕ NameUse) : Option (Reading ⊕ Text) :=
  (chunks.find? fun chunk => chunk.keyword.topic = topic).bind Chunk.content?

theorem Chunk.said?_cons (chunk : Chunk) (chunks : List Chunk) (topic : Role ⊕ NameUse) :
    said? (chunk :: chunks) topic =
      if topic = chunk.keyword.topic then chunk.content? else said? chunks topic := by
  simp only [said?, List.find?_cons]
  by_cases heq : topic = chunk.keyword.topic
  · simp [heq]
  · simp [heq, Ne.symm heq]

theorem Chunk.said?_eq_none {chunks : List Chunk} {topic : Role ⊕ NameUse}
    (hnew : ∀ chunk ∈ chunks, chunk.keyword.topic ≠ topic) : said? chunks topic = none := by
  have hnone : (chunks.find? fun chunk => chunk.keyword.topic = topic) = none := by
    simpa using hnew
  simp [said?, hnone]

namespace Draft

/-- Whether chunks can be taken in: their topics are new and distinct and their texts fit. -/
def Admits (draft : Draft) (chunks : List Chunk) : Prop :=
  (chunks.map fun chunk => chunk.keyword.topic).Nodup ∧
    ∀ chunk ∈ chunks, draft.content? chunk.keyword.topic = none ∧ chunk.content?.isSome

theorem admits_nil (draft : Draft) : draft.Admits [] := by
  simp [Admits]

/-- After the first chunk the others are admitted as before. -/
theorem admits_cons_iff {draft middle : Draft} {chunk : Chunk} {chunks : List Chunk}
    (hchunk : draft.addChunk chunk = .ok middle) :
    draft.Admits (chunk :: chunks) ↔ middle.Admits chunks := by
  obtain ⟨hopen, hfits, hmiddle⟩ := content?_of_addChunk hchunk
  have hnone : ∀ topic, middle.content? topic = none ↔
      topic ≠ chunk.keyword.topic ∧ draft.content? topic = none := by
    intro topic
    rw [hmiddle]
    by_cases heq : topic = chunk.keyword.topic
    · simp [heq, Option.isSome_iff_ne_none.1 hfits]
    · simp [heq]
  constructor
  · rintro ⟨hdistinct, heach⟩
    obtain ⟨hhead, htail⟩ := List.nodup_cons.1 hdistinct
    refine ⟨htail, ?_⟩
    intro other hother
    obtain ⟨hfree, hfit⟩ := heach other (List.mem_cons_of_mem _ hother)
    have hne : other.keyword.topic ≠ chunk.keyword.topic := by
      intro heq
      exact hhead (List.mem_map.2 ⟨other, hother, heq⟩)
    exact ⟨(hnone _).2 ⟨hne, hfree⟩, hfit⟩
  · rintro ⟨hdistinct, heach⟩
    have hhead : chunk.keyword.topic ∉ chunks.map fun chunk => chunk.keyword.topic := by
      intro hmem
      obtain ⟨other, hother, heq⟩ := List.mem_map.1 hmem
      exact ((hnone _).1 (heach other hother).1).1 heq
    refine ⟨List.nodup_cons.2 ⟨hhead, hdistinct⟩, ?_⟩
    intro other hother
    rcases List.mem_cons.1 hother with rfl | hrest
    · exact ⟨hopen, hfits⟩
    · obtain ⟨hfree, hfit⟩ := heach other hrest
      exact ⟨((hnone _).1 hfree).2, hfit⟩

theorem exists_addChunks {draft : Draft} {chunks : List Chunk} (hadmits : draft.Admits chunks) :
    ∃ after, draft.addChunks chunks = .ok after := by
  induction chunks generalizing draft with
  | nil => exact ⟨draft, rfl⟩
  | cons chunk chunks ih =>
      obtain ⟨hopen, hfits⟩ := hadmits.2 chunk List.mem_cons_self
      obtain ⟨middle, hchunk⟩ := exists_addChunk hopen hfits
      obtain ⟨after, hchunks⟩ := ih ((admits_cons_iff hchunk).1 hadmits)
      exact ⟨after, by simp [addChunks, hchunk, hchunks]⟩

/-- After chunks are taken in, each topic holds what its chunk says, or what it held before. -/
theorem content?_of_addChunks {draft after : Draft} {chunks : List Chunk}
    (hok : draft.addChunks chunks = .ok after) :
    draft.Admits chunks ∧
      ∀ topic, after.content? topic = (Chunk.said? chunks topic).or (draft.content? topic) := by
  induction chunks generalizing draft with
  | nil =>
      cases hok
      exact ⟨admits_nil _, fun topic => by simp [Chunk.said?]⟩
  | cons chunk chunks ih =>
      cases hchunk : draft.addChunk chunk with
      | error cause => simp [addChunks, hchunk] at hok
      | ok middle =>
          simp only [addChunks, hchunk] at hok
          obtain ⟨hmiddle, hafter⟩ := ih hok
          obtain ⟨-, hfits, hcontent⟩ := content?_of_addChunk hchunk
          have hadmits := (admits_cons_iff hchunk).2 hmiddle
          refine ⟨hadmits, ?_⟩
          intro topic
          rw [hafter, hcontent, Chunk.said?_cons]
          by_cases heq : topic = chunk.keyword.topic
          · obtain ⟨content, hsome⟩ := Option.isSome_iff_exists.1 hfits
            have hnew : ∀ other ∈ chunks, other.keyword.topic ≠ topic := by
              intro other hother hsame
              exact (List.nodup_cons.1 hadmits.1).1
                (List.mem_map.2 ⟨other, hother, hsame.trans heq⟩)
            rw [Chunk.said?_eq_none hnew]
            simp [heq, hsome]
          · simp [heq]

theorem addChunks_eq_ok_iff (draft after : Draft) (chunks : List Chunk) :
    draft.addChunks chunks = .ok after ↔
      draft.Admits chunks ∧
        ∀ topic, after.content? topic = (Chunk.said? chunks topic).or (draft.content? topic) := by
  constructor
  · exact content?_of_addChunks
  · rintro ⟨hadmits, hafter⟩
    obtain ⟨reached, hok⟩ := exists_addChunks hadmits
    have hsame : reached = after :=
      ext_content? fun topic => by rw [(content?_of_addChunks hok).2, hafter]
    rw [hok, hsame]

theorem admits_empty_iff (chunks : List Chunk) :
    empty.Admits chunks ↔
      (chunks.map fun chunk => chunk.keyword.topic).Nodup ∧
        ∀ chunk ∈ chunks, chunk.content?.isSome := by
  simp [Admits]

end Draft

/-- The readings of a text when every role is open. -/
theorem Role.readings_all (text : Text) :
    Role.readings (fun _ => true) text =
      (Role.all.filterMap (Role.read? · text)).filter Reading.isSubstantial :=
  rfl

theorem Role.mem_readings_iff {text : Text} {reading : Reading} :
    reading ∈ Role.readings (fun _ => true) text ↔
      reading.role.read? text = some reading ∧ reading.isSubstantial = true := by
  rw [Role.readings_all, List.mem_filter, List.mem_filterMap]
  constructor
  · rintro ⟨⟨role, -, hread⟩, hsubstantial⟩
    rw [Role.role_of_read? hread]
    exact ⟨hread, hsubstantial⟩
  · rintro ⟨hread, hsubstantial⟩
    exact ⟨⟨reading.role, Role.mem_all _, hread⟩, hsubstantial⟩

/-- The first reading in an open role is the reading in the first open role that has one. -/
theorem Role.find?_readings (isOpen : Role → Bool) (text : Text) :
    (Role.readings (fun _ => true) text).find? (fun reading => isOpen reading.role) =
      (Role.all.find? fun role =>
        isOpen role && (role.read? text).any Reading.isSubstantial).bind (·.read? text) := by
  rw [Role.readings_all]
  induction Role.all with
  | nil => rfl
  | cons role roles ih =>
      cases hread : role.read? text with
      | none => simp [hread, ih]
      | some reading =>
          have hrole : reading.role = role := Role.role_of_read? hread
          cases hsubstantial : reading.isSubstantial with
          | false => simp [hread, hsubstantial, ih]
          | true =>
              cases hopen : isOpen role with
              | false => simp [hread, hsubstantial, hrole, hopen, ih]
              | true => simp [hread, hsubstantial, hrole, hopen]

namespace Layout

theorem textOf?_eq_none_iff (layout : Layout) (topic : Role ⊕ NameUse) :
    layout.textOf? topic = none ↔ ∀ chunk ∈ layout.chunks, chunk.keyword.topic ≠ topic := by
  simp [textOf?]

/-- The reading of the unmarked text in the role that it goes to. -/
def leadingReading? (layout : Layout) : Option Reading :=
  layout.leadingRole?.bind fun role => role.read? layout.leading

theorem leadingReading?_eq_find? {layout : Layout} (hleading : layout.leading ≠ []) :
    layout.leadingReading? =
      (Role.readings (fun _ => true) layout.leading).find? fun reading =>
        (layout.textOf? (.inl reading.role)).isNone := by
  rw [Role.find?_readings fun role => (layout.textOf? (.inl role)).isNone]
  simp only [leadingReading?, leadingRole?, List.isEmpty_iff, hleading, if_false]
  rfl

theorem isSome_leadingReading?_iff {layout : Layout} (hleading : layout.leading ≠ []) :
    layout.leadingReading?.isSome ↔ ∃ role, layout.mayFill role := by
  rw [leadingReading?_eq_find? hleading, List.find?_isSome]
  constructor
  · rintro ⟨reading, hmem, hopen⟩
    obtain ⟨hread, hsubstantial⟩ := Role.mem_readings_iff.1 hmem
    exact ⟨reading.role, by simp [mayFill, hopen, hread, hsubstantial]⟩
  · rintro ⟨role, hfill⟩
    obtain ⟨hopen, hany⟩ := (Bool.and_eq_true_iff).1 hfill
    obtain ⟨reading, hread, hsubstantial⟩ := (Option.any_eq_true ..).1 hany
    have hrole : reading.role = role := Role.role_of_read? hread
    rw [← hrole] at hread hopen
    exact ⟨reading, Role.mem_readings_iff.2 ⟨hread, hsubstantial⟩, hopen⟩

theorem textOf?_of_leadingRole? {layout : Layout} {role : Role}
    (hrole : layout.leadingRole? = some role) : layout.textOf? (.inl role) = none := by
  rw [leadingRole?] at hrole
  split at hrole
  · cases hrole
  · have hfill := List.find?_some hrole
    simp only [mayFill, Bool.and_eq_true, Option.isNone_iff_eq_none] at hfill
    exact hfill.1

theorem isSome_said? {layout : Layout} (hfits : ∀ chunk ∈ layout.chunks, chunk.content?.isSome)
    (topic : Role ⊕ NameUse) :
    (Chunk.said? layout.chunks topic).isSome = (layout.textOf? topic).isSome := by
  cases hfound : layout.chunks.find? fun chunk => chunk.keyword.topic = topic with
  | none => simp [Chunk.said?, textOf?, hfound]
  | some chunk =>
      have hchunk := hfits chunk (List.mem_of_find?_eq_some hfound)
      simp [Chunk.said?, textOf?, hfound, hchunk]

theorem said?_chunks {layout : Layout} (hfits : ∀ chunk ∈ layout.chunks, chunk.content?.isSome)
    (topic : Role ⊕ NameUse) :
    Chunk.said? layout.chunks topic =
      match topic with
      | .inl role => ((layout.textOf? (.inl role)).bind role.read?).map .inl
      | .inr use => (layout.textOf? (.inr use)).map .inr := by
  cases hfound : layout.chunks.find? fun chunk => chunk.keyword.topic = topic with
  | none => cases topic <;> simp [Chunk.said?, textOf?, hfound]
  | some chunk =>
      have htopic : chunk.keyword.topic = topic := by simpa using List.find?_some hfound
      have hchunk := hfits chunk (List.mem_of_find?_eq_some hfound)
      cases topic with
      | inl role => simp [Chunk.said?, textOf?, hfound, Chunk.content?, htopic]
      | inr use =>
          simp only [Chunk.content?, htopic] at hchunk
          simp only [Chunk.said?, textOf?, hfound, Option.bind_some, Option.map_some,
            Chunk.content?, htopic]
          split at hchunk
          · next hname => rw [if_pos hname]
          · cases hchunk

theorem leadingReading?_bind (layout : Layout) (role : Role) :
    (layout.leadingReading?.bind fun reading =>
        if (.inl role : Role ⊕ NameUse) = .inl reading.role then some (.inl reading) else none) =
      ((if layout.leadingRole? = some role then role.read? layout.leading else none).map .inl :
        Option (Reading ⊕ Text)) := by
  cases hfill : layout.leadingRole? with
  | none => simp [leadingReading?, hfill]
  | some filled =>
      cases hread : filled.read? layout.leading with
      | none =>
          by_cases heq : filled = role
          · simp [leadingReading?, hfill, hread, ← heq]
          · simp [leadingReading?, hfill, hread, heq]
      | some reading =>
          have hrole : reading.role = filled := Role.role_of_read? hread
          by_cases heq : filled = role
          · simp [leadingReading?, hfill, hread, hrole, ← heq]
          · simp [leadingReading?, hfill, hread, hrole, heq, Ne.symm heq]

/-- What the layout says about a topic is what its chunks say, or else its unmarked text. -/
theorem content?_eq_or {layout : Layout} (hfits : ∀ chunk ∈ layout.chunks, chunk.content?.isSome)
    (topic : Role ⊕ NameUse) :
    layout.content? topic =
      (Chunk.said? layout.chunks topic).or
        (layout.leadingReading?.bind fun reading =>
          if topic = .inl reading.role then some (.inl reading) else none) := by
  rw [said?_chunks hfits]
  cases topic with
  | inl role =>
      rw [leadingReading?_bind]
      cases htext : layout.textOf? (.inl role) with
      | some text =>
          have hother : layout.leadingRole? ≠ some role := by
            intro hrole
            rw [textOf?_of_leadingRole? hrole] at htext
            cases htext
          simp [content?, value?, htext, hother]
      | none => simp [content?, value?, htext]
  | inr use => simp [content?]

end Layout

namespace Draft

/-- The role of unmarked text that is taken in first has to have no keyword. -/
theorem admits_assign_iff (layout : Layout) {reading : Reading} (hstated : reading.IsStated) :
    (empty.assign reading).Admits layout.chunks ↔
      empty.Admits layout.chunks ∧ layout.textOf? (.inl reading.role) = none := by
  have hfree : ∀ topic, (empty.assign reading).content? topic = none ↔
      topic ≠ .inl reading.role := by
    intro topic
    rw [content?_assign _ hstated]
    by_cases heq : topic = .inl reading.role <;> simp [heq]
  rw [Layout.textOf?_eq_none_iff, admits_empty_iff]
  simp only [Admits, hfree]
  constructor
  · rintro ⟨hdistinct, heach⟩
    exact ⟨⟨hdistinct, fun chunk hmem => (heach chunk hmem).2⟩,
      fun chunk hmem => (heach chunk hmem).1⟩
  · rintro ⟨⟨hdistinct, hfits⟩, hother⟩
    exact ⟨hdistinct, fun chunk hmem => ⟨hother chunk hmem, hfits chunk hmem⟩⟩

/-- The reading of the unmarked text adds the content of a topic of which no chunk speaks. -/
theorem content?_assign_of_leading {layout : Layout} {middle : Draft} {reading : Reading}
    (hreading : layout.leadingReading? = some reading) (hadmits : empty.Admits layout.chunks)
    (hmiddle : ∀ topic, middle.content? topic =
      (Chunk.said? layout.chunks topic).or (empty.content? topic)) (topic : Role ⊕ NameUse) :
    (middle.assign reading).content? topic =
      (Chunk.said? layout.chunks topic).or
        (if topic = .inl reading.role then some (.inl reading) else none) := by
  obtain ⟨role, hfill, hread⟩ := Option.bind_eq_some_iff.1 hreading
  have hfits := ((admits_empty_iff _).1 hadmits).2
  rw [content?_assign _ (Role.isStated_of_read? hread), hmiddle, Role.role_of_read? hread]
  by_cases heq : topic = .inl role
  · have hnone : Chunk.said? layout.chunks topic = none := by
      rw [heq, Layout.said?_chunks hfits]
      simp [Layout.textOf?_of_leadingRole? hfill]
    rw [if_pos heq, if_pos heq, hnone, Option.none_or]
  · simp [heq]

/-- Once all chunks are taken in, the open roles are those without a keyword. -/
theorem has_of_addChunks {layout : Layout} {middle : Draft}
    (hok : empty.addChunks layout.chunks = .ok middle) (role : Role) :
    middle.plan.has role = (layout.textOf? (.inl role)).isSome := by
  obtain ⟨hadmits, hmiddle⟩ := content?_of_addChunks hok
  have hheld : middle.content? (.inl role) = Chunk.said? layout.chunks (.inl role) := by
    rw [hmiddle, content?_empty, Option.or_none]
  calc
    middle.plan.has role = (middle.content? (.inl role)).isSome := by
      rw [Plan.has_eq_isSome_value?, content?, Option.isSome_map]
    _ = (Chunk.said? layout.chunks (.inl role)).isSome := by rw [hheld]
    _ = (layout.textOf? (.inl role)).isSome :=
      Layout.isSome_said? ((admits_empty_iff _).1 hadmits).2 _

/-- Unmarked text that waits goes to the first of its readings whose role has no keyword. -/
theorem settle_eq_ok_iff {layout : Layout} {middle after : Draft}
    (hleading : layout.leading ≠ []) (hok : empty.addChunks layout.chunks = .ok middle) :
    middle.settle layout.leading (Role.readings (fun _ => true) layout.leading) = .ok after ↔
      ∃ reading, layout.leadingReading? = some reading ∧ after = middle.assign reading := by
  have hfirst : (Role.readings (fun _ => true) layout.leading).find?
      (fun reading => !middle.plan.has reading.role) = layout.leadingReading? := by
    rw [Layout.leadingReading?_eq_find? hleading]
    congr 1
    funext reading
    rw [has_of_addChunks hok]
    cases layout.textOf? (.inl reading.role) <;> rfl
  rw [settle, hfirst]
  cases layout.leadingReading? with
  | none => simp
  | some reading => simp [eq_comm]

/-- Whether unmarked text is taken in at once or has to wait does not show in the draft. -/
theorem ofLayout_eq_ok_iff_leading {layout : Layout} (hleading : layout.leading ≠ [])
    (after : Draft) :
    ofLayout layout = .ok after ↔
      empty.Admits layout.chunks ∧ ∃ reading, layout.leadingReading? = some reading ∧
        ∀ topic, after.content? topic =
          (Chunk.said? layout.chunks topic).or
            (if topic = .inl reading.role then some (.inl reading) else none) := by
  rw [ofLayout, if_neg (by simpa using hleading)]
  split
  · next reading hsingle =>
    have hmem : reading ∈ Role.readings (fun _ => true) layout.leading := by simp [hsingle]
    have hstated := Role.isStated_of_read? (Role.mem_readings_iff.1 hmem).1
    have hfirst : layout.leadingReading? =
        if layout.textOf? (.inl reading.role) = none then some reading else none := by
      rw [Layout.leadingReading?_eq_find? hleading, hsingle]
      cases htext : layout.textOf? (.inl reading.role) <;> simp [htext]
    rw [addChunks_eq_ok_iff, admits_assign_iff layout hstated, hfirst]
    by_cases hopen : layout.textOf? (.inl reading.role) = none
    · simp [hopen, content?_assign _ hstated]
    · simp [hopen]
  · cases hchunks : empty.addChunks layout.chunks with
    | error cause =>
        constructor
        · intro hok
          cases hok
        · rintro ⟨hadmits, -⟩
          obtain ⟨middle, hok⟩ := exists_addChunks hadmits
          rw [hok] at hchunks
          cases hchunks
    | ok middle =>
        obtain ⟨hadmits, hmiddle⟩ := content?_of_addChunks hchunks
        rw [settle_eq_ok_iff hleading hchunks]
        constructor
        · rintro ⟨reading, hreading, rfl⟩
          exact ⟨hadmits, reading, hreading, content?_assign_of_leading hreading hadmits hmiddle⟩
        · rintro ⟨-, reading, hreading, hafter⟩
          refine ⟨reading, hreading, ext_content? fun topic => ?_⟩
          rw [hafter, content?_assign_of_leading hreading hadmits hmiddle]

/-- A layout is read as a draft when its topics are distinct, its texts fit their keywords and its
unmarked text may fill some role; the draft then holds what the layout says. -/
theorem ofLayout_eq_ok_iff (layout : Layout) (after : Draft) :
    ofLayout layout = .ok after ↔
      empty.Admits layout.chunks ∧
        (layout.leading ≠ [] → ∃ role, layout.mayFill role) ∧
        ∀ topic, after.content? topic = layout.content? topic := by
  by_cases hleading : layout.leading = []
  · have hnone : layout.leadingReading? = none := by
      simp [Layout.leadingReading?, Layout.leadingRole?, hleading]
    have hread : ofLayout layout = empty.addChunks layout.chunks := by
      simp [ofLayout, hleading]
    rw [hread, addChunks_eq_ok_iff]
    refine and_congr_right fun hadmits => ?_
    have hcontent := Layout.content?_eq_or ((admits_empty_iff _).1 hadmits).2
    simp [hleading, hcontent, hnone]
  · rw [ofLayout_eq_ok_iff_leading hleading]
    refine and_congr_right fun hadmits => ?_
    have hcontent := Layout.content?_eq_or ((admits_empty_iff _).1 hadmits).2
    rw [← Layout.isSome_leadingReading?_iff hleading]
    cases hreading : layout.leadingReading? with
    | none => simp [hleading]
    | some reading => simp [hcontent, hreading]

end Draft

/-- Values given in the order of roles are the values of the plan. -/
theorem Plan.value?_foldl_assign {value : Role → Option Reading}
    (hvalue : ∀ role reading, value role = some reading →
      reading.role = role ∧ reading.IsStated)
    (roles : List Role) (plan : Plan) (role : Role) :
    ((roles.filterMap value).foldl Plan.assign plan).value? role =
      (if role ∈ roles then value role else none).or (plan.value? role) := by
  induction roles generalizing plan with
  | nil => simp
  | cons first roles ih =>
      cases hfirst : value first with
      | none =>
          rw [List.filterMap_cons_none hfirst, ih]
          by_cases heq : role = first
          · simp [heq, hfirst]
          · simp [heq]
      | some reading =>
          obtain ⟨hrole, hstated⟩ := hvalue first reading hfirst
          rw [List.filterMap_cons_some hfirst, List.foldl_cons, ih, value?_assign _ hstated, hrole]
          by_cases heq : role = first
          · by_cases hmem : first ∈ roles <;> simp [heq, hfirst, hmem]
          · simp [heq, Ne.symm heq]

namespace Layout

theorem role_of_value? {layout : Layout} {role : Role} {reading : Reading}
    (hvalue : layout.value? role = some reading) : ∃ text, role.read? text = some reading := by
  rw [value?] at hvalue
  split at hvalue
  · next text _ => exact ⟨text, hvalue⟩
  · split at hvalue
    · exact ⟨layout.leading, hvalue⟩
    · cases hvalue

@[simp]
theorem value?_plan (layout : Layout) (role : Role) :
    layout.plan.value? role = layout.value? role := by
  rw [plan, Plan.value?_foldl_assign]
  · simp [Role.mem_all]
  · intro role reading hvalue
    obtain ⟨text, hread⟩ := role_of_value? hvalue
    exact ⟨Role.role_of_read? hread, Role.isStated_of_read? hread⟩

@[simp]
theorem get?_names (layout : Layout) (use : NameUse) :
    layout.names.get? use = layout.textOf? (.inr use) := by
  cases use <;> rfl

/-- The draft that holds what the layout says. -/
theorem content?_eq_iff (layout : Layout) (draft : Draft) :
    (∀ topic, draft.content? topic = layout.content? topic) ↔
      draft = ⟨layout.plan, layout.names⟩ := by
  have hself : ∀ topic, Draft.content? ⟨layout.plan, layout.names⟩ topic =
      layout.content? topic := by
    intro topic
    cases topic <;> simp [Draft.content?, content?]
  constructor
  · intro hcontent
    exact Draft.ext_content? fun topic => by rw [hcontent, hself]
  · rintro rfl
    exact hself

theorem fits_iff (layout : Layout) :
    (∀ chunk ∈ layout.chunks, chunk.content?.isSome) ↔
      (∀ chunk ∈ layout.chunks, ∀ use, chunk.keyword.topic = .inr use →
          Names.isName chunk.text) ∧
        ∀ chunk ∈ layout.chunks, ∀ role, chunk.keyword.topic = .inl role →
          (role.read? chunk.text).isSome := by
  have hchunk : ∀ chunk : Chunk, chunk.content?.isSome ↔
      (∀ use, chunk.keyword.topic = .inr use → Names.isName chunk.text) ∧
        ∀ role, chunk.keyword.topic = .inl role → (role.read? chunk.text).isSome := by
    intro chunk
    cases htopic : chunk.keyword.topic with
    | inl role => simp [Chunk.content?, htopic]
    | inr use =>
        simp only [Chunk.content?, htopic]
        cases Names.isName chunk.text <;> simp
  simp only [hchunk]
  constructor
  · intro hfits
    exact ⟨fun chunk hmem => (hfits chunk hmem).1, fun chunk hmem => (hfits chunk hmem).2⟩
  · rintro ⟨hnames, hroles⟩ chunk hmem
    exact ⟨hnames chunk hmem, hroles chunk hmem⟩

end Layout

/-- A draft that keeps to the limits passes unchanged. -/
theorem Draft.checkLimits_eq_ok_iff (draft after : Draft) :
    draft.checkLimits = .ok after ↔
      (∀ roll, draft.plan.attack = some roll → 1 ≤ roll.count ∧ roll.count ≤ maxAttacks) ∧
        draft.plan.maxDice ≤ maxDicePerCommand ∧ draft = after := by
  have hcount : ((draft.plan.attack.map AttackRoll.count).filter
        fun count => count == 0 || maxAttacks < count) = none ↔
      ∀ roll, draft.plan.attack = some roll → 1 ≤ roll.count ∧ roll.count ≤ maxAttacks := by
    cases draft.plan.attack with
    | none => simp
    | some roll =>
        simp only [Option.map_some, Option.filter_eq_none_iff, Option.some.injEq, forall_eq',
          Bool.or_eq_true, beq_iff_eq, decide_eq_true_eq]
        omega
  simp only [checkLimits]
  split
  · next count hsome =>
    have hnot := (not_congr hcount).1 (by rw [hsome]; simp)
    constructor
    · intro hok
      cases hok
    · rintro ⟨hfits, -⟩
      exact absurd hfits hnot
  · next hnone =>
    have hattacks := hcount.1 hnone
    by_cases hdice : maxDicePerCommand < draft.plan.maxDice
    · simp [hdice, Nat.not_le.2 hdice]
    · simp only [hdice, if_false, Except.ok.injEq]
      exact ⟨fun heq => ⟨hattacks, Nat.not_lt.1 hdice, heq⟩, fun hfits => hfits.2.2⟩

namespace Command

/-- A normal form is a command when it is not empty and its layout is a command; what it says is
what its layout says. -/
theorem ofNormal_eq_ok_iff (text : Text) (command : Command) :
    ofNormal text = .ok command ↔
      text ≠ [] ∧ (Layout.ofText text).IsCommand ∧
        command = ⟨(Layout.ofText text).plan, (Layout.ofText text).names,
          (Layout.ofText text).label⟩ := by
  have hdraft : ∀ draft, (Draft.ofLayout (Layout.ofText text)).bind Draft.checkLimits = .ok draft ↔
      (Layout.ofText text).IsCommand ∧
        draft = ⟨(Layout.ofText text).plan, (Layout.ofText text).names⟩ := by
    intro draft
    constructor
    · intro hok
      cases hlayout : Draft.ofLayout (Layout.ofText text) with
      | error cause => simp [hlayout, Except.bind] at hok
      | ok read =>
          rw [hlayout] at hok
          obtain ⟨hattacks, hdice, rfl⟩ := (Draft.checkLimits_eq_ok_iff ..).1 hok
          obtain ⟨hadmits, hleading, hcontent⟩ := (Draft.ofLayout_eq_ok_iff ..).1 hlayout
          obtain ⟨hdistinct, hfits⟩ := (Draft.admits_empty_iff _).1 hadmits
          obtain ⟨hnames, hroles⟩ := (Layout.fits_iff _).1 hfits
          obtain rfl := (Layout.content?_eq_iff ..).1 hcontent
          exact ⟨⟨hdistinct, hnames, hroles, hleading, hattacks, hdice⟩, rfl⟩
    · rintro ⟨hcommand, rfl⟩
      have hadmits := (Draft.admits_empty_iff _).2
        ⟨hcommand.distinct, (Layout.fits_iff _).2 ⟨hcommand.namesFit, hcommand.rolesFit⟩⟩
      have hlayout := (Draft.ofLayout_eq_ok_iff _ _).2
        ⟨hadmits, hcommand.leadingFits, (Layout.content?_eq_iff _ _).2 rfl⟩
      rw [hlayout]
      exact (Draft.checkLimits_eq_ok_iff ..).2 ⟨hcommand.attacksFit, hcommand.diceFit, rfl⟩
  simp only [ofNormal, List.isEmpty_iff]
  by_cases hempty : text = []
  · simp [hempty]
  · simp only [hempty, if_false, ne_eq, not_false_eq_true, true_and]
    cases hread : (Draft.ofLayout (Layout.ofText text)).bind Draft.checkLimits with
    | error cause =>
        constructor
        · intro hok
          cases hok
        · rintro ⟨hcommand, -⟩
          rw [(hdraft _).2 ⟨hcommand, rfl⟩] at hread
          cases hread
    | ok draft =>
        obtain ⟨hcommand, rfl⟩ := (hdraft draft).1 hread
        simp [hcommand, eq_comm]

/-- What a command says does not depend on the order of reading.  An input is a command exactly when
its normal form is not empty, no topic is given twice, every keyword's text fits, unmarked text fits
some role without a keyword, and the plan that results keeps to the limits.  Then every keyword's
topic holds what its own text says, the unmarked text is the value of the first role that it may
fill, and nothing else is held. -/
theorem parse_ok_iff_isCommand (input : Text) :
    let layout := Layout.ofText (normalize input)
    ((∃ command, parse input = .ok command) ↔ normalize input ≠ [] ∧ layout.IsCommand) ∧
    ∀ command, parse input = .ok command →
      command.plan = layout.plan ∧ command.label = layout.label ∧
      (∀ chunk ∈ layout.chunks, ∀ role, chunk.keyword.topic = .inl role →
        command.plan.value? role = role.read? chunk.text) ∧
      (∀ role, (∀ chunk ∈ layout.chunks, chunk.keyword.topic ≠ .inl role) →
        command.plan.value? role =
          if layout.leadingRole? = some role then role.read? layout.leading else none) ∧
      (∀ chunk ∈ layout.chunks, ∀ use, chunk.keyword.topic = .inr use →
        command.names.get? use = some chunk.text) ∧
      (∀ use, (∀ chunk ∈ layout.chunks, chunk.keyword.topic ≠ .inr use) →
        command.names.get? use = none) := by
  intro layout
  constructor
  · constructor
    · rintro ⟨command, hok⟩
      obtain ⟨hne, hcommand, -⟩ := (ofNormal_eq_ok_iff _ _).1 hok
      exact ⟨hne, hcommand⟩
    · rintro ⟨hne, hcommand⟩
      exact ⟨_, (ofNormal_eq_ok_iff _ _).2 ⟨hne, hcommand, rfl⟩⟩
  · intro command hok
    obtain ⟨-, hcommand, rfl⟩ := (ofNormal_eq_ok_iff _ _).1 hok
    refine ⟨rfl, rfl, ?_, ?_, ?_, ?_⟩
    · intro chunk hmem role htopic
      rw [Layout.value?_plan, Layout.value?, ← htopic, hcommand.textOf?_topic hmem]
    · intro role hother
      rw [Layout.value?_plan, Layout.value?, (Layout.textOf?_eq_none_iff ..).2 hother]
    · intro chunk hmem use htopic
      rw [Layout.get?_names, ← htopic, hcommand.textOf?_topic hmem]
    · intro use hother
      rw [Layout.get?_names, (Layout.textOf?_eq_none_iff ..).2 hother]

/-- The armor class has a keyword, so the unmarked number is damage. -/
theorem parse_unmarked_damage :
    ∃ command, parse "12 vs 15 save axe".toList = .ok command ∧
      command.plan.value? .damage = some (.damage [⟨.plus, .flat 12, []⟩]) ∧
      command.names.get? .save = some "axe".toList := by
  have hok : parse "12 vs 15 save axe".toList = .ok ⟨⟨none, some ⟨15, 0⟩,
      some [⟨.plus, .flat 12, []⟩], none, ⟨[], [], []⟩⟩, ⟨some "axe".toList, none, none⟩,
      "12 vs 15".toList⟩ := by
    decide +kernel
  obtain ⟨-, -, -, hunmarked, hname, -⟩ := (parse_ok_iff_isCommand _).2 _ hok
  refine ⟨_, hok, (hunmarked .damage (by decide +kernel)).trans (by decide +kernel), ?_⟩
  exact hname ⟨.name .save, "axe".toList⟩ (by decide +kernel) .save rfl

end Command

end Skirmish
