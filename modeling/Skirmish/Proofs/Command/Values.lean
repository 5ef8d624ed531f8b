import Skirmish.Command.Basic

/-!
# What a draft holds

A plan is known by the value of each of its roles and a draft by its content for each topic, which
is a role or a use of a name.  Taking something in changes one content and leaves every other alone,
so facts about reading a command are facts about contents.
-/

namespace Skirmish

namespace Reading

/-- Whether the reading names at least one type, if it is a list of types. -/
def IsStated : Reading → Prop
  | resisted types => types ≠ []
  | vulnerable types => types ≠ []
  | immune types => types ≠ []
  | _ => True

end Reading

theorem readTypes?_ne_nil {text : Text} {types : List Text}
    (hread : readTypes? text = some types) : types ≠ [] := by
  simp only [readTypes?] at hread
  split at hread
  · rw [← Option.some.inj hread]
    exact List.splitOn_ne_nil '+' text
  · cases hread

namespace Role

theorem mem_all (role : Role) : role ∈ all := by
  cases role <;> decide

theorem role_of_read? {role : Role} {text : Text} {reading : Reading}
    (hread : role.read? text = some reading) : reading.role = role := by
  cases role <;>
    · obtain ⟨value, -, rfl⟩ := Option.map_eq_some_iff.1 hread
      rfl

theorem isStated_of_read? {role : Role} {text : Text} {reading : Reading}
    (hread : role.read? text = some reading) : reading.IsStated := by
  cases role <;> obtain ⟨value, hvalue, rfl⟩ := Option.map_eq_some_iff.1 hread
  case resisted => exact readTypes?_ne_nil hvalue
  case vulnerable => exact readTypes?_ne_nil hvalue
  case immune => exact readTypes?_ne_nil hvalue
  all_goals trivial

end Role

namespace Plan

/-- A list of types as a reading, if it names any. -/
def listed? (reading : List Text → Reading) (types : List Text) : Option Reading :=
  if types = [] then none else some (reading types)

/-- The value of a role, as the reading that gives it. -/
def value? (plan : Plan) : Role → Option Reading
  | .attack => plan.attack.map .attack
  | .target => plan.target.map .target
  | .damage => plan.damage.map .damage
  | .hitPoints => plan.hitPoints.map .hitPoints
  | .resisted => listed? .resisted plan.defenses.resisted
  | .vulnerable => listed? .vulnerable plan.defenses.vulnerable
  | .immune => listed? .immune plan.defenses.immune

theorem listed?_inj {reading : List Text → Reading} {left right : List Text}
    (hinjective : ∀ types types', reading types = reading types' → types = types')
    (heq : listed? reading left = listed? reading right) : left = right := by
  unfold listed? at heq
  split at heq <;> split at heq
  · next hleft hright => rw [hleft, hright]
  · cases heq
  · cases heq
  · exact hinjective _ _ (Option.some.inj heq)

theorem has_eq_isSome_value? (plan : Plan) (role : Role) :
    plan.has role = (plan.value? role).isSome := by
  cases role <;> simp only [has, value?, listed?, Option.isSome_map] <;>
    · split <;> simp_all

@[simp]
theorem value?_empty (role : Role) : empty.value? role = none := by
  cases role <;> rfl

/-- Assigning a reading changes the value of its own role only. -/
theorem value?_assign (plan : Plan) {reading : Reading} (hstated : reading.IsStated)
    (role : Role) :
    (plan.assign reading).value? role =
      if reading.role = role then some reading else plan.value? role := by
  have hlisted : ∀ (make : List Text → Reading) {types : List Text}, types ≠ [] →
      listed? make types = some (make types) := fun _ _ hne => if_neg hne
  cases reading <;> cases role
  case resisted.resisted => exact hlisted _ hstated
  case vulnerable.vulnerable => exact hlisted _ hstated
  case immune.immune => exact hlisted _ hstated
  all_goals rfl

/-- Plans with the same values are equal. -/
theorem ext_value? {left right : Plan}
    (hvalue : ∀ role, left.value? role = right.value? role) : left = right := by
  obtain ⟨attack, target, damage, hitPoints, resisted, vulnerable, immune⟩ := left
  obtain ⟨attack', target', damage', hitPoints', resisted', vulnerable', immune'⟩ := right
  have hattack : attack = attack' :=
    Option.map_injective (fun _ _ => Reading.attack.inj) (hvalue .attack)
  have htarget : target = target' :=
    Option.map_injective (fun _ _ => Reading.target.inj) (hvalue .target)
  have hdamage : damage = damage' :=
    Option.map_injective (fun _ _ => Reading.damage.inj) (hvalue .damage)
  have hpoints : hitPoints = hitPoints' :=
    Option.map_injective (fun _ _ => Reading.hitPoints.inj) (hvalue .hitPoints)
  have hresisted : resisted = resisted' :=
    listed?_inj (fun _ _ => Reading.resisted.inj) (hvalue .resisted)
  have hvulnerable : vulnerable = vulnerable' :=
    listed?_inj (fun _ _ => Reading.vulnerable.inj) (hvalue .vulnerable)
  have himmune : immune = immune' :=
    listed?_inj (fun _ _ => Reading.immune.inj) (hvalue .immune)
  rw [hattack, htarget, hdamage, hpoints, hresisted, hvulnerable, himmune]

end Plan

namespace Names

@[simp]
theorem get?_empty (use : NameUse) : empty.get? use = none := by
  cases use <;> rfl

theorem get?_put (names : Names) (use other : NameUse) (name : Text) :
    (names.put use name).get? other = if use = other then some name else names.get? other := by
  cases use <;> cases other <;> rfl

theorem ext_get? {left right : Names} (hname : ∀ use, left.get? use = right.get? use) :
    left = right := by
  obtain ⟨save, load, delete⟩ := left
  obtain ⟨save', load', delete'⟩ := right
  rw [show save = save' from hname .save, show load = load' from hname .load,
    show delete = delete' from hname .delete]

end Names

/-- What a chunk contributes to a command, if its text fits its keyword. -/
def Chunk.content? (chunk : Chunk) : Option (Reading ⊕ Text) :=
  match chunk.keyword.topic with
  | .inl role => (role.read? chunk.text).map .inl
  | .inr _ => if Names.isName chunk.text then some (.inr chunk.text) else none

namespace Draft

/-- What the draft holds about a topic. -/
def content? (draft : Draft) : Role ⊕ NameUse → Option (Reading ⊕ Text)
  | .inl role => (draft.plan.value? role).map .inl
  | .inr use => (draft.names.get? use).map .inr

@[simp]
theorem content?_empty (topic : Role ⊕ NameUse) : empty.content? topic = none := by
  cases topic <;> simp [content?, empty]

theorem content?_assign (draft : Draft) {reading : Reading} (hstated : reading.IsStated)
    (topic : Role ⊕ NameUse) :
    (draft.assign reading).content? topic =
      if topic = .inl reading.role then some (.inl reading) else draft.content? topic := by
  cases topic with
  | inl role =>
      simp only [content?, assign, Plan.value?_assign _ hstated, Sum.inl.injEq, eq_comm]
      split <;> rfl
  | inr use => simp [content?, assign]

theorem content?_putName (draft : Draft) (use : NameUse) (name : Text) (topic : Role ⊕ NameUse) :
    content? { draft with names := draft.names.put use name } topic =
      if topic = .inr use then some (.inr name) else draft.content? topic := by
  cases topic with
  | inl role => simp [content?]
  | inr other =>
      simp only [content?, Names.get?_put, Sum.inr.injEq, eq_comm]
      split <;> rfl

/-- Drafts with the same contents are equal. -/
theorem ext_content? {left right : Draft}
    (hcontent : ∀ topic, left.content? topic = right.content? topic) : left = right := by
  have hplan : left.plan = right.plan :=
    Plan.ext_value? fun role =>
      Option.map_injective (fun _ _ => Sum.inl.inj) (hcontent (.inl role))
  have hnames : left.names = right.names :=
    Names.ext_get? fun use =>
      Option.map_injective (fun _ _ => Sum.inr.inj) (hcontent (.inr use))
  cases left
  cases right
  cases hplan
  cases hnames
  rfl

theorem content?_eq_none_iff (draft : Draft) (topic : Role ⊕ NameUse) :
    draft.content? topic = none ↔
      match topic with
      | .inl role => draft.plan.has role = false
      | .inr use => draft.names.get? use = none := by
  cases topic <;> simp [content?, Plan.has_eq_isSome_value?]

/-- A chunk is taken in only for a topic of which nothing is held and with a text that fits; then
it is what the draft holds about its topic. -/
theorem content?_of_addChunk {draft after : Draft} {chunk : Chunk}
    (hok : draft.addChunk chunk = .ok after) :
    draft.content? chunk.keyword.topic = none ∧ chunk.content?.isSome ∧
      ∀ topic, after.content? topic =
        if topic = chunk.keyword.topic then chunk.content? else draft.content? topic := by
  rw [content?_eq_none_iff]
  cases htopic : chunk.keyword.topic with
  | inl role =>
      simp only [addChunk, htopic] at hok
      split at hok
      · cases hok
      next hopen =>
      split at hok
      next reading hread =>
        have hcontent : chunk.content? = some (.inl reading) := by
          simp [Chunk.content?, htopic, hread]
        have hassign := draft.content?_assign (Role.isStated_of_read? hread)
        rw [Role.role_of_read? hread] at hassign
        cases hok
        rw [hcontent]
        exact ⟨by simpa using hopen, rfl, hassign⟩
      · cases hok
  | inr use =>
      simp only [addChunk, htopic] at hok
      split at hok
      · cases hok
      next hopen =>
      split at hok
      next hname =>
        have hcontent : chunk.content? = some (.inr chunk.text) := by
          simp [Chunk.content?, htopic, hname]
        cases hok
        rw [hcontent]
        exact ⟨by simpa using hopen, rfl, draft.content?_putName use chunk.text⟩
      · cases hok

theorem exists_addChunk {draft : Draft} {chunk : Chunk}
    (hopen : draft.content? chunk.keyword.topic = none) (hfits : chunk.content?.isSome) :
    ∃ after, draft.addChunk chunk = .ok after := by
  rw [content?_eq_none_iff] at hopen
  cases htopic : chunk.keyword.topic with
  | inl role =>
      simp only [htopic] at hopen
      simp only [Chunk.content?, htopic, Option.isSome_map] at hfits
      obtain ⟨reading, hread⟩ := Option.isSome_iff_exists.1 hfits
      exact ⟨draft.assign reading, by simp [addChunk, htopic, hopen, hread]⟩
  | inr use =>
      simp only [htopic] at hopen
      cases hname : Names.isName chunk.text with
      | false => simp [Chunk.content?, htopic, hname] at hfits
      | true =>
          exact ⟨{ draft with names := draft.names.put use chunk.text },
            by simp [addChunk, htopic, hopen, hname]⟩

end Draft

end Skirmish
