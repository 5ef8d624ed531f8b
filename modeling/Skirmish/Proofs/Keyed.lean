/-!
# Items with distinct keys

When no two items of a list have the same key, searching the list by the key of an item finds that
item.
-/

namespace Skirmish.Keyed

variable {α β : Type} {key : α → β} {items : List α} {item : α}

theorem eq_of_key_eq (hdistinct : (items.map key).Nodup) {other : α} (hmem : item ∈ items)
    (hother : other ∈ items) (hkey : key other = key item) : other = item := by
  induction items with
  | nil => cases hmem
  | cons first rest ih =>
      obtain ⟨hfirst, hrest⟩ := List.nodup_cons.1 hdistinct
      have hnew : ∀ later ∈ rest, key later ≠ key first :=
        fun later hlater heq => hfirst (List.mem_map.2 ⟨later, hlater, heq⟩)
      cases hmem with
      | head =>
          cases hother with
          | head => rfl
          | tail _ hother => exact absurd hkey (hnew other hother)
      | tail _ hmem =>
          cases hother with
          | head => exact absurd hkey.symm (hnew item hmem)
          | tail _ hother => exact ih hrest hmem hother

theorem find?_eq_some (hdistinct : (items.map key).Nodup) (hmem : item ∈ items)
    {test : α → Bool} (htest : ∀ other, test other = true ↔ key other = key item) :
    items.find? test = some item := by
  cases hfound : items.find? test with
  | none =>
      have hself : test item = true := (htest item).2 rfl
      exact absurd hself (List.find?_eq_none.1 hfound item hmem)
  | some other =>
      have hkey := (htest other).1 (List.find?_some hfound)
      rw [eq_of_key_eq hdistinct hmem (List.mem_of_find?_eq_some hfound) hkey]

/-- When an item is known by its key and its value, the value found under its key is its own if and
only if it is there. -/
theorem find?_map_eq_some_iff [BEq β] [LawfulBEq β] {γ : Type} {value : α → γ}
    (hext : ∀ left right, key left = key right → value left = value right → left = right)
    (hdistinct : (items.map key).Nodup) (item : α) :
    (items.find? fun other => key other == key item).map value = some (value item) ↔
      item ∈ items := by
  rw [Option.map_eq_some_iff]
  constructor
  · rintro ⟨other, hfound, hvalue⟩
    have hkey := List.find?_some hfound
    rw [← hext other item (eq_of_beq hkey) hvalue]
    exact List.mem_of_find?_eq_some hfound
  · intro hmem
    exact ⟨item, find?_eq_some hdistinct hmem fun _ => beq_iff_eq, rfl⟩

/-- The order of the items does not matter to the search for a key. -/
theorem find?_perm [DecidableEq β] {left right : List α} (hperm : left.Perm right)
    (hdistinct : (left.map key).Nodup) (wanted : β) :
    left.find? (fun item => key item = wanted) = right.find? (fun item => key item = wanted) := by
  cases hfound : right.find? fun item => key item = wanted with
  | none =>
      rw [List.find?_eq_none] at hfound ⊢
      intro item hmem
      exact hfound item (hperm.mem_iff.1 hmem)
  | some item =>
      have hkey : key item = wanted := by simpa using List.find?_some hfound
      have hmem : item ∈ left := hperm.mem_iff.2 (List.mem_of_find?_eq_some hfound)
      apply find?_eq_some hdistinct hmem
      simp [hkey]

end Skirmish.Keyed
