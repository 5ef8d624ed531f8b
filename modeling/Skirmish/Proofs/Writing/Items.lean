import Mathlib.Data.List.Forall2

/-!
# Reading item by item

A list is read when each of its items is, and gives their results in order.  It fails with the
failure of its first item that cannot be read.
-/

namespace Skirmish

variable {α β ε : Type}

theorem exists_of_forall₂ {relates : α → β → Prop} {left : List α} {right : List β}
    (hrelated : List.Forall₂ relates left right) : ∀ item ∈ left, ∃ other, relates item other := by
  induction hrelated with
  | nil => exact List.forall_mem_nil _
  | cons hfirst _ ih => exact List.forall_mem_cons.2 ⟨⟨_, hfirst⟩, ih⟩

theorem mapM_eq_some_iff {read : α → Option β} {items : List α} {results : List β} :
    items.mapM read = some results ↔
      List.Forall₂ (fun item result => read item = some result) items results := by
  induction items generalizing results with
  | nil =>
      rw [List.mapM_nil, List.forall₂_nil_left_iff]
      exact ⟨fun heq => (Option.some.inj heq).symm, fun heq => congrArg some heq.symm⟩
  | cons item items ih =>
      rw [List.mapM_cons, List.forall₂_cons_left_iff]
      constructor
      · intro hread
        obtain ⟨result, hresult, hrest⟩ := Option.bind_eq_some_iff.1 hread
        obtain ⟨others, hothers, heq⟩ := Option.bind_eq_some_iff.1 hrest
        exact ⟨result, others, hresult, ih.1 hothers, (Option.some.inj heq).symm⟩
      · rintro ⟨result, others, hresult, hothers, rfl⟩
        rw [hresult, ih.2 hothers]
        rfl

/-- A list with an item that cannot be read is not read. -/
theorem mapM_eq_none_iff {read : α → Option β} {items : List α} :
    items.mapM read = none ↔ ∃ item ∈ items, read item = none := by
  induction items with
  | nil =>
      rw [List.mapM_nil]
      simp
  | cons item items ih =>
      rw [List.mapM_cons, List.exists_mem_cons_iff, ← ih]
      cases hitem : read item with
      | none => simp
      | some result =>
          cases hothers : items.mapM read with
          | none => simp
          | some others => simp

theorem mapM_eq_ok_iff {read : α → Except ε β} {items : List α} {results : List β} :
    items.mapM read = .ok results ↔
      List.Forall₂ (fun item result => read item = .ok result) items results := by
  induction items generalizing results with
  | nil =>
      rw [List.mapM_nil, List.forall₂_nil_left_iff]
      exact ⟨fun heq => (Except.ok.inj heq).symm, fun heq => congrArg Except.ok heq.symm⟩
  | cons item items ih =>
      rw [List.mapM_cons, List.forall₂_cons_left_iff]
      constructor
      · intro hread
        cases hitem : read item with
        | error error =>
            rw [hitem] at hread
            cases hread
        | ok result =>
            cases hothers : items.mapM read with
            | error error =>
                rw [hitem, hothers] at hread
                cases hread
            | ok others =>
                rw [hitem, hothers] at hread
                exact ⟨result, others, rfl, ih.1 hothers, (Except.ok.inj hread).symm⟩
      · rintro ⟨result, others, hresult, hothers, rfl⟩
        rw [hresult, ih.2 hothers]
        rfl

theorem exists_mapM_ok_iff {read : α → Except ε β} {items : List α} :
    (∃ results, items.mapM read = .ok results) ↔
      ∀ item ∈ items, ∃ result, read item = .ok result := by
  simp only [mapM_eq_ok_iff]
  induction items with
  | nil => simp
  | cons item items ih =>
      rw [List.forall_mem_cons, ← ih]
      simp only [List.forall₂_cons_left_iff]
      constructor
      · rintro ⟨-, result, results, hresult, hresults, -⟩
        exact ⟨⟨result, hresult⟩, results, hresults⟩
      · rintro ⟨⟨result, hresult⟩, results, hresults⟩
        exact ⟨_, result, results, hresult, hresults, rfl⟩

/-- The failure is that of the first item that cannot be read. -/
theorem mapM_eq_error_iff {read : α → Except ε β} {items : List α} {error : ε} :
    items.mapM read = .error error ↔
      ∃ before item after, items = before ++ item :: after ∧
        (∀ earlier ∈ before, ∃ result, read earlier = .ok result) ∧ read item = .error error := by
  induction items with
  | nil =>
      rw [List.mapM_nil]
      constructor
      · intro hread
        cases hread
      · rintro ⟨before, item, after, hsplit, -⟩
        exact absurd hsplit (by simp)
  | cons first items ih =>
      rw [List.mapM_cons]
      constructor
      · intro hread
        cases hfirst : read first with
        | error failure =>
            rw [hfirst] at hread
            cases hread
            exact ⟨[], first, items, rfl, List.forall_mem_nil _, hfirst⟩
        | ok result =>
            cases hothers : items.mapM read with
            | ok others =>
                rw [hfirst, hothers] at hread
                cases hread
            | error failure =>
                rw [hfirst, hothers] at hread
                cases hread
                obtain ⟨before, item, after, rfl, hbefore, hitem⟩ := ih.1 hothers
                exact ⟨first :: before, item, after, rfl,
                  List.forall_mem_cons.2 ⟨⟨result, hfirst⟩, hbefore⟩, hitem⟩
      · rintro ⟨before, item, after, heq, hbefore, hitem⟩
        cases before with
        | nil =>
            obtain ⟨rfl, rfl⟩ := List.cons.inj heq
            rw [hitem]
            rfl
        | cons other before =>
            obtain ⟨rfl, rfl⟩ := List.cons.inj heq
            obtain ⟨⟨result, hfirst⟩, hrest⟩ := List.forall_mem_cons.1 hbefore
            rw [hfirst, ih.2 ⟨before, item, after, rfl, hrest, hitem⟩]
            rfl

end Skirmish
