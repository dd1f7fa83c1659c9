import Mathlib.Data.List.Nodup

/-!
# Ordered lists of distinct identifiers

A list of distinct identifiers is the order of the rows that a keyed table
holds. `keepFirst` drops repeated identifiers, and replacing one identifier in
place by another is `keepFirst (ids.set (ids.idxOf old) new)`: the new
identifier may be listed already, in which case its first position wins.
-/
namespace MessagingSystem.Foundation.IdList

variable {α : Type*} [DecidableEq α]

theorem filter_comm {β : Type*} (p q : β → Bool) (l : List β) :
    (l.filter p).filter q = (l.filter q).filter p := by
  rw [List.filter_filter, List.filter_filter]
  exact List.filter_congr fun x _ => Bool.and_comm _ _

/-- Drop duplicates, first occurrence wins. -/
def keepFirst : List α → List α
  | [] => []
  | a :: rest => a :: (keepFirst rest).filter (· ≠ a)

@[simp] theorem mem_keepFirst {x : α} {ids : List α} : x ∈ keepFirst ids ↔ x ∈ ids := by
  induction ids with
  | nil => simp [keepFirst]
  | cons a rest ih =>
    by_cases h : x = a
    · simp [keepFirst, h]
    · simp [keepFirst, h, ih]

theorem nodup_keepFirst (ids : List α) : (keepFirst ids).Nodup := by
  induction ids with
  | nil => exact List.nodup_nil
  | cons a rest ih =>
    refine List.nodup_cons.mpr ⟨?_, ih.filter _⟩
    simp

theorem keepFirst_eq_self {ids : List α} (distinct : ids.Nodup) : keepFirst ids = ids := by
  induction ids with
  | nil => rfl
  | cons a rest ih =>
    obtain ⟨fresh, rest_distinct⟩ := List.nodup_cons.mp distinct
    have kept : rest.filter (· ≠ a) = rest := by
      rw [List.filter_eq_self]
      intro x member
      simpa using ne_of_mem_of_not_mem member fresh
    simp only [keepFirst, ih rest_distinct, kept]

theorem filter_keepFirst (p : α → Bool) (ids : List α) :
    (keepFirst ids).filter p = keepFirst (ids.filter p) := by
  induction ids with
  | nil => rfl
  | cons a rest ih =>
    have commute : ((keepFirst rest).filter (· ≠ a)).filter p =
        (keepFirst (rest.filter p)).filter (· ≠ a) := by
      rw [← ih, filter_comm]
    cases h : p a with
    | true => simp only [keepFirst, List.filter_cons, h, if_true, commute]
    | false =>
      have absent : a ∉ keepFirst (rest.filter p) := by simp [h]
      have untouched : (keepFirst (rest.filter p)).filter (· ≠ a) = keepFirst (rest.filter p) := by
        rw [List.filter_eq_self]
        intro x member
        simpa using ne_of_mem_of_not_mem member absent
      simp only [keepFirst, List.filter_cons, h, Bool.false_eq_true, if_false, commute, untouched]

/-- Where the replaced identifier stands, and what the list becomes. -/
theorem set_idxOf {ids : List α} (distinct : ids.Nodup) {old : α} (member : old ∈ ids) (new : α) :
    ∃ front back, ids = front ++ old :: back ∧ old ∉ front ∧ old ∉ back ∧
      ids.set (ids.idxOf old) new = front ++ new :: back := by
  obtain ⟨front, back, rfl⟩ := List.append_of_mem member
  have split := List.nodup_append.mp distinct
  have notFront : old ∉ front := fun h => split.2.2 old h old (by simp) rfl
  have notBack : old ∉ back := (List.nodup_cons.mp split.2.1).1
  refine ⟨front, back, rfl, notFront, notBack, ?_⟩
  simp [List.idxOf_append_of_notMem notFront]

theorem mem_replaced {ids : List α} (distinct : ids.Nodup) {old : α} (member : old ∈ ids)
    (new x : α) :
    x ∈ keepFirst (ids.set (ids.idxOf old) new) ↔ x = new ∨ (x ∈ ids ∧ x ≠ old) := by
  obtain ⟨front, back, hids, notFront, notBack, hset⟩ := set_idxOf distinct member new
  rw [mem_keepFirst, hset, hids]
  by_cases h : x = old
  · subst h
    simp [notFront, notBack]
  · simp only [List.mem_append, List.mem_cons, h, false_or, ne_eq, not_false_eq_true, and_true]
    tauto

/-- A sublist that the new identifier does not belong to only loses the old one. -/
theorem filter_replaced {ids : List α} (distinct : ids.Nodup) {old : α} (member : old ∈ ids)
    (new : α) (p : α → Bool) (excluded : p new = false) :
    (keepFirst (ids.set (ids.idxOf old) new)).filter p =
      (ids.filter p).filter (· ≠ old) := by
  obtain ⟨front, back, hids, notFront, notBack, hset⟩ := set_idxOf distinct member new
  have distinct' : (front ++ back).Nodup :=
    (List.nodup_cons.mp (List.perm_middle.nodup_iff.mp (hids ▸ distinct))).2
  have without : ids.filter (· ≠ old) = front ++ back := by
    have keep : ∀ part : List α, old ∉ part → part.filter (· ≠ old) = part := by
      intro part absent
      rw [List.filter_eq_self]
      intro x hx
      simpa using ne_of_mem_of_not_mem hx absent
    simp only [hids, List.filter_append, List.filter_cons, ne_eq, not_true_eq_false, decide_false,
      Bool.false_eq_true, if_false]
    exact congrArg₂ _ (keep front notFront) (keep back notBack)
  calc (keepFirst (ids.set (ids.idxOf old) new)).filter p
      = keepFirst ((front ++ new :: back).filter p) := by rw [hset, filter_keepFirst]
    _ = keepFirst ((front ++ back).filter p) := by
        simp only [List.filter_append, List.filter_cons, excluded, Bool.false_eq_true, if_false]
    _ = (front ++ back).filter p := keepFirst_eq_self (distinct'.filter p)
    _ = (ids.filter p).filter (· ≠ old) := by
        rw [← without, filter_comm]

/-- Append an identifier that is not listed yet. -/
def insertLast (ids : List α) (new : α) : List α := if new ∈ ids then ids else ids ++ [new]

theorem mem_insertLast {ids : List α} {new x : α} :
    x ∈ insertLast ids new ↔ x = new ∨ x ∈ ids := by
  unfold insertLast
  split
  · rename_i member
    constructor
    · exact Or.inr
    · rintro (rfl | h)
      · exact member
      · exact h
  · simp [or_comm]

theorem nodup_insertLast {ids : List α} (distinct : ids.Nodup) (new : α) :
    (insertLast ids new).Nodup := by
  unfold insertLast
  split
  · exact distinct
  · rename_i absent
    exact List.nodup_append.mpr ⟨distinct, List.nodup_singleton _, by
      intro x hx y hy
      rw [List.mem_singleton.mp hy]
      exact ne_of_mem_of_not_mem hx absent⟩

theorem filter_insertLast (ids : List α) {new : α} (p : α → Bool) (excluded : p new = false) :
    (insertLast ids new).filter p = ids.filter p := by
  unfold insertLast
  split
  · rfl
  · simp [excluded]

/-- `new` takes the place of `old`, or is appended when `old` is not listed. -/
def reconcile (ids : List α) (old new : α) : List α :=
  if old ∈ ids then keepFirst (ids.set (ids.idxOf old) new) else insertLast ids new

theorem mem_reconcile {ids : List α} (distinct : ids.Nodup) {old new x : α} :
    x ∈ reconcile ids old new ↔ x = new ∨ (x ∈ ids ∧ x ≠ old) := by
  unfold reconcile
  split
  · exact mem_replaced distinct ‹_› new x
  · rename_i absent
    rw [mem_insertLast]
    exact or_congr_right ⟨fun h => ⟨h, ne_of_mem_of_not_mem h absent⟩, fun h => h.1⟩

theorem nodup_reconcile {ids : List α} (distinct : ids.Nodup) (old new : α) :
    (reconcile ids old new).Nodup := by
  unfold reconcile
  split
  · exact nodup_keepFirst _
  · exact nodup_insertLast distinct new

theorem filter_reconcile {ids : List α} (distinct : ids.Nodup) (old : α) {new : α}
    (p : α → Bool) (excluded : p new = false) :
    (reconcile ids old new).filter p = (ids.filter p).filter (· ≠ old) := by
  unfold reconcile
  split
  · exact filter_replaced distinct ‹_› new p excluded
  · rename_i absent
    rw [filter_insertLast ids p excluded, eq_comm, List.filter_eq_self]
    intro x member
    simpa using ne_of_mem_of_not_mem (List.mem_filter.mp member).1 absent

end MessagingSystem.Foundation.IdList
