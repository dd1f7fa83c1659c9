import Mathlib.Data.List.Induction
import Mathlib.Order.Basic

/-!
# Registers with the last write

A sequence of writes to keyed registers leaves in each register its last
write. No register ever moves back exactly when the writes of each key ascend.
-/
namespace MessagingSystem.Foundation.LastWrite

variable {K V : Type*} [DecidableEq K]

/-- What the register `k` holds after the writes. -/
def lastOf (k : K) (writes : List (K × V)) : Option V :=
  (writes.reverse.find? fun w => w.1 = k).map Prod.snd

/-- The writes of each key come in ascending order. -/
def Ascending [LE V] (writes : List (K × V)) : Prop :=
  writes.Pairwise fun earlier later => earlier.1 = later.1 → earlier.2 ≤ later.2

@[simp] theorem lastOf_nil (k : K) : lastOf k ([] : List (K × V)) = none := rfl

theorem lastOf_append (k : K) (writes : List (K × V)) (w : K × V) :
    lastOf k (writes ++ [w]) = if w.1 = k then some w.2 else lastOf k writes := by
  unfold lastOf
  by_cases same : w.1 = k <;> simp [same]

theorem lastOf_mem {k : K} {writes : List (K × V)} {v : V} (last : lastOf k writes = some v) :
    (k, v) ∈ writes := by
  obtain ⟨⟨key, value⟩, found, rfl⟩ := Option.map_eq_some_iff.mp last
  have same : key = k := by simpa using List.find?_some found
  exact same ▸ List.mem_reverse.mp (List.mem_of_find?_eq_some found)

/-- Writes of keys that differ are each the last of their key. -/
theorem lastOf_of_nodup {writes : List (K × V)} (distinct : (writes.map Prod.fst).Nodup) {k : K} {v : V}
    (member : (k, v) ∈ writes) : lastOf k writes = some v := by
  induction writes using List.reverseRecOn with
  | nil => cases member
  | append_singleton writes w ih =>
    rw [List.map_append, List.map_singleton, List.nodup_append] at distinct
    obtain ⟨before, -, apart⟩ := distinct
    rw [lastOf_append]
    rcases List.mem_append.mp member with old | new
    · rw [if_neg fun same => apart k (List.mem_map.mpr ⟨_, old, rfl⟩) w.1 (List.mem_singleton_self _) same.symm]
      exact ih before old
    · obtain rfl := List.mem_singleton.mp new
      exact if_pos rfl

section Ascending

variable [Preorder V]

/-- In ascending writes the last one bounds them all. -/
theorem Ascending.le_lastOf {writes : List (K × V)} (ascending : Ascending writes) {k : K} {v : V}
    (member : (k, v) ∈ writes) : ∃ last, lastOf k writes = some last ∧ v ≤ last := by
  induction writes using List.reverseRecOn with
  | nil => cases member
  | append_singleton writes w ih =>
    obtain ⟨before, -, bound⟩ := List.pairwise_append.mp ascending
    rw [lastOf_append]
    rcases List.mem_append.mp member with old | new
    · split
      · rename_i same
        exact ⟨w.2, rfl, bound _ old w (List.mem_singleton_self w) same.symm⟩
      · exact ih before old
    · obtain rfl := List.mem_singleton.mp new
      exact ⟨v, if_pos rfl, le_refl v⟩

/-- One more write keeps the order exactly when it is not below the register. -/
theorem ascending_append_iff {writes : List (K × V)} {k : K} {v : V} :
    Ascending (writes ++ [(k, v)]) ↔
      Ascending writes ∧ ∀ last, lastOf k writes = some last → last ≤ v := by
  constructor
  · intro ascending
    obtain ⟨before, -, bound⟩ := List.pairwise_append.mp ascending
    exact ⟨before, fun last held =>
      bound _ (lastOf_mem held) (k, v) (List.mem_singleton_self _) rfl⟩
  · rintro ⟨before, bound⟩
    refine List.pairwise_append.mpr ⟨before, List.pairwise_singleton _ _, ?_⟩
    rintro ⟨key, value⟩ member w single same
    obtain rfl := List.mem_singleton.mp single
    obtain rfl : key = k := same
    obtain ⟨last, held, le⟩ := Ascending.le_lastOf before member
    exact le_trans le (bound last held)

end Ascending

/-- Two ascending orders of the same writes leave the same value in every register. -/
theorem Ascending.lastOf_eq_of_perm [PartialOrder V] {first second : List (K × V)} (orders : first.Perm second)
    (ascending : Ascending first) (ascending' : Ascending second) (k : K) :
    lastOf k first = lastOf k second := by
  cases held : lastOf k first with
  | none =>
    cases held' : lastOf k second with
    | none => rfl
    | some v' =>
      obtain ⟨v, some, -⟩ := ascending.le_lastOf (orders.mem_iff.mpr (lastOf_mem held'))
      rw [held] at some
      cases some
  | some v =>
    obtain ⟨v', held', le⟩ := ascending'.le_lastOf (orders.mem_iff.mp (lastOf_mem held))
    obtain ⟨top, same, le'⟩ := ascending.le_lastOf (orders.mem_iff.mpr (lastOf_mem held'))
    obtain rfl : v = top := Option.some.inj (held.symm.trans same)
    rw [held', le_antisymm le le']

end MessagingSystem.Foundation.LastWrite
