import Mathlib.Data.List.Sort

/-!
# The first of a ranking

Sorting by a total preorder and cutting off leaves the first elements of the
ranking: none that is left out comes strictly before one that stays.
-/
namespace MessagingSystem.Foundation.TopRanked

variable {α β : Type*} (r : α → α → Prop) [DecidableRel r]

/-- The `k` first elements. -/
def top (k : Nat) (xs : List α) : List α := (xs.insertionSort r).take k

variable {r} {k : Nat} {xs : List α}

theorem length_top : (top r k xs).length = min k xs.length := by
  unfold top
  rw [List.length_take, List.length_insertionSort]

theorem mem_of_mem_top {a : α} (member : a ∈ top r k xs) : a ∈ xs :=
  (List.mem_insertionSort r).mp (List.mem_of_mem_take member)

theorem nodup_map_top {f : α → β} (distinct : (xs.map f).Nodup) : ((top r k xs).map f).Nodup := by
  have sorted : ((xs.insertionSort r).map f).Nodup :=
    ((List.perm_insertionSort r xs).map f).nodup_iff.mpr distinct
  exact ((List.take_sublist k _).map f).nodup sorted

/-- The order of the images is the order of the elements. -/
theorem map_top {s : β → β → Prop} [DecidableRel s] {f : α → β} (same : ∀ a b, r a b ↔ s (f a) (f b)) :
    (top r k xs).map f = top s k (xs.map f) := by
  unfold top
  rw [List.map_take, List.map_insertionSort r s f xs fun a _ b _ => same a b]

section Preorder

variable [Std.Total r] [IsTrans α r]

theorem top_ordered : (top r k xs).Pairwise r :=
  (List.pairwise_insertionSort r xs).sublist (List.take_sublist k _)

/-- What is left out does not come before what stays. -/
theorem top_first {a b : α} (stays : a ∈ top r k xs) (member : b ∈ xs) (out : b ∉ top r k xs) : r a b := by
  have split := List.take_append_drop k (xs.insertionSort r)
  have sorted := List.pairwise_insertionSort r xs
  rw [← split] at sorted
  obtain ⟨-, -, before⟩ := List.pairwise_append.mp sorted
  have inside : b ∈ (xs.insertionSort r).take k ++ (xs.insertionSort r).drop k := by
    rw [split]
    exact (List.mem_insertionSort r).mpr member
  rcases List.mem_append.mp inside with kept | rest
  · exact absurd kept out
  · exact before a stays b rest

end Preorder

end MessagingSystem.Foundation.TopRanked
