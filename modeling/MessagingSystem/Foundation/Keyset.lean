import Mathlib.Data.List.Sort

/-!
# Keyset pages

The elements of a list in the strict order of a key, and those after a bound. A
page begins after the last element of the page before it. `leading` are the pages
of one size up to the first one with an element that will not do.
-/
namespace MessagingSystem.Foundation.Keyset

variable {α K : Type*} [LinearOrder K] (key : α → K)

def Ordered (l : List α) : Prop := l.Pairwise fun a b => key a < key b

def sorted (l : List α) : List α := l.insertionSort fun a b => key a ≤ key b

/-- The element comes after a bound; without one, each does. -/
def isAfter (bound : Option K) (a : α) : Bool :=
  match bound with
  | some k => decide (k < key a)
  | none => true

def after (bound : Option K) (l : List α) : List α := l.filter (isAfter key bound)

variable {key}

theorem mem_sorted {l : List α} {a : α} : a ∈ sorted key l ↔ a ∈ l := List.mem_insertionSort _

theorem sorted_perm (l : List α) : (sorted key l).Perm l := List.perm_insertionSort _ _

/-- Distinct keys are sorted strictly. -/
theorem sorted_ordered {l : List α} (distinct : (l.map key).Nodup) : Ordered key (sorted key l) := by
  have weak : (sorted key l).Pairwise fun a b => key a ≤ key b := List.pairwise_insertionSort _ _
  have apart : (sorted key l).Pairwise fun a b => key a ≠ key b := by
    have keys : ((sorted key l).map key).Nodup := (((sorted_perm l).map key).nodup_iff).mpr distinct
    exact List.pairwise_map.mp keys
  exact (weak.and apart).imp fun both => lt_of_le_of_ne both.1 both.2

/-- There is one list in strict order with these elements. -/
theorem Ordered.eq_of_perm {l m : List α} (left : Ordered key l) (right : Ordered key m) (perm : l.Perm m) :
    l = m := by
  apply List.Perm.eq_of_pairwise (fun a b _ _ ab ba => absurd ab (lt_asymm ba)) left right perm

theorem Ordered.filter {l : List α} (ordered : Ordered key l) (p : α → Bool) : Ordered key (l.filter p) :=
  List.Pairwise.filter p ordered

/-- Sorting what a filter keeps is filtering what has been sorted. -/
theorem sorted_filter {l : List α} (distinct : (l.map key).Nodup) (p : α → Bool) :
    sorted key (l.filter p) = (sorted key l).filter p := by
  have kept : ((l.filter p).map key).Nodup := distinct.sublist ((List.filter_sublist (p := p)).map key)
  exact (sorted_ordered kept).eq_of_perm ((sorted_ordered distinct).filter p)
    ((sorted_perm _).trans ((sorted_perm l).symm.filter p))

/-- An update that keeps the keys can be made before or after sorting. -/
theorem sorted_map {l : List α} (f : α → α) (keeps : ∀ a, key (f a) = key a) :
    sorted key (l.map f) = (sorted key l).map f := by
  apply Eq.symm
  apply List.map_insertionSort
  intro a _ b _
  rw [keeps, keeps]

@[simp] theorem after_none (l : List α) : after key none l = l := List.filter_true l

/-- What comes after an element of the list. -/
theorem after_split {before rest : List α} {a : α} (ordered : Ordered key (before ++ a :: rest)) :
    after key (some (key a)) (before ++ a :: rest) = rest := by
  obtain ⟨-, tail, less⟩ := List.pairwise_append.mp ordered
  obtain ⟨above, -⟩ := List.pairwise_cons.mp tail
  have below : before.filter (fun b => decide (key a < key b)) = [] := by
    apply List.filter_eq_nil_iff.mpr
    intro b member
    simpa using (less b member a List.mem_cons_self).le
  have later : rest.filter (fun b => decide (key a < key b)) = rest := by
    apply List.filter_eq_self.mpr
    intro b member
    simpa using above b member
  unfold after isAfter
  dsimp only
  rw [List.filter_append, below, List.filter_cons_of_neg (by simp), later, List.nil_append]

section Pages

omit [LinearOrder K]

variable {n : Nat} {good : α → Bool}

/-- The pages of `n + 1` elements before the first one with an element that is not good. -/
def leading (n : Nat) (good : α → Bool) (l : List α) : List α :=
  if l = [] then []
  else if (l.take (n + 1)).all good then l.take (n + 1) ++ leading n good (l.drop (n + 1))
  else []
termination_by l.length
decreasing_by
  rename_i nonempty _
  have positive := List.length_pos_of_ne_nil nonempty
  rw [List.length_drop]
  omega

theorem leading_nil : leading n good [] = [] := by
  rw [leading, if_pos rfl]

theorem leading_good {l : List α} (page : (l.take (n + 1)).all good = true) :
    leading n good l = l.take (n + 1) ++ leading n good (l.drop (n + 1)) := by
  by_cases empty : l = []
  · rw [empty, List.take_nil, List.drop_nil, List.nil_append]
  · rw [leading, if_neg empty, if_pos page]

theorem leading_bad {l : List α} (page : ¬ (l.take (n + 1)).all good = true) : leading n good l = [] := by
  rw [leading]
  split <;> rfl

theorem leading_begins (l : List α) : leading n good l <+: l := by
  fun_induction leading n good l with
  | case1 => exact List.prefix_refl _
  | case2 l nonempty page ih =>
    have whole := List.prefix_append_right_inj (l.take (n + 1)) |>.mpr ih
    rwa [List.take_append_drop] at whole
  | case3 l nonempty page => exact ⟨l, rfl⟩

/-- An element is on a leading page exactly when its page and those before are good throughout. -/
theorem lt_leading_iff (l : List α) {i : Nat} (inside : i < l.length) :
    i < (leading n good l).length ↔
      ∀ j a, l[j]? = some a → j / (n + 1) ≤ i / (n + 1) → good a = true := by
  fun_induction leading n good l generalizing i with
  | case1 => cases inside
  | case2 l nonempty page ih =>
    rw [List.all_eq_true] at page
    have first : ∀ j a, l[j]? = some a → j < n + 1 → good a = true := by
      intro j a here small
      apply page a
      apply List.mem_of_getElem? (i := j)
      rw [List.getElem?_take_of_lt small]
      exact here
    rw [List.length_append, List.length_take]
    by_cases early : i < n + 1
    · apply iff_of_true
      · omega
      · intro j a here earlier
        have zero : i / (n + 1) = 0 := Nat.div_eq_of_lt early
        apply first j a here
        rw [zero, Nat.le_zero, Nat.div_eq_zero_iff] at earlier
        omega
    · obtain ⟨k, rfl⟩ : ∃ k, i = k + (n + 1) := ⟨i - (n + 1), by omega⟩
      have rest := ih (i := k) (by rw [List.length_drop]; omega)
      have shift : ∀ m, (m + (n + 1)) / (n + 1) = m / (n + 1) + 1 := fun m =>
        Nat.add_div_right m (Nat.succ_pos n)
      have bound : k + (n + 1) < min (n + 1) l.length + (leading n good (l.drop (n + 1))).length ↔
          k < (leading n good (l.drop (n + 1))).length := by omega
      rw [bound, rest, shift]
      constructor
      · intro later j a here earlier
        by_cases small : j < n + 1
        · exact first j a here small
        · obtain ⟨m, rfl⟩ : ∃ m, j = m + (n + 1) := ⟨j - (n + 1), by omega⟩
          rw [shift] at earlier
          apply later m a _ (by omega)
          rw [List.getElem?_drop, Nat.add_comm]
          exact here
      · intro all m a here earlier
        apply all (m + (n + 1)) a _ (by rw [shift]; omega)
        rw [List.getElem?_drop, Nat.add_comm] at here
        exact here
  | case3 l nonempty page =>
    apply iff_of_false (by simp)
    intro all
    apply page
    rw [List.all_eq_true]
    intro a member
    obtain ⟨j, here⟩ := List.getElem?_of_mem member
    rw [List.getElem?_take] at here
    split at here
    · rename_i small
      apply all j a here
      rw [Nat.div_eq_of_lt small]
      exact Nat.zero_le _
    · cases here

/-- The same of an element that its image under `f` tells apart. -/
theorem map_mem_leading_iff {β : Type*} {f : α → β} {l : List α} (distinct : (l.map f).Nodup) {i : Nat} {a : α}
    (here : l[i]? = some a) : f a ∈ (leading n good l).map f ↔
      ∀ j b, l[j]? = some b → j / (n + 1) ≤ i / (n + 1) → good b = true := by
  obtain ⟨inside, -⟩ := List.getElem?_eq_some_iff.mp here
  rw [← lt_leading_iff l inside]
  have place : ∀ (k : Nat) (b : α), (leading n good l)[k]? = some b → l[k]? = some b := by
    intro k b found
    obtain ⟨tail, whole⟩ := @leading_begins _ n good l
    have early := (List.getElem?_eq_some_iff.mp found).1
    rw [← whole, List.getElem?_append_left early, found]
  constructor
  · intro member
    obtain ⟨b, leads, same⟩ := List.mem_map.mp member
    obtain ⟨k, found⟩ := List.getElem?_of_mem leads
    have early := (List.getElem?_eq_some_iff.mp found).1
    have images : (l.map f)[k]? = (l.map f)[i]? := by
      rw [List.getElem?_map, List.getElem?_map, place k b found, here, Option.map_some, Option.map_some, same]
    have index : k = i := by
      apply (List.getElem?_inj _ distinct).mp images
      rw [List.length_map]
      exact (List.getElem?_eq_some_iff.mp (place k b found)).1
    omega
  · intro early
    obtain ⟨b, found⟩ : ∃ b, (leading n good l)[i]? = some b := ⟨_, List.getElem?_eq_getElem early⟩
    have leads := place i b found
    rw [here, Option.some.injEq] at leads
    rw [leads]
    exact List.mem_map_of_mem (List.mem_of_getElem? found)

end Pages

end MessagingSystem.Foundation.Keyset
