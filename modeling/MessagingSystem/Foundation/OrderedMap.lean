import Mathlib.Data.List.Induction
import Mathlib.Data.List.Nodup

/-!
# Insertion-ordered maps

A JavaScript `Map` as the list of its entries: a new key goes last, a key that
is set again keeps its place. Built from a list of entries, the last value of
a key wins and each key occurs once.
-/
namespace MessagingSystem.Foundation.OrderedMap

variable {K V : Type*} [DecidableEq K]

/-- `map.set(k, v)`. -/
def set (k : K) (v : V) : List (K × V) → List (K × V)
  | [] => [(k, v)]
  | entry :: rest => if entry.1 = k then (k, v) :: rest else entry :: set k v rest

/-- `map.get(k)`. -/
def get (map : List (K × V)) (k : K) : Option V :=
  (map.find? fun entry => entry.1 = k).map fun entry => entry.2

/-- The map a loop of `set` builds. -/
def ofEntries (entries : List (K × V)) : List (K × V) :=
  entries.foldl (fun map entry => set entry.1 entry.2 map) []

theorem get_set (map : List (K × V)) (k j : K) (v : V) :
    get (set k v map) j = if j = k then some v else get map j := by
  induction map with
  | nil =>
    by_cases h : j = k
    · simp [set, get, h]
    · simp [set, get, h, Ne.symm h]
  | cons entry rest ih =>
    unfold get at ih ⊢
    by_cases hk : entry.1 = k
    · by_cases hj : j = k
      · simp [set, hk, hj]
      · simp [set, hk, hj, Ne.symm hj]
    · by_cases he : entry.1 = j
      · have hj : j ≠ k := he ▸ hk
        simp [set, he, hj]
      · simp only [set, hk, if_false, List.find?_cons, he, decide_false]
        exact ih

theorem keys_set (k : K) (v : V) (map : List (K × V)) :
    (set k v map).map Prod.fst =
      if k ∈ map.map Prod.fst then map.map Prod.fst else map.map Prod.fst ++ [k] := by
  induction map with
  | nil => simp [set]
  | cons entry rest ih =>
    by_cases hk : entry.1 = k
    · simp [set, hk]
    · simp only [set, hk, if_false, List.map_cons, ih, List.mem_cons, Ne.symm hk, false_or]
      split <;> simp

theorem mem_set {k : K} {v : V} {map : List (K × V)} {entry : K × V} (member : entry ∈ set k v map) :
    entry = (k, v) ∨ entry ∈ map := by
  induction map with
  | nil => exact .inl (List.mem_singleton.mp member)
  | cons first rest ih =>
    rw [set] at member
    split at member
    · rcases List.mem_cons.mp member with new | old
      · exact .inl new
      · exact .inr (List.mem_cons_of_mem _ old)
    · rcases List.mem_cons.mp member with same | later
      · exact .inr (same ▸ List.mem_cons_self)
      · exact (ih later).imp_right (List.mem_cons_of_mem _)

/-- A new key goes last. -/
theorem set_fresh (k : K) (v : V) {map : List (K × V)} (fresh : k ∉ map.map Prod.fst) :
    set k v map = map ++ [(k, v)] := by
  induction map with
  | nil => rfl
  | cons entry rest ih =>
    rw [List.map_cons, List.mem_cons, not_or] at fresh
    rw [set, if_neg (Ne.symm fresh.1), ih fresh.2, List.cons_append]

theorem nodup_keys_set {map : List (K × V)} (distinct : (map.map Prod.fst).Nodup) (k : K) (v : V) :
    ((set k v map).map Prod.fst).Nodup := by
  rw [keys_set]
  split
  · exact distinct
  · rename_i fresh
    exact List.nodup_append.mpr ⟨distinct, List.nodup_singleton _, by
      intro x hx y hy
      rw [List.mem_singleton.mp hy]
      exact ne_of_mem_of_not_mem hx fresh⟩

theorem get_eq_some_iff {map : List (K × V)} (distinct : (map.map Prod.fst).Nodup) {k : K} {v : V} :
    get map k = some v ↔ (k, v) ∈ map := by
  constructor
  · intro h
    obtain ⟨entry, found, rfl⟩ := Option.map_eq_some_iff.mp h
    have same : entry.1 = k := by simpa using List.find?_some found
    exact same ▸ List.mem_of_find?_eq_some found
  · intro member
    cases found : map.find? fun entry => entry.1 = k with
    | none => simpa using List.find?_eq_none.mp found (k, v) member
    | some entry =>
      have same : entry.1 = k := by simpa using List.find?_some found
      have equal : entry = (k, v) :=
        List.inj_on_of_nodup_map distinct (List.mem_of_find?_eq_some found) member same
      simp [get, found, equal]

section OfEntries

theorem ofEntries_append (entries : List (K × V)) (k : K) (v : V) :
    ofEntries (entries ++ [(k, v)]) = set k v (ofEntries entries) := by
  simp [ofEntries]

theorem nodup_keys_ofEntries (entries : List (K × V)) :
    ((ofEntries entries).map Prod.fst).Nodup := by
  induction entries using List.reverseRecOn with
  | nil => exact List.nodup_nil
  | append_singleton entries entry ih =>
    rw [ofEntries_append]
    exact nodup_keys_set ih _ _

/-- The last value of a key wins. -/
theorem get_ofEntries (entries : List (K × V)) (k : K) :
    get (ofEntries entries) k = get entries.reverse k := by
  induction entries using List.reverseRecOn with
  | nil => rfl
  | append_singleton entries entry ih =>
    rw [ofEntries_append, get_set, ih]
    by_cases h : k = entry.1
    · simp [get, h]
    · simp [get, h, Ne.symm h]

theorem mem_keys_ofEntries (entries : List (K × V)) :
    ∀ k, k ∈ (ofEntries entries).map Prod.fst ↔ k ∈ entries.map Prod.fst := by
  induction entries using List.reverseRecOn with
  | nil => exact fun _ => Iff.rfl
  | append_singleton entries entry ih =>
    intro k
    rw [ofEntries_append, keys_set]
    simp only [List.map_append, List.map_singleton, List.mem_append, List.mem_singleton]
    split
    · rename_i held
      rw [ih] at held ⊢
      exact ⟨Or.inl, fun h => h.elim id fun h => h ▸ held⟩
    · simp only [List.mem_append, List.mem_singleton, ih]

/-- Every entry of the map was set. -/
theorem mem_of_mem_ofEntries {entries : List (K × V)} {entry : K × V}
    (held : entry ∈ ofEntries entries) : entry ∈ entries := by
  have found := (get_eq_some_iff (nodup_keys_ofEntries entries)).mpr held
  rw [get_ofEntries] at found
  obtain ⟨original, located, value⟩ := Option.map_eq_some_iff.mp found
  have same : original.1 = entry.1 := by simpa using List.find?_some located
  have equal : original = entry := Prod.ext same value
  exact equal ▸ List.mem_reverse.mp (List.mem_of_find?_eq_some located)

/-- Entries with distinct keys are the map they build. -/
theorem ofEntries_of_nodup {entries : List (K × V)} (distinct : (entries.map Prod.fst).Nodup) :
    ofEntries entries = entries := by
  induction entries using List.reverseRecOn with
  | nil => rfl
  | append_singleton entries entry ih =>
    rw [List.map_append, List.nodup_append] at distinct
    have fresh : entry.1 ∉ entries.map Prod.fst := fun member =>
      distinct.2.2 entry.1 member entry.1 (by simp) rfl
    rw [ofEntries_append, ih distinct.1, set_fresh entry.1 entry.2 fresh]

end OfEntries

end MessagingSystem.Foundation.OrderedMap
