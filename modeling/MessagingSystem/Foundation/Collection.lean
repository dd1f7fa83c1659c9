import Mathlib.Data.List.Nodup

/-!
# Document collections

A collection is the list of its documents. A filter reads or changes the first
document it matches, which is the only one when the filter fixes a unique key.
-/
namespace MessagingSystem.Foundation.Collection

variable {D K V : Type*}

/-- Modify the first document the filter matches. -/
def updateFirst (filter : D → Bool) (update : D → D) : List D → List D
  | [] => []
  | d :: rest => if filter d then update d :: rest else d :: updateFirst filter update rest

/-- Insert unless a document has the same unique key. -/
def insertUnique [DecidableEq K] (key : D → K) (d : D) (docs : List D) : Option (List D) :=
  if key d ∈ docs.map key then none else some (docs ++ [d])

/-- A filter that fixes a unique key updates exactly the documents it matches. -/
theorem updateFirst_eq_map [DecidableEq K] {key : D → K} {docs : List D}
    (unique : (docs.map key).Nodup) {filter : D → Bool} (k : K)
    (fixes : ∀ d ∈ docs, filter d = true → key d = k) (update : D → D) :
    updateFirst filter update docs = docs.map fun d => if filter d then update d else d := by
  induction docs with
  | nil => rfl
  | cons d rest ih =>
    simp only [List.map_cons, List.nodup_cons] at unique
    have fixesRest : ∀ x ∈ rest, filter x = true → key x = k := fun x hx => fixes x (by simp [hx])
    simp only [updateFirst, List.map_cons]
    cases matched : filter d with
    | false => simp [ih unique.2 fixesRest]
    | true =>
      have untouched : (rest.map fun x => if filter x then update x else x) = rest := by
        refine (List.map_congr_left fun x hx => ?_).trans (List.map_id rest)
        have different : filter x = false := by
          by_contra h
          have same : key x = key d :=
            (fixesRest x hx (by simpa using h)).trans (fixes d (by simp) matched).symm
          exact unique.1 (List.mem_map.mpr ⟨x, hx, same⟩)
        simp [different]
      simp [untouched]

/-- A document after an update was there before, or is the updated matching one. -/
theorem mem_updateFirst_matched {filter : D → Bool} {update : D → D} {docs : List D} {d : D}
    (member : d ∈ updateFirst filter update docs) :
    d ∈ docs ∨ ∃ e ∈ docs, filter e = true ∧ d = update e := by
  induction docs with
  | nil => cases member
  | cons x rest ih =>
    simp only [updateFirst] at member
    split at member
    · rename_i matched
      rcases List.mem_cons.mp member with rfl | later
      · exact .inr ⟨x, by simp, matched, rfl⟩
      · exact .inl (List.mem_cons_of_mem x later)
    · rcases List.mem_cons.mp member with rfl | later
      · exact .inl List.mem_cons_self
      · exact (ih later).imp (List.mem_cons_of_mem x) fun ⟨e, held, matched, same⟩ =>
          ⟨e, List.mem_cons_of_mem x held, matched, same⟩

theorem mem_updateFirst {filter : D → Bool} {update : D → D} {docs : List D} {d : D}
    (member : d ∈ updateFirst filter update docs) : d ∈ docs ∨ ∃ e ∈ docs, d = update e :=
  (mem_updateFirst_matched member).imp_right fun ⟨e, held, _, same⟩ => ⟨e, held, same⟩

theorem map_key_updateFirst (key : D → K) (filter : D → Bool) (update : D → D)
    (keeps : ∀ d, key (update d) = key d) (docs : List D) :
    (updateFirst filter update docs).map key = docs.map key := by
  induction docs with
  | nil => rfl
  | cons d rest ih =>
    simp only [updateFirst]
    split
    · simp [keeps]
    · simp [ih]

/-- A lookup by key after an update that keeps the keys. -/
theorem find_updateFirst [DecidableEq K] {key : D → K} {filter : D → Bool} {update : D → D}
    (keeps : ∀ d, key (update d) = key d) {docs : List D} {k : K} {d : D}
    (found : docs.find? (fun x => key x = k) = some d) :
    ∃ d', (updateFirst filter update docs).find? (fun x => key x = k) = some d' ∧
      (d' = d ∨ d' = update d) := by
  induction docs with
  | nil => cases found
  | cons x rest ih =>
    simp only [updateFirst]
    by_cases here : key x = k
    · obtain rfl : x = d := by simpa [here] using found
      split
      · exact ⟨update x, by simp [keeps, here], .inr rfl⟩
      · exact ⟨x, by simp [here], .inl rfl⟩
    · have later : rest.find? (fun x => key x = k) = some d := by simpa [here] using found
      obtain ⟨d', held, same⟩ := ih later
      split
      · exact ⟨d, by simpa [keeps, here] using later, .inl rfl⟩
      · exact ⟨d', by simpa [here] using held, same⟩

/-- The filter of an update finds the updated document. -/
theorem find_updateFirst_self {filter : D → Bool} {update : D → D}
    (keeps : ∀ d, filter d = true → filter (update d) = true) (docs : List D) :
    (updateFirst filter update docs).find? filter = (docs.find? filter).map update := by
  induction docs with
  | nil => rfl
  | cons d rest ih =>
    simp only [updateFirst]
    cases matched : filter d with
    | true => simp [keeps d matched, matched]
    | false => simpa [matched] using ih

/-- A disjoint filter does not see an update. -/
theorem find_updateFirst_other {filter other : D → Bool} {update : D → D}
    (disjoint : ∀ d, filter d = true → other d = false ∧ other (update d) = false)
    (docs : List D) : (updateFirst filter update docs).find? other = docs.find? other := by
  induction docs with
  | nil => rfl
  | cons d rest ih =>
    simp only [updateFirst]
    cases matched : filter d with
    | true => simp [disjoint d matched]
    | false => cases seen : other d <;> simp [seen, ih]

/-- Deleting the first match of a filter that fixes a unique key leaves no match. -/
theorem find_eraseP {key : D → K} {docs : List D} (unique : (docs.map key).Nodup) {filter : D → Bool}
    (k : K) (fixes : ∀ d ∈ docs, filter d = true → key d = k) :
    (docs.eraseP filter).find? filter = none := by
  induction docs with
  | nil => rfl
  | cons d rest ih =>
    simp only [List.map_cons, List.nodup_cons] at unique
    cases matched : filter d with
    | true =>
      rw [List.eraseP_cons_of_pos matched, List.find?_eq_none]
      intro x held also
      apply unique.1
      rw [fixes d (by simp) matched, ← fixes x (by simp [held]) also]
      exact List.mem_map_of_mem held
    | false =>
      rw [List.eraseP_cons_of_neg (by simp [matched]), List.find?_cons_of_neg (by simp [matched])]
      exact ih unique.2 fun x held => fixes x (by simp [held])

/-- A disjoint filter does not see a deletion. -/
theorem find_eraseP_other {filter other : D → Bool} (disjoint : ∀ d, filter d = true → other d = false)
    (docs : List D) : (docs.eraseP filter).find? other = docs.find? other := by
  induction docs with
  | nil => rfl
  | cons d rest ih =>
    cases matched : filter d with
    | true =>
      rw [List.eraseP_cons_of_pos matched, List.find?_cons_of_neg (by simp [disjoint d matched])]
    | false =>
      rw [List.eraseP_cons_of_neg (by simp [matched])]
      cases seen : other d <;> simp [seen, ih]

theorem insertUnique_nodup [DecidableEq K] {key : D → K} {d : D} {docs docs' : List D}
    (unique : (docs.map key).Nodup) (inserted : insertUnique key d docs = some docs') :
    docs' = docs ++ [d] ∧ (docs'.map key).Nodup := by
  unfold insertUnique at inserted
  split at inserted
  · cases inserted
  · rename_i fresh
    cases inserted
    refine ⟨rfl, ?_⟩
    rw [List.map_append]
    exact List.nodup_append.mpr ⟨unique, List.nodup_singleton _, by
      intro x hx y hy same
      rw [List.map_singleton, List.mem_singleton] at hy
      exact fresh (hy ▸ same ▸ hx)⟩

/-- Two documents of a collection with the same unique key are one document. -/
theorem eq_of_key {key : D → K} {docs : List D} (unique : (docs.map key).Nodup) {d e : D}
    (hd : d ∈ docs) (he : e ∈ docs) (same : key d = key e) : d = e :=
  List.inj_on_of_nodup_map unique hd he same

/-- The lookup by a unique key. -/
theorem find_key [DecidableEq K] {key : D → K} {docs : List D} (unique : (docs.map key).Nodup)
    {k : K} {d : D} : docs.find? (fun x => key x = k) = some d ↔ d ∈ docs ∧ key d = k := by
  constructor
  · intro found
    exact ⟨List.mem_of_find?_eq_some found, by simpa using List.find?_some found⟩
  · rintro ⟨member, rfl⟩
    cases found : docs.find? fun x => key x = key d with
    | none => simpa using List.find?_eq_none.mp found d member
    | some e =>
      have same : key e = key d := by simpa using List.find?_some found
      rw [eq_of_key unique (List.mem_of_find?_eq_some found) member same]

end MessagingSystem.Foundation.Collection
