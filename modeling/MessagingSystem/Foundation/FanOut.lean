import Mathlib.Data.List.Dedup
import Mathlib.Data.List.Perm.Basic
import Mathlib.Data.List.ProdSigma

/-!
# Fan-out over consumer queues

Every message is copied to each queue, and a queue's copy is consumed once, by
one of the queue's consumers. A delivery is the list of these consumptions in
any order. A consumer with a queue of its own gets every message once; one that
shares its queue may get none.
-/
namespace MessagingSystem.Foundation.FanOut

variable {C M Q X : Type*} [DecidableEq C] [DecidableEq Q]

/-- One consumption, with what the consumer observed at that time. -/
structure Delivered (C M X : Type*) where
  consumer : C
  message : M
  context : X

variable (queueOf : C → Q) (consumers : List C) (messages : List M)

/-- Every queue's copy of every message is consumed exactly once. -/
def CompleteDelivery (history : List (Delivered C M X)) : Prop :=
  (∀ d ∈ history, d.consumer ∈ consumers) ∧
  (history.map fun d => (queueOf d.consumer, d.message)).Perm
    ((consumers.map queueOf).dedup ×ˢ messages)

/-- What one consumer consumed. -/
def consumedBy (c : C) (history : List (Delivered C M X)) : List (Delivered C M X) :=
  history.filter fun d => d.consumer = c

variable {queueOf consumers messages}

theorem filter_product {queues : List Q} (distinct : queues.Nodup) {q : Q} (member : q ∈ queues)
    (messages : List M) :
    (queues ×ˢ messages).filter (fun pair => decide (pair.1 = q)) =
      messages.map fun m => (q, m) := by
  induction queues with
  | nil => cases member
  | cons head rest ih =>
    rw [List.product_cons, List.filter_append]
    obtain ⟨fresh, distinctRest⟩ := List.nodup_cons.mp distinct
    by_cases same : head = q
    · subst same
      have none : (rest ×ˢ messages).filter (fun pair => decide (pair.1 = head)) = [] := by
        refine List.filter_eq_nil_iff.mpr fun pair hpair => ?_
        have := (List.mem_product.mp hpair).1
        simpa using ne_of_mem_of_not_mem this fresh
      rw [none, List.append_nil, List.filter_eq_self.mpr (by simp)]
    · have skip : (messages.map fun m => (head, m)).filter (fun pair => decide (pair.1 = q)) = [] :=
        List.filter_eq_nil_iff.mpr (by simp [same])
      rw [skip, List.nil_append]
      exact ih distinctRest ((List.mem_cons.mp member).resolve_left (Ne.symm same))

/-- A consumer with a queue of its own consumes every message once. -/
theorem CompleteDelivery.own_messages {history : List (Delivered C M X)}
    (complete : CompleteDelivery queueOf consumers messages history) {c : C}
    (member : c ∈ consumers) (alone : ∀ c' ∈ consumers, queueOf c' = queueOf c → c' = c) :
    ((consumedBy c history).map fun d => d.message).Perm messages := by
  obtain ⟨known, perm⟩ := complete
  have queued := perm.filter fun pair => decide (pair.1 = queueOf c)
  rw [filter_product (List.nodup_dedup _)
    (List.mem_dedup.mpr (List.mem_map_of_mem member)) messages, List.filter_map] at queued
  have own : history.filter ((fun pair : Q × M => decide (pair.1 = queueOf c)) ∘
      fun d => (queueOf d.consumer, d.message)) = consumedBy c history := by
    refine List.filter_congr fun d hd => ?_
    simp only [Function.comp_apply, decide_eq_decide]
    exact ⟨alone d.consumer (known d hd), fun same => same ▸ rfl⟩
  rw [own] at queued
  simpa [Function.comp_def] using queued.map Prod.snd

omit [DecidableEq C] in
/-- Any choice of a consumer for each queue is a complete delivery. -/
theorem exists_complete (pick : Q → C) (context : X) (messages : List M)
    (member : ∀ q ∈ consumers.map queueOf, pick q ∈ consumers ∧ queueOf (pick q) = q) :
    ∃ history : List (Delivered C M X), CompleteDelivery queueOf consumers messages history ∧
      ∀ d ∈ history, ∃ q ∈ consumers.map queueOf, d.consumer = pick q := by
  refine ⟨((consumers.map queueOf).dedup ×ˢ messages).map fun pair =>
    ⟨pick pair.1, pair.2, context⟩, ⟨?_, ?_⟩, ?_⟩
  · intro d hd
    obtain ⟨pair, hpair, rfl⟩ := List.mem_map.mp hd
    exact (member pair.1 (List.mem_dedup.mp (List.mem_product.mp hpair).1)).1
  · rw [List.map_map]
    refine List.Perm.of_eq ((List.map_congr_left fun pair hpair => ?_).trans (List.map_id _))
    exact Prod.ext (member pair.1 (List.mem_dedup.mp (List.mem_product.mp hpair).1)).2 rfl
  · intro d hd
    obtain ⟨pair, hpair, rfl⟩ := List.mem_map.mp hd
    exact ⟨pair.1, List.mem_dedup.mp (List.mem_product.mp hpair).1, rfl⟩

omit [DecidableEq C] in
theorem exists_delivery (c : C) (context : X) (messages : List M) :
    ∃ history : List (Delivered C M X), CompleteDelivery queueOf consumers messages history := by
  let pick (q : Q) : C := (consumers.find? fun k => queueOf k = q).getD c
  have picked : ∀ q ∈ consumers.map queueOf, pick q ∈ consumers ∧ queueOf (pick q) = q := by
    intro q hq
    obtain ⟨k, hk, same⟩ := List.mem_map.mp hq
    cases found : consumers.find? fun k => queueOf k = q with
    | none => exact absurd (List.find?_eq_none.mp found k hk) (by simp [same])
    | some k' =>
      have here : pick q = k' := by
        change (List.find? _ consumers).getD c = k'
        rw [found]
        rfl
      rw [here]
      exact ⟨List.mem_of_find?_eq_some found, by simpa using List.find?_some found⟩
  obtain ⟨history, complete, -⟩ := exists_complete pick context messages picked
  exact ⟨history, complete⟩

omit [DecidableEq C] in
/-- Nothing but the messages is consumed. -/
theorem CompleteDelivery.mem_messages {history : List (Delivered C M X)}
    (complete : CompleteDelivery queueOf consumers messages history) {d : Delivered C M X}
    (member : d ∈ history) : d.message ∈ messages := by
  have queued := complete.2.mem_iff.mp
    (List.mem_map_of_mem (f := fun d => (queueOf d.consumer, d.message)) member)
  exact (List.mem_product.mp queued).2

/-- A consumer whose queue has another consumer may consume nothing. -/
theorem exists_starved {c other : C} (otherMember : other ∈ consumers) (different : other ≠ c)
    (shared : queueOf other = queueOf c) (context : X) (messages : List M) :
    ∃ history : List (Delivered C M X), CompleteDelivery queueOf consumers messages history ∧
      consumedBy c history = [] := by
  have replacement : ∀ q ∈ consumers.map queueOf, ∃ k ∈ consumers, queueOf k = q ∧ k ≠ c := by
    intro q hq
    obtain ⟨k, hk, rfl⟩ := List.mem_map.mp hq
    by_cases same : k = c
    · exact ⟨other, otherMember, same ▸ shared, different⟩
    · exact ⟨k, hk, rfl, same⟩
  let pick (q : Q) : C := (consumers.find? fun k => queueOf k = q ∧ k ≠ c).getD other
  have picked : ∀ q ∈ consumers.map queueOf,
      pick q ∈ consumers ∧ queueOf (pick q) = q ∧ pick q ≠ c := by
    intro q hq
    obtain ⟨k, hk, same, ne⟩ := replacement q hq
    cases found : consumers.find? fun k => queueOf k = q ∧ k ≠ c with
    | none => exact absurd (List.find?_eq_none.mp found k hk) (by simp [same, ne])
    | some k' =>
      have spec : queueOf k' = q ∧ k' ≠ c := by simpa using List.find?_some found
      have here : pick q = k' := by
        change (List.find? _ consumers).getD other = k'
        rw [found]
        rfl
      rw [here]
      exact ⟨List.mem_of_find?_eq_some found, spec⟩
  obtain ⟨history, complete, uses⟩ := exists_complete pick context messages
    fun q hq => ⟨(picked q hq).1, (picked q hq).2.1⟩
  refine ⟨history, complete, List.filter_eq_nil_iff.mpr fun d hd => ?_⟩
  obtain ⟨q, hq, used⟩ := uses d hd
  simpa [used] using (picked q hq).2.2

end MessagingSystem.Foundation.FanOut
