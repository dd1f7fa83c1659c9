import MessagingSystem.Protocol.ThreadCreation

/-!
# One direct thread for each pair

`findOrCreateDirectConversation` is check-then-insert with a retry on a
duplicate key. However its calls interleave and whichever of them fail, the
store holds at most one direct thread of two users, and all calls for them that
return a document return that thread.
-/
namespace MessagingSystem.Guarantees.OneDirectThread
open Foundation Source.Server Protocol

/-- No two direct conversations have the same two participants. -/
def OneThreadPerPair (db : Database) : Prop :=
  db.conversations.Pairwise fun c d =>
    ¬ (c.isGroup = false ∧ d.isGroup = false ∧ c.participantIds.Perm d.participantIds)

/-- A call has returned the document. -/
def Returned (s : ThreadPool) (call : ThreadCall) (doc : ConversationDocument) : Prop :=
  (call, Program.done (.ok doc)) ∈ s.calls

/-- The document is a stored direct thread of exactly the two users. -/
def ThreadOfUsers (db : Database) (p : UserPair) (doc : ConversationDocument) : Prop :=
  doc ∈ db.conversations ∧ doc.isGroup = false ∧ doc.participantIds.Perm [p.userA, p.userB]

theorem one_thread_of_store {db : Database} (shape : ThreadStore db) : OneThreadPerPair db := by
  refine shape.pairs.imp_of_mem fun {c d} heldC heldD apart => ?_
  rintro ⟨directC, directD, sameUsers⟩
  obtain ⟨p, threadC⟩ := shape.threads c heldC directC
  obtain ⟨q, threadD⟩ := shape.threads d heldD directD
  have perm : p.users.Perm q.users := by
    rw [← threadC.users, ← threadD.users]
    exact sameUsers
  apply apart directC directD
  rw [threadC.key, threadD.key, UserPair.key_eq_of_users perm]

theorem threadOfUsers_of_holds {db : Database} {p : UserPair} {doc : ConversationDocument}
    (held : HoldsThread p doc db) : ThreadOfUsers db p doc := by
  refine ⟨held.2.1, held.2.2.direct, ?_⟩
  rw [held.2.2.users]
  exact p.users_perm

/-- Threads of one store have one id exactly when they belong to the same users. -/
theorem id_eq_iff {db : Database} {p q : UserPair} {c d : ConversationDocument}
    (heldC : HoldsThread p c db) (heldD : HoldsThread q d db) : c.id = d.id ↔ p.Same q := by
  have shape := heldC.1
  constructor
  · intro same
    obtain rfl := Collection.eq_of_key shape.ids heldC.2.1 heldD.2.1 same
    apply (UserPair.key_eq_iff p q).mp
    exact Option.some.inj (heldC.2.2.key.symm.trans heldD.2.2.key)
  · intro same
    have key := (UserPair.key_eq_iff p q).mpr same
    have thread : IsThreadOf p d :=
      ⟨heldD.2.2.direct, heldD.2.2.key.trans (by rw [key]),
        heldD.2.2.users.trans (UserPair.users_eq_of_key key.symm)⟩
    rw [shape.unique heldC.2.1 heldD.2.1 heldC.2.2 thread]

/-- In every state a run reaches there is one direct thread for each pair, the
calls for a pair return it, and pair keys tell pairs apart. -/
theorem one_thread_per_pair {start final : ThreadPool}
    {history : List (Transition ThreadPool (PoolEvent ThreadCall AppError))}
    (init : threadMachine.init start) (run : threadMachine.Run start history final) :
    OneThreadPerPair final.store ∧
      (∀ call doc, Returned final call doc → ThreadOfUsers final.store call.pair doc) ∧
      (∀ call doc call' doc', Returned final call doc → Returned final call' doc' →
        (doc.id = doc'.id ↔ call.pair.Same call'.pair)) ∧
      (∀ p q : UserPair, directPairKey p.userA p.userB = directPairKey q.userA q.userB ↔ p.Same q) := by
  have contracts := run.invariant
    (fun s event t contracts taken => contracts.preserved threadCalls_compatible taken)
    (Calls.Contracts.initial init.2 init.1)
  have held : ∀ call doc, Returned final call doc → HoldsThread call.pair doc final.store :=
    fun call doc returned => contracts.result returned
  refine ⟨one_thread_of_store contracts.1, ?_, ?_, UserPair.key_eq_iff⟩
  · intro call doc returned
    exact threadOfUsers_of_holds (held call doc returned)
  · intro call doc call' doc' first second
    exact id_eq_iff (held call doc first) (held call' doc' second)

section Runs

def aliceBob : UserPair := ⟨"alice", "bob", by decide, by decide, by decide⟩

def bobAlice : UserPair := ⟨"bob", "alice", by decide, by decide, by decide⟩

def noThreads : ThreadPool := ⟨{}, []⟩

theorem noThreads_init : threadMachine.init noThreads :=
  ⟨rfl, ⟨List.nodup_nil, fun _ held => (List.not_mem_nil held).elim, List.Pairwise.nil⟩⟩

/-- The ids the calls have returned. -/
def returnedIds (s : ThreadPool) : List (Option String) :=
  s.calls.map fun entry =>
    match entry.2 with
    | .done (.ok doc) => some doc.id
    | _ => none

/-- Both users open the thread at once: both find none, and the insert of the
second meets the index. -/
theorem one_thread_per_pair_opened_twice :
    ∃ history final, threadMachine.Run noThreads history final ∧
      returnedIds final = [some "c1", some "c1"] ∧ OneThreadPerPair final.store := by
  let events : List (PoolEvent ThreadCall AppError) :=
    [.takeUp ⟨aliceBob, "c1", 1, none⟩, .takeUp ⟨bobAlice, "c2", 2, none⟩, .advance 0, .advance 1, .advance 0,
      .advance 1, .advance 1, .advance 1]
  have checked : (Machine.trace threadCalls.next noThreads events).map
      (fun executed => returnedIds executed.2) = some [some "c1", some "c1"] := by decide
  obtain ⟨⟨history, final⟩, executed, ids⟩ := Option.map_eq_some_iff.mp checked
  have run : threadMachine.Run noThreads history final :=
    Machine.trace_run _ threadCalls.next_step executed
  exact ⟨history, final, run, ids, (one_thread_per_pair noThreads_init run).1⟩

end Runs

end MessagingSystem.Guarantees.OneDirectThread
