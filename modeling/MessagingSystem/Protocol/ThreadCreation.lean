import Mathlib.Data.List.Pairwise
import Mathlib.Data.List.Permutation
import MessagingSystem.Foundation.Interference
import MessagingSystem.Source.Server.Conversations

/-!
# Concurrent thread creation

Any number of `findOrCreateDirectConversation` calls, one store command a step.
A call looks the pair up, inserts a thread when there is none, and looks the
pair up again when the insert meets the unique index.
-/
namespace MessagingSystem.Protocol
open Foundation Source.Server

/-- Two users, in the order a caller names them. -/
structure UserPair where
  userA : String
  userB : String
  different : userA ≠ userB
  plainA : '|' ∉ userA.toList
  plainB : '|' ∉ userB.toList

namespace UserPair

def key (p : UserPair) : String := directPairKey p.userA p.userB

/-- `[userA, userB].sort()`. -/
def users (p : UserPair) : List String :=
  [(EcmaText.sortPair p.userA p.userB).1, (EcmaText.sortPair p.userA p.userB).2]

/-- The same two users, in either order. -/
def Same (p q : UserPair) : Prop :=
  (p.userA = q.userA ∧ p.userB = q.userB) ∨ (p.userA = q.userB ∧ p.userB = q.userA)

theorem users_perm (p : UserPair) : p.users.Perm [p.userA, p.userB] := by
  unfold users
  rcases EcmaText.sortPair_cases p.userA p.userB with sorted | sorted
  · rw [sorted]
  · rw [sorted]
    exact .swap p.userA p.userB []

theorem Same.sorted {p q : UserPair} (same : p.Same q) :
    EcmaText.sortPair p.userA p.userB = EcmaText.sortPair q.userA q.userB := by
  rcases same with ⟨first, second⟩ | ⟨first, second⟩
  · rw [first, second]
  · rw [first, second, EcmaText.sortPair_comm]

/-- Pairs have one key exactly when they are the same two users. -/
theorem key_eq_iff (p q : UserPair) : p.key = q.key ↔ p.Same q := by
  constructor
  · intro same
    have sorted := directPairKey_inj p.plainA p.plainB q.plainA q.plainB same
    rcases EcmaText.sortPair_cases p.userA p.userB with first | first <;>
      rcases EcmaText.sortPair_cases q.userA q.userB with second | second <;>
      rw [first, second, Prod.mk.injEq] at sorted
    · exact .inl sorted
    · exact .inr sorted
    · exact .inr sorted.symm
    · exact .inl sorted.symm
  · intro same
    unfold key directPairKey
    rw [same.sorted]

theorem users_eq_of_key {p q : UserPair} (same : p.key = q.key) : p.users = q.users := by
  unfold users
  rw [((key_eq_iff p q).mp same).sorted]

theorem key_eq_of_users {p q : UserPair} (same : p.users.Perm q.users) : p.key = q.key := by
  have pair := (p.users_perm.symm.trans same).trans q.users_perm
  rw [key_eq_iff]
  rcases List.perm_pair.mp pair with both | both
  · exact .inl (by simpa using both)
  · exact .inr (by simpa using both)

end UserPair

/-- A call, with the UUID and the time it draws and the expiry date it is given. -/
structure ThreadCall where
  pair : UserPair
  uuid : String
  now : Nat
  guestDataExpiresAt : Option Nat

/-- The document a call inserts. -/
def ThreadCall.newThread (call : ThreadCall) : ConversationDocument :=
  { id := call.uuid
    directPairKey := some call.pair.key
    participantIds := call.pair.users
    isGroup := false
    createdAt := call.now
    updatedAt := call.now
    guestDataExpiresAt := call.guestDataExpiresAt }

def threadCalls : Calls ServerCommand AppError ConversationDocument Database ThreadCall where
  program call := findOrCreateDirectConversation call.pair.userA call.pair.userB call.uuid call.now
    call.guestDataExpiresAt
  exec := ServerCommand.exec
  mayFail _ := True

/-- The document is the direct thread of the pair. -/
structure IsThreadOf (p : UserPair) (c : ConversationDocument) : Prop where
  direct : c.isGroup = false
  key : c.directPairKey = some p.key
  users : c.participantIds = p.users

/-- What the partial unique index on `directPairKey` keeps apart. -/
def KeysApart (c d : ConversationDocument) : Prop :=
  c.isGroup = false → d.isGroup = false → c.directPairKey ≠ d.directPairKey

instance : Std.Symm KeysApart := ⟨fun _ _ apart direct direct' same => apart direct' direct same.symm⟩

/-- What the unique indexes of `conversations` and the shape of its direct
documents make sure of. -/
structure ThreadStore (db : Database) : Prop where
  ids : (db.conversations.map ConversationDocument.id).Nodup
  threads : ∀ c ∈ db.conversations, c.isGroup = false → ∃ p, IsThreadOf p c
  pairs : db.conversations.Pairwise KeysApart

abbrev ThreadPool := Pool ServerCommand AppError ConversationDocument Database ThreadCall

def threadMachine : Machine ThreadPool (PoolEvent ThreadCall AppError) :=
  threadCalls.machine ThreadStore

/-- What other calls may do in between: conversations are added. -/
structure AddsThreads (db db' : Database) : Prop where
  keeps : ThreadStore db → ThreadStore db'
  grows : ∀ c ∈ db.conversations, c ∈ db'.conversations

/-- A command adds threads at most. -/
def Adds {δ : Type} (c : ServerCommand δ) (db : Database) : Prop := AddsThreads db (c.exec db).2

/-- The document is stored as the thread of the pair. -/
def HoldsThread (p : UserPair) (c : ConversationDocument) (db : Database) : Prop :=
  ThreadStore db ∧ c ∈ db.conversations ∧ IsThreadOf p c

theorem AddsThreads.refl (db : Database) : AddsThreads db db := ⟨id, fun _ held => held⟩

theorem AddsThreads.trans {a b c : Database} (first : AddsThreads a b) (second : AddsThreads b c) :
    AddsThreads a c :=
  ⟨fun shape => second.keeps (first.keeps shape), fun d held => second.grows d (first.grows d held)⟩

theorem HoldsThread.mono {p : UserPair} {c : ConversationDocument} {db db' : Database}
    (moved : AddsThreads db db') (held : HoldsThread p c db) : HoldsThread p c db' :=
  ⟨moved.keeps held.1, moved.grows c held.2.1, held.2.2⟩

section Store

variable {db : Database}

/-- A direct thread with the key of a pair is the thread of that pair. -/
theorem ThreadStore.thread_of_key (shape : ThreadStore db) {c : ConversationDocument}
    (held : c ∈ db.conversations) (direct : c.isGroup = false) {p : UserPair}
    (key : c.directPairKey = some p.key) : IsThreadOf p c := by
  obtain ⟨q, thread⟩ := shape.threads c held direct
  have same : q.key = p.key := Option.some.inj (thread.key.symm.trans key)
  exact ⟨direct, key, thread.users.trans (UserPair.users_eq_of_key same)⟩

/-- Two stored threads of a pair are one. -/
theorem ThreadStore.unique (shape : ThreadStore db) {c d : ConversationDocument}
    (heldC : c ∈ db.conversations) (heldD : d ∈ db.conversations) {p : UserPair}
    (threadC : IsThreadOf p c) (threadD : IsThreadOf p d) : c = d := by
  by_contra different
  exact shape.pairs.forall heldC heldD different threadC.direct threadD.direct
    (threadC.key.trans threadD.key.symm)

theorem insert_keeps (shape : ThreadStore db) {doc : ConversationDocument} {p : UserPair}
    (thread : IsThreadOf p doc)
    (free : db.conversations.any (Database.conflictsWith doc) = false) :
    ThreadStore (db.setConversations (db.conversations ++ [doc])) := by
  have noClash : ∀ c ∈ db.conversations, c.id ≠ doc.id ∧
      (c.isGroup = false → c.directPairKey ≠ doc.directPairKey) := by
    intro c held
    have clear := List.any_eq_false.mp free c held
    simp only [Database.conflictsWith, thread.direct, thread.key, Bool.not_false, Bool.and_true,
      Bool.or_eq_true, decide_eq_true_eq, Bool.and_eq_true, Bool.not_eq_true', not_or] at clear
    refine ⟨clear.1, fun direct same => clear.2 ⟨⟨direct, ?_⟩, same.trans thread.key⟩⟩
    rw [same, thread.key]
    rfl
  refine ⟨?_, ?_, ?_⟩
  · simp only [Database.setConversations, List.map_append, List.map_cons, List.map_nil]
    refine List.nodup_append.mpr ⟨shape.ids, List.nodup_singleton _, ?_⟩
    intro x old y new
    obtain rfl := List.mem_singleton.mp new
    obtain ⟨c, held, rfl⟩ := List.mem_map.mp old
    exact (noClash c held).1
  · intro c held
    rcases List.mem_append.mp held with old | new
    · exact shape.threads c old
    · obtain rfl := List.mem_singleton.mp new
      exact fun _ => ⟨p, thread⟩
  · refine List.pairwise_append.mpr ⟨shape.pairs, List.pairwise_singleton _ _, ?_⟩
    intro c held d new
    obtain rfl := List.mem_singleton.mp new
    exact fun direct _ => (noClash c held).2 direct

theorem ThreadCall.newThread_isThreadOf (call : ThreadCall) : IsThreadOf call.pair call.newThread :=
  ⟨rfl, rfl, rfl⟩

/-- The insert adds the thread, or the unique indexes refuse it. -/
theorem insertConversation_outcome (call : ThreadCall) (shape : ThreadStore db) :
    Adds (.insertConversation call.newThread) db ∧
      ThreadStore (ServerCommand.exec (.insertConversation call.newThread) db).2 ∧
      ((ServerCommand.exec (.insertConversation call.newThread) db).1 = true →
        HoldsThread call.pair call.newThread
          (ServerCommand.exec (.insertConversation call.newThread) db).2) := by
  unfold Adds
  cases clash : db.conversations.any (Database.conflictsWith call.newThread) with
  | true =>
    have refused : ServerCommand.exec (.insertConversation call.newThread) db = (false, db) := by
      simp only [ServerCommand.exec, clash, if_true]
    rw [refused]
    exact ⟨.refl db, shape, fun inserted => nomatch inserted⟩
  | false =>
    have added : ServerCommand.exec (.insertConversation call.newThread) db =
        (true, db.setConversations (db.conversations ++ [call.newThread])) := by
      simp only [ServerCommand.exec, clash, Bool.false_eq_true, if_false]
    rw [added]
    have kept := insert_keeps shape call.newThread_isThreadOf clash
    exact ⟨⟨fun _ => kept, fun c held => List.mem_append_left _ held⟩, kept, fun _ =>
      ⟨kept, List.mem_append_right _ (List.mem_singleton_self _), call.newThread_isThreadOf⟩⟩

end Store

section Contract

variable {db : Database} (p : UserPair)

/-- What a lookup of the pair answers. -/
def Finds (found : Option ConversationDocument) (db : Database) : Prop :=
  ThreadStore db ∧ ∀ c, found = some c → HoldsThread p c db

theorem existingDirectConversation_contract (shape : ThreadStore db) :
    Program.Ensures ServerCommand.exec AddsThreads Adds
      (existingDirectConversation p.userA p.userB) (Finds p) db := by
  unfold existingDirectConversation findDirectConversationIdBetween
  rw [if_neg p.different]
  have byKey : Program.Ensures ServerCommand.exec AddsThreads Adds
      (.perform (.findDirectConversation p.key) : ServerProgram _) (Finds p) db := by
    refine Program.Ensures.perform fun db' moved => ⟨.refl db', moved.keeps shape, fun c found => ?_⟩
    have held := List.mem_of_find?_eq_some found
    have matched := List.find?_some found
    simp only [Bool.and_eq_true, decide_eq_true_eq, Bool.not_eq_true'] at matched
    exact ⟨moved.keeps shape, held, (moved.keeps shape).thread_of_key held matched.2 matched.1⟩
  have ids : Program.Ensures ServerCommand.exec AddsThreads Adds
      (.perform (.findDirectConversation p.key) >>= fun doc =>
        pure (doc.map ConversationDocument.id) : ServerProgram (Option String))
      (fun id s => ThreadStore s ∧ ∀ i, id = some i → ∃ c, c.id = i ∧ HoldsThread p c s) db := by
    refine byKey.bind fun doc s found => Program.Ensures.pure ⟨found.1, fun i same => ?_⟩
    obtain ⟨c, present, rfl⟩ := Option.map_eq_some_iff.mp same
    exact ⟨c, rfl, found.2 c present⟩
  refine ids.bind fun id db' found => ?_
  cases id with
    | none => exact Program.Ensures.pure ⟨found.1, fun c missing => nomatch missing⟩
    | some i =>
      obtain ⟨c, rfl, held⟩ := found.2 i rfl
      refine Program.Ensures.perform fun db'' moved => ⟨.refl db'', moved.keeps found.1, fun d read => ?_⟩
      have here := held.mono moved
      have byId : (db''.conversations.find? fun x => x.id = c.id) = some c :=
        (Collection.find_key here.1.ids).mpr ⟨here.2.1, rfl⟩
      obtain rfl : c = d := Option.some.inj (byId.symm.trans read)
      exact here

theorem findOrCreateDirectConversation_contract (call : ThreadCall) (shape : ThreadStore db) :
    Program.Ensures ServerCommand.exec AddsThreads Adds (threadCalls.program call)
      (HoldsThread call.pair) db := by
  show Program.Ensures ServerCommand.exec AddsThreads Adds
    (findOrCreateDirectConversation call.pair.userA call.pair.userB call.uuid call.now
      call.guestDataExpiresAt) _ db
  unfold findOrCreateDirectConversation
  refine (existingDirectConversation_contract call.pair shape).bind fun existing db' found => ?_
  cases existing with
  | some doc => exact Program.Ensures.pure (found.2 doc rfl)
  | none =>
    dsimp only
    refine Program.Ensures.bind (Q := fun inserted db'' => ThreadStore db'' ∧
        (inserted = true → HoldsThread call.pair call.newThread db'')) (Program.Ensures.perform ?_) ?_
    · exact fun s moved => insertConversation_outcome call (moved.keeps found.1)
    · intro inserted db'' stored
      cases inserted with
      | true => exact Program.Ensures.pure (stored.2 rfl)
      | false =>
        refine (existingDirectConversation_contract call.pair stored.1).bind fun retry t again => ?_
        exact Program.Ensures.orFail again.2

end Contract

theorem threadCalls_compatible :
    threadCalls.Compatible ThreadStore AddsThreads Adds fun call => HoldsThread call.pair where
  refl := .refl
  trans _ _ _ := .trans
  keeps _ _ moved := moved.keeps
  stable _ _ _ _ moved := .mono moved
  allowed _ _ adds := adds
  begins call _ shape := findOrCreateDirectConversation_contract call shape

end MessagingSystem.Protocol
