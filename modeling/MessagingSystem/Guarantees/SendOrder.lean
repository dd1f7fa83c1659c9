import MessagingSystem.Guarantees.FailedSends
import MessagingSystem.Protocol.SocketSends

/-!
# The order of a socket's messages

The messages of one socket to one thread stand in the order `(createdAt, id)` as
they were emitted, while no handler takes its time after a later one has, or in the
millisecond of an earlier one with a smaller id.
-/
namespace MessagingSystem.Guarantees.SendOrder
open Foundation Source.Server Protocol Program FailedSends

/-- The messages of a socket to a thread: those stored stand in the order of their emission. -/
structure SendsInOrder (s : SocketService) : Prop where
  stored : ∀ call ∈ s.pool.calls, ∀ doc ∈ call.notes, doc ∈ s.pool.store.messages
  ordered : ∀ (i j : Nat) (x y : SendCall), s.pool.calls[i]? = some x → s.pool.calls[j]? = some y → i < j →
    x.call.socketId = y.call.socketId → ∀ a ∈ x.notes, ∀ b ∈ y.notes, a.conversationId = b.conversationId →
      a.position < b.position

/-- If the `k`-th handler is of the socket and has taken its time for a message of the thread, it was
emitted before the `i`-th, in another millisecond or with a smaller id. -/
def PrecedesIn (socketId : String) (doc : MessageDocument) (i k : Nat) (call : SendCall) : Prop :=
  call.call.socketId = socketId → ∀ taken ∈ takenDoc call, taken.conversationId = doc.conversationId →
    k < i ∧ (taken.createdAt ≠ doc.createdAt ∨ taken.id < doc.id)

def TakenInOrder (pool : SendPool) (i : Nat) (socketId : String) (doc : MessageDocument) : Prop :=
  ∀ k < pool.calls.length, k ≠ i → ∀ call ∈ pool.calls[k]?, PrecedesIn socketId doc i k call

/-- A handler that takes its time does so in the order of emission. -/
def InOrder (t : SocketTransition) : Prop :=
  match t.label with
  | .handlers (.advance i) => ∀ x ∈ t.target.pool.calls[i]?, ∀ doc ∈ insertOf x.rest,
      TakenInOrder t.source.pool i x.call.socketId doc
  | _ => True

instance (socketId : String) (doc : MessageDocument) (i k : Nat) (call : SendCall) :
    Decidable (PrecedesIn socketId doc i k call) :=
  inferInstanceAs (Decidable (call.call.socketId = socketId → ∀ taken ∈ takenDoc call,
    taken.conversationId = doc.conversationId → k < i ∧ (taken.createdAt ≠ doc.createdAt ∨ taken.id < doc.id)))

instance (pool : SendPool) (i : Nat) (socketId : String) (doc : MessageDocument) :
    Decidable (TakenInOrder pool i socketId doc) :=
  inferInstanceAs (Decidable (∀ k < pool.calls.length, k ≠ i → ∀ call ∈ pool.calls[k]?,
    PrecedesIn socketId doc i k call))

instance : (t : SocketTransition) → Decidable (InOrder t)
  | ⟨s, .handlers (.advance i), t⟩ => inferInstanceAs (Decidable (∀ x ∈ t.pool.calls[i]?,
      ∀ doc ∈ insertOf x.rest, TakenInOrder s.pool i x.call.socketId doc))
  | ⟨_, .handlers (.takeUp _), _⟩ => .isTrue trivial
  | ⟨_, .handlers (.abort _ _), _⟩ => .isTrue trivial
  | ⟨_, .pass _, _⟩ => .isTrue trivial

section Calls

variable {call : SendCall} {db : Database}

/-- A handler stores at most one message. -/
inductive Stage : SendCall → Prop where
  | before (send : SocketSend) (rest : ServerProgram MessageDocument)
      (once : CommitsOnce storesMessage rest) : Stage ⟨send, none, rest⟩
  | after (send : SocketSend) (doc : MessageDocument) (rest : ServerProgram MessageDocument)
      (silent : Forall (fun c => ∀ reply, storesMessage c reply = false) rest) : Stage ⟨send, some doc, rest⟩

theorem noteStored_silent {β : Type} {c : ServerCommand β} {reply : β} (n : Option MessageDocument)
    (silent : storesMessage c reply = false) : noteStored n c reply = n := by
  cases c with
  | insertMessage doc =>
    cases reply with
    | true => cases silent
    | false => rfl
  | _ => rfl

theorem storesMessage_insert {β : Type} {c : ServerCommand β} {reply : β} (stores : storesMessage c reply = true) :
    ∃ doc, (∀ n, noteStored n c reply = some doc) ∧ ∀ next : β → ServerProgram MessageDocument,
      insertOf (.command c next) = some doc := by
  cases c with
  | insertMessage doc =>
    cases reply with
    | true => exact ⟨doc, fun _ => rfl, fun _ => rfl⟩
    | false => cases stores
  | _ => cases stores

theorem exec_stored {β : Type} {c : ServerCommand β} (db : Database) {n : Option MessageDocument}
    {doc : MessageDocument} (noted : noteStored n c (c.exec db).1 = some doc) :
    n = some doc ∨ doc ∈ (c.exec db).2.messages := by
  cases c with
  | insertMessage other =>
    simp only [ServerCommand.exec, Collection.insertUnique] at noted ⊢
    split at noted
    · rename_i messages inserted
      obtain rfl : other = doc := Option.some.inj noted
      split at inserted
      · cases inserted
      · cases inserted
        exact .inr (List.mem_append_right _ (List.mem_singleton.mpr rfl))
    · exact .inl noted
  | _ => exact .inl noted

/-- A handler begins with the lookup of its user. -/
theorem insertOf_sendMessageForUser (send : SocketSend) :
    insertOf (sendMessageForUser send.user.val send.payload send.stamp (some send.socketId)) = none := by
  unfold sendMessageForUser findUserById
  simp only [send.user.trim_val, send.user.nonempty, if_false]
  rfl

/-- A command keeps the stage of its handler. Its message is as before, or it is inserted next. -/
theorem Stage.advance {send : SocketSend} {n : Option MessageDocument} {β : Type} {c : ServerCommand β}
    {next : β → ServerProgram MessageDocument} (stage : Stage ⟨send, n, .command c next⟩) (reply : β) :
    Stage ⟨send, noteStored n c reply, next reply⟩ ∧ ∀ doc ∈ takenDoc ⟨send, noteStored n c reply, next reply⟩,
      doc ∈ takenDoc ⟨send, n, .command c next⟩ ∨ insertOf (next reply) = some doc := by
  cases stage with
  | before _ _ once =>
    have here := commitsOnce_command.mp once reply
    cases stores : storesMessage c reply with
    | true =>
      rw [if_pos stores] at here
      obtain ⟨doc, noted, inserts⟩ := storesMessage_insert stores
      rw [noted]
      refine ⟨.after send doc _ here.2, fun taken shown => .inl ?_⟩
      obtain rfl := Option.some.inj shown
      exact inserts next
    | false =>
      rw [if_neg (by rw [stores]; exact Bool.false_ne_true)] at here
      rw [noteStored_silent none stores]
      exact ⟨.before send _ here, fun taken shown => .inr shown⟩
  | after _ doc _ silent =>
    obtain ⟨plain, rest⟩ := forall_command.mp silent
    rw [noteStored_silent (some doc) (plain reply)]
    exact ⟨.after send doc _ (rest reply), fun taken shown => .inl shown⟩

end Calls

section Steps

variable {s t : SocketService} {event : SocketSendEvent} {pool : SendPool} {moved : PoolEvent SocketSend AppError}

/-- What is kept of the handlers: those that have taken their time, not later than the clock,
stand in the order of emission. -/
structure Tracked (s : SocketService) : Prop where
  stages : ∀ call ∈ s.pool.calls, Stage call
  adds : ∀ call ∈ s.pool.calls, Forall ServerCommand.AddsOnly call.rest
  stored : ∀ call ∈ s.pool.calls, ∀ doc ∈ call.notes, doc ∈ s.pool.store.messages
  timed : ∀ call ∈ s.pool.calls, ∀ doc ∈ takenDoc call, doc.createdAt ≤ s.clock
  ordered : ∀ (i j : Nat) (x y : SendCall), s.pool.calls[i]? = some x → s.pool.calls[j]? = some y → i < j →
    x.call.socketId = y.call.socketId → ∀ a ∈ takenDoc x, ∀ b ∈ takenDoc y, a.conversationId = b.conversationId →
      a.position < b.position

/-- The handlers after a step: each message whose time is taken was so before, or its handler has just moved. -/
theorem Tracked.handler (tracked : Tracked s) (taken : sendCalls.Step s.pool moved pool) {i : Nat} {y : SendCall}
    (held : pool.calls[i]? = some y) : Stage y ∧ Forall ServerCommand.AddsOnly y.rest ∧
      ∀ doc ∈ takenDoc y, (∃ x, s.pool.calls[i]? = some x ∧ x.call = y.call ∧ doc ∈ takenDoc x) ∨
        (moved = .advance i ∧ insertOf y.rest = some doc) := by
  rcases taken.entry held with old | ⟨send, -, -, -, rfl⟩ | ⟨send, n, β, c, next, rfl, was, rfl⟩ |
      ⟨send, n, β, c, next, e, rfl, was, rfl⟩
  · have listed := List.mem_of_getElem? old
    exact ⟨tracked.stages y listed, tracked.adds y listed, fun doc shown => .inl ⟨y, old, rfl, shown⟩⟩
  · refine ⟨.before send _ ?_, sendMessageForUser_addsOnly send.user _ _ _, fun doc shown => ?_⟩
    · exact sendMessageForUser_commitsOnce send.user send.payload send.stamp (some send.socketId)
    · have fresh : takenDoc ⟨send, none, _⟩ = none := insertOf_sendMessageForUser send
      cases fresh.symm.trans shown
  · have listed := List.mem_of_getElem? was
    obtain ⟨stage, origin⟩ := (tracked.stages _ listed).advance (c.exec s.pool.store).1
    refine ⟨stage, (forall_command.mp (tracked.adds _ listed)).2 _, fun doc shown => ?_⟩
    exact (origin doc shown).imp (fun old => ⟨_, was, rfl, old⟩) fun inserts => ⟨rfl, inserts⟩
  · have listed := List.mem_of_getElem? was
    cases n with
    | none =>
      refine ⟨.before send _ (commitsOnce_fail e), forall_fail e, fun doc shown => ?_⟩
      cases shown
    | some doc =>
      exact ⟨.after send doc _ (forall_fail e), forall_fail e, fun other shown => .inl ⟨_, was, rfl, shown⟩⟩

theorem Tracked.still_stored (tracked : Tracked s) (taken : sendCalls.Step s.pool moved pool) :
    ∀ call ∈ pool.calls, ∀ doc ∈ call.notes, doc ∈ pool.store.messages := by
  have kept : ∀ doc ∈ s.pool.store.messages, doc ∈ pool.store.messages := by
    intro doc listed
    rcases taken.store with same | ⟨i, send, n, β, c, next, -, was, executed⟩
    · rw [same]
      exact listed
    · rw [executed]
      exact c.exec_keeps_message s.pool.store
        (forall_command.mp (tracked.adds _ (List.mem_of_getElem? was))).1 listed
  intro call listed doc noted
  obtain ⟨i, held⟩ := List.mem_iff_getElem?.mp listed
  rcases taken.entry held with old | ⟨send, -, -, -, rfl⟩ | ⟨send, n, β, c, next, rfl, was, rfl⟩ |
      ⟨send, n, β, c, next, e, rfl, was, rfl⟩
  · exact kept doc (tracked.stored call (List.mem_of_getElem? old) doc noted)
  · cases noted
  · rcases exec_stored s.pool.store noted with before | after
    · exact kept doc (tracked.stored _ (List.mem_of_getElem? was) doc before)
    · cases taken with
      | advance _ send' n' c' next' running =>
        cases was.symm.trans running
        exact after
  · exact kept doc (tracked.stored _ (List.mem_of_getElem? was) doc noted)

theorem position_lt {a b : MessageDocument} (notLater : a.createdAt ≤ b.createdAt)
    (apart : a.createdAt ≠ b.createdAt ∨ a.id < b.id) : a.position < b.position := by
  refine Prod.Lex.toLex_lt_toLex.mpr ?_
  rcases Nat.lt_or_eq_of_le notLater with earlier | same
  · exact .inl earlier
  · exact .inr ⟨same, apart.resolve_left fun other => other same⟩

theorem Tracked.step (tracked : Tracked s) (taken : SocketStep s event t) (inOrder : InOrder ⟨s, event, t⟩) :
    Tracked t := by
  cases taken with
  | pass now later =>
    exact ⟨tracked.stages, tracked.adds, tracked.stored,
      fun call listed doc shown => Nat.le_trans (tracked.timed call listed doc shown) later, tracked.ordered⟩
  | handlers moved pool taken time =>
    have handler := fun (i : Nat) (y : SendCall) (held : pool.calls[i]? = some y) => tracked.handler taken held
    refine ⟨fun call listed => ?_, fun call listed => ?_, tracked.still_stored taken,
      fun call listed doc shown => ?_, fun i j x y first second before same a shown b shown' thread => ?_⟩
    · obtain ⟨i, held⟩ := List.mem_iff_getElem?.mp listed
      exact (handler i call held).1
    · obtain ⟨i, held⟩ := List.mem_iff_getElem?.mp listed
      exact (handler i call held).2.1
    · obtain ⟨i, held⟩ := List.mem_iff_getElem?.mp listed
      rcases (handler i call held).2.2 doc shown with ⟨x, was, -, old⟩ | ⟨rfl, inserts⟩
      · exact tracked.timed x (List.mem_of_getElem? was) doc old
      · exact Nat.le_of_eq (time call held doc inserts)
    · rcases (handler i x first).2.2 a shown with ⟨x', was, call, old⟩ | ⟨rfl, inserts⟩
      · obtain ⟨bound, -⟩ := List.getElem?_eq_some_iff.mp was
        rcases (handler j y second).2.2 b shown' with ⟨y', was', call', old'⟩ | ⟨rfl, inserts⟩
        · exact tracked.ordered i j x' y' was was' before (call ▸ call' ▸ same) a old b old' thread
        · have precedes := inOrder y second b inserts i bound (Nat.ne_of_lt before) x' was
          have notLater := tracked.timed x' (List.mem_of_getElem? was) a old
          rw [← time y second b inserts] at notLater
          exact position_lt notLater (precedes (call ▸ same) a old thread).2
      · -- the earlier one takes its time now, so the later one must not have
        rcases (handler j y second).2.2 b shown' with ⟨y', was', call', old'⟩ | ⟨again, -⟩
        · obtain ⟨bound, -⟩ := List.getElem?_eq_some_iff.mp was'
          have precedes := inOrder x first a inserts j bound (Ne.symm (Nat.ne_of_lt before)) y' was'
          have overtaken := (precedes (call' ▸ same.symm) b old' thread.symm).1
          omega
        · cases again
          omega

end Steps

/-- In every run in which the handlers of a socket take their times for a thread in the order of
emission, and not in one millisecond unless the ids ascend, the messages stored keep that order. -/
theorem sends_keep_order {start final : SocketService} {history : List SocketTransition}
    (initial : socketMachine.init start) (run : socketMachine.Run start history final)
    (inOrder : ∀ t ∈ history, InOrder t) : SendsInOrder final := by
  have none : ∀ call, call ∉ start.pool.calls := by
    intro call listed
    rw [show start.pool.calls = [] from initial] at listed
    cases listed
  have begins : Tracked start := by
    refine ⟨fun call listed => absurd listed (none call), fun call listed => absurd listed (none call),
      fun call listed => absurd listed (none call), fun call listed => absurd listed (none call),
      fun i j x y first => absurd (List.mem_of_getElem? first) (none x)⟩
  have tracked := run.invariant_of_forall (I := Tracked) (C := InOrder)
    (fun s event t tracked taken ordered => tracked.step taken ordered) begins inOrder
  have shown : ∀ {call : SendCall} {doc : MessageDocument}, doc ∈ call.notes → doc ∈ takenDoc call := by
    intro call doc noted
    unfold takenDoc
    rw [Option.mem_def.mp noted]
    rfl
  exact ⟨tracked.stored, fun i j x y first second before same a noted b noted' thread =>
    tracked.ordered i j x y first second before same a (shown noted) b (shown noted') thread⟩

open UserId (alice)

/-- Alice and Bob have a thread. -/
def thread : SocketService where
  pool :=
    { store := {
        runtimeConfig := { guestDataTtlEnabled := false }
        users := [⟨"alice", false, none⟩, ⟨"bob", false, none⟩]
        conversations := [{
          id := "c1"
          directPairKey := some "alice:bob"
          participantIds := ["alice", "bob"]
          isGroup := false
          createdAt := 1
          updatedAt := 1 }] }
      calls := [] }

theorem thread_init : socketMachine.init thread := by
  change thread.pool.calls = []
  rfl

/-- A `message:send` of Alice's socket to the thread. -/
def send (messageUuid : String) (now : Nat) : SocketSend where
  socketId := "s1"
  user := alice
  payload := { conversationId := .value "c1", body := .value "hello" }
  stamp := { conversationUuid := "unused", messageUuid := messageUuid, now := now }

def advances (index count : Nat) : List SocketSendEvent := List.replicate count (.handlers (.advance index))

/-- The recorded run of the events from there. -/
def ran (events : List SocketSendEvent) : Option (List SocketTransition × SocketService) :=
  Machine.trace SocketService.next thread events

theorem ran_run {events : List SocketSendEvent} {history : List SocketTransition} {final : SocketService}
    (executed : ran events = some (history, final)) : socketMachine.Run thread history final :=
  Machine.trace_run SocketService.next (fun s event t stepped => s.next_step event t stepped) executed

/-- The later message is inserted first, but its time is taken last. -/
theorem sends_keep_order_inserted_late : ∃ history final, socketMachine.Run thread history final ∧
    final.pool.store.messages.map MessageDocument.id = ["m2", "m1"] ∧ SendsInOrder final := by
  have checked : (ran ([.handlers (.takeUp (send "m1" 10)), .handlers (.takeUp (send "m2" 20)), .pass 10] ++
      advances 1 3 ++ advances 0 4 ++ [.pass 20] ++ advances 1 2 ++ advances 0 1)).any (fun executed =>
        executed.2.pool.store.messages.map MessageDocument.id = ["m2", "m1"] ∧
          ∀ t ∈ executed.1, InOrder t) = true := by decide
  obtain ⟨⟨history, final⟩, executed, holds⟩ := (Option.any_eq_true _ _).mp checked
  obtain ⟨stored, inOrder⟩ := of_decide_eq_true holds
  have run := ran_run executed
  exact ⟨history, final, run, stored, sends_keep_order thread_init run inOrder⟩

/-- The first two handlers are of one socket, and have stored messages of one thread, the first a later one. -/
def reversed (s : SocketService) : Bool :=
  match s.pool.calls with
  | [x, y] =>
      match x.notes, y.notes with
      | some a, some b => x.call.socketId = y.call.socketId ∧ a.conversationId = b.conversationId ∧
          b.createdAt < a.createdAt
      | _, _ => false
  | _ => false

theorem reversed_sound {s : SocketService} (holds : reversed s) : ¬ SendsInOrder s := by
  intro inOrder
  unfold reversed at holds
  split at holds
  · rename_i x y calls
    split at holds
    · rename_i a b first second
      obtain ⟨socket, conversation, later⟩ := of_decide_eq_true holds
      have before := inOrder.ordered 0 1 x y (by rw [calls]; rfl) (by rw [calls]; rfl) Nat.zero_lt_one socket
        a first b second conversation
      rcases Prod.Lex.toLex_lt_toLex.mp before with earlier | ⟨same, -⟩
      · exact Nat.lt_asymm later earlier
      · exact Nat.ne_of_lt later same.symm
    · cases holds
  · cases holds

/-- The handler of the second event overtakes that of the first. -/
theorem second_send_overtakes : ¬ ∀ (start final : SocketService) (history : List SocketTransition),
    socketMachine.init start → socketMachine.Run start history final → SendsInOrder final := by
  intro claim
  have checked : (ran ([.handlers (.takeUp (send "m1" 20)), .handlers (.takeUp (send "m2" 10)), .pass 10] ++
      advances 1 5 ++ [.pass 20] ++ advances 0 5)).any (fun executed => reversed executed.2) = true := by decide
  obtain ⟨⟨history, final⟩, executed, holds⟩ := (Option.any_eq_true _ _).mp checked
  exact reversed_sound holds (claim thread final history thread_init (ran_run executed))

end MessagingSystem.Guarantees.SendOrder
