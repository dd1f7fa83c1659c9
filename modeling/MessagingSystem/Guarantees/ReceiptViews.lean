import MessagingSystem.Protocol.ReceiptFanOut

/-!
# Live receipts and fetched receipts

A tab that folds the receipt fan-outs of its user shows, for every message it
holds and every user, the same fields as the summaries that
`GET message-receipts` answers, exactly when no `conversation:read` is fanned
out for a message whose `seenAt` of that user is not stored: the client takes
the event for `seen`, while the service keeps a read cursor only.
-/
namespace MessagingSystem.Guarantees.ReceiptViews
open Foundation Source.Server Source.Client Protocol

/-- Ids are stored as they are drawn, without surrounding white space. -/
structure PlainStore (db : Database) : Prop where
  messages : ∀ m ∈ db.messages, PlainId m.id ∧ PlainId m.conversationId
  participants : ∀ c ∈ db.conversations, ∀ pid ∈ c.participantIds, PlainId pid

/-- A row of the tab is in the conversation its message is stored in. -/
def RowsAtHome (s : ReceiptView) : Prop :=
  ∀ id row m, s.view.messagesById.get id = some row → s.db.findMessageRow id = some m →
    row.conversationId = m.conversationId

/-- Folded and fetched receipts have the same fields for every message held. -/
def Agrees (s : ReceiptView) : Prop :=
  ∀ id row m, s.view.messagesById.get id = some row → s.db.findMessageRow id = some m →
    ∀ userId, viewFields s.view id userId = summaryFields m userId

/-- The event names a message the tab holds, in a thread of its user. -/
def OnHeldMessage (userId : String) (s : ReceiptView) (event : ReceiptEvent) : Prop :=
  (s.view.messagesById.get (EcmaText.trim event.request.messageId)).isSome = true ∧
    ∀ conv, acceptedThread event.request s.db = some conv → userId ∈ conv.participantIds

/-- Events handled one after another, before a tab whose receipts are those stored. -/
def receiptViewMachine (reads : ConsumerReads) (user : UserId) : Machine ReceiptView ReceiptEvent where
  init s := PlainStore s.db ∧ RowsAtHome s ∧ Agrees s
  step s event t := OnHeldMessage user.val s event ∧ t = s.handle reads user.val event

/-- The user's `seenAt` of the message is stored. -/
def seenStored (r : ReceiptRequest) (db : Database) : Bool :=
  (db.findMessageRow (EcmaText.trim r.messageId)).any fun m =>
    ((m.receiptsByUserId.get r.actorUserId).bind fun receipts => receipts.seenAt).isSome

/-- A `conversation:read` whose checks pass and that moves the cursor names a
message the user's `seenAt` of which is stored. -/
def readIsSeen (t : Transition ReceiptView ReceiptEvent) : Bool :=
  match t.label with
  | .conversationRead r at' now =>
      (acceptedThread r t.source.db).isNone || !t.source.db.cursorChanges r at' now ||
        seenStored r t.source.db
  | _ => true

structure Invariant (s : ReceiptView) : Prop where
  plain : PlainStore s.db
  rows : RowsAtHome s

theorem summaryFields_seen (m : MessageDocument) (userId : String) : (summaryFields m userId).2 =
    ((m.receiptsByUserId.get userId).bind fun receipts => receipts.seenAt).isSome := by
  unfold summaryFields presentFields
  rw [entryOf_messageReceiptSummaryToApi]
  cases m.receiptsByUserId.get userId with
  | none => rfl
  | some receipts => simp [receiptEntryToApi]

section Handling

variable {reads : ConsumerReads} {user : UserId} {s : ReceiptView}

/-- What the checks and the held row say about an accepted event. -/
structure Accepted (s : ReceiptView) (r : ReceiptRequest) (conv : ConversationDocument)
    (m : MessageDocument) (row : StoredMessage) : Prop where
  found : s.db.findMessageRow (EcmaText.trim r.messageId) = some m
  held : s.view.messagesById.get (EcmaText.trim r.messageId) = some row
  home : row.conversationId = r.conversationId
  message : EcmaText.isNonBlank r.messageId = true
  conversation : PlainId r.conversationId
  actor : PlainId r.actorUserId
  participants : ∀ pid ∈ conv.participantIds, PlainId pid

theorem accepted_of_thread (inv : Invariant s) {r : ReceiptRequest} {conv : ConversationDocument}
    (held : (s.view.messagesById.get (EcmaText.trim r.messageId)).isSome = true)
    (accepted : acceptedThread r s.db = some conv) : ∃ m row, Accepted s r conv m row := by
  obtain ⟨thread, participant, m, found, same, -⟩ := acceptedThread_eq_some.mp accepted
  obtain ⟨row, present⟩ := Option.isSome_iff_exists.mp held
  have stored : m ∈ s.db.messages := List.mem_of_find?_eq_some found
  have listed : conv ∈ s.db.conversations :=
    List.mem_of_find?_eq_some (directThread_eq_some.mp thread).2.1
  have named : m.id = EcmaText.trim r.messageId := by simpa using List.find?_some found
  obtain ⟨plainId, plainThread⟩ := inv.plain.messages m stored
  have participants := inv.plain.participants conv listed
  exact ⟨m, row, found, present, (inv.rows _ _ _ present found).trans same,
    EcmaText.isNonBlank_iff.mpr (named ▸ plainId.2), same ▸ plainThread,
    participants r.actorUserId participant, participants⟩

/-- A message found by the id of the event is the one its checks found. -/
theorem trimmed_of_found (inv : Invariant s) {r : ReceiptRequest} {m : MessageDocument}
    (found : s.db.findMessageRow r.messageId = some m) :
    EcmaText.trim r.messageId = r.messageId := by
  have named : m.id = r.messageId := by simpa using List.find?_some found
  exact named ▸ (inv.plain.messages m (List.mem_of_find?_eq_some found)).1.1

/-- The tab folds what the handling has published. -/
theorem handle_view (event : ReceiptEvent) (new : List (String × Json)) {after : Database}
    {result : Except AppError Unit} (ran : ServerProgram.exec event.program s.db = (result, after))
    (published : after.published = s.db.published ++ new) :
    s.handle reads user.val event =
      ⟨after, new.foldl (receiveBrokerMessage reads user.val) s.view⟩ := by
  simp [ReceiptView.handle, ran, published]

/-- The tab after a fan-out to the participants. -/
def fanned (reads : ConsumerReads) (user : UserId) (r : ReceiptRequest) (socketEvent : String)
    (at' : Nat) (conv : ConversationDocument) (view : MessagingState) : MessagingState :=
  (conv.participantIds.map (receiptMessage r socketEvent at')).foldl
    (receiveBrokerMessage reads user.val) view

/-- The rows of the tab, and the fields it shows, after a fan-out. -/
theorem Accepted.fold (reads : ConsumerReads) {r : ReceiptRequest} {conv : ConversationDocument} {m : MessageDocument}
    {row : StoredMessage} (accepted : Accepted s r conv m row) {socketEvent : String}
    (named : isReceiptSocketEventName socketEvent = true) (at' : Nat)
    (listed : user.val ∈ conv.participantIds) :
    (fanned reads user r socketEvent at' conv s.view).messagesById = s.view.messagesById ∧
    ∀ id userId, viewFields (fanned reads user r socketEvent at' conv s.view) id userId =
      if id = EcmaText.trim r.messageId ∧ userId = r.actorUserId then
        withField (fanoutKind socketEvent) (viewFields s.view id userId)
      else viewFields s.view id userId := by
  obtain ⟨rows, fields⟩ := fold_receiptMessages reads r at' named accepted.message
    accepted.conversation accepted.actor user accepted.participants accepted.held accepted.home
  refine ⟨rows, fun id userId => (fields id userId).trans ?_⟩
  simp only [listed, true_and]

/-- A fan-out without a write keeps the agreement exactly when the field is stored already. -/
theorem Accepted.agrees_fanned (reads : ConsumerReads) (socketEvent : String)
    {r : ReceiptRequest} {conv : ConversationDocument} {m : MessageDocument} {row : StoredMessage}
    (accepted : Accepted s r conv m row) (agrees : Agrees s)
    (named : isReceiptSocketEventName socketEvent = true) (at' : Nat)
    (listed : user.val ∈ conv.participantIds) {db : Database}
    (stored : ∀ id, db.findMessageRow id = s.db.findMessageRow id) :
    Agrees ⟨db, fanned reads user r socketEvent at' conv s.view⟩ ↔ withField (fanoutKind socketEvent) (summaryFields m r.actorUserId) =
      summaryFields m r.actorUserId := by
  obtain ⟨rows, fields⟩ := accepted.fold reads named at' listed
  constructor
  · intro after
    have here := after _ row m (rows ▸ accepted.held)
      ((stored _).trans accepted.found) r.actorUserId
    rw [fields, if_pos ⟨rfl, rfl⟩, agrees _ row m accepted.held accepted.found] at here
    exact here
  · intro present id other doc heldRow found userId
    rw [rows] at heldRow
    rw [stored] at found
    rw [fields, agrees id other doc heldRow found]
    split
    · rename_i here
      rw [here.1] at found
      rw [here.2, Option.some.inj (found.symm.trans accepted.found)]
      exact present
    · rfl

/-- A write that is fanned out keeps the agreement. -/
theorem Accepted.agrees_written (reads : ConsumerReads) {r : ReceiptRequest} {conv : ConversationDocument}
    {m : MessageDocument} {row : StoredMessage} (accepted : Accepted s r conv m row)
    (agrees : Agrees s) {socketEvent : String}
    (named : isReceiptSocketEventName socketEvent = true) {kind : ReceiptKind}
    (sameKind : fanoutKind socketEvent = kind.fanout) (at' : Nat)
    (trimmed : EcmaText.trim r.messageId = r.messageId)
    (listed : user.val ∈ conv.participantIds) {db : Database}
    (stored : ∀ id, db.findMessageRow id = (s.db.receiptWritten kind r at').findMessageRow id) :
    Agrees ⟨db, fanned reads user r socketEvent at' conv s.view⟩ := by
  obtain ⟨rows, fields⟩ := accepted.fold reads named at' listed
  intro id other doc heldRow found userId
  rw [rows] at heldRow
  rw [stored, findMessageRow_receiptWritten] at found
  obtain ⟨before, foundBefore, rfl⟩ := Option.map_eq_some_iff.mp found
  rw [fields, agrees id other before heldRow foundBefore, trimmed, sameKind]
  by_cases here : id = r.messageId
  · simp only [here, true_and, if_true, summaryFields_setReceipt]
  · simp only [here, false_and, if_false]

/-- The threads, and the ids and threads of the messages, are the same. -/
structure SameThreads (db db' : Database) : Prop where
  conversations : db'.conversations = db.conversations
  messages : ∀ m' ∈ db'.messages, ∃ m ∈ db.messages,
    m'.id = m.id ∧ m'.conversationId = m.conversationId
  stored : ∀ id m', db'.findMessageRow id = some m' → ∃ m, db.findMessageRow id = some m ∧
    m'.conversationId = m.conversationId

theorem SameThreads.refl (db : Database) : SameThreads db db :=
  ⟨rfl, fun m member => ⟨m, member, rfl, rfl⟩, fun _ m found => ⟨m, found, rfl⟩⟩

/-- The read cursors and the broker say nothing about threads. -/
theorem SameThreads.elsewhere {db db' after : Database} (same : SameThreads db db')
    (conversations : after.conversations = db'.conversations)
    (messages : after.messages = db'.messages) : SameThreads db after := by
  refine ⟨conversations.trans same.conversations, fun m member => ?_, fun id m found => ?_⟩
  · exact same.messages m (messages ▸ member)
  · exact same.stored id m (by simpa only [Database.findMessageRow, messages] using found)

theorem sameThreads_receiptWritten (kind : ReceiptKind) (r : ReceiptRequest) (at' : Nat)
    (db : Database) : SameThreads db (db.receiptWritten kind r at') := by
  refine ⟨rfl, fun m' member => ?_, fun id m' found => ?_⟩
  · rcases Collection.mem_updateFirst member with old | ⟨m, before, rfl⟩
    · exact ⟨m', old, rfl, rfl⟩
    · exact ⟨m, before, rfl, rfl⟩
  · rw [findMessageRow_receiptWritten] at found
    obtain ⟨m, before, rfl⟩ := Option.map_eq_some_iff.mp found
    refine ⟨m, before, ?_⟩
    split <;> rfl

theorem Invariant.of_same (inv : Invariant s) {t : ReceiptView} (same : SameThreads s.db t.db)
    (rows : t.view.messagesById = s.view.messagesById) : Invariant t := by
  refine ⟨⟨fun m' member => ?_, fun c member => ?_⟩, fun id row m' held found => ?_⟩
  · obtain ⟨m, before, sameId, sameThread⟩ := same.messages m' member
    rw [sameId, sameThread]
    exact inv.plain.messages m before
  · rw [same.conversations] at member
    exact inv.plain.participants c member
  · rw [rows] at held
    obtain ⟨m, before, sameThread⟩ := same.stored id m' found
    rw [sameThread]
    exact inv.rows id row m held before

/-- What one event does to the invariant and to the agreement. -/
def Keeps (s : ReceiptView) (event : ReceiptEvent) (t : ReceiptView) : Prop :=
  Invariant t ∧ (Agrees s → (readIsSeen ⟨s, event, t⟩ = true ↔ Agrees t))

theorem rejected_keeps (event : ReceiptEvent) (inv : Invariant s) {e : AppError}
    (ran : ServerProgram.exec event.program s.db = (.error e, s.db))
    (seen : readIsSeen ⟨s, event, s⟩ = true) : Keeps s event (s.handle reads user.val event) := by
  rw [handle_view event [] ran (by simp)]
  exact ⟨inv, fun agrees => iff_of_true seen agrees⟩

theorem delivered_keeps (inv : Invariant s) (r : ReceiptRequest) (at' : Nat)
    (held : (s.view.messagesById.get (EcmaText.trim r.messageId)).isSome = true)
    (listed : ∀ conv, acceptedThread r s.db = some conv → user.val ∈ conv.participantIds) :
    Keeps s (.messageDelivered r at') (s.handle reads user.val (.messageDelivered r at')) := by
  rcases processMessageDelivered_run r at' s.db with ⟨e, ran⟩ | ⟨conv, stored, thread, found, ran⟩
  · exact rejected_keeps (.messageDelivered r at') inv ran rfl
  · obtain ⟨m, row, accepted⟩ := accepted_of_thread (r := r) inv held thread
    split at ran
    · rw [handle_view (.messageDelivered r at') [] ran (by simp)]
      exact ⟨inv, fun agrees => iff_of_true rfl agrees⟩
    · rw [handle_view (.messageDelivered r at') _ ran rfl]
      refine ⟨inv.of_same ((sameThreads_receiptWritten .delivered r at' s.db).elsewhere rfl rfl)
        (accepted.fold reads rfl at' (listed conv thread)).1, fun agrees => iff_of_true rfl ?_⟩
      exact accepted.agrees_written reads agrees rfl rfl at' (trimmed_of_found inv found)
        (listed conv thread) fun _ => rfl

theorem conversationRead_keeps (inv : Invariant s) (r : ReceiptRequest) (at' now : Nat)
    (held : (s.view.messagesById.get (EcmaText.trim r.messageId)).isSome = true)
    (listed : ∀ conv, acceptedThread r s.db = some conv → user.val ∈ conv.participantIds) :
    Keeps s (.conversationRead r at' now)
      (s.handle reads user.val (.conversationRead r at' now)) := by
  have ran := processConversationRead_run r at' now s.db
  cases thread : acceptedThread r s.db with
  | none =>
    rw [thread] at ran
    obtain ⟨e, ran⟩ := ran
    exact rejected_keeps (.conversationRead r at' now) inv ran (by simp [readIsSeen, thread])
  | some conv =>
    rw [thread] at ran
    obtain ⟨m, row, accepted⟩ := accepted_of_thread (r := r) inv held thread
    by_cases moves : s.db.cursorChanges r at' now = true
    · simp only [moves, if_true] at ran
      rw [handle_view (.conversationRead r at' now) _ ran rfl]
      refine ⟨inv.of_same ((SameThreads.refl s.db).elsewhere rfl rfl)
        (accepted.fold reads rfl at' (listed conv thread)).1, fun agrees => ?_⟩
      have decided (after : ReceiptView) : readIsSeen ⟨s, .conversationRead r at' now, after⟩ =
          (summaryFields m r.actorUserId).2 := by
        simp only [readIsSeen, thread, moves, seenStored, accepted.found, Option.isNone_some,
          Bool.not_true, Bool.false_or, Option.any_some, summaryFields_seen]
      refine Iff.trans ?_ (accepted.agrees_fanned reads "conversation:read" agrees rfl at'
        (listed conv thread) fun _ => rfl).symm
      rw [decided, Prod.ext_iff]
      exact ⟨fun present => ⟨rfl, present.symm⟩, fun same => same.2.symm⟩
    · simp only [moves] at ran
      rw [handle_view (.conversationRead r at' now) [] ran (by
        simp [Database.cursorMoved, Database.setReads])]
      refine ⟨inv.of_same ((SameThreads.refl s.db).elsewhere rfl rfl) rfl,
        fun agrees => iff_of_true ?_ agrees⟩
      simp [readIsSeen, moves]

/-- A read time at hand is in the summary. -/
theorem summaryFields_of_since {userId : String} {at' : Nat} {m : MessageDocument}
    (since : hasReceiptSince .seen userId at' m = true) : (summaryFields m userId).2 = true := by
  rw [summaryFields_seen]
  unfold hasReceiptSince MessageReceipts.time at since
  cases entry : (m.receiptsByUserId.get userId).bind fun receipts => receipts.seenAt with
  | none => simp [entry] at since
  | some prev => rfl

theorem messageRead_keeps (inv : Invariant s) (r : ReceiptRequest) (at' now : Nat)
    (held : (s.view.messagesById.get (EcmaText.trim r.messageId)).isSome = true)
    (listed : ∀ conv, acceptedThread r s.db = some conv → user.val ∈ conv.participantIds) :
    Keeps s (.messageRead r at' now) (s.handle reads user.val (.messageRead r at' now)) := by
  rcases processMessageRead_run r at' now s.db with ⟨e, ran⟩ | ⟨conv, stored, thread, found, ran⟩
  · exact rejected_keeps (.messageRead r at' now) inv ran rfl
  obtain ⟨m, row, accepted⟩ := accepted_of_thread (r := r) inv held thread
  have trimmed := trimmed_of_found inv found
  have mine : m = stored := by
    have alsoFound := accepted.found
    rw [trimmed, found] at alsoFound
    exact (Option.some.inj alsoFound).symm
  cases since : hasReceiptSince .seen r.actorUserId at' stored with
  | false =>
    simp only [since, Bool.not_false, Bool.true_or, if_true, Bool.false_eq_true, if_false] at ran
    rw [handle_view (.messageRead r at' now) _ ran rfl]
    refine ⟨inv.of_same ((sameThreads_receiptWritten .seen r at' s.db).elsewhere rfl rfl)
      (accepted.fold reads rfl at' (listed conv thread)).1, fun agrees => iff_of_true rfl ?_⟩
    exact accepted.agrees_written reads agrees rfl rfl at' trimmed (listed conv thread) fun _ => rfl
  | true =>
    by_cases moves : s.db.cursorChanges r at' now = true
    · simp only [since, moves, Bool.or_true, if_true] at ran
      rw [handle_view (.messageRead r at' now) _ ran rfl]
      refine ⟨inv.of_same ((SameThreads.refl s.db).elsewhere rfl rfl)
        (accepted.fold reads rfl at' (listed conv thread)).1, fun agrees => iff_of_true rfl ?_⟩
      refine (accepted.agrees_fanned reads "message:read" agrees rfl at'
        (listed conv thread) fun _ => rfl).mpr ?_
      have present := summaryFields_of_since since
      simp [fanoutKind, withField, mine, ← present]
    · simp only [since, moves, if_true] at ran
      rw [handle_view (.messageRead r at' now) [] ran (by
        simp [Database.cursorMoved, Database.setReads])]
      exact ⟨inv.of_same ((SameThreads.refl s.db).elsewhere rfl rfl) rfl,
        fun agrees => iff_of_true rfl agrees⟩

theorem step_keeps (reads : ConsumerReads) (user : UserId) (inv : Invariant s)
    (event : ReceiptEvent) (held : OnHeldMessage user.val s event) :
    Keeps s event (s.handle reads user.val event) := by
  cases event with
  | messageDelivered r at' => exact delivered_keeps inv r at' held.1 held.2
  | messageRead r at' now => exact messageRead_keeps inv r at' now held.1 held.2
  | conversationRead r at' now => exact conversationRead_keeps inv r at' now held.1 held.2

end Handling

/-- No reload takes a tick back, and no tab withholds a receipt that is not stored. -/
structure SeenStays (s : ReceiptView) : Prop where
  tick : ∀ id row m, s.view.messagesById.get id = some row → s.db.findMessageRow id = some m →
    ∀ userId, hasSeenAt (s.view.receiptEntry id userId) = true →
      hasSeenAt ((messageReceiptSummaryToApi m).entryOf userId) = true
  guard : ∀ id row m, s.view.messagesById.get id = some row → s.db.findMessageRow id = some m →
    ∀ currentUserId, currentUserHasSeenMessage s.view id (some currentUserId) = true →
      ((m.receiptsByUserId.get (EcmaText.trim currentUserId)).bind fun e => e.seenAt).isSome = true

/-- What the tab shows as seen is stored as seen. -/
theorem seen_of_agrees {s : ReceiptView} (agrees : Agrees s) {id userId : String}
    {row : StoredMessage} {m : MessageDocument} (held : s.view.messagesById.get id = some row)
    (found : s.db.findMessageRow id = some m)
    (shown : ((s.view.receiptEntry id userId).bind fun e => e.seenAt).isSome = true) :
    ((m.receiptsByUserId.get userId).bind fun receipts => receipts.seenAt).isSome = true := by
  rw [← summaryFields_seen, ← agrees id row m held found userId]
  exact shown

theorem hasSeenAt_of_stored {receipts : MessageReceipts} {at' : Nat}
    (stored : receipts.seenAt = some at') : hasSeenAt (some (receiptEntryToApi receipts)) = true := by
  have written : EcmaDate.toISOString at' ≠ "" := by
    intro empty
    have nonBlank := toISOString_nonBlank at'
    rw [empty] at nonBlank
    exact absurd nonBlank (by decide)
  unfold hasSeenAt receiptEntryToApi
  rw [stored, Option.map_some, Option.bind_some, Option.any_some]
  exact decide_eq_true written

theorem SeenStays.of_agrees {s : ReceiptView} (agrees : Agrees s) : SeenStays s := by
  refine ⟨fun id row m held found userId shown => ?_, fun id row m held found user seen => ?_⟩
  · have seen := seen_of_agrees agrees held found (Option.isSome_of_any shown)
    obtain ⟨at', stored⟩ := Option.isSome_iff_exists.mp seen
    obtain ⟨receipts, entry, stored⟩ := Option.bind_eq_some_iff.mp stored
    rw [entryOf_messageReceiptSummaryToApi, entry, Option.map_some]
    exact hasSeenAt_of_stored stored
  · unfold currentUserHasSeenMessage at seen
    dsimp only [Option.getD_some] at seen
    split at seen
    · cases seen
    · exact seen_of_agrees agrees held found (Option.isSome_of_any seen)

/-- What a tab folds and what a reload fetches agree after every event of a run
exactly when every `conversation:read` that moves a cursor names a message whose
`seenAt` of its reader is stored. -/
theorem folded_receipts_agree_iff (reads : ConsumerReads) (user : UserId)
    {start final : ReceiptView} {history : List (Transition ReceiptView ReceiptEvent)}
    (init : (receiptViewMachine reads user).init start)
    (run : (receiptViewMachine reads user).Run start history final) :
    (∀ t ∈ history, readIsSeen t = true) ↔
      ∀ t ∈ history, Agrees t.target ∧ SeenStays t.target := by
  obtain ⟨plain, rows, agrees⟩ := init
  have keeps : ∀ s event t, Invariant s → (receiptViewMachine reads user).step s event t →
      Keeps s event t := by
    intro s event t inv taken
    obtain ⟨held, rfl⟩ := taken
    exact step_keeps reads user inv event held
  have decided := run.forall_target_iff (I := Invariant) (G := Agrees)
    (C := fun t => readIsSeen t = true)
    (fun s event t inv taken => (keeps s event t inv taken).1)
    (fun s event t inv agrees taken => (keeps s event t inv taken).2 agrees)
    ⟨plain, rows⟩ agrees
  rw [decided]
  constructor
  · intro all t member
    exact ⟨all t member, .of_agrees (all t member)⟩
  · intro all t member
    exact (all t member).1

section Runs

def thread : ConversationDocument :=
  { id := "c", directPairKey := some "alice|bob", participantIds := ["alice", "bob"]
    isGroup := false, createdAt := 1, updatedAt := 1 }

/-- A message from `alice`, read by nobody yet. -/
def greeting : MessageDocument :=
  { id := "m", conversationId := "c", senderId := "alice", body := some "hi", mediaKey := none
    encryptedMessageKeys := none, iv := .undefined, algorithm := .undefined, createdAt := 1 }

def greetingRow : StoredMessage :=
  { id := "m", conversationId := "c", senderId := "alice", createdAt := "1970-01-01T00:00:00.001Z" }

/-- A tab of `alice` with her message. -/
def sentGreeting : ReceiptView :=
  ⟨{ conversations := [thread], messages := [greeting] },
    { messagesById := (∅ : Record StoredMessage).set "m" greetingRow }⟩

open UserId (alice)

def noReads : ConsumerReads := ⟨none, "n", "1970-01-01T00:00:00.001Z"⟩

def byBob : ReceiptRequest := ⟨"bob", "m", "c", none⟩

theorem sentGreeting_init : (receiptViewMachine noReads alice).init sentGreeting := by
  have only : ∀ id row m, sentGreeting.view.messagesById.get id = some row →
      sentGreeting.db.findMessageRow id = some m → row = greetingRow ∧ m = greeting := by
    intro id row m held found
    have stored : m ∈ [greeting] := List.mem_of_find?_eq_some found
    simp only [sentGreeting, Record.get_set, Record.get_empty] at held
    split at held
    · exact ⟨(Option.some.inj held).symm, List.mem_singleton.mp stored⟩
    · cases held
  refine ⟨⟨?_, ?_⟩, fun id row m held found => ?_, fun id row m held found userId => ?_⟩
  · simp [sentGreeting, greeting, PlainId]
    decide
  · simp [sentGreeting, thread, PlainId]
    decide
  · obtain ⟨rfl, rfl⟩ := only id row m held found
    rfl
  · obtain ⟨rfl, rfl⟩ := only id row m held found
    rfl

theorem byBob_held {s : ReceiptView} {event : ReceiptEvent} (request : event.request = byBob)
    (held : (s.view.messagesById.get "m").isSome = true)
    (threads : acceptedThread byBob s.db = some thread) : OnHeldMessage "alice" s event := by
  refine ⟨?_, fun conv accepted => ?_⟩
  · rw [request]
    exact held
  · rw [request, threads] at accepted
    obtain rfl := Option.some.inj accepted
    decide

/-- `bob` reads the message and then the conversation. -/
theorem receipts_agree_after_message_read :
    ∃ history final, (receiptViewMachine noReads alice).Run sentGreeting history final ∧
      history.length = 2 ∧ ∀ t ∈ history, Agrees t.target ∧ SeenStays t.target := by
  let seen := sentGreeting.handle noReads "alice" (.messageRead byBob 5 5)
  have first : (receiptViewMachine noReads alice).step sentGreeting (.messageRead byBob 5 5) seen :=
    ⟨byBob_held rfl (by decide) (by decide), rfl⟩
  have second : (receiptViewMachine noReads alice).step seen (.conversationRead byBob 6 6)
      (seen.handle noReads "alice" (.conversationRead byBob 6 6)) :=
    ⟨byBob_held rfl (by decide) (by decide), rfl⟩
  have run := (Machine.Run.nil.snoc first).snoc second
  refine ⟨_, _, run, rfl, (folded_receipts_agree_iff noReads alice sentGreeting_init run).mp ?_⟩
  simp only [List.nil_append, List.cons_append, List.mem_cons, List.not_mem_nil, or_false,
    forall_eq_or_imp, forall_eq]
  decide

/-- `bob` reads the conversation without reading the message: the tab shows it
as seen, and a reload takes that back. -/
theorem conversation_read_shows_seen :
    ¬ ∀ (reads : ConsumerReads) (user : UserId) (start final : ReceiptView)
      (history : List (Transition ReceiptView ReceiptEvent)),
      (receiptViewMachine reads user).init start →
      (receiptViewMachine reads user).Run start history final → Agrees final := by
  intro claim
  have held : OnHeldMessage "alice" sentGreeting (.conversationRead byBob 5 5) :=
    byBob_held rfl (by decide) (by decide)
  have init := sentGreeting_init
  have agrees := claim noReads alice sentGreeting _ _ init (Machine.Run.nil.snoc ⟨held, rfl⟩)
  have keeps := step_keeps noReads alice ⟨init.1, init.2.1⟩ _ held
  exact absurd ((keeps.2 init.2.2).mpr agrees) (by decide)

end Runs

end MessagingSystem.Guarantees.ReceiptViews
