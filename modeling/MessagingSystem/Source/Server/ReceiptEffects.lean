import MessagingSystem.Source.Server.CursorEffects

/-!
# Effects of the receipt events

What `message:delivered`, `message:read` and `conversation:read` do to the
store when they run without interruption: either the event is rejected and the
store stays as it is, or the receipt time, the read cursor and the fan-out are
written in this order.
-/
namespace MessagingSystem.Source.Server
open Foundation Program

/-- The direct thread an id names. -/
def directThread (conversationId : String) (db : Database) : Option ConversationDocument :=
  if EcmaText.trim conversationId = "" then none
  else
    (db.conversations.find? fun c => c.id = EcmaText.trim conversationId).bind fun conv =>
      if conv.isGroup then none else some conv

/-- The thread of an event whose checks pass. -/
def acceptedThread (r : ReceiptRequest) (db : Database) : Option ConversationDocument :=
  (directThread r.conversationId db).bind fun conv =>
    if conv.participantIds.contains r.actorUserId then
      (db.findMessageRow (EcmaText.trim r.messageId)).bind fun m =>
        if m.conversationId = r.conversationId then
          if r.actorUserId ≠ m.senderId then some conv else none
        else none
    else none

theorem directThread_eq_some {conversationId : String} {db : Database} {conv : ConversationDocument} :
    directThread conversationId db = some conv ↔ EcmaText.trim conversationId ≠ "" ∧
      (db.conversations.find? fun c => c.id = EcmaText.trim conversationId) = some conv ∧
        conv.isGroup = false := by
  unfold directThread
  split
  · simp_all
  · simp_all [Option.bind_eq_some_iff]

theorem acceptedThread_eq_some {r : ReceiptRequest} {db : Database} {conv : ConversationDocument} :
    acceptedThread r db = some conv ↔
      directThread r.conversationId db = some conv ∧ r.actorUserId ∈ conv.participantIds ∧
        ∃ m, db.findMessageRow (EcmaText.trim r.messageId) = some m ∧
          m.conversationId = r.conversationId ∧ r.actorUserId ≠ m.senderId := by
  simp only [acceptedThread, Option.bind_eq_some_iff, Option.ite_none_right_eq_some,
    List.contains_eq_mem, decide_eq_true_eq]
  constructor
  · rintro ⟨conv, thread, member, m, found, same, other, ⟨⟩⟩
    exact ⟨thread, member, m, found, same, other⟩
  · rintro ⟨thread, member, m, found, same, other⟩
    exact ⟨conv, thread, member, m, found, same, other, rfl⟩

namespace Database

def receiptWritten (kind : ReceiptKind) (r : ReceiptRequest) (at' : Nat) (db : Database) : Database :=
  ((ServerCommand.setReceipt kind r.messageId r.actorUserId at').exec db).2

def cursorMoved (r : ReceiptRequest) (at' now : Nat) (db : Database) : Database :=
  db.setReads (upsertRead db.conversationReads r.actorUserId r.conversationId r.messageId at' now)

/-- The upsert changes the cursor row. -/
def cursorChanges (r : ReceiptRequest) (at' now : Nat) (db : Database) : Bool :=
  decide (upsertRead db.conversationReads r.actorUserId r.conversationId r.messageId at' now ≠
    db.conversationReads)

def receiptPublished (r : ReceiptRequest) (socketEvent : String) (at' : Nat)
    (participantIds : List String) (db : Database) : Database :=
  { db with published := db.published ++ participantIds.map fun pid =>
      ("message.receipt." ++ pid, receiptBody r socketEvent (toFanoutPayload r at') pid) }

end Database

section Functions

variable (r : ReceiptRequest) (at' now : Nat) (db : Database)

theorem requireDirectThread_answers (conversationId : String) :
    Answers ServerCommand.exec (requireDirectThread conversationId) db
      (directThread conversationId db) := by
  unfold requireDirectThread lookupConversationById directThread
  by_cases blank : EcmaText.trim conversationId = ""
  · simp only [blank, if_true, Program.pure_bind]
    exact answers_fail _
  · simp only [blank, if_false, Program.perform_bind, Program.command_bind, Program.pure_bind]
    refine Answers.command rfl ?_
    simp only [ServerCommand.exec]
    cases db.conversations.find? fun c => c.id = EcmaText.trim conversationId with
    | none => exact answers_fail _
    | some conv =>
      cases group : conv.isGroup with
      | true => simpa [group] using answers_fail _
      | false => simpa [group] using answers_pure conv

theorem receiptConversation_answers :
    Answers ServerCommand.exec (receiptConversation r) db (acceptedThread r db) := by
  unfold receiptConversation acceptedThread
  refine Answers.bind (requireDirectThread_answers db r.conversationId) fun conv _ => ?_
  refine Answers.require fun _ => ?_
  simp only [findMessageById, Program.perform_bind]
  refine Answers.command rfl ?_
  refine Answers.bind (answers_orFail _ _) fun m _ => ?_
  refine Answers.require_decide fun _ => ?_
  exact Answers.require_decide fun _ => answers_pure conv

theorem setReceiptTime_run (kind : ReceiptKind) :
    (∃ e, ServerProgram.exec (setReceiptTime kind r at') db = (.error e, db)) ∨
    ∃ m, db.findMessageRow r.messageId = some m ∧ m.conversationId = r.conversationId ∧
      ServerProgram.exec (setReceiptTime kind r at') db =
        if hasReceiptSince kind r.actorUserId at' m then (.ok false, db)
        else (.ok true, db.receiptWritten kind r at') := by
  unfold ServerProgram.exec setReceiptTime
  rw [Program.perform_bind, Program.run]
  cases found : db.findMessageRow r.messageId with
  | none => exact .inl ⟨messageNotFound, by simp [ServerCommand.exec, found]⟩
  | some m =>
    by_cases same : m.conversationId = r.conversationId
    · refine .inr ⟨m, rfl, same, ?_⟩
      simp only [ServerCommand.exec, found, Program.orFail_some, Program.pure_bind, same,
        decide_true, Program.require_true]
      split
      · rfl
      · rfl
    · exact .inl ⟨conversationMismatch, by simp [ServerCommand.exec, found, same]⟩

theorem upsertConversationRead_run :
    ServerProgram.exec
        (upsertConversationRead r.actorUserId r.conversationId r.messageId at' now) db =
      (.ok (db.cursorChanges r at' now), db.cursorMoved r at' now) := by
  obtain ⟨row, found, -⟩ :=
    Database.findReadRow_upsert db r.actorUserId r.conversationId r.messageId at' now
  simp only [ServerProgram.exec, upsertConversationRead, Program.run_bind, Program.run_perform,
    ServerCommand.exec, found, Option.isSome_some, Program.run_require, if_true, Program.run_pure]
  rfl

theorem publishReceipt_run (socketEvent : String) (pids : List String) :
    ServerProgram.exec
        (publishReceiptToParticipants r socketEvent (toFanoutPayload r at') pids) db =
      (.ok (), db.receiptPublished r socketEvent at' pids) := by
  induction pids generalizing db with
  | nil => simp [ServerProgram.exec, publishReceiptToParticipants, Database.receiptPublished]
  | cons pid rest ih =>
    unfold ServerProgram.exec at ih ⊢
    rw [publishReceiptToParticipants, Program.perform_bind, Program.run, ih]
    simp [ServerCommand.exec, Database.receiptPublished]

theorem publishIfChanged_run (changed : Bool) (socketEvent : String) (conv : ConversationDocument) :
    ServerProgram.exec (publishIfChanged changed r socketEvent at' conv) db =
      (.ok (), if changed then db.receiptPublished r socketEvent at' conv.participantIds else db) := by
  cases changed with
  | true => exact publishReceipt_run r at' db socketEvent conv.participantIds
  | false => rfl

/-- `message:delivered` is rejected, or it sets `deliveredAt` and is fanned out
unless the time stored is not older. -/
theorem processMessageDelivered_run :
    (∃ e, ServerProgram.exec (processMessageDelivered r at') db = (.error e, db)) ∨
    ∃ conv m, acceptedThread r db = some conv ∧ db.findMessageRow r.messageId = some m ∧
      ServerProgram.exec (processMessageDelivered r at') db = (.ok (),
        if hasReceiptSince .delivered r.actorUserId at' m then db
        else (db.receiptWritten .delivered r at').receiptPublished r "message:delivered" at'
          conv.participantIds) := by
  have checks := receiptConversation_answers r db
  unfold ServerProgram.exec processMessageDelivered
  cases accepted : acceptedThread r db with
  | none =>
    rw [accepted] at checks
    exact .inl (checks.run_none _)
  | some conv =>
    rw [accepted] at checks
    rw [checks.run_some, Program.run_bind]
    rcases setReceiptTime_run r at' db .delivered with ⟨e, failed⟩ | ⟨m, found, -, ran⟩
    · unfold ServerProgram.exec at failed
      exact .inl ⟨e, by rw [setReceiptDelivered, failed]⟩
    · unfold ServerProgram.exec at ran
      refine .inr ⟨conv, m, rfl, found, ?_⟩
      have publish := publishIfChanged_run r at'
      unfold ServerProgram.exec at publish
      rw [setReceiptDelivered, ran]
      cases hasReceiptSince .delivered r.actorUserId at' m with
      | true => simp [publish]
      | false => simp [publish]

/-- `message:read` is rejected, or it sets `seenAt` unless the time stored is not
older, moves the cursor and is fanned out when one of them changed. -/
theorem processMessageRead_run :
    (∃ e, ServerProgram.exec (processMessageRead r at' now) db = (.error e, db)) ∨
    ∃ conv m, acceptedThread r db = some conv ∧ db.findMessageRow r.messageId = some m ∧
      ServerProgram.exec (processMessageRead r at' now) db = (.ok (),
        let since := hasReceiptSince .seen r.actorUserId at' m
        let seen := if since then db else db.receiptWritten .seen r at'
        let moved := seen.cursorMoved r at' now
        if !since || seen.cursorChanges r at' now then
          moved.receiptPublished r "message:read" at' conv.participantIds
        else moved) := by
  have checks := receiptConversation_answers r db
  unfold ServerProgram.exec processMessageRead
  cases accepted : acceptedThread r db with
  | none =>
    rw [accepted] at checks
    exact .inl (checks.run_none _)
  | some conv =>
    rw [accepted] at checks
    rw [checks.run_some, Program.run_bind]
    rcases setReceiptTime_run r at' db .seen with ⟨e, failed⟩ | ⟨m, found, -, ran⟩
    · unfold ServerProgram.exec at failed
      exact .inl ⟨e, by rw [setReceiptSeen, failed]⟩
    · unfold ServerProgram.exec at ran
      refine .inr ⟨conv, m, rfl, found, ?_⟩
      have cursor := upsertConversationRead_run r at' now
      have publish := publishIfChanged_run r at'
      unfold ServerProgram.exec at cursor publish
      rw [setReceiptSeen, ran]
      cases hasReceiptSince .seen r.actorUserId at' m with
      | true => simp [Program.run_bind, cursor, publish]
      | false => simp [Program.run_bind, cursor, publish]

/-- `conversation:read` is rejected exactly when its checks fail; otherwise it
moves the cursor and is fanned out when the cursor changed. -/
theorem processConversationRead_run :
    match acceptedThread r db with
    | none => ∃ e, ServerProgram.exec (processConversationRead r at' now) db = (.error e, db)
    | some conv => ServerProgram.exec (processConversationRead r at' now) db = (.ok (),
        if db.cursorChanges r at' now then
          (db.cursorMoved r at' now).receiptPublished r "conversation:read" at' conv.participantIds
        else db.cursorMoved r at' now) := by
  have checks := receiptConversation_answers r db
  unfold ServerProgram.exec processConversationRead
  cases accepted : acceptedThread r db with
  | none =>
    rw [accepted] at checks
    exact checks.run_none _
  | some conv =>
    rw [accepted] at checks
    have cursor := upsertConversationRead_run r at' now db
    have publish := publishIfChanged_run r at'
    unfold ServerProgram.exec at cursor publish
    dsimp only
    rw [checks.run_some, Program.run_bind, cursor]
    exact publish _ _ _ conv

end Functions

end MessagingSystem.Source.Server
