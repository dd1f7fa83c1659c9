import MessagingSystem.Protocol.ListIteration

/-!
# Pages of the messages of a thread

Messages and receipt summaries are listed by the time of the message, which never
changes. Whatever the limit is, the pages give each message of the thread once,
and messages sent meanwhile neither hide nor repeat one that was there.
-/
namespace MessagingSystem.Guarantees.MessagePages
open Foundation Source.Server Protocol Keyset

/-- A store with the direct thread, in which the user takes part. -/
structure ThreadStore (userId conversationId : String) (db : Database) : Prop where
  rows : db.ListableRows
  participates : ∃ conv, db.Participates userId conversationId conv

/-- Each message is older than those before it: by its time, or by its id at the same time. -/
def NewestFirst (docs : List MessageDocument) : Prop := docs.Pairwise fun a b => a.place.isOlder b.place = true

/-- Reading an endpoint page by page gives the messages of the thread. -/
structure ReadsThread {β : Type} (toApi : MessageDocument → β)
    (endpoint : Database → Option String → Except AppError (ListPage β)) (userId conversationId : String) :
    Prop where
  /-- In a store that does not change: all of them, once, newest first. -/
  still : ∀ db, ThreadStore userId conversationId db → ∃ docs : List MessageDocument,
    docs.Perm (db.messagesIn (EcmaText.trim conversationId)) ∧ NewestFirst docs ∧
      readAll (endpoint db) (docs.length + 1) none = some (docs.map toApi)
  /-- In one that does: none twice, newest first, and at the end all that were there at the start. -/
  moving : ∀ start final history, ThreadStore userId conversationId start.db → (listMachine endpoint).init start →
    (listMachine endpoint).Run start history final → (∀ step ∈ history, step.label.Stamped) →
    ∃ docs : List MessageDocument, final.items = docs.map toApi ∧ NewestFirst docs ∧
      (docs.map MessageDocument.id).Nodup ∧
      (final.finished = true →
        ∀ m ∈ start.db.messagesIn (EcmaText.trim conversationId), m.id ∈ docs.map MessageDocument.id) ∧
      (final.finished = false → ∃ page, endpoint final.db final.cursor = .ok page)

section Thread

variable {dateParse : String → Option Nat} {userId conversationId : String} {limit : Nat} {β : Type}
  {toApi : MessageDocument → β} {endpoint : Database → Option String → Except AppError (ListPage β)}

theorem Participates.named {db : Database} {conv : ConversationDocument}
    (participates : db.Participates userId conversationId conv) : conv.id = EcmaText.trim conversationId := by
  have found := (directThread_eq_some.mp participates.1).2.1
  simpa using List.find?_some found

theorem exec_threadStore {γ : Type} {command : ServerCommand γ} (stamped : command.Stamped) {db : Database}
    (thread : ThreadStore userId conversationId db) :
    ThreadStore userId conversationId (command.exec db).2 := by
  have rows := exec_listable stamped thread.rows
  obtain ⟨conv, participates⟩ := thread.participates
  exact ⟨rows, exec_participates command thread.rows rows participates⟩

theorem newestFirst_of_ordered {docs : List MessageDocument}
    (ordered : Ordered (listKey MessageDocument.place) docs) : NewestFirst docs :=
  ordered.imp fun less => (newestFirst_lt_iff _ _).mp less

/-- No command moves a message of the thread. -/
theorem exec_keepsKeys {γ : Type} (command : ServerCommand γ) {r : ListReader β} {s : RowScan MessageDocument}
    {tid : String} (follows : ScanOf toApi (fun db => db.messagesIn tid) r s) :
    KeepsKeys MessageDocument.id (listKey MessageDocument.place)
      ⟨s, .change ((command.exec r.db).2.messagesIn tid), { s with rows := (command.exec r.db).2.messagesIn tid }⟩ := by
  intro m member
  rw [follows.rows] at member
  obtain ⟨held, within⟩ := List.mem_filter.mp member
  obtain ⟨m', held', same⟩ := exec_listed command r.db held
  obtain ⟨thread, place⟩ := Prod.mk.inj same
  refine ⟨m', List.mem_filter.mpr ⟨held', by rw [thread]; exact within⟩, congrArg ListCursor.id place, ?_⟩
  unfold listKey
  rw [place]

variable (list : ListOf dateParse MessageDocument.place toApi limit
  (fun db => db.messagesIn (EcmaText.trim conversationId)) endpoint (ThreadStore userId conversationId))

include list

/-- A list of the thread's messages reads them exactly. -/
theorem readsThread_of_listOf (reads : ReadsISO dateParse) :
    ReadsThread toApi endpoint userId conversationId := by
  constructor
  · intro db thread
    have listable := list.listable db thread
    refine ⟨newestRows MessageDocument.place (db.messagesIn (EcmaText.trim conversationId)), sorted_perm _, ?_, ?_⟩
    · exact newestFirst_of_ordered (sorted_ordered listable.keys)
    · have whole := readAll_whole reads listable (list.lists db thread)
      rwa [← (@sorted_perm _ _ _ (listKey MessageDocument.place) _).length_eq] at whole
  · intro start final history thread initial run stamped
    obtain ⟨history', last, scan, conditions, after, follows⟩ := run_follows
      (C := fun step => step.label.Stamped) (D := KeepsKeys MessageDocument.id (listKey MessageDocument.place))
      reads list (fun _ _ _ thread stamped => exec_threadStore stamped thread)
      (fun _ _ stepped => keepsKeys_page stepped) (fun _ _ _ command _ follows _ => exec_keepsKeys command follows)
      thread initial run stamped
    have distinct := fun step taken => (conditions step taken).1
    have keeps := fun step taken => (conditions step taken).2
    refine ⟨last.given, follows.items, ?_, ?_, ?_, ?_⟩
    · exact newestFirst_of_ordered (given_inOrder ⟨rfl, rfl, rfl⟩ scan distinct).ordered
    · apply given_once ⟨rfl, rfl, rfl⟩ scan distinct keeps
      rw [follows.rows]
      exact (after.rows.messages.filter _).ids
    · intro finished m member
      have recorded := scan.recorded (I := fun _ => True) (fun _ _ _ _ _ => trivial) trivial
      have gave : last.Gave MessageDocument.id m.id :=
        given_of_ahead (.inr ⟨⟨m, member, rfl, rfl⟩, rfl⟩) scan distinct
          (fun step taken => (keeps step taken).keepsAhead (recorded step taken).1)
          (follows.finished.symm.trans finished)
      exact gave
    · intro running
      exact ⟨_, follows.answer reads list after running⟩

end Thread

section Lists

variable {dateParse : String → Option Nat}

theorem messages_listOf (userId conversationId : String) (limit : Nat) :
    ListOf dateParse MessageDocument.place messageDocumentToApi limit
      (fun db => db.messagesIn (EcmaText.trim conversationId))
      (listMessagesForParticipant dateParse userId conversationId limit) (ThreadStore userId conversationId) where
  lists db thread := by
    obtain ⟨conv, participates⟩ := thread.participates
    rw [← Participates.named participates]
    exact listMessagesForParticipant_lists participates limit
  listable _ thread := thread.rows.messages.filter _

/-- The pages of the receipt summaries. -/
def receiptPages (dateParse : String → Option Nat) (userId conversationId : String) (limit : Nat) (db : Database)
    (cursor : Option String) : Except AppError (ListPage Source.Client.MessageReceiptSummary) :=
  (listMessageReceiptsForParticipant dateParse userId conversationId limit db cursor).map ReceiptListPage.toListPage

theorem receipts_listOf (userId conversationId : String) (limit : Nat) :
    ListOf dateParse MessageDocument.place messageReceiptSummaryToApi limit
      (fun db => db.messagesIn (EcmaText.trim conversationId))
      (receiptPages dateParse userId conversationId limit) (ThreadStore userId conversationId) where
  lists db thread := by
    obtain ⟨conv, participates⟩ := thread.participates
    rw [← Participates.named participates]
    exact listMessageReceiptsForParticipant_lists participates limit
  listable _ thread := thread.rows.messages.filter _

/-- The pages of the messages and those of the receipt summaries give the messages of a thread exactly. -/
theorem message_pages_exact (reads : ReadsISO dateParse) (userId conversationId : String) (limit : Nat) :
    ReadsThread messageDocumentToApi (listMessagesForParticipant dateParse userId conversationId limit) userId
        conversationId ∧
      ReadsThread messageReceiptSummaryToApi (receiptPages dateParse userId conversationId limit) userId
        conversationId :=
  ⟨readsThread_of_listOf (messages_listOf userId conversationId limit) reads,
    readsThread_of_listOf (receipts_listOf userId conversationId limit) reads⟩

/-- A thread with messages of one millisecond. -/
def dawnMessage (id : String) : MessageDocument where
  id := id
  conversationId := "t"
  senderId := "ann"
  body := some "hi"
  mediaKey := none
  encryptedMessageKeys := none
  iv := .undefined
  algorithm := .undefined
  createdAt := 7

def dawnStore : Database where
  conversations := [{
    id := "t"
    directPairKey := some "ann|bea"
    participantIds := ["ann", "bea"]
    isGroup := false
    createdAt := 1
    updatedAt := 7 }]
  messages := [dawnMessage "x", dawnMessage "z", dawnMessage "y"]

theorem dawnStore_thread : ThreadStore "ann" "t" dawnStore := by
  have plain (time : Nat) (id : String) (valid : time ≤ EcmaDate.maxTime) (trimmed : EcmaText.trim id = id)
      (nonempty : id ≠ "") : ListCursor.Plain ⟨time, id⟩ := ⟨valid, trimmed, nonempty⟩
  constructor
  · constructor
    · constructor
      · decide
      · intro c member
        rw [List.mem_singleton.mp member]
        exact plain 7 "t" (by decide) (by decide) (by decide)
    · constructor
      · decide
      · intro m member
        have among : m = dawnMessage "x" ∨ m = dawnMessage "z" ∨ m = dawnMessage "y" := by
          simpa [dawnStore] using member
        rcases among with rfl | rfl | rfl
        · exact plain 7 "x" (by decide) (by decide) (by decide)
        · exact plain 7 "z" (by decide) (by decide) (by decide)
        · exact plain 7 "y" (by decide) (by decide) (by decide)
  · exact ⟨_, directThread_eq_some.mpr ⟨by decide, rfl, rfl⟩, by decide⟩

theorem message_pages_exact_dawn : ∃ docs : List MessageDocument,
    docs.Perm (dawnStore.messagesIn (EcmaText.trim "t")) ∧ NewestFirst docs ∧
      readAll (listMessagesForParticipant EcmaDate.parseISOString "ann" "t" 2 dawnStore) (docs.length + 1) none =
        some (docs.map messageDocumentToApi) :=
  (message_pages_exact readsISO_parseISOString "ann" "t" 2).1.still dawnStore dawnStore_thread

end Lists

end MessagingSystem.Guarantees.MessagePages
