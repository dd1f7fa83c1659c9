import MessagingSystem.Protocol.ListIteration

/-!
# Pages of the conversation list

The list is in the order of `updatedAt`, which a message sent in a thread moves. A
reader of the list is given every direct thread that was there before its first
request, but for one that is brought before its cursor while it waits.
-/
namespace MessagingSystem.Guarantees.ConversationPages
open Foundation Source.Server Protocol Keyset

/-- The list of a user's direct threads, read page by page. -/
abbrev conversationReads (dateParse : String → Option Nat) (userId : String) (limit : Nat) :
    Machine (ListReader ApiConversation) ListEvent :=
  listMachine (listConversationsForUser dateParse userId limit)

/-- A message is sent in a thread that the reader has not been given, and the thread is then no longer
after the cursor. -/
def Overtakes (dateParse : String → Option Nat) (id : String)
    (step : Transition (ListReader ApiConversation) ListEvent) : Prop :=
  id ∉ step.source.items.map ApiConversation.id ∧
    ∃ now cursor, step.label.touched = some (id, now) ∧
      cursorBoundary (parseConversationListCursor dateParse) step.source.cursor = .ok (some cursor) ∧
      cursor.isOlder ⟨now, id⟩ = false

section Listed

variable {dateParse : String → Option Nat} {userId : String} {limit : Nat}

theorem conversations_listOf : ListOf dateParse ConversationDocument.place (directConversationDocumentToApi userId)
    limit (fun db => db.directConversations userId) (listConversationsForUser dateParse userId limit)
    Database.ListableRows where
  lists db _ := listConversationsForUser_lists userId limit db
  listable _ listable := listable.conversations.filter _

theorem api_ids (docs : List ConversationDocument) :
    (docs.map (directConversationDocumentToApi userId)).map ApiConversation.id = docs.map ConversationDocument.id := by
  rw [List.map_map]
  rfl

/-- A direct thread stays one, where it is or where a message moves it. -/
theorem exec_directConversation {γ : Type} (command : ServerCommand γ) {db : Database} (listable : db.ListableRows)
    {c : ConversationDocument} (member : c ∈ db.directConversations userId) :
    ∃ c' ∈ (command.exec db).2.directConversations userId, c'.id = c.id ∧
      (c'.place = c.place ∨ command.touched = some (c.id, c'.updatedAt)) := by
  obtain ⟨held, direct⟩ := List.mem_filter.mp member
  obtain ⟨c', held', same, participants, group, moved⟩ := exec_conversation command listable held
  refine ⟨c', List.mem_filter.mpr ⟨held', by rw [participants, group]; exact direct⟩, same, moved.imp_left ?_⟩
  intro time
  unfold ConversationDocument.place
  rw [time, same]

/-- A thread that is not overtaken stays ahead. -/
theorem keepsAhead_of_not_overtaken (reads : ReadsISO dateParse) {r : ListReader ApiConversation}
    {s : RowScan ConversationDocument} {γ : Type} (command : ServerCommand γ) (listable : r.db.ListableRows)
    (follows : ScanOf (directConversationDocumentToApi userId) (fun db => db.directConversations userId) r s)
    {id : String}
    (kept : ¬ Overtakes dateParse id ⟨r, .served command, { r with db := (command.exec r.db).2 }⟩) :
    KeepsAhead ConversationDocument.id id (listKey ConversationDocument.place)
      ⟨s, .change ((command.exec r.db).2.directConversations userId),
        { s with rows := (command.exec r.db).2.directConversations userId }⟩ := by
  rintro - running ⟨c, member, named, ahead⟩ waiting
  rw [follows.rows] at member
  obtain ⟨c', member', same, moved⟩ := exec_directConversation command listable member
  refine ⟨c', member', same.trans named, ?_⟩
  rcases moved with place | touched
  · unfold isAfter listKey at ahead ⊢
    rwa [place]
  · obtain ⟨boundary, bounds⟩ := follows.bounds (follows.finished.trans running)
    dsimp only
    rw [bounds.bound]
    cases boundary with
    | none => rfl
    | some cursor =>
      have pending : id ∉ r.items.map ApiConversation.id := by
        rw [follows.items, api_ids]
        exact waiting
      have behind : cursor.isOlder ⟨c'.updatedAt, id⟩ = true := by
        by_contra overtaken
        exact kept ⟨pending, c'.updatedAt, cursor, named ▸ touched, bounds.parsed reads, by simpa using overtaken⟩
      have after := (newestFirst_lt_iff cursor c'.place).mpr (by
        unfold ConversationDocument.place
        rw [same, named]
        exact behind)
      exact decide_eq_true after

section Run

variable {start final : ListReader ApiConversation}
  {history : List (Transition (ListReader ApiConversation) ListEvent)}

theorem conversation_given (reads : ReadsISO dateParse) (listable : start.db.ListableRows)
    (initial : (conversationReads dateParse userId limit).init start)
    (run : (conversationReads dateParse userId limit).Run start history final)
    (stamped : ∀ step ∈ history, step.label.Stamped) (finished : final.finished = true)
    {conv : ConversationDocument} (member : conv ∈ start.db.directConversations userId)
    (kept : ∀ step ∈ history, ¬ Overtakes dateParse conv.id step) :
    conv.id ∈ final.items.map ApiConversation.id := by
  obtain ⟨history', last, scan, conditions, -, follows⟩ := run_follows
    (C := fun step => step.label.Stamped ∧ ¬ Overtakes dateParse conv.id step)
    (D := KeepsAhead ConversationDocument.id conv.id (listKey ConversationDocument.place)) reads
    conversations_listOf (fun _ _ _ listable condition => exec_listable condition.1 listable)
    (fun _ _ _ => keepsAhead_page)
    (fun _ _ _ command listable follows condition =>
      keepsAhead_of_not_overtaken reads command listable follows condition.2)
    listable initial run fun step taken => ⟨stamped step taken, kept step taken⟩
  have gave : last.Gave ConversationDocument.id conv.id :=
    given_of_ahead (.inr ⟨⟨conv, member, rfl, rfl⟩, rfl⟩) scan (fun step taken => (conditions step taken).1)
      (fun step taken => (conditions step taken).2) (follows.finished.symm.trans finished)
  rw [follows.items, api_ids]
  exact gave

theorem conversation_given_once (reads : ReadsISO dateParse) (listable : start.db.ListableRows)
    (initial : (conversationReads dateParse userId limit).init start)
    (run : (conversationReads dateParse userId limit).Run start history final)
    (still : ∀ step ∈ history, step.label = .request) : (final.items.map ApiConversation.id).Nodup := by
  obtain ⟨history', last, scan, conditions, listable', follows⟩ := run_follows
    (C := fun step => step.label = .request)
    (D := KeepsKeys ConversationDocument.id (listKey ConversationDocument.place)) reads
    conversations_listOf (fun _ _ _ _ served => nomatch served) (fun _ _ stepped => keepsKeys_page stepped)
    (fun _ _ _ _ _ _ served => nomatch served) listable initial run still
  rw [follows.items, api_ids]
  apply given_once ⟨rfl, rfl, rfl⟩ scan (fun step taken => (conditions step taken).1)
    fun step taken => (conditions step taken).2
  rw [follows.rows]
  exact (listable'.conversations.filter _).ids

theorem conversation_request_answered (reads : ReadsISO dateParse) (listable : start.db.ListableRows)
    (initial : (conversationReads dateParse userId limit).init start)
    (run : (conversationReads dateParse userId limit).Run start history final)
    (stamped : ∀ step ∈ history, step.label.Stamped) (running : final.finished = false) :
    ∃ page, listConversationsForUser dateParse userId limit final.db final.cursor = .ok page := by
  obtain ⟨history', last, -, -, listable', follows⟩ := run_follows (C := fun step => step.label.Stamped)
    (D := fun _ => True) reads conversations_listOf
    (fun _ _ _ listable condition => exec_listable condition listable) (fun _ _ _ => trivial)
    (fun _ _ _ _ _ _ _ => trivial) listable initial run stamped
  exact ⟨_, follows.answer reads conversations_listOf listable' running⟩

/-- Reading the list gives every direct thread of the user that was there before the first request, unless
a message sent in it meanwhile overtakes the cursor, and none twice when nothing is sent. -/
theorem conversations_listed_unless_overtaken (reads : ReadsISO dateParse) (listable : start.db.ListableRows)
    (initial : (conversationReads dateParse userId limit).init start)
    (run : (conversationReads dateParse userId limit).Run start history final)
    (stamped : ∀ step ∈ history, step.label.Stamped) :
    (final.finished = false →
      ∃ page, listConversationsForUser dateParse userId limit final.db final.cursor = .ok page) ∧
    (final.finished = true → ∀ conv ∈ start.db.directConversations userId,
      (∀ step ∈ history, ¬ Overtakes dateParse conv.id step) → conv.id ∈ final.items.map ApiConversation.id) ∧
    ((∀ step ∈ history, step.label = .request) → (final.items.map ApiConversation.id).Nodup) := by
  refine ⟨?_, ?_, ?_⟩
  · exact conversation_request_answered reads listable initial run stamped
  · intro finished conv member kept
    exact conversation_given reads listable initial run stamped finished member kept
  · exact conversation_given_once reads listable initial run

end Run

end Listed

section TwoThreads

/-- A thread of Ann. -/
def annThread (id : String) (updatedAt : Nat) : ConversationDocument where
  id := id
  directPairKey := none
  participantIds := ["ann", id]
  isGroup := false
  createdAt := 0
  updatedAt := updatedAt

/-- Ann's threads with Bea and Cem, last written in at these times. -/
def annStore (bea cem : Nat) (messages : List MessageDocument) : Database where
  conversations := [annThread "bea" bea, annThread "cem" cem]
  messages := messages

def beaMessage : MessageDocument where
  id := "m"
  conversationId := "bea"
  senderId := "bea"
  body := none
  mediaKey := some "k"
  encryptedMessageKeys := none
  iv := .undefined
  algorithm := .undefined
  createdAt := 7

/-- Ann before her first request. -/
def annReader : ListReader ApiConversation where
  db := annStore 3 5 []

/-- Ann once she has been given the thread with Cem. -/
def annWaiting (db : Database) : ListReader ApiConversation where
  db := db
  cursor := some (encodeListCursor ⟨5, "cem"⟩)
  items := [directConversationDocumentToApi "ann" (annThread "cem" 5)]

theorem annStore_listable : (annStore 3 5 []).ListableRows := by
  have plain (id : String) (time : Nat) (valid : time ≤ EcmaDate.maxTime) (trimmed : EcmaText.trim id = id)
      (nonempty : id ≠ "") : (annThread id time).place.Plain := ⟨valid, trimmed, nonempty⟩
  constructor
  · constructor
    · decide
    · intro c member
      rcases List.mem_pair.mp member with rfl | rfl
      · exact plain "bea" 3 (by decide) (by decide) (by decide)
      · exact plain "cem" 5 (by decide) (by decide) (by decide)
  · exact ⟨List.nodup_nil, by simp [annStore]⟩

/-- A request of Ann, one thread a page. -/
theorem ann_request {r : ListReader ApiConversation} (boundary : Option ListCursor)
    (found : List ConversationDocument × Bool) (running : r.finished = false)
    (cursor : r.cursor = boundary.map encodeListCursor) (plain : ∀ c, boundary = some c → c.Plain)
    (paged : page (listKey ConversationDocument.place) (pageCap 1) (boundary.map ListCursor.newestFirst)
      (r.db.directConversations "ann") = found) :
    (conversationReads EcmaDate.parseISOString "ann" 1).step r .request (r.receive
      (listResult ConversationDocument.place encodeListCursor (directConversationDocumentToApi "ann") found)) := by
  have bounds : Bounds r.cursor (boundary.map ListCursor.newestFirst) boundary := ⟨cursor, rfl, plain⟩
  have answer := bounds.answered readsISO_parseISOString (listConversationsForUser_lists "ann" 1 r.db)
  rw [paged] at answer
  change readerNext _ r .request = _
  unfold readerNext
  dsimp only
  rw [if_neg (by simp [running]), answer]

theorem cem_plain : ∀ c : ListCursor, some (⟨5, "cem"⟩ : ListCursor) = some c → c.Plain := by
  rintro c same
  cases same
  exact ⟨show 5 ≤ EcmaDate.maxTime by decide, by decide, by decide⟩

theorem ann_first : (conversationReads EcmaDate.parseISOString "ann" 1).step annReader .request
    (annWaiting (annStore 3 5 [])) :=
  ann_request none ([annThread "cem" 5], true) rfl rfl (by simp) (by decide)

/-- Her second page when a message has been sent to Cem meanwhile. -/
def annDone : ListReader ApiConversation where
  db := annStore 3 9 []
  items := [directConversationDocumentToApi "ann" (annThread "cem" 5),
    directConversationDocumentToApi "ann" (annThread "bea" 3)]
  finished := true

/-- Her second page when Bea has sent one. -/
def annMissing : ListReader ApiConversation where
  db := annStore 7 5 [beaMessage]
  items := [directConversationDocumentToApi "ann" (annThread "cem" 5)]
  finished := true

theorem ann_second : (conversationReads EcmaDate.parseISOString "ann" 1).step (annWaiting (annStore 3 9 [])) .request
    annDone :=
  ann_request (some ⟨5, "cem"⟩) ([annThread "bea" 3], false) rfl rfl cem_plain (by decide)

theorem ann_misses : (conversationReads EcmaDate.parseISOString "ann" 1).step
    (annWaiting (annStore 7 5 [beaMessage])) .request annMissing :=
  ann_request (some ⟨5, "cem"⟩) ([], false) rfl rfl cem_plain (by decide)

theorem conversations_listed_unless_overtaken_cem :
    "cem" ∈ annDone.items.map ApiConversation.id ∧ "bea" ∈ annDone.items.map ApiConversation.id := by
  have run : (conversationReads EcmaDate.parseISOString "ann" 1).Run annReader _ annDone :=
    .snoc (.snoc (.snoc .nil ann_first)
      (show (conversationReads EcmaDate.parseISOString "ann" 1).step (annWaiting (annStore 3 5 []))
        (.served (.touchConversation "cem" 9)) (annWaiting (annStore 3 9 [])) from rfl)) ann_second
  have listed := (conversations_listed_unless_overtaken readsISO_parseISOString annStore_listable ⟨rfl, rfl, rfl⟩ run
    (by simp [ListEvent.Stamped, ServerCommand.Stamped, EcmaDate.maxTime])).2.1 rfl
  constructor
  · apply listed (annThread "cem" 5) (by decide)
    simp [Overtakes, ListEvent.touched, ServerCommand.touched, annWaiting, directConversationDocumentToApi, annThread]
  · apply listed (annThread "bea" 3) (by decide)
    simp [Overtakes, ListEvent.touched, ServerCommand.touched, annThread]

/-- A thread in which a message is sent between two requests is not given at all. -/
theorem overtaken_thread_not_listed :
    ¬ ∀ (userId : String) (limit : Nat) (start final : ListReader ApiConversation)
      (history : List (Transition (ListReader ApiConversation) ListEvent)),
      start.db.ListableRows → (conversationReads EcmaDate.parseISOString userId limit).init start →
      (conversationReads EcmaDate.parseISOString userId limit).Run start history final →
      (∀ step ∈ history, step.label.Stamped) → final.finished = true →
      ∀ conv ∈ start.db.directConversations userId, conv.id ∈ final.items.map ApiConversation.id := by
  intro complete
  have run : (conversationReads EcmaDate.parseISOString "ann" 1).Run annReader _ annMissing :=
    .snoc (.snoc (.snoc (.snoc .nil ann_first)
      (show (conversationReads EcmaDate.parseISOString "ann" 1).step (annWaiting (annStore 3 5 []))
        (.served (.insertMessage beaMessage)) (annWaiting (annStore 3 5 [beaMessage])) from rfl))
      (show (conversationReads EcmaDate.parseISOString "ann" 1).step (annWaiting (annStore 3 5 [beaMessage]))
        (.served (.touchConversation "bea" 7)) (annWaiting (annStore 7 5 [beaMessage])) from rfl)) ann_misses
  have plain : beaMessage.place.Plain := ⟨show 7 ≤ EcmaDate.maxTime by decide, by decide, by decide⟩
  have listed := complete "ann" 1 annReader annMissing _ annStore_listable ⟨rfl, rfl, rfl⟩ run
    (by simp [ListEvent.Stamped, ServerCommand.Stamped, EcmaDate.maxTime, plain]) rfl (annThread "bea" 3) (by decide)
  revert listed
  decide

end TwoThreads

end MessagingSystem.Guarantees.ConversationPages
