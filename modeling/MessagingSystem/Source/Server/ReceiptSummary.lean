import MessagingSystem.Source.Client.MessageReceipts
import MessagingSystem.Source.Server.ReceiptEffects

/-!
# Receipt summaries

`messageReceiptSummaryApiShape.ts`: the `MessageReceiptSummary` that
`GET /conversations/{id}/message-receipts` answers for a stored message, in the
shape the web client reads it.
-/
namespace MessagingSystem.Source.Server
open Foundation Client

def receiptEntryToApi (entry : MessageReceipts) : MessageReceiptEntry where
  deliveredAt := entry.deliveredAt.map EcmaDate.toISOString
  seenAt := entry.seenAt.map EcmaDate.toISOString

def messageReceiptSummaryToApi (row : MessageDocument) : MessageReceiptSummary where
  messageId := row.id
  conversationId := row.conversationId
  createdAt := EcmaDate.toISOString row.createdAt
  receiptsByUserId :=
    if 0 < row.receiptsByUserId.size then
      some (Record.tabulate row.receiptsByUserId.names fun userId =>
        receiptEntryToApi ((row.receiptsByUserId.get userId).getD {}))
    else none

/-- The summary has an entry for every user with a stored one. -/
theorem entryOf_messageReceiptSummaryToApi (row : MessageDocument) (userId : String) :
    (messageReceiptSummaryToApi row).entryOf userId =
      (row.receiptsByUserId.get userId).map receiptEntryToApi := by
  unfold messageReceiptSummaryToApi MessageReceiptSummary.entryOf
  split
  · simp only [Option.bind_some, Record.get_tabulate, Record.mem_names]
    cases row.receiptsByUserId.get userId with
    | none => simp
    | some entry => simp
  · rename_i empty
    rw [Record.get_of_size (Nat.eq_zero_of_not_pos empty)]
    rfl

/-- Which fields an entry has: `deliveredAt` and `seenAt`. -/
def presentFields (entry : Option MessageReceiptEntry) : Bool × Bool :=
  ((entry.bind fun e => e.deliveredAt).isSome, (entry.bind fun e => e.seenAt).isSome)

/-- The fields once a receipt of the kind is there. -/
def withField (kind : FanoutKind) (fields : Bool × Bool) : Bool × Bool :=
  match kind with
  | .delivered => (true, fields.2)
  | .seen => (fields.1, true)

def ReceiptKind.fanout : ReceiptKind → FanoutKind
  | .delivered => .delivered
  | .seen => .seen

/-- The fields the summary of a message has for a user. -/
def summaryFields (row : MessageDocument) (userId : String) : Bool × Bool :=
  presentFields ((messageReceiptSummaryToApi row).entryOf userId)

@[simp] theorem withField_withField (kind : FanoutKind) (fields : Bool × Bool) :
    withField kind (withField kind fields) = withField kind fields := by
  cases kind <;> rfl

theorem presentFields_record (entry : Option MessageReceiptEntry) (kind : FanoutKind)
    (at' : String) :
    presentFields (some ((entry.getD ⟨none, none⟩).record kind at')) =
      withField kind (presentFields entry) := by
  cases entry with
  | none => cases kind <;> rfl
  | some e => cases kind <;> rfl

theorem summaryFields_setReceipt (row : MessageDocument) (kind : ReceiptKind) (userId other : String)
    (at' : Nat) :
    summaryFields (row.setReceipt kind userId at') other =
      if other = userId then withField kind.fanout (summaryFields row other)
      else summaryFields row other := by
  unfold summaryFields
  simp only [entryOf_messageReceiptSummaryToApi, MessageDocument.setReceipt, Record.get_set]
  by_cases same : other = userId
  · subst same
    simp only [if_true]
    cases row.receiptsByUserId.get other with
    | none => cases kind <;> rfl
    | some receipts => cases kind <;> rfl
  · simp [same]

/-- A written receipt time changes one message. -/
theorem findMessageRow_receiptWritten (kind : ReceiptKind) (r : ReceiptRequest) (at' : Nat)
    (db : Database) (id : String) :
    (db.receiptWritten kind r at').findMessageRow id =
      (db.findMessageRow id).map fun m =>
        if id = r.messageId then m.setReceipt kind r.actorUserId at' else m := by
  simp only [Database.receiptWritten, ServerCommand.exec, Database.findMessageRow,
    Database.setMessages]
  by_cases same : id = r.messageId
  · subst same
    simp only [if_true]
    have keeps : ∀ m : MessageDocument, decide (m.id = r.messageId) = true →
        decide ((m.setReceipt kind r.actorUserId at').id = r.messageId) = true :=
      fun _ matched => matched
    exact Collection.find_updateFirst_self keeps db.messages
  · simp only [same, if_false, Option.map_id']
    refine Collection.find_updateFirst_other (fun m matched => ?_) db.messages
    have named : m.id = r.messageId := by simpa using matched
    have other : ¬ r.messageId = id := fun h => same h.symm
    simp [MessageDocument.setReceipt, named, other]

end MessagingSystem.Source.Server
