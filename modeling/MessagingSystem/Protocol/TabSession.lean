import MessagingSystem.Foundation.Transition
import MessagingSystem.Source.Client.ThreadInvariant
import MessagingSystem.Source.Client.UseSendMessage

/-!
# One browser tab and the server it talks to

The tab sends through `useSendMessage`, receives acks, failures and
`message:new` events, and hydrates threads from `GET` snapshots taken earlier.
The server side is the list of messages it has stored, each with the text its
sender typed and the place it was sent from. A socket gets no `message:new`
for a message it sent itself, and a row without the hybrid envelope carries
its text as typed.
-/
namespace MessagingSystem.Protocol
open Foundation Source.Client

/-- A send of this tab, under its optimistic id. -/
structure OwnSend where
  conversationId : String
  text : String
  deriving DecidableEq

/-- Where a stored message came from: a send of this tab with an optimistic
row, the first message of a new thread sent by this tab, or elsewhere. -/
inductive MessageOrigin where
  | optimistic (clientId : String)
  | firstMessage
  | elsewhere
  deriving DecidableEq

structure StoredRow where
  conversationId : String
  senderId : String
  typed : String
  origin : MessageOrigin
  deriving DecidableEq

/-- An answered `GET /conversations/{id}/messages`, with the messages the
server had stored at that moment. -/
structure MessagesSnapshot where
  conversationId : String
  page : List Message
  storedBefore : Record StoredRow

structure TabSession where
  slice : MessagingState := initialState
  sends : Record OwnSend := ∅
  inFlight : List String := []
  stored : Record StoredRow := ∅
  received : List String := []
  acknowledged : List String := []
  snapshots : List MessagesSnapshot := []
  persisted : List (String × String × String) := []

/-- The wire row `m` is one the server can deliver for a stored message. -/
def Delivers (stored : Record StoredRow) (m : Message) (row : StoredRow) : Prop :=
  stored.get m.id = some row ∧ m.conversationId = row.conversationId ∧
  m.senderId = row.senderId ∧
  (isMessageWireE2ee m = false → ∀ body, m.body = .value body → body ≠ "" → body = row.typed)

inductive TabEvent where
  | send (conversationId : String) (payload : ThreadComposerSendPayload) (uuid now : String)
  | store (id : String) (row : StoredRow)
  | ack (conversationId optimisticId : String) (message : Message)
  | fail (conversationId optimisticId : String)
  | firstMessageAck (message : Message) (plaintext : String)
  | messageNew (message : Message)
  | fetch (conversationId : String) (page : List Message)
  | hydrate (snapshot : MessagesSnapshot)

namespace TabSession

/-- A reducer action and the write-through that follows it. -/
def dispatch (userId : String) (s : TabSession) (action : MessagingAction) : TabSession :=
  let slice := messagingReducer s.slice action
  { s with
    slice := slice
    persisted := s.persisted ++ (senderPlaintextToPersist (some userId) slice action).toList }

/-- The optimistic row of a send is appended and the send is in flight. -/
def sent (userId : String) (s : TabSession) (row : StoredMessage) (text : String) : TabSession :=
  { s with
    slice := appendMessageFromSend s.slice row.conversationId row
    sends := s.sends.set row.id ⟨row.conversationId, text⟩
    inFlight := row.id :: s.inFlight
    persisted := s.persisted ++
      (senderPlaintextToPersist (some userId) (appendMessageFromSend s.slice row.conversationId row)
        (.appendMessageFromSend row.conversationId row)).toList }

def perform (userId : String) (s : TabSession) : TabEvent → TabSession
  | .send c payload uuid now =>
      match prepareSend (some c) (some userId) payload uuid now with
      | .error _ => s
      | .ok (row, _) => s.sent userId row (EcmaText.trim payload.text)
  | .store id row => { s with stored := s.stored.set id row }
  | .ack c o m =>
      { s.dispatch userId (.replaceOptimisticMessage c o m) with
        inFlight := s.inFlight.filter (· ≠ o)
        received := m.id :: s.received
        acknowledged := m.id :: s.acknowledged }
  | .fail c o =>
      { s.dispatch userId (.removeOptimisticMessage c o) with
        inFlight := s.inFlight.filter (· ≠ o) }
  | .firstMessageAck m plaintext => s.dispatch userId (.recordOwnSendPlaintext m.id plaintext)
  | .messageNew m =>
      { s.dispatch userId (.appendIncomingMessageIfNew m (some userId)) with
        received := m.id :: s.received }
  | .fetch c page => { s with snapshots := ⟨c, page, s.stored⟩ :: s.snapshots }
  | .hydrate snapshot =>
      s.dispatch userId
        (.hydrateMessagesFromFetch snapshot.conversationId snapshot.page (some userId))

/-- When an event can happen. -/
def Enabled (s : TabSession) : TabEvent → Prop
  | .send _ _ uuid _ => s.sends.get (newOptimisticId uuid) = none
  | .store id row =>
      isClientId id = false ∧ EcmaText.Trimmed id ∧ s.stored.get id = none ∧
      ∀ o, row.origin = .optimistic o → s.sends.get o = some ⟨row.conversationId, row.typed⟩
  | .ack c o m =>
      o ∈ s.inFlight ∧ ∃ row, Delivers s.stored m row ∧ row.conversationId = c ∧
        row.origin = .optimistic o
  | .fail c o => o ∈ s.inFlight ∧ ∃ text, s.sends.get o = some ⟨c, text⟩
  | .firstMessageAck m plaintext =>
      ∃ row, Delivers s.stored m row ∧ row.origin = .firstMessage ∧ row.typed = plaintext
  | .messageNew m => ∃ row, Delivers s.stored m row ∧ row.origin = .elsewhere
  | .fetch c page =>
      (page.map fun m => m.id).Nodup ∧
      ∀ m ∈ page, ∃ row, Delivers s.stored m row ∧ row.conversationId = c
  | .hydrate snapshot => snapshot ∈ s.snapshots

end TabSession

/-- The tab of the signed-in user `userId`, opened on an empty slice. -/
def tabMachine (userId : String) : Machine TabSession TabEvent where
  init s := s = {}
  step s event t := s.Enabled event ∧ t = s.perform userId event

namespace TabSession

/-- The conversation of a stored message. -/
def homeOf (s : TabSession) (id : String) : Option String :=
  (s.stored.get id).map fun row => row.conversationId

/-- The conversation of a send of this tab. -/
def issuedOf (s : TabSession) (id : String) : Option String :=
  (s.sends.get id).map fun send => send.conversationId

/-- What holds of the tab and the server together after any events. -/
structure Consistent (s : TabSession) : Prop where
  thread : ThreadInvariant s.homeOf s.issuedOf s.slice
  sendClient : ∀ o send, s.sends.get o = some send → isClientId o = true
  flying : ∀ o ∈ s.inFlight, ∃ send, s.sends.get o = some send
  storedServer : ∀ id row, s.stored.get id = some row →
    isClientId id = false ∧ EcmaText.Trimmed id
  storedOrigin : ∀ id row o, s.stored.get id = some row → row.origin = .optimistic o →
    s.sends.get o = some ⟨row.conversationId, row.typed⟩
  known : ∀ id, id ∈ s.received ∨ id ∈ s.acknowledged → ∃ row, s.stored.get id = some row
  clientRow : ∀ o row, isClientId o = true → s.slice.messagesById.get o = some row →
    o ∈ s.inFlight ∧ ∃ send, s.sends.get o = some send ∧ row.body = textOrNull send.text
  page : ∀ snapshot ∈ s.snapshots,
    (snapshot.page.map fun m => m.id).Nodup ∧
    (∀ id row, snapshot.storedBefore.get id = some row → s.stored.get id = some row) ∧
    ∀ m ∈ snapshot.page, ∃ row, Delivers snapshot.storedBefore m row ∧
      row.conversationId = snapshot.conversationId

end TabSession

theorem Delivers.mono {stored stored' : Record StoredRow} {m : Message} {row : StoredRow}
    (delivers : Delivers stored m row)
    (grows : ∀ id row, stored.get id = some row → stored'.get id = some row) :
    Delivers stored' m row :=
  ⟨grows _ _ delivers.1, delivers.2⟩

/-- A reconciliation records the text of the optimistic row, when it has one,
and otherwise nothing but the text of a plain server row. -/
theorem Delivers.reconciled_plaintext {stored : Record StoredRow} {s t : MessagingState}
    {c o : String} {m : Message} {optimistic : Option StoredMessage} {row : StoredRow}
    (delivers : Delivers stored m row) (reconciled : Reconciled s t c o m optimistic)
    (typed : ∀ held, optimistic = some held → ∃ text, held.body = textOrNull text ∧
      (text = "" ∨ text = row.typed)) (id : String) :
    t.senderPlaintextByMessageId.get id = s.senderPlaintextByMessageId.get id ∨
      (id = m.id ∧ t.senderPlaintextByMessageId.get id = some row.typed) := by
  have recorded := reconciled.typed id
  dsimp only at recorded
  split at recorded
  · rename_i fresh
    obtain ⟨rfl, nonempty⟩ := fresh
    refine .inr ⟨rfl, recorded.trans (congrArg some ?_)⟩
    have untyped : (∀ held, optimistic = some held → held.body = .null) →
        plaintextAfterOptimisticMerge
          (mergeServerMessageWithOptimisticClientFields m optimistic) optimistic = row.typed := by
      intro noText
      obtain ⟨wire, body⟩ := plaintextAfterOptimisticMerge_untyped m optimistic noText nonempty
      exact delivers.2.2.2 wire _ body nonempty
    cases optimistic with
    | none => exact untyped (by simp)
    | some held =>
      obtain ⟨text, body, known⟩ := typed held rfl
      by_cases empty : text = ""
      · refine untyped ?_
        rintro held' ⟨⟩
        simpa [textOrNull, empty] using body
      · rw [plaintextAfterOptimisticMerge_typed _ held (by simpa [textOrNull, empty] using body)
          empty]
        exact known.resolve_left empty
  · exact .inl recorded

namespace TabSession.Consistent

variable {s : TabSession}

theorem serverRow (inv : s.Consistent) {m : Message} {row : StoredRow}
    (delivers : Delivers s.stored m row) : ServerRow s.homeOf row.conversationId m :=
  ⟨(inv.storedServer _ _ delivers.1).1, delivers.2.1, by simp [homeOf, delivers.1]⟩

theorem known_cons (inv : s.Consistent) {m : Message} {row : StoredRow}
    (delivers : Delivers s.stored m row) (id : String)
    (member : id ∈ m.id :: s.received ∨ id ∈ m.id :: s.acknowledged) :
    ∃ row, s.stored.get id = some row := by
  simp only [List.mem_cons] at member
  rcases member with (rfl | h) | (rfl | h)
  · exact ⟨row, delivers.1⟩
  · exact inv.known id (.inl h)
  · exact ⟨row, delivers.1⟩
  · exact inv.known id (.inr h)

/-- The actions the events dispatch are admissible. -/
theorem ack_admissible (inv : s.Consistent) {c o : String} {m : Message}
    (enabled : s.Enabled (.ack c o m)) :
    Admissible s.homeOf s.issuedOf (.replaceOptimisticMessage c o m) := by
  obtain ⟨flying, row, delivers, rfl, origin⟩ := enabled
  obtain ⟨send, hsend⟩ := inv.flying o flying
  refine ⟨inv.sendClient o send hsend, ?_, inv.serverRow delivers⟩
  simp [issuedOf, inv.storedOrigin _ _ _ delivers.1 origin]

theorem fail_admissible (inv : s.Consistent) {c o : String} (enabled : s.Enabled (.fail c o)) :
    Admissible s.homeOf s.issuedOf (.removeOptimisticMessage c o) := by
  obtain ⟨flying, text, hsend⟩ := enabled
  exact ⟨inv.sendClient o _ hsend, by simp [issuedOf, hsend]⟩

theorem messageNew_admissible (inv : s.Consistent) {m : Message} (user : Option String)
    (enabled : s.Enabled (.messageNew m)) :
    Admissible s.homeOf s.issuedOf (.appendIncomingMessageIfNew m user) := by
  obtain ⟨row, delivers, -⟩ := enabled
  have server := inv.serverRow delivers
  rw [← delivers.2.1] at server
  exact server

theorem hydrate_admissible (inv : s.Consistent) {snapshot : MessagesSnapshot}
    (user : Option String) (enabled : s.Enabled (.hydrate snapshot)) :
    Admissible s.homeOf s.issuedOf
      (.hydrateMessagesFromFetch snapshot.conversationId snapshot.page user) := by
  obtain ⟨distinct, before, rows⟩ := inv.page snapshot enabled
  refine ⟨distinct, fun m hm => ?_⟩
  obtain ⟨row, delivers, ofThread⟩ := rows m hm
  rw [← ofThread]
  exact inv.serverRow (delivers.mono before)

theorem send_admissible {c userId uuid now : String}
    {payload : ThreadComposerSendPayload} {row : StoredMessage}
    {request : HybridSendMessageRequest} (enabled : s.Enabled (.send c payload uuid now))
    (prepared : prepareSend (some c) (some userId) payload uuid now = .ok (row, request)) :
    Admissible s.homeOf s.issuedOf (.appendMessageFromSend row.conversationId row) := by
  have id := (prepareSend_success prepared).1
  refine ⟨by rw [id]; exact isClientId_newOptimisticId uuid, ?_, rfl⟩
  rw [id]
  simp only [issuedOf, Option.map_eq_none_iff]
  exact enabled

/-- An action that issues no id keeps the relation, together with the sends it
leaves in flight. -/
theorem dispatched (inv : s.Consistent) {userId : String} (action : MessagingAction)
    (admissible : Admissible s.homeOf s.issuedOf action)
    (issuesNone : issuedAfter s.issuedOf action = s.issuedOf) {inFlight : List String}
    {received acknowledged : List String} (fewer : ∀ o ∈ inFlight, o ∈ s.inFlight)
    (settled : ∀ o row, isClientId o = true →
      (messagingReducer s.slice action).messagesById.get o = some row → o ∈ s.inFlight →
      o ∈ inFlight)
    (known : ∀ id, id ∈ received ∨ id ∈ acknowledged → ∃ row, s.stored.get id = some row) :
    Consistent { s.dispatch userId action with
      inFlight := inFlight, received := received, acknowledged := acknowledged } := by
  refine
    { thread := ?_
      sendClient := inv.sendClient
      flying := fun o h => inv.flying o (fewer o h)
      storedServer := inv.storedServer
      storedOrigin := inv.storedOrigin
      known := known
      clientRow := ?_
      page := inv.page }
  · have step := inv.thread.step admissible
    rw [issuesNone] at step
    exact step
  · intro o row client held
    rcases inv.thread.clientRow_before admissible client held with before | ⟨c, rfl, rfl⟩
    · obtain ⟨flying, send⟩ := inv.clientRow o row client before
      exact ⟨settled o row client held flying, send⟩
    · have issued := congrFun issuesNone row.id
      simp only [issuedAfter, Function.update_self] at issued
      exact absurd (admissible.2.1.symm.trans issued.symm) (by simp)

theorem sent (inv : s.Consistent) (userId : String) {row : StoredMessage} {text : String}
    (admissible : Admissible s.homeOf s.issuedOf (.appendMessageFromSend row.conversationId row))
    (body : row.body = textOrNull text) : (s.sent userId row text).Consistent := by
  have fresh : s.sends.get row.id = none := by
    simpa [issuedOf] using admissible.2.1
  have kept : ∀ o send, s.sends.get o = some send →
      (s.sends.set row.id ⟨row.conversationId, text⟩).get o = some send := by
    intro o send h
    have different : o ≠ row.id := by
      rintro rfl
      simp [fresh] at h
    simpa [different] using h
  refine
    { thread := ?_
      sendClient := ?_
      flying := ?_
      storedServer := inv.storedServer
      storedOrigin := fun id r o h origin => kept _ _ (inv.storedOrigin id r o h origin)
      known := inv.known
      clientRow := ?_
      page := inv.page }
  · refine (inv.thread.step admissible).mono (fun _ _ h => h) fun o d h => ?_
    simp only [issuedAfter, Function.update_apply] at h
    simp only [issuedOf, TabSession.sent, Record.get_set]
    by_cases same : o = row.id
    · simpa [same] using h
    · simpa [same, issuedOf] using h
  · intro o send h
    change (s.sends.set row.id ⟨row.conversationId, text⟩).get o = some send at h
    rw [Record.get_set] at h
    split at h
    · rename_i same
      rw [same]
      exact admissible.1
    · exact inv.sendClient o send h
  · intro o member
    rcases List.mem_cons.mp member with rfl | member
    · exact ⟨_, Record.get_set_self _ _ _⟩
    · obtain ⟨send, h⟩ := inv.flying o member
      exact ⟨send, kept o send h⟩
  · intro o r client held
    rcases inv.thread.clientRow_before admissible client held with before | ⟨d, same, rfl⟩
    · obtain ⟨flying, send, h, hbody⟩ := inv.clientRow o r client before
      exact ⟨List.mem_cons_of_mem _ flying, send, kept o send h, hbody⟩
    · cases same
      exact ⟨List.mem_cons_self, _, Record.get_set_self _ _ _, body⟩

theorem send (inv : s.Consistent) (userId : String) {c uuid now : String}
    {payload : ThreadComposerSendPayload} (enabled : s.Enabled (.send c payload uuid now)) :
    (s.perform userId (.send c payload uuid now)).Consistent := by
  simp only [perform]
  cases prepared : prepareSend (some c) (some userId) payload uuid now with
  | error e => exact inv
  | ok result =>
    obtain ⟨row, request⟩ := result
    exact inv.sent userId (send_admissible enabled prepared)
      (prepareSend_success prepared).2.2.1

theorem store (inv : s.Consistent) (userId : String) {id : String} {row : StoredRow}
    (enabled : s.Enabled (.store id row)) :
    (s.perform userId (.store id row)).Consistent := by
  obtain ⟨server, trimmed, fresh, origin⟩ := enabled
  have grows : ∀ other r, s.stored.get other = some r →
      (s.stored.set id row).get other = some r := by
    intro other r h
    have different : other ≠ id := by
      rintro rfl
      simp [fresh] at h
    simpa [different] using h
  have newest : ∀ other r, (s.stored.set id row).get other = some r →
      (other = id ∧ r = row) ∨ s.stored.get other = some r := by
    intro other r h
    rw [Record.get_set] at h
    split at h
    · exact .inl ⟨‹_›, (Option.some.inj h).symm⟩
    · exact .inr h
  refine
    { thread := ?_
      sendClient := inv.sendClient
      flying := inv.flying
      storedServer := ?_
      storedOrigin := ?_
      known := fun other h => (inv.known other h).imp fun r hr => grows other r hr
      clientRow := inv.clientRow
      page := ?_ }
  · refine inv.thread.mono (fun other c h => ?_) fun _ _ h => h
    simp only [homeOf, Option.map_eq_some_iff] at h ⊢
    obtain ⟨r, hr, rfl⟩ := h
    exact ⟨r, grows other r hr, rfl⟩
  · intro other r h
    rcases newest other r h with ⟨rfl, rfl⟩ | h
    · exact ⟨server, trimmed⟩
    · exact inv.storedServer other r h
  · intro other r o h horigin
    rcases newest other r h with ⟨rfl, rfl⟩ | h
    · exact origin o horigin
    · exact inv.storedOrigin other r o h horigin
  · intro snapshot member
    obtain ⟨distinct, before, rows⟩ := inv.page snapshot member
    exact ⟨distinct, fun other r h => grows other r (before other r h), rows⟩

/-- Every event keeps the relation. -/
theorem step (inv : s.Consistent) (userId : String) {event : TabEvent}
    (enabled : s.Enabled event) : (s.perform userId event).Consistent := by
  cases event with
  | send c payload uuid now => exact inv.send userId enabled
  | store id row => exact inv.store userId enabled
  | ack c o m =>
    have admissible := inv.ack_admissible enabled
    obtain ⟨-, stored, delivers, -, -⟩ := enabled
    refine inv.dispatched _ admissible rfl (fun o h => List.mem_of_mem_filter h) ?_
      (inv.known_cons delivers)
    intro p row client held flying
    refine List.mem_filter.mpr ⟨flying, ?_⟩
    have gone := (replaceOptimisticMessage_reconciles s.slice c o m).rows p
    have notServer : p ≠ m.id := by
      rintro rfl
      simp [admissible.2.2.1] at client
    rw [if_neg notServer] at gone
    by_contra same
    rw [if_pos (by simpa using same)] at gone
    exact absurd (gone.symm.trans held) (by simp)
  | fail c o =>
    refine inv.dispatched _ (inv.fail_admissible enabled) rfl
      (fun o h => List.mem_of_mem_filter h) ?_ inv.known
    intro p row client held flying
    refine List.mem_filter.mpr ⟨flying, ?_⟩
    have gone := (removeOptimisticMessage_effects s.slice c o).2.2.1 p
    by_contra same
    rw [if_pos (by simpa using same)] at gone
    exact absurd (gone.symm.trans held) (by simp)
  | firstMessageAck m plaintext =>
    exact inv.dispatched (.recordOwnSendPlaintext m.id plaintext) trivial rfl
      (fun _ h => h) (fun _ _ _ _ h => h) inv.known
  | messageNew m =>
    obtain ⟨stored, delivers, -⟩ := id enabled
    exact inv.dispatched _ (inv.messageNew_admissible (some userId) enabled) rfl
      (fun _ h => h) (fun _ _ _ _ h => h) fun other h =>
        inv.known_cons delivers other (h.imp_right (List.mem_cons_of_mem _))
  | fetch c page =>
    refine { inv with page := ?_ }
    intro snapshot member
    rcases List.mem_cons.mp member with rfl | member
    · exact ⟨enabled.1, fun _ _ h => h, enabled.2⟩
    · exact inv.page snapshot member
  | hydrate snapshot =>
    exact inv.dispatched _ (inv.hydrate_admissible (some userId) enabled) rfl
      (fun _ h => h) (fun _ _ _ _ h => h) inv.known

theorem initial : ({} : TabSession).Consistent where
  thread := ThreadInvariant.initial
  sendClient _ _ := by simp
  flying _ := by simp
  storedServer _ _ := by simp
  storedOrigin _ _ _ := by simp
  known _ := by simp
  clientRow _ _ := by simp [initialState]
  page _ := by simp

theorem preserved {userId : String} (s : TabSession) (event : TabEvent) (t : TabSession)
    (inv : s.Consistent) (taken : (tabMachine userId).step s event t) : t.Consistent := by
  obtain ⟨enabled, rfl⟩ := taken
  exact inv.step userId enabled

end TabSession.Consistent

end MessagingSystem.Protocol
