import MessagingSystem.Protocol.TabSession

/-!
# Attribution of the typed plaintext

`senderPlaintextByMessageId[m]` should be the text typed for the message the
server stored as `m`. An own `message:new` from another tab takes the place of
the oldest optimistic row by queue position, and then the text of that row is
recorded for a message it does not belong to.
-/
namespace MessagingSystem.Guarantees.SenderPlaintextAttribution
open Foundation Source.Client Protocol

/-- Every recorded plaintext is the text typed for the stored message. -/
def EntriesAttributed (s : TabSession) : Prop :=
  ∀ id plain, s.slice.senderPlaintextByMessageId.get id = some plain →
    ∃ row, s.stored.get id = some row ∧ plain = row.typed

/-- The same of the slice and of everything the persist listener wrote. -/
def Attributed (s : TabSession) : Prop :=
  EntriesAttributed s ∧
  ∀ write ∈ s.persisted, ∃ row, s.stored.get write.2.1 = some row ∧ write.2.2 = row.typed

/-- No own `message:new` takes the place of an optimistic row with another text. -/
def EchoMatchesHead (userId : String) (t : Transition TabSession TabEvent) : Prop :=
  match t.label with
  | .messageNew m =>
      ∀ o row send stored, t.source.slice.messagesById.get m.id = none →
        echoTarget t.source.slice m (some userId) = some (o, row) →
        t.source.sends.get o = some send → t.source.stored.get m.id = some stored →
        send.text = "" ∨ send.text = stored.typed
  | _ => True

section Entries

variable {s : TabSession}

theorem reconciled_entries {t : MessagingState} {c o : String} {m : Message}
    {optimistic : Option StoredMessage} {stored : StoredRow} (entries : EntriesAttributed s)
    (delivers : Delivers s.stored m stored)
    (reconciled : Reconciled s.slice t c o m optimistic)
    (text : ∀ row, optimistic = some row → ∃ text, row.body = textOrNull text ∧
      (text = "" ∨ text = stored.typed)) :
    EntriesAttributed { s with slice := t } := by
  intro id plain held
  rcases delivers.reconciled_plaintext reconciled text id with same | ⟨rfl, recorded⟩
  · exact entries id plain (same ▸ held)
  · exact ⟨stored, delivers.1, Option.some.inj (held.symm.trans recorded)⟩

/-- What the listener writes after an action is an entry of the new slice. -/
theorem attributed_dispatch_iff (userId : String) (action : MessagingAction)
    (attributed : Attributed s) :
    Attributed (s.dispatch userId action) ↔
      EntriesAttributed { s with slice := messagingReducer s.slice action } := by
  constructor
  · exact fun h => h.1
  · intro entries
    refine ⟨entries, ?_⟩
    intro write member
    rcases List.mem_append.mp member with old | new
    · exact attributed.2 write old
    · obtain ⟨user, messageId, plain⟩ := write
      rw [Option.mem_toList] at new
      exact entries messageId plain (senderPlaintextToPersist_held new)

/-- Entries are not affected by the parts of a session outside slice and store. -/
theorem Attributed.congr {t : TabSession} (attributed : Attributed s)
    (slice : t.slice.senderPlaintextByMessageId = s.slice.senderPlaintextByMessageId)
    (stored : ∀ id row, s.stored.get id = some row → t.stored.get id = some row)
    (persisted : t.persisted = s.persisted) : Attributed t := by
  constructor
  · intro id plain held
    obtain ⟨row, h, same⟩ := attributed.1 id plain (slice ▸ held)
    exact ⟨row, stored _ _ h, same⟩
  · intro write member
    obtain ⟨row, h, same⟩ := attributed.2 write (persisted ▸ member)
    exact ⟨row, stored _ _ h, same⟩

end Entries

section Steps

variable {s : TabSession} {userId : String}

theorem send_attributed (attributed : Attributed s) (c uuid now : String)
    (payload : ThreadComposerSendPayload) :
    Attributed (s.perform userId (.send c payload uuid now)) := by
  simp only [TabSession.perform]
  cases prepared : prepareSend (some c) (some userId) payload uuid now with
  | error e => exact attributed
  | ok result =>
    obtain ⟨row, request⟩ := result
    have client : isClientId row.id = true := by
      rw [(prepareSend_success prepared).1]
      exact isClientId_newOptimisticId uuid
    have entries := (appendMessageFromSend_effects s.slice row.conversationId row client).2.2.2.2
    refine attributed.congr entries (fun _ _ h => h) ?_
    have unwritten : senderPlaintextToPersist (some userId)
        (appendMessageFromSend s.slice row.conversationId row)
        (.appendMessageFromSend row.conversationId row) = none := by
      unfold senderPlaintextToPersist
      dsimp only
      split <;> rfl
    simp [TabSession.sent, unwritten]

theorem ack_attributed (inv : s.Consistent) (attributed : Attributed s) {c o : String}
    {m : Message} (enabled : s.Enabled (.ack c o m)) :
    Attributed (s.perform userId (.ack c o m)) := by
  obtain ⟨flying, stored, delivers, -, origin⟩ := enabled
  refine (attributed_dispatch_iff userId (.replaceOptimisticMessage c o m) attributed).mpr ?_
  refine reconciled_entries attributed.1 delivers
    (replaceOptimisticMessage_reconciles s.slice c o m) ?_
  intro row held
  have sent := inv.storedOrigin _ _ _ delivers.1 origin
  obtain ⟨-, send, hsend, body⟩ := inv.clientRow o row (inv.sendClient o _ sent) held
  rw [sent] at hsend
  cases hsend
  exact ⟨stored.typed, body, .inr rfl⟩

theorem fail_attributed (attributed : Attributed s) (c o : String) :
    Attributed (s.perform userId (.fail c o)) :=
  (attributed_dispatch_iff userId (.removeOptimisticMessage c o) attributed).mpr attributed.1

theorem firstMessageAck_attributed (inv : s.Consistent) (attributed : Attributed s) {m : Message}
    {plaintext : String} (enabled : s.Enabled (.firstMessageAck m plaintext)) :
    Attributed (s.perform userId (.firstMessageAck m plaintext)) := by
  obtain ⟨stored, delivers, -, rfl⟩ := enabled
  refine (attributed_dispatch_iff userId (.recordOwnSendPlaintext m.id stored.typed) attributed).mpr ?_
  intro id plain held
  have recorded := (recordOwnSendPlaintext_effects s.slice m.id stored.typed).2.2.2.2 id
  change (recordOwnSendPlaintext s.slice m.id
    stored.typed).senderPlaintextByMessageId.get id = some plain at held
  rw [held] at recorded
  split at recorded
  · rename_i fresh
    have trimmed : EcmaText.trim m.id = m.id := (inv.storedServer _ _ delivers.1).2
    rw [trimmed] at fresh
    exact ⟨stored, fresh.1 ▸ delivers.1, Option.some.inj recorded⟩
  · exact attributed.1 id plain recorded.symm

theorem hydrate_attributed (inv : s.Consistent) (attributed : Attributed s)
    {snapshot : MessagesSnapshot} (enabled : s.Enabled (.hydrate snapshot)) :
    Attributed (s.perform userId (.hydrate snapshot)) := by
  have admissible := inv.hydrate_admissible (some userId) enabled
  refine (attributed_dispatch_iff userId (.hydrateMessagesFromFetch snapshot.conversationId
    snapshot.page (some userId)) attributed).mpr ?_
  obtain ⟨-, -, -, -, -, -, typed⟩ := hydrateMessagesFromFetch_effects s.slice
    snapshot.conversationId snapshot.page (some userId) fun m hm => (admissible.2 m hm).2.1
  intro id plain held
  have kept := typed id
  change (hydrateMessagesFromFetch s.slice snapshot.conversationId snapshot.page
    (some userId)).senderPlaintextByMessageId.get id = some plain at held
  rw [held] at kept
  split at kept
  · cases kept
  · exact attributed.1 id plain kept.symm

/-- A `message:new` keeps the attribution exactly when it does not take the
place of an optimistic row with another text. -/
theorem messageNew_attributed_iff (inv : s.Consistent) (attributed : Attributed s) {m : Message}
    (enabled : s.Enabled (.messageNew m)) :
    EchoMatchesHead userId ⟨s, .messageNew m, s.perform userId (.messageNew m)⟩ ↔
      Attributed (s.perform userId (.messageNew m)) := by
  obtain ⟨stored, delivers, origin⟩ := id enabled
  have dispatched := attributed_dispatch_iff userId
    (.appendIncomingMessageIfNew m (some userId)) attributed
  refine Iff.trans ?_ dispatched.symm
  change _ ↔ EntriesAttributed { s with slice := appendIncomingMessageIfNew s.slice m (some userId) }
  cases absent : s.slice.messagesById.get m.id with
  | some held =>
    rw [appendIncoming_held (some userId) (by simp [absent])]
    exact iff_of_true (fun o row send stored' h => by simp [absent] at h) attributed.1
  | none =>
    cases target : echoTarget s.slice m (some userId) with
    | none =>
      have same := (appendIncoming_appends absent (inv.thread.pending_listed _) target).2.2.2.2
      refine iff_of_true (fun o row send stored' _ h => by simp [target] at h) ?_
      intro id plain held
      exact attributed.1 id plain (same ▸ held)
    | some found =>
      obtain ⟨o, row⟩ := found
      have queued := echoTarget_queued target
      have reconciled := appendIncoming_reconciles absent (inv.thread.pending_listed _)
        (inv.thread.pending_distinct _) target
      obtain ⟨-, send, hsend, body⟩ := inv.clientRow o row (inv.thread.pending_client queued)
        (echoTarget_row target)
      constructor
      · intro matching
        refine reconciled_entries attributed.1 delivers reconciled ?_
        rintro row' ⟨⟩
        exact ⟨send.text, body, matching o row send stored absent target hsend delivers.1⟩
      · rintro entries o' row' send' stored' - htarget hsend' hstored
        rw [target] at htarget
        cases htarget
        rw [hsend] at hsend'
        cases hsend'
        by_cases empty : send.text = ""
        · exact .inl empty
        · right
          have recorded := reconciled.typed m.id
          rw [plaintextAfterOptimisticMerge_typed _ row (by simpa [textOrNull, empty] using body)
            empty] at recorded
          simp only [ne_eq, empty, not_false_eq_true, and_self, if_true] at recorded
          obtain ⟨row'', hrow, same⟩ := entries m.id send.text recorded
          rw [hstored] at hrow
          cases hrow
          exact same

theorem step_attributed_iff (s : TabSession) (event : TabEvent) (t : TabSession)
    (inv : s.Consistent) (attributed : Attributed s)
    (taken : (tabMachine userId).step s event t) :
    EchoMatchesHead userId ⟨s, event, t⟩ ↔ Attributed t := by
  obtain ⟨enabled, rfl⟩ := taken
  cases event with
  | send c payload uuid now =>
    exact iff_of_true trivial (send_attributed attributed c uuid now payload)
  | store id row =>
    refine iff_of_true trivial (attributed.congr rfl (fun other r h => ?_) rfl)
    have different : other ≠ id := by
      rintro rfl
      simp [enabled.2.2.1] at h
    simpa [TabSession.perform, different] using h
  | ack c o m => exact iff_of_true trivial (ack_attributed inv attributed enabled)
  | fail c o => exact iff_of_true trivial (fail_attributed attributed c o)
  | firstMessageAck m plaintext =>
    exact iff_of_true trivial (firstMessageAck_attributed inv attributed enabled)
  | messageNew m => exact messageNew_attributed_iff inv attributed enabled
  | fetch c page => exact iff_of_true trivial (attributed.congr rfl (fun _ _ h => h) rfl)
  | hydrate snapshot => exact iff_of_true trivial (hydrate_attributed inv attributed enabled)

end Steps

theorem initial_attributed : Attributed {} := by
  constructor
  · intro id plain h
    simp [initialState] at h
  · simp

/-- In every run the plaintext is attributed in all states reached exactly when
no own `message:new` takes the place of an optimistic row with another text. -/
theorem plaintext_attributed_iff (userId : String) (s : TabSession)
    (history : List (Transition TabSession TabEvent))
    (run : (tabMachine userId).Run {} history s) :
    (∀ t ∈ history, EchoMatchesHead userId t) ↔ (∀ t ∈ history, Attributed t.target) :=
  run.forall_target_iff TabSession.Consistent.preserved step_attributed_iff
    TabSession.Consistent.initial initial_attributed

/-- A send and its ack, with nothing received between. -/
theorem plaintext_attributed_own_send :
    let acked : Message :=
      { id := "m1", conversationId := "c", senderId := "u", body := .value "aGVsbG8=",
        encryptedMessageKeys := .value (Record.ofList [("d", "key")]), iv := .value "iv",
        algorithm := .value MESSAGE_HYBRID_ALGORITHM, createdAt := "2026-01-01T00:00:01.000Z" }
    let row : StoredRow :=
      { conversationId := "c", senderId := "u", typed := "hello", origin := .optimistic "client:1" }
    let start : TabSession := {}
    let sending := start.perform "u"
      (.send "c" { text := "hello" } "1" "2026-01-01T00:00:00.000Z")
    let stored := sending.perform "u" (.store "m1" row)
    let settled := stored.perform "u" (.ack "c" "client:1" acked)
    Attributed settled ∧
      settled.slice.senderPlaintextByMessageId.get "m1" = some "hello" ∧
      settled.persisted = [("u", "m1", "hello")] := by
  intro acked row start sending stored settled
  have origin : ∀ o, row.origin = .optimistic o →
      sending.sends.get o = some ⟨"c", "hello"⟩ := by
    rintro o ⟨⟩
    decide
  have send : (tabMachine "u").step start
      (.send "c" { text := "hello" } "1" "2026-01-01T00:00:00.000Z") sending :=
    ⟨(by decide : start.sends.get (newOptimisticId "1") = none), rfl⟩
  have store : (tabMachine "u").step sending (.store "m1" row) stored :=
    ⟨⟨by decide, by decide, by decide, origin⟩, rfl⟩
  have ack : (tabMachine "u").step stored (.ack "c" "client:1" acked) settled :=
    ⟨⟨by decide, row, ⟨by decide, rfl, rfl, fun wire => absurd wire (by decide)⟩, rfl, rfl⟩, rfl⟩
  have run := Machine.Run.snoc (.snoc (.snoc .nil send) store) ack
  have reached := (plaintext_attributed_iff "u" settled _ run).mp (by simp [EchoMatchesHead])
  exact ⟨reached _ (List.mem_append_right _ (List.mem_singleton_self _)), by decide, by decide⟩

/-- Two tabs of one user: this tab's "hello" is waiting for its ack when the
other tab's "world" arrives, and "hello" is recorded for the id of "world". -/
theorem plaintext_of_another_message :
    ¬ ∀ (userId : String) (s : TabSession), (tabMachine userId).Reachable s → Attributed s := by
  intro claim
  let echo : Message :=
    { id := "m2", conversationId := "c", senderId := "u", body := .value "d29ybGQ=",
      encryptedMessageKeys := .value (Record.ofList [("d", "key")]), iv := .value "iv",
      algorithm := .value MESSAGE_HYBRID_ALGORITHM, createdAt := "2026-01-01T00:00:01.000Z" }
  let elsewhere : StoredRow :=
    { conversationId := "c", senderId := "u", typed := "world", origin := .elsewhere }
  let start : TabSession := {}
  let sending := start.perform "u" (.send "c" { text := "hello" } "1" "2026-01-01T00:00:00.000Z")
  let stored := sending.perform "u" (.store "m2" elsewhere)
  let received := stored.perform "u" (.messageNew echo)
  have reachable : (tabMachine "u").Reachable received := by
    refine ⟨start, _, rfl, .snoc (.snoc (.snoc .nil ⟨?_, rfl⟩) ⟨?_, rfl⟩) ⟨?_, rfl⟩⟩
    · exact (by decide : start.sends.get (newOptimisticId "1") = none)
    · exact ⟨by decide, by decide, by decide, by simp [elsewhere]⟩
    · exact ⟨elsewhere, ⟨by decide, rfl, rfl, fun wire => absurd wire (by decide)⟩, rfl⟩
  obtain ⟨row, held, same⟩ := (claim "u" received reachable).1 "m2" "hello" (by decide)
  have : received.stored.get "m2" = some elsewhere := by decide
  rw [this] at held
  cases held
  exact absurd same (by decide)

end MessagingSystem.Guarantees.SenderPlaintextAttribution
