import MessagingSystem.Protocol.TabSession

/-!
# Hydration of an older snapshot

`hydrateMessagesFromFetch` replaces a thread by a page that was read earlier.
What arrived, was sent or was acknowledged between the read and the
replacement is not in the page, and the rows and plaintexts the page does not
list are dropped.
-/
namespace MessagingSystem.Guarantees.HydrationWindow
open Foundation Source.Client Protocol

/-- A hydration keeps every received message stored after its snapshot. -/
def ReceivedKept (t : Transition TabSession TabEvent) : Prop :=
  match t.label with
  | .hydrate snapshot =>
      ∀ id row, id ∈ t.source.received → t.source.stored.get id = some row →
        row.conversationId = snapshot.conversationId → snapshot.storedBefore.get id = none →
        id ∈ t.target.slice.idsOf snapshot.conversationId
  | _ => True

/-- A hydration keeps every optimistic row whose send is in flight. -/
def InFlightKept (t : Transition TabSession TabEvent) : Prop :=
  match t.label with
  | .hydrate _ =>
      ∀ c o, o ∈ t.source.slice.idsOf c → o ∈ t.source.inFlight → o ∈ t.target.slice.idsOf c
  | _ => True

/-- Every acknowledged message has its typed plaintext. -/
def TypedKept (s : TabSession) : Prop :=
  ∀ id row, id ∈ s.acknowledged → s.stored.get id = some row → row.typed ≠ "" →
    s.slice.senderPlaintextByMessageId.get id = some row.typed

/-- Nothing was received and nothing is being sent since the snapshot. -/
def WindowEmpty (s : TabSession) (snapshot : MessagesSnapshot) : Prop :=
  (∀ id row, id ∈ s.received → s.stored.get id = some row →
    row.conversationId = snapshot.conversationId → snapshot.storedBefore.get id ≠ none) ∧
  s.slice.pendingOf snapshot.conversationId = []

/-- A hydration comes from a snapshot with an empty window whose page lists the
acknowledged messages of the thread, and no own message of another tab takes
the place of an optimistic row with text. -/
def Quiet (userId : String) (t : Transition TabSession TabEvent) : Prop :=
  match t.label with
  | .hydrate snapshot =>
      WindowEmpty t.source snapshot ∧
      ∀ id row, id ∈ t.source.acknowledged → t.source.stored.get id = some row →
        row.typed ≠ "" → id ∈ t.source.slice.idsOf snapshot.conversationId →
        id ∈ snapshot.page.map fun m => m.id
  | .messageNew m =>
      ∀ o row send, t.source.slice.messagesById.get m.id = none →
        echoTarget t.source.slice m (some userId) = some (o, row) →
        t.source.sends.get o = some send → send.text = ""
  | _ => True

section Hydration

variable {s : TabSession} {userId : String} {snapshot : MessagesSnapshot}

/-- After a hydration the thread lists the page, and the page was stored before. -/
theorem hydrated_thread (inv : s.Consistent) (enabled : s.Enabled (.hydrate snapshot))
    (id : String) :
    id ∈ (s.perform userId (.hydrate snapshot)).slice.idsOf snapshot.conversationId →
      snapshot.storedBefore.get id ≠ none ∧ isClientId id = false := by
  obtain ⟨-, before, rows⟩ := inv.page snapshot enabled
  have admissible := inv.hydrate_admissible (some userId) enabled
  obtain ⟨order, -⟩ := hydrateMessagesFromFetch_effects s.slice snapshot.conversationId
    snapshot.page (some userId) fun m hm => (admissible.2 m hm).2.1
  intro listed
  change id ∈ (hydrateMessagesFromFetch s.slice snapshot.conversationId snapshot.page
    (some userId)).idsOf snapshot.conversationId at listed
  rw [order, if_pos rfl, List.mem_reverse] at listed
  obtain ⟨m, hm, rfl⟩ := List.mem_map.mp listed
  obtain ⟨row, delivers, -⟩ := rows m hm
  exact ⟨by simp [delivers.1], (admissible.2 m hm).1⟩

/-- A hydration keeps what was received and what is being sent exactly when
its window is empty. -/
theorem hydrate_kept_iff (inv : s.Consistent) (enabled : s.Enabled (.hydrate snapshot)) :
    (ReceivedKept ⟨s, .hydrate snapshot, s.perform userId (.hydrate snapshot)⟩ ∧
      InFlightKept ⟨s, .hydrate snapshot, s.perform userId (.hydrate snapshot)⟩) ↔
      WindowEmpty s snapshot := by
  have admissible := inv.hydrate_admissible (some userId) enabled
  obtain ⟨order, -⟩ := hydrateMessagesFromFetch_effects s.slice snapshot.conversationId
    snapshot.page (some userId) fun m hm => (admissible.2 m hm).2.1
  constructor
  · rintro ⟨received, flying⟩
    constructor
    · intro id row member stored ofThread after
      exact (hydrated_thread inv enabled id (received id row member stored ofThread after)).1 after
    · rw [List.eq_nil_iff_forall_not_mem]
      intro o queued
      have listed := inv.thread.pending_listed _ o queued
      have client := inv.thread.pending_client queued
      obtain ⟨row, held, -⟩ := Option.map_eq_some_iff.mp ((inv.thread.listed _ o).mp listed)
      have kept := flying snapshot.conversationId o listed (inv.clientRow o row client held).1
      simp [(hydrated_thread inv enabled o kept).2] at client
  · rintro ⟨received, flying⟩
    constructor
    · intro id row member stored ofThread after
      exact absurd after (received id row member stored ofThread)
    · intro c o listed inFlight
      obtain ⟨send, hsend⟩ := inv.flying o inFlight
      by_cases same : c = snapshot.conversationId
      · have queued : o ∈ s.slice.pendingOf c := by
          rw [inv.thread.queue]
          exact List.mem_filter.mpr ⟨listed, inv.sendClient o send hsend⟩
        rw [same, flying] at queued
        cases queued
      · change o ∈ (hydrateMessagesFromFetch s.slice snapshot.conversationId snapshot.page
          (some userId)).idsOf c
        rwa [order, if_neg same]

end Hydration

/-- Sends in flight with text still hold their optimistic row. -/
def InFlightHeld (s : TabSession) : Prop :=
  ∀ o send, o ∈ s.inFlight → s.sends.get o = some send → send.text ≠ "" →
    (s.slice.messagesById.get o).isSome

section Steps

variable {s : TabSession} {userId : String}

/-- The typed plaintexts survive a change of the slice that only records the
right text, for the same acknowledged messages. -/
theorem TypedKept.of_recorded {t : TabSession} (kept : TypedKept s)
    (stored : t.stored = s.stored) (acknowledged : t.acknowledged = s.acknowledged)
    (recorded : ∀ id, t.slice.senderPlaintextByMessageId.get id =
        s.slice.senderPlaintextByMessageId.get id ∨
      ∃ row, s.stored.get id = some row ∧
        t.slice.senderPlaintextByMessageId.get id = some row.typed) :
    TypedKept t := by
  intro id row member held nonempty
  rw [acknowledged] at member
  rw [stored] at held
  rcases recorded id with same | ⟨row', held', same⟩
  · rw [same]
    exact kept id row member held nonempty
  · rw [held] at held'
    cases held'
    exact same

theorem send_kept (typed : TypedKept s) (held : InFlightHeld s)
    {c uuid now : String} {payload : ThreadComposerSendPayload}
    (enabled : s.Enabled (.send c payload uuid now)) :
    TypedKept (s.perform userId (.send c payload uuid now)) ∧
      InFlightHeld (s.perform userId (.send c payload uuid now)) := by
  simp only [TabSession.perform]
  cases prepared : prepareSend (some c) (some userId) payload uuid now with
  | error e => exact ⟨typed, held⟩
  | ok result =>
    obtain ⟨row, request⟩ := result
    have client := (TabSession.Consistent.send_admissible enabled prepared).1
    obtain ⟨-, -, rows, -, entries⟩ :=
      appendMessageFromSend_effects s.slice row.conversationId row client
    refine ⟨typed.of_recorded rfl rfl fun id => .inl (by simp [TabSession.sent, entries]), ?_⟩
    intro o send member hsend nonempty
    change ((appendMessageFromSend s.slice row.conversationId row).messagesById.get o).isSome
    rw [rows]
    by_cases same : o = row.id
    · simp [same]
    · have old : (s.sends.set row.id ⟨row.conversationId, EcmaText.trim payload.text⟩).get o =
          some send := hsend
      rw [Record.get_set_of_ne _ _ same] at old
      rw [if_neg same]
      exact held o send (List.mem_of_ne_of_mem same member) old nonempty

theorem ack_kept (inv : s.Consistent) (typed : TypedKept s) (held : InFlightHeld s)
    {c o : String} {m : Message} (enabled : s.Enabled (.ack c o m)) :
    TypedKept (s.perform userId (.ack c o m)) ∧
      InFlightHeld (s.perform userId (.ack c o m)) := by
  have admissible := inv.ack_admissible enabled
  obtain ⟨flying, stored, delivers, -, origin⟩ := enabled
  have sent := inv.storedOrigin _ _ _ delivers.1 origin
  have reconciled := replaceOptimisticMessage_reconciles s.slice c o m
  have typedRow : ∀ row, s.slice.messagesById.get o = some row →
      row.body = textOrNull stored.typed := by
    intro row hrow
    obtain ⟨-, send, hsend, body⟩ := inv.clientRow o row (inv.sendClient o _ sent) hrow
    rw [sent] at hsend
    cases hsend
    exact body
  have recorded := delivers.reconciled_plaintext reconciled fun row hrow =>
    ⟨stored.typed, typedRow row hrow, .inr rfl⟩
  constructor
  · intro id row member hrow nonempty
    change (replaceOptimisticMessage s.slice c o m).senderPlaintextByMessageId.get id =
      some row.typed
    by_cases same : id = m.id
    · subst same
      obtain rfl : stored = row := Option.some.inj (delivers.1.symm.trans hrow)
      obtain ⟨held, hheld⟩ := Option.isSome_iff_exists.mp (held o _ flying sent nonempty)
      have plain := plaintextAfterOptimisticMerge_typed
        (mergeServerMessageWithOptimisticClientFields m (some held)) held
        (by simpa [textOrNull, nonempty] using typedRow held hheld) nonempty
      have entry := reconciled.typed m.id
      rw [hheld, plain] at entry
      simpa [nonempty] using entry
    · rcases recorded id with h | ⟨h, -⟩
      · rw [h]
        exact typed id row (List.mem_of_ne_of_mem same member) hrow nonempty
      · exact absurd h same
  · intro p send member hsend nonempty
    obtain ⟨member, different⟩ := List.mem_filter.mp member
    have notServer : p ≠ m.id := by
      rintro rfl
      have := inv.sendClient _ send hsend
      simp [admissible.2.2.1] at this
    change ((replaceOptimisticMessage s.slice c o m).messagesById.get p).isSome
    rw [reconciled.rows, if_neg notServer, if_neg (by simpa using different)]
    exact held p send member hsend nonempty

theorem fail_kept (typed : TypedKept s) (held : InFlightHeld s) (c o : String) :
    TypedKept (s.perform userId (.fail c o)) ∧ InFlightHeld (s.perform userId (.fail c o)) := by
  refine ⟨typed.of_recorded rfl rfl fun _ => .inl rfl, ?_⟩
  intro p send member hsend nonempty
  obtain ⟨member, different⟩ := List.mem_filter.mp member
  change ((removeOptimisticMessage s.slice c o).messagesById.get p).isSome
  rw [(removeOptimisticMessage_effects s.slice c o).2.2.1, if_neg (by simpa using different)]
  exact held p send member hsend nonempty

theorem firstMessageAck_kept (inv : s.Consistent) (typed : TypedKept s) (held : InFlightHeld s)
    {m : Message} {plaintext : String} (enabled : s.Enabled (.firstMessageAck m plaintext)) :
    TypedKept (s.perform userId (.firstMessageAck m plaintext)) ∧
      InFlightHeld (s.perform userId (.firstMessageAck m plaintext)) := by
  obtain ⟨stored, delivers, -, rfl⟩ := enabled
  obtain ⟨-, -, rows, -, entries⟩ := recordOwnSendPlaintext_effects s.slice m.id stored.typed
  constructor
  · refine typed.of_recorded rfl rfl fun id => ?_
    have entry := entries id
    split at entry
    · rename_i fresh
      have trimmed : EcmaText.trim m.id = m.id := (inv.storedServer _ _ delivers.1).2
      exact .inr ⟨stored, (fresh.1.trans trimmed) ▸ delivers.1, entry⟩
    · exact .inl entry
  · intro o send member hsend nonempty
    change ((recordOwnSendPlaintext s.slice m.id stored.typed).messagesById.get o).isSome
    rw [rows]
    exact held o send member hsend nonempty

theorem messageNew_kept (inv : s.Consistent) (typed : TypedKept s) (held : InFlightHeld s)
    {m : Message} (enabled : s.Enabled (.messageNew m))
    (quiet : Quiet userId ⟨s, .messageNew m, s.perform userId (.messageNew m)⟩) :
    TypedKept (s.perform userId (.messageNew m)) ∧
      InFlightHeld (s.perform userId (.messageNew m)) := by
  obtain ⟨stored, delivers, -⟩ := id enabled
  have server := (inv.messageNew_admissible (some userId) enabled).1
  -- the slice after the reducer, as the session sees it
  suffices effect : (∀ id, (appendIncomingMessageIfNew s.slice m
        (some userId)).senderPlaintextByMessageId.get id =
          s.slice.senderPlaintextByMessageId.get id ∨
        ∃ row, s.stored.get id = some row ∧ (appendIncomingMessageIfNew s.slice m
          (some userId)).senderPlaintextByMessageId.get id = some row.typed) ∧
      (∀ o send, s.sends.get o = some send → send.text ≠ "" →
        (s.slice.messagesById.get o).isSome →
        ((appendIncomingMessageIfNew s.slice m (some userId)).messagesById.get o).isSome) by
    exact ⟨typed.of_recorded rfl rfl effect.1, fun o send member hsend nonempty =>
      effect.2 o send hsend nonempty (held o send member hsend nonempty)⟩
  have notServer : ∀ o send, s.sends.get o = some send → o ≠ m.id := by
    rintro o send hsend rfl
    have := inv.sendClient _ send hsend
    simp [server] at this
  cases absent : s.slice.messagesById.get m.id with
  | some row =>
    rw [appendIncoming_held (some userId) (by simp [absent])]
    exact ⟨fun _ => .inl rfl, fun _ _ _ _ h => h⟩
  | none =>
    cases target : echoTarget s.slice m (some userId) with
    | none =>
      obtain ⟨-, -, rows, -, entries⟩ :=
        appendIncoming_appends absent (inv.thread.pending_listed _) target
      refine ⟨fun id => .inl (by rw [entries]), fun o send hsend _ h => ?_⟩
      rw [rows, if_neg (notServer o send hsend)]
      exact h
    | some found =>
      obtain ⟨o, row⟩ := found
      have reconciled := appendIncoming_reconciles absent (inv.thread.pending_listed _)
        (inv.thread.pending_distinct _) target
      obtain ⟨-, send, hsend, body⟩ := inv.clientRow o row
        (inv.thread.pending_client (echoTarget_queued target)) (echoTarget_row target)
      have untyped := quiet o row send absent target hsend
      constructor
      · intro id
        rcases delivers.reconciled_plaintext reconciled (by
          rintro row' ⟨⟩
          exact ⟨send.text, body, .inl untyped⟩) id with h | ⟨rfl, h⟩
        · exact .inl h
        · exact .inr ⟨stored, delivers.1, h⟩
      · intro p other hother nonempty h
        have different : p ≠ o := by
          rintro rfl
          rw [hsend] at hother
          cases hother
          exact nonempty untyped
        rw [reconciled.rows, if_neg (notServer p other hother), if_neg different]
        exact h

theorem hydrate_typed (inv : s.Consistent) (typed : TypedKept s) (held : InFlightHeld s)
    {snapshot : MessagesSnapshot} (enabled : s.Enabled (.hydrate snapshot))
    (quiet : Quiet userId ⟨s, .hydrate snapshot, s.perform userId (.hydrate snapshot)⟩) :
    TypedKept (s.perform userId (.hydrate snapshot)) ∧
      InFlightHeld (s.perform userId (.hydrate snapshot)) := by
  have admissible := inv.hydrate_admissible (some userId) enabled
  obtain ⟨-, -, rows, -, -, -, entries⟩ := hydrateMessagesFromFetch_effects s.slice
    snapshot.conversationId snapshot.page (some userId) fun m hm => (admissible.2 m hm).2.1
  obtain ⟨⟨-, idle⟩, paged⟩ := quiet
  constructor
  · intro id row member stored nonempty
    change (hydrateMessagesFromFetch s.slice snapshot.conversationId snapshot.page
      (some userId)).senderPlaintextByMessageId.get id = some row.typed
    rw [entries, if_neg]
    · exact typed id row member stored nonempty
    · rintro ⟨listed, unpaged⟩
      exact unpaged (paged id row member stored nonempty listed)
  · intro o send member hsend nonempty
    have client := inv.sendClient o send hsend
    have unfetched : o ∉ snapshot.page.map fun m => m.id := by
      intro fetched
      obtain ⟨m, hm, rfl⟩ := List.mem_map.mp fetched
      simp [(admissible.2 m hm).1] at client
    have unlisted : o ∉ s.slice.idsOf snapshot.conversationId := by
      intro listed
      have queued : o ∈ s.slice.pendingOf snapshot.conversationId := by
        rw [inv.thread.queue]
        exact List.mem_filter.mpr ⟨listed, client⟩
      rw [idle] at queued
      cases queued
    change ((hydrateMessagesFromFetch s.slice snapshot.conversationId snapshot.page
      (some userId)).messagesById.get o).isSome
    rw [rows o unfetched, if_neg unlisted]
    exact held o send member hsend nonempty

theorem store_kept (inv : s.Consistent) (typed : TypedKept s) (held : InFlightHeld s)
    {id : String} {row : StoredRow} (enabled : s.Enabled (.store id row)) :
    TypedKept (s.perform userId (.store id row)) ∧
      InFlightHeld (s.perform userId (.store id row)) := by
  refine ⟨?_, held⟩
  intro other r member stored nonempty
  obtain ⟨old, hold⟩ := inv.known other (.inr member)
  have different : other ≠ id := by
    rintro rfl
    simp [enabled.2.2.1] at hold
  have stored' : s.stored.get other = some r := by
    simpa [TabSession.perform, different] using stored
  exact typed other r member stored' nonempty

/-- A quiet step keeps every plaintext and every optimistic row with text. -/
theorem step_kept (s : TabSession) (event : TabEvent) (t : TabSession)
    (kept : s.Consistent ∧ TypedKept s ∧ InFlightHeld s)
    (taken : (tabMachine userId).step s event t) (quiet : Quiet userId ⟨s, event, t⟩) :
    t.Consistent ∧ TypedKept t ∧ InFlightHeld t := by
  obtain ⟨enabled, rfl⟩ := taken
  obtain ⟨inv, typed, held⟩ := kept
  refine ⟨inv.step userId enabled, ?_⟩
  cases event with
  | send c payload uuid now => exact send_kept typed held enabled
  | store id row => exact store_kept inv typed held enabled
  | ack c o m => exact ack_kept inv typed held enabled
  | fail c o => exact fail_kept typed held c o
  | firstMessageAck m plaintext => exact firstMessageAck_kept inv typed held enabled
  | messageNew m => exact messageNew_kept inv typed held enabled quiet
  | fetch c page => exact ⟨typed, held⟩
  | hydrate snapshot => exact hydrate_typed inv typed held enabled quiet

end Steps

/-- In every run of quiet steps a hydration loses no received message, no
optimistic row and no typed plaintext; and in any run a hydration keeps the
first two exactly when nothing happened in its window. -/
theorem hydration_keeps (userId : String) (s : TabSession)
    (history : List (Transition TabSession TabEvent))
    (run : (tabMachine userId).Run {} history s) :
    ((∀ t ∈ history, Quiet userId t) →
      ∀ t ∈ history, ReceivedKept t ∧ InFlightKept t ∧ TypedKept t.target) ∧
    (∀ t ∈ history, ∀ snapshot, t.label = .hydrate snapshot →
      ((ReceivedKept t ∧ InFlightKept t) ↔ WindowEmpty t.source snapshot)) := by
  have window : ∀ t ∈ history, ∀ snapshot, t.label = .hydrate snapshot →
      ((ReceivedKept t ∧ InFlightKept t) ↔ WindowEmpty t.source snapshot) := by
    rintro ⟨source, label, target⟩ member snapshot ⟨⟩
    obtain ⟨taken, inv⟩ := run.recorded TabSession.Consistent.preserved
      TabSession.Consistent.initial _ member
    obtain ⟨enabled, rfl⟩ : source.Enabled (.hydrate snapshot) ∧
      target = source.perform userId (.hydrate snapshot) := taken
    exact hydrate_kept_iff inv enabled
  refine ⟨fun quiet t member => ?_, window⟩
  obtain ⟨-, -, -, typed, -⟩ := run.recorded_of_forall
    (I := fun s => s.Consistent ∧ TypedKept s ∧ InFlightHeld s) step_kept
    ⟨TabSession.Consistent.initial, fun _ _ h => by simp at h, fun _ _ h => by simp at h⟩
    quiet t member
  have calm := quiet t member
  obtain ⟨source, label, target⟩ := t
  cases label with
  | hydrate snapshot =>
    obtain ⟨received, flying⟩ := (window _ member snapshot rfl).mpr calm.1
    exact ⟨received, flying, typed⟩
  | _ => exact ⟨trivial, trivial, typed⟩

section Examples

def peerRow : StoredRow :=
  { conversationId := "c", senderId := "p", typed := "hey", origin := .elsewhere }

def ownRow : StoredRow :=
  { conversationId := "c", senderId := "u", typed := "hello", origin := .optimistic "client:1" }

def wireMessage (id senderId : String) : Message :=
  { id := id, conversationId := "c", senderId := senderId, body := .value "Y2lwaGVy",
    encryptedMessageKeys := .value (Record.ofList [("d", "key")]), iv := .value "iv",
    algorithm := .value MESSAGE_HYBRID_ALGORITHM, createdAt := "2026-01-01T00:00:01.000Z" }

theorem wireMessage_delivered {stored : Record StoredRow} {id senderId : String} {row : StoredRow}
    (held : stored.get id = some row) (thread : row.conversationId = "c")
    (sender : row.senderId = senderId) : Delivers stored (wireMessage id senderId) row := by
  refine ⟨held, thread.symm, sender.symm, fun wire => ?_⟩
  have sealed : isMessageWireE2ee (wireMessage id senderId) =
      isMessageWireE2ee (wireMessage "" "") := rfl
  exact absurd (sealed.symm.trans wire) (by decide)

end Examples

/-- An acknowledged message whose page was read after its ack. -/
theorem hydration_keeps_acknowledged :
    let start : TabSession := {}
    let sending := start.perform "u" (.send "c" { text := "hello" } "1" "2026-01-01T00:00:00.000Z")
    let stored := sending.perform "u" (.store "m2" ownRow)
    let acked := stored.perform "u" (.ack "c" "client:1" (wireMessage "m2" "u"))
    let fetched := acked.perform "u" (.fetch "c" [wireMessage "m2" "u"])
    let hydrated := fetched.perform "u" (.hydrate ⟨"c", [wireMessage "m2" "u"], acked.stored⟩)
    TypedKept hydrated ∧ hydrated.slice.senderPlaintextByMessageId.get "m2" = some "hello" := by
  intro start sending stored acked fetched hydrated
  have origin : ∀ o, ownRow.origin = .optimistic o → sending.sends.get o = some ⟨"c", "hello"⟩ := by
    rintro o ⟨⟩
    decide
  have delivered : Delivers stored.stored (wireMessage "m2" "u") ownRow :=
    wireMessage_delivered (by decide) rfl rfl
  have send : (tabMachine "u").step start
      (.send "c" { text := "hello" } "1" "2026-01-01T00:00:00.000Z") sending :=
    ⟨(by decide : start.sends.get (newOptimisticId "1") = none), rfl⟩
  have store : (tabMachine "u").step sending (.store "m2" ownRow) stored :=
    ⟨⟨by decide, by decide, by decide, origin⟩, rfl⟩
  have ack : (tabMachine "u").step stored (.ack "c" "client:1" (wireMessage "m2" "u")) acked :=
    ⟨⟨by decide, ownRow, delivered, rfl, rfl⟩, rfl⟩
  have fetch : (tabMachine "u").step acked (.fetch "c" [wireMessage "m2" "u"]) fetched := by
    refine ⟨⟨by simp, fun m hm => ?_⟩, rfl⟩
    rw [List.mem_singleton.mp hm]
    exact ⟨ownRow, delivered, rfl⟩
  have hydrate : (tabMachine "u").step fetched
      (.hydrate ⟨"c", [wireMessage "m2" "u"], acked.stored⟩) hydrated :=
    ⟨List.mem_cons_self, rfl⟩
  have run := Machine.Run.snoc (.snoc (.snoc (.snoc (.snoc .nil send) store) ack) fetch) hydrate
  have listed : ∀ id ∈ fetched.received, id = "m2" := by decide
  have quiet : Quiet "u" ⟨fetched, .hydrate ⟨"c", [wireMessage "m2" "u"], acked.stored⟩,
      hydrated⟩ := by
    refine ⟨⟨fun id row member held _ => ?_, by decide⟩, fun id row member _ _ _ => ?_⟩
    · rw [listed id member]
      decide
    · rw [listed id member]
      decide
  have kept := (hydration_keeps "u" hydrated _ run).1 (by
    simp only [List.nil_append, List.cons_append, List.forall_mem_cons]
    exact ⟨trivial, trivial, trivial, trivial, quiet, by simp⟩)
  exact ⟨(kept _ (List.mem_append_right _ (List.mem_singleton_self _))).2.2, by decide⟩

/-- A peer message and a send between an empty snapshot and its hydration: the
message leaves the thread, so does the optimistic row, and the ack that follows
finds no typed text. -/
theorem hydration_loses :
    (¬ ∀ userId s history, (tabMachine userId).Run {} history s →
      ∀ t ∈ history, ReceivedKept t) ∧
    (¬ ∀ userId s history, (tabMachine userId).Run {} history s →
      ∀ t ∈ history, InFlightKept t) ∧
    (¬ ∀ userId s history, (tabMachine userId).Run {} history s →
      ∀ t ∈ history, TypedKept t.target) := by
  let start : TabSession := {}
  let fetched := start.perform "u" (.fetch "c" [])
  let storedPeer := fetched.perform "u" (.store "m1" peerRow)
  let received := storedPeer.perform "u" (.messageNew (wireMessage "m1" "p"))
  let sending := received.perform "u"
    (.send "c" { text := "hello" } "1" "2026-01-01T00:00:00.000Z")
  let hydrated := sending.perform "u" (.hydrate ⟨"c", [], ∅⟩)
  let storedOwn := hydrated.perform "u" (.store "m2" ownRow)
  let acked := storedOwn.perform "u" (.ack "c" "client:1" (wireMessage "m2" "u"))
  have origin : ∀ o, ownRow.origin = .optimistic o →
      hydrated.sends.get o = some ⟨"c", "hello"⟩ := by
    rintro o ⟨⟩
    decide
  have fetch : (tabMachine "u").step start (.fetch "c" []) fetched := ⟨⟨by simp, by simp⟩, rfl⟩
  have storePeer : (tabMachine "u").step fetched (.store "m1" peerRow) storedPeer :=
    ⟨⟨by decide, by decide, by decide, by simp [peerRow]⟩, rfl⟩
  have receive : (tabMachine "u").step storedPeer (.messageNew (wireMessage "m1" "p")) received :=
    ⟨⟨peerRow, wireMessage_delivered (by decide) rfl rfl, rfl⟩, rfl⟩
  have send : (tabMachine "u").step received
      (.send "c" { text := "hello" } "1" "2026-01-01T00:00:00.000Z") sending :=
    ⟨(by decide : received.sends.get (newOptimisticId "1") = none), rfl⟩
  have hydrate : (tabMachine "u").step sending (.hydrate ⟨"c", [], ∅⟩) hydrated :=
    ⟨List.mem_cons_self, rfl⟩
  have storeOwn : (tabMachine "u").step hydrated (.store "m2" ownRow) storedOwn :=
    ⟨⟨by decide, by decide, by decide, origin⟩, rfl⟩
  have ack : (tabMachine "u").step storedOwn (.ack "c" "client:1" (wireMessage "m2" "u")) acked :=
    ⟨⟨by decide, ownRow, wireMessage_delivered (by decide) rfl rfl, rfl, rfl⟩, rfl⟩
  have run := Machine.Run.snoc (.snoc (.snoc (.snoc (.snoc (.snoc (.snoc .nil fetch) storePeer)
    receive) send) hydrate) storeOwn) ack
  refine ⟨fun claim => ?_, fun claim => ?_, fun claim => ?_⟩
  · have kept := claim "u" acked _ run ⟨sending, .hydrate ⟨"c", [], ∅⟩, hydrated⟩ (by simp)
    exact absurd (kept "m1" peerRow (by decide) (by decide) rfl (by decide)) (by decide)
  · have kept := claim "u" acked _ run ⟨sending, .hydrate ⟨"c", [], ∅⟩, hydrated⟩ (by simp)
    exact absurd (kept "c" "client:1" (by decide) (by decide)) (by decide)
  · have kept := claim "u" acked _ run
      ⟨storedOwn, .ack "c" "client:1" (wireMessage "m2" "u"), acked⟩ (by simp)
    exact absurd (kept "m2" ownRow (by decide) (by decide) (by decide)) (by decide)

end MessagingSystem.Guarantees.HydrationWindow
