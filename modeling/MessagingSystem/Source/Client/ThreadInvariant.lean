import MessagingSystem.Source.Client.MessagingSliceEffects

/-!
# The invariant of the thread maps

`ThreadInvariant` relates the order of a thread, the rows, the queue of
optimistic sends and the receipt levels. `home` gives the conversation of a
server id and `issued` the one an optimistic id was appended to;
`Admissible` is what the callers of the reducers guarantee about the two.
-/
namespace MessagingSystem.Source.Client
open Foundation

structure ThreadInvariant (home : String → Option String) (issued : String → Option String)
    (s : MessagingState) : Prop where
  distinct : ∀ c, (s.idsOf c).Nodup
  listed : ∀ c id, id ∈ s.idsOf c ↔ s.rowHome id = some c
  queue : ∀ c, s.pendingOf c = (s.idsOf c).filter isClientId
  loading : ∀ id, s.outboundReceiptByMessageId.get id = some .loading ↔
    isClientId id = true ∧ (s.messagesById.get id).isSome
  clientHome : ∀ id c, isClientId id = true → s.rowHome id = some c → issued id = some c
  serverHome : ∀ id c, isClientId id = false → s.rowHome id = some c → home id = some c

/-- A server row of the payload's conversation. -/
def ServerRow (home : String → Option String) (c : String) (m : Message) : Prop :=
  isClientId m.id = false ∧ m.conversationId = c ∧ home m.id = some c

/-- What the callers of the reducers guarantee. -/
def Admissible (home : String → Option String) (issued : String → Option String) :
    MessagingAction → Prop
  | .appendMessageFromSend c m =>
      isClientId m.id = true ∧ issued m.id = none ∧ m.conversationId = c
  | .appendIncomingMessageIfNew m _ => ServerRow home m.conversationId m
  | .replaceOptimisticMessage c o m =>
      isClientId o = true ∧ issued o = some c ∧ ServerRow home c m
  | .removeOptimisticMessage c o => isClientId o = true ∧ issued o = some c
  | .hydrateMessagesFromFetch c messages _ =>
      (messages.map fun m => m.id).Nodup ∧ ∀ m ∈ messages, ServerRow home c m
  | .recordOwnSendPlaintext _ _ => True

/-- The optimistic ids in use after an action. -/
def issuedAfter (issued : String → Option String) : MessagingAction → String → Option String
  | .appendMessageFromSend c m => Function.update issued m.id (some c)
  | _ => issued

namespace ThreadInvariant

variable {home : String → Option String} {issued : String → Option String} {s t : MessagingState}

theorem initial : ThreadInvariant home issued initialState where
  distinct _ := List.nodup_nil
  listed _ _ := by simp [initialState, MessagingState.idsOf, MessagingState.rowHome]
  queue _ := rfl
  loading _ := by simp [initialState]
  clientHome _ _ := by simp [initialState, MessagingState.rowHome]
  serverHome _ _ := by simp [initialState, MessagingState.rowHome]

/-- More server ids and more optimistic ids may come into existence. -/
theorem mono {home' issued' : String → Option String} (inv : ThreadInvariant home issued s)
    (moreHome : ∀ id c, home id = some c → home' id = some c)
    (moreIssued : ∀ id c, issued id = some c → issued' id = some c) :
    ThreadInvariant home' issued' s :=
  { inv with
    clientHome := fun id c client h => moreIssued id c (inv.clientHome id c client h)
    serverHome := fun id c server h => moreHome id c (inv.serverHome id c server h) }

theorem pending_listed (inv : ThreadInvariant home issued s) (c : String) :
    ∀ id ∈ s.pendingOf c, id ∈ s.idsOf c := by
  intro id member
  rw [inv.queue] at member
  exact (List.mem_filter.mp member).1

theorem pending_client (inv : ThreadInvariant home issued s) {c id : String}
    (member : id ∈ s.pendingOf c) : isClientId id = true := by
  rw [inv.queue] at member
  exact (List.mem_filter.mp member).2

theorem pending_distinct (inv : ThreadInvariant home issued s) (c : String) :
    (s.pendingOf c).Nodup := by
  rw [inv.queue]
  exact (inv.distinct c).filter _

/-- An id belongs to at most one thread. -/
theorem listed_unique (inv : ThreadInvariant home issued s) {c d id : String}
    (inC : id ∈ s.idsOf c) (inD : id ∈ s.idsOf d) : c = d := by
  have hc := (inv.listed c id).mp inC
  have hd := (inv.listed d id).mp inD
  exact Option.some.inj (hc.symm.trans hd)

theorem absent_not_listed (inv : ThreadInvariant home issued s) {id : String}
    (absent : s.messagesById.get id = none) (c : String) : id ∉ s.idsOf c := by
  intro member
  have := (inv.listed c id).mp member
  simp [MessagingState.rowHome, absent] at this

/-- A fresh optimistic id has no row. -/
theorem fresh_absent (inv : ThreadInvariant home issued s) {id : String}
    (client : isClientId id = true) (fresh : issued id = none) : s.messagesById.get id = none := by
  cases h : s.messagesById.get id with
  | none => rfl
  | some row =>
    have := inv.clientHome id row.conversationId client (by simp [MessagingState.rowHome, h])
    simp [fresh] at this

/-- An optimistic id is listed in the thread it was appended to, or nowhere. -/
theorem listed_issued (inv : ThreadInvariant home issued s) {c o : String}
    (client : isClientId o = true) (owner : issued o = some c) :
    ∀ d, o ∈ s.idsOf d → d = c := by
  intro d member
  have := inv.clientHome o d client ((inv.listed d o).mp member)
  exact Option.some.inj (this.symm.trans owner)

theorem append (inv : ThreadInvariant home issued s) {c : String} {m : StoredMessage}
    (client : isClientId m.id = true) (fresh : issued m.id = none) (own : m.conversationId = c) :
    ThreadInvariant home (Function.update issued m.id (some c)) (appendMessageFromSend s c m) := by
  obtain ⟨order, queue, rows, receipts, -⟩ := appendMessageFromSend_effects s c m client
  have absent := inv.fresh_absent client fresh
  have unlisted := inv.absent_not_listed absent
  have homes : ∀ id, (appendMessageFromSend s c m).rowHome id =
      if id = m.id then some c else s.rowHome id := by
    intro id
    unfold MessagingState.rowHome
    rw [rows]
    split <;> simp [own]
  refine ⟨?_, ?_, ?_, ?_, ?_, ?_⟩
  · intro d
    rw [order]
    split
    · exact IdList.nodup_insertLast (inv.distinct c) m.id
    · exact inv.distinct d
  · intro d id
    rw [order, homes]
    by_cases hid : id = m.id
    · subst hid
      by_cases hd : d = c
      · simp [hd, IdList.mem_insertLast]
      · simp [hd, Ne.symm hd, unlisted d]
    · by_cases hd : d = c
      · subst hd
        simp [hid, IdList.mem_insertLast, inv.listed]
      · simp [hd, hid, inv.listed]
  · intro d
    rw [queue, order]
    split
    · simp [IdList.insertLast, unlisted c, inv.queue, client]
    · exact inv.queue d
  · intro id
    rw [receipts, rows]
    by_cases hid : id = m.id
    · simp [hid, client]
    · simp [hid, inv.loading]
  · intro id d isClient hhome
    rw [homes] at hhome
    by_cases hid : id = m.id
    · simpa [hid] using hhome
    · simp only [hid, if_false] at hhome
      simpa [hid] using inv.clientHome id d isClient hhome
  · intro id d isServer hhome
    have hid : id ≠ m.id := by
      rintro rfl
      simp [client] at isServer
    rw [homes, if_neg hid] at hhome
    exact inv.serverHome id d isServer hhome

/-- A reconciliation keeps the invariant, whether or not the optimistic row is
still held and whether or not the server row is held already. -/
theorem reconcile (inv : ThreadInvariant home issued s) {c o : String} {m : Message}
    {optimistic : Option StoredMessage} (client : isClientId o = true)
    (owner : ∀ d, o ∈ s.idsOf d → d = c) (server : ServerRow home c m)
    (reconciled : Reconciled s t c o m optimistic) : ThreadInvariant home issued t := by
  obtain ⟨isServer, own, fixed⟩ := server
  have different : m.id ≠ o := by
    intro equal
    rw [equal, client] at isServer
    exact Bool.noConfusion isServer
  have homes : ∀ id, t.rowHome id =
      if id = m.id then some c else if id = o then none else s.rowHome id := by
    intro id
    unfold MessagingState.rowHome
    rw [reconciled.rows]
    split
    · simp [own]
    · split <;> rfl
  refine ⟨?_, ?_, ?_, ?_, ?_, ?_⟩
  · intro d
    rw [reconciled.order]
    split
    · exact IdList.nodup_reconcile (inv.distinct c) o m.id
    · exact inv.distinct d
  · intro d id
    rw [reconciled.order, homes]
    by_cases hd : d = c
    · subst hd
      rw [if_pos rfl, IdList.mem_reconcile (inv.distinct d), inv.listed]
      by_cases hm : id = m.id
      · simp [hm]
      · by_cases ho : id = o
        · simp [ho, Ne.symm different]
        · simp [hm, ho]
    · rw [if_neg hd]
      by_cases hm : id = m.id
      · subst hm
        have unlisted : m.id ∉ s.idsOf d := fun member =>
          hd (Option.some.inj
            ((inv.serverHome _ _ isServer ((inv.listed d _).mp member)).symm.trans fixed))
        simp [unlisted, Ne.symm hd]
      · by_cases ho : id = o
        · subst ho
          have unlisted : id ∉ s.idsOf d := fun member => hd (owner d member)
          simp [hm, unlisted]
        · simp [hm, ho, inv.listed]
  · intro d
    rw [reconciled.queue, reconciled.order]
    split
    · rw [IdList.filter_reconcile (inv.distinct c) o isClientId isServer, inv.queue]
    · exact inv.queue d
  · intro id
    rw [reconciled.receipts, reconciled.rows]
    by_cases hm : id = m.id
    · simp [hm, isServer]
    · by_cases ho : id = o
      · simp [ho, Ne.symm different]
      · simp [hm, ho, inv.loading]
  · intro id d isClient hhome
    rw [homes] at hhome
    have hm : id ≠ m.id := by
      rintro rfl
      simp [isServer] at isClient
    by_cases ho : id = o
    · simp [ho, Ne.symm different] at hhome
    · rw [if_neg hm, if_neg ho] at hhome
      exact inv.clientHome id d isClient hhome
  · intro id d hserver hhome
    rw [homes] at hhome
    by_cases hm : id = m.id
    · rw [if_pos hm] at hhome
      rw [hm, fixed]
      exact hhome
    · by_cases ho : id = o
      · simp [ho, Ne.symm different] at hhome
      · rw [if_neg hm, if_neg ho] at hhome
        exact inv.serverHome id d hserver hhome

theorem remove (inv : ThreadInvariant home issued s) {c o : String}
    (owner : ∀ d, o ∈ s.idsOf d → d = c) :
    ThreadInvariant home issued (removeOptimisticMessage s c o) := by
  obtain ⟨order, queue, rows, receipts⟩ := removeOptimisticMessage_effects s c o
  have homes : ∀ id, (removeOptimisticMessage s c o).rowHome id =
      if id = o then none else s.rowHome id := by
    intro id
    unfold MessagingState.rowHome
    rw [rows]
    split <;> rfl
  refine ⟨?_, ?_, ?_, ?_, ?_, ?_⟩
  · intro d
    rw [order]
    split
    · exact (inv.distinct c).filter _
    · exact inv.distinct d
  · intro d id
    rw [order, homes]
    by_cases ho : id = o
    · subst ho
      by_cases hd : d = c
      · simp [hd]
      · have unlisted : id ∉ s.idsOf d := fun member => hd (owner d member)
        simp [hd, unlisted]
    · by_cases hd : d = c
      · subst hd
        simp [ho, inv.listed]
      · simp [hd, ho, inv.listed]
  · intro d
    rw [queue, order]
    split
    · rw [inv.queue, IdList.filter_comm]
    · exact inv.queue d
  · intro id
    rw [receipts, rows]
    by_cases ho : id = o
    · simp [ho]
    · simp [ho, inv.loading]
  · intro id d isClient hhome
    rw [homes] at hhome
    by_cases ho : id = o
    · simp [ho] at hhome
    · rw [if_neg ho] at hhome
      exact inv.clientHome id d isClient hhome
  · intro id d isServer hhome
    rw [homes] at hhome
    by_cases ho : id = o
    · simp [ho] at hhome
    · rw [if_neg ho] at hhome
      exact inv.serverHome id d isServer hhome

/-- A server row that takes no optimistic row's place. -/
theorem incoming_appends (inv : ThreadInvariant home issued s) {m : Message}
    {user : Option String} (absent : s.messagesById.get m.id = none)
    (server : ServerRow home m.conversationId m) (noTarget : echoTarget s m user = none) :
    ThreadInvariant home issued (appendIncomingMessageIfNew s m user) := by
  obtain ⟨isServer, -, fixed⟩ := server
  obtain ⟨order, queue, rows, receipts, -⟩ :=
    appendIncoming_appends absent (inv.pending_listed _) noTarget
  have unlisted := inv.absent_not_listed absent
  have homes : ∀ id, (appendIncomingMessageIfNew s m user).rowHome id =
      if id = m.id then some m.conversationId else s.rowHome id := by
    intro id
    unfold MessagingState.rowHome
    rw [rows]
    split <;> rfl
  refine ⟨?_, ?_, ?_, ?_, ?_, ?_⟩
  · intro d
    rw [order]
    split
    · exact IdList.nodup_insertLast (inv.distinct _) m.id
    · exact inv.distinct d
  · intro d id
    rw [order, homes]
    by_cases hid : id = m.id
    · subst hid
      by_cases hd : d = m.conversationId
      · simp [hd, IdList.mem_insertLast]
      · simp [hd, Ne.symm hd, unlisted d]
    · by_cases hd : d = m.conversationId
      · subst hd
        simp [hid, IdList.mem_insertLast, inv.listed]
      · simp [hd, hid, inv.listed]
  · intro d
    rw [queue, order]
    split
    · rename_i hd
      rw [IdList.filter_insertLast _ isClientId isServer, inv.queue, hd]
    · exact inv.queue d
  · intro id
    rw [receipts, rows]
    by_cases hid : id = m.id
    · subst hid
      have notLoading : s.outboundReceiptByMessageId.get m.id ≠ some .loading := by
        simp [inv.loading, isServer]
      simp only [isServer, Bool.false_eq_true, false_and, iff_false]
      split
      · simp
      · exact notLoading
    · simp [hid, inv.loading]
  · intro id d isClient hhome
    rw [homes] at hhome
    have hid : id ≠ m.id := by
      rintro rfl
      simp [isServer] at isClient
    rw [if_neg hid] at hhome
    exact inv.clientHome id d isClient hhome
  · intro id d hserver hhome
    rw [homes] at hhome
    by_cases hid : id = m.id
    · rw [if_pos hid] at hhome
      rw [hid, fixed]
      exact hhome
    · rw [if_neg hid] at hhome
      exact inv.serverHome id d hserver hhome

theorem incoming (inv : ThreadInvariant home issued s) {m : Message} (user : Option String)
    (server : ServerRow home m.conversationId m) :
    ThreadInvariant home issued (appendIncomingMessageIfNew s m user) := by
  cases absent : s.messagesById.get m.id with
  | some row =>
    rw [appendIncoming_held user (by simp [absent])]
    exact inv
  | none =>
    cases target : echoTarget s m user with
    | none => exact inv.incoming_appends absent server target
    | some found =>
      obtain ⟨o, row⟩ := found
      have queued : o ∈ s.pendingOf m.conversationId := echoTarget_queued target
      have member := inv.pending_listed _ o queued
      exact inv.reconcile (inv.pending_client queued) (fun d h => inv.listed_unique h member)
        server (appendIncoming_reconciles absent (inv.pending_listed _)
          (inv.pending_distinct _) target)

theorem hydrate (inv : ThreadInvariant home issued s) {c : String} {messages : List Message}
    (user : Option String) (distinct : (messages.map fun m => m.id).Nodup)
    (server : ∀ m ∈ messages, ServerRow home c m) :
    ThreadInvariant home issued (hydrateMessagesFromFetch s c messages user) := by
  obtain ⟨order, queue, rows, home', receipts, receipt, -⟩ :=
    hydrateMessagesFromFetch_effects s c messages user fun m hm => (server m hm).2.1
  have fetched_server : ∀ id ∈ messages.map (fun m => m.id), isClientId id = false ∧ home id = some c := by
    intro id member
    obtain ⟨m, hm, rfl⟩ := List.mem_map.mp member
    exact ⟨(server m hm).1, (server m hm).2.2⟩
  have homes : ∀ id, (hydrateMessagesFromFetch s c messages user).rowHome id =
      if id ∈ messages.map (fun m => m.id) then some c
      else if id ∈ s.idsOf c then none else s.rowHome id := by
    intro id
    split
    · exact home' id ‹_›
    · unfold MessagingState.rowHome
      rw [rows id ‹_›]
      split <;> rfl
  refine ⟨?_, ?_, ?_, ?_, ?_, ?_⟩
  · intro d
    rw [order]
    split
    · exact List.nodup_reverse.mpr distinct
    · exact inv.distinct d
  · intro d id
    rw [order, homes]
    by_cases hf : id ∈ messages.map (fun m => m.id)
    · by_cases hd : d = c
      · simp [hd, hf]
      · have unlisted : id ∉ s.idsOf d := fun member =>
          hd (Option.some.inj ((inv.serverHome _ _ (fetched_server id hf).1
            ((inv.listed d id).mp member)).symm.trans (fetched_server id hf).2))
        simp [hd, Ne.symm hd, hf, unlisted]
    · by_cases hd : d = c
      · subst hd
        by_cases member : id ∈ s.idsOf d
        · simp [hf, member]
        · simp [hf, member, ← inv.listed]
      · by_cases member : id ∈ s.idsOf c
        · have unlisted : id ∉ s.idsOf d := fun h => hd (inv.listed_unique h member)
          simp [hd, hf, member, unlisted]
        · simp [hd, hf, member, inv.listed]
  · intro d
    rw [queue, order]
    split
    · symm
      rw [List.filter_eq_nil_iff]
      intro id member
      simp [(fetched_server id (List.mem_reverse.mp member)).1]
    · exact inv.queue d
  · intro id
    by_cases hf : id ∈ messages.map (fun m => m.id)
    · have isServer := (fetched_server id hf).1
      have notLoading : s.outboundReceiptByMessageId.get id ≠ some .loading := by
        simp [inv.loading, isServer]
      simp only [isServer, Bool.false_eq_true, false_and, iff_false]
      rcases receipt id hf with h | h
      · simp [h]
      · rw [h]
        exact notLoading
    · rw [receipts id hf, rows id hf]
      by_cases member : id ∈ s.idsOf c
      · simp [member]
      · simp [member, inv.loading]
  · intro id d isClient hhome
    have hf : id ∉ messages.map (fun m => m.id) := by
      intro hf
      simp [(fetched_server id hf).1] at isClient
    rw [homes, if_neg hf] at hhome
    split at hhome
    · cases hhome
    · exact inv.clientHome id d isClient hhome
  · intro id d isServer hhome
    rw [homes] at hhome
    split at hhome
    · rw [(fetched_server id ‹_›).2]
      exact hhome
    · split at hhome
      · cases hhome
      · exact inv.serverHome id d isServer hhome

theorem record (inv : ThreadInvariant home issued s) (messageId plaintext : String) :
    ThreadInvariant home issued (recordOwnSendPlaintext s messageId plaintext) := by
  obtain ⟨order, queue, rows, receipts, -⟩ := recordOwnSendPlaintext_effects s messageId plaintext
  have homes : ∀ id, (recordOwnSendPlaintext s messageId plaintext).rowHome id = s.rowHome id := by
    intro id
    simp only [MessagingState.rowHome, rows]
  exact
    { distinct := fun c => by rw [order]; exact inv.distinct c
      listed := fun c id => by rw [order, homes]; exact inv.listed c id
      queue := fun c => by rw [queue, order]; exact inv.queue c
      loading := fun id => by rw [receipts, rows]; exact inv.loading id
      clientHome := fun id c client h => inv.clientHome id c client (homes id ▸ h)
      serverHome := fun id c server h => inv.serverHome id c server (homes id ▸ h) }

/-- Every admissible action keeps the invariant. -/
theorem step (inv : ThreadInvariant home issued s) {action : MessagingAction}
    (admissible : Admissible home issued action) :
    ThreadInvariant home (issuedAfter issued action) (messagingReducer s action) := by
  cases action with
  | appendMessageFromSend c m =>
    obtain ⟨client, fresh, own⟩ := admissible
    exact inv.append client fresh own
  | appendIncomingMessageIfNew m user => exact inv.incoming user admissible
  | replaceOptimisticMessage c o m =>
    obtain ⟨client, owner, server⟩ := admissible
    exact inv.reconcile client (inv.listed_issued client owner) server
      (replaceOptimisticMessage_reconciles s c o m)
  | removeOptimisticMessage c o =>
    obtain ⟨client, owner⟩ := admissible
    exact inv.remove (inv.listed_issued client owner)
  | hydrateMessagesFromFetch c messages user =>
    obtain ⟨distinct, server⟩ := admissible
    exact inv.hydrate user distinct server
  | recordOwnSendPlaintext messageId plaintext => exact inv.record messageId plaintext

/-- Only a send brings an optimistic row into the slice. -/
theorem clientRow_before (inv : ThreadInvariant home issued s) {action : MessagingAction}
    (admissible : Admissible home issued action) {o : String} {row : StoredMessage}
    (client : isClientId o = true)
    (held : (messagingReducer s action).messagesById.get o = some row) :
    s.messagesById.get o = some row ∨
      ∃ c, action = .appendMessageFromSend c row ∧ row.id = o := by
  have notServer : ∀ id, isClientId id = false → o ≠ id := by
    rintro id server rfl
    simp [client] at server
  have reconciled : ∀ {c p : String} {m : Message} {optimistic : Option StoredMessage}
      {t : MessagingState}, isClientId m.id = false → Reconciled s t c p m optimistic →
      t.messagesById.get o = some row → s.messagesById.get o = some row := by
    intro c p m optimistic t server rec h
    rw [rec.rows, if_neg (notServer _ server)] at h
    split at h
    · cases h
    · exact h
  cases action with
  | appendMessageFromSend c m =>
    obtain ⟨-, -, rows, -, -⟩ := appendMessageFromSend_effects s c m admissible.1
    change (appendMessageFromSend s c m).messagesById.get o = some row at held
    rw [rows] at held
    split at held
    · cases held
      exact .inr ⟨c, rfl, Eq.symm ‹_›⟩
    · exact .inl held
  | appendIncomingMessageIfNew m user =>
    left
    change (appendIncomingMessageIfNew s m user).messagesById.get o = some row at held
    cases absent : s.messagesById.get m.id with
    | some old => rwa [appendIncoming_held user (by simp [absent])] at held
    | none =>
      cases target : echoTarget s m user with
      | some found =>
        exact reconciled admissible.1 (appendIncoming_reconciles absent (inv.pending_listed _)
          (inv.pending_distinct _) target) held
      | none =>
        obtain ⟨-, -, rows, -, -⟩ := appendIncoming_appends absent (inv.pending_listed _) target
        rwa [rows, if_neg (notServer _ admissible.1)] at held
  | replaceOptimisticMessage c p m =>
    exact .inl (reconciled admissible.2.2.1 (replaceOptimisticMessage_reconciles s c p m) held)
  | removeOptimisticMessage c p =>
    left
    obtain ⟨-, -, rows, -⟩ := removeOptimisticMessage_effects s c p
    change (removeOptimisticMessage s c p).messagesById.get o = some row at held
    rw [rows] at held
    split at held
    · cases held
    · exact held
  | hydrateMessagesFromFetch c messages user =>
    left
    obtain ⟨-, -, rows, -, -, -, -⟩ := hydrateMessagesFromFetch_effects s c messages user
      fun m hm => (admissible.2 m hm).2.1
    change (hydrateMessagesFromFetch s c messages user).messagesById.get o = some row at held
    have unfetched : o ∉ messages.map fun m => m.id := by
      intro member
      obtain ⟨m, hm, hid⟩ := List.mem_map.mp member
      exact notServer _ (admissible.2 m hm).1 hid.symm
    rw [rows o unfetched] at held
    split at held
    · cases held
    · exact held
  | recordOwnSendPlaintext messageId plaintext =>
    left
    change (recordOwnSendPlaintext s messageId plaintext).messagesById.get o = some row at held
    rwa [(recordOwnSendPlaintext_effects s messageId plaintext).2.2.1] at held

end ThreadInvariant

end MessagingSystem.Source.Client
