import MessagingSystem.Guarantees.GhostRing

/-!
# No camera and no description without the user

A tab asks for camera and microphone, and signals a description or an ICE candidate, only
for a call that its user has started, or answered while the tab rang for it; and it hangs
up only such calls and calls that were offered to it. Each signal goes to the peer of that
call, whatever other signals, late completions and reconnects come in between.
-/
namespace MessagingSystem.Guarantees.CallConsent
open Foundation Source.Server Source.Server.Webrtc Source.Client Protocol

/-- The user of the tab starts the call with the peer, or answers while the tab rings for it. -/
def Consents (i : Nat) (peer callId : String) (t : CallTransition) : Prop :=
  match t.label with
  | .tab j (.startOutgoingCall id peerUserId _ _) _ => j = i ∧ id = callId ∧ EcmaText.trim peerUserId = peer
  | .tab j .answerCall _ => j = i ∧ ∃ p ∈ t.source.peers[i]?, p.tab.call.Ringing peer callId
  | _ => False

/-- The tab receives the peer's offer of the call. -/
def Offers (i : Nat) (peer callId : String) (t : CallTransition) : Prop :=
  t.label = .receive i ∧ ∃ p ∈ t.source.peers[i]?, ∃ entry ∈ t.source.wire[p.cursor]?,
    entry.2.event = SignalEvent.offer.name ∧ CallTab.textMember entry.2.payload "fromUserId" = some peer ∧
      CallTab.textMember entry.2.payload "callId" = some callId

/-- The signal goes to the peer of a call that the user wanted, or ends one that was offered. -/
def Addressed (i : Nat) (history : List CallTransition) (o : OutgoingSignal) : Prop :=
  ∃ peer callId, CallTab.textMember o.payload "toUserId" = some peer ∧
    CallTab.textMember o.payload "callId" = some callId ∧
    ∃ t ∈ history, Consents i peer callId t ∨ o.event = .hangup ∧ Offers i peer callId t

section Tabs

/-- A session that is shown is one that is known, and one in which the user takes part is one
that the user wanted. -/
def SessionMinded (wanted known : String → String → Prop) (phase : CallPhase) (callId peer : Option String) : Prop :=
  match phase with
  | .idle => True
  | .incomingRing => ∃ id who, callId = some id ∧ peer = some who ∧ known who id
  | .outgoingRing | .active => ∃ id who, callId = some id ∧ peer = some who ∧ wanted who id

/-- The peer and the call of each asynchronous setup and each connection. -/
def called (t : CallTab) : List (String × String) :=
  t.setups.map (fun s => (s.peerUserId, s.callId)) ++ t.connections.map fun pc => (pc.peerUserId, pc.callId)

/-- A call that is set up is one that the user wanted. -/
def Wanted (wanted : String → String → Prop) (pair : String × String) : Prop :=
  wanted pair.1 pair.2 ∧ pair.1 ≠ "" ∧ pair.2 ≠ ""

structure Minded (wanted known : String → String → Prop) (t : CallTab) : Prop where
  session : SessionMinded wanted known t.call.phase t.call.callId t.call.peerUserId
  rendered : ∀ r ∈ t.rendered, SessionMinded wanted known r.phase r.callId r.peerUserId
  setUp : ∀ pair ∈ called t, Wanted wanted pair

variable {wanted known : String → String → Prop} {t t' : CallTab}

theorem SessionMinded.shown (implies : ∀ who id, wanted who id → known who id) {phase : CallPhase}
    {callId peer : Option String} (minded : SessionMinded wanted known phase callId peer) (busy : phase ≠ .idle) :
    ∃ id who, callId = some id ∧ peer = some who ∧ known who id := by
  cases phase with
  | idle => exact absurd rfl busy
  | incomingRing => exact minded
  | outgoingRing | active =>
    obtain ⟨id, who, named, addressed, accepted⟩ := minded
    exact ⟨id, who, named, addressed, implies who id accepted⟩

theorem SessionMinded.mono {wanted' known' : String → String → Prop}
    (more : ∀ who id, wanted who id → wanted' who id) (more' : ∀ who id, known who id → known' who id)
    {phase : CallPhase} {callId peer : Option String} (minded : SessionMinded wanted known phase callId peer) :
    SessionMinded wanted' known' phase callId peer := by
  cases phase with
  | idle => exact trivial
  | incomingRing =>
    obtain ⟨id, who, named, addressed, before⟩ := minded
    exact ⟨id, who, named, addressed, more' who id before⟩
  | outgoingRing | active =>
    obtain ⟨id, who, named, addressed, before⟩ := minded
    exact ⟨id, who, named, addressed, more who id before⟩

theorem Minded.mono {wanted' known' : String → String → Prop} (minded : Minded wanted known t)
    (more : ∀ who id, wanted who id → wanted' who id) (more' : ∀ who id, known who id → known' who id) :
    Minded wanted' known' t where
  session := minded.session.mono more more'
  rendered r shown := (minded.rendered r shown).mono more more'
  setUp pair member := ⟨more _ _ (minded.setUp pair member).1, (minded.setUp pair member).2⟩

theorem map_modify_same {α β : Type} {f : α → α} {g : α → β} (same : ∀ x, g (f x) = g x) (xs : List α) (i : Nat) :
    (xs.modify i f).map g = xs.map g := by
  induction xs generalizing i with
  | nil => simp
  | cons x xs ih =>
    cases i with
    | zero => simp [same]
    | succ i => simp [ih]

theorem called_withConnection (t : CallTab) (connection : Nat) {f : PeerConnection → PeerConnection}
    (same : ∀ pc, ((f pc).peerUserId, (f pc).callId) = (pc.peerUserId, pc.callId)) :
    called (t.withConnection connection f) = called t := by
  unfold called CallTab.withConnection
  rw [map_modify_same same]

theorem called_withSetup (t : CallTab) (i : Nat) {f : CallSetup → CallSetup}
    (same : ∀ s, ((f s).peerUserId, (f s).callId) = (s.peerUserId, s.callId)) :
    called (t.withSetup i f) = called t := by
  unfold called CallTab.withSetup
  rw [map_modify_same same]

theorem called_cancelSetups (t : CallTab) (role : Role) : called (t.cancelSetups role) = called t := by
  unfold called CallTab.cancelSetups
  rw [List.map_map]
  congr 1
  apply List.map_congr_left
  intro s _
  dsimp only [Function.comp_apply]
  split
  · rfl
  · rfl

theorem called_idleEffect (t : CallTab) (dock : Nat) (r : CallRender) : called (t.idleEffect dock r) = called t := by
  unfold CallTab.idleEffect
  split
  · cases (t.refs dock).pcRef with
    | none => rfl
    | some connection => exact called_withConnection t connection fun _ => rfl
  · rfl

theorem truthy_some {value : Option String} {text : String} (found : truthy value = some text) :
    value = some text ∧ text ≠ "" := by
  unfold truthy at found
  simpa using Option.filter_eq_some_iff.mp found

/-- The outgoing effect sets up the call that it renders, if the user calls. -/
theorem called_outgoingEffect (t : CallTab) (hasPeerConnection : Bool) (dock : Nat) (r : CallRender) :
    ∀ pair ∈ called (t.outgoingEffect hasPeerConnection dock r), pair ∈ called t ∨
      r.phase = .outgoingRing ∧ r.peerUserId = some pair.1 ∧ r.callId = some pair.2 ∧ pair.1 ≠ "" ∧ pair.2 ≠ "" := by
  intro pair member
  unfold CallTab.outgoingEffect at member
  split at member
  · rename_i id who named addressed
    split at member
    · exact .inl member
    · rename_i calling
      split at member
      · exact .inl member
      · split at member
        · exact .inl member
        · simp only [called, List.map_append, List.map_cons, List.map_nil, List.mem_append, List.mem_singleton]
            at member
          rcases member with (old | rfl) | old
          · exact .inl (List.mem_append_left _ old)
          · have named := truthy_some named
            have addressed := truthy_some addressed
            exact .inr ⟨Decidable.not_not.mp calling, addressed.1, named.1, addressed.2, named.2⟩
          · exact .inl (List.mem_append_right _ old)
  · exact .inl member

theorem called_calleeEffect (t : CallTab) (hasPeerConnection : Bool) (dock : Nat) (r : CallRender) :
    ∀ pair ∈ called (t.calleeEffect hasPeerConnection dock r), pair ∈ called t ∨
      r.phase = .active ∧ r.peerUserId = some pair.1 ∧ r.callId = some pair.2 ∧ pair.1 ≠ "" ∧ pair.2 ≠ "" := by
  intro pair member
  unfold CallTab.calleeEffect at member
  split at member
  · rename_i sdp id who described named addressed
    split at member
    · exact .inl member
    · rename_i answering
      iterate 4
        split at member
        · exact .inl member
      simp only [called, List.map_append, List.map_cons, List.map_nil, List.mem_append, List.mem_singleton] at member
      rcases member with (old | rfl) | old
      · exact .inl (List.mem_append_left _ old)
      · have named := truthy_some named
        have addressed := truthy_some addressed
        exact .inr ⟨Decidable.not_not.mp answering, addressed.1, named.1, addressed.2, named.2⟩
      · exact .inl (List.mem_append_right _ old)
  · exact .inl member

/-- A step that keeps what has been rendered and set up. -/
theorem Minded.keep (minded : Minded wanted known t)
    (session : SessionMinded wanted known t'.call.phase t'.call.callId t'.call.peerUserId)
    (rendered : t'.rendered = t.rendered) (same : called t' = called t) : Minded wanted known t' where
  session := session
  rendered := by
    rw [rendered]
    exact minded.rendered
  setUp := by
    rw [same]
    exact minded.setUp

/-- A step that keeps the session as well. -/
theorem Minded.same (minded : Minded wanted known t) (call : t'.call = t.call) (rendered : t'.rendered = t.rendered)
    (same : called t' = called t) : Minded wanted known t' := by
  apply minded.keep _ rendered same
  rw [call]
  exact minded.session

theorem Minded.dispatch (minded : Minded wanted known t) {reduce : CallState → CallState}
    (session : SessionMinded wanted known (reduce t.call).phase (reduce t.call).callId (reduce t.call).peerUserId) :
    Minded wanted known (t.dispatch reduce) := minded.keep session rfl rfl

theorem Minded.withDock (minded : Minded wanted known t) (dock : Nat) (f : DockRefs → DockRefs) :
    Minded wanted known (t.withDock dock f) := minded.same rfl rfl rfl

theorem Minded.withConnection (minded : Minded wanted known t) (connection : Nat) {f : PeerConnection → PeerConnection}
    (same : ∀ pc, ((f pc).peerUserId, (f pc).callId) = (pc.peerUserId, pc.callId)) :
    Minded wanted known (t.withConnection connection f) := minded.same rfl rfl (called_withConnection t connection same)

theorem Minded.withSetup (minded : Minded wanted known t) (i : Nat) {f : CallSetup → CallSetup}
    (same : ∀ s, ((f s).peerUserId, (f s).callId) = (s.peerUserId, s.callId)) :
    Minded wanted known (t.withSetup i f) := minded.same rfl rfl (called_withSetup t i same)

theorem Minded.flushIceBuffer (minded : Minded wanted known t) (dock connection : Nat) :
    Minded wanted known (t.flushIceBuffer dock connection) :=
  minded.same rfl rfl (called_withConnection t connection fun _ => rfl)

/-- A session that ends leaves nothing to mind. -/
theorem Minded.hangup (minded : Minded wanted known t) (reason : CallSessionEndReason) :
    Minded wanted known (t.dispatch fun call => call.hangupCall reason) := minded.dispatch trivial

theorem Minded.failed (minded : Minded wanted known t) (message : Option String) (reason : CallSessionEndReason) :
    Minded wanted known (t.dispatch fun call => (call.setCallError message).hangupCall reason) :=
  minded.dispatch trivial

theorem Minded.ite (minded : Minded wanted known t) (condition : Prop) [Decidable condition]
    (next : Minded wanted known t') : Minded wanted known (if condition then t' else t) := by
  split
  · exact next
  · exact minded

section Effects

variable {r : CallRender} (rendering : SessionMinded wanted known r.phase r.callId r.peerUserId)
include rendering

/-- What an effect sets up for the session that it renders, the user has wanted. -/
theorem wanted_of_rendering {pair : String × String} (taking : r.phase = .outgoingRing ∨ r.phase = .active)
    (addressed : r.peerUserId = some pair.1) (named : r.callId = some pair.2) (proper : pair.1 ≠ "" ∧ pair.2 ≠ "") :
    Wanted wanted pair := by
  obtain ⟨id, who, isId, isWho, accepted⟩ : ∃ id who, r.callId = some id ∧ r.peerUserId = some who ∧ wanted who id := by
    rcases taking with calling | answering
    · rw [calling] at rendering
      exact rendering
    · rw [answering] at rendering
      exact rendering
  obtain rfl := Option.some.inj (isWho.symm.trans addressed)
  obtain rfl := Option.some.inj (isId.symm.trans named)
  exact ⟨accepted, proper⟩

theorem Minded.outgoingEffect (minded : Minded wanted known t) (hasPeerConnection : Bool) (dock : Nat) :
    Minded wanted known (t.outgoingEffect hasPeerConnection dock r) where
  session := by
    rcases t.outgoingEffect_call hasPeerConnection dock r with same | ⟨-, -, message, ended⟩
    · rw [same]
      exact minded.session
    · rw [ended]
      exact trivial
  rendered := by
    have same : (t.outgoingEffect hasPeerConnection dock r).rendered = t.rendered := by
      unfold CallTab.outgoingEffect
      split
      · repeat' split
        all_goals rfl
      · rfl
    rw [same]
    exact minded.rendered
  setUp pair member := by
    rcases called_outgoingEffect t hasPeerConnection dock r pair member with old | ⟨calling, addressed, named, proper⟩
    · exact minded.setUp pair old
    · exact wanted_of_rendering rendering (.inl calling) addressed named proper

theorem Minded.calleeEffect (minded : Minded wanted known t) (hasPeerConnection : Bool) (dock : Nat) :
    Minded wanted known (t.calleeEffect hasPeerConnection dock r) where
  session := by
    rw [CallTab.calleeEffect_call]
    exact minded.session
  rendered := by
    have same : (t.calleeEffect hasPeerConnection dock r).rendered = t.rendered := by
      unfold CallTab.calleeEffect
      split
      · repeat' split
        all_goals rfl
      · rfl
    rw [same]
    exact minded.rendered
  setUp pair member := by
    rcases called_calleeEffect t hasPeerConnection dock r pair member with old | ⟨answering, addressed, named, proper⟩
    · exact minded.setUp pair old
    · exact wanted_of_rendering rendering (.inr answering) addressed named proper

end Effects

theorem Minded.idleEffect (minded : Minded wanted known t) (dock : Nat) (r : CallRender) :
    Minded wanted known (t.idleEffect dock r) := by
  refine minded.same (CallTab.idleEffect_call t dock r) ?_ (called_idleEffect t dock r)
  unfold CallTab.idleEffect
  split
  · cases (t.refs dock).pcRef with
    | none => rfl
    | some connection => rfl
  · rfl

theorem Minded.cancelSetups (minded : Minded wanted known t) (role : Role) :
    Minded wanted known (t.cancelSetups role) := minded.same rfl rfl (called_cancelSetups t role)

/-- What is rendered is the session as it stands. -/
theorem Minded.shows (minded : Minded wanted known t) (docks : List DockRefs) :
    Minded wanted known { t with docks := docks, rendered := some t.render } where
  session := minded.session
  rendered r shown := by
    obtain rfl := Option.some.inj shown
    exact minded.session
  setUp := minded.setUp

theorem Minded.commit (minded : Minded wanted known t) (hasPeerConnection : Bool) (conversation : Option String) :
    Minded wanted known (t.commit hasPeerConnection conversation) := by
  unfold CallTab.commit
  cases before : t.rendered with
  | none => exact minded
  | some was =>
    have rendering : SessionMinded wanted known t.render.phase t.render.callId t.render.peerUserId := minded.session
    have shown := minded.shows (t.docks.modify t.mounted fun d => { d with conversationIdRef := conversation })
    have callers := shown.ite (CallTab.outgoingChanged was t.render = true) (shown.cancelSetups .caller)
    have callees := callers.ite (CallTab.calleeChanged was t.render = true) (callers.cancelSetups .callee)
    have cleared := callees.ite (was.phase ≠ t.render.phase) (callees.idleEffect t.mounted t.render)
    have outgoing := cleared.ite (CallTab.outgoingChanged was t.render = true)
      (cleared.outgoingEffect rendering hasPeerConnection t.mounted)
    exact outgoing.ite (CallTab.calleeChanged was t.render = true)
      (outgoing.calleeEffect rendering hasPeerConnection t.mounted)

theorem Minded.mount (minded : Minded wanted known t) (hasPeerConnection : Bool) (conversation : Option String) :
    Minded wanted known (t.mount hasPeerConnection conversation) := by
  have rendering : SessionMinded wanted known t.render.phase t.render.callId t.render.peerUserId := minded.session
  have shown := minded.shows (t.docks ++ [{ conversationIdRef := conversation }])
  have cleared := shown.idleEffect t.docks.length t.render
  have outgoing := cleared.outgoingEffect rendering hasPeerConnection t.docks.length
  exact outgoing.calleeEffect rendering hasPeerConnection t.docks.length

theorem Minded.setupFailed (minded : Minded wanted known t) (i : Nat) (s : CallSetup) (message : String) :
    Minded wanted known (t.setupFailed i s message) := by
  unfold CallTab.setupFailed
  have ended : Minded wanted known (t.withSetup i fun s => { s with stage := .ended }) :=
    minded.withSetup i fun _ => rfl
  dsimp only
  split
  · exact ended
  · exact ended.failed _ _

/-- A connection is made for the call of its setup. -/
theorem Minded.mediaReady (minded : Minded wanted known t) {i : Nat} {s : CallSetup} (member : s ∈ t.setups) :
    Minded wanted known (t.mediaReady i s) := by
  unfold CallTab.mediaReady
  split
  · exact minded.withSetup i fun _ => rfl
  · have docked := minded.withDock s.dock fun d => { d with pcRef := some t.connections.length }
    have accepted := minded.setUp (s.peerUserId, s.callId)
      (List.mem_append_left _ (List.mem_map_of_mem (f := fun s => (s.peerUserId, s.callId)) member))
    refine ⟨docked.session, docked.rendered, fun pair listed => ?_⟩
    simp only [called, CallTab.withSetup, List.map_append, List.map_cons, List.map_nil, List.mem_append,
      List.mem_singleton] at listed
    rw [map_modify_same] at listed
    · rcases listed with old | old | rfl
      · exact docked.setUp pair (List.mem_append_left _ old)
      · exact docked.setUp pair (List.mem_append_right _ old)
      · exact accepted
    · intro _
      rfl

section Signals

/-- The peer and the call that a signal is for. -/
def Names (o : OutgoingSignal) (peer callId : String) : Prop :=
  CallTab.textMember o.payload "toUserId" = some peer ∧ CallTab.textMember o.payload "callId" = some callId

theorem signalPayload_names (t : CallTab) (dock : Nat) {peer callId : String} (own : List (String × Json))
    (proper : peer ≠ "" ∧ callId ≠ "") (event : SignalEvent) :
    Names ⟨event, t.signalPayload dock peer callId own⟩ peer callId := by
  unfold Names CallTab.signalPayload
  constructor
  · simp [CallTab.textMember, Json.asObject, Json.asString, truthy, proper.1]
  · simp [CallTab.textMember, Json.asObject, Json.asString, truthy, proper.2]

/-- What a signal of the tab is for. -/
def Tells (wanted known : String → String → Prop) (o : OutgoingSignal) : Prop :=
  ∃ peer callId, Names o peer callId ∧ (wanted peer callId ∨ o.event = .hangup ∧ known peer callId)

/-- The end of a call that is known is told to its peer. -/
theorem Minded.requestLocalEndCall (implies : ∀ who id, wanted who id → known who id) (minded : Minded wanted known t)
    {r : CallRender} (shown : t.rendered = some r) :
    Minded wanted known (t.requestLocalEndCall r).1 ∧
      ∀ o, (t.requestLocalEndCall r).2 = some o → Tells wanted known o := by
  unfold CallTab.requestLocalEndCall
  dsimp only
  have cleared : Minded wanted known (t.dispatch fun call => call.setCallError none) := minded.dispatch minded.session
  split
  · exact ⟨cleared, by simp⟩
  · rename_i busy
    split
    · rename_i peer callId addressed named
      have addressed := truthy_some addressed
      have named := truthy_some named
      refine ⟨cleared.same rfl rfl rfl, fun o same => ?_⟩
      obtain rfl := Option.some.inj same
      obtain ⟨id, who, isId, isWho, about⟩ := (minded.rendered r shown).shown implies busy
      obtain rfl := Option.some.inj (isWho.symm.trans addressed.1)
      obtain rfl := Option.some.inj (isId.symm.trans named.1)
      exact ⟨who, id, signalPayload_names _ _ [] ⟨addressed.2, named.2⟩ .hangup, .inr ⟨rfl, about⟩⟩
    · exact ⟨cleared.hangup .system, by simp⟩

theorem Minded.described (minded : Minded wanted known t) {i : Nat} {s : CallSetup} (member : s ∈ t.setups)
    (sdp : String) : Minded wanted known (t.described i s sdp).1 ∧
      ∀ o, (t.described i s sdp).2 = some o → Tells wanted known o := by
  unfold CallTab.described
  split
  · exact ⟨minded.setupFailed i s _, by simp⟩
  · refine ⟨minded.withSetup i fun _ => rfl, fun o same => ?_⟩
    obtain rfl := Option.some.inj same
    obtain ⟨accepted, proper⟩ := minded.setUp (s.peerUserId, s.callId)
      (List.mem_append_left _ (List.mem_map_of_mem (f := fun s => (s.peerUserId, s.callId)) member))
    exact ⟨s.peerUserId, s.callId, signalPayload_names _ _ _ proper _, .inl accepted⟩

theorem Minded.answerApplied (minded : Minded wanted known t) (j : Nat) (a : AnswerApplication) :
    Minded wanted known (t.answerApplied j a) := by
  unfold CallTab.answerApplied
  dsimp only
  have applied : Minded wanted known { t with answers := t.answers.modify j fun a => { a with pending := false } } :=
    minded.same rfl rfl rfl
  have described := (applied.withConnection a.connection (f := fun pc => { pc with hasRemoteDescription := true })
    fun _ => rfl).flushIceBuffer a.dock a.connection
  refine described.dispatch ?_
  have session := described.session
  unfold CallState.peerAnsweredOutgoing
  split
  · rename_i calling
    rw [calling] at session
    exact session
  · exact session

/-- Whatever happens in the tab, its calls stay wanted, and so are those it signals for. -/
theorem Minded.perform (implies : ∀ who id, wanted who id → known who id) (minded : Minded wanted known t)
    {hasPeerConnection : Bool} {event : CallTabEvent} {out : Option OutgoingSignal}
    (started : ∀ id peer displayName username, event = .startOutgoingCall id peer displayName username →
      wanted (EcmaText.trim peer) id)
    (answered : event = .answerCall → ∀ who id, t.call.Ringing who id → wanted who id)
    (performed : t.perform hasPeerConnection event = some (t', out)) :
    Minded wanted known t' ∧ ∀ o, out = some o → Tells wanted known o := by
  have silent : ∀ o : OutgoingSignal, (none : Option OutgoingSignal) = some o → Tells wanted known o := by simp
  cases event with
  | mount conversation =>
    simp only [CallTab.perform, Option.ite_none_right_eq_some, Option.some.injEq, Prod.mk.injEq] at performed
    obtain ⟨-, rfl, rfl⟩ := performed
    exact ⟨minded.mount _ _, silent⟩
  | unmount =>
    obtain ⟨r, -, same⟩ := Option.map_eq_some_iff.mp performed
    cases same
    have cancelled := (minded.cancelSetups .caller).cancelSetups .callee
    refine ⟨⟨cancelled.session, ?_, cancelled.setUp⟩, silent⟩
    simp [CallTab.unmount]
  | commit conversation =>
    cases performed
    exact ⟨minded.commit _ _, silent⟩
  | socketChanged =>
    cases performed
    exact ⟨minded.same rfl rfl rfl, silent⟩
  | startOutgoingCall id peer displayName username =>
    obtain ⟨r, -, same⟩ := Option.map_eq_some_iff.mp performed
    cases same
    exact ⟨minded.dispatch ⟨id, EcmaText.trim peer, rfl, rfl, started _ _ _ _ rfl⟩, silent⟩
  | answerCall =>
    cases performed
    refine ⟨minded.dispatch ?_, silent⟩
    have session := minded.session
    unfold CallState.answerCall
    split
    · rename_i ringing
      rw [ringing] at session
      obtain ⟨id, who, named, addressed, -⟩ := session
      exact ⟨id, who, named, addressed, answered rfl who id ⟨ringing, named, addressed⟩⟩
    · exact session
  | requestLocalEndCall =>
    obtain ⟨r, shown, same⟩ := Option.map_eq_some_iff.mp performed
    have ends := minded.requestLocalEndCall implies shown
    rw [same] at ends
    exact ends
  | toggleCallMic =>
    cases performed
    refine ⟨minded.dispatch ?_, silent⟩
    unfold CallState.toggleCallMic
    split
    · exact minded.session
    · exact minded.session
  | toggleCallVideo =>
    cases performed
    refine ⟨minded.dispatch ?_, silent⟩
    unfold CallState.toggleCallVideo
    split
    · exact minded.session
    · exact minded.session
  | clearCallSessionEndReason =>
    cases performed
    exact ⟨minded.dispatch minded.session, silent⟩
  | mediaReady i =>
    obtain ⟨s, found, same⟩ := Option.map_eq_some_iff.mp performed
    cases same
    exact ⟨minded.mediaReady (List.mem_of_getElem? (Option.filter_eq_some_iff.mp found).1), silent⟩
  | offerApplied i =>
    obtain ⟨s, -, same⟩ := Option.bind_eq_some_iff.mp performed
    split at same
    · rename_i connection applying
      cases same
      have described := minded.withConnection connection (f := fun pc => { pc with hasRemoteDescription := true })
        fun _ => rfl
      exact ⟨(described.flushIceBuffer s.dock connection).withSetup i fun _ => rfl, silent⟩
    · cases same
  | described i sdp =>
    obtain ⟨s, found, same⟩ := Option.bind_eq_some_iff.mp performed
    split at same
    · have told := minded.described (i := i) (List.mem_of_getElem? found) sdp
      rw [Option.some.inj same] at told
      exact told
    · cases same
  | emitted i =>
    obtain ⟨s, -, same⟩ := Option.map_eq_some_iff.mp performed
    cases same
    exact ⟨minded.withSetup i fun _ => rfl, silent⟩
  | setupFailed i message =>
    obtain ⟨s, -, same⟩ := Option.map_eq_some_iff.mp performed
    cases same
    exact ⟨minded.setupFailed i s message, silent⟩
  | answerApplied j =>
    obtain ⟨a, -, same⟩ := Option.map_eq_some_iff.mp performed
    cases same
    exact ⟨minded.answerApplied j a, silent⟩
  | answerFailed j message =>
    obtain ⟨a, -, same⟩ := Option.map_eq_some_iff.mp performed
    cases same
    have applied : Minded wanted known { t with answers := t.answers.modify j fun a => { a with pending := false } } :=
      minded.same rfl rfl rfl
    exact ⟨applied.failed _ _, silent⟩
  | endSettled j =>
    obtain ⟨e, -, same⟩ := Option.map_eq_some_iff.mp performed
    cases same
    have settled : Minded wanted known { t with ends := t.ends.modify j fun e => { e with pending := false } } :=
      minded.same rfl rfl rfl
    exact ⟨settled.hangup _, silent⟩
  | iceCandidate connection candidate =>
    obtain ⟨pc, found, same⟩ := Option.map_eq_some_iff.mp performed
    cases same
    refine ⟨minded, fun o same => ?_⟩
    obtain rfl := Option.some.inj same
    obtain ⟨accepted, proper⟩ := minded.setUp (pc.peerUserId, pc.callId) (List.mem_append_right _
      (List.mem_map_of_mem (f := fun pc => (pc.peerUserId, pc.callId)) (List.mem_of_getElem? found)))
    exact ⟨pc.peerUserId, pc.callId, signalPayload_names _ _ _ proper _, .inl accepted⟩
  | reportError message =>
    cases performed
    exact ⟨minded.dispatch minded.session, silent⟩

theorem Minded.onSessionSignal (minded : Minded wanted known t) (event : SignalEvent) (callId : String)
    (payload : Json) : Minded wanted known (t.onSessionSignal event callId payload) := by
  unfold CallTab.onSessionSignal
  split
  · split
    · exact minded.withDock _ _
    · exact minded
  · split
    · split
      · exact minded.same rfl rfl rfl
      · exact minded
    · exact minded
  · split
    · split
      · exact minded.withConnection _ fun _ => rfl
      · exact minded.withDock _ _
    · exact minded
  · exact minded

/-- An inbound signal makes no call wanted; an offer makes one known. -/
theorem Minded.inbound (minded : Minded wanted known t) {event : SignalEvent} {payload : Json}
    (offered : event = .offer → ∀ peer callId, CallTab.textMember payload "fromUserId" = some peer →
      CallTab.textMember payload "callId" = some callId → known peer callId) :
    Minded wanted known (t.onWebRtcInbound event payload) := by
  have rung : Minded wanted known (if event = .offer then t.onOffer payload else t) := by
    split
    · rename_i offer
      unfold CallTab.onOffer
      split
      · rename_i peer callId sdp sender named described
        exact minded.dispatch ⟨callId, peer, rfl, rfl, offered offer peer callId sender named⟩
      · exact minded
    · exact minded
  unfold CallTab.onWebRtcInbound CallTab.sessionHandler
  split
  · split
    · exact rung
    · split
      · exact rung.hangup .remote
      · exact rung.onSessionSignal event _ payload
  · exact rung

end Signals

end Tabs

section Runs

/-- The user of the tab has wanted the call. -/
def Wants (history : List CallTransition) (i : Nat) (peer callId : String) : Prop :=
  ∃ t ∈ history, Consents i peer callId t

/-- The tab has heard of the call, or its user has wanted it. -/
def Knows (history : List CallTransition) (i : Nat) (peer callId : String) : Prop :=
  ∃ t ∈ history, Consents i peer callId t ∨ Offers i peer callId t

variable {env : SignalingEnv} {history : List CallTransition} {i : Nat}

theorem Wants.knows {peer callId : String} (wants : Wants history i peer callId) : Knows history i peer callId := by
  obtain ⟨t, taken, consents⟩ := wants
  exact ⟨t, taken, .inl consents⟩

theorem Minded.later {tab : CallTab} (minded : Minded (Wants history i) (Knows history i) tab)
    (last : CallTransition) : Minded (Wants (history ++ [last]) i) (Knows (history ++ [last]) i) tab := by
  apply minded.mono
  · rintro who id ⟨t, taken, consents⟩
    exact ⟨t, List.mem_append_left _ taken, consents⟩
  · rintro who id ⟨t, taken, heard⟩
    exact ⟨t, List.mem_append_left _ taken, heard⟩

/-- What the tab does is covered by what its user has done, this step included. -/
theorem Minded.event {s target : CallSystem} {p : CallPeer} {event : CallTabEvent} {uplink : Option Uplink}
    {tab : CallTab} {out : Option OutgoingSignal} (here : s.peers[i]? = some p)
    (minded : Minded (Wants history i) (Knows history i) p.tab)
    (performed : p.tab.perform p.hasPeerConnection event = some (tab, out)) :
    Minded (Wants (history ++ [⟨s, .tab i event uplink, target⟩]) i)
        (Knows (history ++ [⟨s, .tab i event uplink, target⟩]) i) tab ∧
      ∀ o, out = some o → Tells (Wants (history ++ [⟨s, .tab i event uplink, target⟩]) i)
        (Knows (history ++ [⟨s, .tab i event uplink, target⟩]) i) o := by
  have taken : (⟨s, .tab i event uplink, target⟩ : CallTransition) ∈ history ++ [⟨s, .tab i event uplink, target⟩] := by
    simp
  apply (minded.later ⟨s, .tab i event uplink, target⟩).perform (fun _ _ => Wants.knows) _ _ performed
  · rintro id peer displayName username rfl
    exact ⟨_, taken, rfl, rfl, rfl⟩
  · rintro rfl who id ringing
    exact ⟨_, taken, rfl, p, here, ringing⟩

theorem Minded.receive {s target : CallSystem} {p : CallPeer} {entry : Nat × SignalEmission}
    (here : s.peers[i]? = some p) (sent : s.wire[p.cursor]? = some entry)
    (minded : Minded (Wants history i) (Knows history i) p.tab) :
    Minded (Wants (history ++ [⟨s, .receive i, target⟩]) i) (Knows (history ++ [⟨s, .receive i, target⟩]) i)
      (p.receive entry).tab := by
  have later := minded.later ⟨s, .receive i, target⟩
  unfold CallPeer.receive
  split
  · cases parsed : SignalEvent.ofName entry.2.event with
    | none => exact later
    | some event =>
      refine later.inbound ?_
      rintro rfl peer callId sender named
      have isOffer := List.find?_some parsed
      exact ⟨_, List.mem_append_right _ (List.mem_singleton_self _),
        .inr ⟨rfl, p, here, entry, sent, (of_decide_eq_true isOffer).symm, sender, named⟩⟩
  · exact later

/-- The tab at a place after a step that changes one tab. -/
theorem peer_set {peers : List CallPeer} {j : Nat} {q p : CallPeer} (found : (peers.set j q)[i]? = some p) :
    j = i ∧ p = q ∨ peers[i]? = some p := by
  rw [List.getElem?_set] at found
  split at found
  · rename_i same
    split at found
    · exact .inl ⟨same, (Option.some.inj found).symm⟩
    · cases found
  · exact .inr found

theorem minded_run {start final : CallSystem} (initial : (callMachine env).init start)
    (run : (callMachine env).Run start history final) :
    ∀ i p, final.peers[i]? = some p → Minded (Wants history i) (Knows history i) p.tab := by
  induction run with
  | nil =>
    intro i p found
    rw [(initial.2.2 p (List.mem_of_getElem? found)).1]
    exact ⟨trivial, fun r shown => (nomatch shown), by simp [called]⟩
  | @snoc history source target label earlier last ih =>
    intro i p found
    cases last with
    | handlers event pool taken => exact (ih i p found).later _
    | world store => exact (ih i p found).later _
    | tab j q event uplink tab out open' performed =>
      rcases peer_set found with ⟨rfl, rfl⟩ | old
      · exact ((ih _ q open').event open' performed).1
      · exact (ih i p old).later _
    | receive j q entry open' sent =>
      rcases peer_set found with ⟨rfl, rfl⟩ | old
      · exact (ih _ q open').receive open' sent
      · exact (ih i p old).later _
    | miss j q open' sent =>
      rcases peer_set found with ⟨rfl, rfl⟩ | old
      · exact (ih _ q open').later _
      · exact (ih i p old).later _
    | reconnect j q socketId auth open' =>
      rcases peer_set found with ⟨rfl, rfl⟩ | old
      · exact (ih _ q open').later _
      · exact (ih i p old).later _

/-- What the tab signals is covered by what its user has done before. -/
theorem Minded.signal {tab tab' : CallTab} (minded : Minded (Wants history i) (Knows history i) tab)
    {hasPeerConnection : Bool} {event : CallTabEvent} {o : OutgoingSignal}
    (performed : tab.perform hasPeerConnection event = some (tab', some o)) : Addressed i history o := by
  have told : Tells (Wants history i) (Knows history i) o := by
    cases event with
    | startOutgoingCall id peer displayName username =>
      obtain ⟨r, -, same⟩ := Option.map_eq_some_iff.mp performed
      cases same
    | answerCall => cases performed
    | _ =>
      refine (minded.perform (fun _ _ => Wants.knows) ?_ ?_ performed).2 o rfl
      · intro _ _ _ _ same
        cases same
      · intro same
        cases same
  obtain ⟨peer, callId, ⟨addressed, named⟩, ⟨t, taken, consents⟩ | ⟨ending, t, taken, consents | offers⟩⟩ := told
  · exact ⟨peer, callId, addressed, named, t, taken, .inl consents⟩
  · exact ⟨peer, callId, addressed, named, t, taken, .inl consents⟩
  · exact ⟨peer, callId, addressed, named, t, taken, .inr ⟨ending, offers⟩⟩

/-- After every run, each call that a tab has asked for camera and microphone for, and each connection that
it has made, is one that its user has started or answered; and whatever it signals next goes to the peer of
such a call, or ends one that was offered. -/
theorem signals_consented {start final : CallSystem} (initial : (callMachine env).init start)
    (run : (callMachine env).Run start history final) {p : CallPeer} (found : final.peers[i]? = some p) :
    (∀ s ∈ p.tab.setups, ∃ t ∈ history, Consents i s.peerUserId s.callId t) ∧
    (∀ pc ∈ p.tab.connections, ∃ t ∈ history, Consents i pc.peerUserId pc.callId t) ∧
    ∀ event tab o, p.tab.perform p.hasPeerConnection event = some (tab, some o) → Addressed i history o := by
  have minded := minded_run initial run i p found
  refine ⟨fun s member => ?_, fun pc member => ?_, fun event tab o performed => minded.signal performed⟩
  · exact (minded.setUp (s.peerUserId, s.callId)
      (List.mem_append_left _ (List.mem_map_of_mem (f := fun s => (s.peerUserId, s.callId)) member))).1
  · exact (minded.setUp (pc.peerUserId, pc.callId) (List.mem_append_right _
      (List.mem_map_of_mem (f := fun pc => (pc.peerUserId, pc.callId)) member))).1

/-- Alice calls Bob, who takes the call; his camera is on and the offer is applied. -/
def taken : List CallEvent :=
  [.tab 0 (.mount none) none, .tab 0 (.startOutgoingCall "call-0001" "bob" none none) none,
    .tab 0 (.commit none) none, .tab 0 (.mediaReady 0) none, .tab 0 (.described 0 "v=0") (some {}),
    .tab 1 (.mount none) none] ++ GhostRing.advances 0 11 ++
  [.receive 1, .tab 1 (.commit none) none, .tab 1 .answerCall none, .tab 1 (.commit none) none,
    .tab 1 (.mediaReady 0) none, .tab 1 (.offerApplied 0) none]

/-- His answer goes to Alice, because he has taken her call. -/
theorem signals_consented_taken : ∃ history o, o.event = SignalEvent.answer ∧ Addressed 1 history o ∧
    ∃ t ∈ history, Consents 1 "alice" "call-0001" t := by
  have checked : (GhostRing.ran taken).any (fun executed => executed.2.peers[1]?.any fun p =>
      (p.tab.setups.any fun s => s.peerUserId = "alice" ∧ s.callId = "call-0001") &&
      (p.tab.perform p.hasPeerConnection (.described 0 "v=1")).any fun done =>
        done.2.any fun o => o.event = .answer) = true := by
    decide
  obtain ⟨⟨history, final⟩, executed, checked⟩ := (Option.any_eq_true _ _).mp checked
  obtain ⟨p, found, checked⟩ := (Option.any_eq_true _ _).mp checked
  obtain ⟨setUp, checked⟩ := Bool.and_eq_true_iff.mp checked
  obtain ⟨⟨tab, out⟩, performed, checked⟩ := (Option.any_eq_true _ _).mp checked
  obtain ⟨o, rfl, answers⟩ := (Option.any_eq_true _ _).mp checked
  obtain ⟨s, member, names⟩ := List.any_eq_true.mp setUp
  obtain ⟨peer, named⟩ := of_decide_eq_true names
  obtain ⟨setups, -, signals⟩ := signals_consented GhostRing.twoTabs_init (GhostRing.ran_run executed) found
  have consents := setups s member
  rw [peer, named] at consents
  exact ⟨history, o, of_decide_eq_true answers, signals _ tab o performed, consents⟩

end Runs

end MessagingSystem.Guarantees.CallConsent
