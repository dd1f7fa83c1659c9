import MessagingSystem.Protocol.CallSignaling

/-!
# No ghost ring

While no signal overtakes an earlier one that is still being checked, the tabs receive
the signals of a socket in the order of emission; and a tab that has received the
caller's hangup of a call does not ring for it, if the caller does not emit the offer
after the hangup and the tab listens for the session that it rings for.
-/
namespace MessagingSystem.Guarantees.GhostRing
open Foundation Program Source.Server Source.Server.Webrtc Source.Client Protocol

/-- An emitted hangup that names the peer and the call. -/
def HangupOf (e : SignalEmission) (peer callId : String) : Prop :=
  e.event = SignalEvent.hangup.name ∧ CallTab.textMember e.payload "fromUserId" = some peer ∧
    CallTab.textMember e.payload "callId" = some callId

/-- The tabs receive the signals of each socket in the order of emission, and a tab that has received
the hangup of a call does not ring for it. -/
structure NoGhostRing (s : CallSystem) : Prop where
  ordered : ∀ p ∈ s.peers, p.received.Pairwise fun a b => ∀ x ∈ s.pool.calls[a.1]?, ∀ y ∈ s.pool.calls[b.1]?,
    x.call.request.socketId = y.call.request.socketId → a.1 < b.1
  quiet : ∀ p ∈ s.peers, ∀ entry ∈ p.received, ∀ peer callId, HangupOf entry.2 peer callId →
    ¬ p.tab.call.Ringing peer callId

/-- The handler is still before its emission. -/
def StillChecking (x : SignalHandler) : Prop := x.notes = [] ∧ ∀ result, x.rest ≠ .done result

/-- No handler of an earlier signal in line with that of the handler is still before its emission. -/
def InTurn (pool : SignalPool) (i : Nat) : Prop :=
  ∀ x ∈ pool.calls[i]?, nextEmissions x.rest ≠ [] → ∀ k < i, ∀ y ∈ pool.calls[k]?, y.call.SameLine x.call →
    ¬ StillChecking y

/-- The first signal is not the hangup of the call that the second offers. -/
def NotOver (y x : SignalCall) : Prop :=
  x.event = .offer → y.event = .hangup → y.userId = x.userId → y.toUserId = x.toUserId → y.callId ≠ x.callId

/-- The signal is no offer of a call after its user's hangup of it. -/
def OfferFirst (pool : SignalPool) (call : SignalCall) : Prop := ∀ y ∈ pool.calls, NotOver y.call call

/-- If the tab rings for a call that the emission hangs up, it has rendered that session. -/
def Listening (p : CallPeer) (e : SignalEmission) : Prop :=
  e.room = p.room → e.event = SignalEvent.hangup.name → ∀ peer ∈ CallTab.textMember e.payload "fromUserId",
    ∀ callId ∈ CallTab.textMember e.payload "callId", p.tab.call.Ringing peer callId →
      ∃ r ∈ p.tab.rendered, r.callId = some callId ∧ r.peerUserId = some peer

/-- A signal is emitted when those before it in its line are through, the caller emits no offer after
its hangup, and a tab gets a hangup of the call that it rings for when it has rendered the session. -/
def Orderly (t : CallTransition) : Prop :=
  match t.label with
  | .handlers (.advance i) => InTurn t.source.pool i
  | .handlers (.takeUp call) => OfferFirst t.source.pool call
  | .tab i event uplink => ∀ p ∈ t.source.peers[i]?, ∀ done ∈ p.tab.perform p.hasPeerConnection event,
      ∀ call ∈ p.requests done.2 uplink, OfferFirst t.source.pool call
  | .receive i => ∀ p ∈ t.source.peers[i]?, ∀ entry ∈ t.source.wire[p.cursor]?, Listening p entry.2
  | _ => True

instance (x : SignalHandler) : Decidable (StillChecking x) :=
  match x with
  | ⟨_, emitted, .command _ _⟩ => decidable_of_iff (emitted = [])
      ⟨fun fresh => ⟨fresh, fun _ same => nomatch same⟩, fun checking => checking.1⟩
  | ⟨_, _, .done result⟩ => .isFalse fun checking => checking.2 result rfl

instance (pool : SignalPool) (i : Nat) : Decidable (InTurn pool i) :=
  inferInstanceAs (Decidable (∀ x ∈ pool.calls[i]?, nextEmissions x.rest ≠ [] → ∀ k < i, ∀ y ∈ pool.calls[k]?,
    y.call.SameLine x.call → ¬ StillChecking y))

instance (y x : SignalCall) : Decidable (NotOver y x) :=
  inferInstanceAs (Decidable (x.event = .offer → y.event = .hangup → y.userId = x.userId →
    y.toUserId = x.toUserId → y.callId ≠ x.callId))

instance (pool : SignalPool) (call : SignalCall) : Decidable (OfferFirst pool call) :=
  inferInstanceAs (Decidable (∀ y ∈ pool.calls, NotOver y.call call))

instance (p : CallPeer) (e : SignalEmission) : Decidable (Listening p e) :=
  inferInstanceAs (Decidable (e.room = p.room → e.event = SignalEvent.hangup.name →
    ∀ peer ∈ CallTab.textMember e.payload "fromUserId", ∀ callId ∈ CallTab.textMember e.payload "callId",
      p.tab.call.Ringing peer callId →
        ∃ r ∈ p.tab.rendered, r.callId = some callId ∧ r.peerUserId = some peer))

instance : (t : CallTransition) → Decidable (Orderly t)
  | ⟨s, .handlers (.advance i), _⟩ => inferInstanceAs (Decidable (InTurn s.pool i))
  | ⟨s, .handlers (.takeUp call), _⟩ => inferInstanceAs (Decidable (OfferFirst s.pool call))
  | ⟨_, .handlers (.abort _ _), _⟩ => .isTrue trivial
  | ⟨s, .tab i event uplink, _⟩ => inferInstanceAs (Decidable (∀ p ∈ s.peers[i]?,
      ∀ done ∈ p.tab.perform p.hasPeerConnection event, ∀ call ∈ p.requests done.2 uplink, OfferFirst s.pool call))
  | ⟨s, .receive i, _⟩ => inferInstanceAs (Decidable (∀ p ∈ s.peers[i]?, ∀ entry ∈ s.wire[p.cursor]?,
      Listening p entry.2))
  | ⟨_, .world _, _⟩ => .isTrue trivial
  | ⟨_, .miss _, _⟩ => .isTrue trivial
  | ⟨_, .reconnect _ _ _, _⟩ => .isTrue trivial

section Handlers

/-- The emission relays the signal of the call. -/
def EmissionOf (call : SignalCall) (e : SignalEmission) : Prop :=
  ∃ (user : UserId) (toUserId callId : String) (members : List (String × Json)),
    call.userId = some user.val ∧ call.toUserId = some toUserId ∧ call.callId = some callId ∧
      e.room = "user:" ++ toUserId ∧ e.event = call.event.name ∧
        e.payload = .object (("fromUserId", .string user.val) :: ("callId", .string callId) :: members)

/-- A command of the handler emits nothing, or the signal, once. -/
def EmitsOnce (call : SignalCall) {δ : Type} (emitted : List SignalEmission) (c : SignalingCommand δ) : Prop :=
  c.emissions = [] ∨ emitted = [] ∧ ∃ e, c.emissions = [e] ∧ EmissionOf call e

variable {env : SignalingEnv} {call : SignalCall}

abbrev HandlerAlong (env : SignalingEnv) (call : SignalCall) {α : Type}
    (after : List SignalEmission → Except AckError α → Prop) (emitted : List SignalEmission)
    (p : SignalingProgram α) : Prop :=
  Along (signalCalls env).note (fun _ _ => True) (EmitsOnce call) after emitted p

/-- The commands of the limiter and of the checks emit nothing. -/
theorem along_hoist {D : Type → Type} {ε' α : Type} {lift : ∀ {δ : Type}, D δ → SignalingCommand δ}
    {reject : ε' → AckError} (silent : ∀ {δ : Type} (c : D δ), (lift c).emissions = []) (q : Program D ε' α)
    (emitted : List SignalEmission) :
    HandlerAlong env call (fun after _ => after = emitted) emitted (q.hoist lift reject) := by
  induction q with
  | done result =>
    cases result with
    | ok a => exact along_pure rfl
    | error e => exact along_fail rfl
  | command c next ih =>
    refine along_command.mpr ⟨.inl (silent c), fun reply _ => ?_⟩
    have kept : (signalCalls env).note emitted (lift c) reply = emitted := by
      change emitted ++ (lift c).emissions = emitted
      rw [silent c, List.append_nil]
    rw [kept]
    exact ih reply

/-- The checks of a handler emit nothing; what it relays follows from its signal. -/
theorem signalHandler_along {β : Type} {schema : Json → Option (WebrtcSignal β)}
    {emits : UserId → WebrtcSignal β → SignalingProgram Unit}
    (relays : ∀ user signal, call.request.auth = .ok user → schema call.request.raw = some signal →
      HandlerAlong env call (fun _ _ => True) [] (emits user signal)) :
    HandlerAlong env call (fun _ _ => True) [] (signalHandler schema emits env call.request) := by
  have authenticated : HandlerAlong env call
      (fun n result => n = [] ∧ ∀ user, result = .ok user → call.request.auth = .ok user) []
      (requireAuth env call.request.auth) := by
    cases auth : call.request.auth with
    | ok other => exact along_pure ⟨rfl, fun user same => congrArg _ (Except.ok.inj same)⟩
    | unauthenticated => exact along_fail ⟨rfl, fun user same => nomatch same⟩
    | emailNotVerified => exact along_fail ⟨rfl, fun user same => nomatch same⟩
  unfold signalHandler
  refine authenticated.bind ?_ fun _ _ _ => trivial
  rintro _ user ⟨rfl, auth⟩
  refine Along.bind (along_hoist (fun _ => rfl) _ []) ?_ fun _ _ _ => trivial
  rintro _ limited rfl
  refine along_require_bind (fun _ => ?_) fun _ => trivial
  refine along_orFail_bind (fun signal accepted => ?_) fun _ => trivial
  refine Along.bind (along_hoist (fun _ => rfl) _ []) ?_ fun _ _ _ => trivial
  rintro _ checked rfl
  exact relays user signal (auth user rfl) accepted

theorem userId_of_auth {user : UserId} (auth : call.request.auth = .ok user) : call.userId = some user.val := by
  unfold SignalCall.userId
  rw [auth]

/-- A relayed payload names the sender and the call first. -/
theorem relayedPayload_names {β : Type} (fromUserId : String) (signal : WebrtcSignal β) (own more : List (String × Json)) :
    ∃ members, relayedPayload fromUserId signal own ++ more =
      ("fromUserId", .string fromUserId) :: ("callId", .string signal.callId) :: members := ⟨_, rfl⟩

theorem emitToPeer_along {β : Type} {name : String} {own : β → List (String × Json)} {user : UserId}
    {signal : WebrtcSignal β} (auth : call.request.auth = .ok user) (addressed : call.toUserId = some signal.toUserId)
    (named : call.callId = some signal.callId) (event : name = call.event.name) :
    HandlerAlong env call (fun _ _ => True) [] (emitToPeer name own user signal) := by
  refine along_command.mpr ⟨.inr ⟨rfl, _, rfl, ?_⟩, fun _ _ => along_done.mpr trivial⟩
  obtain ⟨members, names⟩ := relayedPayload_names user.val signal (own signal.own) []
  rw [List.append_nil] at names
  exact ⟨user, signal.toUserId, signal.callId, members, userId_of_auth auth, addressed, named, rfl, event,
    congrArg Json.object names⟩

theorem relayOffer_along {user : UserId} {signal : WebrtcSignal String} (auth : call.request.auth = .ok user)
    (addressed : call.toUserId = some signal.toUserId) (named : call.callId = some signal.callId)
    (event : "webrtc:offer" = call.event.name) :
    HandlerAlong env call (fun _ _ => True) [] (relayOffer call.request user signal) := by
  unfold relayOffer
  refine along_perform_bind (.inl rfl) fun caller _ => ?_
  refine along_perform_bind (.inr ⟨rfl, _, rfl, ?_⟩) fun _ _ => ?_
  · obtain ⟨members, names⟩ := relayedPayload_names user.val signal [("sdp", Json.string signal.own)]
      (presentMember "callerDisplayName" ((shownText (caller.bind fun c => c.1.displayName)).map Json.string) ++
        presentMember "callerUsername" ((shownText (caller.bind fun c => c.2)).map Json.string))
    rw [← List.append_assoc] at names
    exact ⟨user, signal.toUserId, signal.callId, members, userId_of_auth auth, addressed, named, rfl, event,
      congrArg Json.object names⟩
  · exact along_perform_bind (.inl rfl) fun _ _ => along_pure trivial

/-- A handler emits its signal, at most once. -/
theorem handler_along (env : SignalingEnv) (call : SignalCall) :
    HandlerAlong env call (fun _ _ => True) [] ((signalCalls env).program call) := by
  obtain ⟨event, r⟩ := call
  cases event with
  | offer =>
    refine signalHandler_along fun user signal auth accepted => relayOffer_along auth ?_ ?_ rfl
    · exact congrArg (Option.map WebrtcSignal.toUserId) accepted
    · exact congrArg (Option.map WebrtcSignal.callId) accepted
  | answer =>
    refine signalHandler_along fun user signal auth accepted => emitToPeer_along auth ?_ ?_ rfl
    · exact congrArg (Option.map WebrtcSignal.toUserId) accepted
    · exact congrArg (Option.map WebrtcSignal.callId) accepted
  | candidate =>
    refine signalHandler_along fun user signal auth accepted => emitToPeer_along auth ?_ ?_ rfl
    · exact congrArg (Option.map WebrtcSignal.toUserId) accepted
    · exact congrArg (Option.map WebrtcSignal.callId) accepted
  | hangup =>
    refine signalHandler_along fun user signal auth accepted => emitToPeer_along auth ?_ ?_ rfl
    · exact congrArg (Option.map WebrtcSignal.toUserId) accepted
    · exact congrArg (Option.map WebrtcSignal.callId) accepted

end Handlers

section Tabs

variable {t t' : CallTab} {peer callId : String}

theorem ringing_of_outgoingEffect {hasPeerConnection : Bool} {dock : Nat} {r : CallRender}
    (ringing : (t.outgoingEffect hasPeerConnection dock r).call.Ringing peer callId) : t.call.Ringing peer callId := by
  rcases t.outgoingEffect_call hasPeerConnection dock r with same | ⟨-, -, message, ended⟩
  · rw [same] at ringing
    exact ringing
  · rw [ended] at ringing
    exact absurd ringing (CallState.not_ringing_hangupCall .system)

theorem ringing_of_commit {hasPeerConnection : Bool} {activeConversationId : Option String}
    (ringing : (t.commit hasPeerConnection activeConversationId).call.Ringing peer callId) :
    t.call.Ringing peer callId := by
  unfold CallTab.commit at ringing
  split at ringing
  · exact ringing
  · rename_i was rendered
    simp only [apply_ite CallTab.call, CallTab.calleeEffect_call, ite_self] at ringing
    split at ringing
    · have before := ringing_of_outgoingEffect ringing
      simpa only [apply_ite CallTab.call, CallTab.idleEffect_call, CallTab.cancelSetups_call,
        CallTab.withDock_call, ite_self] using before
    · simpa only [apply_ite CallTab.call, CallTab.idleEffect_call, CallTab.cancelSetups_call,
        CallTab.withDock_call, ite_self] using ringing

theorem ringing_of_mount {hasPeerConnection : Bool} {activeConversationId : Option String}
    (ringing : (t.mount hasPeerConnection activeConversationId).call.Ringing peer callId) :
    t.call.Ringing peer callId := by
  unfold CallTab.mount at ringing
  simp only [CallTab.calleeEffect_call] at ringing
  have before := ringing_of_outgoingEffect ringing
  simpa only [CallTab.idleEffect_call] using before

theorem ringing_of_setupFailed {i : Nat} {s : CallSetup} {message : String}
    (ringing : (t.setupFailed i s message).call.Ringing peer callId) : t.call.Ringing peer callId := by
  unfold CallTab.setupFailed at ringing
  split at ringing
  · exact ringing
  · exact absurd ringing (CallState.not_ringing_hangupCall .system)

/-- Nothing that happens in a tab makes it ring, but for an inbound signal. -/
theorem ringing_of_perform {hasPeerConnection : Bool} {event : CallTabEvent} {out : Option OutgoingSignal}
    (performed : t.perform hasPeerConnection event = some (t', out)) (ringing : t'.call.Ringing peer callId) :
    t.call.Ringing peer callId := by
  cases event with
  | mount activeConversationId =>
    simp only [CallTab.perform, Option.ite_none_right_eq_some, Option.some.injEq, Prod.mk.injEq] at performed
    obtain ⟨-, rfl, -⟩ := performed
    exact ringing_of_mount ringing
  | unmount =>
    obtain ⟨r, -, same⟩ := Option.map_eq_some_iff.mp performed
    cases same
    exact ringing
  | commit activeConversationId =>
    cases performed
    exact ringing_of_commit ringing
  | socketChanged =>
    cases performed
    exact ringing
  | startOutgoingCall id peerUserId displayName username =>
    obtain ⟨r, -, same⟩ := Option.map_eq_some_iff.mp performed
    cases same
    exact absurd ringing (CallState.not_ringing_startOutgoingCall id peerUserId displayName username)
  | answerCall =>
    cases performed
    exact CallState.ringing_of_answerCall ringing
  | requestLocalEndCall =>
    obtain ⟨r, -, same⟩ := Option.map_eq_some_iff.mp performed
    unfold CallTab.requestLocalEndCall at same
    split at same
    · cases same
      exact ringing
    · split at same
      · cases same
        exact ringing
      · cases same
        exact absurd ringing (CallState.not_ringing_hangupCall .system)
  | toggleCallMic =>
    cases performed
    exact CallState.ringing_of_toggleCallMic ringing
  | toggleCallVideo =>
    cases performed
    exact CallState.ringing_of_toggleCallVideo ringing
  | clearCallSessionEndReason =>
    cases performed
    exact ringing
  | mediaReady i =>
    obtain ⟨s, -, same⟩ := Option.map_eq_some_iff.mp performed
    cases same
    unfold CallTab.mediaReady at ringing
    split at ringing
    · exact ringing
    · exact ringing
  | offerApplied i =>
    obtain ⟨s, -, same⟩ := Option.bind_eq_some_iff.mp performed
    split at same
    · cases same
      exact ringing
    · cases same
  | described i sdp =>
    obtain ⟨s, -, same⟩ := Option.bind_eq_some_iff.mp performed
    split at same
    · unfold CallTab.described at same
      split at same
      · cases same
        exact ringing_of_setupFailed ringing
      · cases same
        exact ringing
    · cases same
  | emitted i =>
    obtain ⟨s, -, same⟩ := Option.map_eq_some_iff.mp performed
    cases same
    exact ringing
  | setupFailed i message =>
    obtain ⟨s, -, same⟩ := Option.map_eq_some_iff.mp performed
    cases same
    exact ringing_of_setupFailed ringing
  | answerApplied j =>
    obtain ⟨a, -, same⟩ := Option.map_eq_some_iff.mp performed
    cases same
    exact CallState.ringing_of_peerAnsweredOutgoing ringing
  | answerFailed j message =>
    obtain ⟨a, -, same⟩ := Option.map_eq_some_iff.mp performed
    cases same
    exact absurd ringing (CallState.not_ringing_hangupCall .system)
  | endSettled j =>
    obtain ⟨e, -, same⟩ := Option.map_eq_some_iff.mp performed
    cases same
    exact absurd ringing (CallState.not_ringing_hangupCall .localEnd)
  | iceCandidate connection candidate =>
    obtain ⟨pc, -, same⟩ := Option.map_eq_some_iff.mp performed
    cases same
    exact ringing
  | reportError message =>
    cases performed
    exact ringing

theorem ringing_of_sessionHandler {event : SignalEvent} {payload : Json}
    (ringing : (t.sessionHandler event payload).call.Ringing peer callId) : t.call.Ringing peer callId := by
  unfold CallTab.sessionHandler at ringing
  split at ringing
  · split at ringing
    · exact ringing
    · split at ringing
      · exact absurd ringing (CallState.not_ringing_hangupCall .remote)
      · unfold CallTab.onSessionSignal at ringing
        repeat' split at ringing
        all_goals exact ringing
  · exact ringing

/-- An inbound signal makes the tab ring only if it is an offer that names the peer and the call. -/
theorem ringing_of_inbound {event : SignalEvent} {payload : Json}
    (ringing : (t.onWebRtcInbound event payload).call.Ringing peer callId) :
    t.call.Ringing peer callId ∨ event = .offer ∧ CallTab.textMember payload "fromUserId" = some peer ∧
      CallTab.textMember payload "callId" = some callId := by
  have before := ringing_of_sessionHandler ringing
  split at before
  · rename_i offer
    unfold CallTab.onOffer at before
    split at before
    · rename_i fromUserId id sdp sender named described
      obtain ⟨rfl, rfl⟩ := CallState.ringing_incomingCallRinging.mp before
      exact .inr ⟨offer, sender, named⟩
    · exact .inl before
  · exact .inl before

/-- A hangup for the session that has been rendered ends the ringing. -/
theorem not_ringing_hangup {r : CallRender} {payload : Json} (rendered : t.rendered = some r)
    (session : r.callId = some callId ∧ r.peerUserId = some peer)
    (sender : CallTab.textMember payload "fromUserId" = some peer)
    (named : CallTab.textMember payload "callId" = some callId) :
    ¬ (t.onWebRtcInbound .hangup payload).call.Ringing peer callId := by
  have ended : t.onWebRtcInbound .hangup payload = t.dispatch fun call => call.hangupCall .remote := by
    simp only [CallTab.onWebRtcInbound, CallTab.sessionHandler, rendered, sender, named, session, reduceCtorEq,
      ne_eq, not_true_eq_false, or_self, if_false, if_true]
  rw [ended]
  exact CallState.not_ringing_hangupCall .remote

end Tabs

section Wire

variable {env : SignalingEnv} {pool pool' : SignalPool} {wire : List (Nat × SignalEmission)}
  {event : PoolEvent SignalCall AckError}

/-- What has gone out: each emission is the only one of its handler and comes after those of the
handlers before it in its line, none of which is still to emit. -/
structure Wired (env : SignalingEnv) (calls : List SignalHandler) (wire : List (Nat × SignalEmission)) : Prop where
  along : ∀ x ∈ calls, HandlerAlong env x.call (fun _ _ => True) x.notes x.rest
  emitted : ∀ entry ∈ wire, ∃ x, calls[entry.1]? = some x ∧ x.notes = [entry.2] ∧ EmissionOf x.call entry.2
  through : ∀ entry ∈ wire, ∀ x ∈ calls[entry.1]?, ∀ k < entry.1, ∀ y ∈ calls[k]?, y.call.SameLine x.call →
    ¬ StillChecking y
  ordered : wire.Pairwise fun a b => ∀ x ∈ calls[a.1]?, ∀ y ∈ calls[b.1]?, x.call.SameLine y.call → a.1 < b.1
  offers : ∀ (k i : Nat) (y x : SignalHandler), k < i → calls[k]? = some y → calls[i]? = some x → NotOver y.call x.call

/-- A handler after a step was there before, as far from its emission, or has been taken up. -/
theorem handler_before (taken : (signalCalls env).Step pool event pool') {k : Nat} {y : SignalHandler}
    (held : pool'.calls[k]? = some y) :
    (∃ x, pool.calls[k]? = some x ∧ y.call = x.call ∧ (StillChecking y → StillChecking x)) ∨
      event = .takeUp y.call ∧ k = pool.calls.length := by
  rcases taken.entry held with old | ⟨call, rfl, last, -, rfl⟩ | ⟨call, n, β, c, next, rfl, was, rfl⟩ |
      ⟨call, n, β, c, next, e, rfl, was, rfl⟩
  · exact .inl ⟨y, old, rfl, id⟩
  · exact .inr ⟨rfl, last⟩
  · refine .inl ⟨_, was, rfl, fun checking => ⟨?_, fun result same => nomatch same⟩⟩
    exact (List.append_eq_nil_iff.mp checking.1).1
  · exact .inl ⟨_, was, rfl, fun checking => absurd rfl (checking.2 _)⟩

/-- A handler that has emitted emits nothing more. -/
theorem noted_after (taken : (signalCalls env).Step pool event pool') {k : Nat} {x : SignalHandler} {e : SignalEmission}
    (along : HandlerAlong env x.call (fun _ _ => True) x.notes x.rest) (held : pool.calls[k]? = some x)
    (noted : x.notes = [e]) : ∃ y, pool'.calls[k]? = some y ∧ y.call = x.call ∧ y.notes = [e] := by
  obtain ⟨y, held', same⟩ := taken.remains held
  refine ⟨y, held', same, ?_⟩
  rcases taken.entry held' with old | ⟨call, rfl, rfl, -, rfl⟩ | ⟨call, n, β, c, next, rfl, was, rfl⟩ |
      ⟨call, n, β, c, next, err, rfl, was, rfl⟩
  · rw [held] at old
    cases old
    exact noted
  · obtain ⟨bound, -⟩ := List.getElem?_eq_some_iff.mp held
    exact absurd bound (Nat.lt_irrefl _)
  · cases held.symm.trans was
    rcases (along_command.mp along).1 with silent | ⟨fresh, -⟩
    · change n ++ c.emissions = [e]
      rw [silent, List.append_nil]
      exact noted
    · cases fresh.symm.trans noted
  · cases held.symm.trans was
    exact noted

/-- A step emits nothing, or the signal of the handler that moves. -/
theorem emittedBy_cases (along : ∀ x ∈ pool.calls, HandlerAlong env x.call (fun _ _ => True) x.notes x.rest)
    (taken : (signalCalls env).Step pool event pool') :
    pool.emittedBy event = [] ∨ ∃ i e x, event = .advance i ∧ pool.emittedBy event = [(i, e)] ∧
      pool.calls[i]? = some x ∧ nextEmissions x.rest ≠ [] ∧ StillChecking x ∧ EmissionOf x.call e ∧
        ∃ y, pool'.calls[i]? = some y ∧ y.call = x.call ∧ y.notes = [e] := by
  cases taken with
  | takeUp call admitted => exact .inl rfl
  | abort index call n c next e fails running => exact .inl rfl
  | advance i call n c next running =>
    have here := (along_command.mp (along _ (List.mem_of_getElem? running))).1
    have emits : pool.emittedBy (.advance i) = c.emissions.map fun e => (i, e) := by
      simp only [SignalPool.emittedBy, running, Option.toList_some, List.flatMap_cons, List.flatMap_nil,
        List.append_nil]
      rfl
    rcases here with silent | ⟨fresh, e, emission, relays⟩
    · rw [emits, silent]
      exact .inl rfl
    · rw [emits, emission]
      obtain ⟨bound, -⟩ := List.getElem?_eq_some_iff.mp running
      refine .inr ⟨i, e, _, rfl, rfl, running, ?_, ⟨fresh, fun result same => nomatch same⟩, relays,
        _, List.getElem?_set_self bound, rfl, ?_⟩
      · change c.emissions ≠ []
        rw [emission]
        exact List.cons_ne_nil _ _
      · change n ++ c.emissions = [e]
        rw [emission, show n = [] from fresh]
        rfl

theorem Wired.step (wired : Wired env pool.calls wire) (taken : (signalCalls env).Step pool event pool')
    (inTurn : ∀ i, event = .advance i → InTurn pool i) (first : ∀ call, event = .takeUp call → OfferFirst pool call) :
    Wired env pool'.calls (wire ++ pool.emittedBy event) := by
  have bounded : ∀ entry ∈ wire, entry.1 < pool.calls.length := by
    intro entry listed
    obtain ⟨x, held, -⟩ := wired.emitted entry listed
    exact (List.getElem?_eq_some_iff.mp held).1
  -- a handler of an emission, or one before it, has not just been taken up
  have old : ∀ {k : Nat} {y : SignalHandler}, pool'.calls[k]? = some y → k < pool.calls.length →
      ∃ x, pool.calls[k]? = some x ∧ y.call = x.call ∧ (StillChecking y → StillChecking x) := by
    intro k y held bound
    refine (handler_before taken held).resolve_right fun new => ?_
    exact absurd bound (new.2 ▸ Nat.lt_irrefl _)
  have along : ∀ x ∈ pool'.calls, HandlerAlong env x.call (fun _ _ => True) x.notes x.rest :=
    NotedCalls.AllAlong.preserved (K := signalCalls env) (fun _ _ => trivial) (handler_along env)
      (fun _ _ _ _ _ _ => trivial) wired.along taken
  have kept : ∀ entry ∈ wire, ∃ x, pool'.calls[entry.1]? = some x ∧ x.notes = [entry.2] ∧ EmissionOf x.call entry.2 := by
    intro entry listed
    obtain ⟨x, held, noted, relays⟩ := wired.emitted entry listed
    obtain ⟨y, held', same, noted'⟩ := noted_after taken (wired.along x (List.mem_of_getElem? held)) held noted
    exact ⟨y, held', noted', same ▸ relays⟩
  have through : ∀ entry ∈ wire, ∀ x ∈ pool'.calls[entry.1]?, ∀ k < entry.1, ∀ y ∈ pool'.calls[k]?,
      y.call.SameLine x.call → ¬ StillChecking y := by
    intro entry listed x held k before y held' line checking
    obtain ⟨x', was, sameX, -⟩ := old held (bounded entry listed)
    obtain ⟨y', was', sameY, still⟩ := old held' (Nat.lt_trans before (bounded entry listed))
    exact wired.through entry listed x' was k before y' was' (sameX ▸ sameY ▸ line) (still checking)
  have ordered : wire.Pairwise fun a b => ∀ x ∈ pool'.calls[a.1]?, ∀ y ∈ pool'.calls[b.1]?,
      x.call.SameLine y.call → a.1 < b.1 := by
    refine List.Pairwise.imp_of_mem ?_ wired.ordered
    intro a b listed listed' before x held y held' line
    obtain ⟨x', was, sameX, -⟩ := old held (bounded a listed)
    obtain ⟨y', was', sameY, -⟩ := old held' (bounded b listed')
    exact before x' was y' was' (sameX ▸ sameY ▸ line)
  have offers : ∀ (k i : Nat) (y x : SignalHandler), k < i → pool'.calls[k]? = some y → pool'.calls[i]? = some x →
      NotOver y.call x.call := by
    intro k i y x before held held'
    rcases handler_before taken held' with ⟨x', was', sameX, -⟩ | ⟨new, last⟩
    · obtain ⟨y', was, sameY, -⟩ := old held (Nat.lt_trans before (List.getElem?_eq_some_iff.mp was').1)
      rw [sameX, sameY]
      exact wired.offers k i y' x' before was was'
    · obtain ⟨y', was, sameY, -⟩ := old held (last ▸ before)
      rw [sameY]
      exact first x.call new y' (List.mem_of_getElem? was)
  rcases emittedBy_cases wired.along taken with silent | ⟨i, e, x, moved, emits, held, next, checking, relays, y,
      held', same, noted⟩
  · rw [silent, List.append_nil]
    exact ⟨along, kept, through, ordered, offers⟩
  · rw [emits]
    have turn := inTurn i moved x held next
    refine ⟨along, fun entry listed => ?_, fun entry listed => ?_, ?_, offers⟩
    · rcases List.mem_append.mp listed with before | now
      · exact kept entry before
      · obtain rfl := List.mem_singleton.mp now
        exact ⟨y, held', noted, same ▸ relays⟩
    · rcases List.mem_append.mp listed with before | now
      · exact through entry before
      · obtain rfl := List.mem_singleton.mp now
        intro x' found k before z found' line still
        obtain ⟨w, was, sameW, wasStill⟩ := old found' (Nat.lt_trans before (List.getElem?_eq_some_iff.mp held).1)
        cases held'.symm.trans found
        exact turn k before w was (same ▸ sameW ▸ line) (wasStill still)
    · refine List.pairwise_append.mpr ⟨ordered, List.pairwise_singleton _ _, ?_⟩
      intro a listed b now x' found z found' line
      obtain rfl := List.mem_singleton.mp now
      obtain ⟨w, was, sameW, -⟩ := old found (bounded a listed)
      cases held'.symm.trans found'
      rw [sameW, same] at line
      rcases Nat.lt_trichotomy a.1 i with before | here | after
      · exact before
      · -- the handler has not emitted before
        obtain ⟨v, was', notedV, -⟩ := wired.emitted a listed
        rw [here, held] at was'
        cases was'
        cases checking.1.symm.trans notedV
      · -- an emission of a later handler in line waited for this one
        exact absurd checking (wired.through a listed w was i after x held line.symm)

end Wire

section Steps

variable {env : SignalingEnv} {s t : CallSystem} {event : CallEvent} {wire : List (Nat × SignalEmission)}
  {calls : List SignalHandler} {p : CallPeer}

/-- A tab has received emissions of its room in their order, and does not ring for a call whose hangup it has. -/
structure Heard (wire : List (Nat × SignalEmission)) (p : CallPeer) : Prop where
  inOrder : p.received.Sublist (wire.take p.cursor)
  rooms : ∀ entry ∈ p.received, entry.2.room = p.room
  quiet : ∀ entry ∈ p.received, ∀ peer callId, HangupOf entry.2 peer callId → ¬ p.tab.call.Ringing peer callId

theorem Heard.longer (heard : Heard wire p) (more : List (Nat × SignalEmission)) : Heard (wire ++ more) p := by
  refine ⟨heard.inOrder.trans ?_, heard.rooms, heard.quiet⟩
  rw [List.take_append]
  exact List.sublist_append_left _ _

theorem Heard.missed (heard : Heard wire p) : Heard wire { p with cursor := p.cursor + 1 } := by
  refine ⟨heard.inOrder.trans ?_, heard.rooms, heard.quiet⟩
  exact (List.take_prefix_take_left (Nat.le_succ p.cursor)).sublist

/-- The texts of a relayed signal name its sender and its call. -/
theorem EmissionOf.texts {call : SignalCall} {e : SignalEmission} {peer callId : String} (relays : EmissionOf call e)
    (sender : CallTab.textMember e.payload "fromUserId" = some peer)
    (named : CallTab.textMember e.payload "callId" = some callId) :
    call.userId = some peer ∧ call.callId = some callId := by
  obtain ⟨user, toUserId, id, members, from', -, called, -, -, payload⟩ := relays
  rw [payload] at sender named
  simp only [CallTab.textMember, Json.asObject, Option.bind_some, Json.member_cons_self, Json.asString, truthy,
    Option.filter_eq_some_iff, Option.some.injEq] at sender
  have second : Json.member (("fromUserId", .string user.val) :: ("callId", .string id) :: members) "callId" =
      some (.string id) := by
    rw [Json.member_cons_of_ne (by decide), Json.member_cons_self]
  simp only [CallTab.textMember, Json.asObject, Option.bind_some, second, Json.asString, truthy,
    Option.filter_eq_some_iff, Option.some.injEq] at named
  exact ⟨sender.1 ▸ from', named.1 ▸ called⟩

/-- No offer of a call goes out to a room after the hangup of that call. -/
theorem Wired.hangup_last (wired : Wired env calls wire) {a b : Nat × SignalEmission} {cursor : Nat}
    (before : a ∈ wire.take cursor) (next : wire[cursor]? = some b) (room : a.2.room = b.2.room)
    {peer callId : String} (hangup : HangupOf a.2 peer callId) (offer : b.2.event = SignalEvent.offer.name)
    (sender : CallTab.textMember b.2.payload "fromUserId" = some peer)
    (named : CallTab.textMember b.2.payload "callId" = some callId) : False := by
  obtain ⟨x, held, -, relays⟩ := wired.emitted a (List.mem_of_mem_take before)
  obtain ⟨y, held', -, relays'⟩ := wired.emitted b (List.mem_of_getElem? next)
  obtain ⟨user, called⟩ := relays.texts hangup.2.1 hangup.2.2
  obtain ⟨user', called'⟩ := relays'.texts sender named
  obtain ⟨_, to', _, _, -, addressed, -, room', name, -⟩ := relays
  obtain ⟨_, to'', _, _, -, addressed', -, room'', name', -⟩ := relays'
  have same : to' = to'' := by
    rw [room', room''] at room
    exact (String.append_right_inj "user:").mp room
  have line : x.call.SameLine y.call :=
    ⟨by rw [addressed, addressed', same], .inr ⟨by rw [user, user'], by rw [called, called']⟩⟩
  have split : (wire.take cursor ++ wire.drop cursor).Pairwise fun a b => ∀ x ∈ calls[a.1]?, ∀ y ∈ calls[b.1]?,
      x.call.SameLine y.call → a.1 < b.1 := by
    rw [List.take_append_drop]
    exact wired.ordered
  have after : b ∈ wire.drop cursor := by
    refine List.mem_of_getElem? (i := 0) ?_
    rw [List.getElem?_drop]
    exact next
  have earlier := (List.pairwise_append.mp split).2.2 a before b after x held y held' line
  refine wired.offers a.1 b.1 x y earlier held held' ?_ ?_ (by rw [user, user']) (by rw [addressed, addressed', same])
    (by rw [called, called'])
  · exact SignalEvent.name_inj (name'.symm.trans offer)
  · exact SignalEvent.name_inj (name.symm.trans hangup.1)

theorem Heard.receive (heard : Heard wire p) (wired : Wired env calls wire) {entry : Nat × SignalEmission}
    (sent : wire[p.cursor]? = some entry) (listening : Listening p entry.2) : Heard wire (p.receive entry) := by
  unfold CallPeer.receive
  split
  · rename_i mine
    have later : wire.take (p.cursor + 1) = wire.take p.cursor ++ [entry] := by
      rw [List.take_add_one, sent]
      rfl
    refine ⟨?_, fun other listed => ?_, fun other listed peer callId hangup ringing => ?_⟩
    · change (p.received ++ [entry]).Sublist (wire.take (p.cursor + 1))
      rw [later]
      exact heard.inOrder.append (List.Sublist.refl _)
    · rcases List.mem_append.mp listed with before | now
      · exact heard.rooms other before
      · obtain rfl := List.mem_singleton.mp now
        exact mine
    · have origin : p.tab.call.Ringing peer callId ∨ entry.2.event = SignalEvent.offer.name ∧
          CallTab.textMember entry.2.payload "fromUserId" = some peer ∧
            CallTab.textMember entry.2.payload "callId" = some callId := by
        cases parsed : SignalEvent.ofName entry.2.event with
        | none =>
          rw [parsed] at ringing
          exact .inl ringing
        | some event =>
          rw [parsed] at ringing
          refine (ringing_of_inbound ringing).imp id fun offer => ⟨?_, offer.2⟩
          obtain rfl := offer.1
          have named := List.find?_some parsed
          exact (of_decide_eq_true named).symm
      rcases List.mem_append.mp listed with before | now
      · rcases origin with already | ⟨offer, sender, named⟩
        · exact heard.quiet other before peer callId hangup already
        · exact wired.hangup_last (heard.inOrder.subset before) sent ((heard.rooms other before).trans mine.symm)
            hangup offer sender named
      · obtain rfl := List.mem_singleton.mp now
        rcases origin with already | ⟨offer, -, -⟩
        · obtain ⟨r, rendered, session⟩ := listening mine hangup.1 peer hangup.2.1 callId hangup.2.2 already
          rw [hangup.1, SignalEvent.ofName_name] at ringing
          exact not_ringing_hangup rendered session hangup.2.1 hangup.2.2 ringing
        · cases SignalEvent.name_inj (offer.symm.trans hangup.1)
  · exact heard.missed

structure Tracked (env : SignalingEnv) (s : CallSystem) : Prop where
  wired : Wired env s.pool.calls s.wire
  heard : ∀ p ∈ s.peers, Heard s.wire p

theorem Wired.takeUp (wired : Wired env calls wire) (store : SignalingState) (call : SignalCall)
    (first : OfferFirst ⟨store, calls⟩ call) : Wired env (calls ++ takenUp env [call]) wire := by
  have taken : (signalCalls env).Step ⟨store, calls⟩ (.takeUp call) ⟨store, calls ++ takenUp env [call]⟩ :=
    .takeUp ⟨store, calls⟩ call trivial
  have kept := wired.step taken (fun i moved => nomatch moved) fun other same => by
    cases same
    exact first
  rwa [show SignalPool.emittedBy ⟨store, calls⟩ (.takeUp call) = [] from rfl, List.append_nil] at kept

theorem CallPeer.requests_cases (p : CallPeer) (out : Option OutgoingSignal) (uplink : Option Uplink) :
    p.requests out uplink = [] ∨ ∃ call, p.requests out uplink = [call] := by
  unfold CallPeer.requests
  split
  · exact .inr ⟨_, rfl⟩
  · exact .inl rfl

theorem heard_set {i : Nat} {peers : List CallPeer} (heard : ∀ p ∈ peers, Heard wire p) (here : Heard wire p) :
    ∀ q ∈ peers.set i p, Heard wire q := by
  intro q listed
  rcases List.mem_or_eq_of_mem_set listed with old | rfl
  · exact heard q old
  · exact here

theorem Tracked.step (tracked : Tracked env s) (taken : CallStep env s event t) (orderly : Orderly ⟨s, event, t⟩) :
    Tracked env t := by
  cases taken with
  | handlers moved pool taken =>
    refine ⟨tracked.wired.step taken ?_ ?_, fun p listed => (tracked.heard p listed).longer _⟩
    · rintro i rfl
      exact orderly
    · rintro call rfl
      exact orderly
  | world store => exact ⟨tracked.wired, tracked.heard⟩
  | tab i p happened uplink tab out found performed =>
    have first : ∀ call ∈ p.requests out uplink, OfferFirst s.pool call :=
      orderly p found (tab, out) performed
    refine ⟨?_, heard_set tracked.heard ?_⟩
    · rcases CallPeer.requests_cases p out uplink with silent | ⟨call, emits⟩
      · change Wired env (s.pool.calls ++ takenUp env (p.requests out uplink)) s.wire
        rw [silent]
        change Wired env (s.pool.calls ++ []) s.wire
        rw [List.append_nil]
        exact tracked.wired
      · change Wired env (s.pool.calls ++ takenUp env (p.requests out uplink)) s.wire
        rw [emits] at first ⊢
        exact tracked.wired.takeUp s.pool.store call (first call (List.mem_singleton.mpr rfl))
    · have heard := tracked.heard p (List.mem_of_getElem? found)
      exact ⟨heard.inOrder, heard.rooms, fun entry listed peer callId hangup ringing =>
        heard.quiet entry listed peer callId hangup (ringing_of_perform performed ringing)⟩
  | receive i p entry found sent =>
    have listening : Listening p entry.2 := orderly p found entry sent
    exact ⟨tracked.wired, heard_set tracked.heard
      ((tracked.heard p (List.mem_of_getElem? found)).receive tracked.wired sent listening)⟩
  | miss i p found sent =>
    exact ⟨tracked.wired, heard_set tracked.heard (tracked.heard p (List.mem_of_getElem? found)).missed⟩
  | reconnect i p socketId auth found =>
    have heard := tracked.heard p (List.mem_of_getElem? found)
    exact ⟨tracked.wired, heard_set tracked.heard ⟨heard.inOrder, heard.rooms, heard.quiet⟩⟩

theorem Tracked.begins (initial : (callMachine env).init s) : Tracked env s := by
  obtain ⟨calls, wire, fresh⟩ := initial
  refine ⟨?_, fun p listed => ?_⟩
  · rw [calls, wire]
    exact ⟨fun x listed => absurd listed List.not_mem_nil, fun entry listed => absurd listed List.not_mem_nil,
      fun entry listed => absurd listed List.not_mem_nil, List.Pairwise.nil, fun k i y x before held => nomatch held⟩
  · obtain ⟨-, none⟩ := fresh p listed
    refine ⟨?_, ?_, ?_⟩
    · rw [none]
      exact List.nil_sublist _
    · rw [none]
      exact fun entry listed => absurd listed List.not_mem_nil
    · rw [none]
      exact fun entry listed => absurd listed List.not_mem_nil

/-- What a tab has received is addressed to its user. -/
theorem Tracked.noGhostRing (tracked : Tracked env s) : NoGhostRing s := by
  refine ⟨fun p listed => ?_, fun p listed => (tracked.heard p listed).quiet⟩
  have heard := tracked.heard p listed
  have ordered := tracked.wired.ordered.sublist (heard.inOrder.trans (List.take_sublist _ _))
  refine List.Pairwise.imp_of_mem ?_ ordered
  intro a b first second before x held y held' socket
  have mine : ∀ entry ∈ p.received, ∀ z, s.pool.calls[entry.1]? = some z → z.call.toUserId = some p.userId := by
    intro entry received z found
    obtain ⟨z', found', -, relays⟩ := tracked.wired.emitted entry
      ((heard.inOrder.trans (List.take_sublist _ _)).subset received)
    cases found.symm.trans found'
    obtain ⟨_, toUserId, _, _, -, addressed, -, room, -, -⟩ := relays
    rw [addressed, (String.append_right_inj "user:").mp (room.symm.trans (heard.rooms entry received))]
  exact before x held y held' ⟨by rw [mine a first x held, mine b second y held'], .inl socket⟩

end Steps

/-- In every orderly run the tabs receive the signals of each socket in the order of emission, and
a tab that has received the hangup of a call does not ring for it. -/
theorem no_ghost_ring {env : SignalingEnv} {start final : CallSystem} {history : List CallTransition}
    (initial : (callMachine env).init start) (run : (callMachine env).Run start history final)
    (orderly : ∀ t ∈ history, Orderly t) : NoGhostRing final := by
  have tracked := run.invariant_of_forall (I := Tracked env) (C := Orderly)
    (fun s event t tracked taken orderly => tracked.step taken orderly) (Tracked.begins initial) orderly
  exact tracked.noGhostRing

section Runs

def signalingEnv : SignalingEnv := ⟨60, 120, 240, 120, true⟩

/-- A tab of Alice and one of Bob. -/
def twoTabs : CallSystem where
  pool :=
    { store := { db := { users := [⟨"alice", false, some "Alice"⟩, ⟨"bob", false, none⟩] } }
      calls := [] }
  peers := [
    { auth := .ok UserId.alice
      userId := "alice"
      socketId := "s1" },
    { auth := .ok UserId.bob
      userId := "bob"
      socketId := "s2" }]

theorem twoTabs_init : (callMachine signalingEnv).init twoTabs := by
  refine ⟨rfl, rfl, fun p listed => ?_⟩
  simp only [twoTabs, List.mem_cons, List.not_mem_nil, or_false] at listed
  rcases listed with rfl | rfl
  · exact ⟨rfl, rfl⟩
  · exact ⟨rfl, rfl⟩

/-- Alice calls Bob, her offer goes out, and she ends the call before it is acknowledged. -/
def calledAndEnded : List CallEvent :=
  [.tab 0 (.mount none) none, .tab 0 (.startOutgoingCall "call-0001" "bob" none none) none,
    .tab 0 (.commit none) none, .tab 0 (.mediaReady 0) none, .tab 0 (.described 0 "v=0") (some {}),
    .tab 0 .requestLocalEndCall (some {}), .tab 1 (.mount none) none]

def advances (index count : Nat) : List CallEvent := List.replicate count (.handlers (.advance index))

/-- The recorded run of the events from there. -/
def ran (events : List CallEvent) : Option (List CallTransition × CallSystem) :=
  Machine.trace (CallSystem.next signalingEnv) twoTabs events

theorem ran_run {events : List CallEvent} {history : List CallTransition} {final : CallSystem}
    (executed : ran events = some (history, final)) : (callMachine signalingEnv).Run twoTabs history final :=
  Machine.trace_run (CallSystem.next signalingEnv) (fun s event t stepped => s.next_step event t stepped) executed

/-- Bob gets the offer, and then the hangup. -/
theorem no_ghost_ring_hung_up : ∃ history final, (callMachine signalingEnv).Run twoTabs history final ∧
    final.peers.map (fun p => p.received.length) = [0, 2] ∧ NoGhostRing final := by
  have checked : (ran (calledAndEnded ++ advances 0 11 ++ [.receive 1, .tab 1 (.commit none) none] ++
      advances 1 6 ++ [.receive 1])).any (fun executed =>
        executed.2.peers.map (fun p => p.received.length) = [0, 2] ∧ ∀ t ∈ executed.1, Orderly t) = true := by
    decide
  obtain ⟨⟨history, final⟩, executed, holds⟩ := (Option.any_eq_true _ _).mp checked
  obtain ⟨received, orderly⟩ := of_decide_eq_true holds
  have run := ran_run executed
  exact ⟨history, final, run, received, no_ghost_ring twoTabs_init run orderly⟩

/-- A tab rings for a call whose hangup it has received. -/
def haunted (s : CallSystem) : Bool :=
  s.peers.any fun p => p.received.any fun entry => entry.2.event = SignalEvent.hangup.name &&
    (CallTab.textMember entry.2.payload "fromUserId").any fun peer =>
      (CallTab.textMember entry.2.payload "callId").any fun callId => p.tab.call.Ringing peer callId

theorem haunted_sound {s : CallSystem} (holds : haunted s = true) : ¬ NoGhostRing s := by
  intro claim
  obtain ⟨p, listed, holds⟩ := List.any_eq_true.mp holds
  obtain ⟨entry, received, holds⟩ := List.any_eq_true.mp holds
  obtain ⟨hangup, holds⟩ := Bool.and_eq_true_iff.mp holds
  obtain ⟨peer, sender, holds⟩ := (Option.any_eq_true _ _).mp holds
  obtain ⟨callId, named, ringing⟩ := (Option.any_eq_true _ _).mp holds
  exact claim.quiet p listed entry received peer callId ⟨of_decide_eq_true hangup, sender, named⟩
    (of_decide_eq_true ringing)

/-- The hangup overtakes the offer, which has one more lookup before its emission; Bob's tab rings. -/
theorem hangup_overtakes_offer : ¬ ∀ (env : SignalingEnv) (start final : CallSystem) (history : List CallTransition),
    (callMachine env).init start → (callMachine env).Run start history final → NoGhostRing final := by
  intro claim
  have checked : (ran (calledAndEnded ++ advances 1 9 ++ advances 0 8 ++ [.receive 1, .receive 1])).any
      (fun executed => haunted executed.2) = true := by decide
  obtain ⟨⟨history, final⟩, executed, holds⟩ := (Option.any_eq_true _ _).mp checked
  exact haunted_sound holds (claim signalingEnv twoTabs final history twoTabs_init (ran_run executed))

end Runs

end MessagingSystem.Guarantees.GhostRing
