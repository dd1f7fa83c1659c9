import MessagingSystem.Source.Client.CallSlice
import MessagingSystem.Source.Server.WebrtcSignaling

/-!
# The call session of a tab

`useWebRtcCallSession.ts`, mounted by `CallSessionDock.tsx`, and the WebRTC part of
`SocketWorkerProvider.tsx`. A commit renders the dock with the slice as it stands and
runs the effects whose dependencies have changed; until the next commit the callbacks
close over what it has rendered. Each mounting of the dock has refs of its own. Media
tracks and elements are left out.
-/
namespace MessagingSystem.Source.Client
open Foundation
open Source.Server.Webrtc (SignalEvent)

/-- What the effects and callbacks of a commit close over. The context value of the socket is a
new one (with the next number) whenever the connection's status changes. -/
structure CallRender where
  phase : CallPhase
  callId : Option String
  peerUserId : Option String
  pendingRemoteSdp : Option String
  socket : Nat
  deriving DecidableEq

inductive Role where
  | caller | callee
  deriving DecidableEq

/-- The event of the description that a role emits. -/
def Role.description : Role → SignalEvent
  | .caller => .offer
  | .callee => .answer

/-- An ICE candidate of the peer, with the call id of its signal. -/
structure RemoteCandidate where
  callId : String
  init : Json

/-- An `RTCPeerConnection`, with the call it was made for. -/
structure PeerConnection where
  dock : Nat
  callId : String
  peerUserId : String
  closed : Bool := false
  hasRemoteDescription : Bool := false
  candidates : List RemoteCandidate := []

/-- Where the asynchronous function of an effect has got to: it waits for `getUserMedia`, for
`setRemoteDescription` of the offer, for its own description, or for the acknowledgement. -/
inductive SetupStage where
  | media
  | applyingOffer (connection : Nat)
  | describing (connection : Nat)
  | emitting
  | ended
  deriving DecidableEq

/-- The asynchronous function that an effect has started. -/
structure CallSetup where
  role : Role
  dock : Nat
  callId : String
  peerUserId : String
  cancelled : Bool := false
  stage : SetupStage := .media
  deriving DecidableEq

/-- `setRemoteDescription` of an inbound answer. -/
structure AnswerApplication where
  dock : Nat
  connection : Nat
  callId : String
  pending : Bool := true
  deriving DecidableEq

/-- A `webrtc:hangup` emitted by `requestLocalEndCall`, until it is settled. -/
structure EndRequest where
  callId : String
  pending : Bool := true
  deriving DecidableEq

structure DockRefs where
  pcRef : Option Nat := none
  roleRef : Option Role := none
  iceBufferRef : List RemoteCandidate := []
  processedOutgoingCallIdRef : Option String := none
  calleeNegotiatedCallIdRef : Option String := none
  conversationIdRef : Option String := none

/-- A signal that the tab gives to `emitWebRtcSignaling`. -/
structure OutgoingSignal where
  event : SignalEvent
  payload : Json

structure CallTab where
  call : CallState := {}
  socket : Nat := 0
  /-- The refs of each mounting of the dock; the last ones are those of the mounted dock. -/
  docks : List DockRefs := []
  /-- What was committed last, while the dock is mounted. -/
  rendered : Option CallRender := none
  connections : List PeerConnection := []
  setups : List CallSetup := []
  answers : List AnswerApplication := []
  ends : List EndRequest := []

/-- The value unless it is missing or empty. -/
def truthy (value : Option String) : Option String := value.filter fun s => s ≠ ""

namespace CallTab

variable (t : CallTab)

def dispatch (reduce : CallState → CallState) : CallTab := { t with call := reduce t.call }

def withDock (dock : Nat) (f : DockRefs → DockRefs) : CallTab := { t with docks := t.docks.modify dock f }

def withConnection (connection : Nat) (f : PeerConnection → PeerConnection) : CallTab :=
  { t with connections := t.connections.modify connection f }

def withSetup (i : Nat) (f : CallSetup → CallSetup) : CallTab := { t with setups := t.setups.modify i f }

/-- The number of the mounted dock. -/
def mounted : Nat := t.docks.length - 1

def refs (dock : Nat) : DockRefs := t.docks[dock]?.getD {}

def render : CallRender := ⟨t.call.phase, t.call.callId, t.call.peerUserId, t.call.pendingRemoteSdp, t.socket⟩

section Effects

/-- The cleanup of the effect of a role. -/
def cancelSetups (role : Role) : CallTab :=
  { t with setups := t.setups.map fun s => if s.role = role then { s with cancelled := true } else s }

/-- In an idle commit the refs are reset and the connection is closed. -/
def idleEffect (dock : Nat) (r : CallRender) : CallTab :=
  if r.phase = .idle then
    let closed := match (t.refs dock).pcRef with
      | some connection => t.withConnection connection fun pc => { pc with closed := true }
      | none => t
    closed.withDock dock fun d => { conversationIdRef := d.conversationIdRef }
  else t

def outgoingEffect (hasPeerConnection : Bool) (dock : Nat) (r : CallRender) : CallTab :=
  match truthy r.callId, truthy r.peerUserId with
  | some callId, some peerUserId =>
      if r.phase ≠ .outgoingRing then t
      else if !hasPeerConnection then
        t.dispatch fun call => (call.setCallError
          (some "WebRTC is not available in this browser or context.")).hangupCall .system
      else if (t.refs dock).processedOutgoingCallIdRef = some callId then t
      else
        { t.withDock dock fun d => { d with
            processedOutgoingCallIdRef := some callId
            roleRef := some .caller } with
          setups := t.setups ++ [⟨.caller, dock, callId, peerUserId, false, .media⟩] }
  | _, _ => t

def calleeEffect (hasPeerConnection : Bool) (dock : Nat) (r : CallRender) : CallTab :=
  match truthy r.pendingRemoteSdp, truthy r.callId, truthy r.peerUserId with
  | some _, some callId, some peerUserId =>
      if r.phase ≠ .active then t
      else if (t.refs dock).roleRef = some .caller then t
      else if (t.refs dock).calleeNegotiatedCallIdRef = some callId then t
      else if (t.refs dock).pcRef.isSome then t
      else if !hasPeerConnection then t
      else
        { t.withDock dock fun d => { d with
            calleeNegotiatedCallIdRef := some callId
            roleRef := some .callee } with
          setups := t.setups ++ [⟨.callee, dock, callId, peerUserId, false, .media⟩] }
  | _, _, _ => t

/-- The dependencies of the outgoing effect differ. -/
def outgoingChanged (was r : CallRender) : Bool :=
  was.phase ≠ r.phase || was.callId ≠ r.callId || was.peerUserId ≠ r.peerUserId || was.socket ≠ r.socket

/-- The dependencies of the callee's effect differ. -/
def calleeChanged (was r : CallRender) : Bool :=
  outgoingChanged was r || was.pendingRemoteSdp ≠ r.pendingRemoteSdp

/-- Renders the mounted dock, runs the cleanups of the effects that have changed and then these effects.
The effect of the inbound handler registers it with what has been rendered. -/
def commit (hasPeerConnection : Bool) (activeConversationId : Option String) : CallTab :=
  match t.rendered with
  | none => t
  | some was =>
      let r := t.render
      let dock := t.mounted
      let t := { t.withDock dock fun d => { d with conversationIdRef := activeConversationId } with
        rendered := some r }
      let t := if outgoingChanged was r then t.cancelSetups .caller else t
      let t := if calleeChanged was r then t.cancelSetups .callee else t
      let t := if was.phase ≠ r.phase then t.idleEffect dock r else t
      let t := if outgoingChanged was r then t.outgoingEffect hasPeerConnection dock r else t
      if calleeChanged was r then t.calleeEffect hasPeerConnection dock r else t

/-- A dock is mounted, with fresh refs. -/
def mount (hasPeerConnection : Bool) (activeConversationId : Option String) : CallTab :=
  let r := t.render
  let dock := t.docks.length
  let t := { t with
    docks := t.docks ++ [({ conversationIdRef := activeConversationId } : DockRefs)]
    rendered := some r }
  let t := t.idleEffect dock r
  let t := t.outgoingEffect hasPeerConnection dock r
  t.calleeEffect hasPeerConnection dock r

/-- The dock is unmounted: no inbound handler is registered. -/
def unmount : CallTab := { (t.cancelSetups .caller).cancelSetups .callee with rendered := none }

end Effects

section Inbound

/-- `typeof p[name] === 'string'`, and not empty. -/
def textMember (payload : Json) (name : String) : Option String :=
  (Json.asObject (some payload)).bind fun o => truthy (Json.asString (Json.member o name))

/-- `x && typeof x === 'object'`. -/
def objectMember (payload : Json) (name : String) : Option Json :=
  (Json.asObject (some payload)).bind fun o => match Json.member o name with
    | some (.object members) => some (.object members)
    | some (.array items) => some (.array items)
    | _ => none

/-- An inbound offer rings, whatever the tab does. -/
def onOffer (payload : Json) : CallTab :=
  match textMember payload "fromUserId", textMember payload "callId", textMember payload "sdp" with
  | some fromUserId, some callId, some sdp =>
      let text (name : String) := (Json.asObject (some payload)).bind fun o => Json.asString (Json.member o name)
      t.dispatch fun _ => .incomingCallRinging callId fromUserId sdp (text "callerDisplayName") (text "callerUsername")
  | _, _, _ => t

/-- The connection of the mounted dock gets an answer or a candidate of the call. -/
def onSessionSignal (event : SignalEvent) (callId : String) (payload : Json) : CallTab :=
  match (t.refs t.mounted).pcRef, event with
  | none, .candidate =>
      match objectMember payload "candidate" with
      | some init => t.withDock t.mounted fun d => { d with iceBufferRef := d.iceBufferRef ++ [⟨callId, init⟩] }
      | none => t
  | some connection, .answer =>
      match textMember payload "sdp" with
      | some _ =>
          if (t.refs t.mounted).roleRef = some .caller then
            { t with answers := t.answers ++ [⟨t.mounted, connection, callId, true⟩] }
          else t
      | none => t
  | some connection, .candidate =>
      match objectMember payload "candidate" with
      | some init =>
          if t.connections[connection]?.any fun pc => pc.hasRemoteDescription then
            t.withConnection connection fun pc => { pc with candidates := pc.candidates ++ [⟨callId, init⟩] }
          else t.withDock t.mounted fun d => { d with iceBufferRef := d.iceBufferRef ++ [⟨callId, init⟩] }
      | none => t
  | _, _ => t

/-- The registered handler takes only signals of the peer for the rendered session. -/
def sessionHandler (event : SignalEvent) (payload : Json) : CallTab :=
  match t.rendered, textMember payload "fromUserId", textMember payload "callId" with
  | some r, some fromUserId, some callId =>
      if event = .offer ∨ r.callId ≠ some callId ∨ r.peerUserId ≠ some fromUserId then t
      else if event = .hangup then t.dispatch fun call => call.hangupCall .remote
      else t.onSessionSignal event callId payload
  | _, _, _ => t

def onWebRtcInbound (event : SignalEvent) (payload : Json) : CallTab :=
  (if event = .offer then t.onOffer payload else t).sessionHandler event payload

end Inbound

section Setups

/-- `{ conversationId }`, if a conversation is active. -/
def signalingConv (dock : Nat) : List (String × Json) :=
  ((truthy (t.refs dock).conversationIdRef).map fun c => ("conversationId", Json.string c)).toList

def signalPayload (dock : Nat) (toUserId callId : String) (own : List (String × Json)) : Json :=
  .object ([("toUserId", .string toUserId), ("callId", .string callId)] ++ own ++ t.signalingConv dock)

/-- The peer's buffered candidates are added to the connection. -/
def flushIceBuffer (dock connection : Nat) : CallTab :=
  (t.withConnection connection fun pc =>
    { pc with candidates := pc.candidates ++ (t.refs dock).iceBufferRef }).withDock dock
      fun d => { d with iceBufferRef := [] }

/-- The `catch` of a setup. -/
def setupFailed (i : Nat) (s : CallSetup) (message : String) : CallTab :=
  let t := t.withSetup i fun s => { s with stage := .ended }
  if s.cancelled then t
  else t.dispatch fun call => (call.setCallError (some message)).hangupCall .system

/-- `getUserMedia` resolves. -/
def mediaReady (i : Nat) (s : CallSetup) : CallTab :=
  if s.cancelled then t.withSetup i fun s => { s with stage := .ended }
  else
    let connection := t.connections.length
    let next := match s.role with
      | .caller => SetupStage.describing connection
      | .callee => SetupStage.applyingOffer connection
    { (t.withDock s.dock fun d => { d with pcRef := some connection }).withSetup i fun s => { s with stage := next } with
      connections := t.connections ++ [{ dock := s.dock, callId := s.callId, peerUserId := s.peerUserId }] }

/-- `setRemoteDescription` of the offer resolves. -/
def offerApplied (i : Nat) (s : CallSetup) (connection : Nat) : CallTab :=
  ((t.withConnection connection fun pc => { pc with hasRemoteDescription := true }).flushIceBuffer s.dock
    connection).withSetup i fun s => { s with stage := .describing connection }

/-- The description is there and is emitted. -/
def described (i : Nat) (s : CallSetup) (sdp : String) : CallTab × Option OutgoingSignal :=
  if sdp = "" then
    (t.setupFailed i s (match s.role with
      | .caller => "Missing local SDP"
      | .callee => "Missing local answer SDP"), none)
  else (t.withSetup i fun s => { s with stage := .emitting },
    some ⟨s.role.description, t.signalPayload s.dock s.peerUserId s.callId [("sdp", .string sdp)]⟩)

def answerApplied (j : Nat) (a : AnswerApplication) : CallTab :=
  let t := { t with answers := t.answers.modify j fun a => { a with pending := false } }
  ((t.withConnection a.connection fun pc => { pc with hasRemoteDescription := true }).flushIceBuffer a.dock
    a.connection).dispatch CallState.peerAnsweredOutgoing

def answerFailed (j : Nat) (message : String) : CallTab :=
  { t with answers := t.answers.modify j fun a => { a with pending := false } }.dispatch
    fun call => (call.setCallError (some message)).hangupCall .system

/-- The callback of the last commit: it ends the session that was rendered. -/
def requestLocalEndCall (r : CallRender) : CallTab × Option OutgoingSignal :=
  let t := t.dispatch fun call => call.setCallError none
  if r.phase = .idle then (t, none)
  else match truthy r.peerUserId, truthy r.callId with
    | some pid, some cid =>
        ({ t with ends := t.ends ++ [⟨cid, true⟩] }, some ⟨.hangup, t.signalPayload t.mounted pid cid []⟩)
    | _, _ => (t.dispatch fun call => call.hangupCall .system, none)

/-- The hangup is settled, whether it was acknowledged or not. -/
def endSettled (j : Nat) : CallTab :=
  { t with ends := t.ends.modify j fun e => { e with pending := false } }.dispatch
    fun call => call.hangupCall .localEnd

end Setups

end CallTab

/-- What happens in a tab, but for inbound signals. Which texts the browser's errors have, and
when its promises settle, is the environment's choice. -/
inductive CallTabEvent where
  | mount (activeConversationId : Option String)
  | unmount
  | commit (activeConversationId : Option String)
  | socketChanged
  | startOutgoingCall (callId peerUserId : String) (displayName username : Option String)
  | answerCall
  | requestLocalEndCall
  | toggleCallMic
  | toggleCallVideo
  | clearCallSessionEndReason
  | mediaReady (setup : Nat)
  | offerApplied (setup : Nat)
  | described (setup : Nat) (sdp : String)
  | emitted (setup : Nat)
  | setupFailed (setup : Nat) (message : String)
  | answerApplied (answer : Nat)
  | answerFailed (answer : Nat) (message : String)
  | endSettled (request : Nat)
  | iceCandidate (connection : Nat) (candidate : Json)
  | reportError (message : String)

/-- The tab after an event that is possible in it, and what it emits. A call is started while the
button is enabled: the rendered phase is idle. -/
def CallTab.perform (hasPeerConnection : Bool) (t : CallTab) : CallTabEvent → Option (CallTab × Option OutgoingSignal)
  | .mount activeConversationId =>
      if t.rendered.isNone then some (t.mount hasPeerConnection activeConversationId, none) else none
  | .unmount => t.rendered.map fun _ => (t.unmount, none)
  | .commit activeConversationId => some (t.commit hasPeerConnection activeConversationId, none)
  | .socketChanged => some ({ t with socket := t.socket + 1 }, none)
  | .startOutgoingCall callId peerUserId displayName username =>
      (t.rendered.filter fun r => r.phase = .idle).map fun _ =>
        (t.dispatch fun _ => .startOutgoingCall callId peerUserId displayName username, none)
  | .answerCall => some (t.dispatch CallState.answerCall, none)
  | .requestLocalEndCall => t.rendered.map fun r => t.requestLocalEndCall r
  | .toggleCallMic => some (t.dispatch CallState.toggleCallMic, none)
  | .toggleCallVideo => some (t.dispatch CallState.toggleCallVideo, none)
  | .clearCallSessionEndReason => some (t.dispatch CallState.clearCallSessionEndReason, none)
  | .mediaReady i => (t.setups[i]?.filter fun s => s.stage = .media).map fun s => (t.mediaReady i s, none)
  | .offerApplied i => t.setups[i]?.bind fun s => match s.stage with
      | .applyingOffer connection => some (t.offerApplied i s connection, none)
      | _ => none
  | .described i sdp => t.setups[i]?.bind fun s => match s.stage with
      | .describing _ => some (t.described i s sdp)
      | _ => none
  | .emitted i => (t.setups[i]?.filter fun s => s.stage = .emitting).map fun _ =>
      (t.withSetup i fun s => { s with stage := .ended }, none)
  | .setupFailed i message => (t.setups[i]?.filter fun s => s.stage ≠ .ended).map fun s =>
      (t.setupFailed i s message, none)
  | .answerApplied j => (t.answers[j]?.filter fun a => a.pending).map fun a => (t.answerApplied j a, none)
  | .answerFailed j message => (t.answers[j]?.filter fun a => a.pending).map fun _ =>
      (t.answerFailed j message, none)
  | .endSettled j => (t.ends[j]?.filter fun e => e.pending).map fun _ => (t.endSettled j, none)
  | .iceCandidate connection candidate => t.connections[connection]?.map fun pc =>
      (t, some ⟨.candidate, t.signalPayload pc.dock pc.peerUserId pc.callId [("candidate", candidate)]⟩)
  | .reportError message => some (t.dispatch fun call => call.setCallError (some message), none)

namespace CallTab

variable {t t' : CallTab} {peer callId : String}

@[simp] theorem dispatch_call (t : CallTab) (reduce : CallState → CallState) : (t.dispatch reduce).call = reduce t.call :=
  rfl

@[simp] theorem withDock_call (t : CallTab) (dock : Nat) (f : DockRefs → DockRefs) :
    (t.withDock dock f).call = t.call := rfl

@[simp] theorem withConnection_call (t : CallTab) (connection : Nat) (f : PeerConnection → PeerConnection) :
    (t.withConnection connection f).call = t.call := rfl

@[simp] theorem withSetup_call (t : CallTab) (i : Nat) (f : CallSetup → CallSetup) :
    (t.withSetup i f).call = t.call := rfl

@[simp] theorem cancelSetups_call (t : CallTab) (role : Role) : (t.cancelSetups role).call = t.call := rfl

@[simp] theorem flushIceBuffer_call (t : CallTab) (dock connection : Nat) :
    (t.flushIceBuffer dock connection).call = t.call := rfl

@[simp] theorem idleEffect_call (t : CallTab) (dock : Nat) (r : CallRender) : (t.idleEffect dock r).call = t.call := by
  unfold idleEffect
  split
  · cases closing : (t.refs dock).pcRef with
    | some connection => rfl
    | none => rfl
  · rfl

/-- The outgoing effect leaves the session as it is, or ends it where there is no WebRTC. -/
theorem outgoingEffect_call (t : CallTab) (hasPeerConnection : Bool) (dock : Nat) (r : CallRender) :
    (t.outgoingEffect hasPeerConnection dock r).call = t.call ∨
      (hasPeerConnection = false ∧ r.phase = .outgoingRing ∧ ∃ message,
        (t.outgoingEffect hasPeerConnection dock r).call =
          (t.call.setCallError (some message)).hangupCall .system) := by
  unfold outgoingEffect
  split
  · split
    · exact .inl rfl
    · rename_i calling
      split
      · rename_i unavailable
        refine .inr ⟨?_, Decidable.not_not.mp calling, _, rfl⟩
        simpa only [Bool.not_eq_true'] using unavailable
      · split
        · exact .inl rfl
        · exact .inl rfl
  · exact .inl rfl

@[simp] theorem calleeEffect_call (t : CallTab) (hasPeerConnection : Bool) (dock : Nat) (r : CallRender) :
    (t.calleeEffect hasPeerConnection dock r).call = t.call := by
  unfold calleeEffect
  split
  · repeat' split
    all_goals rfl
  · rfl

end CallTab

end MessagingSystem.Source.Client
