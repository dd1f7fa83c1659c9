import MessagingSystem.Foundation.EcmaText

/-!
# The call of a tab

`callSlice.ts` and `peerCallEndLabel.ts`: the one call session a tab shows.
-/
namespace MessagingSystem.Source.Client
open Foundation

inductive CallPhase where
  | idle | incomingRing | outgoingRing | active
  deriving DecidableEq

/-- Why the last session ended: by this side (`local`), by the peer, or by an error. -/
inductive CallSessionEndReason where
  | localEnd | remote | system
  deriving DecidableEq

structure CallState where
  phase : CallPhase := .idle
  callId : Option String := none
  peerUserId : Option String := none
  pendingRemoteSdp : Option String := none
  micMuted : Bool := false
  cameraOff : Bool := false
  errorMessage : Option String := none
  lastSessionEndReason : Option CallSessionEndReason := none
  peerResolvedLabel : Option String := none
  lastRemoteEndedPeerLabel : Option String := none
  deriving DecidableEq

/-- The whole characters within the first code units. -/
def takeUnits : Nat → List Char → List Char
  | _, [] => []
  | units, c :: rest =>
      if EcmaText.charUnits c ≤ units then c :: takeUnits (units - EcmaText.charUnits c) rest else []

/-- `x?.trim()`, unless it is blank. -/
def trimmedText (value : Option String) : Option String :=
  (value.map EcmaText.trim).filter fun s => s ≠ ""

def formatPeerCallEndLabel (userId : String) (displayName username : Option String) : String :=
  match trimmedText displayName, trimmedText username with
  | some dn, _ => dn
  | none, some un => un
  | none, none =>
      let id := EcmaText.trim userId
      if id = "" then "The other participant"
      else if 12 < EcmaText.codeUnitLength id then "User " ++ String.ofList (takeUnits 8 id.toList) ++ "…"
      else "User " ++ id

namespace CallState

variable (state : CallState)

def clearSession (endReason : CallSessionEndReason) : CallState :=
  let endLabel := (trimmedText state.peerResolvedLabel).getD
    (((state.peerUserId.filter fun pid => pid ≠ "").map fun pid => formatPeerCallEndLabel pid none none).getD "")
  { lastSessionEndReason := some endReason
    lastRemoteEndedPeerLabel := if endReason = .remote ∧ endLabel ≠ "" then some endLabel else none }

/-- Sets every field, with the call id that `prepare` has drawn, for a peer with or without names. -/
def startOutgoingCall (callId peerUserId : String) (displayName username : Option String) : CallState :=
  let peerUserId := EcmaText.trim peerUserId
  { phase := .outgoingRing
    callId := some callId
    peerUserId := some peerUserId
    peerResolvedLabel := some (formatPeerCallEndLabel peerUserId displayName username) }

/-- Sets every field. -/
def incomingCallRinging (callId peerUserId remoteSdp : String) (displayName username : Option String) : CallState :=
  { phase := .incomingRing
    callId := some callId
    peerUserId := some peerUserId
    pendingRemoteSdp := some remoteSdp
    peerResolvedLabel := some (formatPeerCallEndLabel peerUserId displayName username) }

def answerCall : CallState := if state.phase = .incomingRing then { state with phase := .active } else state

def peerAnsweredOutgoing : CallState := if state.phase = .outgoingRing then { state with phase := .active } else state

def setCallError (message : Option String) : CallState := { state with errorMessage := message }

/-- `hangupCall({ reason })`. -/
def hangupCall (reason : CallSessionEndReason) : CallState := state.clearSession reason

def toggleCallMic : CallState := if state.phase = .active then { state with micMuted := !state.micMuted } else state

def toggleCallVideo : CallState := if state.phase = .active then { state with cameraOff := !state.cameraOff } else state

def clearCallSessionEndReason : CallState :=
  { state with
    lastSessionEndReason := none
    lastRemoteEndedPeerLabel := none }

/-- The tab rings for the call of the peer. -/
def Ringing (peerUserId callId : String) : Prop :=
  state.phase = .incomingRing ∧ state.callId = some callId ∧ state.peerUserId = some peerUserId

instance (peerUserId callId : String) : Decidable (state.Ringing peerUserId callId) :=
  inferInstanceAs (Decidable (state.phase = .incomingRing ∧ state.callId = some callId ∧
    state.peerUserId = some peerUserId))

section Ringing

variable {state} {peer callId : String}

theorem not_ringing_hangupCall (reason : CallSessionEndReason) : ¬ (state.hangupCall reason).Ringing peer callId := by
  intro ringing
  cases ringing.1

theorem not_ringing_startOutgoingCall (id peerUserId : String) (displayName username : Option String) :
    ¬ (startOutgoingCall id peerUserId displayName username).Ringing peer callId := by
  intro ringing
  cases ringing.1

@[simp] theorem ringing_setCallError (message : Option String) :
    (state.setCallError message).Ringing peer callId ↔ state.Ringing peer callId := Iff.rfl

theorem ringing_incomingCallRinging {id from' sdp : String} {displayName username : Option String} :
    (incomingCallRinging id from' sdp displayName username).Ringing peer callId ↔
      id = callId ∧ from' = peer := by
  simp only [Ringing, incomingCallRinging, true_and, Option.some.injEq]

theorem ringing_of_answerCall (ringing : state.answerCall.Ringing peer callId) : state.Ringing peer callId := by
  unfold answerCall at ringing
  split at ringing
  · cases ringing.1
  · exact ringing

theorem ringing_of_peerAnsweredOutgoing (ringing : state.peerAnsweredOutgoing.Ringing peer callId) :
    state.Ringing peer callId := by
  unfold peerAnsweredOutgoing at ringing
  split at ringing
  · cases ringing.1
  · exact ringing

theorem ringing_of_toggleCallMic (ringing : state.toggleCallMic.Ringing peer callId) :
    state.Ringing peer callId := by
  unfold toggleCallMic at ringing
  split at ringing
  · exact ringing
  · exact ringing

theorem ringing_of_toggleCallVideo (ringing : state.toggleCallVideo.Ringing peer callId) :
    state.Ringing peer callId := by
  unfold toggleCallVideo at ringing
  split at ringing
  · exact ringing
  · exact ringing

end Ringing

end CallState

end MessagingSystem.Source.Client
