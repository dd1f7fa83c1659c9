import MessagingSystem.Foundation.Paths
import MessagingSystem.Protocol.MessageFanOut
import MessagingSystem.Source.Server.WebrtcSignaling

/-!
# Acknowledged signals

A signal that is acknowledged has been emitted once, by the replica that handled
it, to its own sockets in the room of `toUserId` as it stands in the payload. So it
has reached every socket of the addressed user exactly when they are all connected
to that replica, and the id is written without white space around it.
-/
namespace MessagingSystem.Guarantees.SignalDelivery
open Foundation Program Source.Server Source.Server.Webrtc Protocol

abbrev SignalPath := @Program.Path SignalingCommand AckError Unit SignalEmission SignalingCommand.emissions

/-- The replica `home` emits to its own sockets. -/
def Reaches (home : Replica) (events : List SignalEmission) (name : String) (replica : Replica) (σ : Socket) : Prop :=
  replica = home ∧ ∃ e ∈ events, e.event = name ∧ σ.rooms.contains e.room = true

/-- Every connected socket of the user that the signal is addressed to has got it. -/
def ReachesPeer (topology : Topology) (home : Replica) (events : List SignalEmission) (name toUserId : String) : Prop :=
  ∀ replica ∈ topology.replicas, ∀ σ ∈ replica.sockets, σ.userId = some (EcmaText.trim toUserId) →
    Reaches home events name replica σ

/-- The sockets of the addressed user are connected to `home`, and if there are any, the id is trimmed. -/
def PeerAtHome (topology : Topology) (home : Replica) (toUserId : String) : Prop :=
  ∀ replica ∈ topology.replicas, ∀ σ ∈ replica.sockets, σ.userId = some (EcmaText.trim toUserId) →
    replica = home ∧ EcmaText.trim toUserId = toUserId

section Handlers

variable {env : SignalingEnv} {r : SignalRequest} {events : List SignalEmission}

/-- The checks of a handler emit nothing; what it emits follows from its signal. -/
theorem signalHandler_path {β : Type} {schema : Json → Option (WebrtcSignal β)}
    {emits : UserId → WebrtcSignal β → SignalingProgram Unit}
    (acked : SignalPath (signalHandler schema emits env r) events (.ok ())) :
    ∃ user signal, schema r.raw = some signal ∧ SignalPath (emits user signal) events (.ok ()) := by
  unfold signalHandler at acked
  obtain ⟨user, none, rest, rfl, authenticated, acked⟩ := acked.bind
  have silentAuth : none = [] := by
    cases auth : r.auth with
    | ok other =>
      rw [auth] at authenticated
      exact (path_pure authenticated).1
    | unauthenticated =>
      rw [auth] at authenticated
      exact (path_fail authenticated).elim
    | emailNotVerified =>
      rw [auth] at authenticated
      exact (path_fail authenticated).elim
  obtain ⟨limited, counted, rest, rfl, limits, acked⟩ := acked.bind
  have silentLimits : counted = [] := limits.hoist fun _ => rfl
  obtain ⟨_, allowed, rest, rfl, passed, acked⟩ := acked.bind
  obtain ⟨signal, parsed, rest, rfl, accepted, acked⟩ := acked.bind
  obtain ⟨silentSchema, accepted⟩ := path_orFail accepted
  obtain ⟨_, checked, rest, rfl, peer, acked⟩ := acked.bind
  have silentPeer : checked = [] := peer.hoist fun _ => rfl
  refine ⟨user, signal, accepted, ?_⟩
  rw [silentAuth, silentLimits, (path_require passed).1, silentSchema, silentPeer]
  exact acked

theorem relayOffer_path {user : UserId} {signal : WebrtcSignal String}
    (acked : SignalPath (relayOffer r user signal) events (.ok ())) :
    ∃ payload, events = [⟨"user:" ++ signal.toUserId, "webrtc:offer", payload⟩] := by
  unfold relayOffer at acked
  obtain ⟨caller, found, rest, rfl, lookup, acked⟩ := acked.bind
  obtain ⟨_, emitted, rest, rfl, emission, acked⟩ := acked.bind
  obtain ⟨published, sent, rest, rfl, publish, acked⟩ := acked.bind
  rw [path_perform lookup, path_perform emission, path_perform publish, (path_pure acked).1]
  exact ⟨_, rfl⟩

theorem emitToPeer_path {β : Type} {name : String} {own : β → List (String × Json)} {user : UserId}
    {signal : WebrtcSignal β} (acked : SignalPath (emitToPeer name own user signal) events (.ok ())) :
    ∃ payload, events = [⟨"user:" ++ signal.toUserId, name, payload⟩] := ⟨_, path_perform acked⟩

/-- An acknowledged signal is emitted once, to the room of `toUserId` as it is written. -/
theorem acked_emits {event : SignalEvent} (acked : SignalPath (event.handler env r) events (.ok ())) :
    ∃ toUserId payload, event.toUserId r.raw = some toUserId ∧
      events = [⟨"user:" ++ toUserId, event.name, payload⟩] := by
  cases event with
  | offer =>
    obtain ⟨user, signal, accepted, path⟩ := signalHandler_path acked
    obtain ⟨payload, emitted⟩ := relayOffer_path path
    exact ⟨signal.toUserId, payload, by simp only [SignalEvent.toUserId, accepted, Option.map_some], emitted⟩
  | answer =>
    obtain ⟨user, signal, accepted, path⟩ := signalHandler_path acked
    obtain ⟨payload, emitted⟩ := emitToPeer_path path
    exact ⟨signal.toUserId, payload, by simp only [SignalEvent.toUserId, accepted, Option.map_some], emitted⟩
  | candidate =>
    obtain ⟨user, signal, accepted, path⟩ := signalHandler_path acked
    obtain ⟨payload, emitted⟩ := emitToPeer_path path
    exact ⟨signal.toUserId, payload, by simp only [SignalEvent.toUserId, accepted, Option.map_some], emitted⟩
  | hangup =>
    obtain ⟨user, signal, accepted, path⟩ := signalHandler_path acked
    obtain ⟨payload, emitted⟩ := emitToPeer_path path
    exact ⟨signal.toUserId, payload, by simp only [SignalEvent.toUserId, accepted, Option.map_some], emitted⟩

end Handlers

/-- An acknowledged signal, whatever happened between its handler's commands, has reached every
socket of the addressed user exactly when these are connected to the replica that handled it,
under the id that the payload names. -/
theorem acked_signal_reaches_iff (topology : Topology) (home : Replica) (event : SignalEvent) (env : SignalingEnv)
    (r : SignalRequest) (events : List SignalEmission) (acked : SignalPath (event.handler env r) events (.ok ()))
    (toUserId : String) (named : event.toUserId r.raw = some toUserId) :
    ReachesPeer topology home events event.name toUserId ↔ PeerAtHome topology home toUserId := by
  obtain ⟨addressed, payload, named', rfl⟩ := acked_emits acked
  obtain rfl : toUserId = addressed := Option.some.inj (named.symm.trans named')
  constructor
  · intro reaches replica listed σ connected peer
    obtain ⟨here, e, emitted, -, inRoom⟩ := reaches replica listed σ connected peer
    obtain rfl := List.mem_singleton.mp emitted
    have joined := mem_rooms_user.mp inRoom
    exact ⟨here, Option.some.inj (peer.symm.trans joined)⟩
  · intro atHome replica listed σ connected peer
    obtain ⟨here, trimmed⟩ := atHome replica listed σ connected peer
    refine ⟨here, _, List.mem_singleton.mpr rfl, rfl, mem_rooms_user.mpr ?_⟩
    rw [peer, trimmed]

section Runs

open UserId (alice)

def signalingEnv : SignalingEnv := ⟨60, 120, 240, 120, true⟩

/-- Alice ends a call with bob. -/
def bobHangup : SignalRequest :=
  { auth := .ok alice
    ip := "10.0.0.1"
    socketId := "s1"
    raw := .object [("toUserId", .string "bob"), ("callId", .string "call-0001")] }

/-- Alice and bob are registered. -/
def registered : SignalingState :=
  { db := { users := [⟨"alice", false, some "Alice"⟩, ⟨"bob", false, none⟩] } }

/-- Alone, the hangup is acknowledged. -/
theorem bobHangup_acked : ∃ events, SignalPath (webrtcHangup signalingEnv bobHangup) events (.ok ()) := by
  have acknowledged : ((webrtcHangup signalingEnv bobHangup).run SignalingCommand.exec registered).1 = .ok () := by
    decide
  obtain ⟨events, path⟩ := path_run SignalingCommand.emissions SignalingCommand.exec
    (webrtcHangup signalingEnv bobHangup) registered
  rw [acknowledged] at path
  exact ⟨events, path⟩

theorem aliceTab_named : "s1" ≠ "" := by decide

theorem aliceTab_plain : ':' ∉ "s1".toList := by decide

theorem bobTab_named : "s2" ≠ "" := by decide

theorem bobTab_plain : ':' ∉ "s2".toList := by decide

def aliceTab : Socket := ⟨⟨"s1", aliceTab_named, aliceTab_plain⟩, some "alice"⟩

def bobTab : Socket := ⟨⟨"s2", bobTab_named, bobTab_plain⟩, some "bob"⟩

theorem oneInstance : [Replica.instanceId ⟨"node-1", [aliceTab, bobTab]⟩].Nodup := by decide

theorem twoInstances : (List.map Replica.instanceId [⟨"node-1", [aliceTab]⟩, ⟨"node-2", [bobTab]⟩]).Nodup := by decide

/-- Alice and bob are connected to one replica. -/
def together : Topology := ⟨[⟨"node-1", [aliceTab, bobTab]⟩], oneInstance⟩

/-- Alice and bob are connected to different replicas. -/
def apart : Topology := ⟨[⟨"node-1", [aliceTab]⟩, ⟨"node-2", [bobTab]⟩], twoInstances⟩

theorem bobHangup_names_bob : SignalEvent.hangup.toUserId bobHangup.raw = some "bob" := by decide

/-- On one replica the hangup reaches bob. -/
theorem acked_signal_reaches_together : ∃ events,
    SignalPath (SignalEvent.hangup.handler signalingEnv bobHangup) events (.ok ()) ∧
      ReachesPeer together ⟨"node-1", [aliceTab, bobTab]⟩ events "webrtc:hangup" "bob" := by
  obtain ⟨events, acked⟩ := bobHangup_acked
  refine ⟨events, acked, ?_⟩
  apply (acked_signal_reaches_iff together ⟨"node-1", [aliceTab, bobTab]⟩ .hangup signalingEnv bobHangup events acked
    "bob" bobHangup_names_bob).mpr
  intro replica listed σ connected peer
  exact ⟨List.mem_singleton.mp listed, by decide⟩

/-- On the other replica bob's tab does not get the acknowledged hangup. -/
theorem hangup_stays_on_replica : ¬ ∀ (topology : Topology) (home : Replica) (event : SignalEvent)
    (env : SignalingEnv) (r : SignalRequest) (events : List SignalEmission),
    home ∈ topology.replicas → SignalPath (event.handler env r) events (.ok ()) →
      ∀ toUserId, event.toUserId r.raw = some toUserId → ReachesPeer topology home events event.name toUserId := by
  intro claim
  obtain ⟨events, acked⟩ := bobHangup_acked
  have reaches := claim apart ⟨"node-1", [aliceTab]⟩ .hangup signalingEnv bobHangup events (by decide) acked "bob"
    bobHangup_names_bob
  have elsewhere := (reaches ⟨"node-2", [bobTab]⟩ (by decide) bobTab (by decide) (by decide)).1
  exact absurd elsewhere (by decide)

end Runs

end MessagingSystem.Guarantees.SignalDelivery
