import MessagingSystem.Foundation.NotedCalls
import MessagingSystem.Source.Client.CallSession

/-!
# Calls between tabs

Tabs of any users, with one replica of the service. The handler of each signal runs
interleaved with the others, one command a step, and any command may fail. What the
handlers emit goes out in one order; every tab receives from it what its room gets,
or misses it while it is not connected. Clients of other kinds signal, too, and other
parties change the stores.
-/
namespace MessagingSystem.Protocol
open Foundation Source.Server Source.Server.Webrtc Source.Client

/-- A signal as the service takes it up. -/
structure SignalCall where
  event : SignalEvent
  request : SignalRequest

namespace SignalCall

variable (call : SignalCall)

def toUserId : Option String := call.event.toUserId call.request.raw

def callId : Option String := call.event.callId call.request.raw

/-- The user that the socket is authenticated as. -/
def userId : Option String := match call.request.auth with
  | .ok user => some user.val
  | _ => none

/-- Signals to one peer, of one socket or of one user's call. -/
def SameLine (a b : SignalCall) : Prop :=
  a.toUserId = b.toUserId ∧
    (a.request.socketId = b.request.socketId ∨ a.userId = b.userId ∧ a.callId = b.callId)

instance (a b : SignalCall) : Decidable (a.SameLine b) :=
  inferInstanceAs (Decidable (a.toUserId = b.toUserId ∧
    (a.request.socketId = b.request.socketId ∨ a.userId = b.userId ∧ a.callId = b.callId)))

theorem SameLine.symm {a b : SignalCall} (same : a.SameLine b) : b.SameLine a :=
  ⟨same.1.symm, same.2.imp Eq.symm fun call => ⟨call.1.symm, call.2.symm⟩⟩

end SignalCall

/-- The handlers note what they have emitted. -/
def signalCalls (env : SignalingEnv) :
    NotedCalls SignalingCommand AckError Unit SignalingState SignalCall (List SignalEmission) where
  program call := call.event.handler env call.request
  blank := []
  note emitted c _ := emitted ++ c.emissions
  exec := SignalingCommand.exec
  admits _ _ := True
  mayFail _ := True

abbrev SignalHandler := NotedCall SignalingCommand AckError Unit SignalCall (List SignalEmission)

abbrev SignalPool := NotedPool SignalingCommand AckError Unit SignalingState SignalCall (List SignalEmission)

/-- What the next command of a handler emits. -/
def nextEmissions : SignalingProgram Unit → List SignalEmission
  | .command c _ => c.emissions
  | .done _ => []

/-- What an event of the handlers emits, with the place of the handler. -/
def SignalPool.emittedBy (pool : SignalPool) : PoolEvent SignalCall AckError → List (Nat × SignalEmission)
  | .advance i => (pool.calls[i]?.toList.flatMap fun x => nextEmissions x.rest).map fun e => (i, e)
  | _ => []

/-- How a signal of a tab comes in, unless its socket is not connected. -/
structure Uplink where
  ip : String := ""
  issues : String := ""
  notificationId : String := ""
  occurredAt : String := ""

/-- A tab with its socket: what the socket is authenticated as, and the user whose room it has joined.
It has processed, of the emissions before the cursor, those that it received. -/
structure CallPeer where
  tab : CallTab := {}
  hasPeerConnection : Bool := true
  auth : SocketAuthResult
  userId : String
  socketId : String
  cursor : Nat := 0
  received : List (Nat × SignalEmission) := []

namespace CallPeer

variable (p : CallPeer)

def room : String := "user:" ++ p.userId

/-- The signal that the service takes up. -/
def requests (out : Option OutgoingSignal) (uplink : Option Uplink) : List SignalCall :=
  match out, uplink with
  | some o, some u => [{
      event := o.event
      request := {
        auth := p.auth
        ip := u.ip
        socketId := p.socketId
        raw := o.payload
        issues := u.issues
        notificationId := u.notificationId
        occurredAt := u.occurredAt } }]
  | _, _ => []

/-- The tab processes the emission at its cursor, if it is for its room. -/
def receive (entry : Nat × SignalEmission) : CallPeer :=
  if entry.2.room = p.room then
    { p with
      tab := (SignalEvent.ofName entry.2.event).elim p.tab fun event => p.tab.onWebRtcInbound event entry.2.payload
      cursor := p.cursor + 1
      received := p.received ++ [entry] }
  else { p with cursor := p.cursor + 1 }

end CallPeer

structure CallSystem where
  pool : SignalPool
  /-- The emissions, oldest first. -/
  wire : List (Nat × SignalEmission) := []
  peers : List CallPeer := []

inductive CallEvent where
  /-- A client of another kind signals, or a handler moves. -/
  | handlers (event : PoolEvent SignalCall AckError)
  /-- Other parties change the stores. -/
  | world (store : SignalingState)
  | tab (peer : Nat) (event : CallTabEvent) (uplink : Option Uplink)
  | receive (peer : Nat)
  | miss (peer : Nat)
  | reconnect (peer : Nat) (socketId : String) (auth : SocketAuthResult)

/-- The handlers of signals, taken up. -/
def takenUp (env : SignalingEnv) (calls : List SignalCall) : List SignalHandler :=
  calls.map fun call => ⟨call, [], (signalCalls env).program call⟩

inductive CallStep (env : SignalingEnv) : CallSystem → CallEvent → CallSystem → Prop where
  | handlers (s : CallSystem) (event : PoolEvent SignalCall AckError) (pool : SignalPool)
      (taken : (signalCalls env).Step s.pool event pool) :
      CallStep env s (.handlers event) ⟨pool, s.wire ++ s.pool.emittedBy event, s.peers⟩
  | world (s : CallSystem) (store : SignalingState) :
      CallStep env s (.world store) { s with pool := ⟨store, s.pool.calls⟩ }
  | tab (s : CallSystem) (i : Nat) (p : CallPeer) (event : CallTabEvent) (uplink : Option Uplink) (tab : CallTab)
      (out : Option OutgoingSignal) (open' : s.peers[i]? = some p)
      (performed : p.tab.perform p.hasPeerConnection event = some (tab, out)) :
      CallStep env s (.tab i event uplink)
        { s with
          pool := ⟨s.pool.store, s.pool.calls ++ takenUp env (p.requests out uplink)⟩
          peers := s.peers.set i { p with tab := tab } }
  | receive (s : CallSystem) (i : Nat) (p : CallPeer) (entry : Nat × SignalEmission)
      (open' : s.peers[i]? = some p) (sent : s.wire[p.cursor]? = some entry) :
      CallStep env s (.receive i) { s with peers := s.peers.set i (p.receive entry) }
  | miss (s : CallSystem) (i : Nat) (p : CallPeer) (open' : s.peers[i]? = some p) (sent : p.cursor < s.wire.length) :
      CallStep env s (.miss i) { s with peers := s.peers.set i { p with cursor := p.cursor + 1 } }
  | reconnect (s : CallSystem) (i : Nat) (p : CallPeer) (socketId : String) (auth : SocketAuthResult)
      (open' : s.peers[i]? = some p) :
      CallStep env s (.reconnect i socketId auth)
        { s with peers := s.peers.set i { p with socketId := socketId, auth := auth } }

/-- Runs of fresh tabs from any store. -/
def callMachine (env : SignalingEnv) : Machine CallSystem CallEvent where
  init s := s.pool.calls = [] ∧ s.wire = [] ∧ ∀ p ∈ s.peers, p.tab = {} ∧ p.received = []
  step := CallStep env

abbrev CallTransition := Transition CallSystem CallEvent

/-- The step of an event, when it is enabled and no command fails. -/
def CallSystem.next (env : SignalingEnv) (s : CallSystem) : CallEvent → Option CallSystem
  | .handlers event => ((signalCalls env).next (fun _ _ => true) s.pool event).map fun pool =>
      ⟨pool, s.wire ++ s.pool.emittedBy event, s.peers⟩
  | .world store => some { s with pool := ⟨store, s.pool.calls⟩ }
  | .tab i event uplink => s.peers[i]?.bind fun p =>
      (p.tab.perform p.hasPeerConnection event).map fun done =>
        { s with
          pool := ⟨s.pool.store, s.pool.calls ++ takenUp env (p.requests done.2 uplink)⟩
          peers := s.peers.set i { p with tab := done.1 } }
  | .receive i => s.peers[i]?.bind fun p => s.wire[p.cursor]?.map fun entry =>
      { s with peers := s.peers.set i (p.receive entry) }
  | .miss i => s.peers[i]?.bind fun p =>
      if p.cursor < s.wire.length then some { s with peers := s.peers.set i { p with cursor := p.cursor + 1 } }
      else none
  | .reconnect i socketId auth => s.peers[i]?.map fun p =>
      { s with peers := s.peers.set i { p with socketId := socketId, auth := auth } }

theorem CallSystem.next_step {env : SignalingEnv} (s : CallSystem) (event : CallEvent) (t : CallSystem)
    (stepped : s.next env event = some t) : (callMachine env).step s event t := by
  cases event with
  | handlers event =>
    obtain ⟨pool, moved, rfl⟩ := Option.map_eq_some_iff.mp stepped
    have taken := @NotedCalls.next_step _ _ _ _ _ _ (signalCalls env) (fun _ => True) (fun _ _ => true)
      (fun _ _ _ => trivial) s.pool event pool moved
    exact .handlers s event pool taken
  | world store =>
    cases stepped
    exact .world s store
  | tab i event uplink =>
    obtain ⟨p, found, stepped⟩ := Option.bind_eq_some_iff.mp stepped
    obtain ⟨done, performed, rfl⟩ := Option.map_eq_some_iff.mp stepped
    exact .tab s i p event uplink done.1 done.2 found performed
  | receive i =>
    obtain ⟨p, found, stepped⟩ := Option.bind_eq_some_iff.mp stepped
    obtain ⟨entry, sent, rfl⟩ := Option.map_eq_some_iff.mp stepped
    exact .receive s i p entry found sent
  | miss i =>
    obtain ⟨p, found, stepped⟩ := Option.bind_eq_some_iff.mp stepped
    split at stepped
    · rename_i sent
      cases stepped
      exact .miss s i p found sent
    · cases stepped
  | reconnect i socketId auth =>
    obtain ⟨p, found, rfl⟩ := Option.map_eq_some_iff.mp stepped
    exact .reconnect s i p socketId auth found

end MessagingSystem.Protocol
