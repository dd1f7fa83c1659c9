import MessagingSystem.Guarantees.RequestsAccounted

/-!
# The connection that the tab shows

The provider shows what the worker has told it last. With the messages that are still on
their way, that is the connected state exactly while the client of the worker is
connected, and then only does a heartbeat run. Its interval is that of the mode asked for
last, a disconnect of the page asking for the default one.
-/
namespace MessagingSystem.Guarantees.ConnectionBadge
open Foundation Source.Client Protocol RequestsAccounted

/-- The status after some messages of the worker. -/
def statusAfter (status : PresenceConnectionStatus) (messages : List WorkerToMainMessage) : PresenceConnectionStatus :=
  messages.foldl (fun status msg => msg.status.getD status) status

/-- The badge says that the chat is connected. -/
def shown (status : PresenceConnectionStatus) : Prop := mapPresenceToSocketLifecycle status = .connected

/-- What the worker posts in a step keeps the badge true. -/
def Told (w w' : SocketWorker) : Prop :=
  ∃ new, w'.posted = w.posted ++ new ∧ ∀ status, (shown status ↔ w.isConnected = true) →
    (shown (statusAfter status new) ↔ w'.isConnected = true)

section Posts

variable {w w' : SocketWorker}

/-- Messages that carry no status leave the badge as it is. -/
theorem statusAfter_silent {messages : List WorkerToMainMessage} (silent : ∀ msg ∈ messages, msg.status = none)
    (status : PresenceConnectionStatus) : statusAfter status messages = status := by
  induction messages with
  | nil => rfl
  | cons msg rest ih =>
    have here : msg.status.getD status = status := by rw [silent msg List.mem_cons_self, Option.getD_none]
    unfold statusAfter at ih ⊢
    rw [List.foldl_cons, here]
    exact ih fun other member => silent other (List.mem_cons_of_mem _ member)

theorem Told.of_silent {new : List WorkerToMainMessage} (posted : w'.posted = w.posted ++ new)
    (silent : ∀ msg ∈ new, msg.status = none) (connected : w'.isConnected = w.isConnected) : Told w w' := by
  refine ⟨new, posted, fun status before => ?_⟩
  rw [statusAfter_silent silent, connected]
  exact before

/-- The last message decides. -/
theorem Told.of_last {new : List WorkerToMainMessage} {msg : WorkerToMainMessage} {told : PresenceConnectionStatus}
    (posted : w'.posted = w.posted ++ (new ++ [msg])) (carries : msg.status = some told)
    (true' : shown told ↔ w'.isConnected = true) : Told w w' := by
  refine ⟨new ++ [msg], posted, fun status _ => ?_⟩
  unfold statusAfter
  rw [List.foldl_append, List.foldl_cons, List.foldl_nil, carries]
  exact true'

/-- The last message says that the client is not connected, which it is not. -/
theorem Told.of_down {new : List WorkerToMainMessage} {msg : WorkerToMainMessage}
    (posted : w'.posted = w.posted ++ (new ++ [msg]))
    (carries : ∃ told, msg.status = some told ∧ mapPresenceToSocketLifecycle told ≠ .connected)
    (down : w'.isConnected = false) : Told w w' := by
  obtain ⟨told, carried, hidden⟩ := carries
  refine Told.of_last posted carried ⟨fun shows => absurd shows hidden, fun connected => ?_⟩
  exact absurd (down.symm.trans connected) (by decide)

theorem told_same (posted : w'.posted = w.posted) (connected : w'.isConnected = w.isConnected) : Told w w' :=
  Told.of_silent (posted.trans (List.append_nil _).symm) (fun _ member => nomatch member) connected

theorem told_emit (request : RequestRef) (event : String) (payload : Json) : Told w (w.emit request event payload) := by
  unfold SocketWorker.emit
  split <;> exact told_same rfl rfl

theorem told_refuse (request : RequestRef) (message : String) : Told w (w.refuse request message) := by
  refine Told.of_silent rfl ?_ rfl
  intro msg member
  rw [List.mem_singleton.mp member]
  rfl

theorem told_emitOrRefuse (request : RequestRef) (event : String) (payload : Json) :
    Told w (w.emitOrRefuse request event payload) := by
  unfold SocketWorker.emitOrRefuse
  split
  · exact told_emit request event payload
  · exact told_refuse request _

theorem told_connectSocket (url userId : String) (accessToken : Option String) :
    Told w (w.connectSocket url userId accessToken) := by
  rw [connectSocket_eq]
  exact Told.of_down (List.append_assoc _ _ _) ⟨.connecting, rfl, by decide⟩ rfl

theorem told_disconnect : Told w (w.onMessage .disconnect) := by
  obtain ⟨timers, -, step⟩ := clearQueueLoop_eq "Socket not connected"
    { w with socketConnectGeneration := w.socketConnectGeneration + 1 } w.pendingMessageSendQueue
  have posted : (w.onMessage .disconnect).posted = w.posted ++ ((w.pendingMessageSendQueue.map fun item =>
      .ack (.messageSend, item.requestId) (some (SocketWorker.unavailable "Socket not connected"))) ++
        [.disconnected "client"]) := by
    simp only [SocketWorker.onMessage, SocketWorker.post, SocketWorker.clearHeartbeat,
      SocketWorker.clearPendingMessageSendQueue, step, List.append_assoc]
  exact Told.of_down posted ⟨.disconnected "client", rfl, by decide⟩ rfl

theorem told_onMessage (message : MainToWorkerMessage) : Told w (w.onMessage message) := by
  cases message with
  | connect url userId accessToken => exact told_connectSocket url userId accessToken
  | messageSend requestId payload =>
    change Told w (w.tryMessageSendOrQueue requestId payload)
    unfold SocketWorker.tryMessageSendOrQueue
    split
    · exact told_emit _ _ payload
    · exact told_same rfl rfl
  | receiptEmit requestId event payload => exact told_emitOrRefuse _ event payload
  | webrtcEmit requestId event payload => exact told_emitOrRefuse _ event.name payload
  | presenceGetLastSeen requestId targetUserId => exact told_emitOrRefuse _ _ _
  | presenceHeartbeatMode mode =>
    change Told w (w.applyHeartbeatMode mode)
    rw [applyHeartbeatMode_eq]
    exact told_same rfl rfl
  | disconnect => exact told_disconnect

theorem told_timeout (timeoutId : Nat) (requestId : String) : Told w (w.timeout timeoutId requestId) := by
  unfold SocketWorker.timeout SocketWorker.sendTimedOut
  split
  · exact told_same rfl rfl
  · exact told_refuse (.messageSend, requestId) "Timed out waiting for chat connection"

theorem told_heartbeatTick : Told w w.heartbeatTick := by
  unfold SocketWorker.heartbeatTick
  split
  · split <;> exact told_same rfl rfl
  · exact told_same rfl rfl

theorem told_acked (i : Nat) (ack : Option Json) : Told w (w.acked i ack) := by
  unfold SocketWorker.acked
  split
  · exact told_same rfl rfl
  · refine Told.of_silent rfl ?_ rfl
    intro msg member
    rw [List.mem_singleton.mp member]
    rfl

/-- The events that say nothing of the connection. -/
theorem status_relayed {event : ClientEvent} {msg : WorkerToMainMessage}
    (posted : SocketWorker.relayed event = some msg) (attempt : event ≠ .reconnectAttempt)
    (connect : ∀ socketId, event ≠ .connect socketId) (disconnect : ∀ reason, event ≠ .disconnect reason)
    (failed : ∀ message, event ≠ .connectError message) : msg.status = none := by
  cases event with
  | reconnectAttempt => exact absurd rfl attempt
  | connect socketId => exact absurd rfl (connect socketId)
  | disconnect reason => exact absurd rfl (disconnect reason)
  | connectError message => exact absurd rfl (failed message)
  | notification raw =>
    obtain ⟨payload, -, rfl⟩ := Option.map_eq_some_iff.mp posted
    rfl
  | deviceSyncRequested raw =>
    obtain ⟨payload, -, rfl⟩ := Option.map_eq_some_iff.mp posted
    rfl
  | deviceSyncComplete raw =>
    obtain ⟨target, -, rfl⟩ := Option.map_eq_some_iff.mp posted
    rfl
  | _ =>
    cases posted
    rfl

theorem told_relayed {event : ClientEvent} (attempt : event ≠ .reconnectAttempt)
    (connect : ∀ socketId, event ≠ .connect socketId) (disconnect : ∀ reason, event ≠ .disconnect reason)
    (failed : ∀ message, event ≠ .connectError message) : Told w (w.handled event) := by
  rw [handled_relays connect disconnect]
  cases posted : SocketWorker.relayed event with
  | none => exact told_same rfl rfl
  | some msg =>
    refine Told.of_silent rfl ?_ rfl
    intro other member
    rw [List.mem_singleton.mp member]
    exact status_relayed posted attempt connect disconnect failed

/-- The client connects: the worker says so before it flushes the queue. -/
theorem told_connected {client : SocketClient} (held : w.socket = some client) (socketId : Option String) :
    Told w ((w.withConnected true).handled (.connect socketId)) := by
  have live := isConnected_withConnected held true
  obtain ⟨current, socket, connected⟩ := socket_of_connected live
  obtain ⟨timers, -, step⟩ := flushLoop_eq connected w.pendingMessageSendQueue
    (((w.withConnected true).post (.connected socketId)).startHeartbeat) socket rfl
  have flushed : (w.withConnected true).handled (.connect socketId) = SocketWorker.flushLoop
      (((w.withConnected true).post (.connected socketId)).startHeartbeat) w.pendingMessageSendQueue := rfl
  rw [flushed, step]
  exact Told.of_last (congrArg (w.posted ++ ·) (List.nil_append _).symm) rfl ⟨fun _ => live, fun _ => rfl⟩

theorem told_clientFires {generation : Nat} {event : ClientEvent}
    (kept : ∀ client ∈ w.socket, client.generation = w.socketConnectGeneration)
    (fires : clientFires w generation event = some w') : Told w w' := by
  rcases clientFires_cases kept fires with rfl | ⟨client, held, rfl, happened⟩
  · exact told_same rfl rfl
  · cases event with
    | connect socketId =>
      have current : w.socketConnectGeneration = (w.withConnected true).socketConnectGeneration := rfl
      rw [happened.2, onClient_current current]
      exact told_connected held socketId
    | disconnect reason =>
      have off := isConnected_withConnected held false
      have current : w.socketConnectGeneration = (w.withConnected false).socketConnectGeneration := rfl
      rw [happened.2, onClient_current current]
      exact Told.of_down (congrArg (w.posted ++ ·) (List.nil_append _).symm)
        ⟨.disconnected reason, rfl, by simp [mapPresenceToSocketLifecycle]⟩ off
    | reconnectAttempt =>
      rw [happened.2, onClient_current rfl]
      exact Told.of_down (congrArg (w.posted ++ ·) (List.nil_append _).symm) ⟨.connecting, rfl, by decide⟩ happened.1
    | connectError message =>
      rw [happened.2, onClient_current rfl]
      exact Told.of_down (congrArg (w.posted ++ ·) (List.nil_append _).symm)
        ⟨.error message, rfl, by simp [mapPresenceToSocketLifecycle]⟩ happened.1
    | _ =>
      rw [happened, onClient_current rfl]
      exact told_relayed (by simp) (by simp) (by simp) (by simp)

end Posts

/-- The badge, once the messages on their way have arrived, is true. -/
def BadgeTrue (s : SocketTab) : Prop :=
  s.bridge.terminated = false → (shown (statusAfter s.bridge.status s.worker.posted) ↔ s.worker.isConnected = true)

theorem BadgeTrue.told {s : SocketTab} (badge : BadgeTrue s) {w : SocketWorker} (told : Told s.worker w)
    (inbox : List MainToWorkerMessage) : BadgeTrue { s with inbox := inbox, worker := w } := by
  intro running
  obtain ⟨new, posted, keeps⟩ := told
  have before := badge running
  dsimp only
  rw [posted, statusAfter, List.foldl_append]
  exact keeps _ before

theorem badgeTrue_step {s t : SocketTab} {event : SocketTabEvent} (inv : Accounted s) (badge : BadgeTrue s)
    (stepped : socketTabMachine.step s event t) : BadgeTrue t := by
  have taken := SocketTab.next_cases stepped
  cases event with
  | call message =>
    obtain ⟨-, ⟨-, rfl⟩ | ⟨_, -, -, rfl⟩⟩ := taken <;> exact badge
  | terminate =>
    obtain ⟨-, rfl⟩ := taken
    exact fun running => nomatch running
  | workerReceives =>
    obtain ⟨-, message, rest, -, rfl⟩ := taken
    exact badge.told (told_onMessage message) rest
  | mainReceives =>
    obtain ⟨msg, rest, posted, rfl⟩ := taken
    intro running
    have status : (s.bridge.onmessage msg).status = msg.status.getD s.bridge.status := by
      cases msg with
      | ack request ack =>
        unfold SocketBridge.onmessage
        dsimp only
        split <;> rfl
      | _ => rfl
    have still : s.bridge.terminated = false := by
      cases msg with
      | ack request ack =>
        unfold SocketBridge.onmessage at running
        dsimp only at running
        split at running <;> exact running
      | _ => exact running
    have before := badge still
    rw [posted] at before
    dsimp only
    rw [status]
    exact before
  | timeout timeoutId =>
    obtain ⟨-, requestId, -, rfl⟩ := taken
    exact badge.told (told_timeout timeoutId requestId) s.inbox
  | heartbeat =>
    obtain ⟨-, -, rfl⟩ := taken
    exact badge.told told_heartbeatTick s.inbox
  | client generation event =>
    obtain ⟨-, w, fires, rfl⟩ := taken
    exact badge.told (told_clientFires inv.kept.generation fires) s.inbox
  | acked i ack =>
    obtain ⟨-, rfl⟩ := taken
    exact badge.told (told_acked i ack) s.inbox

section Mode

variable {w w' : SocketWorker}

/-- The mode that the worker has been asked for, after one more step. -/
def modeAfter (mode : HeartbeatMode) (t : Transition SocketTab SocketTabEvent) : HeartbeatMode :=
  match t.label, t.source.inbox with
  | .workerReceives, .presenceHeartbeatMode asked :: _ => asked
  | .workerReceives, .disconnect :: _ => .default
  | _, _ => mode

/-- The mode asked for last, of those that have reached the worker since the page disconnected it. -/
def modeAsked (history : List (Transition SocketTab SocketTabEvent)) : HeartbeatMode := history.foldl modeAfter .default

theorem interval_emit (request : RequestRef) (event : String) (payload : Json) :
    (w.emit request event payload).heartbeatIntervalMs = w.heartbeatIntervalMs := by
  unfold SocketWorker.emit
  split <;> rfl

theorem interval_emitOrRefuse (request : RequestRef) (event : String) (payload : Json) :
    (w.emitOrRefuse request event payload).heartbeatIntervalMs = w.heartbeatIntervalMs := by
  unfold SocketWorker.emitOrRefuse
  split
  · exact interval_emit request event payload
  · rfl

/-- Two messages alone set the interval. -/
theorem interval_onMessage (message : MainToWorkerMessage) :
    (w.onMessage message).heartbeatIntervalMs = match message with
      | .presenceHeartbeatMode mode => mode.intervalMs
      | .disconnect => HeartbeatMode.default.intervalMs
      | _ => w.heartbeatIntervalMs := by
  cases message with
  | connect url userId accessToken =>
    change (w.connectSocket url userId accessToken).heartbeatIntervalMs = _
    rw [connectSocket_eq]
  | messageSend requestId payload =>
    change (w.tryMessageSendOrQueue requestId payload).heartbeatIntervalMs = _
    unfold SocketWorker.tryMessageSendOrQueue
    split
    · exact interval_emit _ _ payload
    · rfl
  | receiptEmit requestId event payload => exact interval_emitOrRefuse _ event payload
  | webrtcEmit requestId event payload => exact interval_emitOrRefuse _ event.name payload
  | presenceGetLastSeen requestId targetUserId => exact interval_emitOrRefuse _ _ _
  | presenceHeartbeatMode mode =>
    change (w.applyHeartbeatMode mode).heartbeatIntervalMs = _
    rw [applyHeartbeatMode_eq]
  | disconnect => rfl

theorem interval_timeout (timeoutId : Nat) (requestId : String) :
    (w.timeout timeoutId requestId).heartbeatIntervalMs = w.heartbeatIntervalMs := by
  unfold SocketWorker.timeout SocketWorker.sendTimedOut
  split <;> rfl

theorem interval_heartbeatTick : w.heartbeatTick.heartbeatIntervalMs = w.heartbeatIntervalMs := by
  unfold SocketWorker.heartbeatTick
  split
  · split <;> rfl
  · rfl

theorem interval_acked (i : Nat) (ack : Option Json) : (w.acked i ack).heartbeatIntervalMs = w.heartbeatIntervalMs := by
  unfold SocketWorker.acked
  split <;> rfl

theorem interval_flushLoop (items : List PendingSend) (w : SocketWorker) :
    (SocketWorker.flushLoop w items).heartbeatIntervalMs = w.heartbeatIntervalMs := by
  induction items generalizing w with
  | nil => rfl
  | cons item rest ih =>
    rw [SocketWorker.flushLoop]
    split
    · rw [ih]
      exact interval_emit _ _ item.payload
    · rfl

theorem interval_onClient (generation : Nat) (event : ClientEvent) :
    (w.onClient generation event).heartbeatIntervalMs = w.heartbeatIntervalMs := by
  unfold SocketWorker.onClient
  split
  · rfl
  · cases event with
    | connect socketId => exact interval_flushLoop _ _
    | disconnect reason => rfl
    | _ =>
      rw [handled_relays (by simp) (by simp)]
      cases SocketWorker.relayed _ <;> rfl

theorem interval_clientFires {generation : Nat} {event : ClientEvent} (fires : clientFires w generation event = some w') :
    w'.heartbeatIntervalMs = w.heartbeatIntervalMs := by
  unfold clientFires at fires
  split at fires
  · cases fires
    exact interval_onClient generation event
  · split at fires
    · cases event <;> dsimp only at fires <;> (try split at fires) <;> cases fires <;> exact interval_onClient _ _
    · cases fires

/-- A step leaves the interval at that of the mode asked for. -/
theorem interval_step {s t : SocketTab} {event : SocketTabEvent} {mode : HeartbeatMode}
    (asked : s.worker.heartbeatIntervalMs = mode.intervalMs) (stepped : socketTabMachine.step s event t) :
    t.worker.heartbeatIntervalMs = (modeAfter mode ⟨s, event, t⟩).intervalMs := by
  have taken := SocketTab.next_cases stepped
  cases event with
  | call message =>
    obtain ⟨-, ⟨-, rfl⟩ | ⟨_, -, -, rfl⟩⟩ := taken <;> exact asked
  | terminate =>
    obtain ⟨-, rfl⟩ := taken
    exact asked
  | workerReceives =>
    obtain ⟨-, message, rest, inbox, rfl⟩ := taken
    have set := interval_onMessage (w := s.worker) message
    dsimp only [modeAfter]
    rw [inbox, set]
    cases message <;> first | exact asked | rfl
  | mainReceives =>
    obtain ⟨msg, rest, -, rfl⟩ := taken
    exact asked
  | timeout timeoutId =>
    obtain ⟨-, requestId, -, rfl⟩ := taken
    exact (interval_timeout timeoutId requestId).trans asked
  | heartbeat =>
    obtain ⟨-, -, rfl⟩ := taken
    exact interval_heartbeatTick.trans asked
  | client generation event =>
    obtain ⟨-, w, fires, rfl⟩ := taken
    exact (interval_clientFires fires).trans asked
  | acked i ack =>
    obtain ⟨-, rfl⟩ := taken
    exact (interval_acked i ack).trans asked

/-- The interval along a run. -/
theorem interval_run {start s : SocketTab} {history : List (Transition SocketTab SocketTabEvent)}
    (init : socketTabMachine.init start) (run : socketTabMachine.Run start history s) :
    s.worker.heartbeatIntervalMs = (modeAsked history).intervalMs := by
  induction run with
  | nil =>
    obtain ⟨url, userId, accessToken, rfl⟩ := init
    rfl
  | snoc earlier last ih =>
    unfold modeAsked at ih ⊢
    rw [List.foldl_append]
    exact interval_step ih last

end Mode

/-- After every run of a tab that runs its bridge, the badge that is shown when the messages on their way have arrived
says connected exactly while the client is, and the heartbeat runs exactly then, at the interval of the mode asked for
last. Each of its ticks is emitted on that client. -/
theorem badge_connected_iff {start s : SocketTab} {history : List (Transition SocketTab SocketTabEvent)}
    (init : socketTabMachine.init start) (run : socketTabMachine.Run start history s)
    (running : s.bridge.terminated = false) :
    (mapPresenceToSocketLifecycle (statusAfter s.bridge.status s.worker.posted) = .connected ↔
      s.worker.isConnected = true) ∧
    s.worker.heartbeatTimer = (if s.worker.isConnected then some (modeAsked history).intervalMs else none) ∧
    ∀ t, socketTabMachine.step s .heartbeat t → ∃ client, s.worker.socket = some client ∧ client.connected = true ∧
      t.worker.heartbeats = s.worker.heartbeats ++ [client.generation] := by
  have both : Accounted s ∧ BadgeTrue s := by
    have begins : Accounted start ∧ BadgeTrue start := by
      refine ⟨Accounted.initial init, fun _ => ?_⟩
      obtain ⟨url, userId, accessToken, rfl⟩ := init
      exact ⟨(fun shows => nomatch shows), (fun connected => nomatch connected)⟩
    exact run.invariant (I := fun s => Accounted s ∧ BadgeTrue s)
      (fun _ _ _ inv stepped => ⟨inv.1.step stepped, badgeTrue_step inv.1 inv.2 stepped⟩) begins
  have timer := both.1.kept.heartbeat
  refine ⟨both.2 running, ?_, fun t ticks => ?_⟩
  · rw [timer, interval_run init run]
  · obtain ⟨-, runs, rfl⟩ := SocketTab.next_cases ticks
    have live : s.worker.isConnected = true := by
      by_contra down
      rw [timer, if_neg down] at runs
      cases runs
    obtain ⟨client, held, connected⟩ := socket_of_connected live
    refine ⟨client, held, connected, ?_⟩
    unfold SocketWorker.heartbeatTick
    dsimp only
    rw [held]
    dsimp only
    rw [if_pos connected]

/-- A thread is opened, the page disconnects the worker and connects it again: the heartbeat is back at the default
interval, and ticks. -/
def reopened : List SocketTabEvent :=
  [.workerReceives, .client 1 (.connect none), .call (.presenceHeartbeatMode .activeThread), .workerReceives,
    .call .disconnect, .workerReceives, .call (.connect "http://localhost" "ana" none), .workerReceives,
    .client 3 (.connect none)]

theorem badge_connected_iff_reopened : ∃ history s t, socketTabMachine.Run opened history s ∧ history.length = 9 ∧
    s.worker.isConnected = true ∧
    mapPresenceToSocketLifecycle (statusAfter s.bridge.status s.worker.posted) = .connected ∧
    s.worker.heartbeatTimer = some 5000 ∧ socketTabMachine.step s .heartbeat t ∧ t.worker.heartbeats = [3] := by
  have checked : (Machine.trace SocketTab.next opened reopened).any (fun executed => executed.1.length = 9 ∧
      executed.2.worker.isConnected = true ∧ executed.2.bridge.terminated = false ∧
        modeAsked executed.1 = .default ∧ executed.2.worker.heartbeats = [] ∧
          executed.2.worker.socket.map SocketClient.generation = some 3) = true := by decide
  obtain ⟨⟨history, s⟩, executed, holds⟩ := (Option.any_eq_true _ _).mp checked
  obtain ⟨nine, connected, running, mode, silent, third⟩ := of_decide_eq_true holds
  have run := Machine.trace_run (M := socketTabMachine) _ (fun _ _ _ stepped => stepped) executed
  obtain ⟨badge, timer, ticks⟩ := badge_connected_iff ⟨_, _, _, rfl⟩ run running
  dsimp only at connected mode silent third running
  rw [if_pos connected, mode] at timer
  have stepped : socketTabMachine.step s .heartbeat { s with worker := s.worker.heartbeatTick } := by
    change (if s.bridge.terminated then none else s.worker.heartbeatTimer.map fun _ =>
      { s with worker := s.worker.heartbeatTick }) = _
    rw [if_neg (Bool.eq_false_iff.mp running), timer]
    rfl
  obtain ⟨client, held, -, emitted⟩ := ticks _ stepped
  rw [held] at third
  rw [silent, Option.some.inj third] at emitted
  exact ⟨history, s, _, run, nine, connected, badge.mpr connected, timer, stepped, emitted⟩

end MessagingSystem.Guarantees.ConnectionBadge
