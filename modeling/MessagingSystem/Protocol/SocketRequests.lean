import MessagingSystem.Foundation.Transition
import MessagingSystem.Source.Client.SocketBridge

/-!
# The requests of a tab to the service

One bridge with its worker: messages between the two go through queues, timers run out,
the heartbeat ticks and clients connect, drop and are replaced at any time, and the service acknowledges
any emission, or never does. Every request of a run stands at one place of these.
-/
namespace MessagingSystem.Protocol
open Foundation Source.Client

/-- `inbox` are the messages on their way to the worker; those on their way back are what it has `posted`. -/
structure SocketTab where
  bridge : SocketBridge := {}
  worker : SocketWorker := {}
  inbox : List MainToWorkerMessage := []
  made : List RequestRef := []

inductive SocketTabEvent where
  | call (message : MainToWorkerMessage)
  | terminate
  | workerReceives
  | mainReceives
  | timeout (timeoutId : Nat)
  | heartbeat
  | client (generation : Nat) (event : ClientEvent)
  | acked (i : Nat) (ack : Option Json)

/-- What happens on a client: the current one connects or drops first, a replaced one calls its handlers at will. -/
def clientFires (w : SocketWorker) (generation : Nat) (event : ClientEvent) : Option SocketWorker :=
  if generation < w.socketConnectGeneration then some (w.onClient generation event)
  else if w.socket.any fun client => client.generation = generation then
    match event with
    | .connect _ => if w.isConnected then none else some ((w.withConnected true).onClient generation event)
    | .disconnect _ => if w.isConnected then some ((w.withConnected false).onClient generation event) else none
    | .reconnectAttempt => if w.isConnected then none else some (w.onClient generation event)
    | .connectError _ => if w.isConnected then none else some (w.onClient generation event)
    | _ => some (w.onClient generation event)
  else none

namespace SocketTab

variable (s : SocketTab)

/-- The step of an event, when it is enabled. A request draws an id that no request of the bridge has had. -/
def next : SocketTabEvent → Option SocketTab
  | .call message =>
      if s.bridge.terminated then none
      else
        match message.request with
        | none => some { s with inbox := s.inbox ++ [message] }
        | some request =>
            if request.2 ∈ s.made.map Prod.snd then none
            else some { s with
              inbox := s.inbox ++ [message]
              made := s.made ++ [request]
              bridge := { s.bridge with pending := s.bridge.pending ++ [request] } }
  | .terminate => if s.bridge.terminated then none else some { s with bridge := s.bridge.terminate }
  | .workerReceives =>
      match s.inbox with
      | [] => none
      | message :: rest =>
          if s.bridge.terminated then none else some { s with inbox := rest, worker := s.worker.onMessage message }
  | .mainReceives =>
      match s.worker.posted with
      | [] => none
      | msg :: rest =>
          some { s with worker := { s.worker with posted := rest }, bridge := s.bridge.onmessage msg }
  | .timeout timeoutId =>
      if s.bridge.terminated then none
      else (s.worker.timers.find? fun timer => timer.1 = timeoutId).map fun timer =>
        { s with worker := s.worker.timeout timeoutId timer.2 }
  | .heartbeat =>
      if s.bridge.terminated then none
      else s.worker.heartbeatTimer.map fun _ => { s with worker := s.worker.heartbeatTick }
  | .client generation event =>
      if s.bridge.terminated then none
      else (clientFires s.worker generation event).map fun worker => { s with worker := worker }
  | .acked i ack => if s.bridge.terminated then none else some { s with worker := s.worker.acked i ack }

/-- What a step does, with what it needs. -/
theorem next_cases {s t : SocketTab} {event : SocketTabEvent} (stepped : s.next event = some t) :
    match event with
    | .call message => s.bridge.terminated = false ∧
        (message.request = none ∧ t = { s with inbox := s.inbox ++ [message] } ∨
          ∃ request, message.request = some request ∧ request.2 ∉ s.made.map Prod.snd ∧ t = { s with
            inbox := s.inbox ++ [message]
            made := s.made ++ [request]
            bridge := { s.bridge with pending := s.bridge.pending ++ [request] } })
    | .terminate => s.bridge.terminated = false ∧ t = { s with bridge := s.bridge.terminate }
    | .workerReceives => s.bridge.terminated = false ∧ ∃ message rest, s.inbox = message :: rest ∧
        t = { s with inbox := rest, worker := s.worker.onMessage message }
    | .mainReceives => ∃ msg rest, s.worker.posted = msg :: rest ∧
        t = { s with worker := { s.worker with posted := rest }, bridge := s.bridge.onmessage msg }
    | .timeout timeoutId => s.bridge.terminated = false ∧ ∃ requestId, (timeoutId, requestId) ∈ s.worker.timers ∧
        t = { s with worker := s.worker.timeout timeoutId requestId }
    | .heartbeat => s.bridge.terminated = false ∧ s.worker.heartbeatTimer.isSome = true ∧
        t = { s with worker := s.worker.heartbeatTick }
    | .client generation event => s.bridge.terminated = false ∧ ∃ worker,
        clientFires s.worker generation event = some worker ∧ t = { s with worker := worker }
    | .acked i ack => s.bridge.terminated = false ∧ t = { s with worker := s.worker.acked i ack } := by
  cases event with
  | call message =>
    dsimp only [next] at stepped ⊢
    split at stepped
    · cases stepped
    · rename_i running
      refine ⟨Bool.eq_false_iff.mpr running, ?_⟩
      split at stepped
      · rename_i silent
        cases stepped
        exact .inl ⟨silent, rfl⟩
      · rename_i request makes
        split at stepped
        · cases stepped
        · rename_i fresh
          cases stepped
          exact .inr ⟨request, makes, fresh, rfl⟩
  | workerReceives =>
    dsimp only [next] at stepped ⊢
    split at stepped
    · cases stepped
    · rename_i message rest inbox
      split at stepped
      · cases stepped
      · rename_i running
        cases stepped
        exact ⟨Bool.eq_false_iff.mpr running, message, rest, inbox, rfl⟩
  | mainReceives =>
    dsimp only [next] at stepped ⊢
    split at stepped
    · cases stepped
    · rename_i msg rest posted
      cases stepped
      exact ⟨msg, rest, posted, rfl⟩
  | timeout timeoutId =>
    dsimp only [next] at stepped ⊢
    split at stepped
    · cases stepped
    · rename_i running
      obtain ⟨timer, found, rfl⟩ := Option.map_eq_some_iff.mp stepped
      have named : timer.1 = timeoutId := by simpa using List.find?_some found
      subst named
      exact ⟨Bool.eq_false_iff.mpr running, timer.2, List.mem_of_find?_eq_some found, rfl⟩
  | heartbeat =>
    dsimp only [next] at stepped ⊢
    split at stepped
    · cases stepped
    · rename_i running
      obtain ⟨interval, runs, rfl⟩ := Option.map_eq_some_iff.mp stepped
      exact ⟨Bool.eq_false_iff.mpr running, by rw [runs]; rfl, rfl⟩
  | client generation event =>
    dsimp only [next] at stepped ⊢
    split at stepped
    · cases stepped
    · rename_i running
      obtain ⟨w, fires, rfl⟩ := Option.map_eq_some_iff.mp stepped
      exact ⟨Bool.eq_false_iff.mpr running, w, fires, rfl⟩
  | _ =>
    dsimp only [next] at stepped ⊢
    split at stepped
    · cases stepped
    · rename_i running
      cases stepped
      exact ⟨Bool.eq_false_iff.mpr running, rfl⟩

end SocketTab

/-- A provider makes a bridge and connects it. -/
def socketTabMachine : Machine SocketTab SocketTabEvent where
  init s := ∃ url userId accessToken, s = { inbox := [.connect url userId accessToken] }
  step s event t := s.next event = some t

section Places

variable (w : SocketWorker) (s : SocketTab)

/-- The sends among requests. -/
def sends (requests : List RequestRef) : List RequestRef := requests.filter fun request => request.1 = .messageSend

/-- The acknowledgement in a message of the worker. -/
def answerOf : WorkerToMainMessage → Option (RequestRef × Option Json)
  | .ack request ack => some (request, ack)
  | _ => none

/-- The requests on their way to the worker. -/
def SocketTab.waiting : List RequestRef := s.inbox.filterMap MainToWorkerMessage.request

def queuedRequests : List RequestRef := w.pendingMessageSendQueue.map fun item => (.messageSend, item.requestId)

def emittedRequests : List RequestRef := w.emitted.map SocketEmission.request

/-- The requests that the service has not acknowledged. -/
def awaitedRequests : List RequestRef := w.awaiting.map SocketEmission.request

/-- The acknowledgements on their way to the bridge. -/
def answers : List (RequestRef × Option Json) := w.posted.filterMap answerOf

def answeredRequests : List RequestRef := (answers w).map Prod.fst

def SocketTab.settled : List RequestRef := s.bridge.settled.map Prod.fst

end Places

/-- What a step of the worker does to the requests: those it takes from its inbox and those it holds are
queued, emitted or refused, and awaited or answered, none of them lost, and sends are not overtaken. -/
structure Moves (taken : List RequestRef) (w w' : SocketWorker) : Prop where
  emission : ∀ request, taken.count request + (queuedRequests w).count request + (emittedRequests w).count request +
      w.refused.count request = (queuedRequests w').count request + (emittedRequests w').count request +
      w'.refused.count request
  settlement : ∀ request, taken.count request + (queuedRequests w).count request + (awaitedRequests w).count request +
      (answeredRequests w).count request = (queuedRequests w').count request + (awaitedRequests w').count request +
      (answeredRequests w').count request
  order : (sends (emittedRequests w') ++ queuedRequests w').Sublist
    (sends (emittedRequests w) ++ queuedRequests w ++ sends taken)
  logs : w.emitted <+: w'.emitted ∧ w.refused <+: w'.refused
  awaits : ∀ request ∈ awaitedRequests w', request ∈ awaitedRequests w ∨ request ∈ emittedRequests w'
  replies : ∀ answer ∈ answers w', answer ∈ answers w ∨ answer.1 ∈ awaitedRequests w ∨
    answer.1 ∈ emittedRequests w' ∨ ∃ message, answer.2 = some (SocketWorker.unavailable message)

/-- A worker emits nothing while sends are queued, and each of them has its timer. -/
structure WorkerKept (w : SocketWorker) : Prop where
  generation : ∀ client ∈ w.socket, client.generation = w.socketConnectGeneration
  idle : w.isConnected = true → w.pendingMessageSendQueue = []
  timed : ∀ item ∈ w.pendingMessageSendQueue, (item.timeoutId, item.requestId) ∈ w.timers
  fresh : ∀ timer ∈ w.timers, timer.1 < w.nextTimeoutId
  distinct : (w.timers.map Prod.fst).Nodup
  heartbeat : w.heartbeatTimer = if w.isConnected then some w.heartbeatIntervalMs else none

section Effects

variable (w : SocketWorker)

theorem connectSocket_eq (url userId : String) (accessToken : Option String) :
    w.connectSocket url userId accessToken = { w with
      socketConnectGeneration := w.socketConnectGeneration + 1
      heartbeatTimer := none
      posted := w.posted ++ (if w.socket.isSome then [.disconnected "reconnect"] else []) ++ [.socketConnecting]
      socket := some ⟨w.socketConnectGeneration + 1, url, userId, SocketWorker.trimmedToken accessToken, false⟩ } := by
  unfold SocketWorker.connectSocket SocketWorker.clearHeartbeat SocketWorker.post
  cases w.socket <;> simp

theorem applyHeartbeatMode_eq (mode : HeartbeatMode) :
    w.applyHeartbeatMode mode = { w with
      heartbeatIntervalMs := mode.intervalMs
      heartbeatTimer := if mode.intervalMs ≠ w.heartbeatIntervalMs ∧ w.isConnected = true then some mode.intervalMs
        else w.heartbeatTimer } := by
  unfold SocketWorker.applyHeartbeatMode SocketWorker.startHeartbeat SocketWorker.clearHeartbeat
  by_cases same : mode.intervalMs = w.heartbeatIntervalMs
  · simp [same]
  · rw [if_neg same]
    have live : SocketWorker.isConnected { w with heartbeatIntervalMs := mode.intervalMs } = w.isConnected := rfl
    simp only [live, ne_eq, same, not_false_iff, true_and]
    split <;> rfl

end Effects

section WorkerSteps

variable {w : SocketWorker}

theorem Moves.refl (w : SocketWorker) : Moves [] w w :=
  ⟨by simp, by simp, by simp [sends], ⟨List.prefix_rfl, List.prefix_rfl⟩, fun _ => .inl, fun _ => .inl⟩

/-- A step that leaves the requests alone moves none. -/
theorem Moves.of_same {w w' : SocketWorker} (queue : w'.pendingMessageSendQueue = w.pendingMessageSendQueue)
    (emitted : w'.emitted = w.emitted) (refused : w'.refused = w.refused) (awaiting : w'.awaiting = w.awaiting)
    (answered : answers w' = answers w) : Moves [] w w' := by
  refine ⟨fun request => ?_, fun request => ?_, ?_, ⟨by rw [emitted], by rw [refused]⟩, ?_, ?_⟩
  · simp only [queuedRequests, emittedRequests, queue, emitted, refused, List.count_nil]
    omega
  · simp only [queuedRequests, awaitedRequests, answeredRequests, queue, awaiting, answered, List.count_nil]
    omega
  · simp [queuedRequests, emittedRequests, queue, emitted, sends]
  · intro request member
    rw [awaitedRequests, awaiting] at member
    exact .inl member
  · intro answer member
    rw [answered] at member
    exact .inl member

theorem Moves.trans {taken : List RequestRef} {w w' w'' : SocketWorker} (first : Moves taken w w')
    (second : Moves [] w' w'') : Moves taken w w'' := by
  have later {request : RequestRef} (member : request ∈ emittedRequests w') : request ∈ emittedRequests w'' :=
    (second.logs.1.map SocketEmission.request).subset member
  refine ⟨fun request => ?_, fun request => ?_, ?_, ⟨first.logs.1.trans second.logs.1,
    first.logs.2.trans second.logs.2⟩, ?_, ?_⟩
  · have before := first.emission request
    have after := second.emission request
    simp only [List.count_nil] at after
    omega
  · have before := first.settlement request
    have after := second.settlement request
    simp only [List.count_nil] at after
    omega
  · have after := second.order
    simp only [sends, List.filter_nil, List.append_nil] at after
    exact after.trans first.order
  · intro request member
    rcases second.awaits request member with before | now
    · exact (first.awaits request before).imp_right later
    · exact .inr now
  · intro answer member
    rcases second.replies answer member with before | waited | now
    · rcases first.replies answer before with earlier | held | out | own
      · exact .inl earlier
      · exact .inr (.inl held)
      · exact .inr (.inr (.inl (later out)))
      · exact .inr (.inr (.inr own))
    · exact .inr ((first.awaits answer.1 waited).imp_right fun out => .inl (later out))
    · exact .inr (.inr now)

theorem moves_heartbeatTick : Moves [] w w.heartbeatTick := by
  unfold SocketWorker.heartbeatTick
  split
  · split
    · exact Moves.of_same rfl rfl rfl rfl rfl
    · exact Moves.refl w
  · exact Moves.refl w

/-- A message that acknowledges nothing moves no request. -/
theorem moves_post {msg : WorkerToMainMessage} (silent : answerOf msg = none) : Moves [] w (w.post msg) := by
  refine Moves.of_same rfl rfl rfl rfl ?_
  simp [SocketWorker.post, answers, silent]

theorem moves_refuse (request : RequestRef) (message : String) : Moves [request] w (w.refuse request message) := by
  have answered : answers (w.refuse request message) = answers w ++
      [(request, some (SocketWorker.unavailable message))] := by
    simp [answers, SocketWorker.refuse, SocketWorker.post, answerOf]
  refine ⟨fun other => ?_, fun other => ?_, ?_, ⟨List.prefix_rfl, List.prefix_append _ _⟩, fun _ => .inl, ?_⟩
  · simp only [SocketWorker.refuse, SocketWorker.post, queuedRequests, emittedRequests, List.count_append]
    omega
  · simp only [answeredRequests, answered, List.map_append, List.map_singleton, List.count_append]
    simp only [SocketWorker.refuse, SocketWorker.post, queuedRequests, awaitedRequests]
    omega
  · simp [SocketWorker.refuse, SocketWorker.post, queuedRequests, emittedRequests]
  · intro answer member
    rw [answered] at member
    rcases List.mem_append.mp member with before | now
    · exact .inl before
    · rw [List.mem_singleton.mp now]
      exact .inr (.inr (.inr ⟨message, rfl⟩))

/-- The current client of a worker that is connected. -/
theorem socket_of_connected (connected : w.isConnected = true) :
    ∃ client, w.socket = some client ∧ client.connected = true := by
  unfold SocketWorker.isConnected at connected
  cases held : w.socket with
  | none =>
    rw [held] at connected
    cases connected
  | some client =>
    rw [held] at connected
    exact ⟨client, rfl, connected⟩

theorem moves_emit (connected : w.isConnected = true) (idle : w.pendingMessageSendQueue = []) (request : RequestRef)
    (event : String) (payload : Json) : Moves [request] w (w.emit request event payload) := by
  obtain ⟨client, held, -⟩ := socket_of_connected connected
  have step : w.emit request event payload = { w with
      awaiting := w.awaiting ++ [⟨client.generation, request, event, payload⟩]
      emitted := w.emitted ++ [⟨client.generation, request, event, payload⟩] } := by
    unfold SocketWorker.emit
    rw [held]
  rw [step]
  refine ⟨fun other => ?_, fun other => ?_, ?_, ⟨List.prefix_append _ _, List.prefix_rfl⟩, ?_, fun _ => .inl⟩
  · simp only [queuedRequests, emittedRequests, List.map_append, List.map_singleton, List.count_append]
    omega
  · simp only [queuedRequests, awaitedRequests, answeredRequests, answers, List.map_append, List.map_singleton,
      List.count_append]
    omega
  · simp [queuedRequests, emittedRequests, idle, sends]
  · intro other member
    simp only [awaitedRequests, emittedRequests, List.map_append, List.map_singleton, List.mem_append] at member ⊢
    exact member.imp_right .inr

theorem moves_emitOrRefuse (idle : w.isConnected = true → w.pendingMessageSendQueue = []) (request : RequestRef)
    (event : String) (payload : Json) : Moves [request] w (w.emitOrRefuse request event payload) := by
  unfold SocketWorker.emitOrRefuse
  split
  · rename_i connected
    exact moves_emit connected (idle connected) request event payload
  · exact moves_refuse request _

theorem moves_tryMessageSendOrQueue (idle : w.isConnected = true → w.pendingMessageSendQueue = [])
    (requestId : String) (payload : Json) :
    Moves [(.messageSend, requestId)] w (w.tryMessageSendOrQueue requestId payload) := by
  unfold SocketWorker.tryMessageSendOrQueue
  split
  · rename_i connected
    exact moves_emit connected (idle connected) (.messageSend, requestId) "message:send" payload
  · refine ⟨fun other => ?_, fun other => ?_, ?_, ⟨List.prefix_rfl, List.prefix_rfl⟩, fun _ => .inl, fun _ => .inl⟩
    · simp only [queuedRequests, emittedRequests, List.map_append, List.map_singleton, List.count_append]
      omega
    · simp only [queuedRequests, awaitedRequests, answeredRequests, answers, List.map_append, List.map_singleton,
        List.count_append]
      omega
    · simp [queuedRequests, emittedRequests, sends]

/-- The loop refuses the items one after another. -/
theorem clearQueueLoop_eq (message : String) (w : SocketWorker) (items : List PendingSend) :
    ∃ timers, timers.Sublist w.timers ∧ SocketWorker.clearQueueLoop message w items = { w with
      timers := timers
      posted := w.posted ++ items.map fun item =>
        .ack (.messageSend, item.requestId) (some (SocketWorker.unavailable message))
      refused := w.refused ++ items.map fun item => (.messageSend, item.requestId) } := by
  induction items generalizing w with
  | nil => exact ⟨w.timers, List.Sublist.refl _, by simp [SocketWorker.clearQueueLoop]⟩
  | cons item rest ih =>
    obtain ⟨timers, fewer, step⟩ := ih ((w.clearTimeout item.timeoutId).refuse (.messageSend, item.requestId) message)
    refine ⟨timers, fewer.trans List.filter_sublist, ?_⟩
    rw [SocketWorker.clearQueueLoop, step]
    simp [SocketWorker.clearTimeout, SocketWorker.refuse, SocketWorker.post]

theorem moves_clear (message : String) : Moves [] w (w.clearPendingMessageSendQueue message) := by
  obtain ⟨timers, -, step⟩ := clearQueueLoop_eq message w w.pendingMessageSendQueue
  have answered : (w.pendingMessageSendQueue.map fun item => WorkerToMainMessage.ack (.messageSend, item.requestId)
      (some (SocketWorker.unavailable message))).filterMap answerOf =
      (queuedRequests w).map fun request => (request, some (SocketWorker.unavailable message)) := by
    simp [queuedRequests, List.filterMap_map, Function.comp_def, answerOf]
  unfold SocketWorker.clearPendingMessageSendQueue
  rw [step]
  refine ⟨fun request => ?_, fun request => ?_, ?_, ⟨List.prefix_rfl, List.prefix_append _ _⟩, fun _ => .inl, ?_⟩
  · simp only [queuedRequests, emittedRequests, List.count_append, List.count_nil, List.map_nil]
    omega
  · simp only [awaitedRequests, answeredRequests, answers, List.filterMap_append, answered, List.map_append,
      List.map_map, Function.comp_def, List.map_id', List.count_append]
    simp only [queuedRequests, List.map_nil, List.count_nil]
    omega
  · simp [queuedRequests, emittedRequests, sends]
  · intro answer member
    simp only [answers, List.filterMap_append, answered, List.mem_append, List.mem_map] at member
    rcases member with before | ⟨request, -, rfl⟩
    · exact .inl before
    · exact .inr (.inr (.inr ⟨message, rfl⟩))

/-- The emission of a queued send on a client. -/
def sendEmission (client : SocketClient) (item : PendingSend) : SocketEmission :=
  ⟨client.generation, (.messageSend, item.requestId), "message:send", item.payload⟩

/-- The loop emits the items one after another on the client that is connected. -/
theorem flushLoop_eq {client : SocketClient} (connected : client.connected = true) (items : List PendingSend)
    (w : SocketWorker) (held : w.socket = some client) (all : w.pendingMessageSendQueue = items) :
    ∃ timers, timers.Sublist w.timers ∧ SocketWorker.flushLoop w items = { w with
      pendingMessageSendQueue := []
      timers := timers
      awaiting := w.awaiting ++ items.map (sendEmission client)
      emitted := w.emitted ++ items.map (sendEmission client) } := by
  induction items generalizing w with
  | nil =>
    refine ⟨w.timers, List.Sublist.refl _, ?_⟩
    simp only [SocketWorker.flushLoop, List.map_nil, List.append_nil]
    rw [← all]
  | cons item rest ih =>
    have live : w.isConnected = true := by
      rw [SocketWorker.isConnected, held]
      exact connected
    have one : ({ w with pendingMessageSendQueue := rest }.clearTimeout item.timeoutId).emitMessageSend item.requestId
        item.payload = { w with
          pendingMessageSendQueue := rest
          timers := w.timers.filter fun timer => timer.1 ≠ item.timeoutId
          awaiting := w.awaiting ++ [sendEmission client item]
          emitted := w.emitted ++ [sendEmission client item] } := by
      simp only [SocketWorker.clearTimeout, SocketWorker.emitMessageSend, SocketWorker.emit, held, sendEmission]
    obtain ⟨timers, fewer, step⟩ := ih (({ w with pendingMessageSendQueue := rest }.clearTimeout
      item.timeoutId).emitMessageSend item.requestId item.payload) (by rw [one]; exact held) (by rw [one])
    rw [one] at fewer
    refine ⟨timers, fewer.trans List.filter_sublist, ?_⟩
    rw [SocketWorker.flushLoop, if_pos live, step, one]
    simp

theorem moves_flush (connected : w.isConnected = true) : Moves [] w w.flushPendingMessageSends := by
  obtain ⟨client, held, live⟩ := socket_of_connected connected
  obtain ⟨timers, -, step⟩ := flushLoop_eq live w.pendingMessageSendQueue w held rfl
  have emissions : (w.pendingMessageSendQueue.map (sendEmission client)).map SocketEmission.request =
      queuedRequests w := by
    rw [List.map_map]
    rfl
  unfold SocketWorker.flushPendingMessageSends
  rw [step]
  refine ⟨fun request => ?_, fun request => ?_, ?_, ⟨List.prefix_append _ _, List.prefix_rfl⟩, ?_, fun _ => .inl⟩
  · simp only [queuedRequests, emittedRequests, List.map_append, emissions, List.count_append, List.count_nil,
      List.map_nil]
    omega
  · simp only [queuedRequests, awaitedRequests, answeredRequests, answers, List.map_append, emissions,
      List.count_append, List.count_nil, List.map_nil]
    omega
  · have all : sends (queuedRequests w) = queuedRequests w := by
      apply List.filter_eq_self.mpr
      intro request member
      obtain ⟨item, -, rfl⟩ := List.mem_map.mp member
      rfl
    simp only [emittedRequests, List.map_append, emissions, sends, List.filter_append, List.filter_nil]
    simp only [sends] at all
    rw [all]
    simp [queuedRequests]
  · intro request member
    simp only [awaitedRequests, emittedRequests, List.map_append, List.mem_append] at member ⊢
    exact member.imp_right .inr

/-- A timer takes at most its own send out of the queue, and the worker answers it. -/
theorem moves_timeout (timeoutId : Nat) (requestId : String) : Moves [] w (w.timeout timeoutId requestId) := by
  unfold SocketWorker.timeout SocketWorker.sendTimedOut
  split
  · exact Moves.of_same rfl rfl rfl rfl rfl
  · rename_i idx found
    obtain ⟨inside, named, -⟩ := List.findIdx?_eq_some_iff_getElem.mp found
    have taken := ((List.getElem_cons_eraseIdx_perm inside).map
      fun item : PendingSend => ((.messageSend, item.requestId) : RequestRef)).symm
    rw [List.map_cons, of_decide_eq_true named] at taken
    have fewer := (List.eraseIdx_sublist w.pendingMessageSendQueue idx).map
      fun item : PendingSend => ((.messageSend, item.requestId) : RequestRef)
    have answered : answers ({ w.clearTimeout timeoutId with pendingMessageSendQueue :=
        (w.clearTimeout timeoutId).pendingMessageSendQueue.eraseIdx idx }.refuse (.messageSend, requestId)
        "Timed out waiting for chat connection") = answers w ++ [((.messageSend, requestId),
          some (SocketWorker.unavailable "Timed out waiting for chat connection"))] := by
      simp [answers, SocketWorker.refuse, SocketWorker.post, SocketWorker.clearTimeout, answerOf]
    refine ⟨fun request => ?_, fun request => ?_, ?_, ⟨List.prefix_rfl, List.prefix_append _ _⟩, fun _ => .inl, ?_⟩
    · have counted := taken.count_eq request
      simp only [List.count_cons] at counted
      simp only [SocketWorker.refuse, SocketWorker.post, SocketWorker.clearTimeout, queuedRequests, emittedRequests,
        List.count_append, List.count_cons, List.count_nil]
      simp only [SocketWorker.clearTimeout] at counted
      omega
    · have counted := taken.count_eq request
      simp only [SocketWorker.clearTimeout, List.count_cons] at counted
      simp only [answeredRequests, answered, List.map_append, List.map_singleton, List.count_append]
      simp only [SocketWorker.refuse, SocketWorker.post, SocketWorker.clearTimeout, queuedRequests, awaitedRequests,
        List.count_cons, List.count_nil]
      omega
    · simp only [SocketWorker.refuse, SocketWorker.post, SocketWorker.clearTimeout, queuedRequests, emittedRequests,
        sends, List.filter_nil, List.append_nil]
      exact (List.Sublist.refl _).append fewer
    · intro answer member
      rw [answered] at member
      rcases List.mem_append.mp member with before | now
      · exact .inl before
      · rw [List.mem_singleton.mp now]
        exact .inr (.inr (.inr ⟨_, rfl⟩))

theorem moves_acked (i : Nat) (ack : Option Json) : Moves [] w (w.acked i ack) := by
  unfold SocketWorker.acked
  split
  · exact Moves.refl w
  · rename_i emission held
    obtain ⟨inside, here⟩ := List.getElem?_eq_some_iff.mp held
    have taken := ((List.getElem_cons_eraseIdx_perm inside).map SocketEmission.request).symm
    rw [List.map_cons, here] at taken
    have waited : emission.request ∈ awaitedRequests w := taken.symm.subset List.mem_cons_self
    have answered : answers ({ w with awaiting := w.awaiting.eraseIdx i }.post (.ack emission.request ack)) =
        answers w ++ [(emission.request, ack)] := by
      simp [answers, SocketWorker.post, answerOf]
    refine ⟨fun request => ?_, fun request => ?_, ?_, ⟨List.prefix_rfl, List.prefix_rfl⟩, ?_, ?_⟩
    · simp only [SocketWorker.post, queuedRequests, emittedRequests, List.count_nil]
      omega
    · have counted := taken.count_eq request
      simp only [List.count_cons] at counted
      simp only [answeredRequests, answered, List.map_append, List.map_singleton, List.count_append]
      simp only [SocketWorker.post, queuedRequests, awaitedRequests, List.count_cons, List.count_nil]
      omega
    · simp [SocketWorker.post, queuedRequests, emittedRequests, sends]
    · intro request member
      exact .inl (taken.symm.subset (List.mem_cons_of_mem _ member))
    · intro answer member
      rw [answered] at member
      rcases List.mem_append.mp member with before | now
      · exact .inl before
      · rw [List.mem_singleton.mp now]
        exact .inr (.inl waited)

theorem moves_connectSocket (url userId : String) (accessToken : Option String) :
    Moves [] w (w.connectSocket url userId accessToken) := by
  rw [connectSocket_eq]
  refine Moves.of_same rfl rfl rfl rfl ?_
  unfold answers
  split <;> simp [answerOf, List.filterMap_append, List.filterMap_cons]

theorem moves_applyHeartbeatMode (mode : HeartbeatMode) : Moves [] w (w.applyHeartbeatMode mode) := by
  rw [applyHeartbeatMode_eq]
  exact Moves.of_same rfl rfl rfl rfl rfl

/-- `disconnect` first answers what is queued. -/
theorem moves_disconnect : Moves [] w (w.onMessage .disconnect) := by
  have cleared := @moves_clear { w with socketConnectGeneration := w.socketConnectGeneration + 1 }
    "Socket not connected"
  have first : Moves [] w (SocketWorker.clearPendingMessageSendQueue
      { w with socketConnectGeneration := w.socketConnectGeneration + 1 } "Socket not connected") :=
    ⟨cleared.emission, cleared.settlement, cleared.order, cleared.logs, cleared.awaits, cleared.replies⟩
  apply first.trans
  refine Moves.of_same rfl rfl rfl rfl ?_
  simp [SocketWorker.onMessage, SocketWorker.post, SocketWorker.clearHeartbeat, answers, answerOf,
    List.filterMap_append, List.filterMap_cons]

theorem moves_onMessage (idle : w.isConnected = true → w.pendingMessageSendQueue = [])
    (message : MainToWorkerMessage) : Moves message.request.toList w (w.onMessage message) := by
  cases message with
  | connect url userId accessToken => exact moves_connectSocket url userId accessToken
  | messageSend requestId payload => exact moves_tryMessageSendOrQueue idle requestId payload
  | receiptEmit requestId event payload => exact moves_emitOrRefuse idle (.receiptEmit, requestId) event payload
  | webrtcEmit requestId event payload => exact moves_emitOrRefuse idle (.webrtcEmit, requestId) event.name payload
  | presenceGetLastSeen requestId targetUserId => exact moves_emitOrRefuse idle (.presenceGetLastSeen, requestId) _ _
  | presenceHeartbeatMode mode => exact moves_applyHeartbeatMode mode
  | disconnect =>
    exact moves_disconnect

/-- What a handler posts acknowledges nothing. -/
theorem answer_relayed {event : ClientEvent} {msg : WorkerToMainMessage}
    (posted : SocketWorker.relayed event = some msg) : answerOf msg = none := by
  cases event with
  | notification raw =>
    obtain ⟨payload, -, rfl⟩ := Option.map_eq_some_iff.mp posted
    rfl
  | deviceSyncRequested raw =>
    obtain ⟨payload, -, rfl⟩ := Option.map_eq_some_iff.mp posted
    rfl
  | deviceSyncComplete raw =>
    obtain ⟨target, -, rfl⟩ := Option.map_eq_some_iff.mp posted
    rfl
  | _ =>
    cases posted
    rfl

theorem moves_relayed (event : ClientEvent) : Moves [] w ((SocketWorker.relayed event).elim w w.post) := by
  cases posted : SocketWorker.relayed event with
  | none => exact Moves.refl w
  | some msg => exact moves_post (answer_relayed posted)

theorem moves_connected (connected : w.isConnected = true) (socketId : Option String) :
    Moves [] w ((w.post (.connected socketId)).startHeartbeat).flushPendingMessageSends := by
  have told : Moves [] w (w.post (.connected socketId)).startHeartbeat := by
    refine Moves.of_same rfl rfl rfl rfl ?_
    simp [SocketWorker.startHeartbeat, SocketWorker.clearHeartbeat, SocketWorker.post, answers, answerOf]
  exact told.trans (moves_flush connected)

/-- Any other handler posts what it relays. -/
theorem handled_relays {event : ClientEvent} (connect : ∀ socketId, event ≠ .connect socketId)
    (disconnect : ∀ reason, event ≠ .disconnect reason) :
    w.handled event = (SocketWorker.relayed event).elim w w.post := by
  cases event with
  | connect socketId => exact absurd rfl (connect socketId)
  | disconnect reason => exact absurd rfl (disconnect reason)
  | _ => rfl

theorem moves_onClient (event : ClientEvent) (generation : Nat)
    (connects : ∀ socketId, event = .connect socketId → w.isConnected = true) :
    Moves [] w (w.onClient generation event) := by
  unfold SocketWorker.onClient
  split
  · exact Moves.refl w
  · cases event with
    | connect socketId => exact moves_connected (connects socketId rfl) socketId
    | disconnect reason =>
      refine Moves.of_same rfl rfl rfl rfl ?_
      simp [SocketWorker.handled, SocketWorker.clearHeartbeat, SocketWorker.post, answers, answerOf]
    | _ =>
      rw [handled_relays (by simp) (by simp)]
      exact moves_relayed _

theorem moves_withConnected (connected : Bool) : Moves [] w (w.withConnected connected) :=
  Moves.of_same rfl rfl rfl rfl rfl

theorem isConnected_withConnected {client : SocketClient} (held : w.socket = some client) (connected : Bool) :
    (w.withConnected connected).isConnected = connected := by
  unfold SocketWorker.withConnected SocketWorker.isConnected
  rw [held]
  rfl

/-- What can happen on a client: it is the current one or its handlers do nothing. -/
theorem clientFires_cases {generation : Nat} {event : ClientEvent} {w' : SocketWorker}
    (kept : ∀ client ∈ w.socket, client.generation = w.socketConnectGeneration)
    (fires : clientFires w generation event = some w') :
    w' = w ∨ ∃ client, w.socket = some client ∧ generation = w.socketConnectGeneration ∧
      match event with
      | .connect _ => w.isConnected = false ∧ w' = (w.withConnected true).onClient generation event
      | .disconnect _ => w.isConnected = true ∧ w' = (w.withConnected false).onClient generation event
      | .reconnectAttempt => w.isConnected = false ∧ w' = w.onClient generation event
      | .connectError _ => w.isConnected = false ∧ w' = w.onClient generation event
      | _ => w' = w.onClient generation event := by
  unfold clientFires at fires
  split at fires
  · rename_i stale
    left
    cases fires
    unfold SocketWorker.onClient
    rw [if_pos (Nat.ne_of_lt stale)]
  · split at fires
    · rename_i current
      right
      cases held : w.socket with
      | none =>
        rw [held] at current
        cases current
      | some client =>
        have same : client.generation = generation := by
          rw [held] at current
          exact of_decide_eq_true current
        refine ⟨client, rfl, same.symm.trans (kept client held), ?_⟩
        cases event <;> simp_all
    · cases fires

theorem moves_clientFires {generation : Nat} {event : ClientEvent} {w' : SocketWorker}
    (kept : ∀ client ∈ w.socket, client.generation = w.socketConnectGeneration)
    (fires : clientFires w generation event = some w') : Moves [] w w' := by
  rcases clientFires_cases kept fires with rfl | ⟨client, held, -, happened⟩
  · exact Moves.refl _
  · cases event with
    | connect socketId =>
      rw [happened.2]
      have live := isConnected_withConnected held true
      exact (moves_withConnected true).trans (moves_onClient _ _ fun _ _ => live)
    | disconnect reason =>
      rw [happened.2]
      exact (moves_withConnected false).trans (moves_onClient _ _ fun _ same => nomatch same)
    | reconnectAttempt =>
      rw [happened.2]
      exact moves_onClient _ _ fun _ same => nomatch same
    | connectError message =>
      rw [happened.2]
      exact moves_onClient _ _ fun _ same => nomatch same
    | _ =>
      rw [happened]
      exact moves_onClient _ _ fun _ same => nomatch same

end WorkerSteps

section WorkerInvariant

variable {w : SocketWorker}

theorem kept_post (kept : WorkerKept w) (msg : WorkerToMainMessage) : WorkerKept (w.post msg) :=
  ⟨kept.generation, kept.idle, kept.timed, kept.fresh, kept.distinct, kept.heartbeat⟩

theorem kept_heartbeatTick (kept : WorkerKept w) : WorkerKept w.heartbeatTick := by
  unfold SocketWorker.heartbeatTick
  split
  · split
    · exact ⟨kept.generation, kept.idle, kept.timed, kept.fresh, kept.distinct, kept.heartbeat⟩
    · exact kept
  · exact kept

theorem kept_refuse (kept : WorkerKept w) (request : RequestRef) (message : String) :
    WorkerKept (w.refuse request message) :=
  ⟨kept.generation, kept.idle, kept.timed, kept.fresh, kept.distinct, kept.heartbeat⟩

theorem kept_emit (kept : WorkerKept w) (request : RequestRef) (event : String) (payload : Json) :
    WorkerKept (w.emit request event payload) := by
  unfold SocketWorker.emit
  split
  · exact kept
  · exact ⟨kept.generation, kept.idle, kept.timed, kept.fresh, kept.distinct, kept.heartbeat⟩

theorem kept_emitOrRefuse (kept : WorkerKept w) (request : RequestRef) (event : String) (payload : Json) :
    WorkerKept (w.emitOrRefuse request event payload) := by
  unfold SocketWorker.emitOrRefuse
  split
  · exact kept_emit kept request event payload
  · exact kept_refuse kept request _

/-- A send that is queued gets a timer of its own. -/
theorem kept_tryMessageSendOrQueue (kept : WorkerKept w) (requestId : String) (payload : Json) :
    WorkerKept (w.tryMessageSendOrQueue requestId payload) := by
  unfold SocketWorker.tryMessageSendOrQueue
  split
  · exact kept_emit kept _ _ _
  · rename_i offline
    refine ⟨kept.generation, fun connected => absurd connected offline, ?_, ?_, ?_, kept.heartbeat⟩
    · intro item member
      rcases List.mem_append.mp member with before | now
      · exact List.mem_append_left _ (kept.timed item before)
      · rw [List.mem_singleton.mp now]
        exact List.mem_append_right _ List.mem_cons_self
    · intro timer member
      rcases List.mem_append.mp member with before | now
      · exact Nat.lt_succ_of_lt (kept.fresh timer before)
      · rw [List.mem_singleton.mp now]
        exact Nat.lt_succ_self _
    · rw [List.map_append, List.map_singleton, List.nodup_append_comm]
      refine List.nodup_cons.mpr ⟨fun member => ?_, kept.distinct⟩
      obtain ⟨timer, before, same⟩ := List.mem_map.mp member
      have older := kept.fresh timer before
      omega

/-- With the queue the timers may go, too. -/
theorem kept_emptied (kept : WorkerKept w) {w' : SocketWorker} (socket : w'.socket = w.socket)
    (generation : w'.socketConnectGeneration = w.socketConnectGeneration) (queue : w'.pendingMessageSendQueue = [])
    (timers : w'.timers.Sublist w.timers) (next : w'.nextTimeoutId = w.nextTimeoutId)
    (timer : w'.heartbeatTimer = w.heartbeatTimer) (interval : w'.heartbeatIntervalMs = w.heartbeatIntervalMs) :
    WorkerKept w' := by
  have live : w'.isConnected = w.isConnected := by
    unfold SocketWorker.isConnected
    rw [socket]
  refine ⟨?_, fun _ => queue, ?_, ?_, ?_, ?_⟩
  · rw [socket, generation]
    exact kept.generation
  · rw [queue]
    exact fun item member => nomatch member
  · intro held member
    rw [next]
    exact kept.fresh held (timers.subset member)
  · exact (timers.map Prod.fst).nodup kept.distinct
  · rw [timer, interval, live]
    exact kept.heartbeat

/-- The timer that has run out was that of its own send, which leaves the queue. -/
theorem kept_timeout (kept : WorkerKept w) (ids : (queuedRequests w).Nodup) {timeoutId : Nat} {requestId : String}
    (running : (timeoutId, requestId) ∈ w.timers) : WorkerKept (w.timeout timeoutId requestId) := by
  have other {item : PendingSend} (member : item ∈ w.pendingMessageSendQueue) (different : item.requestId ≠ requestId) :
      (item.timeoutId, item.requestId) ∈ w.timers.filter fun timer => timer.1 ≠ timeoutId := by
    refine List.mem_filter.mpr ⟨kept.timed item member, decide_eq_true fun same => different ?_⟩
    have both := List.inj_on_of_nodup_map kept.distinct (kept.timed item member) running same
    exact congrArg Prod.snd both
  unfold SocketWorker.timeout SocketWorker.sendTimedOut
  split
  · rename_i absent
    have none' := List.findIdx?_eq_none_iff.mp absent
    refine ⟨kept.generation, kept.idle, ?_, ?_, ?_, kept.heartbeat⟩
    · intro item member
      exact other member (of_decide_eq_false (none' item member))
    · exact fun timer member => kept.fresh timer (List.mem_of_mem_filter member)
    · exact (List.filter_sublist.map Prod.fst).nodup kept.distinct
  · rename_i idx found
    obtain ⟨inside, named, -⟩ := List.findIdx?_eq_some_iff_getElem.mp found
    have taken := ((List.getElem_cons_eraseIdx_perm inside).map
      fun item : PendingSend => ((.messageSend, item.requestId) : RequestRef)).symm
    rw [List.map_cons, of_decide_eq_true named] at taken
    have apart := (List.nodup_cons.mp (taken.nodup ids)).1
    refine ⟨kept.generation, fun connected => ?_, ?_, ?_, ?_, kept.heartbeat⟩
    · have empty : w.pendingMessageSendQueue = [] := kept.idle connected
      have none' : (w.clearTimeout timeoutId).pendingMessageSendQueue = [] := empty
      rw [none'] at inside
      cases inside
    · intro item member
      refine other (List.mem_of_mem_eraseIdx member) fun same => apart ?_
      exact List.mem_map.mpr ⟨item, member, by rw [same]⟩
    · exact fun timer member => kept.fresh timer (List.mem_of_mem_filter member)
    · exact (List.filter_sublist.map Prod.fst).nodup kept.distinct

theorem kept_acked (kept : WorkerKept w) (i : Nat) (ack : Option Json) : WorkerKept (w.acked i ack) := by
  unfold SocketWorker.acked
  split
  · exact kept
  · exact ⟨kept.generation, kept.idle, kept.timed, kept.fresh, kept.distinct, kept.heartbeat⟩

theorem kept_connectSocket (kept : WorkerKept w) (url userId : String) (accessToken : Option String) :
    WorkerKept (w.connectSocket url userId accessToken) := by
  rw [connectSocket_eq]
  refine ⟨?_, (fun connected => nomatch connected), kept.timed, kept.fresh, kept.distinct, rfl⟩
  intro client held
  cases held
  rfl

theorem kept_applyHeartbeatMode (kept : WorkerKept w) (mode : HeartbeatMode) :
    WorkerKept (w.applyHeartbeatMode mode) := by
  rw [applyHeartbeatMode_eq]
  refine ⟨kept.generation, kept.idle, kept.timed, kept.fresh, kept.distinct, ?_⟩
  have timer := kept.heartbeat
  change (if mode.intervalMs ≠ w.heartbeatIntervalMs ∧ w.isConnected = true then some mode.intervalMs
    else w.heartbeatTimer) = if w.isConnected = true then some mode.intervalMs else none
  by_cases connected : w.isConnected = true
  · rw [if_pos connected] at timer ⊢
    by_cases same : mode.intervalMs = w.heartbeatIntervalMs
    · rw [if_neg (fun both => both.1 same), timer, same]
    · rw [if_pos ⟨same, connected⟩]
  · rw [if_neg connected] at timer ⊢
    rw [if_neg (fun both => connected both.2), timer]

theorem kept_disconnect (kept : WorkerKept w) : WorkerKept (w.onMessage .disconnect) := by
  obtain ⟨timers, fewer, step⟩ := clearQueueLoop_eq "Socket not connected"
    { w with socketConnectGeneration := w.socketConnectGeneration + 1 } w.pendingMessageSendQueue
  have left : (w.onMessage .disconnect).timers = timers := by
    simp only [SocketWorker.onMessage, SocketWorker.post, SocketWorker.clearHeartbeat,
      SocketWorker.clearPendingMessageSendQueue, step]
  have next : (w.onMessage .disconnect).nextTimeoutId = w.nextTimeoutId := by
    simp only [SocketWorker.onMessage, SocketWorker.post, SocketWorker.clearHeartbeat,
      SocketWorker.clearPendingMessageSendQueue, step]
  refine ⟨(fun client held => nomatch held), (fun connected => nomatch connected),
    (fun item member => nomatch member), ?_, ?_, rfl⟩
  · intro timer member
    rw [left] at member
    rw [next]
    exact kept.fresh timer (fewer.subset member)
  · rw [left]
    exact (fewer.map Prod.fst).nodup kept.distinct

theorem kept_onMessage (kept : WorkerKept w) (message : MainToWorkerMessage) : WorkerKept (w.onMessage message) := by
  cases message with
  | connect url userId accessToken => exact kept_connectSocket kept url userId accessToken
  | messageSend requestId payload => exact kept_tryMessageSendOrQueue kept requestId payload
  | receiptEmit requestId event payload => exact kept_emitOrRefuse kept _ event payload
  | webrtcEmit requestId event payload => exact kept_emitOrRefuse kept _ event.name payload
  | presenceGetLastSeen requestId targetUserId => exact kept_emitOrRefuse kept _ _ _
  | presenceHeartbeatMode mode => exact kept_applyHeartbeatMode kept mode
  | disconnect => exact kept_disconnect kept

theorem kept_flush (kept : WorkerKept { w with pendingMessageSendQueue := [] }) (connected : w.isConnected = true) :
    WorkerKept w.flushPendingMessageSends := by
  obtain ⟨client, held, live⟩ := socket_of_connected connected
  obtain ⟨timers, fewer, step⟩ := flushLoop_eq live w.pendingMessageSendQueue w held rfl
  unfold SocketWorker.flushPendingMessageSends
  rw [step]
  exact kept_emptied kept rfl rfl rfl fewer rfl rfl rfl

theorem onClient_current {generation : Nat} (current : generation = w.socketConnectGeneration) (event : ClientEvent) :
    w.onClient generation event = w.handled event := by
  unfold SocketWorker.onClient
  rw [if_neg fun different => different current]

theorem kept_clientFires (kept : WorkerKept w) {generation : Nat} {event : ClientEvent} {w' : SocketWorker}
    (fires : clientFires w generation event = some w') : WorkerKept w' := by
  rcases clientFires_cases kept.generation fires with rfl | ⟨client, held, rfl, happened⟩
  · exact kept
  · have renamed (connected : Bool) : ∀ client ∈ (w.withConnected connected).socket,
        client.generation = w.socketConnectGeneration := by
      intro other member
      obtain ⟨before, listed, rfl⟩ := Option.map_eq_some_iff.mp member
      exact kept.generation before listed
    have relays (event : ClientEvent) : WorkerKept ((SocketWorker.relayed event).elim w w.post) := by
      cases SocketWorker.relayed event with
      | none => exact kept
      | some msg => exact kept_post kept msg
    cases event with
    | connect socketId =>
      have live := isConnected_withConnected held true
      have current : w.socketConnectGeneration = (w.withConnected true).socketConnectGeneration := rfl
      rw [happened.2, onClient_current current]
      refine kept_flush ⟨renamed true, fun _ => rfl, (fun item member => nomatch member), kept.fresh, kept.distinct, ?_⟩
        live
      exact (if_pos live).symm
    | disconnect reason =>
      have down := isConnected_withConnected held false
      have current : w.socketConnectGeneration = (w.withConnected false).socketConnectGeneration := rfl
      rw [happened.2, onClient_current current]
      refine ⟨renamed false, fun connected => ?_, kept.timed, kept.fresh, kept.distinct, ?_⟩
      · exact absurd (down.symm.trans connected) (by decide)
      · exact (if_neg (Bool.eq_false_iff.mp down)).symm
    | reconnectAttempt =>
      rw [happened.2, onClient_current rfl]
      exact relays .reconnectAttempt
    | connectError message =>
      rw [happened.2, onClient_current rfl]
      exact relays (.connectError message)
    | _ =>
      rw [happened, onClient_current rfl, handled_relays (by simp) (by simp)]
      exact relays _

end WorkerInvariant

end MessagingSystem.Protocol
