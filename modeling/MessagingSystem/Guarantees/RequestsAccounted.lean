import MessagingSystem.Protocol.SocketRequests

/-!
# Where a request of the tab is

A request is on its way to the worker, queued, awaited at the service, on its way back
or settled, and at one of these places only, in whatever order messages arrive, timers
run out and clients come and go. The service is sent each request at most once.
-/
namespace MessagingSystem.Guarantees.RequestsAccounted
open Foundation Source.Client Protocol

/-- The requests made are those at each place, counted. -/
structure Accounted (s : SocketTab) : Prop where
  kept : WorkerKept s.worker
  ids : (s.made.map Prod.snd).Nodup
  emission : ∀ request, s.made.count request = s.waiting.count request + (queuedRequests s.worker).count request +
    (emittedRequests s.worker).count request + s.worker.refused.count request
  held : s.bridge.terminated = false → ∀ request, s.bridge.pending.count request =
    s.waiting.count request + (queuedRequests s.worker).count request + (awaitedRequests s.worker).count request +
      (answeredRequests s.worker).count request
  settlement : s.bridge.terminated = false → ∀ request,
    s.made.count request = s.settled.count request + s.bridge.pending.count request
  bounded : ∀ request, s.settled.count request + s.bridge.pending.count request ≤ s.made.count request
  order : (sends (emittedRequests s.worker) ++ queuedRequests s.worker ++ sends s.waiting).Sublist (sends s.made)
  awaited : ∀ request ∈ awaitedRequests s.worker, request ∈ emittedRequests s.worker
  replies : ∀ answer ∈ answers s.worker, answer.1 ∈ emittedRequests s.worker ∨
    ∃ message, answer.2 = some (SocketWorker.unavailable message)
  resolved : ∀ settled ∈ s.bridge.settled, ∀ value, settled.2 = .resolved value →
    settled.1 ∈ emittedRequests s.worker

namespace Accounted

variable {s : SocketTab}

theorem made_nodup (inv : Accounted s) : s.made.Nodup := List.Nodup.of_map Prod.snd inv.ids

theorem count_made (inv : Accounted s) (request : RequestRef) : s.made.count request ≤ 1 :=
  List.nodup_iff_count_le_one.mp inv.made_nodup request

theorem queued_nodup (inv : Accounted s) : (queuedRequests s.worker).Nodup := by
  apply List.nodup_iff_count_le_one.mpr
  intro request
  have accounted := inv.emission request
  have made := inv.count_made request
  omega

theorem initial (start : socketTabMachine.init s) : Accounted s := by
  obtain ⟨url, userId, accessToken, rfl⟩ := start
  have silent : [MainToWorkerMessage.connect url userId accessToken].filterMap MainToWorkerMessage.request = [] := rfl
  refine ⟨⟨?_, ?_, ?_, ?_, ?_, ?_⟩, ?_, ?_, ?_, ?_, ?_, ?_, ?_, ?_, ?_⟩ <;>
    simp [SocketTab.waiting, silent, SocketTab.settled, queuedRequests, emittedRequests, awaitedRequests,
      answeredRequests, answers, sends, SocketWorker.isConnected]

/-- A step of the worker, with what it takes from its inbox. -/
theorem moved (inv : Accounted s) {taken : List RequestRef} {inbox : List MainToWorkerMessage} {w : SocketWorker}
    (head : s.waiting = taken ++ inbox.filterMap MainToWorkerMessage.request) (moves : Moves taken s.worker w)
    (kept : WorkerKept w) : Accounted { s with inbox := inbox, worker := w } := by
  have later {request : RequestRef} (member : request ∈ emittedRequests s.worker) : request ∈ emittedRequests w :=
    (moves.logs.1.map SocketEmission.request).subset member
  have waiting (request : RequestRef) : s.waiting.count request = taken.count request +
      (inbox.filterMap MainToWorkerMessage.request).count request := by
    rw [head, List.count_append]
  refine ⟨kept, inv.ids, fun request => ?_, fun running request => ?_, inv.settlement, inv.bounded, ?_, ?_, ?_, ?_⟩
  · have before := inv.emission request
    have moved := moves.emission request
    have split := waiting request
    simp only [SocketTab.waiting] at split ⊢
    simp only [SocketTab.waiting] at before
    omega
  · have before := inv.held running request
    have moved := moves.settlement request
    have split := waiting request
    simp only [SocketTab.waiting] at split ⊢
    simp only [SocketTab.waiting] at before
    omega
  · have before := inv.order
    rw [head, sends, sends, List.filter_append, ← List.append_assoc] at before
    exact (moves.order.append (List.Sublist.refl _)).trans before
  · intro request member
    rcases moves.awaits request member with before | now
    · exact later (inv.awaited request before)
    · exact now
  · intro answer member
    rcases moves.replies answer member with before | waited | out | own
    · exact (inv.replies answer before).imp_left later
    · exact .inl (later (inv.awaited answer.1 waited))
    · exact .inl out
    · exact .inr own
  · intro settled member value outcome
    exact later (inv.resolved settled member value outcome)

/-- A step of the worker that takes nothing. -/
theorem acted (inv : Accounted s) {w : SocketWorker} (moves : Moves [] s.worker w) (kept : WorkerKept w) :
    Accounted { s with worker := w } :=
  inv.moved rfl moves kept

/-- A message that makes no request. -/
theorem told (inv : Accounted s) {message : MainToWorkerMessage} (silent : message.request = none) :
    Accounted { s with inbox := s.inbox ++ [message] } := by
  have waiting : (s.inbox ++ [message]).filterMap MainToWorkerMessage.request = s.waiting := by
    simp [SocketTab.waiting, silent]
  refine ⟨inv.kept, inv.ids, ?_, ?_, inv.settlement, inv.bounded, ?_, inv.awaited, inv.replies, inv.resolved⟩
  · simp only [SocketTab.waiting, waiting]
    exact inv.emission
  · simp only [SocketTab.waiting, waiting]
    exact inv.held
  · simp only [SocketTab.waiting, waiting]
    exact inv.order

/-- A request that is made waits for the worker. -/
theorem requested (inv : Accounted s) {message : MainToWorkerMessage} {request : RequestRef}
    (makes : message.request = some request) (fresh : request.2 ∉ s.made.map Prod.snd) :
    Accounted { s with
      inbox := s.inbox ++ [message]
      made := s.made ++ [request]
      bridge := { s.bridge with pending := s.bridge.pending ++ [request] } } := by
  have waiting : (s.inbox ++ [message]).filterMap MainToWorkerMessage.request = s.waiting ++ [request] := by
    simp [SocketTab.waiting, makes]
  refine ⟨inv.kept, ?_, fun other => ?_, fun running other => ?_, fun running other => ?_, fun other => ?_, ?_,
    inv.awaited, inv.replies, inv.resolved⟩
  · rw [List.map_append, List.map_singleton, List.nodup_append_comm]
    exact List.nodup_cons.mpr ⟨fresh, inv.ids⟩
  · have before := inv.emission other
    simp only [SocketTab.waiting, waiting, List.count_append]
    simp only [SocketTab.waiting] at before
    omega
  · have before := inv.held running other
    simp only [SocketTab.waiting, waiting, List.count_append]
    simp only [SocketTab.waiting] at before
    omega
  · have before := inv.settlement running other
    simp only [SocketTab.settled, List.count_append] at before ⊢
    omega
  · have before := inv.bounded other
    simp only [SocketTab.settled, List.count_append] at before ⊢
    omega
  · have before := inv.order
    simp only [SocketTab.waiting, waiting, sends, List.filter_append, ← List.append_assoc] at before ⊢
    exact before.append (List.Sublist.refl _)

theorem terminated (inv : Accounted s) : Accounted { s with bridge := s.bridge.terminate } := by
  refine ⟨inv.kept, inv.ids, inv.emission, (fun running => nomatch running), (fun running => nomatch running), ?_,
    inv.order, inv.awaited, inv.replies, inv.resolved⟩
  intro request
  have before := inv.bounded request
  simp only [SocketTab.settled, SocketBridge.terminate, List.count_nil] at before ⊢
  omega

end Accounted

/-- An answer that the worker gives itself rejects, whatever the request. -/
theorem parseAck_unavailable (kind : RequestKind) (message : String) :
    kind.parseAck (some (SocketWorker.unavailable message)) = .rejected message := by
  cases kind <;> rfl

section Receipt

variable {s : SocketTab} {msg : WorkerToMainMessage} {rest : List WorkerToMainMessage}

/-- A message that acknowledges nothing changes the status only. -/
theorem onmessage_silent (b : SocketBridge) (silent : answerOf msg = none) :
    b.onmessage msg = { b with status := msg.status.getD b.status } := by
  cases msg <;> first | rfl | cases silent

theorem answers_cons (posted : s.worker.posted = msg :: rest) :
    answers s.worker = (answerOf msg).toList ++ answers { s.worker with posted := rest } := by
  unfold answers
  rw [posted, List.filterMap_cons]
  cases answerOf msg <;> rfl

/-- The bridge takes the oldest message that the worker has posted. -/
theorem Accounted.received (inv : Accounted s) (posted : s.worker.posted = msg :: rest) :
    Accounted { s with worker := { s.worker with posted := rest }, bridge := s.bridge.onmessage msg } := by
  have kept : WorkerKept { s.worker with posted := rest } :=
    ⟨inv.kept.generation, inv.kept.idle, inv.kept.timed, inv.kept.fresh, inv.kept.distinct, inv.kept.heartbeat⟩
  have split := answers_cons posted
  have replies : ∀ answer ∈ answers { s.worker with posted := rest }, answer.1 ∈ emittedRequests s.worker ∨
      ∃ message, answer.2 = some (SocketWorker.unavailable message) := by
    intro answer member
    exact inv.replies answer (split ▸ List.mem_append_right _ member)
  cases answered : answerOf msg with
  | none =>
    rw [answered, Option.toList_none, List.nil_append] at split
    rw [onmessage_silent _ answered]
    refine ⟨kept, inv.ids, inv.emission, fun running request => ?_, inv.settlement, inv.bounded, inv.order, inv.awaited,
      replies, inv.resolved⟩
    have before := inv.held running request
    rw [answeredRequests, split] at before
    exact before
  | some answer =>
    obtain ⟨request, ack⟩ := answer
    have form : msg = .ack request ack := by
      cases msg <;> cases answered
      rfl
    subst form
    have origin := inv.replies (request, ack) (split ▸ List.mem_append_left _ List.mem_cons_self)
    have counted (other : RequestRef) : (answeredRequests s.worker).count other =
        [request].count other + (answeredRequests { s.worker with posted := rest }).count other := by
      rw [answeredRequests, split, List.map_append, List.count_append]
      rfl
    unfold SocketBridge.onmessage
    dsimp only
    split
    · rename_i waits
      have taken (other : RequestRef) : s.bridge.pending.count other =
          [request].count other + (s.bridge.pending.erase request).count other := by
        rw [(List.perm_cons_erase waits).count_eq, List.count_cons, List.count_cons, List.count_nil]
        omega
      refine ⟨kept, inv.ids, inv.emission, fun running other => ?_, fun running other => ?_, fun other => ?_, inv.order,
        inv.awaited, replies, ?_⟩
      · have before := inv.held running other
        have moved := counted other
        have fewer := taken other
        change (s.bridge.pending.erase request).count other = s.waiting.count other +
          (queuedRequests s.worker).count other + (awaitedRequests s.worker).count other +
            (answeredRequests { s.worker with posted := rest }).count other
        omega
      · have before := inv.settlement running other
        have fewer := taken other
        simp only [SocketTab.settled, List.map_append, List.map_singleton, List.count_append] at before ⊢
        omega
      · have before := inv.bounded other
        have fewer := taken other
        simp only [SocketTab.settled, List.map_append, List.map_singleton, List.count_append] at before ⊢
        omega
      · intro settled member value outcome
        rcases List.mem_append.mp member with before | now
        · exact inv.resolved settled before value outcome
        · rw [List.mem_singleton.mp now] at outcome ⊢
          rcases origin with out | ⟨message, own⟩
          · exact out
          · dsimp only at own outcome
            rw [own, parseAck_unavailable] at outcome
            cases outcome
    · rename_i absent
      refine ⟨kept, inv.ids, inv.emission, fun running other => ?_, inv.settlement, inv.bounded, inv.order, inv.awaited,
        replies, inv.resolved⟩
      -- A request on its way back is pending, unless the bridge has been terminated.
      have here := inv.held running request
      have none' := List.count_eq_zero.mpr absent
      have moved := counted request
      rw [List.count_singleton_self] at moved
      omega

end Receipt

/-- Every step keeps the account. -/
theorem Accounted.step {s t : SocketTab} {event : SocketTabEvent} (inv : Accounted s)
    (stepped : socketTabMachine.step s event t) : Accounted t := by
  have taken := SocketTab.next_cases stepped
  cases event with
  | call message =>
    obtain ⟨-, ⟨silent, rfl⟩ | ⟨request, makes, fresh, rfl⟩⟩ := taken
    · exact inv.told silent
    · exact inv.requested makes fresh
  | terminate =>
    obtain ⟨-, rfl⟩ := taken
    exact inv.terminated
  | workerReceives =>
    obtain ⟨-, message, rest, inbox, rfl⟩ := taken
    refine inv.moved ?_ (moves_onMessage inv.kept.idle message) (kept_onMessage inv.kept message)
    rw [SocketTab.waiting, inbox, List.filterMap_cons]
    cases message.request <;> rfl
  | mainReceives =>
    obtain ⟨msg, rest, posted, rfl⟩ := taken
    exact inv.received posted
  | timeout timeoutId =>
    obtain ⟨-, requestId, running, rfl⟩ := taken
    exact inv.acted (moves_timeout timeoutId requestId) (kept_timeout inv.kept inv.queued_nodup running)
  | heartbeat =>
    obtain ⟨-, -, rfl⟩ := taken
    exact inv.acted moves_heartbeatTick (kept_heartbeatTick inv.kept)
  | client generation event =>
    obtain ⟨-, w, fires, rfl⟩ := taken
    exact inv.acted (moves_clientFires inv.kept.generation fires) (kept_clientFires inv.kept fires)
  | acked i ack =>
    obtain ⟨-, rfl⟩ := taken
    exact inv.acted (moves_acked i ack) (kept_acked inv.kept i ack)

theorem Accounted.of_reachable {s : SocketTab} (reachable : socketTabMachine.Reachable s) : Accounted s :=
  reachable.invariant (fun _ start => Accounted.initial start) fun _ _ _ inv stepped => inv.step stepped

section Reachable

variable {s : SocketTab}

/-- A step adds to what has been emitted and refused. -/
theorem logs_grow (inv : Accounted s) {event : SocketTabEvent} {t : SocketTab}
    (stepped : socketTabMachine.step s event t) :
    s.worker.emitted <+: t.worker.emitted ∧ s.worker.refused <+: t.worker.refused := by
  have taken := SocketTab.next_cases stepped
  cases event with
  | call message =>
    obtain ⟨-, ⟨-, rfl⟩ | ⟨_, -, -, rfl⟩⟩ := taken <;> exact ⟨List.prefix_rfl, List.prefix_rfl⟩
  | terminate =>
    obtain ⟨-, rfl⟩ := taken
    exact ⟨List.prefix_rfl, List.prefix_rfl⟩
  | workerReceives =>
    obtain ⟨-, message, rest, -, rfl⟩ := taken
    exact (moves_onMessage inv.kept.idle message).logs
  | mainReceives =>
    obtain ⟨msg, rest, -, rfl⟩ := taken
    exact ⟨List.prefix_rfl, List.prefix_rfl⟩
  | timeout timeoutId =>
    obtain ⟨-, requestId, -, rfl⟩ := taken
    exact (moves_timeout timeoutId requestId).logs
  | heartbeat =>
    obtain ⟨-, -, rfl⟩ := taken
    exact moves_heartbeatTick.logs
  | client generation event =>
    obtain ⟨-, w, fires, rfl⟩ := taken
    exact (moves_clientFires inv.kept.generation fires).logs
  | acked i ack =>
    obtain ⟨-, rfl⟩ := taken
    exact (moves_acked i ack).logs

/-- A tab that has just made its bridge. -/
def opened : SocketTab := { inbox := [.connect "http://localhost" "ana" none] }

theorem reachable_of_trace {events : List SocketTabEvent} {history : List (Transition SocketTab SocketTabEvent)}
    {final : SocketTab} (executed : Machine.trace SocketTab.next opened events = some (history, final)) :
    socketTabMachine.Reachable final :=
  ⟨opened, history, ⟨_, _, _, rfl⟩, Machine.trace_run _ (fun _ _ _ stepped => stepped) executed⟩

/-- Two sends before the client has connected. -/
def twoSends : List SocketTabEvent :=
  [.call (.messageSend "1" .null), .call (.messageSend "2" .null), .workerReceives, .workerReceives, .workerReceives]

/-- A request is emitted or refused once, of those made only, and the sends are emitted in the order of their calls. -/
theorem requests_emitted_once (reachable : socketTabMachine.Reachable s) :
    (emittedRequests s.worker ++ s.worker.refused).Nodup ∧
    (∀ request ∈ emittedRequests s.worker ++ s.worker.refused, request ∈ s.made) ∧
    (sends (emittedRequests s.worker)).Sublist (sends s.made) ∧
    ∀ event t, socketTabMachine.step s event t →
      s.worker.emitted <+: t.worker.emitted ∧ s.worker.refused <+: t.worker.refused := by
  have inv := Accounted.of_reachable reachable
  refine ⟨?_, ?_, ?_, fun event t stepped => logs_grow inv stepped⟩
  · apply List.nodup_iff_count_le_one.mpr
    intro request
    have accounted := inv.emission request
    have made := inv.count_made request
    rw [List.count_append]
    omega
  · intro request member
    have accounted := inv.emission request
    have counted := List.count_pos_iff.mpr member
    rw [List.count_append] at counted
    apply List.count_pos_iff.mp
    omega
  · have all := inv.order
    rw [List.append_assoc] at all
    exact (List.sublist_append_left _ _).trans all

/-- The client connects with two sends in the queue. -/
theorem requests_emitted_once_two : ∃ s : SocketTab, s.worker.emitted.length = 2 ∧
    (emittedRequests s.worker ++ s.worker.refused).Nodup := by
  have checked : (Machine.trace SocketTab.next opened (twoSends ++ [.client 1 (.connect none)])).any
      (fun executed => executed.2.worker.emitted.length = 2) = true := by decide
  obtain ⟨⟨history, final⟩, executed, sent⟩ := (Option.any_eq_true _ _).mp checked
  exact ⟨final, of_decide_eq_true sent, (requests_emitted_once (reachable_of_trace executed)).1⟩

/-- A promise is settled once, and resolves only when its request was emitted. While the bridge runs, a request that
has been made stands at one place. -/
theorem requests_settled_once (reachable : socketTabMachine.Reachable s) :
    s.settled.Nodup ∧ (∀ request ∈ s.settled, request ∈ s.made) ∧
    (∀ settled ∈ s.bridge.settled, ∀ value, settled.2 = .resolved value → settled.1 ∈ emittedRequests s.worker) ∧
    (s.bridge.terminated = false → ∀ request ∈ s.made,
      s.waiting.count request + (queuedRequests s.worker).count request + (awaitedRequests s.worker).count request +
        (answeredRequests s.worker).count request + s.settled.count request = 1) := by
  have inv := Accounted.of_reachable reachable
  refine ⟨?_, ?_, inv.resolved, ?_⟩
  · apply List.nodup_iff_count_le_one.mpr
    intro request
    have bounded := inv.bounded request
    have made := inv.count_made request
    omega
  · intro request member
    have bounded := inv.bounded request
    have counted := List.count_pos_iff.mpr member
    apply List.count_pos_iff.mp
    omega
  · intro running request member
    have made := List.count_eq_one_of_mem inv.made_nodup member
    have settled := inv.settlement running request
    have held := inv.held running request
    omega

/-- One of two sends is acknowledged. -/
theorem requests_settled_once_two : ∃ s : SocketTab, s.bridge.settled.length = 1 ∧ s.made.length = 2 ∧ s.settled.Nodup := by
  have checked : (Machine.trace SocketTab.next opened (twoSends ++ [.client 1 (.connect none), .acked 1 none,
      .mainReceives, .mainReceives, .mainReceives])).any
      (fun executed => executed.2.bridge.settled.length = 1 ∧ executed.2.made.length = 2) = true := by decide
  obtain ⟨⟨history, final⟩, executed, both⟩ := (Option.any_eq_true _ _).mp checked
  obtain ⟨settled, made⟩ := of_decide_eq_true both
  exact ⟨final, settled, made, (requests_settled_once (reachable_of_trace executed)).1⟩

/-- A send that is queued while the socket is down has a timer that ends its wait, and no other's. -/
theorem queued_send_times_out (reachable : socketTabMachine.Reachable s) (running : s.bridge.terminated = false)
    {item : PendingSend} (queued : item ∈ s.worker.pendingMessageSendQueue) :
    s.worker.isConnected = false ∧ ∃ t, socketTabMachine.step s (.timeout item.timeoutId) t ∧
      (queuedRequests s.worker).Perm ((.messageSend, item.requestId) :: queuedRequests t.worker) ∧
      (.messageSend, item.requestId) ∉ queuedRequests t.worker ∧
      t.worker.refused = s.worker.refused ++ [(.messageSend, item.requestId)] ∧
      t.worker.emitted = s.worker.emitted := by
  have inv := Accounted.of_reachable reachable
  have timer := inv.kept.timed item queued
  constructor
  · apply Bool.eq_false_iff.mpr
    intro connected
    rw [inv.kept.idle connected] at queued
    cases queued
  · have found : s.worker.timers.find? (fun timer => timer.1 = item.timeoutId) =
        some (item.timeoutId, item.requestId) := by
      cases held : s.worker.timers.find? fun timer => timer.1 = item.timeoutId with
      | none =>
        have absent := List.find?_eq_none.mp held _ timer
        simp at absent
      | some other =>
        have named : other.1 = item.timeoutId := by simpa using List.find?_some held
        exact congrArg some (List.inj_on_of_nodup_map inv.kept.distinct (List.mem_of_find?_eq_some held) timer named)
    refine ⟨{ s with worker := s.worker.timeout item.timeoutId item.requestId }, ?_, ?_⟩
    · change SocketTab.next s (.timeout item.timeoutId) = _
      unfold SocketTab.next
      dsimp only
      rw [if_neg (Bool.eq_false_iff.mp running), found]
      rfl
    · unfold SocketWorker.timeout SocketWorker.sendTimedOut
      split
      · rename_i absent
        have other := List.findIdx?_eq_none_iff.mp absent item queued
        simp at other
      · rename_i idx found
        obtain ⟨inside, named, -⟩ := List.findIdx?_eq_some_iff_getElem.mp found
        have taken := ((List.getElem_cons_eraseIdx_perm inside).map
          fun item : PendingSend => ((.messageSend, item.requestId) : RequestRef)).symm
        rw [List.map_cons, of_decide_eq_true named] at taken
        exact ⟨taken, (List.nodup_cons.mp (taken.nodup inv.queued_nodup)).1, rfl, rfl⟩

/-- The second of two sends runs out of time. -/
theorem queued_send_times_out_two : ∃ s t, socketTabMachine.step s (.timeout 1) t ∧
    t.worker.refused = [(.messageSend, "2")] ∧ t.worker.emitted = [] := by
  have checked : (Machine.trace SocketTab.next opened twoSends).any (fun executed =>
      executed.2.bridge.terminated = false ∧ executed.2.worker.refused = [] ∧ executed.2.worker.emitted.length = 0 ∧
        executed.2.worker.pendingMessageSendQueue.any fun item => item.timeoutId = 1 ∧ item.requestId = "2") = true := by
    decide
  obtain ⟨⟨history, final⟩, executed, holds⟩ := (Option.any_eq_true _ _).mp checked
  obtain ⟨running, refused, emitted, queued⟩ := of_decide_eq_true holds
  obtain ⟨item, member, both⟩ := List.any_eq_true.mp queued
  obtain ⟨timer, named⟩ := of_decide_eq_true both
  obtain ⟨-, t, stepped, -, -, refusals, emissions⟩ := queued_send_times_out (reachable_of_trace executed) running member
  rw [timer] at stepped
  dsimp only at refused emitted
  rw [refused, named] at refusals
  rw [List.length_eq_zero_iff.mp emitted] at emissions
  exact ⟨final, t, stepped, refusals, emissions⟩

end Reachable

end MessagingSystem.Guarantees.RequestsAccounted
