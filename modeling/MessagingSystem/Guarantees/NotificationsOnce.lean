import MessagingSystem.Source.Client.NotificationsSlice

/-!
# Notifications are appended once

The queue keeps the last hundred rows and the record of seen ids exactly their ids,
so an id is forgotten with its row: an id that comes back is kept out exactly while
it is among the hundred that arrived last for the first time.
-/
namespace MessagingSystem.Guarantees.NotificationsOnce
open Foundation Source.Client

/-- One `appendInboundNotification`, with the clock text its reducer draws. -/
structure Arrival where
  payload : ParsedNotificationPayload
  receivedAt : String

def Arrival.id (a : Arrival) : String := a.payload.notificationId

def Arrival.row (a : Arrival) : InboundNotificationRow := inboundRow a.payload a.receivedAt

/-- The slice, and every row it has appended so far. -/
structure NotificationLog where
  state : NotificationsState := notificationsInitialState
  appended : List InboundNotificationRow := []

def NotificationLog.receive (log : NotificationLog) (a : Arrival) : NotificationLog where
  state := appendInboundNotification log.state a.payload a.receivedAt
  appended := if log.state.isSeen a.id then log.appended else log.appended ++ [a.row]

def received (arrivals : List Arrival) : NotificationLog := arrivals.foldl NotificationLog.receive {}

/-- The ids in the order of their first arrival, but for the names that every object has. -/
def firstArrivals (ids : List String) : List String :=
  ids.foldl (fun firsts id => if id ∈ firsts ∨ id ∈ objectPrototypeNames then firsts else firsts ++ [id]) []

/-- An id that comes back is then among the hundred that arrived last for the first time. -/
def ReturnsEarly (ids : List String) : Prop :=
  ∀ before id after, ids = before ++ id :: after → id ∈ firstArrivals before → id ∈ latest (firstArrivals before)

/-- The contract of the queue. -/
structure DeliveredOnce (arrivals : List Arrival) : Prop where
  bounded : ∀ before, before <+: arrivals → (received before).state.inbound.length ≤ MAX_INBOUND
  distinct : ∀ before, before <+: arrivals → (rowIds (received before).state.inbound).Nodup
  ordered : ∀ before, before <+: arrivals → (received before).state.inbound.Sublist (before.map Arrival.row)
  once : (rowIds (received arrivals).appended).Nodup

section Queue

theorem received_snoc (arrivals : List Arrival) (a : Arrival) :
    received (arrivals ++ [a]) = (received arrivals).receive a := by
  unfold received
  rw [List.foldl_append]
  rfl

theorem firstArrivals_snoc (ids : List String) (id : String) :
    firstArrivals (ids ++ [id]) = if id ∈ firstArrivals ids ∨ id ∈ objectPrototypeNames then firstArrivals ids
      else firstArrivals ids ++ [id] := by
  unfold firstArrivals
  rw [List.foldl_append]
  rfl

theorem receive_seen {log : NotificationLog} {a : Arrival} (seen : log.state.isSeen a.id = true) :
    log.receive a = log := by
  have ignored : appendInboundNotification log.state a.payload a.receivedAt = log.state := if_pos seen
  unfold NotificationLog.receive
  rw [ignored, if_pos seen]

theorem receive_unseen {log : NotificationLog} {a : Arrival} (unseen : ¬ log.state.isSeen a.id = true) :
    log.receive a = ⟨shiftWhileLong (log.state.inbound ++ [a.row])
      (assignProperty log.state.seenNotificationIds a.id true), log.appended ++ [a.row]⟩ := by
  have pushed : appendInboundNotification log.state a.payload a.receivedAt =
      shiftWhileLong (log.state.inbound ++ [a.row]) (assignProperty log.state.seenNotificationIds a.id true) :=
    if_neg unseen
  unfold NotificationLog.receive
  rw [pushed, if_neg unseen]

/-- What the slice keeps. -/
structure Kept (log : NotificationLog) : Prop where
  inbound : log.state.inbound = latest log.appended
  distinct : (rowIds log.state.inbound).Nodup
  seen : SeenRows log.state.inbound log.state.seenNotificationIds

theorem Kept.isSeen_iff {log : NotificationLog} (kept : Kept log) (id : String) :
    log.state.isSeen id = true ↔ id ∈ latest (rowIds log.appended) ∨ id ∈ objectPrototypeNames := by
  have here := kept.seen id
  have ids : rowIds log.state.inbound = latest (rowIds log.appended) := by
    rw [kept.inbound]
    exact latest_map _ _
  rw [ids] at here
  unfold NotificationsState.isSeen readProperty
  rw [here]
  by_cases queued : id ∈ latest (rowIds log.appended)
  · simp [queued]
  · by_cases inherited : id ∈ objectPrototypeNames
    · simp [queued, inherited]
    · simp [queued, inherited]

theorem kept_receive {log : NotificationLog} (kept : Kept log) (a : Arrival) : Kept (log.receive a) := by
  by_cases seen : log.state.isSeen a.id = true
  · rwa [receive_seen seen]
  · have fresh : ¬ (a.id ∈ latest (rowIds log.appended) ∨ a.id ∈ objectPrototypeNames) := by
      rwa [← kept.isSeen_iff]
    obtain ⟨absent, own⟩ := not_or.mp fresh
    rw [rowIds, ← latest_map, ← kept.inbound] at absent
    have distinct : (rowIds (log.state.inbound ++ [a.row])).Nodup := by
      unfold rowIds
      rw [List.map_append]
      apply List.nodup_append.mpr
      refine ⟨kept.distinct, List.nodup_singleton _, ?_⟩
      rintro id before other here rfl
      rw [List.mem_singleton.mp here] at before
      exact absent before
    have proto : a.id ≠ "__proto__" := by
      intro same
      rw [same] at own
      exact own (by decide)
    have holds : SeenRows (log.state.inbound ++ [a.row]) (assignProperty log.state.seenNotificationIds a.id true) := by
      intro id
      rw [get_assignProperty, kept.seen id]
      have here : a.row.notificationId = a.id := rfl
      by_cases same : id = a.id
      · simp [rowIds, same, proto, here]
      · simp [rowIds, same, here]
    obtain ⟨rows, record⟩ := shiftWhileLong_latest distinct holds
    have queue : (shiftWhileLong (log.state.inbound ++ [a.row])
        (assignProperty log.state.seenNotificationIds a.id true)).inbound = latest (log.appended ++ [a.row]) := by
      rw [rows, kept.inbound, latest_latest_append]
    rw [receive_unseen seen]
    constructor
    · exact queue
    · dsimp only
      rw [rows]
      exact distinct.sublist ((latest_suffix _).sublist.map _)
    · dsimp only
      rw [rows]
      exact record

theorem received_kept (arrivals : List Arrival) : Kept (received arrivals) := by
  induction arrivals using List.reverseRecOn with
  | nil => exact ⟨rfl, List.nodup_nil, fun _ => rfl⟩
  | append_singleton arrivals a ih =>
    rw [received_snoc]
    exact kept_receive ih a

/-- The rows that have been appended are rows of the arrivals, in their order. -/
theorem appended_sublist (arrivals : List Arrival) :
    (received arrivals).appended.Sublist (arrivals.map Arrival.row) := by
  induction arrivals using List.reverseRecOn with
  | nil => exact List.Sublist.refl _
  | append_singleton arrivals a ih =>
    rw [received_snoc, List.map_append]
    unfold NotificationLog.receive
    dsimp only
    split
    · exact ih.trans (List.sublist_append_left _ _)
    · exact ih.append (List.Sublist.refl _)

/-- The queue is as promised whatever arrives. -/
theorem received_queue (arrivals : List Arrival) :
    (received arrivals).state.inbound.length ≤ MAX_INBOUND ∧ (rowIds (received arrivals).state.inbound).Nodup ∧
      (received arrivals).state.inbound.Sublist (arrivals.map Arrival.row) := by
  have kept := received_kept arrivals
  have suffix : (received arrivals).state.inbound <:+ (received arrivals).appended := by
    rw [kept.inbound]
    exact latest_suffix _
  refine ⟨?_, kept.distinct, suffix.sublist.trans (appended_sublist arrivals)⟩
  rw [kept.inbound]
  exact latest_length _

end Queue

section Once

/-- Where no id has been appended twice, the ids appended are the first arrivals. -/
theorem appended_first {arrivals : List Arrival} (once : (rowIds (received arrivals).appended).Nodup) :
    rowIds (received arrivals).appended = firstArrivals (arrivals.map Arrival.id) := by
  induction arrivals using List.reverseRecOn with
  | nil => rfl
  | append_singleton arrivals a ih =>
    rw [received_snoc] at once ⊢
    rw [List.map_append, List.map_singleton, firstArrivals_snoc]
    by_cases seen : (received arrivals).state.isSeen a.id = true
    · rw [receive_seen seen] at once ⊢
      rw [← ih once, if_pos]
      exact (((received_kept arrivals).isSeen_iff a.id).mp seen).imp_left fun queued => (latest_suffix _).mem queued
    · rw [receive_unseen seen] at once ⊢
      unfold rowIds at once ⊢
      rw [List.map_append] at once ⊢
      obtain ⟨before, -, apart⟩ := List.nodup_append.mp once
      have absent := (not_or.mp (fun both => seen (((received_kept arrivals).isSeen_iff a.id).mpr both))).2
      rw [← ih before, if_neg]
      · rfl
      · rintro (again | inherited)
        · exact apart _ again _ (List.mem_singleton.mpr rfl) rfl
        · exact absent inherited

theorem returnsEarly_snoc (ids : List String) (id : String) :
    ReturnsEarly (ids ++ [id]) ↔ ReturnsEarly ids ∧ (id ∈ firstArrivals ids → id ∈ latest (firstArrivals ids)) := by
  constructor
  · intro early
    refine ⟨fun before other after split => ?_, early ids id [] rfl⟩
    exact early before other (after ++ [id]) (by rw [split, List.append_assoc, List.cons_append])
  · rintro ⟨early, last⟩ before other after split
    rcases List.eq_nil_or_concat after with none | ⟨front, final, cut⟩
    · rw [none] at split
      obtain ⟨same, here⟩ := List.append_inj' split rfl
      cases here
      exact same ▸ last
    · rw [List.concat_eq_append] at cut
      rw [cut, ← List.cons_append, ← List.append_assoc] at split
      exact early before other front (List.append_inj' split rfl).1

theorem firstArrivals_own {ids : List String} {id : String} (first : id ∈ firstArrivals ids) :
    id ∉ objectPrototypeNames := by
  induction ids using List.reverseRecOn with
  | nil => cases first
  | append_singleton ids other ih =>
    rw [firstArrivals_snoc] at first
    split at first
    · exact ih first
    · rename_i fresh
      rcases List.mem_append.mp first with before | here
      · exact ih before
      · rw [List.mem_singleton.mp here]
        exact (not_or.mp fresh).2

/-- An arrival is appended again only if its id is not seen. -/
theorem once_receive (log : NotificationLog) (a : Arrival) :
    (rowIds (log.receive a).appended).Nodup ↔
      (rowIds log.appended).Nodup ∧ (a.id ∈ rowIds log.appended → log.state.isSeen a.id = true) := by
  by_cases seen : log.state.isSeen a.id = true
  · rw [receive_seen seen]
    exact ⟨fun once => ⟨once, fun _ => seen⟩, And.left⟩
  · rw [receive_unseen seen]
    unfold rowIds
    rw [List.map_append, List.map_singleton, List.nodup_append]
    constructor
    · rintro ⟨once, -, apart⟩
      exact ⟨once, fun again => absurd rfl (apart _ again _ (List.mem_singleton.mpr rfl))⟩
    · rintro ⟨once, only⟩
      refine ⟨once, List.nodup_singleton _, ?_⟩
      rintro id before other here rfl
      rw [List.mem_singleton.mp here] at before
      exact seen (only before)

/-- No id is appended twice exactly when each id that comes back does so early. -/
theorem once_iff (arrivals : List Arrival) :
    (rowIds (received arrivals).appended).Nodup ↔ ReturnsEarly (arrivals.map Arrival.id) := by
  induction arrivals using List.reverseRecOn with
  | nil =>
    refine ⟨fun _ before id after split => ?_, fun _ => List.nodup_nil⟩
    have impossible : before ++ id :: after ≠ [] := by simp
    exact absurd split.symm impossible
  | append_singleton arrivals a ih =>
    rw [received_snoc, List.map_append, List.map_singleton, returnsEarly_snoc, ← ih, once_receive,
      (received_kept arrivals).isSeen_iff]
    apply and_congr_right
    intro once
    rw [appended_first once]
    constructor
    · intro kept first
      exact (kept first).resolve_right (firstArrivals_own first)
    · intro kept first
      exact .inl (kept first)

/-- The queue is bounded, distinct and in arrival order whatever arrives, and no id is appended twice exactly
when each id that comes back is among the hundred that arrived last for the first time. -/
theorem delivered_once_iff (arrivals : List Arrival) :
    DeliveredOnce arrivals ↔ ReturnsEarly (arrivals.map Arrival.id) := by
  constructor
  · intro delivered
    exact (once_iff arrivals).mp delivered.once
  · intro early
    exact {
      bounded := fun before _ => (received_queue before).1
      distinct := fun before _ => (received_queue before).2.1
      ordered := fun before _ => (received_queue before).2.2
      once := (once_iff arrivals).mpr early }

end Once

section Eviction

theorem firstArrivals_distinct {ids : List String} (distinct : ids.Nodup)
    (own : ∀ id ∈ ids, id ∉ objectPrototypeNames) : firstArrivals ids = ids := by
  induction ids using List.reverseRecOn with
  | nil => rfl
  | append_singleton ids id ih =>
    obtain ⟨before, -, apart⟩ := List.nodup_append.mp distinct
    have fresh : id ∉ ids := fun again => apart id again id (List.mem_singleton.mpr rfl) rfl
    have others : ∀ other ∈ ids, other ∉ objectPrototypeNames :=
      fun other among => own other (List.mem_append_left _ among)
    have proper : id ∉ objectPrototypeNames := own id (List.mem_append_right _ (List.mem_singleton.mpr rfl))
    rw [firstArrivals_snoc, ih before others, if_neg (not_or.mpr ⟨fresh, proper⟩)]

/-- A hundred other ids push an id out. -/
theorem evicted_returns {id : String} {others : List String} (full : others.length = MAX_INBOUND)
    (distinct : (id :: others).Nodup) (own : ∀ other ∈ id :: others, other ∉ objectPrototypeNames) :
    ¬ ReturnsEarly (id :: others ++ [id]) := by
  intro early
  have firsts := firstArrivals_distinct distinct own
  have kept := early (id :: others) id [] rfl
  have window : latest (id :: others) = others := by
    unfold latest
    rw [List.length_cons, full, Nat.add_sub_cancel_left, List.drop_succ_cons, List.drop_zero]
  rw [firsts, window] at kept
  exact (List.nodup_cons.mp distinct).1 (kept List.mem_cons_self)

/-- The letter a, one time more than the number. -/
def floodId (n : Nat) : String := String.ofList (List.replicate (n + 1) 'a')

def flood (n : Nat) : Arrival where
  payload := { notificationId := floodId n }
  receivedAt := "2026-01-01T00:00:00.000Z"

theorem floodId_injective : Function.Injective floodId := by
  intro m n same
  have lists := String.ofList_injective same
  have lengths := congrArg List.length lists
  simp only [List.length_replicate] at lengths
  omega

theorem floodId_own (n : Nat) : floodId n ∉ objectPrototypeNames := by
  have letters : (objectPrototypeNames.all fun name => name.toList.any fun c => decide (c ≠ 'a')) = true := by
    decide
  intro among
  obtain ⟨c, inside, other⟩ := List.any_eq_true.mp (List.all_eq_true.mp letters _ among)
  rw [floodId, String.toList_ofList] at inside
  exact of_decide_eq_true other (List.eq_of_mem_replicate inside)

/-- The row of the first of 101 notifications is evicted, and the same notification is appended again. -/
theorem evicted_row_returns : ¬ ∀ arrivals, DeliveredOnce arrivals := by
  intro promised
  have once := (once_iff _).mp (promised ((List.range 101).map flood ++ [flood 0])).once
  have ids : ((List.range 101).map flood ++ [flood 0]).map Arrival.id =
      floodId 0 :: ((List.range' 1 100).map floodId) ++ [floodId 0] := by
    have numbers : List.range 101 = 0 :: List.range' 1 100 := rfl
    rw [numbers, List.map_append, List.map_map, List.map_cons]
    rfl
  have numbers : floodId 0 :: (List.range' 1 100).map floodId = (List.range' 0 101).map floodId := rfl
  rw [ids] at once
  refine evicted_returns ?_ ?_ ?_ once
  · simp [MAX_INBOUND]
  · rw [numbers]
    exact List.Nodup.map floodId_injective List.nodup_range'
  · rw [numbers]
    intro other among
    obtain ⟨n, -, here⟩ := List.mem_map.mp among
    exact here ▸ floodId_own n

end Eviction

end MessagingSystem.Guarantees.NotificationsOnce
