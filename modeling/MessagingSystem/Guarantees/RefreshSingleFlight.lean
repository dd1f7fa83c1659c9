import MessagingSystem.Protocol.HttpRequests

/-!
# One refresh at a time

Calls that are answered 401 share one invocation of `performRefresh`, and each is sent
once more when it succeeds. So no call leaves the tab more than twice, each ends once,
and none waits for a refresh that is over.
-/
namespace MessagingSystem.Guarantees.RefreshSingleFlight
open Foundation Source.Client Protocol

/-- Every call that has been made, but for one that is about to be sent, is open or settled, once, and has left the
tab as often as its mark says. -/
structure CallsKept (pathname : String → Option String) (but : Option Nat) (s : HttpTab) : Prop where
  places : ∀ call, some call ≠ but → openCount s call + settledCount s call = if call < s.calls then 1 else 0
  sends : ∀ request ∈ s.requests, some request.call ≠ but →
    sentCount s request.call = if request.config.retryAfterRefresh then 2 else 1
  firsts : ∀ request ∈ s.requests, request.waitsFor.isSome = true → request.config.retryAfterRefresh = false
  twice : ∀ call, sentCount s call ≤ 2
  known : ∀ sent ∈ s.sent, sent.call < s.calls
  bearer : ∀ sent ∈ s.sent, sent.config.retryAfterRefresh = true →
    ∃ token, token ≠ "" ∧ sent.config.authorization = some ("Bearer " ++ token)
  gate : ∀ sent ∈ s.sent, sent.blocked = true → sent.config.skipDeviceSyncMessagingGate = true ∨
    urlPathBlocksMessagingRest pathname sent.config.url = false

/-- The promise is that of the one invocation that runs, which has posted once for each of its attempts. -/
structure RefreshKept (s : HttpTab) : Prop where
  single : s.refreshCalls.map RefreshCall.id = s.refreshPromise.toList
  waits : ∀ request ∈ s.requests, ∀ run, request.waitsFor = some run → s.refreshPromise = some run
  posts : ∀ run, postCount s run ≤ MAX_REFRESH_ATTEMPTS
  attempts : ∀ run ∈ s.refreshCalls, postCount s run.id = run.attempt ∧ run.attempt ≤ MAX_REFRESH_ATTEMPTS ∧
    (run.posting = false → run.attempt < MAX_REFRESH_ATTEMPTS)
  tokens : ∀ run ∈ s.refreshCalls, ∀ post ∈ s.refreshPosts, post.refreshCall = run.id →
    post.refreshToken = run.refreshToken
  started : ∀ post ∈ s.refreshPosts, post.refreshCall < s.nextRefresh
  running : ∀ run ∈ s.refreshCalls, run.id < s.nextRefresh
  agree : ∀ post ∈ s.refreshPosts, ∀ other ∈ s.refreshPosts, post.refreshCall = other.refreshCall →
    post.refreshToken = other.refreshToken

section Counts

variable {pathname : String → Option String} {s : HttpTab}

theorem CallsKept.open_of_mem (kept : CallsKept pathname none s) {request : HttpRequest} (held : request ∈ s.requests) :
    request.call < s.calls ∧ settledCount s request.call = 0 ∧ openCount s request.call = 1 := by
  have counted : 0 < openCount s request.call := List.count_pos_iff.mpr (List.mem_map_of_mem held)
  have place := kept.places request.call (by simp)
  split at place
  · rename_i made
    exact ⟨made, by omega, by omega⟩
  · omega

/-- One request is open for a call. -/
theorem CallsKept.unique (kept : CallsKept pathname none s) : (s.requests.map HttpRequest.call).Nodup := by
  apply List.nodup_iff_count_le_one.mpr
  intro call
  have place := kept.places call (by simp)
  unfold openCount at place
  split at place <;> omega

theorem CallsKept.unsent {but : Option Nat} (kept : CallsKept pathname but s) : sentCount s s.calls = 0 := by
  apply List.count_eq_zero.mpr
  intro member
  obtain ⟨sent, held, same⟩ := List.mem_map.mp member
  have before := kept.known sent held
  omega

end Counts

section Calls

variable {pathname : String → Option String} {s : HttpTab}

theorem CallsKept.settled (kept : CallsKept pathname none s) {request : HttpRequest} (held : request ∈ s.requests)
    (outcome : HttpOutcome) : CallsKept pathname none (s.settle request.call outcome) := by
  obtain ⟨made, unsettled, -⟩ := kept.open_of_mem held
  refine ⟨fun call any => ?_, fun other member => ?_, fun other member => ?_, kept.twice, kept.known, kept.bearer,
    kept.gate⟩
  · rw [settle_places]
    split
    · rename_i same
      rw [same, unsettled, show (s.settle request.call outcome).calls = s.calls from rfl, if_pos made]
    · exact kept.places call any
  · exact kept.sends other (List.mem_of_mem_filter member)
  · exact kept.firsts other (List.mem_of_mem_filter member)

theorem CallsKept.cleared (kept : CallsKept pathname none s) : CallsKept pathname none s.clearSessionAndLogin :=
  ⟨kept.places, kept.sends, kept.firsts, kept.twice, kept.known, kept.bearer, kept.gate⟩

/-- A call may be sent when it has left the tab as often as its mark allows. -/
theorem CallsKept.requested {call : Nat} {config : RequestConfig} (kept : CallsKept pathname (some call) s)
    (unsettled : settledCount s call = 0) (made : call < s.calls)
    (allowed : sentCount s call = if config.retryAfterRefresh then 1 else 0)
    (token : config.retryAfterRefresh = true →
      ∃ token, token ≠ "" ∧ config.authorization = some ("Bearer " ++ token)) :
    CallsKept pathname none (s.request pathname call config) := by
  have frame := (@request_frame pathname s call config).2.2.2.2.2.2.2
  have places' (other : Nat) : openCount (s.request pathname call config) other +
      settledCount (s.request pathname call config) other =
        if other < (s.request pathname call config).calls then 1 else 0 := by
    rw [request_places, frame]
    by_cases here : other = call
    · rw [if_pos here, unsettled, here, if_pos made]
    · rw [if_neg here]
      exact kept.places other (by simpa using here)
  have old {request : HttpRequest} (member : request ∈ s.requests.filter fun request => request.call ≠ call) :
      request ∈ s.requests ∧ some request.call ≠ some call := by
    obtain ⟨held, other⟩ := List.mem_filter.mp member
    exact ⟨held, by simpa using other⟩
  rcases @request_sent pathname s call config with ⟨sent, requests⟩ | ⟨open', sent, requests⟩
  · have counts (other : Nat) : sentCount (s.request pathname call config) other = sentCount s other := by
      unfold sentCount
      rw [sent]
    refine ⟨fun other _ => places' other, ?_, ?_, ?_, ?_, ?_, ?_⟩
    · intro request member _
      rw [requests] at member
      rw [counts]
      exact kept.sends request (old member).1 (old member).2
    · intro request member
      rw [requests] at member
      exact kept.firsts request (old member).1
    · intro other
      rw [counts]
      exact kept.twice other
    · rw [sent, frame]
      exact kept.known
    · rw [sent]
      exact kept.bearer
    · rw [sent]
      exact kept.gate
  · obtain ⟨url, skips, marked, header⟩ := @authorize_eq s config
    have counts (other : Nat) : sentCount (s.request pathname call config) other =
        sentCount s other + if other = call then 1 else 0 := by
      unfold sentCount
      rw [sent, List.map_append, List.count_append, List.map_singleton, List.count_singleton]
      by_cases here : other = call
      · rw [if_pos here, if_pos (by simpa using here.symm)]
      · rw [if_neg here, if_neg (by simpa using Ne.symm here)]
    refine ⟨fun other _ => places' other, ?_, ?_, ?_, ?_, ?_, ?_⟩
    · intro request member _
      rw [requests] at member
      rw [counts]
      rcases List.mem_append.mp member with before | now
      · rw [if_neg fun same => (old before).2 (congrArg some same)]
        exact kept.sends request (old before).1 (old before).2
      · rw [List.mem_singleton.mp now]
        dsimp only
        rw [if_pos rfl, allowed, marked]
        split <;> rfl
    · intro request member waiting
      rw [requests] at member
      rcases List.mem_append.mp member with before | now
      · exact kept.firsts request (old before).1 waiting
      · rw [List.mem_singleton.mp now] at waiting
        cases waiting
    · intro other
      rw [counts]
      by_cases here : other = call
      · rw [if_pos here, here, allowed]
        split <;> omega
      · rw [if_neg here]
        exact kept.twice other
    · intro entry member
      rw [sent] at member
      rw [frame]
      rcases List.mem_append.mp member with before | now
      · exact kept.known entry before
      · rw [List.mem_singleton.mp now]
        exact made
    · intro entry member retry
      rw [sent] at member
      rcases List.mem_append.mp member with before | now
      · exact kept.bearer entry before retry
      · rw [List.mem_singleton.mp now] at retry ⊢
        dsimp only at retry ⊢
        rw [marked] at retry
        rcases header with same | fresh
        · rw [same]
          exact token retry
        · exact fresh
    · intro entry member blocked
      rw [sent] at member
      rcases List.mem_append.mp member with before | now
      · exact kept.gate entry before blocked
      · rw [List.mem_singleton.mp now] at blocked ⊢
        dsimp only at blocked ⊢
        rw [url, skips]
        unfold HttpTab.gates at open'
        rw [blocked, Bool.and_true] at open'
        cases skip : config.skipDeviceSyncMessagingGate with
        | true => exact .inl rfl
        | false =>
          rw [skip] at open'
          exact .inr open'

end Calls

section Refreshes

variable {pathname : String → Option String} {s t : HttpTab}

/-- The invocation that runs is the only one. -/
theorem RefreshKept.alone (kept : RefreshKept s) {run : RefreshCall} (held : run ∈ s.refreshCalls) :
    s.refreshCalls = [run] ∧ s.refreshPromise = some run.id := by
  have single := kept.single
  cases promise : s.refreshPromise with
  | none =>
    rw [promise, Option.toList_none, List.map_eq_nil_iff] at single
    rw [single] at held
    cases held
  | some id =>
    rw [promise, Option.toList_some] at single
    obtain ⟨other, all, rfl⟩ := List.map_eq_singleton_iff.mp single
    rw [all] at held
    obtain rfl := List.mem_singleton.mp held
    exact ⟨all, rfl⟩

/-- A step that leaves the refresh alone and makes no request wait. -/
theorem RefreshKept.of_same (kept : RefreshKept s) (promise : t.refreshPromise = s.refreshPromise)
    (calls : t.refreshCalls = s.refreshCalls) (next : t.nextRefresh = s.nextRefresh)
    (posts : t.refreshPosts = s.refreshPosts)
    (requests : ∀ request ∈ t.requests, request.waitsFor = none ∨ request ∈ s.requests) : RefreshKept t := by
  have counts (run : Nat) : postCount t run = postCount s run := by
    unfold postCount
    rw [posts]
  refine ⟨?_, fun request member run waits => ?_, fun run => ?_, ?_, ?_, ?_, ?_, ?_⟩
  · rw [calls, promise]
    exact kept.single
  · rw [promise]
    rcases requests request member with free | before
    · rw [free] at waits
      cases waits
    · exact kept.waits request before run waits
  · rw [counts]
    exact kept.posts run
  · simp only [calls, counts]
    exact kept.attempts
  · rw [calls, posts]
    exact kept.tokens
  · rw [posts, next]
    exact kept.started
  · rw [calls, next]
    exact kept.running
  · rw [posts]
    exact kept.agree

theorem RefreshKept.settled (kept : RefreshKept s) (call : Nat) (outcome : HttpOutcome) :
    RefreshKept (s.settle call outcome) :=
  kept.of_same rfl rfl rfl rfl fun _ member => .inr (List.mem_of_mem_filter member)

theorem RefreshKept.cleared (kept : RefreshKept s) : RefreshKept s.clearSessionAndLogin :=
  kept.of_same rfl rfl rfl rfl fun _ => .inr

/-- Requests that are sent do not wait, and the others stay. -/
theorem request_requests (call : Nat) (config : RequestConfig) :
    ∀ request ∈ (s.request pathname call config).requests, request.waitsFor = none ∨
      (request ∈ s.requests ∧ request.call ≠ call) := by
  have old {request : HttpRequest} (member : request ∈ s.requests.filter fun request => request.call ≠ call) :
      request ∈ s.requests ∧ request.call ≠ call := by
    obtain ⟨held, other⟩ := List.mem_filter.mp member
    exact ⟨held, of_decide_eq_true other⟩
  intro request member
  rcases @request_sent pathname s call config with ⟨-, requests⟩ | ⟨-, -, requests⟩
  · rw [requests] at member
    exact .inr (old member)
  · rw [requests] at member
    rcases List.mem_append.mp member with before | now
    · exact .inr (old before)
    · rw [List.mem_singleton.mp now]
      exact .inl rfl

theorem RefreshKept.requested (kept : RefreshKept s) (call : Nat) (config : RequestConfig) :
    RefreshKept (s.request pathname call config) := by
  obtain ⟨-, -, -, promise, calls, next, posts, -⟩ := @request_frame pathname s call config
  exact kept.of_same promise calls next posts fun request member =>
    (request_requests call config request member).imp_right And.left

theorem postCount_append (posts : List RefreshPost) (run : RefreshCall) (token : Option String) (other : Nat) :
    ((posts ++ [RefreshPost.mk run.id run.refreshToken token]).map RefreshPost.refreshCall).count other =
      (posts.map RefreshPost.refreshCall).count other + if other = run.id then 1 else 0 := by
  rw [List.map_append, List.count_append, List.map_singleton, List.count_singleton]
  by_cases here : other = run.id
  · rw [if_pos here, if_pos (by simpa using here.symm)]
  · rw [if_neg here, if_neg (by simpa using Ne.symm here)]

/-- The first attempt, when no invocation runs. -/
theorem RefreshKept.performed (kept : RefreshKept s) (idle : s.refreshPromise = none) (rt : String) :
    RefreshKept { s.performRefresh rt with refreshPromise := some s.nextRefresh } := by
  have single := kept.single
  rw [idle, Option.toList_none, List.map_eq_nil_iff] at single
  have fresh : postCount s s.nextRefresh = 0 := by
    apply List.count_eq_zero.mpr
    intro member
    obtain ⟨post, held, same⟩ := List.mem_map.mp member
    have before := kept.started post held
    omega
  have counts (other : Nat) : postCount { s.performRefresh rt with refreshPromise := some s.nextRefresh } other =
      postCount s other + if other = s.nextRefresh then 1 else 0 :=
    postCount_append s.refreshPosts ⟨s.nextRefresh, rt, 1, true⟩ _ other
  have calls : (s.performRefresh rt).refreshCalls = [⟨s.nextRefresh, rt, 1, true⟩] := by
    unfold HttpTab.performRefresh
    dsimp only
    rw [single, List.nil_append]
  refine ⟨?_, fun request member run waits => ?_, fun run => ?_, fun run member => ?_, fun run member post posted same => ?_,
    fun post posted => ?_, fun run member => ?_, fun post posted other listed same => ?_⟩
  · dsimp only
    rw [calls]
    rfl
  · have before := kept.waits request member run waits
    rw [idle] at before
    cases before
  · rw [counts]
    split
    · rename_i here
      rw [here, fresh]
      decide
    · exact kept.posts run
  · dsimp only at member
    rw [calls] at member
    rw [List.mem_singleton.mp member, counts, if_pos rfl, fresh]
    exact ⟨rfl, Nat.le_of_ble_eq_true rfl, fun stopped => nomatch stopped⟩
  · dsimp only at member
    rw [calls] at member
    rw [List.mem_singleton.mp member] at same ⊢
    rcases List.mem_append.mp posted with before | now
    · have older := kept.started post before
      dsimp only at same
      omega
    · rw [List.mem_singleton.mp now]
  · rcases List.mem_append.mp posted with before | now
    · exact Nat.lt_succ_of_lt (kept.started post before)
    · rw [List.mem_singleton.mp now]
      exact Nat.lt_succ_self _
  · dsimp only at member
    rw [calls] at member
    rw [List.mem_singleton.mp member]
    exact Nat.lt_succ_self _
  · rcases List.mem_append.mp posted with before | now
    · rcases List.mem_append.mp listed with before' | now'
      · exact kept.agree post before other before' same
      · rw [List.mem_singleton.mp now'] at same
        have older := kept.started post before
        dsimp only at same
        omega
    · rcases List.mem_append.mp listed with before' | now'
      · rw [List.mem_singleton.mp now] at same
        have older := kept.started other before'
        dsimp only at same
        omega
      · rw [List.mem_singleton.mp now, List.mem_singleton.mp now']

/-- A request begins to wait for the promise. -/
theorem RefreshKept.awaited (kept : RefreshKept s) (call : Nat) {run : Nat} (promise : s.refreshPromise = some run) :
    RefreshKept (s.await call run) := by
  refine ⟨kept.single, fun request member other waits => ?_, kept.posts, kept.attempts, kept.tokens, kept.started,
    kept.running, kept.agree⟩
  obtain ⟨before, held, rfl⟩ := List.mem_map.mp member
  split at waits
  · cases waits
    exact promise
  · exact kept.waits before held other waits

/-- An attempt that failed sleeps. -/
theorem RefreshKept.slept (kept : RefreshKept s) {run : RefreshCall} (held : run ∈ s.refreshCalls)
    (more : run.attempt ≠ MAX_REFRESH_ATTEMPTS) :
    RefreshKept { s with refreshCalls := s.refreshCalls.map fun other =>
      if other.id = run.id then { other with posting := false } else other } := by
  obtain ⟨all, promise⟩ := kept.alone held
  have slept : (s.refreshCalls.map fun other => if other.id = run.id then { other with posting := false } else other) =
      [{ run with posting := false }] := by
    rw [all, List.map_singleton, if_pos rfl]
  obtain ⟨counted, few, -⟩ := kept.attempts run held
  rw [slept]
  refine ⟨?_, kept.waits, kept.posts, fun other member => ?_, fun other member post posted same => ?_, kept.started,
    fun other member => ?_, kept.agree⟩
  · rw [promise]
    rfl
  · rw [List.mem_singleton.mp member]
    exact ⟨counted, few, fun _ => Nat.lt_of_le_of_ne few more⟩
  · rw [List.mem_singleton.mp member] at same ⊢
    exact kept.tokens run held post posted same
  · rw [List.mem_singleton.mp member]
    exact kept.running run held

/-- The next attempt presents the same token. -/
theorem RefreshKept.again (kept : RefreshKept s) {run : RefreshCall} (held : run ∈ s.refreshCalls)
    (asleep : run.posting = false) : RefreshKept (s.refreshAgain run) := by
  obtain ⟨all, promise⟩ := kept.alone held
  obtain ⟨counted, -, more⟩ := kept.attempts run held
  have few := more asleep
  have woken : (s.refreshAgain run).refreshCalls = [{ run with attempt := run.attempt + 1, posting := true }] := by
    unfold HttpTab.refreshAgain
    dsimp only
    rw [all, List.map_singleton, if_pos rfl]
  have counts (other : Nat) : postCount (s.refreshAgain run) other =
      postCount s other + if other = run.id then 1 else 0 :=
    postCount_append s.refreshPosts run _ other
  have token (post : RefreshPost) (posted : post ∈ s.refreshPosts) (same : post.refreshCall = run.id) :
      post.refreshToken = run.refreshToken := kept.tokens run held post posted same
  refine ⟨?_, kept.waits, fun other => ?_, fun other member => ?_, fun other member post posted same => ?_,
    fun post posted => ?_, fun other member => ?_, fun post posted other listed same => ?_⟩
  · rw [woken, show (s.refreshAgain run).refreshPromise = s.refreshPromise from rfl, promise]
    rfl
  · rw [counts]
    split
    · rename_i here
      rw [here, counted]
      omega
    · exact kept.posts other
  · rw [woken] at member
    rw [List.mem_singleton.mp member, counts, if_pos rfl, counted]
    exact ⟨rfl, few, fun stopped => nomatch stopped⟩
  · rw [woken] at member
    rw [List.mem_singleton.mp member] at same ⊢
    rcases List.mem_append.mp posted with before | now
    · exact token post before same
    · rw [List.mem_singleton.mp now]
  · rcases List.mem_append.mp posted with before | now
    · exact kept.started post before
    · rw [List.mem_singleton.mp now]
      exact kept.running run held
  · rw [woken] at member
    rw [List.mem_singleton.mp member]
    exact kept.running run held
  · rcases List.mem_append.mp posted with before | now
    · rcases List.mem_append.mp listed with before' | now'
      · exact kept.agree post before other before' same
      · rw [List.mem_singleton.mp now'] at same ⊢
        exact token post before same
    · rw [List.mem_singleton.mp now] at same ⊢
      rcases List.mem_append.mp listed with before' | now'
      · exact (token other before' same.symm).symm
      · rw [List.mem_singleton.mp now']

end Refreshes

section Finish

variable {pathname : String → Option String} {s : HttpTab}

/-- A request that waited is sent once more or ends. -/
theorem CallsKept.resumed (kept : CallsKept pathname none s) {waiter : HttpRequest} (held : waiter ∈ s.requests)
    (waits : waiter.waitsFor.isSome = true) (refreshed : Bool) :
    CallsKept pathname none (HttpTab.resume pathname refreshed s waiter) := by
  unfold HttpTab.resume
  split
  · split
    · exact kept.cleared.settled held _
    · rename_i token present
      obtain ⟨-, nonempty⟩ := Option.filter_eq_some_iff.mp present
      obtain ⟨made, unsettled, -⟩ := kept.open_of_mem held
      have once : sentCount s waiter.call = 1 := by
        rw [kept.sends waiter held (by simp), kept.firsts waiter held waits]
        rfl
      have but : CallsKept pathname (some waiter.call) s :=
        ⟨fun other _ => kept.places other (by simp), fun other member _ => kept.sends other member (by simp), kept.firsts,
          kept.twice, kept.known, kept.bearer, kept.gate⟩
      exact but.requested unsettled made (once.trans (if_pos rfl).symm)
        fun _ => ⟨token, of_decide_eq_true nonempty, rfl⟩
  · exact kept.cleared.settled held _

/-- What the rest of the tab has in common before and after a request goes on. -/
theorem resume_frame (waiter : HttpRequest) (refreshed : Bool) :
    (HttpTab.resume pathname refreshed s waiter).refreshPromise = s.refreshPromise ∧
    (HttpTab.resume pathname refreshed s waiter).refreshCalls = s.refreshCalls ∧
    (HttpTab.resume pathname refreshed s waiter).nextRefresh = s.nextRefresh ∧
    (HttpTab.resume pathname refreshed s waiter).refreshPosts = s.refreshPosts ∧
    (∀ request ∈ (HttpTab.resume pathname refreshed s waiter).requests, request.waitsFor = none ∨
      (request ∈ s.requests ∧ request.call ≠ waiter.call)) ∧
    ∀ request ∈ s.requests, request.call ≠ waiter.call →
      request ∈ (HttpTab.resume pathname refreshed s waiter).requests := by
  have ends (outcome : HttpOutcome) : ∀ request ∈ (s.clearSessionAndLogin.settle waiter.call outcome).requests,
      request.waitsFor = none ∨ (request ∈ s.requests ∧ request.call ≠ waiter.call) := by
    intro request member
    obtain ⟨before, other⟩ := List.mem_filter.mp member
    exact .inr ⟨before, of_decide_eq_true other⟩
  have stays (outcome : HttpOutcome) : ∀ request ∈ s.requests, request.call ≠ waiter.call →
      request ∈ (s.clearSessionAndLogin.settle waiter.call outcome).requests := by
    intro request member other
    exact List.mem_filter.mpr ⟨member, decide_eq_true other⟩
  unfold HttpTab.resume
  split
  · split
    · exact ⟨rfl, rfl, rfl, rfl, ends _, stays _⟩
    · rename_i token present
      obtain ⟨-, -, -, promise, calls, next, posts, -⟩ := @request_frame pathname s waiter.call { waiter.config with
        retryAfterRefresh := true, authorization := some ("Bearer " ++ token) }
      refine ⟨promise, calls, next, posts, request_requests _ _, fun request member other => ?_⟩
      have kept : request ∈ s.requests.filter fun request => request.call ≠ waiter.call :=
        List.mem_filter.mpr ⟨member, decide_eq_true other⟩
      rcases @request_sent pathname s waiter.call { waiter.config with
        retryAfterRefresh := true, authorization := some ("Bearer " ++ token) } with ⟨-, requests⟩ | ⟨-, -, requests⟩
      · rw [requests]
        exact kept
      · rw [requests]
        exact List.mem_append_left _ kept
  · exact ⟨rfl, rfl, rfl, rfl, ends _, stays _⟩

/-- Those that waited go on one after another. -/
theorem resumeAll_kept (waiters : List HttpRequest) (refreshed : Bool) (kept : CallsKept pathname none s)
    (held : ∀ waiter ∈ waiters, waiter ∈ s.requests ∧ waiter.waitsFor.isSome = true)
    (distinct : (waiters.map HttpRequest.call).Nodup) :
    CallsKept pathname none (waiters.foldl (HttpTab.resume pathname refreshed) s) ∧
    (waiters.foldl (HttpTab.resume pathname refreshed) s).refreshPromise = s.refreshPromise ∧
    (waiters.foldl (HttpTab.resume pathname refreshed) s).refreshCalls = s.refreshCalls ∧
    (waiters.foldl (HttpTab.resume pathname refreshed) s).nextRefresh = s.nextRefresh ∧
    (waiters.foldl (HttpTab.resume pathname refreshed) s).refreshPosts = s.refreshPosts ∧
    ∀ request ∈ (waiters.foldl (HttpTab.resume pathname refreshed) s).requests, request.waitsFor = none ∨
      (request ∈ s.requests ∧ request.call ∉ waiters.map HttpRequest.call) := by
  induction waiters generalizing s with
  | nil => exact ⟨kept, rfl, rfl, rfl, rfl, fun request member => .inr ⟨member, by simp⟩⟩
  | cons waiter rest ih =>
    obtain ⟨apart, later⟩ := List.nodup_cons.mp distinct
    obtain ⟨here, waits⟩ := held waiter List.mem_cons_self
    obtain ⟨promise, calls, next, posts, only, stay⟩ := @resume_frame pathname s waiter refreshed
    obtain ⟨kept', promise', calls', next', posts', requests⟩ := ih (kept.resumed here waits refreshed)
      (fun other member => ⟨stay other (held other (List.mem_cons_of_mem _ member)).1
        fun same => apart (same ▸ List.mem_map_of_mem member), (held other (List.mem_cons_of_mem _ member)).2⟩) later
    rw [List.foldl_cons]
    refine ⟨kept', promise'.trans promise, calls'.trans calls, next'.trans next, posts'.trans posts, ?_⟩
    intro request member
    rcases requests request member with free | ⟨before, other⟩
    · exact .inl free
    · rcases only request before with free | ⟨old, different⟩
      · exact .inl free
      · refine .inr ⟨old, fun listed => ?_⟩
        rw [List.map_cons] at listed
        rcases List.mem_cons.mp listed with same | tail
        · exact different same
        · exact other tail

theorem finishRefresh_kept (kept : CallsKept pathname none s) (refresh : RefreshKept s) {run : RefreshCall}
    (held : run ∈ s.refreshCalls) (refreshed : Bool) :
    CallsKept pathname none (s.finishRefresh pathname run.id refreshed) ∧
      RefreshKept (s.finishRefresh pathname run.id refreshed) := by
  obtain ⟨all, promise⟩ := refresh.alone held
  have ended : (s.refreshCalls.filter fun other => other.id ≠ run.id) = [] := by
    rw [all]
    simp
  have idle : CallsKept pathname none { s with
      refreshCalls := s.refreshCalls.filter fun other => other.id ≠ run.id, refreshPromise := none } :=
    ⟨kept.places, kept.sends, kept.firsts, kept.twice, kept.known, kept.bearer, kept.gate⟩
  have waiting : ∀ waiter ∈ s.requests.filter (fun request => request.waitsFor = some run.id),
      waiter ∈ s.requests ∧ waiter.waitsFor.isSome = true := by
    intro waiter member
    obtain ⟨listed, waits⟩ := List.mem_filter.mp member
    exact ⟨listed, by rw [of_decide_eq_true waits]; rfl⟩
  obtain ⟨kept', promise', calls, next, posts, requests⟩ := resumeAll_kept _ refreshed idle waiting
    (kept.unique.sublist (List.filter_sublist.map HttpRequest.call))
  have free : ∀ request ∈ (s.finishRefresh pathname run.id refreshed).requests, request.waitsFor = none := by
    intro request member
    rcases requests request member with none' | ⟨before, other⟩
    · exact none'
    · cases waits : request.waitsFor with
      | none => rfl
      | some id =>
        have same := (refresh.waits request before id waits).symm.trans promise
        cases same
        exact absurd (List.mem_map_of_mem (List.mem_filter.mpr ⟨before, decide_eq_true waits⟩)) other
  have counts (other : Nat) : postCount (s.finishRefresh pathname run.id refreshed) other = postCount s other := by
    unfold postCount HttpTab.finishRefresh
    dsimp only
    rw [posts]
  have noCalls : (s.finishRefresh pathname run.id refreshed).refreshCalls = [] := calls.trans ended
  refine ⟨kept', ?_, fun request member id waits => ?_, fun other => ?_, ?_, ?_, ?_, ?_, ?_⟩
  · rw [noCalls, show (s.finishRefresh pathname run.id refreshed).refreshPromise = none from promise']
    rfl
  · rw [free request member] at waits
    cases waits
  · rw [counts]
    exact refresh.posts other
  · rw [noCalls]
    exact fun other member => nomatch member
  · rw [noCalls]
    exact fun other member => nomatch member
  · rw [show (s.finishRefresh pathname run.id refreshed).refreshPosts = s.refreshPosts from posts,
      show (s.finishRefresh pathname run.id refreshed).nextRefresh = s.nextRefresh from next]
    exact refresh.started
  · rw [noCalls]
    exact fun other member => nomatch member
  · rw [show (s.finishRefresh pathname run.id refreshed).refreshPosts = s.refreshPosts from posts]
    exact refresh.agree

end Finish

section Steps

variable {pathname : String → Option String} {s t : HttpTab}

/-- The invariant of the machine. -/
def Kept (pathname : String → Option String) (s : HttpTab) : Prop := CallsKept pathname none s ∧ RefreshKept s

theorem Kept.settled (kept : Kept pathname s) {request : HttpRequest} (held : request ∈ s.requests)
    (outcome : HttpOutcome) : Kept pathname (s.settle request.call outcome) :=
  ⟨kept.1.settled held outcome, kept.2.settled request.call outcome⟩

theorem Kept.signedOut (kept : Kept pathname s) {request : HttpRequest} (held : request ∈ s.requests)
    (outcome : HttpOutcome) : Kept pathname (s.clearSessionAndLogin.settle request.call outcome) :=
  ⟨kept.1.cleared.settled held outcome, kept.2.cleared.settled request.call outcome⟩

/-- A request that waits has left the tab once. -/
theorem CallsKept.awaited (kept : CallsKept pathname none s) {call run : Nat}
    (first : ∀ request ∈ s.requests, request.call = call → request.config.retryAfterRefresh = false) :
    CallsKept pathname none (s.await call run) := by
  have same : (s.await call run).requests.map HttpRequest.call = s.requests.map HttpRequest.call := by
    unfold HttpTab.await
    rw [List.map_map]
    apply List.map_congr_left
    intro request _
    dsimp only [Function.comp]
    split <;> rfl
  refine ⟨fun other any => ?_, fun request member any => ?_, fun request member waits => ?_, kept.twice, kept.known,
    kept.bearer, kept.gate⟩
  · have place := kept.places other any
    unfold openCount at place ⊢
    rw [same]
    exact place
  · obtain ⟨before, held, rfl⟩ := List.mem_map.mp member
    have sends := kept.sends before held (by simp)
    split <;> exact sends
  · obtain ⟨before, held, rfl⟩ := List.mem_map.mp member
    split at waits
    · rename_i here
      rw [if_pos here]
      exact first before held here
    · rename_i other
      rw [if_neg other]
      exact kept.firsts before held waits

theorem Kept.awaitsRefresh (kept : Kept pathname s) {request : HttpRequest} (held : request ∈ s.requests)
    (first : request.config.retryAfterRefresh = false) (rt : String) :
    Kept pathname (s.refreshWithMutex request.call rt) := by
  have only : ∀ other ∈ s.requests, other.call = request.call → other.config.retryAfterRefresh = false := by
    intro other member same
    rw [List.inj_on_of_nodup_map kept.1.unique member held same]
    exact first
  unfold HttpTab.refreshWithMutex
  split
  · rename_i run promise
    exact ⟨kept.1.awaited only, kept.2.awaited request.call promise⟩
  · rename_i idle
    have performed : CallsKept pathname none { s.performRefresh rt with refreshPromise := some s.nextRefresh } :=
      ⟨kept.1.places, kept.1.sends, kept.1.firsts, kept.1.twice, kept.1.known, kept.1.bearer, kept.1.gate⟩
    exact ⟨performed.awaited only, (kept.2.performed idle rt).awaited request.call rfl⟩

theorem Kept.rejected (kept : Kept pathname s) {request : HttpRequest} (held : request ∈ s.requests)
    (status : Option Nat) : Kept pathname (s.onRejected request.call request.config status) := by
  unfold HttpTab.onRejected
  split
  · exact kept.settled held _
  · split
    · exact kept.settled held _
    · split
      · exact kept.settled held _
      · split
        · exact kept.signedOut held _
        · split
          · exact kept.signedOut held _
          · rename_i first
            split
            · exact kept.signedOut held _
            · exact kept.awaitsRefresh held (Bool.eq_false_iff.mpr first) _

theorem Kept.refreshFailed (kept : Kept pathname s) {run : RefreshCall} (held : run ∈ s.refreshCalls) :
    Kept pathname (s.refreshFailed pathname run) := by
  unfold HttpTab.refreshFailed
  split
  · exact finishRefresh_kept kept.1 kept.2 held false
  · rename_i more
    exact ⟨⟨kept.1.places, kept.1.sends, kept.1.firsts, kept.1.twice, kept.1.known, kept.1.bearer, kept.1.gate⟩,
      kept.2.slept held more⟩

theorem Kept.refreshAnswered (kept : Kept pathname s) {run : RefreshCall} (held : run ∈ s.refreshCalls)
    (answer : RefreshAnswer) : Kept pathname (s.refreshAnswered pathname run answer) := by
  cases answer with
  | ok data =>
    unfold HttpTab.refreshAnswered
    dsimp only
    split
    · exact kept.refreshFailed held
    · rename_i access _
      have signedIn : Kept pathname { s with
          auth := s.auth.setSession s.auth.user (some access) data.expiresAt
          refreshToken := (truthyText data.refreshToken).orElse fun _ => s.refreshToken } :=
        ⟨⟨kept.1.places, kept.1.sends, kept.1.firsts, kept.1.twice, kept.1.known, kept.1.bearer, kept.1.gate⟩,
          kept.2.of_same rfl rfl rfl rfl fun _ => .inr⟩
      exact finishRefresh_kept signedIn.1 signedIn.2 held true
  | failed status =>
    unfold HttpTab.refreshAnswered
    dsimp only
    split
    · exact finishRefresh_kept kept.1 kept.2 held false
    · exact kept.refreshFailed held

/-- A call that is made gets the next number. -/
theorem Kept.called (kept : Kept pathname s) {config : RequestConfig} (first : config.retryAfterRefresh = false) :
    Kept pathname ({ s with calls := s.calls + 1 }.request pathname s.calls config) := by
  have place := kept.1.places s.calls (by simp)
  rw [if_neg (Nat.lt_irrefl _)] at place
  have settledNone : settledCount s s.calls = 0 := by omega
  have but : CallsKept pathname (some s.calls) { s with calls := s.calls + 1 } := by
    refine ⟨fun other different => ?_, fun request member _ => kept.1.sends request member (by simp), kept.1.firsts,
      kept.1.twice, fun sent member => Nat.lt_succ_of_lt (kept.1.known sent member), kept.1.bearer, kept.1.gate⟩
    have before := kept.1.places other (by simp)
    have apart : other ≠ s.calls := fun same => different (congrArg some same)
    change openCount s other + settledCount s other = if other < s.calls + 1 then 1 else 0
    rw [before]
    by_cases made : other < s.calls
    · rw [if_pos made, if_pos (by omega)]
    · rw [if_neg made, if_neg (by omega)]
  refine ⟨but.requested settledNone (Nat.lt_succ_self _) ?_ fun retry => ?_, RefreshKept.requested ?_ _ _⟩
  · rw [first]
    exact kept.1.unsent
  · rw [first] at retry
    cases retry
  · exact kept.2.of_same rfl rfl rfl rfl fun _ => .inr

theorem Kept.step {event : HttpEvent} (kept : Kept pathname s) (stepped : (httpMachine pathname).step s event t) :
    Kept pathname t := by
  have onWay {call : Nat} {request : HttpRequest} (found : HttpTab.onItsWay s call = some request) :
      request ∈ s.requests ∧ request.call = call := by
    have named := List.find?_some found
    rw [Bool.and_eq_true] at named
    exact ⟨List.mem_of_find?_eq_some found, of_decide_eq_true named.1⟩
  replace stepped : HttpTab.next pathname s event = some t := stepped
  cases event with
  | call config =>
    dsimp only [HttpTab.next] at stepped
    split at stepped
    · cases stepped
    · rename_i first
      cases stepped
      exact kept.called (Bool.eq_false_iff.mpr first)
  | responds call =>
    obtain ⟨request, found, rfl⟩ := Option.map_eq_some_iff.mp stepped
    obtain ⟨held, rfl⟩ := onWay found
    exact kept.settled held .ok
  | fails call status =>
    obtain ⟨request, found, rfl⟩ := Option.map_eq_some_iff.mp stepped
    obtain ⟨held, rfl⟩ := onWay found
    exact kept.rejected held status
  | refreshAnswered run answer =>
    obtain ⟨running, found, rfl⟩ := Option.map_eq_some_iff.mp stepped
    exact kept.refreshAnswered (List.mem_of_find?_eq_some found) answer
  | refreshWakes run =>
    obtain ⟨running, found, rfl⟩ := Option.map_eq_some_iff.mp stepped
    have asleep := List.find?_some found
    rw [Bool.and_eq_true] at asleep
    exact ⟨⟨kept.1.places, kept.1.sends, kept.1.firsts, kept.1.twice, kept.1.known, kept.1.bearer, kept.1.gate⟩,
      kept.2.again (List.mem_of_find?_eq_some found) (of_decide_eq_true asleep.2)⟩
  | session auth refreshToken =>
    cases stepped
    exact ⟨⟨kept.1.places, kept.1.sends, kept.1.firsts, kept.1.twice, kept.1.known, kept.1.bearer, kept.1.gate⟩,
      kept.2.of_same rfl rfl rfl rfl fun _ => .inr⟩
  | device deviceId syncState =>
    cases stepped
    exact ⟨⟨kept.1.places, kept.1.sends, kept.1.firsts, kept.1.twice, kept.1.known, kept.1.bearer, kept.1.gate⟩,
      kept.2.of_same rfl rfl rfl rfl fun _ => .inr⟩

theorem Kept.of_reachable (reachable : (httpMachine pathname).Reachable s) : Kept pathname s := by
  refine reachable.invariant (fun start init => ?_) fun _ _ _ kept stepped => kept.step stepped
  obtain ⟨promise, calls, next, requests, none', sent, posts, settled⟩ := init
  refine ⟨⟨?_, ?_, ?_, ?_, ?_, ?_, ?_⟩, ?_, ?_, ?_, ?_, ?_, ?_, ?_, ?_⟩ <;>
    simp [openCount, settledCount, sentCount, postCount, promise, calls, requests, none', sent, posts, settled]

end Steps

section Reachable

variable {pathname : String → Option String} {s : HttpTab}

/-- One invocation of `performRefresh` runs at a time, and it is what the calls that have been answered 401 wait for.
Each posts three times at most, with the same refresh token. -/
theorem refresh_single_flight (reachable : (httpMachine pathname).Reachable s) :
    s.refreshCalls.length ≤ 1 ∧
    (∀ request ∈ s.requests, ∀ run, request.waitsFor = some run →
      ∃ active ∈ s.refreshCalls, active.id = run ∧ active.attempt ≤ MAX_REFRESH_ATTEMPTS) ∧
    (∀ run, postCount s run ≤ MAX_REFRESH_ATTEMPTS) ∧
    ∀ post ∈ s.refreshPosts, ∀ other ∈ s.refreshPosts, post.refreshCall = other.refreshCall →
      post.refreshToken = other.refreshToken := by
  have kept := (Kept.of_reachable reachable).2
  refine ⟨?_, fun request member run waits => ?_, kept.posts, kept.agree⟩
  · have single := congrArg List.length kept.single
    rw [List.length_map] at single
    rw [single]
    cases s.refreshPromise with
    | none => exact Nat.zero_le 1
    | some run => exact Nat.le_refl 1
  · have single := kept.single
    rw [kept.waits request member run waits, Option.toList_some] at single
    obtain ⟨active, all, same⟩ := List.map_eq_singleton_iff.mp single
    have held : active ∈ s.refreshCalls := all ▸ List.mem_cons_self
    exact ⟨active, held, same, (kept.attempts active held).2.1⟩

/-- A call leaves the tab twice at most; where it leaves as the retry after a refresh, which the code marks with
`retryAfterRefresh`, it carries an access token. It is open or ended, once, and no messaging call leaves while the
device sync of a registered user holds it back. -/
theorem calls_sent_twice_at_most (reachable : (httpMachine pathname).Reachable s) :
    (∀ call, sentCount s call ≤ 2) ∧
    (∀ call, openCount s call + settledCount s call = if call < s.calls then 1 else 0) ∧
    (∀ sent ∈ s.sent, sent.config.retryAfterRefresh = true →
      ∃ token, token ≠ "" ∧ sent.config.authorization = some ("Bearer " ++ token)) ∧
    ∀ sent ∈ s.sent, sent.blocked = true → sent.config.skipDeviceSyncMessagingGate = true ∨
      urlPathBlocksMessagingRest pathname sent.config.url = false := by
  have kept := (Kept.of_reachable reachable).1
  exact ⟨kept.twice, fun call => kept.places call (by simp), kept.bearer, kept.gate⟩

end Reachable

section SignedOut

variable {pathname : String → Option String} {s t : HttpTab}

/-- The page that the user of a session is sent to. -/
def entryPage (user : Option AuthUser) : Navigation := if user.any AuthUser.guest then .guestEntry else .login

/-- A session has ended: nothing of it is left in the store or the storage, and the tab has gone to the entry
page of its user. -/
structure SignedOut (s t : HttpTab) : Prop where
  user : t.auth.user = none
  accessToken : t.auth.accessToken = none
  refreshToken : t.refreshToken = none
  deviceId : t.deviceId = none
  syncState : t.syncState = .idle
  shown : ∃ later, t.navigations = s.navigations ++ entryPage s.auth.user :: later

theorem signedOut_settle (call : Nat) (outcome : HttpOutcome) :
    SignedOut s (s.clearSessionAndLogin.settle call outcome) := ⟨rfl, rfl, rfl, rfl, rfl, [], rfl⟩

/-- A session that has ended is cleared once more. -/
theorem SignedOut.settle (out : SignedOut s t) (call : Nat) (outcome : HttpOutcome) :
    SignedOut s (t.clearSessionAndLogin.settle call outcome) := by
  obtain ⟨later, shown⟩ := out.shown
  refine ⟨rfl, rfl, rfl, rfl, rfl, later ++ [entryPage t.auth.user], ?_⟩
  show t.navigations ++ [entryPage t.auth.user] = _
  rw [shown, List.append_assoc]
  rfl

theorem SignedOut.of_same {s' : HttpTab} (out : SignedOut s' t) (user : s'.auth.user = s.auth.user)
    (navigations : s'.navigations = s.navigations) : SignedOut s t := by
  obtain ⟨later, shown⟩ := out.shown
  rw [user, navigations] at shown
  exact ⟨out.user, out.accessToken, out.refreshToken, out.deviceId, out.syncState, later, shown⟩

/-- A call is told 401 where it is settled so. -/
theorem settle_told {call other : Nat} {outcome : HttpOutcome}
    (told : (call, .error (some 401)) ∈ (s.settle other outcome).settled) :
    (call, .error (some 401)) ∈ s.settled ∨ call = other ∧ outcome = .error (some 401) := by
  rcases List.mem_append.mp told with before | now
  · exact .inl before
  · cases List.mem_singleton.mp now
    exact .inr ⟨rfl, rfl⟩

/-- A request that leaves, or is held back, is not told 401. -/
theorem request_told {call other : Nat} {config : RequestConfig}
    (told : (call, .error (some 401)) ∈ (s.request pathname other config).settled) :
    (call, .error (some 401)) ∈ s.settled := by
  unfold HttpTab.request at told
  split at told
  · rcases settle_told told with before | ⟨-, gated⟩
    · exact before
    · cases gated
  · exact told

/-- A request that goes on signs out, or ends without a 401 in the same session. -/
theorem resume_told (waiter : HttpRequest) (refreshed : Bool) :
    HttpTab.resume pathname refreshed s waiter = s.clearSessionAndLogin.settle waiter.call (.error (some 401)) ∨
    truthyText s.auth.accessToken ≠ none ∧ (HttpTab.resume pathname refreshed s waiter).auth = s.auth ∧
      (HttpTab.resume pathname refreshed s waiter).navigations = s.navigations ∧
      ∀ call, (call, .error (some 401)) ∈ (HttpTab.resume pathname refreshed s waiter).settled →
        (call, .error (some 401)) ∈ s.settled := by
  unfold HttpTab.resume
  split
  · split
    · exact .inl rfl
    · rename_i token present
      refine .inr ⟨by rw [present]; exact Option.some_ne_none token, ?_, ?_, fun call told => request_told told⟩
      · unfold HttpTab.request
        split <;> rfl
      · unfold HttpTab.request
        split <;> rfl
  · exact .inl rfl

theorem SignedOut.resumeAll (waiters : List HttpRequest) (refreshed : Bool) (out : SignedOut s t) :
    SignedOut s (waiters.foldl (HttpTab.resume pathname refreshed) t) := by
  induction waiters generalizing t with
  | nil => exact out
  | cons waiter rest ih =>
    rcases @resume_told pathname t waiter refreshed with cleared | ⟨token, -⟩
    · rw [List.foldl_cons, cleared]
      exact ih (out.settle _ _)
    · rw [out.accessToken] at token
      exact absurd rfl token

theorem resumeAll_told (waiters : List HttpRequest) (refreshed : Bool) {call : Nat}
    (told : (call, .error (some 401)) ∈ (waiters.foldl (HttpTab.resume pathname refreshed) s).settled) :
    (call, .error (some 401)) ∈ s.settled ∨ SignedOut s (waiters.foldl (HttpTab.resume pathname refreshed) s) := by
  induction waiters generalizing s with
  | nil => exact .inl told
  | cons waiter rest ih =>
    rw [List.foldl_cons] at told ⊢
    rcases @resume_told pathname s waiter refreshed with cleared | ⟨-, auth, navigations, before⟩
    · rw [cleared]
      exact .inr ((signedOut_settle waiter.call _).resumeAll rest refreshed)
    · exact (ih told).imp (before call) fun out => out.of_same (by rw [auth]) navigations

theorem finishRefresh_told {run : Nat} {refreshed : Bool} {call : Nat}
    (told : (call, .error (some 401)) ∈ (s.finishRefresh pathname run refreshed).settled) :
    (call, .error (some 401)) ∈ s.settled ∨ SignedOut s (s.finishRefresh pathname run refreshed) :=
  (resumeAll_told _ refreshed told).imp_right fun out => out.of_same rfl rfl

theorem refreshFailed_told {run : RefreshCall} {call : Nat}
    (told : (call, .error (some 401)) ∈ (s.refreshFailed pathname run).settled) :
    (call, .error (some 401)) ∈ s.settled ∨ SignedOut s (s.refreshFailed pathname run) := by
  unfold HttpTab.refreshFailed at told ⊢
  split at told
  · rename_i last
    rw [if_pos last]
    exact finishRefresh_told told
  · exact .inl told

theorem setSession_user (state : AuthState) (accessToken expiresAt : Option String) :
    (state.setSession state.user accessToken expiresAt).user = state.user := by
  unfold AuthState.setSession
  split <;> rfl

/-- The answer to a refresh tells 401 to those it signs out. -/
theorem refreshAnswered_told {run : RefreshCall} {answer : RefreshAnswer} {call : Nat}
    (told : (call, .error (some 401)) ∈ (s.refreshAnswered pathname run answer).settled) :
    (call, .error (some 401)) ∈ s.settled ∨ SignedOut s (s.refreshAnswered pathname run answer) := by
  cases answer with
  | ok data =>
    unfold HttpTab.refreshAnswered at told ⊢
    dsimp only at told ⊢
    split at told
    · exact refreshFailed_told told
    · exact (finishRefresh_told told).imp_right fun out => out.of_same (setSession_user s.auth _ _) rfl
  | failed status =>
    unfold HttpTab.refreshAnswered at told ⊢
    dsimp only at told ⊢
    split at told
    · rename_i refused
      rw [if_pos refused]
      exact finishRefresh_told told
    · rename_i other
      rw [if_neg other]
      exact refreshFailed_told told

/-- A response with an error tells 401 to a call that it signs out, or that asked for no refresh. -/
theorem onRejected_told {call other : Nat} {original : RequestConfig} {status : Option Nat}
    (told : (call, .error (some 401)) ∈ (s.onRejected other original status).settled) :
    (call, .error (some 401)) ∈ s.settled ∨ SignedOut s (s.onRejected other original status) ∨
      call = other ∧ original.skipAuthRefresh = true := by
  unfold HttpTab.onRejected at told ⊢
  split at told
  · rename_i limited
    rcases settle_told told with before | ⟨-, same⟩
    · exact .inl before
    · rw [limited] at same
      cases same
  · split at told
    · rename_i different
      rcases settle_told told with before | ⟨-, same⟩
      · exact .inl before
      · cases same
        exact absurd rfl different
    · split at told
      · rename_i skips
        exact (settle_told told).imp_right fun now => .inr ⟨now.1, skips⟩
      · rename_i limited different skips
        rw [if_neg limited, if_neg different, if_neg skips]
        split at told
        · rename_i refreshes
          rw [if_pos refreshes]
          exact .inr (.inl (signedOut_settle other _))
        · rename_i other'
          rw [if_neg other']
          split at told
          · rename_i retried
            rw [if_pos retried]
            exact .inr (.inl (signedOut_settle other _))
          · rename_i first
            rw [if_neg first]
            split at told
            · exact .inr (.inl (signedOut_settle other _))
            · rename_i rt _
              have same : (s.refreshWithMutex other rt).settled = s.settled := by
                unfold HttpTab.refreshWithMutex
                split <;> rfl
              rw [same] at told
              exact .inl told

end SignedOut

section Runs

/-- A tab of a registered user with a refresh token. -/
def signedIn : HttpTab where
  auth := ⟨some ⟨"ana", false⟩, some "old", none⟩
  refreshToken := some "refresh"

theorem reachable_of_trace {events : List HttpEvent} {history : List (Transition HttpTab HttpEvent)} {final : HttpTab}
    (executed : Machine.trace (HttpTab.next fun _ => none) signedIn events = some (history, final)) :
    (httpMachine fun _ => none).Reachable final :=
  ⟨signedIn, history, ⟨rfl, rfl, rfl, rfl, rfl, rfl, rfl, rfl⟩, Machine.trace_run _ (fun _ _ _ stepped => stepped) executed⟩

/-- Two calls that are answered 401, before and after the refresh has begun. -/
def twoUnauthorized : List HttpEvent :=
  [.call { url := "/conversations" }, .call { url := "/users/me" }, .fails 0 (some 401), .fails 1 (some 401)]

/-- Both wait for one refresh. -/
theorem refresh_single_flight_two : ∃ s : HttpTab, (s.requests.filter fun request => request.waitsFor.isSome).length = 2 ∧
    s.refreshCalls.length ≤ 1 := by
  have checked : (Machine.trace (HttpTab.next fun _ => none) signedIn twoUnauthorized).any (fun executed =>
      (executed.2.requests.filter fun request => request.waitsFor.isSome).length = 2) = true := by decide
  obtain ⟨⟨history, final⟩, executed, waiting⟩ := (Option.any_eq_true _ _).mp checked
  exact ⟨final, of_decide_eq_true waiting, (refresh_single_flight (reachable_of_trace executed)).1⟩

/-- Both are sent again. -/
theorem calls_sent_twice_at_most_two : ∃ s : HttpTab, s.sent.length = 4 ∧ ∀ call, sentCount s call ≤ 2 := by
  have checked : (Machine.trace (HttpTab.next fun _ => none) signedIn (twoUnauthorized ++
      [.refreshAnswered 0 (.ok ⟨some "new", none, none⟩)])).any (fun executed => executed.2.sent.length = 4) = true := by
    decide
  obtain ⟨⟨history, final⟩, executed, sent⟩ := (Option.any_eq_true _ _).mp checked
  exact ⟨final, of_decide_eq_true sent, (calls_sent_twice_at_most (reachable_of_trace executed)).1⟩

end Runs

end MessagingSystem.Guarantees.RefreshSingleFlight
