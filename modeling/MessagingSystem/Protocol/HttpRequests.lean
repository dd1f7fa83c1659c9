import Mathlib.Data.List.Nodup
import MessagingSystem.Foundation.Transition
import MessagingSystem.Source.Client.HttpClient

/-!
# The calls of a tab to the REST API

Calls are made and answered in any order, attempts of a refresh are answered and slept
over, and the rest of the tab signs in and out and changes the state of its device sync
in between. A refresh that ends and the calls that waited for it go on without a pause,
since no other event runs before them.
-/
namespace MessagingSystem.Protocol
open Foundation Source.Client

inductive HttpEvent where
  | call (config : RequestConfig)
  | responds (call : Nat)
  | fails (call : Nat) (status : Option Nat)
  | refreshAnswered (run : Nat) (answer : RefreshAnswer)
  | refreshWakes (run : Nat)
  | session (auth : AuthState) (refreshToken : Option String)
  | device (deviceId : Option String) (syncState : CryptoSyncState)

namespace HttpTab

variable (pathname : String → Option String) (s : HttpTab)

/-- The call that is on its way. -/
def onItsWay (call : Nat) : Option HttpRequest :=
  s.requests.find? fun request => request.call = call && request.waitsFor.isNone

def refreshCall (run : Nat) (posting : Bool) : Option RefreshCall :=
  s.refreshCalls.find? fun other => other.id = run && other.posting = posting

/-- A caller does not mark its request as a retry. -/
def next : HttpEvent → Option HttpTab
  | .call config =>
      if config.retryAfterRefresh then none
      else some ({ s with calls := s.calls + 1 }.request pathname s.calls config)
  | .responds call => (onItsWay s call).map fun _ => s.settle call .ok
  | .fails call status => (onItsWay s call).map fun request => s.onRejected call request.config status
  | .refreshAnswered run answer =>
      (refreshCall s run true).map fun held => s.refreshAnswered pathname held answer
  | .refreshWakes run => (refreshCall s run false).map fun held => s.refreshAgain held
  | .session auth refreshToken => some { s with auth := auth, refreshToken := refreshToken }
  | .device deviceId syncState => some { s with deviceId := deviceId, syncState := syncState }

end HttpTab

/-- A tab that has made no call yet, in whatever session. -/
def httpMachine (pathname : String → Option String) : Machine HttpTab HttpEvent where
  init s := s.refreshPromise = none ∧ s.refreshCalls = [] ∧ s.nextRefresh = 0 ∧ s.requests = [] ∧ s.calls = 0 ∧
    s.sent = [] ∧ s.refreshPosts = [] ∧ s.settled = []
  step s event t := HttpTab.next pathname s event = some t

section Counts

variable (s : HttpTab) (call : Nat)

def openCount : Nat := (s.requests.map HttpRequest.call).count call

def settledCount : Nat := (s.settled.map Prod.fst).count call

def sentCount : Nat := (s.sent.map SentRequest.call).count call

def postCount (run : Nat) : Nat := (s.refreshPosts.map RefreshPost.refreshCall).count run

end Counts

section Effects

variable {pathname : String → Option String} {s : HttpTab}

/-- What a request leaves alone. -/
theorem request_frame (call : Nat) (config : RequestConfig) :
    (s.request pathname call config).auth = s.auth ∧
    (s.request pathname call config).refreshToken = s.refreshToken ∧
    (s.request pathname call config).syncState = s.syncState ∧
    (s.request pathname call config).refreshPromise = s.refreshPromise ∧
    (s.request pathname call config).refreshCalls = s.refreshCalls ∧
    (s.request pathname call config).nextRefresh = s.nextRefresh ∧
    (s.request pathname call config).refreshPosts = s.refreshPosts ∧
    (s.request pathname call config).calls = s.calls := by
  unfold HttpTab.request
  split <;> exact ⟨rfl, rfl, rfl, rfl, rfl, rfl, rfl, rfl⟩

theorem count_filter_call (requests : List HttpRequest) (call other : Nat) :
    ((requests.filter fun request => request.call ≠ call).map HttpRequest.call).count other =
      if other = call then 0 else (requests.map HttpRequest.call).count other := by
  induction requests with
  | nil => simp
  | cons request rest ih =>
    by_cases same : request.call = call
    · rw [List.filter_cons_of_neg (by simp [same]), ih, List.map_cons, List.count_cons]
      by_cases here : other = call
      · rw [if_pos here, if_pos here]
      · rw [if_neg here, if_neg here, if_neg (by simpa [same] using Ne.symm here), Nat.add_zero]
    · rw [List.filter_cons_of_pos (by simp [same]), List.map_cons, List.count_cons, ih, List.map_cons, List.count_cons]
      by_cases here : other = call
      · rw [if_pos here, if_pos here, if_neg (by simpa [here] using same)]
      · rw [if_neg here, if_neg here]

/-- A call that is settled stands among the settled ones only. -/
theorem settle_places (call other : Nat) (outcome : HttpOutcome) :
    openCount (s.settle call outcome) other + settledCount (s.settle call outcome) other =
      if other = call then settledCount s call + 1 else openCount s other + settledCount s other := by
  unfold openCount settledCount HttpTab.settle
  dsimp only
  rw [count_filter_call, List.map_append, List.count_append]
  by_cases here : other = call
  · rw [if_pos here, if_pos here, here, List.map_singleton, List.count_singleton_self]
    omega
  · rw [if_neg here, if_neg here, List.map_singleton, List.count_singleton, if_neg (by simpa using Ne.symm here)]
    omega

theorem request_places (call other : Nat) (config : RequestConfig) :
    openCount (s.request pathname call config) other + settledCount (s.request pathname call config) other =
      if other = call then settledCount s call + 1 else openCount s other + settledCount s other := by
  unfold HttpTab.request
  split
  · exact settle_places call other .deviceSyncGate
  · unfold openCount settledCount
    dsimp only
    rw [List.map_append, List.count_append, count_filter_call]
    by_cases here : other = call
    · rw [if_pos here, if_pos here, here, List.map_singleton, List.count_singleton_self]
      omega
    · rw [if_neg here, if_neg here, List.map_singleton, List.count_singleton, if_neg (by simpa using Ne.symm here)]
      omega

/-- A request adds at most one entry to what has left the tab. -/
theorem request_sent (call : Nat) (config : RequestConfig) :
    (s.request pathname call config).sent = s.sent ∧
      (s.request pathname call config).requests = s.requests.filter (fun request => request.call ≠ call) ∨
    s.gates pathname config = false ∧
      (s.request pathname call config).sent =
        s.sent ++ [⟨call, s.authorize config, s.shouldBlockMessagingRestForRegisteredSync⟩] ∧
      (s.request pathname call config).requests =
        s.requests.filter (fun request => request.call ≠ call) ++ [⟨call, s.authorize config, none⟩] := by
  unfold HttpTab.request
  split
  · exact .inl ⟨rfl, rfl⟩
  · rename_i open'
    exact .inr ⟨Bool.eq_false_iff.mpr open', rfl, rfl⟩

/-- The access token is all that the interceptor changes. -/
theorem authorize_eq (config : RequestConfig) : (s.authorize config).url = config.url ∧
    (s.authorize config).skipDeviceSyncMessagingGate = config.skipDeviceSyncMessagingGate ∧
    (s.authorize config).retryAfterRefresh = config.retryAfterRefresh ∧
    ((s.authorize config).authorization = config.authorization ∨
      ∃ token, token ≠ "" ∧ (s.authorize config).authorization = some ("Bearer " ++ token)) := by
  unfold HttpTab.authorize
  split
  · rename_i token held
    split
    · exact ⟨rfl, rfl, rfl, .inl rfl⟩
    · obtain ⟨-, nonempty⟩ := Option.filter_eq_some_iff.mp held
      exact ⟨rfl, rfl, rfl, .inr ⟨token, of_decide_eq_true nonempty, rfl⟩⟩
  · exact ⟨rfl, rfl, rfl, .inl rfl⟩

end Effects

end MessagingSystem.Protocol
