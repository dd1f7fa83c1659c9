import MessagingSystem.Source.Client.MediaPublicUrl

/-!
# The HTTP client of a tab

`httpClient.ts` with the parts of `authSlice.ts`, `cryptoSlice.ts` and `authStorage.ts`
that its interceptors read and write. Each call has a number; `refreshCalls` are the
invocations of `performRefresh` that have not returned, and a request that waits for
`refreshPromise` holds the number of the invocation. `sent` and `refreshPosts` record
what has left the tab, `settled` how the calls have ended.
-/
namespace MessagingSystem.Source.Client
open Foundation

def MAX_REFRESH_ATTEMPTS : Nat := 3

structure AuthUser where
  id : String
  guest : Bool

structure AuthState where
  user : Option AuthUser := none
  accessToken : Option String := none
  accessTokenExpiresAt : Option String := none

inductive CryptoSyncState where
  | idle | pending | inProgress | complete
  deriving DecidableEq

structure RequestConfig where
  url : String
  skipAuthRefresh : Bool := false
  skipDeviceSyncMessagingGate : Bool := false
  retryAfterRefresh : Bool := false
  authorization : Option String := none

/-- A call that has not been settled: on its way, or waiting for an invocation of `performRefresh`. -/
structure HttpRequest where
  call : Nat
  config : RequestConfig
  waitsFor : Option Nat := none

/-- An error carries the status of its response, if there is one. -/
inductive HttpOutcome where
  | ok
  | error (status : Option Nat)
  | deviceSyncGate
  deriving DecidableEq

structure RefreshCall where
  id : Nat
  refreshToken : String
  attempt : Nat := 1
  posting : Bool := true

/-- `AuthResponse`, as far as the refresh reads it. -/
structure AuthResponse where
  accessToken : Option String
  expiresAt : Option String
  refreshToken : Option String

inductive RefreshAnswer where
  | ok (data : AuthResponse)
  | failed (status : Option Nat)

structure RefreshPost where
  refreshCall : Nat
  refreshToken : String
  sourceDeviceId : Option String

/-- A request that has left the tab, with what the gate saw then. -/
structure SentRequest where
  call : Nat
  config : RequestConfig
  blocked : Bool

inductive Navigation where
  | login | guestEntry

structure HttpTab where
  auth : AuthState := {}
  deviceId : Option String := none
  syncState : CryptoSyncState := .idle
  /-- `localStorage`. -/
  refreshToken : Option String := none
  refreshPromise : Option Nat := none
  refreshCalls : List RefreshCall := []
  nextRefresh : Nat := 0
  requests : List HttpRequest := []
  calls : Nat := 0
  sent : List SentRequest := []
  refreshPosts : List RefreshPost := []
  settled : List (Nat × HttpOutcome) := []
  navigations : List Navigation := []

/-- A string that is neither missing nor empty. -/
def truthyText (s : Option String) : Option String := s.filter fun s => s ≠ ""

def isRefreshUrl (url : String) : Bool := includes url "/auth/refresh"

/-- `raw.split('?')[0]`. -/
def beforeQuery (raw : String) : String := String.ofList (raw.toList.takeWhile fun c => c ≠ '?')

def startsWith (s part : String) : Bool := decide (part.toList <+: s.toList)

/-- `pathname` is that of `new URL(raw)`, which may throw. -/
def urlPathBlocksMessagingRest (pathname : String → Option String) (url : String) : Bool :=
  let raw := EcmaText.trim url
  if raw = "" then false
  else
    let pathOnly := if includes raw "://" then (pathname raw).getD (beforeQuery raw) else beforeQuery raw
    pathOnly = "/conversations" || startsWith pathOnly "/conversations/" || pathOnly = "/messages" ||
      startsWith pathOnly "/messages/"

namespace AuthState

variable (state : AuthState)

def authSessionEquivalent (user : Option AuthUser) (accessToken expiresAt : Option String) : Bool :=
  let uid (u : Option AuthUser) : String := (u.map fun u => EcmaText.trim u.id).getD ""
  let guest (u : Option AuthUser) : Bool := u.any AuthUser.guest
  state.accessToken = accessToken && state.accessTokenExpiresAt = expiresAt && uid state.user = uid user &&
    guest state.user = guest user

def setSession (user : Option AuthUser) (accessToken expiresAt : Option String) : AuthState :=
  if state.authSessionEquivalent user accessToken expiresAt then state else ⟨user, accessToken, expiresAt⟩

end AuthState

namespace HttpTab

variable (pathname : String → Option String) (s : HttpTab)

def settle (call : Nat) (outcome : HttpOutcome) : HttpTab :=
  { s with
    requests := s.requests.filter fun request => request.call ≠ call
    settled := s.settled ++ [(call, outcome)] }

/-- The refresh token goes, `logout` resets both slices, and the entry page is shown. -/
def clearSessionAndLogin : HttpTab :=
  { s with
    refreshToken := none
    auth := {}
    deviceId := none
    syncState := .idle
    navigations := s.navigations ++ [if s.auth.user.any AuthUser.guest then .guestEntry else .login] }

def shouldBlockMessagingRestForRegisteredSync : Bool :=
  match s.auth.user with
  | none => false
  | some user => !user.guest && (s.syncState = .pending || s.syncState = .inProgress)

/-- The request interceptor that adds the access token. -/
def authorize (config : RequestConfig) : RequestConfig :=
  match truthyText s.auth.accessToken with
  | some token =>
      if isRefreshUrl config.url || config.skipAuthRefresh then config
      else { config with authorization := some ("Bearer " ++ token) }
  | none => config

/-- The request interceptor that holds messaging calls back. -/
def gates (config : RequestConfig) : Bool :=
  !config.skipDeviceSyncMessagingGate && s.shouldBlockMessagingRestForRegisteredSync &&
    urlPathBlocksMessagingRest pathname config.url

/-- `httpClient.request(config)` behind the request interceptors. -/
def request (call : Nat) (config : RequestConfig) : HttpTab :=
  if s.gates pathname config then s.settle call .deviceSyncGate
  else
    { s with
      requests := s.requests.filter (fun request => request.call ≠ call) ++ [⟨call, s.authorize config, none⟩]
      sent := s.sent ++ [⟨call, s.authorize config, s.shouldBlockMessagingRestForRegisteredSync⟩] }

/-- The body of `POST /auth/refresh`. -/
def postRefresh (run : RefreshCall) : HttpTab :=
  { s with
    refreshPosts := s.refreshPosts ++
      [⟨run.id, run.refreshToken, truthyText (s.deviceId.map EcmaText.trim)⟩] }

/-- `performRefresh` up to its first `await`. -/
def performRefresh (rt : String) : HttpTab :=
  { s.postRefresh ⟨s.nextRefresh, rt, 1, true⟩ with
    refreshCalls := s.refreshCalls ++ [⟨s.nextRefresh, rt, 1, true⟩]
    nextRefresh := s.nextRefresh + 1 }

def await (call run : Nat) : HttpTab :=
  { s with requests := s.requests.map fun request =>
      if request.call = call then { request with waitsFor := some run } else request }

/-- `refreshWithMutex`, with the token that the interceptor has just read. -/
def refreshWithMutex (call : Nat) (rt : String) : HttpTab :=
  match s.refreshPromise with
  | some run => s.await call run
  | none => { s.performRefresh rt with refreshPromise := some s.nextRefresh }.await call s.nextRefresh

/-- The response interceptor for an error. -/
def onRejected (call : Nat) (original : RequestConfig) (status : Option Nat) : HttpTab :=
  if status = some 429 then s.settle call (.error status)
  else if status ≠ some 401 then s.settle call (.error status)
  else if original.skipAuthRefresh then s.settle call (.error status)
  else if isRefreshUrl original.url then s.clearSessionAndLogin.settle call (.error status)
  else if original.retryAfterRefresh then s.clearSessionAndLogin.settle call (.error status)
  else
    match truthyText s.refreshToken with
    | none => s.clearSessionAndLogin.settle call (.error status)
    | some rt => s.refreshWithMutex call rt

/-- What a request does when the promise it has waited for is settled. -/
def resume (refreshed : Bool) (s : HttpTab) (waiter : HttpRequest) : HttpTab :=
  if refreshed then
    match truthyText s.auth.accessToken with
    | none => s.clearSessionAndLogin.settle waiter.call (.error (some 401))
    | some token =>
        s.request pathname waiter.call
          { waiter.config with retryAfterRefresh := true, authorization := some ("Bearer " ++ token) }
  else s.clearSessionAndLogin.settle waiter.call (.error (some 401))

/-- An invocation of `performRefresh` returns or throws, and those that wait for it go on one after another. -/
def finishRefresh (run : Nat) (refreshed : Bool) : HttpTab :=
  let s := { s with refreshCalls := s.refreshCalls.filter fun other => other.id ≠ run, refreshPromise := none }
  (s.requests.filter fun request => request.waitsFor = some run).foldl (resume pathname refreshed) s

/-- The `catch` of an attempt that may be made again: it sleeps, unless it was the last one. -/
def refreshFailed (run : RefreshCall) : HttpTab :=
  if run.attempt = MAX_REFRESH_ATTEMPTS then s.finishRefresh pathname run.id false
  else
    { s with refreshCalls := s.refreshCalls.map fun other =>
        if other.id = run.id then { other with posting := false } else other }

/-- The `await` of an attempt goes on. -/
def refreshAnswered (run : RefreshCall) : RefreshAnswer → HttpTab
  | .ok data =>
      match truthyText data.accessToken with
      | none => s.refreshFailed pathname run
      | some access =>
          { s with
            auth := s.auth.setSession s.auth.user (some access) data.expiresAt
            refreshToken := (truthyText data.refreshToken).orElse fun _ => s.refreshToken }.finishRefresh pathname run.id true
  | .failed status =>
      if status = some 401 || status = some 403 || status = some 429 then s.finishRefresh pathname run.id false
      else s.refreshFailed pathname run

/-- The sleep is over and the next attempt is made. -/
def refreshAgain (run : RefreshCall) : HttpTab :=
  { s.postRefresh run with refreshCalls := s.refreshCalls.map fun other =>
      if other.id = run.id then { other with attempt := other.attempt + 1, posting := true } else other }

end HttpTab

end MessagingSystem.Source.Client
