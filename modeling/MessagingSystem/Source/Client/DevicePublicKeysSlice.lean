import MessagingSystem.Source.Client.MessageHybrid

/-!
# The directory cache of a tab

`devicePublicKeysSlice.ts`, and what `useSendEncryptedMessage` reads of it. A
row of the server's answer is its device id and public key, the two properties
the thunk keeps.
-/
namespace MessagingSystem.Source.Client
open Foundation

def DEVICE_PUBLIC_KEYS_CACHE_TTL_MS : Nat := 120000

inductive FetchStatus where
  | idle | loading | succeeded | failed
  deriving DecidableEq

structure DevicePublicKeysEntry where
  status : FetchStatus := .idle
  items : List HybridDeviceRow := []
  forbidden : Bool := false
  error : Option String := none
  cachedAtMs : Option Nat := none
  deriving DecidableEq

structure DevicePublicKeysState where
  byUserId : Record DevicePublicKeysEntry := ∅

/-- `now - entry.cachedAtMs < DEVICE_PUBLIC_KEYS_CACHE_TTL_MS`, also when the clock went back. -/
def isDevicePublicKeysCacheFresh (entry : Option DevicePublicKeysEntry) (now : Nat) : Bool :=
  match entry with
  | some entry =>
      entry.status = .succeeded &&
        entry.cachedAtMs.any fun cachedAt => now < cachedAt + DEVICE_PUBLIC_KEYS_CACHE_TTL_MS
  | none => false

structure FetchDevicePublicKeysResult where
  userId : String
  items : List HybridDeviceRow
  forbidden : Bool

/-- What `parseApiError` reads off a failed request. -/
structure ParsedApiError where
  message : String
  httpStatus : Option Nat

/-- The end of the `fetchDevicePublicKeys` thunk, from the answer to its request. -/
def fetchDevicePublicKeys (key : String) (answer : Except ParsedApiError (List HybridDeviceRow)) :
    Except String FetchDevicePublicKeysResult :=
  match answer with
  | .ok items => .ok ⟨key, items, false⟩
  | .error p =>
      if p.httpStatus = some 403 then .ok ⟨key, [], true⟩
      else if p.message ≠ "" then .error p.message
      else if p.httpStatus = some 404 then .error "User or device keys were not found."
      else .error "Failed to load device public keys."

namespace DevicePublicKeysState

variable (state : DevicePublicKeysState)

/-- `selectDevicePublicKeysEntry`. -/
def entry (userId : String) : Option DevicePublicKeysEntry := state.byUserId.get (EcmaText.trim userId)

def invalidateDevicePublicKeys (payload : Option String) : DevicePublicKeysState :=
  let id := EcmaText.trim (payload.getD "")
  if id = "" then {} else ⟨state.byUserId.delete id⟩

/-- `registerDevice.fulfilled`. -/
def deviceRegistered : DevicePublicKeysState := ⟨state.byUserId.delete "me"⟩

/-- `fetchDevicePublicKeys.pending`. -/
def fetchPending (arg : String) : DevicePublicKeysState :=
  let key := EcmaText.trim arg
  let prev := state.byUserId.get key
  ⟨state.byUserId.set key
    { status := .loading
      items := (prev.map DevicePublicKeysEntry.items).getD []
      forbidden := (prev.map DevicePublicKeysEntry.forbidden).getD false }⟩

/-- `fetchDevicePublicKeys.fulfilled`. -/
def fetchFulfilled (result : FetchDevicePublicKeysResult) (now : Nat) : DevicePublicKeysState :=
  ⟨state.byUserId.set result.userId
    { status := .succeeded
      items := result.items
      forbidden := result.forbidden
      cachedAtMs := some now }⟩

/-- `fetchDevicePublicKeys.rejected`. -/
def fetchRejected (arg : String) (message : String) : DevicePublicKeysState :=
  ⟨state.byUserId.set (EcmaText.trim arg) { status := .failed, error := some message }⟩

/-- The action that ends a thunk. -/
def fetchSettled (arg : String) (now : Nat) : Except String FetchDevicePublicKeysResult → DevicePublicKeysState
  | .ok result => state.fetchFulfilled result now
  | .error message => state.fetchRejected arg message

/-- The rows a send wraps its key for, once its own requests are through; without any it throws. -/
def sendRows (userId : String) : Option (List HybridDeviceRow) :=
  match state.entry userId with
  | none => none
  | some entry => if entry.status = .failed ∨ entry.items = [] then none else some entry.items

end DevicePublicKeysState

end MessagingSystem.Source.Client
