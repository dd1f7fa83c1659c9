import MessagingSystem.Foundation.EcmaText

/-!
# Sync requests of a tab

The part of `cryptoSlice.ts` that holds the request of a new device, its
selector, the handler of `device:sync_requested` in `SocketWorkerProvider.tsx`
and the ends of `executeApproveDeviceKeySync`, whose pages of keys do not
touch the slice.
-/
namespace MessagingSystem.Source.Client
open Foundation

structure DeviceSyncRequestedPayload where
  newDeviceId : String
  newDevicePublicKey : String
  deriving DecidableEq

/-- The trimmed payload, unless a part of it is blank. -/
def DeviceSyncRequestedPayload.usable (payload : DeviceSyncRequestedPayload) :
    Option DeviceSyncRequestedPayload :=
  let id := EcmaText.trim payload.newDeviceId
  let publicKey := EcmaText.trim payload.newDevicePublicKey
  if id = "" ∨ publicKey = "" then none else some ⟨id, publicKey⟩

structure CryptoState where
  deviceId : Option String := none
  pendingSyncFromDeviceId : Option String := none
  pendingSyncFromDevicePublicKey : Option String := none
  syncCompletedForNewDeviceId : Option String := none
  deriving DecidableEq

namespace CryptoState

variable (state : CryptoState)

def syncRequested (payload : DeviceSyncRequestedPayload) : CryptoState :=
  { state with
    pendingSyncFromDeviceId := some (EcmaText.trim payload.newDeviceId)
    pendingSyncFromDevicePublicKey := some (EcmaText.trim payload.newDevicePublicKey)
    syncCompletedForNewDeviceId := none }

def syncDismissed : CryptoState :=
  { state with
    pendingSyncFromDeviceId := none
    pendingSyncFromDevicePublicKey := none }

def syncCompleted (newDeviceId : String) : CryptoState :=
  let id := EcmaText.trim newDeviceId
  { state with
    pendingSyncFromDeviceId := none
    pendingSyncFromDevicePublicKey := none
    syncCompletedForNewDeviceId := if id ≠ "" then some id else none }

/-- The request the approval banner shows. -/
def selectPendingSync : Option DeviceSyncRequestedPayload :=
  DeviceSyncRequestedPayload.usable
    ⟨state.pendingSyncFromDeviceId.getD "", state.pendingSyncFromDevicePublicKey.getD ""⟩

/-- `device:sync_requested`, which the new device itself passes over. -/
def onDeviceSyncRequested (payload : DeviceSyncRequestedPayload) : CryptoState :=
  let myDeviceId := EcmaText.trim (state.deviceId.getD "")
  if myDeviceId ≠ "" ∧ EcmaText.trim payload.newDeviceId = myDeviceId then state
  else state.syncRequested payload

theorem selectPendingSync_requested (payload : DeviceSyncRequestedPayload) :
    (state.syncRequested payload).selectPendingSync = payload.usable := by
  simp [selectPendingSync, syncRequested, DeviceSyncRequestedPayload.usable]

theorem selectPendingSync_of_none (cleared : state.pendingSyncFromDeviceId = none) :
    state.selectPendingSync = none := by
  simp [selectPendingSync, cleared, DeviceSyncRequestedPayload.usable]

@[simp] theorem selectPendingSync_dismissed : state.syncDismissed.selectPendingSync = none :=
  selectPendingSync_of_none _ rfl

@[simp] theorem selectPendingSync_completed (newDeviceId : String) :
    (state.syncCompleted newDeviceId).selectPendingSync = none :=
  selectPendingSync_of_none _ rfl

end CryptoState

end MessagingSystem.Source.Client
