import MessagingSystem.Source.Server.Database

/-!
# The device public-key directory

`userPublicKeys/repo.ts`: one row per `(userId, deviceId)`, registered or
updated by `POST /users/me/devices` and removed by `DELETE`. The calls take the
clock and the drawn UUID as arguments.
-/
namespace MessagingSystem.Source.Server
open Foundation

/-- `DEFAULT_SINGLE_DEVICE_ID`. -/
def DEFAULT_SINGLE_DEVICE_ID : String := "default"

/-- The character class of `registeredDeviceIdStringSchema`. -/
def isDeviceIdChar (c : Char) : Bool :=
  ('A' ≤ c && c ≤ 'Z') || ('a' ≤ c && c ≤ 'z') || ('0' ≤ c && c ≤ '9') || c = '_' || c = '-'

/-- `registeredDeviceIdStringSchema` accepts the string and returns it as it is. -/
def isRegisteredDeviceIdString (s : String) : Bool :=
  EcmaText.trim s = s && s ≠ "" && EcmaText.codeUnitLength s ≤ 128 && s.toList.all isDeviceIdChar

/-- A device id of the wire grammar, as the routes pass it on. -/
structure WireDeviceId where
  val : String
  valid : isRegisteredDeviceIdString val = true

theorem WireDeviceId.trim_val (d : WireDeviceId) : EcmaText.trim d.val = d.val := by
  have valid := d.valid
  simp only [isRegisteredDeviceIdString, Bool.and_eq_true, decide_eq_true_eq] at valid
  exact valid.1.1.1

theorem WireDeviceId.val_ne_empty (d : WireDeviceId) : d.val ≠ "" := by
  have valid := d.valid
  simp only [isRegisteredDeviceIdString, Bool.and_eq_true, decide_eq_true_eq] at valid
  exact valid.1.1.2

/-- An authenticated user's id: an id of a stored user, trimmed and not empty. -/
structure UserId where
  val : String
  trimmed : EcmaText.Trimmed val
  nonempty : val ≠ ""

theorem UserId.trim_val (u : UserId) : EcmaText.trim u.val = u.val := u.trimmed

/-!
Two users and two devices for runs.
-/

theorem UserId.alice_trimmed : EcmaText.Trimmed "alice" := by decide

theorem UserId.alice_nonempty : "alice" ≠ "" := by decide

def UserId.alice : UserId := ⟨"alice", alice_trimmed, alice_nonempty⟩

theorem UserId.bob_trimmed : EcmaText.Trimmed "bob" := by decide

theorem UserId.bob_nonempty : "bob" ≠ "" := by decide

def UserId.bob : UserId := ⟨"bob", bob_trimmed, bob_nonempty⟩

theorem WireDeviceId.deviceA_valid : isRegisteredDeviceIdString "dA" = true := by decide

def WireDeviceId.deviceA : WireDeviceId := ⟨"dA", deviceA_valid⟩

theorem WireDeviceId.deviceA2_valid : isRegisteredDeviceIdString "dA2" = true := by decide

def WireDeviceId.deviceA2 : WireDeviceId := ⟨"dA2", deviceA2_valid⟩

def findUserDeviceRow (userId deviceId : String) : ServerProgram (Option UserPublicKeyDocument) :=
  .perform (.findDevice (EcmaText.trim userId) (EcmaText.trim deviceId))

def findDevicePublicKeysByUserId (userId : String) : ServerProgram (List UserPublicKeyDocument) :=
  let trimmed := EcmaText.trim userId
  if trimmed = "" then pure [] else .perform (.listDevices trimmed)

/-- An item of `toDevicePublicKeysListResponse`, and the response of a registration. -/
structure DevicePublicKey where
  deviceId : String
  publicKey : String
  keyVersion : Nat
  deriving DecidableEq

/-- `toRegisterDeviceResponse`. -/
def toRegisterDeviceResponse (doc : UserPublicKeyDocument) : DevicePublicKey :=
  ⟨doc.deviceId, doc.publicKey, doc.keyVersion.getD 1⟩

/-- `toDevicePublicKeysListResponse`. -/
def toDevicePublicKeysListResponse (docs : List UserPublicKeyDocument) : List DevicePublicKey :=
  docs.map toRegisterDeviceResponse

/-- What an error that is not an `AppError` becomes. -/
def internalServerError : AppError := ⟨"INTERNAL_ERROR", 500, "Internal server error"⟩

structure RegisterDeviceOutcome where
  document : UserPublicKeyDocument
  isNewDeviceRow : Bool

/-- The device id a registration uses: the trimmed client id, else the drawn UUID. -/
def registeredDeviceId (clientDeviceId : Option String) (uuid : String) : String :=
  match clientDeviceId.map EcmaText.trim with
  | some trimmed => if trimmed ≠ "" then trimmed else uuid
  | none => uuid

/-- Store a label that differs from the one held, and read the row back. -/
def relabelDevice (userId deviceId : String) (existing : UserPublicKeyDocument)
    (label : Option (Option String)) (now : Nat) : ServerProgram (Option UserPublicKeyDocument) :=
  match label with
  | none => pure none
  | some next =>
      if next = existing.deviceLabel then pure none
      else do
        .perform (.updateDevice userId deviceId
          { deviceLabel := some next, updatedAt := some now, lastSeenAt := now })
        .perform (.findDevice userId deviceId)

/-- The same key again: a new label is stored, otherwise only `lastSeenAt` moves. -/
def touchDevice (userId deviceId : String) (existing : UserPublicKeyDocument)
    (label : Option (Option String)) (now : Nat) : ServerProgram RegisterDeviceOutcome := do
  match ← relabelDevice userId deviceId existing label now with
  | some document => pure ⟨document, false⟩
  | none => do
      .perform (.updateDevice userId deviceId { lastSeenAt := now })
      let refreshed ← .perform (.findDevice userId deviceId)
      pure ⟨refreshed.getD existing, false⟩

def registerOrUpdateDevice (userId publicKey : String) (clientDeviceId deviceLabel : Option String)
    (uuid : String) (now : Nat) : ServerProgram RegisterDeviceOutcome := do
  let deviceId := registeredDeviceId clientDeviceId uuid
  .require (EcmaText.codeUnitLength deviceId ≤ 128)
    ⟨"INVALID_REQUEST", 400, "deviceId is too long"⟩
  -- `some none` is a label that is given but blank
  let label : Option (Option String) := deviceLabel.map fun l =>
    if EcmaText.trim l ≠ "" then some (EcmaText.trim l) else none
  let existing ← .perform (.findDevice userId deviceId)
  match existing with
  | none => do
      let doc : UserPublicKeyDocument :=
        { userId, deviceId, publicKey, deviceLabel := label.getD none, lastSeenAt := some now
          createdAt := now, updatedAt := now, keyVersion := some 1 }
      let inserted ← .perform (.insertDevice doc)
      .require inserted internalServerError
      pure ⟨doc, true⟩
  | some existing =>
      if existing.publicKey = publicKey then touchDevice userId deviceId existing label now
      else do
        .perform (.updateDevice userId deviceId
          { publicKey := some publicKey, keyVersion := some (existing.keyVersion.getD 1 + 1)
            deviceLabel := label, updatedAt := some now, lastSeenAt := now })
        let updated ← .perform (.findDevice userId deviceId)
        let document ← .orFail updated
          ⟨"INTERNAL_ERROR", 500, "Failed to read updated device key"⟩
        pure ⟨document, false⟩

def deleteDeviceForUser (userId deviceId : String) : ServerProgram Bool := do
  let deletedCount ← .perform (.deleteDevice (EcmaText.trim userId) (EcmaText.trim deviceId))
  pure (deletedCount = 1)

end MessagingSystem.Source.Server
