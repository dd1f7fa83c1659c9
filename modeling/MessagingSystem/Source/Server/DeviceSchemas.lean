import MessagingSystem.Source.Server.DeviceDirectory
import MessagingSystem.Source.Server.SyncMessageKeys

/-!
# The schemas that take a device id

The device schemas of `schemas.ts`. A registration's `deviceId` is bounded only; the
path of a removal, the two sync requests and the `sourceDeviceId` of the auth requests
share `registeredDeviceIdStringSchema`. The check of an SPKI key is an argument.
-/
namespace MessagingSystem.Source.Server
open Foundation

/-- `z.string().trim()` and the bounds of its length. -/
def trimmedString (min max : Nat) (value : Option Json) : Option String :=
  ((Json.asString value).map EcmaText.trim).filter fun s =>
    decide (min ≤ EcmaText.codeUnitLength s) && decide (EcmaText.codeUnitLength s ≤ max)

/-- `z.string()` and the bounds of its length. -/
def untrimmedString (min max : Nat) (value : Option Json) : Option String :=
  (Json.asString value).filter fun s =>
    decide (min ≤ EcmaText.codeUnitLength s) && decide (EcmaText.codeUnitLength s ≤ max)

def registeredDeviceIdStringSchema (value : Option Json) : Option String :=
  (trimmedString 1 128 value).filter fun s => s.toList.all isDeviceIdChar

/-- `.optional()`. -/
def optionalField {α : Type} (schema : Option Json → Option α) : Option Json → Option (Option α)
  | none => some none
  | some value => (schema (some value)).map some

/-- `.strict()`: the object has members of these names only. -/
def strictObject (known : List String) (raw : Json) : Option (List (String × Json)) :=
  (Json.asObject (some raw)).filter fun members => members.all fun m => known.contains m.1

structure RegisterDeviceRequest where
  publicKey : String
  deviceId : Option String
  deviceLabel : Option String
  bootstrap : Bool

def booleanSchema : Option Json → Option Bool
  | some (.bool b) => some b
  | _ => none

/-- `publicKeySpkiP256Schema`. -/
def publicKeySpkiP256Schema (isSpkiP256 : String → Bool) (value : Option Json) : Option String :=
  (untrimmedString 1 2048 value).filter isSpkiP256

/-- The key of a registration, given under one name or under both. -/
def registeredPublicKey : Option String → Option String → Option String
  | some publicKey, some pubKey => if publicKey = pubKey then some publicKey else none
  | some publicKey, none => some publicKey
  | none, pubKey => pubKey

def registerDeviceRequestSchema (isSpkiP256 : String → Bool) (raw : Json) : Option RegisterDeviceRequest := do
  let o ← strictObject ["publicKey", "pubKey", "deviceId", "deviceLabel", "bootstrap"] raw
  let publicKey ← optionalField (publicKeySpkiP256Schema isSpkiP256) (Json.member o "publicKey")
  let pubKey ← optionalField (publicKeySpkiP256Schema isSpkiP256) (Json.member o "pubKey")
  let deviceId ← optionalField (trimmedString 1 128) (Json.member o "deviceId")
  let deviceLabel ← optionalField (untrimmedString 0 200) (Json.member o "deviceLabel")
  let bootstrap ← optionalField booleanSchema (Json.member o "bootstrap")
  let key ← registeredPublicKey publicKey pubKey
  some ⟨key, deviceId, deviceLabel, bootstrap = some true⟩

/-- `deviceIdPathSchema`. -/
def deviceIdPathSchema (params : Json) : Option String := do
  let o ← Json.asObject (some params)
  registeredDeviceIdStringSchema (Json.member o "deviceId")

/-- The `deviceId` of `listSyncMessageKeysQuerySchema`. -/
def listSyncMessageKeysDeviceId (query : List (String × Json)) : Option String :=
  registeredDeviceIdStringSchema (Json.member query "deviceId")

/-- `batchSyncMessageKeyItemSchema`. -/
def batchSyncMessageKeyItemSchema (raw : Json) : Option SyncMessageKeyEntry := do
  let o ← strictObject ["messageId", "encryptedMessageKey"] raw
  let messageId ← trimmedString 1 200 (Json.member o "messageId")
  let encryptedMessageKey ← untrimmedString 1 131072 (Json.member o "encryptedMessageKey")
  some ⟨messageId, encryptedMessageKey⟩

/-- `batchSyncMessageKeysRequestSchema`, with the target device and the keys. -/
def batchSyncMessageKeysRequestSchema (raw : Json) : Option (String × List SyncMessageKeyEntry) := do
  let o ← strictObject ["targetDeviceId", "keys"] raw
  let targetDeviceId ← registeredDeviceIdStringSchema (Json.member o "targetDeviceId")
  match Json.member o "keys" with
  | some (.array items) => do
      let keys ← items.mapM batchSyncMessageKeyItemSchema
      if 1 ≤ keys.length ∧ keys.length ≤ 200 then some (targetDeviceId, keys) else none
  | _ => none

def sourceDeviceIdRequestFieldSchema (value : Option Json) : Option (Option String) :=
  optionalField registeredDeviceIdStringSchema value

section Grammar

theorem one_le_codeUnitLength {s : String} : 1 ≤ EcmaText.codeUnitLength s ↔ s ≠ "" := by
  have first (c : Char) : 1 ≤ EcmaText.charUnits c := by
    unfold EcmaText.charUnits
    split <;> omega
  unfold EcmaText.codeUnitLength
  rw [Ne, ← String.toList_eq_nil_iff]
  cases s.toList with
  | nil => simp
  | cons c rest =>
    have unit := first c
    simp only [List.foldr_cons, reduceCtorEq, not_false_eq_true, iff_true]
    omega

/-- The shared schema takes the strings whose trimmed form is of the grammar, and makes them that form. -/
theorem registeredDeviceIdStringSchema_eq (s : String) :
    registeredDeviceIdStringSchema (some (.string s)) =
      if isRegisteredDeviceIdString (EcmaText.trim s) then some (EcmaText.trim s) else none := by
  have grammar : isRegisteredDeviceIdString (EcmaText.trim s) =
      (decide (1 ≤ EcmaText.codeUnitLength (EcmaText.trim s)) &&
        decide (EcmaText.codeUnitLength (EcmaText.trim s) ≤ 128) &&
          (EcmaText.trim s).toList.all isDeviceIdChar) := by
    unfold isRegisteredDeviceIdString
    rw [EcmaText.trim_trim]
    simp only [one_le_codeUnitLength, decide_true, Bool.true_and]
  unfold registeredDeviceIdStringSchema trimmedString
  rw [grammar]
  simp only [Json.asString, Option.map_some, Option.filter_some]
  split
  · rename_i bounded
    rw [bounded, Bool.true_and, Option.filter_some]
  · rename_i outside
    rw [Bool.eq_false_iff.mpr outside, Bool.false_and, Option.filter_none]
    rfl

end Grammar

end MessagingSystem.Source.Server
