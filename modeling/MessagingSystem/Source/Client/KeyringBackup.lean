import MessagingSystem.Foundation.EcmaDate
import MessagingSystem.Foundation.JsonText
import MessagingSystem.Source.Client.PrivateKeyStorage

/-!
# Keyring backup files

`keyringBackup.ts`: the export of the keyring as a JSON file whose payload is
wrapped with a backup passphrase, and the import of such a file. Both callers
leave the number of iterations at its default.
-/
namespace MessagingSystem.Source.Client
open Foundation

def KEYRING_BACKUP_FILE_FORMAT : String := "messaging-keyring-backup-v1"

section Text

/-- `arrayBufferToBase64`. -/
def arrayBufferToBase64 (bytes : List UInt8) : String := Base64.encode bytes

/-- `new TextDecoder().decode(bytes)`, as a string. -/
def decodeText (bytes : List UInt8) : String :=
  String.ofList (TextCoding.dropByteOrderMark (TextCoding.decodeFrom {} bytes))

/-- With `fatal: true`: bytes that decoding and encoding does not give back are not UTF-8. -/
def decodeTextFatal (bytes : List UInt8) : Except CryptoError String :=
  if (TextCoding.decodeFrom {} bytes).flatMap TextCoding.encodeChar = bytes then .ok (decodeText bytes)
  else .error .typeError

def parseBackupJson (text : String) : Except CryptoError Json :=
  match Json.parse text with
  | some value => .ok value
  | none => .error (.error "Backup file is not valid JSON")

/-- `isRecord(x)`, with the own properties of `x`; those of an array are its indices. -/
def isRecord : Option Json → Option (List (String × Json))
  | some (.object members) => some members
  | some (.array items) => some (items.zipIdx.map fun entry => (toString entry.2, entry.1))
  | _ => none

mutual

/-- `String(x)`. -/
def stringOf : Json → String
  | .null => "null"
  | .bool true => "true"
  | .bool false => "false"
  | .number literal => EcmaNumber.numberText literal
  | .string s => s
  | .array items => String.intercalate "," (stringsOf items)
  | .object _ => "[object Object]"

def stringsOf : List Json → List String
  | [] => []
  | .null :: rest => "" :: stringsOf rest
  | item :: rest => stringOf item :: stringsOf rest

end

/-- `String(x ?? '')`. -/
def stringOrEmpty : Option Json → String
  | none => ""
  | some .null => ""
  | some value => stringOf value

/-- The array index that a property name is. -/
def arrayIndex (name : String) : Option Nat :=
  (EcmaNumber.parseInt name).bind fun n =>
    if 0 ≤ n ∧ toString n.toNat = name ∧ n.toNat < 4294967295 then some n.toNat else none

/-- `Object.entries(o)`: the indices in ascending order, then the other names. -/
def objectEntries (members : List (String × Json)) : List (String × Json) :=
  ((members.filter fun m => (arrayIndex m.1).isSome).insertionSort fun a b =>
    (arrayIndex a.1).getD 0 ≤ (arrayIndex b.1).getD 0) ++
    members.filter fun m => (arrayIndex m.1).isNone

end Text

/-- What an export draws, and when it is made. -/
structure BackupDraws where
  wrap : WrapDraws
  exportedAt : Nat

/-- The blob and the name of the downloaded file. -/
structure KeyringBackupFile where
  blob : List UInt8
  filename : String

/-- The members of the plaintext payload. -/
def backupPlaintext (userId : String) (exportedAt : Nat) (deviceId : Option String)
    (entries : List (String × String)) : List (String × Json) :=
  [("format", .string KEYRING_BACKUP_FILE_FORMAT), ("userId", .string userId),
    ("exportedAt", .string (EcmaDate.toISOString exportedAt))] ++
    (deviceId.map fun d => ("deviceId", Json.string d)).toList ++
    [("entries", .object (entries.map fun entry => (entry.1, .string entry.2)))]

def wrappedJson : StoredPrivateKeyPayload → Json
  | .encryptedV1 pbkdf2Iterations saltB64 ivB64 ciphertextB64 =>
      .object [("pbkdf2Iterations", .number (toString pbkdf2Iterations)), ("saltB64", .string saltB64),
        ("ivB64", .string ivB64), ("ciphertextB64", .string ciphertextB64)]
  | .plaintextDevV1 pkcs8B64 => .object [("pkcs8B64", .string pkcs8B64)]

def backupFileBody (userId : String) (exportedAt : Nat) (wrapped : StoredPrivateKeyPayload) : Json :=
  .object [("format", .string KEYRING_BACKUP_FILE_FORMAT), ("userId", .string userId),
    ("exportedAt", .string (EcmaDate.toISOString exportedAt)), ("wrapped", wrappedJson wrapped)]

section Backup

variable {PublicKey PrivateKey Seed : Type} (crypto : WebCrypto PublicKey PrivateKey Seed)

/-- The loop of the export over the versions of the keyring. -/
def keyringEntries (storage : KeyStorage) (userId storagePassphrase : String) :
    List Nat → Except CryptoError (List (String × String))
  | [] => .ok []
  | v :: rest => do
      let pkcs8 ← loadKeyringPrivateKeyPkcs8 crypto storage userId v storagePassphrase
      let entries ← keyringEntries storage userId storagePassphrase rest
      .ok ((pkcs8.map fun bytes => (toString v, arrayBufferToBase64 bytes)).toList ++ entries)

/-- The entry of a profile that has a legacy row only. -/
def legacyEntries (storage : KeyStorage) (userId storagePassphrase : String)
    (legacyKeyVersionIfNoKeyring : Int) : Except CryptoError (List (String × String)) := do
  match ← loadEncryptedPrivateKeyPkcs8 crypto storage userId storagePassphrase with
  | none => .error (.error "No private key material found to export")
  | some pkcs8 =>
      if legacyKeyVersionIfNoKeyring < 1 then
        .error (.error "Invalid key version for legacy-only export")
      else .ok [(toString legacyKeyVersionIfNoKeyring, arrayBufferToBase64 pkcs8)]

def buildKeyringBackupBlob (storage : KeyStorage) (userId storagePassphrase backupPassphrase : String)
    (legacyKeyVersionIfNoKeyring : Int) (draws : BackupDraws) : Except CryptoError KeyringBackupFile := do
  let versions := listKeyringVersions storage userId
  let entries ← if 0 < versions.length then keyringEntries crypto storage userId storagePassphrase versions
    else legacyEntries crypto storage userId storagePassphrase legacyKeyVersionIfNoKeyring
  let plaintext := backupPlaintext userId draws.exportedAt (getStoredDeviceId storage userId) entries
  let wrapped := wrapPrivateKeyPkcs8 crypto (utf8 (Json.object plaintext).stringify) backupPassphrase
    PBKDF2_ITERATIONS_DEFAULT draws.wrap
  let fileBody := backupFileBody userId draws.exportedAt wrapped
  .ok ⟨utf8 fileBody.stringify, "messaging-keyring-backup-" ++
    String.ofList (TextCoding.scalars ((TextCoding.units userId.toList).take 8)) ++ ".json"⟩

/-- `unwrapPrivateKeyPkcs8` with the iterations of the file: what `deriveBits`
does not take throws once the texts have been decoded. -/
def unwrapBackup (pbkdf2Iterations : Option Json) (saltB64 ivB64 ciphertextB64 passphrase : String) :
    Except CryptoError (List UInt8) :=
  let iterations : Except CryptoError Nat :=
    match pbkdf2Iterations with
    | some (.number literal) =>
        match EcmaNumber.unsignedLong literal with
        | some 0 => .error .operationError
        | some n => .ok n
        | none => .error .typeError
    | _ => .ok PBKDF2_ITERATIONS_DEFAULT
  match iterations with
  | .ok n => unwrapPrivateKeyPkcs8 crypto n saltB64 ivB64 ciphertextB64 passphrase
  | .error e => do
      if EcmaText.trim passphrase = "" then .error (.error "Passphrase must not be empty")
      let _ ← base64ToArrayBuffer saltB64
      let _ ← base64ToArrayBuffer ivB64
      let _ ← base64ToArrayBuffer ciphertextB64
      .error e

/-- The payload of a file, decrypted. -/
def openBackup (userId : String) (fileBytes : List UInt8) (backupPassphrase : String) :
    Except CryptoError (List (String × Json)) := do
  let text ← decodeTextFatal fileBytes
  let raw ← parseBackupJson text
  match isRecord (some raw) with
  | none => .error (.error "Invalid backup file")
  | some raw =>
      if Json.asString (Json.member raw "format") ≠ some KEYRING_BACKUP_FILE_FORMAT then
        .error (.error "Unsupported backup file format")
      if Json.asString (Json.member raw "userId") ≠ some userId then
        .error (.error "Backup file is for a different account")
      match isRecord (Json.member raw "wrapped") with
      | none => .error (.error "Invalid backup file (missing wrapped payload)")
      | some wrapped => do
          let plain ← unwrapBackup crypto (Json.member wrapped "pbkdf2Iterations")
            (stringOrEmpty (Json.member wrapped "saltB64")) (stringOrEmpty (Json.member wrapped "ivB64"))
            (stringOrEmpty (Json.member wrapped "ciphertextB64")) backupPassphrase
          let inner ← parseBackupJson (decodeText plain)
          match isRecord (some inner) with
          | none => .error (.error "Corrupted backup payload")
          | some inner =>
              if Json.asString (Json.member inner "format") ≠ some KEYRING_BACKUP_FILE_FORMAT then
                .error (.error "Corrupted backup payload")
              else .ok inner

/-- The loop over the entries: those stored stay when a later one throws. -/
def importEntries (userId storagePassphrase : String) (draws : Nat → WrapDraws) :
    List (String × Json) → List Nat → KeyStorage → Except CryptoError (List Nat) × KeyStorage
  | [], importedVersions, storage => (.ok importedVersions, storage)
  | (k, v) :: rest, importedVersions, storage =>
      match (EcmaNumber.parseInt k).filter fun keyVersion => 1 ≤ keyVersion, v with
      | some keyVersion, .string text =>
          let stored := do
            let pkcs8 ← base64ToArrayBuffer text
            storeKeyringPrivateKeyPkcs8 crypto storage userId keyVersion.toNat pkcs8 storagePassphrase none
              (draws importedVersions.length)
          match stored with
          | .ok stored =>
              importEntries userId storagePassphrase draws rest (importedVersions ++ [keyVersion.toNat]) stored
          | .error e => (.error e, storage)
      | _, _ => importEntries userId storagePassphrase draws rest importedVersions storage

/-- The imported versions and the restored device id, and the profile after it. -/
def importKeyringBackupFromArrayBuffer (storage : KeyStorage) (userId : String) (fileBytes : List UInt8)
    (backupPassphrase storagePassphrase : String) (draws : Nat → WrapDraws) :
    Except CryptoError (List Nat × Option String) × KeyStorage :=
  match openBackup crypto userId fileBytes backupPassphrase with
  | .error e => (.error e, storage)
  | .ok inner =>
      match isRecord (Json.member inner "entries") with
      | none => (.error (.error "Corrupted backup entries"), storage)
      | some ent =>
          match importEntries crypto userId storagePassphrase draws (objectEntries ent) [] storage with
          | (.error e, stored) => (.error e, stored)
          | (.ok importedVersions, stored) =>
              if importedVersions = [] then (.error (.error "No key entries found in backup"), stored)
              else
                let sorted := importedVersions.insertionSort fun a b => a ≤ b
                let fromBackup := EcmaText.trim ((Json.asString (Json.member inner "deviceId")).getD "")
                if fromBackup = "" then (.ok (sorted, none), stored)
                else
                  match setStoredDeviceId stored userId fromBackup with
                  | .ok restored => (.ok (sorted, some fromBackup), restored)
                  | .error e => (.error e, stored)

end Backup

end MessagingSystem.Source.Client
