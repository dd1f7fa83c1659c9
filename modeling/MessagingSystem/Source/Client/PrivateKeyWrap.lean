import MessagingSystem.Source.Client.BackupEffects

/-!
# Passphrase wraps

`privateKeyWrap.ts` with the number of iterations its caller gives, and the
export that hands it over. The number stands as its literal: it goes through the
JSON of a file and through the conversion of `deriveBits` both times. The wrap
takes the passphrase as it is and the unwrap trims it.
-/
namespace MessagingSystem.Source.Client
open Foundation

/-- `pbkdf2Iterations` is the literal of a number. -/
structure WrappedPrivateKeyPayload where
  pbkdf2Iterations : String
  saltB64 : String
  ivB64 : String
  ciphertextB64 : String
  deriving DecidableEq

/-- The iterations that `deriveBits` takes: an `[EnforceRange] unsigned long`, and not zero. -/
def deriveIterations (iterations : String) : Except CryptoError Nat :=
  match EcmaNumber.unsignedLong iterations with
  | some 0 => .error .operationError
  | some n => .ok n
  | none => .error .typeError

def WrappedPrivateKeyPayload.json (payload : WrappedPrivateKeyPayload) : Json :=
  .object [("pbkdf2Iterations", .number payload.pbkdf2Iterations), ("saltB64", .string payload.saltB64),
    ("ivB64", .string payload.ivB64), ("ciphertextB64", .string payload.ciphertextB64)]

/-- The members of a file. -/
def backupFileMembers (userId : String) (exportedAt : Nat) (wrapped : WrappedPrivateKeyPayload) :
    List (String × Json) :=
  [("format", .string KEYRING_BACKUP_FILE_FORMAT), ("userId", .string userId),
    ("exportedAt", .string (EcmaDate.toISOString exportedAt)), ("wrapped", wrapped.json)]

section Wrap

variable {PublicKey PrivateKey Seed : Type} (crypto : WebCrypto PublicKey PrivateKey Seed)

/-- `wrapPrivateKeyPkcs8`. -/
def wrapWithIterations (pkcs8Der : List UInt8) (passphrase iterations : String) (draws : WrapDraws) :
    Except CryptoError WrappedPrivateKeyPayload := do
  let n ← deriveIterations iterations
  let aesKey := crypto.pbkdf2 (utf8 passphrase) draws.salt.bytes n
  .ok
    { pbkdf2Iterations := iterations
      saltB64 := Base64.encode draws.salt.bytes
      ivB64 := Base64.encode draws.iv.bytes
      ciphertextB64 := Base64.encode (crypto.aesGcmEncrypt aesKey draws.iv.bytes pkcs8Der) }

/-- `unwrapPrivateKeyPkcs8`. -/
def unwrapPayload (payload : WrappedPrivateKeyPayload) (passphrase : String) :
    Except CryptoError (List UInt8) :=
  unwrapBackup crypto (some (.number payload.pbkdf2Iterations)) payload.saltB64 payload.ivB64
    payload.ciphertextB64 passphrase

/-- The bytes an export wraps. -/
def backupPlaintextBytes (storage : KeyStorage) (userId storagePassphrase : String)
    (legacyKeyVersionIfNoKeyring : Int) (exportedAt : Nat) : Except CryptoError (List UInt8) := do
  let versions := listKeyringVersions storage userId
  let entries ← if 0 < versions.length then keyringEntries crypto storage userId storagePassphrase versions
    else legacyEntries crypto storage userId storagePassphrase legacyKeyVersionIfNoKeyring
  let plaintext := backupPlaintext userId exportedAt (getStoredDeviceId storage userId) entries
  .ok (utf8 (Json.object plaintext).stringify)

/-- `buildKeyringBackupBlob`. -/
def buildWithIterations (storage : KeyStorage) (userId storagePassphrase backupPassphrase : String)
    (legacyKeyVersionIfNoKeyring : Int) (iterations : String) (draws : BackupDraws) :
    Except CryptoError KeyringBackupFile := do
  let plaintext ← backupPlaintextBytes crypto storage userId storagePassphrase legacyKeyVersionIfNoKeyring
    draws.exportedAt
  let wrapped ← wrapWithIterations crypto plaintext backupPassphrase iterations draws.wrap
  let fileBody := Json.object (backupFileMembers userId draws.exportedAt wrapped)
  .ok ⟨utf8 fileBody.stringify, "messaging-keyring-backup-" ++
    String.ofList (TextCoding.scalars ((TextCoding.units userId.toList).take 8)) ++ ".json"⟩

/-- What the import unwraps of a file. -/
def unwrapFile (userId : String) (fileBytes : List UInt8) (backupPassphrase : String) :
    Except CryptoError (List UInt8) := do
  let text ← decodeTextFatal fileBytes
  let raw ← parseBackupJson text
  match isRecord (some raw) with
  | none => .error (.error "Invalid backup file")
  | some raw =>
      if Json.asString (Json.member raw "format") ≠ some KEYRING_BACKUP_FILE_FORMAT then
        .error (.error "Unsupported backup file format")
      if Json.asString (Json.member raw "userId") ≠ some userId then
        .error (.error "Backup file is for a different account")
      match isRecord (Json.member raw "wrapped") with
      | none => .error (.error "Invalid backup file (missing wrapped payload)")
      | some wrapped =>
          unwrapBackup crypto (Json.member wrapped "pbkdf2Iterations")
            (stringOrEmpty (Json.member wrapped "saltB64")) (stringOrEmpty (Json.member wrapped "ivB64"))
            (stringOrEmpty (Json.member wrapped "ciphertextB64")) backupPassphrase

/-- What the import reads of the bytes it has unwrapped. -/
def parseBackupPayload (plain : List UInt8) : Except CryptoError (List (String × Json)) := do
  let inner ← parseBackupJson (decodeText plain)
  match isRecord (some inner) with
  | none => .error (.error "Corrupted backup payload")
  | some inner =>
      if Json.asString (Json.member inner "format") ≠ some KEYRING_BACKUP_FILE_FORMAT then
        .error (.error "Corrupted backup payload")
      else .ok inner

end Wrap

section Callers

variable {PublicKey PrivateKey Seed : Type} {crypto : WebCrypto PublicKey PrivateKey Seed}

theorem deriveIterations_toString {n : Nat} (positive : 0 < n) (small : n ≤ 4294967295) :
    deriveIterations (toString n) = .ok n := by
  unfold deriveIterations
  rw [EcmaNumber.unsignedLong_toString small]
  cases n with
  | zero => cases positive
  | succ n => rfl

/-- An export without the argument is the one with the default. -/
theorem buildKeyringBackupBlob_default (storage : KeyStorage)
    (userId storagePassphrase backupPassphrase : String) (legacyKeyVersion : Int) (draws : BackupDraws) :
    buildKeyringBackupBlob crypto storage userId storagePassphrase backupPassphrase legacyKeyVersion draws =
      buildWithIterations crypto storage userId storagePassphrase backupPassphrase legacyKeyVersion
        (toString PBKDF2_ITERATIONS_DEFAULT) draws := by
  have derived : deriveIterations (toString PBKDF2_ITERATIONS_DEFAULT) = .ok PBKDF2_ITERATIONS_DEFAULT :=
    deriveIterations_toString (by decide) (by decide)
  unfold buildKeyringBackupBlob buildWithIterations backupPlaintextBytes wrapWithIterations
  by_cases keyed : 0 < (listKeyringVersions storage userId).length
  · simp only [keyed, if_true, bind, Except.bind]
    cases keyringEntries crypto storage userId storagePassphrase (listKeyringVersions storage userId) with
    | error e => rfl
    | ok entries =>
      simp only [derived]
      rfl
  · simp only [keyed, if_false, bind, Except.bind]
    cases legacyEntries crypto storage userId storagePassphrase legacyKeyVersion with
    | error e => rfl
    | ok entries =>
      simp only [derived]
      rfl

/-- The import parses what `unwrapFile` gives. -/
theorem openBackup_unwrapFile (userId : String) (fileBytes : List UInt8) (backupPassphrase : String) :
    openBackup crypto userId fileBytes backupPassphrase =
      (unwrapFile crypto userId fileBytes backupPassphrase).bind parseBackupPayload := by
  unfold openBackup unwrapFile parseBackupPayload
  cases decodeTextFatal fileBytes with
  | error e => rfl
  | ok text =>
    simp only [bind, Except.bind]
    cases parseBackupJson text with
    | error e => rfl
    | ok raw =>
      cases record : isRecord (some raw) with
      | none => simp only [record]
      | some raw =>
        simp only [record]
        by_cases format : Json.asString (Json.member raw "format") = some KEYRING_BACKUP_FILE_FORMAT
        · by_cases owner : Json.asString (Json.member raw "userId") = some userId
          · simp only [format, owner, ne_eq, not_true_eq_false, if_false]
            cases isRecord (Json.member raw "wrapped") <;> rfl
          · simp only [format, owner, ne_eq, not_true_eq_false, not_false_eq_true, if_false, if_true]
        · simp only [format, ne_eq, not_false_eq_true, if_true]

end Callers
end MessagingSystem.Source.Client
