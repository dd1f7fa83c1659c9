import MessagingSystem.Source.Client.BackupEffects

/-!
# Imports whose writes fail

`importKeyringBackupFromArrayBuffer` with a schedule of failures: each write of a
row and the write of the device id is one transaction, which the database
rejects or completes. A rejected transaction leaves the profile as it is.
-/
namespace MessagingSystem.Source.Client
open Foundation

/-- How the n-th write of an import is rejected, if it is. -/
abbrev WriteFailures := Nat → Option CryptoError

/-- `Number.parseInt(k, 10)`, if it is an integer from 1 on; the other entries are skipped. -/
def entryVersion (k : String) : Option Nat :=
  ((EcmaNumber.parseInt k).bind fun n => EcmaNumber.nearestDouble n.toNat).filter fun keyVersion =>
    1 ≤ keyVersion

section Import

variable {PublicKey PrivateKey Seed : Type} (crypto : WebCrypto PublicKey PrivateKey Seed)

/-- The body of the loop for an entry that is not skipped. -/
def storeEntry (storage : KeyStorage) (userId storagePassphrase : String) (keyVersion : Nat) (text : String)
    (draws : WrapDraws) (failure : Option CryptoError) : Except CryptoError KeyStorage := do
  let pkcs8 ← base64ToArrayBuffer text
  let stored ← storeKeyringPrivateKeyPkcs8 crypto storage userId keyVersion pkcs8 storagePassphrase none draws
  match failure with
  | some e => .error e
  | none => .ok stored

/-- The loop over the entries, and the profile it leaves. -/
def importEntriesFailing (userId storagePassphrase : String) (draws : Nat → WrapDraws)
    (failures : WriteFailures) :
    List (String × Json) → List Nat → KeyStorage → Except CryptoError (List Nat) × KeyStorage
  | [], importedVersions, storage => (.ok importedVersions, storage)
  | (k, v) :: rest, importedVersions, storage =>
      match entryVersion k, v with
      | some keyVersion, .string text =>
          match storeEntry crypto storage userId storagePassphrase keyVersion text
              (draws importedVersions.length) (failures importedVersions.length) with
          | .ok stored => importEntriesFailing userId storagePassphrase draws failures rest
              (importedVersions ++ [keyVersion]) stored
          | .error e => (.error e, storage)
      | _, _ => importEntriesFailing userId storagePassphrase draws failures rest importedVersions storage

/-- `importKeyringBackupFromArrayBuffer`. -/
def importKeyringBackupFailing (storage : KeyStorage) (userId : String) (fileBytes : List UInt8)
    (backupPassphrase storagePassphrase : String) (draws : Nat → WrapDraws) (failures : WriteFailures) :
    Except CryptoError (List Nat × Option String) × KeyStorage :=
  match openBackup crypto userId fileBytes backupPassphrase with
  | .error e => (.error e, storage)
  | .ok inner =>
      match isRecord (Json.member inner "entries") with
      | none => (.error (.error "Corrupted backup entries"), storage)
      | some ent =>
          match importEntriesFailing crypto userId storagePassphrase draws failures (objectEntries ent) []
              storage with
          | (.error e, stored) => (.error e, stored)
          | (.ok importedVersions, stored) =>
              if importedVersions = [] then (.error (.error "No key entries found in backup"), stored)
              else
                let sorted := importedVersions.insertionSort fun a b => a ≤ b
                let fromBackup := EcmaText.trim ((Json.asString (Json.member inner "deviceId")).getD "")
                if fromBackup = "" then (.ok (sorted, none), stored)
                else
                  match setStoredDeviceId stored userId fromBackup, failures importedVersions.length with
                  | .ok restored, none => (.ok (sorted, some fromBackup), restored)
                  | .ok _, some e => (.error e, stored)
                  | .error e, _ => (.error e, stored)

end Import

section Agreement

variable {PublicKey PrivateKey Seed : Type} {crypto : WebCrypto PublicKey PrivateKey Seed}

/-- The versions of the entries are small enough for a double to hold them. -/
def SmallVersions (entries : List (String × Json)) : Prop :=
  ∀ entry ∈ entries, ∀ n, EcmaNumber.parseInt entry.1 = some n → n.toNat < Nat.pow 2 53

theorem entryVersion_small {k : String}
    (small : ∀ n, EcmaNumber.parseInt k = some n → n.toNat < Nat.pow 2 53) :
    entryVersion k = ((EcmaNumber.parseInt k).filter fun keyVersion => 1 ≤ keyVersion).map Int.toNat := by
  unfold entryVersion
  cases parsed : EcmaNumber.parseInt k with
  | none => rfl
  | some n =>
    rw [Option.bind_some, EcmaNumber.nearestDouble_small (small n parsed), Option.filter_some,
      Option.filter_some]
    by_cases positive : 1 ≤ n
    · have positive' : 1 ≤ n.toNat := by omega
      simp [positive, positive']
    · have negative : ¬ 1 ≤ n.toNat := by omega
      simp [positive, negative]

/-- Without failures the loop is the one of `importEntries`. -/
theorem importEntriesFailing_none {userId storagePassphrase : String} {draws : Nat → WrapDraws}
    {entries : List (String × Json)} (small : SmallVersions entries) (imported : List Nat)
    (storage : KeyStorage) :
    importEntriesFailing crypto userId storagePassphrase draws (fun _ => none) entries imported storage =
      importEntries crypto userId storagePassphrase draws entries imported storage := by
  induction entries generalizing imported storage with
  | nil => rfl
  | cons entry rest ih =>
    obtain ⟨k, v⟩ := entry
    have here := entryVersion_small (small (k, v) List.mem_cons_self)
    have ih := ih fun entry member => small entry (List.mem_cons_of_mem _ member)
    unfold importEntriesFailing importEntries storeEntry
    rw [here]
    cases ((EcmaNumber.parseInt k).filter fun keyVersion => 1 ≤ keyVersion) with
    | none => exact ih imported storage
    | some keyVersion =>
      cases v with
      | string text =>
        simp only [Option.map_some, bind, Except.bind]
        cases base64ToArrayBuffer text with
        | error e => rfl
        | ok pkcs8 =>
          simp only
          cases storeKeyringPrivateKeyPkcs8 crypto storage userId keyVersion.toNat pkcs8 storagePassphrase none
            (draws imported.length) with
          | error e => rfl
          | ok stored => exact ih _ stored
      | null => exact ih imported storage
      | bool b => exact ih imported storage
      | number literal => exact ih imported storage
      | array items => exact ih imported storage
      | object members => exact ih imported storage

/-- Without failures the import is the one of `KeyringBackup`. -/
theorem importKeyringBackupFailing_none {storage : KeyStorage} {userId : String} {fileBytes : List UInt8}
    {backupPassphrase storagePassphrase : String} {draws : Nat → WrapDraws}
    (small : ∀ inner ent, openBackup crypto userId fileBytes backupPassphrase = .ok inner →
      isRecord (Json.member inner "entries") = some ent → SmallVersions (objectEntries ent)) :
    importKeyringBackupFailing crypto storage userId fileBytes backupPassphrase storagePassphrase draws
        (fun _ => none) =
      importKeyringBackupFromArrayBuffer crypto storage userId fileBytes backupPassphrase storagePassphrase
        draws := by
  unfold importKeyringBackupFailing importKeyringBackupFromArrayBuffer
  cases opened : openBackup crypto userId fileBytes backupPassphrase with
  | error e => rfl
  | ok inner =>
    cases record : isRecord (Json.member inner "entries") with
    | none => simp only [record]
    | some ent =>
      simp only [record, importEntriesFailing_none (small inner ent opened record)]
      cases importEntries crypto userId storagePassphrase draws (objectEntries ent) [] storage with
      | mk result stored =>
        cases result with
        | error e => rfl
        | ok versions =>
          simp only
          cases setStoredDeviceId stored userId
            (EcmaText.trim ((Json.asString (Json.member inner "deviceId")).getD "")) <;> rfl

end Agreement

end MessagingSystem.Source.Client
