import MessagingSystem.Guarantees.KeyringAgreement
import MessagingSystem.Source.Client.BackupEffects

/-!
# Backups

A backup file gives the private keys and the device id back, but the import
stores no public key beside them, and without one the bootstrap refuses the
keyring. So no file restores a working device.
-/
namespace MessagingSystem.Guarantees.BackupRestore
open Foundation Source Source.Server Source.Client

variable {PublicKey PrivateKey Seed : Type} {crypto : WebCrypto PublicKey PrivateKey Seed}
  {user : UserId}

/-- The import into an empty profile yields the private keys and the device id of
the old one, and a bootstrap after it succeeds and leaves the directory as it is. -/
def RestoresDevice (crypto : WebCrypto PublicKey PrivateKey Seed) (user : UserId)
    (oldPassphrase backupPassphrase : String) (newPassphrase : AcceptedPassphrase) (old : BootState)
    (file : KeyringBackupFile) (importDraws : Nat → WrapDraws) (draws : EnsureDraws PrivateKey) : Prop :=
  ∃ result stored t, importKeyringBackupFromArrayBuffer crypto {} user.val file.blob backupPassphrase
      newPassphrase.val importDraws = (.ok result, stored) ∧
    getStoredDeviceId stored user.val = getStoredDeviceId old.storage user.val ∧
    (∀ v own, heldKey crypto old.storage user.val oldPassphrase v = some own →
      heldKey crypto stored user.val newPassphrase.val v = some own) ∧
    (ensureUserKeypairReadyForMessaging crypto user newPassphrase draws).exec crypto ⟨stored, old.db⟩ =
      (.ok (), t) ∧ t.db = old.db

/-- After an import into an empty profile the bootstrap throws. -/
theorem ensure_after_import {bytes : List UInt8} {backupPassphrase : String}
    {newPassphrase : AcceptedPassphrase} {importDraws : Nat → WrapDraws} {result : List Nat × Option String}
    {stored : KeyStorage}
    (imported : importKeyringBackupFromArrayBuffer crypto {} user.val bytes backupPassphrase
      newPassphrase.val importDraws = (.ok result, stored))
    (db : Database) (draws : EnsureDraws PrivateKey) :
    (ensureUserKeypairReadyForMessaging crypto user newPassphrase draws).exec crypto ⟨stored, db⟩ =
      (.error (.error "Your device has keyring data but no public key metadata. Restore from a backup."),
        ⟨stored, db⟩) := by
  have empty : BareKeyring {} := fun entry member => by cases member
  obtain ⟨bare, keyed⟩ := import_bare empty imported
  exact ensure_bare bare keyed draws

/-- A backup passphrase without white space around it opens the file: the keys and
the device id are there again, and the bootstrap throws all the same. -/
theorem backup_restores_keys (ideal : crypto.Ideal) {old : BootState} {oldPassphrase backupPassphrase : String}
    {newPassphrase : AcceptedPassphrase} {legacyKeyVersion : Int} {backupDraws : BackupDraws}
    {file : KeyringBackupFile} (trimmed : EcmaText.trim backupPassphrase = backupPassphrase)
    (nonempty : backupPassphrase ≠ "") (unique : (old.storage.keyring.map Prod.fst).Nodup)
    (positive : ∀ v ∈ listKeyringVersions old.storage user.val, 1 ≤ v)
    (loads : ∃ v own, heldKey crypto old.storage user.val oldPassphrase v = some own)
    (built : buildKeyringBackupBlob crypto old.storage user.val oldPassphrase backupPassphrase
      legacyKeyVersion backupDraws = .ok file)
    (importDraws : Nat → WrapDraws) (draws : EnsureDraws PrivateKey) :
    ∃ versions stored, importKeyringBackupFromArrayBuffer crypto {} user.val file.blob backupPassphrase
        newPassphrase.val importDraws = (.ok (versions, getStoredDeviceId old.storage user.val), stored) ∧
      getStoredDeviceId stored user.val = getStoredDeviceId old.storage user.val ∧
      (∀ v own, heldKey crypto old.storage user.val oldPassphrase v = some own →
        heldKey crypto stored user.val newPassphrase.val v = some own) ∧
      (ensureUserKeypairReadyForMessaging crypto user newPassphrase draws).exec crypto ⟨stored, old.db⟩ =
        (.error (.error "Your device has keyring data but no public key metadata. Restore from a backup."),
          ⟨stored, old.db⟩) := by
  obtain ⟨pass, normal⟩ := newPassphrase.accepted
  obtain ⟨versions, stored, imported, device, keys⟩ := @import_build _ _ _ crypto old.storage user.val
    oldPassphrase backupPassphrase backupDraws ideal newPassphrase.val pass file legacyKeyVersion importDraws
    trimmed nonempty normal unique positive loads built
  exact ⟨versions, stored, imported, device, keys, ensure_after_import imported old.db draws⟩

/-- No file restores a working device, whatever profile it was exported from. -/
theorem backup_never_restores (old : BootState) (oldPassphrase backupPassphrase : String)
    (newPassphrase : AcceptedPassphrase) (file : KeyringBackupFile) (importDraws : Nat → WrapDraws)
    (draws : EnsureDraws PrivateKey) :
    ¬ RestoresDevice crypto user oldPassphrase backupPassphrase newPassphrase old file importDraws draws := by
  intro restores
  obtain ⟨result, stored, t, imported, -, -, ready, -⟩ := restores
  rw [ensure_after_import imported old.db draws] at ready
  cases ready

section Runs

open KeyringAgreement
open UserId (alice)

/-- A profile with one generated key is exported, and the file restores no device. -/
theorem restored_without_public_key :
    ¬ ∀ (start final : BootState) (history : List (KeyringTransition UInt8)) (backupPassphrase : String)
        (backupDraws : BackupDraws) (file : KeyringBackupFile) (importDraws : Nat → WrapDraws)
        (draws : EnsureDraws UInt8),
      (keyringMachine transparentCrypto alice secret).init start →
      (keyringMachine transparentCrypto alice secret).Run start history final →
      buildKeyringBackupBlob transparentCrypto final.storage alice.val secret.val backupPassphrase 1
        backupDraws = .ok file →
      draws.failedAttempts = [] →
      RestoresDevice transparentCrypto alice secret.val backupPassphrase secret final file importDraws
        draws := by
  intro claim
  have checked : (ran [ensure 1]).map (fun executed => (buildKeyringBackupBlob transparentCrypto
      executed.2.storage alice.val secret.val "backup" 1 ⟨zeroWrap, 0⟩).isOk) = some true := by decide
  obtain ⟨⟨history, final⟩, executed, exported⟩ := Option.map_eq_some_iff.mp checked
  dsimp only at exported
  cases built : buildKeyringBackupBlob transparentCrypto final.storage alice.val secret.val "backup" 1
      ⟨zeroWrap, 0⟩ with
  | error e =>
    rw [built] at exported
    cases exported
  | ok file =>
    obtain ⟨result, stored, t, imported, -, -, ready, -⟩ := claim newBrowser final history "backup"
      ⟨zeroWrap, 0⟩ file (fun _ => zeroWrap) ⟨1, phoneId, zeroWrap, "", 1, []⟩ newBrowser_init
      (ran_run executed) built rfl
    rw [ensure_after_import imported] at ready
    cases ready

end Runs

end MessagingSystem.Guarantees.BackupRestore
