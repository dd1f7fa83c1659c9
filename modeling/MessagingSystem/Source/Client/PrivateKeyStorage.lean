import Mathlib.Data.List.Sort
import MessagingSystem.Foundation.OrderedMap
import MessagingSystem.Source.Client.MessageKeyCrypto

/-!
# Private keys in the browser

`privateKeyStorage.ts` and `privateKeyWrap.ts`: the keyring with a row for each
`(userId, keyVersion)`, the legacy row of a user and the device id, as the three
object stores of the browser profile. Keys are wrapped with a passphrase. The
time stamps of the rows are left out, nothing reads them.
-/
namespace MessagingSystem.Source.Client
open Foundation

/-- The synthetic device id of legacy keys. -/
def DEFAULT_SINGLE_DEVICE_ID : String := "default"

def PBKDF2_ITERATIONS_DEFAULT : Nat := 310000

def MAX_PASSPHRASE_CHARS : Nat := 1024

inductive StoredPrivateKeyPayload where
  | encryptedV1 (pbkdf2Iterations : Nat) (saltB64 ivB64 ciphertextB64 : String)
  | plaintextDevV1 (pkcs8B64 : String)
  deriving DecidableEq

structure KeyringPrivateKeyRow where
  publicKeySpkiB64 : Option String
  payload : StoredPrivateKeyPayload
  deriving DecidableEq

/-- The object stores of one browser profile, by their key paths. -/
structure KeyStorage where
  keyring : List ((String × Nat) × KeyringPrivateKeyRow) := []
  legacy : List (String × StoredPrivateKeyPayload) := []
  deviceIdentity : List (String × String) := []

/-- What one wrap of a private key draws. -/
structure WrapDraws where
  salt : RandomBytes 16
  iv : RandomBytes 12

def getStoredDeviceId (storage : KeyStorage) (userId : String) : Option String :=
  match (OrderedMap.get storage.deviceIdentity userId).map EcmaText.trim with
  | some id => if id ≠ "" then some id else none
  | none => none

def setStoredDeviceId (storage : KeyStorage) (userId deviceId : String) :
    Except CryptoError KeyStorage :=
  let trimmed := EcmaText.trim deviceId
  if trimmed = "" then .error (.error "deviceId must not be empty")
  else .ok { storage with deviceIdentity := OrderedMap.set userId trimmed storage.deviceIdentity }

def normalizePassphrase (passphrase : String) : Except CryptoError String :=
  let t := EcmaText.trim passphrase
  if t = "" then .error (.error "Passphrase must not be empty")
  else if MAX_PASSPHRASE_CHARS < EcmaText.codeUnitLength t then
    .error (.error "Passphrase exceeds 1024 characters")
  else .ok t

/-- `listKeyringVersions`, ascending. -/
def listKeyringVersions (storage : KeyStorage) (userId : String) : List Nat :=
  ((storage.keyring.filter fun entry => entry.1.1 = userId).map fun entry =>
    entry.1.2).insertionSort fun a b => a ≤ b

section Wrapping

variable {PublicKey PrivateKey Seed : Type} (crypto : WebCrypto PublicKey PrivateKey Seed)

/-- `new TextEncoder().encode(s)` of a string without lone surrogates. -/
def utf8 (s : String) : List UInt8 := s.toList.flatMap TextCoding.encodeChar

/-- `wrapPrivateKeyPkcs8`, as a stored payload. -/
def wrapPrivateKeyPkcs8 (pkcs8Der : List UInt8) (passphrase : String) (iterations : Nat)
    (draws : WrapDraws) : StoredPrivateKeyPayload :=
  let aesKey := crypto.pbkdf2 (utf8 passphrase) draws.salt.bytes iterations
  .encryptedV1 iterations (Base64.encode draws.salt.bytes) (Base64.encode draws.iv.bytes)
    (Base64.encode (crypto.aesGcmEncrypt aesKey draws.iv.bytes pkcs8Der))

/-- `unwrapPrivateKeyPkcs8`. -/
def unwrapPrivateKeyPkcs8 (iterations : Nat) (saltB64 ivB64 ciphertextB64 passphrase : String) :
    Except CryptoError (List UInt8) := do
  let pass := EcmaText.trim passphrase
  if pass = "" then .error (.error "Passphrase must not be empty")
  let salt ← base64ToArrayBuffer saltB64
  let iv ← base64ToArrayBuffer ivB64
  let ciphertext ← base64ToArrayBuffer ciphertextB64
  match crypto.aesGcmDecrypt (crypto.pbkdf2 (utf8 pass) salt iterations) iv ciphertext with
  | some pkcs8 => .ok pkcs8
  | none => .error (.error "Wrong passphrase or corrupted private key data")

def decryptPayloadToPkcs8 (payload : StoredPrivateKeyPayload) (passphrase : String) :
    Except CryptoError (List UInt8) :=
  match payload with
  | .plaintextDevV1 _ => .error
      (.error "Stored key is plaintext (dev-only); use loadPlaintextPrivateKeyPkcs8DevOnly")
  | .encryptedV1 iterations saltB64 ivB64 ciphertextB64 =>
      unwrapPrivateKeyPkcs8 crypto iterations saltB64 ivB64 ciphertextB64 passphrase

def storeKeyringPrivateKeyPkcs8 (storage : KeyStorage) (userId : String) (keyVersion : Nat)
    (pkcs8Der : List UInt8) (passphrase : String) (publicKeySpkiB64 : Option String)
    (draws : WrapDraws) : Except CryptoError KeyStorage := do
  if keyVersion < 1 then .error (.error "keyVersion must be a positive integer")
  let pass ← normalizePassphrase passphrase
  let payload := wrapPrivateKeyPkcs8 crypto pkcs8Der pass PBKDF2_ITERATIONS_DEFAULT draws
  .ok { storage with
    keyring := OrderedMap.set (userId, keyVersion) ⟨publicKeySpkiB64, payload⟩ storage.keyring }

def loadKeyringPrivateKeyPkcs8 (storage : KeyStorage) (userId : String) (keyVersion : Nat)
    (passphrase : String) : Except CryptoError (Option (List UInt8)) := do
  let pass ← normalizePassphrase passphrase
  match OrderedMap.get storage.keyring (userId, keyVersion) with
  | none => .ok none
  | some row =>
      match row.payload with
      | .plaintextDevV1 _ => .ok none
      | .encryptedV1 .. => do
          let pkcs8 ← decryptPayloadToPkcs8 crypto row.payload pass
          .ok (some pkcs8)

/-- `migrateLegacyPrivateKeyToKeyring`: whether it migrated, and the storage after it. -/
def migrateLegacyPrivateKeyToKeyring (storage : KeyStorage) (userId : String) (keyVersion : Nat)
    (passphrase : String) (draws : WrapDraws) : Except CryptoError (Bool × KeyStorage) :=
  if 0 < (listKeyringVersions storage userId).length then .ok (false, storage)
  else
    match OrderedMap.get storage.legacy userId with
    | none => .ok (false, storage)
    | some payload => do
        let pass ← normalizePassphrase passphrase
        match decryptPayloadToPkcs8 crypto payload pass with
        | .error _ => .ok (false, storage)
        | .ok pkcs8 => do
            let stored ← storeKeyringPrivateKeyPkcs8 crypto storage userId keyVersion pkcs8
              passphrase none draws
            .ok (true, { stored with
              legacy := stored.legacy.filter fun entry => entry.1 ≠ userId })

/-- `loadEncryptedPrivateKeyPkcs8`: the highest `keyVersion` of the keyring, else the legacy row. -/
def loadEncryptedPrivateKeyPkcs8 (storage : KeyStorage) (userId passphrase : String) :
    Except CryptoError (Option (List UInt8)) := do
  let pass ← normalizePassphrase passphrase
  match (listKeyringVersions storage userId).max? with
  | some max => loadKeyringPrivateKeyPkcs8 crypto storage userId max passphrase
  | none =>
      match OrderedMap.get storage.legacy userId with
      | none => .ok none
      | some payload => do
          let pkcs8 ← decryptPayloadToPkcs8 crypto payload pass
          .ok (some pkcs8)

/-- `loadMessagingEcdhPrivateKey`, with the device-scoped passphrase of the profile. -/
def loadMessagingEcdhPrivateKey (storage : KeyStorage) (userId deviceScopedPassphrase : String) :
    Except CryptoError (Option PrivateKey) := do
  match ← loadEncryptedPrivateKeyPkcs8 crypto storage userId deviceScopedPassphrase with
  | none => .ok none
  | some pkcs8 => do
      let key ← importP256EcdhPrivateKeyPkcs8 crypto pkcs8
      .ok (some key)

end Wrapping

section Held

variable {PublicKey PrivateKey Seed : Type} {crypto : WebCrypto PublicKey PrivateKey Seed}
variable {storage storage' : KeyStorage} {userId passphrase pass : String} {v w : Nat}

theorem mem_listKeyringVersions :
    v ∈ listKeyringVersions storage userId ↔ (userId, v) ∈ storage.keyring.map Prod.fst := by
  unfold listKeyringVersions
  rw [List.mem_insertionSort]
  constructor
  · intro member
    obtain ⟨entry, kept, rfl⟩ := List.mem_map.mp member
    obtain ⟨held, same⟩ := List.mem_filter.mp kept
    rw [decide_eq_true_eq] at same
    exact List.mem_map.mpr ⟨entry, held, by rw [← same]⟩
  · intro member
    obtain ⟨entry, held, same⟩ := List.mem_map.mp member
    exact List.mem_map.mpr
      ⟨entry, List.mem_filter.mpr ⟨held, by simp [same]⟩, by simp [same]⟩

/-- The private key of a version, as the passphrase opens it. -/
def heldKey (crypto : WebCrypto PublicKey PrivateKey Seed) (storage : KeyStorage)
    (userId passphrase : String) (v : Nat) : Option PrivateKey :=
  match loadKeyringPrivateKeyPkcs8 crypto storage userId v passphrase with
  | .ok (some pkcs8) => crypto.importPkcs8 pkcs8
  | _ => none

/-- A version that is not listed has no key. -/
theorem listed_of_heldKey {own : PrivateKey}
    (held : heldKey crypto storage userId passphrase w = some own) :
    w ∈ listKeyringVersions storage userId := by
  rw [mem_listKeyringVersions]
  by_contra absent
  have none : OrderedMap.get storage.keyring (userId, w) = none := by
    rw [OrderedMap.get, Option.map_eq_none_iff, List.find?_eq_none]
    intro entry member same
    exact absent (List.mem_map.mpr ⟨entry, member, by simpa using same⟩)
  unfold heldKey loadKeyringPrivateKeyPkcs8 at held
  rw [none] at held
  cases normal : normalizePassphrase passphrase with
  | error e => simp [normal, bind, Except.bind] at held
  | ok pass => simp [normal, bind, Except.bind] at held

/-- The private key of the legacy row, as the passphrase opens it. -/
def legacyKey (crypto : WebCrypto PublicKey PrivateKey Seed) (storage : KeyStorage)
    (userId passphrase : String) : Option PrivateKey :=
  match normalizePassphrase passphrase, OrderedMap.get storage.legacy userId with
  | .ok pass, some payload =>
      match decryptPayloadToPkcs8 crypto payload pass with
      | .ok pkcs8 => crypto.importPkcs8 pkcs8
      | .error _ => none
  | _, _ => none

/-- The private key of a keyring version, or that of the legacy row. -/
def keyAt (crypto : WebCrypto PublicKey PrivateKey Seed) (storage : KeyStorage)
    (userId passphrase : String) : Option Nat → Option PrivateKey
  | some v => heldKey crypto storage userId passphrase v
  | none => legacyKey crypto storage userId passphrase

/-- What the receive path loads is the key of the highest version, or the legacy
key while the keyring is empty. -/
theorem loadMessagingEcdhPrivateKey_iff {own : PrivateKey} :
    loadMessagingEcdhPrivateKey crypto storage userId passphrase = .ok (some own) ↔
      keyAt crypto storage userId passphrase (listKeyringVersions storage userId).max? =
        some own := by
  unfold loadMessagingEcdhPrivateKey loadEncryptedPrivateKeyPkcs8
  cases normal : normalizePassphrase passphrase with
  | error e =>
    cases (listKeyringVersions storage userId).max? <;>
      simp [keyAt, legacyKey, heldKey, loadKeyringPrivateKeyPkcs8, normal, bind, Except.bind]
  | ok pass =>
    cases (listKeyringVersions storage userId).max? with
    | some v =>
      simp only [keyAt, heldKey, bind, Except.bind]
      cases loadKeyringPrivateKeyPkcs8 crypto storage userId v passphrase with
      | error e => simp
      | ok found =>
        cases found with
        | none => simp
        | some pkcs8 =>
          simp only [importP256EcdhPrivateKeyPkcs8]
          cases crypto.importPkcs8 pkcs8 <;> simp
    | none =>
      simp only [keyAt, legacyKey, normal, bind, Except.bind]
      cases OrderedMap.get storage.legacy userId with
      | none => simp
      | some payload =>
        simp only
        cases decryptPayloadToPkcs8 crypto payload pass with
        | error e => simp
        | ok pkcs8 =>
          simp only [importP256EcdhPrivateKeyPkcs8]
          cases crypto.importPkcs8 pkcs8 <;> simp

theorem normalizePassphrase_trim (normal : normalizePassphrase passphrase = .ok pass) :
    EcmaText.trim pass = pass ∧ pass ≠ "" := by
  unfold normalizePassphrase at normal
  simp only at normal
  split at normal
  · cases normal
  · rename_i nonempty
    split at normal
    · cases normal
    · cases normal
      exact ⟨EcmaText.trim_trim _, nonempty⟩

/-- Unwrapping with the passphrase of the wrap gives the key bytes back. -/
theorem decryptPayload_wrap (ideal : crypto.Ideal) (trimmed : EcmaText.trim pass = pass)
    (nonempty : pass ≠ "") (pkcs8 : List UInt8) (iterations : Nat) (draws : WrapDraws) :
    decryptPayloadToPkcs8 crypto (wrapPrivateKeyPkcs8 crypto pkcs8 pass iterations draws) pass =
      .ok pkcs8 := by
  simp only [wrapPrivateKeyPkcs8, decryptPayloadToPkcs8, unwrapPrivateKeyPkcs8, trimmed, nonempty,
    if_false, base64ToArrayBuffer_encode, bind, Except.bind,
    ideal.decrypt_encrypt _ _ _ (ideal.pbkdf2_length _ _ _) draws.iv.length_eq]

/-- The profile with a keyring row put. -/
def KeyStorage.withRow (storage : KeyStorage) (userId : String) (v : Nat) (row : KeyringPrivateKeyRow) :
    KeyStorage :=
  { storage with keyring := OrderedMap.set (userId, v) row storage.keyring }

theorem mem_versions_withRow (row : KeyringPrivateKeyRow) :
    w ∈ listKeyringVersions (storage.withRow userId v row) userId ↔
      w = v ∨ w ∈ listKeyringVersions storage userId := by
  rw [mem_listKeyringVersions, mem_listKeyringVersions, KeyStorage.withRow, OrderedMap.keys_set]
  split
  · rename_i held
    constructor
    · exact .inr
    · intro either
      rcases either with same | other
      · rw [same]
        exact held
      · exact other
  · simp [or_comm]

theorem heldKey_withRow_other (row : KeyringPrivateKeyRow) (other : w ≠ v) :
    heldKey crypto (storage.withRow userId v row) userId passphrase w =
      heldKey crypto storage userId passphrase w := by
  unfold heldKey loadKeyringPrivateKeyPkcs8 KeyStorage.withRow
  simp only [OrderedMap.get_set, Prod.mk.injEq, true_and, other, if_false]

/-- The passphrase of the wrap opens the row. -/
theorem heldKey_withRow (ideal : crypto.Ideal) {pkcs8 : List UInt8} {spki : Option String}
    {draws : WrapDraws} (normal : normalizePassphrase passphrase = .ok pass) :
    heldKey crypto (storage.withRow userId v
      ⟨spki, wrapPrivateKeyPkcs8 crypto pkcs8 pass PBKDF2_ITERATIONS_DEFAULT draws⟩) userId
      passphrase v = crypto.importPkcs8 pkcs8 := by
  obtain ⟨trimmed, nonempty⟩ := normalizePassphrase_trim normal
  have opened := decryptPayload_wrap ideal trimmed nonempty pkcs8 PBKDF2_ITERATIONS_DEFAULT draws
  unfold heldKey loadKeyringPrivateKeyPkcs8 KeyStorage.withRow
  unfold wrapPrivateKeyPkcs8 at opened ⊢
  simp only [OrderedMap.get_set, if_true, normal, bind, Except.bind, opened]

/-- Storing a private key puts its row, wrapped with the passphrase. -/
theorem storeKeyring_ok {pkcs8 : List UInt8} {spki : Option String} {draws : WrapDraws}
    (stored : storeKeyringPrivateKeyPkcs8 crypto storage userId v pkcs8 passphrase spki draws =
      .ok storage') :
    ∃ pass, normalizePassphrase passphrase = .ok pass ∧ storage' = storage.withRow userId v
      ⟨spki, wrapPrivateKeyPkcs8 crypto pkcs8 pass PBKDF2_ITERATIONS_DEFAULT draws⟩ := by
  unfold storeKeyringPrivateKeyPkcs8 at stored
  by_cases zero : v < 1
  · simp [zero, bind, Except.bind] at stored
  cases normal : normalizePassphrase passphrase with
  | error e => simp [zero, normal, bind, Except.bind] at stored
  | ok pass =>
    simp only [zero, if_false, normal, bind, Except.bind, Except.ok.injEq] at stored
    exact ⟨pass, rfl, stored.symm⟩

/-- Storing a version lists it, and touches the keyring only. -/
theorem storeKeyring_listed {pkcs8 : List UInt8} {spki : Option String} {draws : WrapDraws}
    (stored : storeKeyringPrivateKeyPkcs8 crypto storage userId v pkcs8 passphrase spki draws =
      .ok storage') :
    storage'.legacy = storage.legacy ∧ storage'.deviceIdentity = storage.deviceIdentity ∧
    ∀ w, w ∈ listKeyringVersions storage' userId ↔ w = v ∨ w ∈ listKeyringVersions storage userId := by
  obtain ⟨pass, -, rfl⟩ := storeKeyring_ok stored
  exact ⟨rfl, rfl, fun w => mem_versions_withRow _⟩

/-- The passphrase of the wrap opens the stored version, the others stay as they were. -/
theorem storeKeyring_held (ideal : crypto.Ideal) {pkcs8 : List UInt8} {storagePassphrase : String}
    {spki : Option String} {draws : WrapDraws}
    (same : normalizePassphrase storagePassphrase = normalizePassphrase passphrase)
    (stored : storeKeyringPrivateKeyPkcs8 crypto storage userId v pkcs8 storagePassphrase spki
      draws = .ok storage') (w : Nat) :
    heldKey crypto storage' userId passphrase w =
      if w = v then crypto.importPkcs8 pkcs8 else heldKey crypto storage userId passphrase w := by
  obtain ⟨pass, normal, rfl⟩ := storeKeyring_ok stored
  rw [same] at normal
  split
  · rename_i here
    rw [here, heldKey_withRow ideal normal]
  · rename_i other
    exact heldKey_withRow_other _ other

/-- A migration does nothing, or it stores the legacy key in the empty keyring. -/
theorem migrateLegacy_cases {storagePassphrase : String} {draws : WrapDraws} {done : Bool}
    (migrated : migrateLegacyPrivateKeyToKeyring crypto storage userId v storagePassphrase draws =
      .ok (done, storage')) :
    (done = false ∧ storage' = storage) ∨
    ∃ pass payload pkcs8 stored, done = true ∧ listKeyringVersions storage userId = [] ∧
      normalizePassphrase storagePassphrase = .ok pass ∧
      OrderedMap.get storage.legacy userId = some payload ∧
      decryptPayloadToPkcs8 crypto payload pass = .ok pkcs8 ∧
      storeKeyringPrivateKeyPkcs8 crypto storage userId v pkcs8 storagePassphrase none draws =
        .ok stored ∧
      storage' = { stored with legacy := stored.legacy.filter fun entry => entry.1 ≠ userId } := by
  unfold migrateLegacyPrivateKeyToKeyring at migrated
  split at migrated
  · cases migrated
    exact .inl ⟨rfl, rfl⟩
  · rename_i empty
    have unused := List.length_eq_zero_iff.mp (Nat.eq_zero_of_not_pos empty)
    cases legacy : OrderedMap.get storage.legacy userId with
    | none =>
      simp only [legacy, Except.ok.injEq, Prod.mk.injEq] at migrated
      exact .inl ⟨migrated.1.symm, migrated.2.symm⟩
    | some payload =>
      cases normal : normalizePassphrase storagePassphrase with
      | error e => simp [legacy, normal, bind, Except.bind] at migrated
      | ok pass =>
        simp only [legacy, normal, bind, Except.bind] at migrated
        cases opened : decryptPayloadToPkcs8 crypto payload pass with
        | error e =>
          simp only [opened, Except.ok.injEq, Prod.mk.injEq] at migrated
          exact .inl ⟨migrated.1.symm, migrated.2.symm⟩
        | ok pkcs8 =>
          simp only [opened] at migrated
          cases written : storeKeyringPrivateKeyPkcs8 crypto storage userId v pkcs8
              storagePassphrase none draws with
          | error e => simp [written] at migrated
          | ok stored =>
            simp only [written, Except.ok.injEq, Prod.mk.injEq] at migrated
            exact .inr ⟨pass, payload, pkcs8, stored, migrated.1.symm, unused, rfl, rfl, opened, written,
              migrated.2.symm⟩

/-- The versions and the device id after a migration. -/
theorem migrateLegacy_listed {storagePassphrase : String} {draws : WrapDraws} {done : Bool}
    (migrated : migrateLegacyPrivateKeyToKeyring crypto storage userId v storagePassphrase draws =
      .ok (done, storage')) :
    storage'.deviceIdentity = storage.deviceIdentity ∧
    ∀ w, w ∈ listKeyringVersions storage' userId ↔
      w ∈ listKeyringVersions storage userId ∨ done = true ∧ w = v := by
  rcases migrateLegacy_cases migrated with ⟨rfl, rfl⟩ |
    ⟨pass, payload, pkcs8, stored, rfl, -, -, -, -, written, rfl⟩
  · simp
  · obtain ⟨-, identity, versions⟩ := storeKeyring_listed written
    refine ⟨identity, fun w => ?_⟩
    have same : listKeyringVersions
        { stored with legacy := stored.legacy.filter fun entry => entry.1 ≠ userId } userId =
          listKeyringVersions stored userId := rfl
    rw [same, versions w, or_comm]
    simp

/-- A migration that stores leaves one key in the profile, the legacy one. -/
theorem migrateLegacy_keys (ideal : crypto.Ideal) {storagePassphrase : String} {draws : WrapDraws}
    {done : Bool} (same : normalizePassphrase storagePassphrase = normalizePassphrase passphrase)
    (migrated : migrateLegacyPrivateKeyToKeyring crypto storage userId v storagePassphrase draws =
      .ok (done, storage')) :
    storage' = storage ∨ ∀ place own, keyAt crypto storage' userId passphrase place = some own →
      place = some v ∧ keyAt crypto storage userId passphrase none = some own := by
  rcases migrateLegacy_cases migrated with ⟨-, unchanged⟩ |
    ⟨pass, payload, pkcs8, stored, -, empty, normal, legacy, opened, written, rfl⟩
  · exact .inl unchanged
  · right
    have held := storeKeyring_held ideal same written
    rintro (- | w) own key
    · have erased : OrderedMap.get (stored.legacy.filter fun entry => entry.1 ≠ userId) userId =
          none := by
        rw [OrderedMap.get, Option.map_eq_none_iff, List.find?_eq_none]
        intro entry member
        simpa using (List.mem_filter.mp member).2
      simp only [keyAt, legacyKey, erased] at key
      split at key <;> simp_all
    · have key : heldKey crypto stored userId passphrase w = some own := key
      rw [held w] at key
      split at key
      · rename_i here
        refine ⟨congrArg some here, ?_⟩
        simp only [keyAt, legacyKey, ← same, normal, legacy, opened]
        exact key
      · have listed := listed_of_heldKey key
        rw [empty] at listed
        cases listed

/-- A device id that is stored is read back. -/
theorem getStoredDeviceId_set {deviceId : String} (trimmed : EcmaText.trim deviceId = deviceId)
    (nonempty : deviceId ≠ "") :
    ∃ after, setStoredDeviceId storage userId deviceId = .ok after ∧ after.keyring = storage.keyring ∧
      after.legacy = storage.legacy ∧ getStoredDeviceId after userId = some deviceId := by
  refine ⟨{ storage with deviceIdentity := OrderedMap.set userId deviceId storage.deviceIdentity },
    by simp only [setStoredDeviceId, trimmed, nonempty, if_false], rfl, rfl, ?_⟩
  simp only [getStoredDeviceId, OrderedMap.get_set, if_true, Option.map_some, trimmed, nonempty, ne_eq,
    not_false_eq_true]

theorem setStoredDeviceId_keys {deviceId : String}
    (stored : setStoredDeviceId storage userId deviceId = .ok storage') :
    storage'.keyring = storage.keyring ∧ storage'.legacy = storage.legacy := by
  unfold setStoredDeviceId at stored
  simp only at stored
  split at stored
  · cases stored
  · cases stored
    exact ⟨rfl, rfl⟩

/-- Profiles with one keyring list the same versions. -/
theorem listKeyringVersions_congr (keyring : storage'.keyring = storage.keyring) :
    listKeyringVersions storage' userId = listKeyringVersions storage userId := by
  unfold listKeyringVersions
  rw [keyring]

/-- They hold the same keys under them. -/
theorem heldKey_congr (crypto : WebCrypto PublicKey PrivateKey Seed)
    (keyring : storage'.keyring = storage.keyring) (v : Nat) :
    heldKey crypto storage' userId passphrase v = heldKey crypto storage userId passphrase v := by
  unfold heldKey loadKeyringPrivateKeyPkcs8
  rw [keyring]

theorem keyAt_congr (crypto : WebCrypto PublicKey PrivateKey Seed)
    (keyring : storage'.keyring = storage.keyring) (legacy : storage'.legacy = storage.legacy)
    (place : Option Nat) :
    keyAt crypto storage' userId passphrase place = keyAt crypto storage userId passphrase place := by
  cases place with
  | none =>
    unfold keyAt legacyKey
    rw [legacy]
  | some v => exact heldKey_congr crypto keyring v

end Held

end MessagingSystem.Source.Client
