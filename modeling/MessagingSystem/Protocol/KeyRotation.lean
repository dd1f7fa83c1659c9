import MessagingSystem.Foundation.Transition
import MessagingSystem.Source.Client.KeypairMaintenance

/-!
# Rotations and sends to one browser profile

The directory row of a device, the keyring of its profile and the messages
wrapped for it, under rotations that may be interrupted between registering and
storing a key, with sends in between. A message records the key that was
registered when it was sent.
-/
namespace MessagingSystem.Protocol
open Foundation Source Source.Server Source.Client

/-- A signed-in user and the device-scoped passphrase of the browser. -/
structure BrowserProfile where
  user : UserId
  passphrase : String

structure ReceivedMessage where
  payload : HybridSendPayload
  text : CodeUnits
  publicKey : String

structure RotationState (PrivateKey : Type) where
  storage : KeyStorage
  db : Database
  pending : List (PendingRotation PrivateKey) := []
  received : List ReceivedMessage := []

inductive RotationEvent (PrivateKey Seed : Type) where
  | register (storagePassphrase : String) (draws : RotationDraws PrivateKey)
  | store (index : Nat) (draws : WrapDraws)
  | send (draws : HybridDraws Seed) (text : CodeUnits) (devices : List HybridDeviceRow)

section

variable {PublicKey PrivateKey Seed : Type}

/-- The private key that the profile holds at a place. -/
def BrowserProfile.keyAt (profile : BrowserProfile) (crypto : WebCrypto PublicKey PrivateKey Seed)
    (storage : KeyStorage) (place : Option Nat) : Option PrivateKey :=
  Source.Client.keyAt crypto storage profile.user.val profile.passphrase place

/-- The keyring versions of the profile. -/
def BrowserProfile.versions (profile : BrowserProfile) (storage : KeyStorage) : List Nat :=
  listKeyringVersions storage profile.user.val

/-- `generateKey` draws a pair whose key the profile has not. -/
def FreshPair (crypto : WebCrypto PublicKey PrivateKey Seed) (profile : BrowserProfile)
    (s : RotationState PrivateKey) (pair : PrivateKey) : Prop :=
  (∀ place own, profile.keyAt crypto s.storage place = some own →
    crypto.publicKeyOf own ≠ crypto.publicKeyOf pair) ∧
  ∀ p ∈ s.pending, crypto.publicKeyOf p.privateKey ≠ crypto.publicKeyOf pair

/-- The state after the first part of a rotation. -/
def RotationState.register (crypto : WebCrypto PublicKey PrivateKey Seed) (profile : BrowserProfile)
    (storagePassphrase : String) (draws : RotationDraws PrivateKey) (s : RotationState PrivateKey) :
    RotationState PrivateKey :=
  let outcome := rotateRegister crypto profile.user storagePassphrase draws s.storage s.db
  { s with
    storage := outcome.2.1
    db := outcome.2.2
    pending := s.pending ++ outcome.1.toOption.toList }

/-- The state after the second part. -/
def RotationState.store (crypto : WebCrypto PublicKey PrivateKey Seed) (profile : BrowserProfile)
    (index : Nat) (pending : PendingRotation PrivateKey) (draws : WrapDraws)
    (s : RotationState PrivateKey) : RotationState PrivateKey :=
  { s with
    storage := rotateStored crypto profile.user.val pending draws s.storage
    pending := s.pending.eraseIdx index }

/-- A rotation registers its key, stores it or fails to, or a message is wrapped
for the profile's device with the key that is registered then. -/
inductive RotationStep (crypto : WebCrypto PublicKey PrivateKey Seed) (profile : BrowserProfile) :
    RotationState PrivateKey → RotationEvent PrivateKey Seed → RotationState PrivateKey → Prop where
  | register (s : RotationState PrivateKey) (storagePassphrase : String)
      (draws : RotationDraws PrivateKey) (fresh : FreshPair crypto profile s draws.pair) :
      RotationStep crypto profile s (.register storagePassphrase draws)
        (s.register crypto profile storagePassphrase draws)
  | store (s : RotationState PrivateKey) (index : Nat) (draws : WrapDraws)
      (pending : PendingRotation PrivateKey) (picked : s.pending[index]? = some pending) :
      RotationStep crypto profile s (.store index draws) (s.store crypto profile index pending draws)
  | send (s : RotationState PrivateKey) (draws : HybridDraws Seed) (text : CodeUnits)
      (devices : List HybridDeviceRow) (deviceId : String) (row : UserPublicKeyDocument)
      (payload : HybridSendPayload)
      (device : getStoredDeviceId s.storage profile.user.val = some deviceId)
      (registered : s.db.findDeviceRow profile.user.val deviceId = some row)
      (listed : ⟨deviceId, row.publicKey⟩ ∈ devices)
      (distinct : (devices.map HybridDeviceRow.deviceId).Nodup)
      (encrypted : encryptUtf8ToHybridSendPayload crypto draws text devices = .ok payload)
      (wrapped : (payload.encryptedMessageKeys.get deviceId).isSome) :
      RotationStep crypto profile s (.send draws text devices)
        { s with received := s.received ++ [⟨payload, text, row.publicKey⟩] }

/-- Rotations and sends from any profile in which none is under way. -/
def rotationMachine (crypto : WebCrypto PublicKey PrivateKey Seed) (profile : BrowserProfile) :
    Machine (RotationState PrivateKey) (RotationEvent PrivateKey Seed) where
  init s := s.pending = [] ∧ s.received = []
  step := RotationStep crypto profile

/-- A rotation is given the passphrase that the profile's keys are loaded with. -/
def UsesProfilePassphrase (profile : BrowserProfile)
    (t : Transition (RotationState PrivateKey) (RotationEvent PrivateKey Seed)) : Prop :=
  match t.label with
  | .register storagePassphrase _ =>
      normalizePassphrase storagePassphrase = normalizePassphrase profile.passphrase
  | _ => True

/-- The version that a step puts a private key under: the registered one of its
own key, or the one it files the legacy key under. -/
def filedVersion (crypto : WebCrypto PublicKey PrivateKey Seed) (profile : BrowserProfile)
    (t : Transition (RotationState PrivateKey) (RotationEvent PrivateKey Seed)) : Option Nat :=
  match t.label with
  | .register storagePassphrase draws =>
      migratedVersion crypto profile.user storagePassphrase draws t.source.storage t.source.db
  | .store index draws =>
      t.source.pending[index]?.bind fun pending =>
        (rotateStore crypto profile.user.val pending draws t.source.storage).toOption.map fun _ =>
          pending.result.keyVersion
  | .send .. => none

/-- A message whose slot for the device was wrapped with the recorded key. -/
def WrappedFor (crypto : WebCrypto PublicKey PrivateKey Seed) (deviceId : String)
    (m : ReceivedMessage) : Prop :=
  ∃ (hybrid : HybridDraws Seed) (drawn : Seed) (recipient : PublicKey),
    m.payload.Encrypts crypto hybrid m.text ∧
    importRecipientPublicEcdhP256 crypto m.publicKey = .ok recipient ∧
    m.payload.encryptedMessageKeys.get deviceId =
      some (crypto.sealKey drawn hybrid.messageKey.bytes recipient)

/-- No two places of the profile hold the same key. -/
def NoKeyTwice (crypto : WebCrypto PublicKey PrivateKey Seed) (profile : BrowserProfile)
    (storage : KeyStorage) : Prop :=
  ∀ place other own twin, profile.keyAt crypto storage place = some own →
    profile.keyAt crypto storage other = some twin →
    crypto.publicKeyOf own = crypto.publicKeyOf twin → place = other

/-- The keys of the profile, stored or about to be, are distinct. -/
structure DistinctKeys (crypto : WebCrypto PublicKey PrivateKey Seed) (profile : BrowserProfile)
    (s : RotationState PrivateKey) : Prop where
  stored : NoKeyTwice crypto profile s.storage
  pending : (s.pending.map fun p => crypto.publicKeyOf p.privateKey).Nodup
  apart : ∀ p ∈ s.pending, ∀ place own, profile.keyAt crypto s.storage place = some own →
    crypto.publicKeyOf own ≠ crypto.publicKeyOf p.privateKey
  passphrase : ∀ p ∈ s.pending,
    normalizePassphrase p.storagePassphrase = normalizePassphrase profile.passphrase

/-- The rotations under way were registered for the profile's device. -/
def PendingOwn (profile : BrowserProfile) (s : RotationState PrivateKey) : Prop :=
  ∀ p ∈ s.pending, p.result.deviceId = currentDevice s.storage profile.user.val

section Preserved

variable {crypto : WebCrypto PublicKey PrivateKey Seed} {profile : BrowserProfile}
variable {s s' : RotationState PrivateKey} {event : RotationEvent PrivateKey Seed}

theorem RotationState.register_pending (storagePassphrase : String)
    (draws : RotationDraws PrivateKey) :
    (s.register crypto profile storagePassphrase draws).pending = s.pending ++
      (rotateRegister crypto profile.user storagePassphrase draws s.storage s.db).1.toOption.toList :=
  rfl

theorem mem_pending_register {storagePassphrase : String} {draws : RotationDraws PrivateKey}
    {p : PendingRotation PrivateKey} :
    p ∈ (s.register crypto profile storagePassphrase draws).pending ↔ p ∈ s.pending ∨
      (rotateRegister crypto profile.user storagePassphrase draws s.storage s.db).1 = .ok p := by
  rw [RotationState.register_pending, List.mem_append]
  cases (rotateRegister crypto profile.user storagePassphrase draws s.storage s.db).1 <;>
    simp [Except.toOption, eq_comm]

/-- The keyring versions after a step. -/
theorem RotationStep.versions (taken : RotationStep crypto profile s event s') (v : Nat) :
    v ∈ profile.versions s'.storage ↔
      v ∈ profile.versions s.storage ∨ filedVersion crypto profile ⟨s, event, s'⟩ = some v := by
  cases taken with
  | register storagePassphrase draws fresh =>
    rcases rotateRegister_cases crypto profile.user storagePassphrase draws s.storage s.db with
      ⟨e, failed, unfiled⟩ | ⟨keyVersion, done, migrated, ran, filed, storage, -⟩
    · simp [RotationState.register, filedVersion, failed, unfiled]
    · simp only [RotationState.register, filedVersion, storage, filed, BrowserProfile.versions,
        (migrateLegacy_listed ran).2 v]
      cases done <;> simp [eq_comm]
  | store index draws pending picked =>
    simp only [RotationState.store, filedVersion, picked, Option.bind_some, BrowserProfile.versions]
    exact rotateStored_listed ..
  | send => simp [filedVersion]

/-- A step keeps the profile's device. -/
theorem RotationStep.device (taken : RotationStep crypto profile s event s')
    (own : PendingOwn profile s) :
    PendingOwn profile s' ∧ ∀ d, getStoredDeviceId s.storage profile.user.val = some d →
      getStoredDeviceId s'.storage profile.user.val = some d := by
  cases taken with
  | register storagePassphrase draws fresh =>
    rcases rotateRegister_cases crypto profile.user storagePassphrase draws s.storage s.db with
      ⟨e, failed, -⟩ | ⟨keyVersion, done, migrated, ran, -, storage, registered⟩
    · simpa [RotationState.register, failed, Except.toOption] using own
    · have kept : (s.register crypto profile storagePassphrase draws).storage = migrated := storage
      have identity : getStoredDeviceId (s.register crypto profile storagePassphrase draws).storage
          profile.user.val = getStoredDeviceId s.storage profile.user.val := by
        unfold getStoredDeviceId
        rw [kept, (migrateLegacy_listed ran).1]
      have same : currentDevice (s.register crypto profile storagePassphrase draws).storage
          profile.user.val = currentDevice s.storage profile.user.val := by
        rw [currentDevice, identity, currentDevice]
      refine ⟨fun p member => ?_, fun d held => identity.trans held⟩
      rw [same]
      rcases mem_pending_register.mp member with old | new
      · exact own p old
      · exact (registered p new).2.2
  | store index draws pending picked =>
    have device := own pending (List.mem_of_getElem? picked)
    obtain ⟨trimmed, nonempty⟩ := currentDevice_trimmed s.storage profile.user.val
    rw [← device] at trimmed nonempty
    have stored := rotateStored_device crypto profile.user.val draws s.storage trimmed nonempty
    rw [device] at stored
    refine ⟨fun p later => ?_, fun d held => ?_⟩
    · rw [own p (List.mem_of_mem_eraseIdx later)]
      unfold RotationState.store
      rw [currentDevice, currentDevice, stored, Option.getD_some, currentDevice]
    · refine stored.trans ?_
      rw [currentDevice, held, Option.getD_some]
  | send => exact ⟨own, fun _ held => held⟩

/-- A rotation that is given the profile's passphrase keeps the keys apart. -/
theorem DistinctKeys.register (ideal : crypto.Ideal) (keys : DistinctKeys crypto profile s)
    {storagePassphrase : String} {draws : RotationDraws PrivateKey}
    (fresh : FreshPair crypto profile s draws.pair)
    (same : normalizePassphrase storagePassphrase = normalizePassphrase profile.passphrase) :
    DistinctKeys crypto profile (s.register crypto profile storagePassphrase draws) := by
  rcases rotateRegister_cases crypto profile.user storagePassphrase draws s.storage s.db with
    ⟨e, failed, -⟩ | ⟨keyVersion, done, migrated, ran, -, storage, registered⟩
  · have unchanged : s.register crypto profile storagePassphrase draws = s := by
      simp [RotationState.register, failed, Except.toOption]
    rwa [unchanged]
  have kept : (s.register crypto profile storagePassphrase draws).storage = migrated := storage
  have moved := migrateLegacy_keys ideal same ran
  -- a key of the profile now was there before, at the same place or in the legacy row
  have before : ∀ place own, profile.keyAt crypto migrated place = some own →
      ∃ earlier, profile.keyAt crypto s.storage earlier = some own := by
    intro place own key
    rcases moved with unchanged | filed
    · exact ⟨place, unchanged ▸ key⟩
    · exact ⟨none, (filed place own key).2⟩
  refine ⟨?_, ?_, ?_, ?_⟩
  · rw [kept]
    intro place other own twin first second equal
    rcases moved with unchanged | filed
    · rw [unchanged] at first second
      exact keys.stored place other own twin first second equal
    · rw [(filed place own first).1, (filed other twin second).1]
  · rw [RotationState.register_pending]
    cases answer : (rotateRegister crypto profile.user storagePassphrase draws s.storage s.db).1 with
    | error e => simpa [Except.toOption] using keys.pending
    | ok p =>
      rw [List.map_append, List.nodup_append]
      refine ⟨keys.pending, by simp [Except.toOption], fun key old other new => ?_⟩
      obtain ⟨q, member, rfl⟩ := List.mem_map.mp old
      obtain rfl : other = crypto.publicKeyOf p.privateKey := by
        simpa [Except.toOption] using new
      rw [(registered p answer).1]
      exact fresh.2 q member
  · rw [kept]
    intro p member place own key
    obtain ⟨earlier, held⟩ := before place own key
    rcases mem_pending_register.mp member with old | new
    · exact keys.apart p old earlier own held
    · rw [(registered p new).1]
      exact fresh.1 earlier own held
  · intro p member
    rcases mem_pending_register.mp member with old | new
    · exact keys.passphrase p old
    · rw [(registered p new).2.1]
      exact same

/-- Storing a pending key keeps the keys apart. -/
theorem DistinctKeys.store (ideal : crypto.Ideal) (keys : DistinctKeys crypto profile s) {index : Nat}
    {pending : PendingRotation PrivateKey} (draws : WrapDraws)
    (picked : s.pending[index]? = some pending) :
    DistinctKeys crypto profile (s.store crypto profile index pending draws) := by
  have member := List.mem_of_getElem? picked
  have now : ∀ place own,
      profile.keyAt crypto (s.store crypto profile index pending draws).storage place = some own →
      profile.keyAt crypto s.storage place = some own ∨
        place = some pending.result.keyVersion ∧ own = pending.privateKey :=
    rotateStored_keys ideal draws s.storage (keys.passphrase pending member)
  have differs : ∀ p ∈ s.pending.eraseIdx index,
      crypto.publicKeyOf p.privateKey ≠ crypto.publicKeyOf pending.privateKey := by
    intro p later equal
    obtain ⟨i, other, found⟩ := List.mem_eraseIdx_iff_getElem?.mp later
    obtain ⟨inside, -⟩ := List.getElem?_eq_some_iff.mp found
    refine other ((List.getElem?_inj ?_ keys.pending).mp ?_)
    · rwa [List.length_map]
    · rw [List.getElem?_map, List.getElem?_map, found, picked, Option.map_some, Option.map_some,
        equal]
  refine ⟨fun place other own twin first second equal => ?_, ?_, fun p later place own key => ?_,
    fun p later => keys.passphrase p (List.mem_of_mem_eraseIdx later)⟩
  · rcases now place own first with old | ⟨here, rfl⟩
    · rcases now other twin second with old' | ⟨-, rfl⟩
      · exact keys.stored place other own twin old old' equal
      · exact absurd equal (keys.apart pending member place own old)
    · rcases now other twin second with old' | ⟨there, -⟩
      · exact absurd equal.symm (keys.apart pending member other twin old')
      · rw [here, there]
  · exact keys.pending.sublist ((List.eraseIdx_sublist s.pending index).map _)
  · rcases now place own key with old | ⟨-, rfl⟩
    · exact keys.apart p (List.mem_of_mem_eraseIdx later) place own old
    · exact (differs p later).symm

/-- The step lemma: the keys stay apart. -/
theorem DistinctKeys.step (ideal : crypto.Ideal) (keys : DistinctKeys crypto profile s)
    (taken : RotationStep crypto profile s event s')
    (condition : UsesProfilePassphrase profile ⟨s, event, s'⟩) : DistinctKeys crypto profile s' := by
  cases taken with
  | register storagePassphrase draws fresh => exact keys.register ideal fresh condition
  | store index draws pending picked => exact keys.store ideal draws picked
  | send => exact ⟨keys.stored, keys.pending, keys.apart, keys.passphrase⟩

/-- The step that a message comes with is a send: it leaves the keys as they
were, and the message is wrapped for the device. -/
theorem RotationStep.sent (taken : RotationStep crypto profile s event s') {m : ReceivedMessage}
    (appended : s'.received = s.received ++ [m]) :
    (∃ draws text devices, event = .send draws text devices) ∧ s'.storage = s.storage ∧
      ∃ deviceId, getStoredDeviceId s.storage profile.user.val = some deviceId ∧
        WrappedFor crypto deviceId m := by
  have grows : s'.received ≠ s.received := by simp [appended]
  cases taken with
  | register => exact absurd rfl grows
  | store => exact absurd rfl grows
  | send draws text devices deviceId row payload device registered listed distinct encrypted wrapped =>
    obtain rfl := List.singleton_injective (List.append_cancel_left appended)
    obtain ⟨-, encrypts, -, keys⟩ := encryptUtf8_eq_ok.mp encrypted
    have plain : deviceId ≠ "__proto__" := by
      rintro rfl
      rw [wrapForDevices_proto draws.messageKey.length_eq keys] at wrapped
      simp at wrapped
    obtain ⟨drawn, recipient, imported, slot⟩ :=
      wrapForDevices_get draws.messageKey.length_eq keys distinct listed plain
    exact ⟨⟨draws, text, devices, rfl⟩, rfl, deviceId, device, draws, drawn, recipient, encrypts,
      imported, slot⟩

end Preserved

end

end MessagingSystem.Protocol
