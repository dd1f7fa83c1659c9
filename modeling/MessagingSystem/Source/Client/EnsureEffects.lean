import MessagingSystem.Source.Client.EnsureMessagingKeypair

/-!
# What the bootstrap and a rotation do to the profile and the directory

From a recoverable state the bootstrap succeeds, and the active key of the
keyring is the one that the service has for the stored device id. A rotation
appends its key when the version it gets is above the keyring.
-/
namespace MessagingSystem.Source.Client
open Foundation Server

variable {PublicKey PrivateKey Seed : Type} {crypto : WebCrypto PublicKey PrivateKey Seed}

section Keyring

variable {storage : KeyStorage} {userId passphrase : String} {v w : Nat}

/-- The SPKI that is stored with the highest version. -/
def activeSpki (storage : KeyStorage) (userId : String) : Option String :=
  (listKeyringVersions storage userId).max?.bind (getKeyringPublicSpkiOptional storage userId)

theorem storeKeyring_row {pkcs8 : List UInt8} {spki : Option String} {draws : WrapDraws}
    (positive : 1 ≤ v) (accepted : ∃ pass, normalizePassphrase passphrase = .ok pass) :
    ∃ pass, normalizePassphrase passphrase = .ok pass ∧
      storeKeyringPrivateKeyPkcs8 crypto storage userId v pkcs8 passphrase spki draws =
        .ok (storage.withRow userId v
          ⟨spki, wrapPrivateKeyPkcs8 crypto pkcs8 pass PBKDF2_ITERATIONS_DEFAULT draws⟩) := by
  obtain ⟨pass, normal⟩ := accepted
  have legal : ¬ v < 1 := by omega
  refine ⟨pass, normal, ?_⟩
  simp only [storeKeyringPrivateKeyPkcs8, legal, if_false, normal, bind, Except.bind, KeyStorage.withRow]

/-- A row above all the others is the active one. -/
theorem activeSpki_withRow {row : KeyringPrivateKeyRow} {spki : String}
    (above : ∀ w ∈ listKeyringVersions storage userId, w ≤ v) (holds : row.publicKeySpkiB64 = some spki)
    (nonempty : spki ≠ "") :
    activeSpki (storage.withRow userId v row) userId = some spki := by
  have highest : (listKeyringVersions (storage.withRow userId v row) userId).max? = some v := by
    refine List.max?_eq_some_iff.mpr ⟨(mem_versions_withRow row).mpr (.inl rfl), fun w listed => ?_⟩
    rcases (mem_versions_withRow row).mp listed with same | old
    · omega
    · exact above w old
  have stored : getKeyringPublicSpkiOptional (storage.withRow userId v row) userId v = some spki := by
    simp [getKeyringPublicSpkiOptional, KeyStorage.withRow, OrderedMap.get_set, holds, nonempty]
  rw [activeSpki, highest, Option.bind_some, stored]

end Keyring

section Requests

variable {s t : BootState} {α β : Type}

theorem BootProgram.exec_bind {p : BootProgram α} {a : α} (f : α → BootProgram β)
    (first : p.exec crypto s = (.ok a, t)) :
    BootProgram.exec crypto (p >>= f) s = (f a).exec crypto t := by
  unfold BootProgram.exec at first ⊢
  rw [Program.run_bind, first]

/-- A request changes the service's database only. -/
theorem BootProgram.exec_request (crypto : WebCrypto PublicKey PrivateKey Seed) (p : ServerProgram α)
    (s : BootState) :
    (BootProgram.request p).exec crypto s =
      ((ServerProgram.exec p s.db).1.mapError fun e => .error e.message,
        { s with db := (ServerProgram.exec p s.db).2 }) :=
  @Program.run_hoist _ _ _ _ _ _ _ _ (BootCommand.exec crypto) _ _ BootState.db
    (fun s db => { s with db := db }) (fun _ _ => rfl) (fun _ _ => rfl) (fun _ _ _ => rfl)
    (fun _ => rfl) p s

theorem listUserDevicePublicKeys_command (user : UserId) :
    listUserDevicePublicKeys user = .command (.service (.listDevices user.val)) fun docs =>
      .done (.ok (toDevicePublicKeysListResponse docs)) := by
  unfold listUserDevicePublicKeys BootProgram.request findDevicePublicKeysByUserId
  simp only [user.trim_val, user.nonempty, if_false]
  rfl

/-- What the listing shows for a device is its row. -/
theorem listed_find {db : Database} (wf : db.WellFormed) (user : UserId) (deviceId : String) :
    (toDevicePublicKeysListResponse (ServerCommand.exec (.listDevices user.val) db).1).find?
      (fun i => i.deviceId = deviceId) = db.storedKey user.val deviceId := by
  unfold toDevicePublicKeysListResponse Database.storedKey
  rw [List.find?_map]
  congr 1
  have mem : ∀ d, d ∈ (ServerCommand.exec (.listDevices user.val) db).1 ↔
      d ∈ db.userDevicePublicKeys ∧ d.userId = user.val := by
    intro d
    simp [ServerCommand.exec, List.mem_insertionSort]
  cases found : db.findDeviceRow user.val deviceId with
  | none =>
    refine List.find?_eq_none.mpr fun d listed same => ?_
    obtain ⟨held, own⟩ := (mem d).mp listed
    have device : d.deviceId = deviceId := of_decide_eq_true same
    exact List.find?_eq_none.mp found d held (by simp [Database.isDevice, own, device])
  | some row =>
    obtain ⟨held, own, device⟩ := isDevice_of_find found
    obtain ⟨first, located⟩ : ∃ first, (ServerCommand.exec (.listDevices user.val) db).1.find?
        ((fun i : DevicePublicKey => decide (i.deviceId = deviceId)) ∘ toRegisterDeviceResponse) =
          some first := by
      refine Option.isSome_iff_exists.mp (List.find?_isSome.mpr ⟨row, (mem row).mpr ⟨held, own⟩, ?_⟩)
      simp [toRegisterDeviceResponse, device]
    obtain ⟨listed, firstOwn⟩ := (mem first).mp (List.mem_of_find?_eq_some located)
    have matched := List.find?_some located
    have firstDevice : first.deviceId = deviceId := of_decide_eq_true matched
    rw [located, Collection.eq_of_key wf.deviceKeys listed held]
    rw [firstOwn, firstDevice, own, device]

/-- A registration without failures stores the key and answers with it. -/
theorem registerDevice_registers (user : UserId) (publicKey : String) {deviceId : String}
    {draws : EnsureDraws PrivateKey} (unfailing : draws.failedAttempts = [])
    (trimmed : EcmaText.trim deviceId = deviceId) (nonempty : deviceId ≠ "")
    (short : EcmaText.codeUnitLength deviceId ≤ 128) :
    ∃ db', (registerDevice user publicKey deviceId draws).exec crypto s =
        (.ok ⟨deviceId, publicKey, s.db.versionFor user.val deviceId publicKey⟩, { s with db := db' }) ∧
      db'.storedKey user.val deviceId =
        some ⟨deviceId, publicKey, s.db.versionFor user.val deviceId publicKey⟩ ∧
      (s.db.WellFormed → db'.WellFormed) := by
  obtain ⟨outcome, db', registered, answer, stored⟩ := @registerOrUpdateDevice_registers s.db deviceId user
    publicKey draws.uuid draws.now trimmed nonempty short
  refine ⟨db', ?_, by rw [stored, answer], fun wf => ?_⟩
  · unfold registerDevice
    rw [unfailing, Program.retrying]
    have requested := BootProgram.exec_request crypto (registerOrUpdateDevice user.val publicKey
      (some deviceId) none draws.uuid draws.now) s
    rw [registered] at requested
    rw [BootProgram.exec_bind _ requested, ← answer]
    rfl
  · have kept := ServerProgram.exec_wellFormed (registerOrUpdateDevice user.val publicKey (some deviceId)
      none draws.uuid draws.now) wf
    rw [registered] at kept
    exact kept

end Requests

section Bootstrap

variable {s : BootState} {user : UserId} {passphrase : AcceptedPassphrase}
  {draws : EnsureDraws PrivateKey}

/-- The directory lists the id for the user. -/
def Listed (db : Database) (userId deviceId : String) : Prop :=
  ∃ row ∈ db.userDevicePublicKeys, row.userId = userId ∧ EcmaText.trim row.deviceId = deviceId

/-- The active key of the keyring is the one the service has for the stored device id. -/
def Agrees (user : UserId) (s : BootState) : Prop :=
  ∃ deviceId key, getStoredDeviceId s.storage user.val = some deviceId ∧
    s.db.storedKey user.val deviceId = some key ∧ activeSpki s.storage user.val = some key.publicKey

/-- A state the bootstrap can work from: without keys this device is not listed;
with keys the active one is the registered one, if this device is registered. -/
structure Recoverable (user : UserId) (s : BootState) : Prop where
  wellFormed : s.db.WellFormed
  short : ∀ d, getStoredDeviceId s.storage user.val = some d → EcmaText.codeUnitLength d ≤ 128
  unkeyed : listKeyringVersions s.storage user.val = [] →
    ∀ d, getStoredDeviceId s.storage user.val = some d → ¬ Listed s.db user.val d
  keyed : listKeyringVersions s.storage user.val ≠ [] → ∃ spki,
    activeSpki s.storage user.val = some spki ∧ EcmaText.trim spki = spki ∧ spki ≠ "" ∧
    ∀ d key, getStoredDeviceId s.storage user.val = some d → s.db.storedKey user.val d = some key →
      key.publicKey = spki

theorem Recoverable.currentDevice_short {user : UserId} {s : BootState} (recoverable : Recoverable user s) :
    EcmaText.codeUnitLength (currentDevice s.storage user.val) ≤ 128 := by
  unfold currentDevice
  cases held : getStoredDeviceId s.storage user.val with
  | none => decide
  | some d => exact recoverable.short d held

/-- The pair is registered for no device. -/
def UnregisteredPair (crypto : WebCrypto PublicKey PrivateKey Seed) (db : Database) (pair : PrivateKey) :
    Prop :=
  ∀ row ∈ db.userDevicePublicKeys,
    row.publicKey ≠ exportPublicKeySpkiBase64 crypto (crypto.publicKeyOf pair)

theorem exportedSpki_trimmed (pair : PrivateKey) :
    EcmaText.trim (exportPublicKeySpkiBase64 crypto (crypto.publicKeyOf pair)) =
      exportPublicKeySpkiBase64 crypto (crypto.publicKeyOf pair) := Base64.trimmed_encode _

/-- An exported public key is not the empty byte string. -/
def WebCrypto.NonemptySpki (crypto : WebCrypto PublicKey PrivateKey Seed) : Prop :=
  ∀ key, crypto.exportSpki key ≠ []

theorem exportedSpki_nonempty (spkis : crypto.NonemptySpki) (pair : PrivateKey) :
    exportPublicKeySpkiBase64 crypto (crypto.publicKeyOf pair) ≠ "" := by
  intro empty
  have decoded := Base64.decode_encode (crypto.exportSpki (crypto.publicKeyOf pair))
  have none : Base64.decode (Base64.encode []) = some [] := Base64.decode_encode []
  rw [show Base64.encode (crypto.exportSpki (crypto.publicKeyOf pair)) = Base64.encode [] from empty,
    none] at decoded
  exact spkis _ (Option.some.inj decoded).symm

theorem ensure_exec :
    (ensureUserKeypairReadyForMessaging crypto user passphrase draws).exec crypto s =
      match (listKeyringVersions s.storage user.val).max? with
      | some maxV => (alignKeyring user draws (toDevicePublicKeysListResponse
          (ServerCommand.exec (.listDevices user.val) s.db).1) maxV).exec crypto s
      | none => (generateKeypair crypto user passphrase draws (getStoredDeviceId s.storage user.val)
          (toDevicePublicKeysListResponse (ServerCommand.exec (.listDevices user.val) s.db).1)).exec
            crypto s := by
  unfold ensureUserKeypairReadyForMessaging ensureListed BootProgram.profile BootProgram.exec
  simp only [listUserDevicePublicKeys_command, Program.perform_bind, Program.command_bind,
    Program.done_bind, Program.run, BootCommand.exec, ProfileCommand.exec]
  cases (listKeyringVersions s.storage user.val).max? with
  | none => rfl
  | some maxV => rfl

/-- Keys and directory agree already: nothing is written. -/
theorem alignKeyring_aligned {maxV : Nat} {spki deviceId : String} {entry : DevicePublicKey}
    {deviceList : List DevicePublicKey}
    (stored : getKeyringPublicSpkiOptional s.storage user.val maxV = some spki)
    (trimmed : EcmaText.trim spki = spki) (nonempty : spki ≠ "")
    (device : getStoredDeviceId s.storage user.val = some deviceId)
    (found : deviceList.find? (fun i => i.deviceId = deviceId) = some entry)
    (same : entry.publicKey = spki) :
    (alignKeyring user draws deviceList maxV).exec crypto s = (.ok (), s) := by
  unfold alignKeyring BootProgram.exec BootProgram.profile
  simp only [Program.run_bind, Program.run_perform, BootCommand.exec, ProfileCommand.exec, stored,
    Option.getD_some, trimmed, Program.run_require, nonempty, ne_eq, not_false_eq_true, decide_true,
    if_true, device, Option.bind_some, found, same]

/-- This device is not registered: the active key is, and the device id is stored. -/
theorem alignKeyring_registers {maxV : Nat} {spki deviceId : String}
    {deviceList : List DevicePublicKey} (unfailing : draws.failedAttempts = [])
    (stored : getKeyringPublicSpkiOptional s.storage user.val maxV = some spki)
    (trimmed : EcmaText.trim spki = spki) (nonempty : spki ≠ "")
    (device : (getStoredDeviceId s.storage user.val).getD Client.DEFAULT_SINGLE_DEVICE_ID = deviceId)
    (short : EcmaText.codeUnitLength deviceId ≤ 128)
    (missing : (getStoredDeviceId s.storage user.val).bind (fun id =>
      deviceList.find? fun i => i.deviceId = id) = none) :
    ∃ t key, (alignKeyring user draws deviceList maxV).exec crypto s = (.ok (), t) ∧
      t.storage.keyring = s.storage.keyring ∧ t.storage.legacy = s.storage.legacy ∧
      getStoredDeviceId t.storage user.val = some deviceId ∧
      t.db.storedKey user.val deviceId = some key ∧ key.publicKey = spki ∧
      (s.db.WellFormed → t.db.WellFormed) := by
  have legal : EcmaText.trim deviceId = deviceId ∧ deviceId ≠ "" := by
    cases held : getStoredDeviceId s.storage user.val with
    | none =>
      rw [held, Option.getD_none] at device
      rw [← device]
      exact ⟨by decide, by decide⟩
    | some id =>
      rw [held, Option.getD_some] at device
      rw [← device]
      exact getStoredDeviceId_trimmed held
  obtain ⟨db', registered, held, wf⟩ := @registerDevice_registers _ _ _ crypto s user spki deviceId draws
    unfailing legal.1 legal.2 short
  obtain ⟨after, written, keyring, legacy, identified⟩ := @getStoredDeviceId_set s.storage user.val deviceId
    legal.1 legal.2
  refine ⟨⟨after, db'⟩, _, ?_, keyring, legacy, identified, held, rfl, wf⟩
  unfold BootProgram.exec at registered
  unfold alignKeyring BootProgram.exec BootProgram.profile BootProgram.write BootProgram.profile
  simp only [Program.run_bind, Program.run_perform, BootCommand.exec, ProfileCommand.exec, stored,
    Option.getD_some, trimmed, Program.run_require, nonempty, ne_eq, not_false_eq_true, decide_true,
    if_true, missing, device, registered, written, writeProfile, Program.run_done]

/-- A registered pair is stored: first the device id, then the private key. -/
theorem storeGenerated_stores (ideal : crypto.Ideal) {result : DevicePublicKey}
    (trimmed : EcmaText.trim result.deviceId = result.deviceId) (nonempty : result.deviceId ≠ "")
    (positive : 1 ≤ result.keyVersion) :
    ∃ identified row, setStoredDeviceId s.storage user.val result.deviceId = .ok identified ∧
      (storeGenerated crypto user passphrase draws result).exec crypto s =
        (.ok (), { s with storage := identified.withRow user.val result.keyVersion row }) ∧
      row.publicKeySpkiB64 = some result.publicKey ∧
      heldKey crypto (identified.withRow user.val result.keyVersion row) user.val passphrase.val
        result.keyVersion = some draws.pair := by
  obtain ⟨identified, written, -, -, -⟩ := @getStoredDeviceId_set s.storage user.val result.deviceId
    trimmed nonempty
  obtain ⟨pass, normal, stored⟩ := @storeKeyring_row _ _ _ crypto identified user.val passphrase.val
    result.keyVersion (crypto.exportPkcs8 draws.pair) (some result.publicKey) draws.wrap positive
    passphrase.accepted
  refine ⟨identified, ⟨some result.publicKey, wrapPrivateKeyPkcs8 crypto (crypto.exportPkcs8 draws.pair)
    pass PBKDF2_ITERATIONS_DEFAULT draws.wrap⟩, written, ?_, rfl, (heldKey_withRow ideal normal).trans (ideal.import_exportPkcs8 _)⟩
  unfold storeGenerated BootProgram.exec BootProgram.write BootProgram.profile exportPrivateKeyPkcs8Base64
  simp only [Program.run_bind, Program.run_perform, BootCommand.exec, ProfileCommand.exec, written,
    writeProfile, Program.run_done, base64ToArrayBuffer_encode, stored]

theorem versionFor_positive {db : Database} {deviceId : String} {pair : PrivateKey}
    (unregistered : UnregisteredPair crypto db pair) :
    1 ≤ db.versionFor user.val deviceId
      (exportPublicKeySpkiBase64 crypto (crypto.publicKeyOf pair)) := by
  unfold Database.versionFor Database.storedKey
  cases found : db.findDeviceRow user.val deviceId with
  | none => exact Nat.le_refl 1
  | some row =>
    have other := unregistered row (isDevice_of_find found).1
    simp [toRegisterDeviceResponse, other]

/-- A device that is not listed is no obstacle to generating a pair. -/
theorem unlisted_passes
    (unlisted : ∀ d, getStoredDeviceId s.storage user.val = some d → ¬ Listed s.db user.val d) :
    ¬ (EcmaText.trim ((getStoredDeviceId s.storage user.val).getD "") ≠ "" ∧
      EcmaText.trim ((getStoredDeviceId s.storage user.val).getD "") ∈
        (toDevicePublicKeysListResponse (ServerCommand.exec (.listDevices user.val) s.db).1).map
          fun i => EcmaText.trim i.deviceId) := by
  intro both
  obtain ⟨given, member⟩ := both
  cases held : getStoredDeviceId s.storage user.val with
  | none =>
    rw [held, Option.getD_none] at given
    exact given EcmaText.trim_empty
  | some d =>
    obtain ⟨trimmed, -⟩ := getStoredDeviceId_trimmed held
    rw [held, Option.getD_some, trimmed] at member
    obtain ⟨item, listed, same⟩ := List.mem_map.mp member
    obtain ⟨row, shown, rfl⟩ := List.mem_map.mp listed
    have kept : row ∈ s.db.userDevicePublicKeys ∧ row.userId = user.val := by
      simpa [ServerCommand.exec, List.mem_insertionSort] using shown
    exact unlisted d held ⟨row, kept.1, kept.2, same⟩

/-- Without keys a pair is generated, registered under the drawn id and stored. -/
theorem ensure_generates (ideal : crypto.Ideal) (spkis : crypto.NonemptySpki)
    (recoverable : Recoverable user s) (unkeyed : listKeyringVersions s.storage user.val = [])
    (unfailing : draws.failedAttempts = []) (unregistered : UnregisteredPair crypto s.db draws.pair) :
    ∃ t v, (ensureUserKeypairReadyForMessaging crypto user passphrase draws).exec crypto s = (.ok (), t) ∧
      t.db.WellFormed ∧ t.storage.legacy = s.storage.legacy ∧
      getStoredDeviceId t.storage user.val = some draws.clientDeviceId.val ∧
      t.db.storedKey user.val draws.clientDeviceId.val = some ⟨draws.clientDeviceId.val,
        exportPublicKeySpkiBase64 crypto (crypto.publicKeyOf draws.pair), v⟩ ∧
      activeSpki t.storage user.val =
        some (exportPublicKeySpkiBase64 crypto (crypto.publicKeyOf draws.pair)) ∧
      (listKeyringVersions t.storage user.val).max? = some v ∧
      heldKey crypto t.storage user.val passphrase.val v = some draws.pair := by
  have positive := @versionFor_positive _ _ _ crypto user s.db draws.clientDeviceId.val draws.pair
    unregistered
  obtain ⟨db', registered, held, wf⟩ := @registerDevice_registers _ _ _ crypto s user
    (exportPublicKeySpkiBase64 crypto (crypto.publicKeyOf draws.pair)) draws.clientDeviceId.val draws
    unfailing draws.clientDeviceId.trimmed draws.clientDeviceId.nonempty draws.clientDeviceId.short
  obtain ⟨after, written, keyring, legacy, identified⟩ := @getStoredDeviceId_set s.storage user.val
    draws.clientDeviceId.val draws.clientDeviceId.trimmed draws.clientDeviceId.nonempty
  generalize s.db.versionFor user.val draws.clientDeviceId.val
    (exportPublicKeySpkiBase64 crypto (crypto.publicKeyOf draws.pair)) = v at positive registered held
  obtain ⟨identified', row, written', stored, spki, own⟩ := @storeGenerated_stores _ _ _ crypto
    { s with db := db' } user passphrase draws ideal ⟨draws.clientDeviceId.val,
      exportPublicKeySpkiBase64 crypto (crypto.publicKeyOf draws.pair), v⟩ draws.clientDeviceId.trimmed
    draws.clientDeviceId.nonempty positive
  obtain rfl : after = identified' := Except.ok.inj (written.symm.trans written')
  have empty : listKeyringVersions after user.val = [] := by
    rw [listKeyringVersions_congr keyring, unkeyed]
  have active := @activeSpki_withRow after user.val v row _ (by simp [empty]) spki
    (exportedSpki_nonempty spkis draws.pair)
  have newest : (listKeyringVersions (after.withRow user.val v row) user.val).max? = some v := by
    refine List.max?_eq_some_iff.mpr ⟨(mem_versions_withRow row).mpr (.inl rfl), fun w listed => ?_⟩
    rcases (mem_versions_withRow row).mp listed with same | old
    · omega
    · rw [empty] at old
      cases old
  refine ⟨⟨after.withRow user.val v row, db'⟩, v, ?_, wf recoverable.wellFormed, legacy, identified, held,
    active, newest, own⟩
  rw [ensure_exec, unkeyed, List.max?_nil]
  have passes := unlisted_passes (recoverable.unkeyed unkeyed)
  unfold BootProgram.exec at registered stored
  unfold generateKeypair BootProgram.exec
  simp only [passes, and_false, not_false_eq_true, decide_true, Program.run_bind, Program.run_require,
    if_true, registered, stored]

/-- With keys the keyring stays, and this device ends up registered with the active one. -/
theorem ensure_aligns (recoverable : Recoverable user s)
    (keyed : listKeyringVersions s.storage user.val ≠ []) (unfailing : draws.failedAttempts = []) :
    ∃ t, (ensureUserKeypairReadyForMessaging crypto user passphrase draws).exec crypto s = (.ok (), t) ∧
      t.db.WellFormed ∧ t.storage.legacy = s.storage.legacy ∧ t.storage.keyring = s.storage.keyring ∧
      ∃ d key, getStoredDeviceId t.storage user.val = some d ∧ EcmaText.codeUnitLength d ≤ 128 ∧
        t.db.storedKey user.val d = some key ∧ activeSpki s.storage user.val = some key.publicKey := by
  obtain ⟨spki, active, trimmed, nonempty, matching⟩ := recoverable.keyed keyed
  obtain ⟨maxV, highest, stored⟩ := Option.bind_eq_some_iff.mp active
  rw [ensure_exec, highest]
  dsimp only
  let deviceList := toDevicePublicKeysListResponse (ServerCommand.exec (.listDevices user.val) s.db).1
  have listed := listed_find recoverable.wellFormed user
  cases found : (getStoredDeviceId s.storage user.val).bind fun id =>
      deviceList.find? fun i => i.deviceId = id with
  | some entry =>
    obtain ⟨d, device, here⟩ := Option.bind_eq_some_iff.mp found
    have row := (listed d).symm.trans here
    have same := matching d entry device row
    exact ⟨s, alignKeyring_aligned stored trimmed nonempty device here same, recoverable.wellFormed, rfl,
      rfl, d, entry, device, recoverable.short d device, row, by rw [active, same]⟩
  | none =>
    have short : EcmaText.codeUnitLength
        ((getStoredDeviceId s.storage user.val).getD Client.DEFAULT_SINGLE_DEVICE_ID) ≤ 128 := by
      cases held : getStoredDeviceId s.storage user.val with
      | none => decide
      | some d => exact recoverable.short d held
    obtain ⟨t, key, ran, keyring, legacy, identified, row, same, wf⟩ :=
      alignKeyring_registers unfailing stored trimmed nonempty rfl short found
    exact ⟨t, ran, wf recoverable.wellFormed, legacy, keyring, _, key, identified, short, row,
      by rw [active, same]⟩

/-- From a recoverable state the bootstrap succeeds, keyring and directory agree
after it, and no key is lost. -/
theorem ensure_recovers (ideal : crypto.Ideal) (spkis : crypto.NonemptySpki)
    (recoverable : Recoverable user s) (unfailing : draws.failedAttempts = [])
    (unregistered : UnregisteredPair crypto s.db draws.pair) :
    ∃ t, (ensureUserKeypairReadyForMessaging crypto user passphrase draws).exec crypto s = (.ok (), t) ∧
      Agrees user t ∧ Recoverable user t ∧ t.storage.legacy = s.storage.legacy ∧
      ∀ v pass own, heldKey crypto s.storage user.val pass v = some own →
        heldKey crypto t.storage user.val pass v = some own := by
  by_cases unkeyed : listKeyringVersions s.storage user.val = []
  · obtain ⟨t, v, ran, wf, legacy, device, row, active, newest, -⟩ :=
      @ensure_generates _ _ _ crypto s user passphrase draws ideal spkis recoverable unkeyed unfailing
        unregistered
    have listed : listKeyringVersions t.storage user.val ≠ [] := by
      intro empty
      rw [empty] at newest
      cases newest
    refine ⟨t, ran, ⟨_, _, device, row, active⟩, ⟨wf, fun d held => ?_, fun empty => absurd empty listed,
      fun _ => ⟨_, active, exportedSpki_trimmed draws.pair, exportedSpki_nonempty spkis draws.pair,
        fun d key held found => ?_⟩⟩, legacy, fun v pass own held => ?_⟩
    · rw [← Option.some.inj (device.symm.trans held)]
      exact draws.clientDeviceId.short
    · rw [← Option.some.inj (device.symm.trans held), row] at found
      rw [← Option.some.inj found]
    · have version := listed_of_heldKey held
      rw [unkeyed] at version
      cases version
  · obtain ⟨t, ran, wf, legacy, keyring, d, key, device, short, row, active⟩ :=
      @ensure_aligns _ _ _ crypto s user passphrase draws recoverable unkeyed unfailing
    have versions : listKeyringVersions t.storage user.val = listKeyringVersions s.storage user.val :=
      listKeyringVersions_congr keyring
    have same : activeSpki t.storage user.val = activeSpki s.storage user.val := by
      unfold activeSpki getKeyringPublicSpkiOptional
      rw [versions, keyring]
    obtain ⟨spki, held, trimmed, nonempty, -⟩ := recoverable.keyed unkeyed
    refine ⟨t, ran, ⟨d, key, device, row, same.trans active⟩, ⟨wf, fun d' stored => ?_, fun empty => ?_,
      fun _ => ⟨spki, same.trans held, trimmed, nonempty, fun d' key' stored found => ?_⟩⟩, legacy,
      fun v pass own stored => ?_⟩
    · rw [← Option.some.inj (device.symm.trans stored)]
      exact short
    · exact absurd (versions.symm.trans empty) unkeyed
    · rw [← Option.some.inj (device.symm.trans stored), row] at found
      rw [← Option.some.inj found]
      exact Option.some.inj (active.symm.trans held)
    · rw [heldKey_congr crypto keyring]
      exact stored

end Bootstrap

section Rotation

variable {s : BootState} {user : UserId} {storagePassphrase : String}
  {draws : RotationDraws PrivateKey} {wrap : WrapDraws}

/-- The version that a new key of the device would get. -/
def nextVersion (db : Database) (userId deviceId : String) : Nat :=
  match db.storedKey userId deviceId with
  | none => 1
  | some key => key.keyVersion + 1

theorem versionFor_unregistered {db : Database} {deviceId : String} {pair : PrivateKey}
    (unregistered : UnregisteredPair crypto db pair) :
    db.versionFor user.val deviceId (exportPublicKeySpkiBase64 crypto (crypto.publicKeyOf pair)) =
      nextVersion db user.val deviceId := by
  unfold Database.versionFor nextVersion Database.storedKey
  cases found : db.findDeviceRow user.val deviceId with
  | none => rfl
  | some row =>
    have other := unregistered row (isDevice_of_find found).1
    simp [toRegisterDeviceResponse, other]

/-- A rotation of a user without devices is refused. -/
theorem rotate_refused
    (empty : (ServerCommand.exec (.listDevices user.val) s.db).1.isEmpty = true) :
    rotateUserKeypairOnServer crypto user storagePassphrase draws wrap s =
      (.error (.error ("No encryption key is registered on the server yet. " ++
        "Register a key before rotating.")), s) := by
  have listed : ServerProgram.exec (findDevicePublicKeysByUserId user.val) s.db =
      (.ok (ServerCommand.exec (.listDevices user.val) s.db).1, s.db) :=
    findDevicePublicKeysByUserId_exec user s.db
  unfold rotateUserKeypairOnServer rotateRegister
  simp only [listed, empty, if_true]

/-- A rotation fails without effect, or it registers and stores the new key under
the next version. -/
theorem rotate_effect (recoverable : Recoverable user s)
    (migrated : Migrated s.storage user.val)
    (accepted : ∃ pass, normalizePassphrase storagePassphrase = .ok pass)
    (unregistered : UnregisteredPair crypto s.db draws.pair) :
    (∃ e, rotateUserKeypairOnServer crypto user storagePassphrase draws wrap s = (.error e, s)) ∨
    ∃ identified row db', rotateUserKeypairOnServer crypto user storagePassphrase draws wrap s =
        (.ok (), ⟨identified.withRow user.val
          (nextVersion s.db user.val (currentDevice s.storage user.val)) row, db'⟩) ∧
      identified.keyring = s.storage.keyring ∧ identified.legacy = s.storage.legacy ∧
      getStoredDeviceId identified user.val = some (currentDevice s.storage user.val) ∧
      row.publicKeySpkiB64 = some (exportPublicKeySpkiBase64 crypto (crypto.publicKeyOf draws.pair)) ∧
      db'.WellFormed ∧
      db'.storedKey user.val (currentDevice s.storage user.val) =
        some ⟨currentDevice s.storage user.val,
          exportPublicKeySpkiBase64 crypto (crypto.publicKeyOf draws.pair),
          nextVersion s.db user.val (currentDevice s.storage user.val)⟩ := by
  obtain ⟨trimmed, nonempty⟩ := currentDevice_trimmed s.storage user.val
  have short := recoverable.currentDevice_short
  obtain ⟨outcome, db', registered, answer, stored⟩ := @registerOrUpdateDevice_registers s.db
    (currentDevice s.storage user.val) user
    (exportPublicKeySpkiBase64 crypto (crypto.publicKeyOf draws.pair)) draws.uuid draws.now trimmed
    nonempty short
  rw [versionFor_unregistered unregistered] at answer
  have wf := ServerProgram.exec_wellFormed (registerOrUpdateDevice user.val
    (exportPublicKeySpkiBase64 crypto (crypto.publicKeyOf draws.pair))
    (some (currentDevice s.storage user.val)) none draws.uuid draws.now) recoverable.wellFormed
  rw [registered] at wf
  have listed : ServerProgram.exec (findDevicePublicKeysByUserId user.val) s.db =
      (.ok (ServerCommand.exec (.listDevices user.val) s.db).1, s.db) :=
    findDevicePublicKeysByUserId_exec user s.db
  by_cases empty : (ServerCommand.exec (.listDevices user.val) s.db).1.isEmpty = true
  · exact .inl ⟨_, rotate_refused empty⟩
  · right
    obtain ⟨identified, written, keyring, legacy, device⟩ := @getStoredDeviceId_set s.storage user.val
      (currentDevice s.storage user.val) trimmed nonempty
    have positive : 1 ≤ nextVersion s.db user.val (currentDevice s.storage user.val) := by
      unfold nextVersion
      split <;> omega
    obtain ⟨pass, -, row⟩ := @storeKeyring_row _ _ _ crypto identified user.val storagePassphrase
      (nextVersion s.db user.val (currentDevice s.storage user.val)) (crypto.exportPkcs8 draws.pair)
      (some (exportPublicKeySpkiBase64 crypto (crypto.publicKeyOf draws.pair))) wrap positive accepted
    refine ⟨identified, ⟨some (exportPublicKeySpkiBase64 crypto (crypto.publicKeyOf draws.pair)),
      wrapPrivateKeyPkcs8 crypto (crypto.exportPkcs8 draws.pair) pass PBKDF2_ITERATIONS_DEFAULT wrap⟩, db',
      ?_, keyring, legacy, device, rfl, wf, stored.trans (by rw [answer])⟩
    have kept : rotateStore crypto user.val ⟨draws.pair, toRegisterDeviceResponse outcome.document,
        storagePassphrase⟩ wrap s.storage = .ok (identified.withRow user.val
          (nextVersion s.db user.val (currentDevice s.storage user.val))
          ⟨some (exportPublicKeySpkiBase64 crypto (crypto.publicKeyOf draws.pair)),
            wrapPrivateKeyPkcs8 crypto (crypto.exportPkcs8 draws.pair) pass PBKDF2_ITERATIONS_DEFAULT
              wrap⟩) := by
      unfold rotateStore exportPrivateKeyPkcs8Base64
      simp only [answer, written, base64ToArrayBuffer_encode, bind, Except.bind, row]
    have device : (getStoredDeviceId s.storage user.val).getD Client.DEFAULT_SINGLE_DEVICE_ID =
      currentDevice s.storage user.val := rfl
    unfold rotateUserKeypairOnServer rotateRegister
    simp only [listed, empty, Bool.false_eq_true, if_false, migrated.migrate, device, registered, kept]

/-- A rotation that gets a version above the keyring leaves a recoverable state,
and no key is lost. -/
theorem rotate_recovers (spkis : crypto.NonemptySpki)
    (recoverable : Recoverable user s) (migrated : Migrated s.storage user.val)
    (accepted : ∃ pass, normalizePassphrase storagePassphrase = .ok pass)
    (unregistered : UnregisteredPair crypto s.db draws.pair)
    (above : (ServerCommand.exec (.listDevices user.val) s.db).1.isEmpty = true ∨
      ∀ v ∈ listKeyringVersions s.storage user.val,
        v < nextVersion s.db user.val (currentDevice s.storage user.val)) :
    ∃ result t, rotateUserKeypairOnServer crypto user storagePassphrase draws wrap s = (result, t) ∧
      Recoverable user t ∧ t.storage.legacy = s.storage.legacy ∧
      ∀ v pass own, heldKey crypto s.storage user.val pass v = some own →
        heldKey crypto t.storage user.val pass v = some own := by
  rcases above with empty | above
  · exact ⟨_, s, rotate_refused empty, recoverable, rfl, fun _ _ _ held => held⟩
  rcases @rotate_effect _ _ _ crypto s user storagePassphrase draws wrap recoverable migrated accepted
    unregistered with ⟨e, failed⟩ | ⟨identified, row, db', done, keyring, legacy, device, spki, wf, stored⟩
  · exact ⟨_, s, failed, recoverable, rfl, fun _ _ _ held => held⟩
  have versions : listKeyringVersions identified user.val = listKeyringVersions s.storage user.val :=
    listKeyringVersions_congr keyring
  have active := @activeSpki_withRow identified user.val _ row _
    (fun w listed => Nat.le_of_lt (above w (versions ▸ listed))) spki
    (exportedSpki_nonempty spkis draws.pair)
  refine ⟨_, _, done, ⟨wf, fun d held => ?_, fun empty => ?_, fun _ => ⟨_, active,
    exportedSpki_trimmed draws.pair, exportedSpki_nonempty spkis draws.pair, fun d key held found => ?_⟩⟩,
    legacy, fun v pass own held => ?_⟩
  · rw [← Option.some.inj (device.symm.trans held)]
    exact recoverable.currentDevice_short
  · have listed : nextVersion s.db user.val (currentDevice s.storage user.val) ∈ listKeyringVersions
        (identified.withRow user.val (nextVersion s.db user.val (currentDevice s.storage user.val)) row)
          user.val := (mem_versions_withRow row).mpr (.inl rfl)
    rw [empty] at listed
    cases listed
  · rw [← Option.some.inj (device.symm.trans held), stored] at found
    rw [← Option.some.inj found]
  · have listed := above v (listed_of_heldKey held)
    rw [heldKey_withRow_other row (Nat.ne_of_lt listed), heldKey_congr crypto keyring]
    exact held

end Rotation

end MessagingSystem.Source.Client
