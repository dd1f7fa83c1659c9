import MessagingSystem.Protocol.KeypairBootstrap

/-!
# The stages of a generating bootstrap

Where a run that finds an empty keyring stands: it reads, it registers its pair,
it has stored the device id and is about to store the key, or it has ended. No
other run touches the row of its device, so each stage is stable under the steps
of the others.
-/
namespace MessagingSystem.Protocol
open Foundation Source Source.Server Source.Client

section Registration

variable {userId deviceId publicKey : String}

/-- The device has no row yet, or the key at version 1. -/
def FirstKey (userId deviceId publicKey : String) (db : Database) : Prop :=
  db.findDeviceRow userId deviceId = none ∨
    db.storedKey userId deviceId = some ⟨deviceId, publicKey, 1⟩

/-- The others leave the row of the device. -/
def SameRow (userId deviceId : String) (db db' : Database) : Prop :=
  db'.findDeviceRow userId deviceId = db.findDeviceRow userId deviceId

/-- A command on the device that stores no other key. -/
def RegistersKey (userId deviceId publicKey : String) {β : Type} (c : ServerCommand β) (db : Database) :
    Prop :=
  c.OnDevice userId deviceId ∧
    (FirstKey userId deviceId publicKey db → FirstKey userId deviceId publicKey (c.exec db).2)

theorem SameRow.firstKey {db db' : Database} (same : SameRow userId deviceId db db')
    (first : FirstKey userId deviceId publicKey db) : FirstKey userId deviceId publicKey db' := by
  unfold FirstKey Database.storedKey at first ⊢
  rw [same]
  exact first

/-- An update that sets no key leaves the stored key. -/
theorem storedKey_touched {db : Database} (now : Nat) :
    (ServerCommand.exec (.updateDevice userId deviceId { lastSeenAt := now }) db).2.storedKey userId
      deviceId = db.storedKey userId deviceId := by
  unfold Database.storedKey
  rw [findDeviceRow_update, Option.map_map]
  rfl

open Program

/-- Registering a new device, alone on its row, from wherever an attempt broke off. -/
theorem registerOrUpdateDevice_first (user : UserId) {db : Database}
    (trimmed : EcmaText.trim deviceId = deviceId) (nonempty : deviceId ≠ "") (uuid : String) (now : Nat)
    (first : FirstKey user.val deviceId publicKey db) :
    Ensures ServerCommand.exec (SameRow user.val deviceId) (RegistersKey user.val deviceId publicKey)
      (registerOrUpdateDevice user.val publicKey (some deviceId) none uuid now)
      (fun outcome db => toRegisterDeviceResponse outcome.document = ⟨deviceId, publicKey, 1⟩ ∧
        db.storedKey user.val deviceId = some ⟨deviceId, publicKey, 1⟩) db := by
  have id : registeredDeviceId (some deviceId) uuid = deviceId := by
    simp [registeredDeviceId, trimmed, nonempty]
  unfold registerOrUpdateDevice
  rw [id]
  refine Ensures.bind (Q := fun _ db => FirstKey user.val deviceId publicKey db)
    (Ensures.require fun _ => first) fun _ db first => ?_
  dsimp only
  rw [perform_bind]
  refine ensures_command.mpr fun db' moved => ⟨⟨⟨rfl, rfl⟩, fun first => first⟩, ?_⟩
  have first := moved.firstKey first
  simp only [ServerCommand.exec]
  cases found : db'.findDeviceRow user.val deviceId with
  | none =>
    dsimp only
    rw [perform_bind]
    refine ensures_command.mpr fun db'' moved => ?_
    have absent : db''.findDeviceRow user.val deviceId = none := moved.trans found
    obtain ⟨row, held, -⟩ | ⟨-, added, stored⟩ := @findDeviceRow_insert db'' user.val deviceId
      (newDeviceRow user.val deviceId publicKey none now) rfl rfl
    · cases absent.symm.trans held
    have key : (db''.setDevices (db''.userDevicePublicKeys ++
        [newDeviceRow user.val deviceId publicKey none now])).storedKey user.val deviceId =
          some ⟨deviceId, publicKey, 1⟩ := by
      rw [Database.storedKey, stored]
      rfl
    unfold newDeviceRow at added key
    unfold RegistersKey
    rw [added]
    exact ⟨⟨⟨rfl, rfl⟩, fun _ => .inr key⟩, Ensures.pure ⟨rfl, key⟩⟩
  | some existing =>
    have key : db'.storedKey user.val deviceId = some ⟨deviceId, publicKey, 1⟩ := by
      rcases first with absent | key
      · cases absent.symm.trans found
      · exact key
    have same : existing.publicKey = publicKey := by
      rw [Database.storedKey, found, Option.map_some, Option.some.injEq] at key
      exact congrArg DevicePublicKey.publicKey key
    dsimp only
    rw [if_pos same]
    unfold touchDevice relabelDevice
    simp only [Option.map_none, Program.pure_bind, perform_bind]
    refine ensures_command.mpr fun db'' moved => ?_
    have held : db''.storedKey user.val deviceId = some ⟨deviceId, publicKey, 1⟩ := by
      unfold Database.storedKey at key ⊢
      rw [moved, key]
    have touched := (@storedKey_touched user.val deviceId db'' now).trans held
    refine ⟨⟨⟨rfl, rfl, by simp⟩, fun _ => .inr touched⟩, ?_⟩
    refine ensures_command.mpr fun db3 moved => ⟨⟨⟨rfl, rfl⟩, fun first => first⟩, ?_⟩
    have last : db3.storedKey user.val deviceId = some ⟨deviceId, publicKey, 1⟩ := by
      unfold Database.storedKey at touched ⊢
      rw [moved, touched]
    refine Ensures.pure ⟨?_, last⟩
    obtain ⟨row, here, shown⟩ := Option.map_eq_some_iff.mp last
    have read : (ServerCommand.exec (.findDevice user.val deviceId) db3).1 = some row := here
    rw [read, Option.getD_some]
    exact shown

end Registration

section Stages

open Program

variable {PublicKey PrivateKey Seed : Type} (crypto : WebCrypto PublicKey PrivateKey Seed)
  (user : UserId) (passphrase : AcceptedPassphrase) (draws : EnsureDraws PrivateKey)

/-- The SPKI of the pair a call draws. -/
def drawnSpki : String := exportPublicKeySpkiBase64 crypto (crypto.publicKeyOf draws.pair)

/-- The row a call registers. -/
def drawnRow : DevicePublicKey := ⟨draws.clientDeviceId.val, drawnSpki crypto draws, 1⟩

/-- The row of the call's device is its own. -/
def OwnRow (s : BootState) : Prop :=
  s.db.storedKey user.val draws.clientDeviceId.val = some (drawnRow crypto draws)

/-- The bootstrap once it has read the stored device id. -/
def ensureResumed (persistedDeviceId : Option String) : BootProgram Unit := do
  let versions ← BootProgram.profile (.listKeyringVersions user.val)
  ensureListed crypto user passphrase draws persistedDeviceId versions

/-- The end of the bootstrap, when the device id has been stored. -/
def storesKey : BootProgram Unit :=
  BootProgram.write (.storeKeyringPrivateKeyPkcs8 user.val 1 (crypto.exportPkcs8 draws.pair)
    passphrase.val (some (drawnSpki crypto draws)) draws.wrap)

/-- The others leave the row of the call's device. -/
def SameDevice (s s' : BootState) : Prop := SameRow user.val draws.clientDeviceId.val s.db s'.db

/-- A command of the registration. -/
def RegistersDevice {β : Type} (c : BootCommand β) (s : BootState) : Prop :=
  match c with
  | .service c => RegistersKey user.val draws.clientDeviceId.val (drawnSpki crypto draws) c s.db
  | .profile _ => False

/-- The contract of what is left of the registration. -/
def Registering (s : BootState) (rest : BootProgram DevicePublicKey) : Prop :=
  Ensures (BootCommand.exec crypto) (SameDevice user draws) (RegistersDevice crypto user draws) rest
    (fun result s => result = drawnRow crypto draws ∧ OwnRow crypto user draws s) s

/-- Where a run stands that has found no keys, or has not looked yet. -/
inductive Stage (s : BootState) : BootProgram Unit → Prop where
  | opening (unused : UnusedId user s draws) :
      Stage s (ensureUserKeypairReadyForMessaging crypto user passphrase draws)
  | resumed (persistedDeviceId : Option String) (unused : UnusedId user s draws) :
      Stage s (ensureResumed crypto user passphrase draws persistedDeviceId)
  | listed (persistedDeviceId : Option String) (unused : UnusedId user s draws) :
      Stage s (ensureListed crypto user passphrase draws persistedDeviceId [])
  | registering (rest : BootProgram DevicePublicKey) (contract : Registering crypto user draws s rest)
      (unidentified : getStoredDeviceId s.storage user.val ≠ some draws.clientDeviceId.val) :
      Stage s (rest >>= storeGenerated crypto user passphrase draws)
  | storing (own : OwnRow crypto user draws s) : Stage s (storesKey crypto user passphrase draws)
  | ended (result : Except CryptoError Unit) : Stage s (.done result)

variable {crypto user passphrase draws} {s s' : BootState}

theorem FirstKey.of_unlisted {db : Database} {deviceId publicKey : String}
    (unlisted : ¬ Listed db user.val deviceId) (trimmed : EcmaText.trim deviceId = deviceId) :
    FirstKey user.val deviceId publicKey db := by
  left
  by_contra present
  obtain ⟨row, found⟩ := Option.ne_none_iff_exists'.mp present
  obtain ⟨member, own, device⟩ := isDevice_of_find found
  exact unlisted ⟨row, member, own, by rw [device, trimmed]⟩

/-- The registration of a drawn device keeps its contract over all its attempts. -/
theorem registerDevice_registering
    (first : FirstKey user.val draws.clientDeviceId.val (drawnSpki crypto draws) s.db) :
    Registering crypto user draws s (registerDevice user (drawnSpki crypto draws)
      draws.clientDeviceId.val draws) := by
  have attempt : ∀ s : BootState,
      FirstKey user.val draws.clientDeviceId.val (drawnSpki crypto draws) s.db →
      Ensures (BootCommand.exec crypto) (SameDevice user draws) (RegistersDevice crypto user draws)
        (BootProgram.request (registerOrUpdateDevice user.val (drawnSpki crypto draws)
          (some draws.clientDeviceId.val) none draws.uuid draws.now))
        (fun outcome s => toRegisterDeviceResponse outcome.document = drawnRow crypto draws ∧
          OwnRow crypto user draws s) s := by
    intro s first
    have contract := registerOrUpdateDevice_first user draws.clientDeviceId.trimmed
      draws.clientDeviceId.nonempty draws.uuid draws.now first
    exact @Ensures.hoist _ _ _ _ _ _ _ _ (BootCommand.exec crypto) BootCommand.service _ BootState.db _ _
      (SameDevice user draws) (RegistersDevice crypto user draws) (fun _ _ => ⟨rfl, rfl⟩)
      (fun _ _ moved => moved) (fun _ _ keeps => keeps) _ _ s contract
  unfold Registering registerDevice
  refine Ensures.bind (Ensures.retrying (fun _ _ moved first => moved.firstKey first) ?_ attempt
    draws.failedAttempts first) fun outcome s both => ?_
  · intro β c s keeps first
    cases c with
    | service c => exact keeps.2 first
    | profile c => exact keeps.elim
  · exact Ensures.pure both

/-- From `s` to `s'` only the row of the device and the stored device id have changed. -/
structure MovesOnly (user : UserId) (deviceId : String) (s s' : BootState) : Prop where
  rows : ∀ d, d ≠ deviceId → s'.db.findDeviceRow user.val d = s.db.findDeviceRow user.val d
  listed : ∀ d, Listed s'.db user.val d → d = deviceId ∨ Listed s.db user.val d
  identity : getStoredDeviceId s'.storage user.val = getStoredDeviceId s.storage user.val ∨
    getStoredDeviceId s'.storage user.val = some deviceId

/-- The ids that are listed after a command on a device. -/
theorem listed_onDevice {db : Database} {deviceId d : String} (trimmed : EcmaText.trim deviceId = deviceId)
    {β : Type} {c : ServerCommand β} (on : c.OnDevice user.val deviceId)
    (listed : Listed (c.exec db).2 user.val d) : d = deviceId ∨ Listed db user.val d := by
  obtain ⟨row, member, own, same⟩ := listed
  cases c with
  | findDevice u device => exact .inr ⟨row, member, own, same⟩
  | insertDevice doc =>
    rcases @findDeviceRow_insert db _ _ doc rfl rfl with ⟨-, -, refused⟩ | ⟨-, added, -⟩
    · rw [refused] at member
      exact .inr ⟨row, member, own, same⟩
    · rw [added] at member
      rcases List.mem_append.mp member with old | new
      · exact .inr ⟨row, old, own, same⟩
      · obtain rfl := List.mem_singleton.mp new
        left
        rw [← same, on.2, trimmed]
  | updateDevice u device patch =>
    rcases Collection.mem_updateFirst member with old | ⟨before, old, rfl⟩
    · exact .inr ⟨row, old, own, same⟩
    · exact .inr ⟨before, old, own, same⟩
  | deleteDevice u device => exact .inr ⟨row, List.mem_of_mem_eraseP member, own, same⟩
  | _ => exact on.elim

theorem MovesOnly.refl (user : UserId) (deviceId : String) (s : BootState) : MovesOnly user deviceId s s :=
  ⟨fun _ _ => rfl, fun _ listed => .inr listed, .inl rfl⟩

theorem MovesOnly.service {deviceId : String} (trimmed : EcmaText.trim deviceId = deviceId) {β : Type}
    {c : ServerCommand β} (on : c.OnDevice user.val deviceId) :
    MovesOnly user deviceId s { s with db := (c.exec s.db).2 } := by
  refine ⟨fun d different => ?_, fun d listed => listed_onDevice trimmed on listed, .inl rfl⟩
  exact findDeviceRow_other on (by simp [different])

theorem UnusedId.moves {other : String} (unused : UnusedId user s draws) (moves : MovesOnly user other s s')
    (different : draws.clientDeviceId.val ≠ other) : UnusedId user s' draws := by
  obtain ⟨unlisted, unidentified⟩ := unused
  refine ⟨fun listed => ?_, fun identity => ?_⟩
  · rcases moves.listed _ listed with same | before
    · exact different same
    · exact unlisted before
  · rcases moves.identity with kept | changed
    · exact unidentified (kept.symm.trans identity)
    · exact different (Option.some.inj (identity.symm.trans changed))

theorem OwnRow.moves {other : String} (own : OwnRow crypto user draws s) (moves : MovesOnly user other s s')
    (different : draws.clientDeviceId.val ≠ other) : OwnRow crypto user draws s' := by
  unfold OwnRow Database.storedKey at own ⊢
  rw [moves.rows _ different, own]

/-- A stage is stable under the steps of another run. -/
theorem Stage.moves {other : String} {p : BootProgram Unit} (stage : Stage crypto user passphrase draws s p)
    (moves : MovesOnly user other s s') (different : draws.clientDeviceId.val ≠ other) :
    Stage crypto user passphrase draws s' p := by
  cases stage with
  | opening unused => exact .opening (unused.moves moves different)
  | resumed persistedDeviceId unused => exact .resumed persistedDeviceId (unused.moves moves different)
  | listed persistedDeviceId unused => exact .listed persistedDeviceId (unused.moves moves different)
  | registering rest contract unidentified =>
    refine .registering rest ?_ fun identity => ?_
    · refine Ensures.stable (fun a b c first second => second.trans first) (fun _ a b moved both => ?_)
        (moves.rows _ different) contract
      refine ⟨both.1, ?_⟩
      have own := both.2
      unfold OwnRow Database.storedKey at own ⊢
      rw [moved, own]
    · rcases moves.identity with kept | changed
      · exact unidentified (kept.symm.trans identity)
      · exact different (Option.some.inj (identity.symm.trans changed))
  | storing own => exact .storing (own.moves moves different)
  | ended result => exact .ended result

/-- What one step of a run does. -/
inductive Advance (crypto : WebCrypto PublicKey PrivateKey Seed) (user : UserId)
    (passphrase : AcceptedPassphrase) (draws : EnsureDraws PrivateKey) (s : BootState)
    (p : BootProgram Unit) (s' : BootState) (p' : BootProgram Unit) : Prop where
  | keysFound (persistedDeviceId : Option String)
      (keyed : listKeyringVersions s.storage user.val ≠ []) (same : s' = s)
      (rest : p' = ensureListed crypto user passphrase draws persistedDeviceId
        (listKeyringVersions s.storage user.val)) (plain : aboutToStore p = false)
  | silent (stage : Stage crypto user passphrase draws s' p')
      (moves : MovesOnly user draws.clientDeviceId.val s s') (storage : s'.storage = s.storage)
      (wf : s.db.WellFormed → s'.db.WellFormed)
      (unidentified : getStoredDeviceId s.storage user.val ≠ some draws.clientDeviceId.val)
      (plain : aboutToStore p = false)
  | identifies (rest : p' = storesKey crypto user passphrase draws) (own : OwnRow crypto user draws s)
      (identity : getStoredDeviceId s'.storage user.val = some draws.clientDeviceId.val)
      (keyring : s'.storage.keyring = s.storage.keyring) (db : s'.db = s.db)
      (plain : aboutToStore p = false)
  | stores (row : KeyringPrivateKeyRow) (about : aboutToStore p = true)
      (own : OwnRow crypto user draws s) (storage : s'.storage = s.storage.withRow user.val 1 row)
      (db : s'.db = s.db) (spki : row.publicKeySpkiB64 = some (drawnSpki crypto draws))
      (held : heldKey crypto s'.storage user.val passphrase.val 1 = some draws.pair)
      (done : p' = .done (.ok ()))

theorem generateKeypair_stage (unused : UnusedId user s draws) (persistedDeviceId : Option String)
    (deviceList : List DevicePublicKey) : Stage crypto user passphrase draws s
      (generateKeypair crypto user passphrase draws persistedDeviceId deviceList) := by
  unfold generateKeypair
  extract_lets persistedTrim localDeviceMatchesServer publicKeyB64
  cases decide (¬ (deviceList ≠ [] ∧ localDeviceMatchesServer)) with
  | false => exact .ended _
  | true =>
    have first : FirstKey user.val draws.clientDeviceId.val (drawnSpki crypto draws) s.db :=
      .of_unlisted unused.1 draws.clientDeviceId.trimmed
    exact .registering _ (registerDevice_registering first) unused.2

theorem ensure_command : ensureUserKeypairReadyForMessaging crypto user passphrase draws =
    .command (.profile (.getStoredDeviceId user.val)) fun persistedDeviceId =>
      ensureResumed crypto user passphrase draws persistedDeviceId := by
  unfold ensureUserKeypairReadyForMessaging ensureResumed BootProgram.profile
  simp only [perform_bind]

theorem ensureResumed_command (persistedDeviceId : Option String) :
    ensureResumed crypto user passphrase draws persistedDeviceId =
      .command (.profile (.listKeyringVersions user.val)) fun versions =>
        ensureListed crypto user passphrase draws persistedDeviceId versions := by
  unfold ensureResumed BootProgram.profile
  simp only [perform_bind]

theorem ensureListed_command (persistedDeviceId : Option String) (versions : List Nat) :
    ensureListed crypto user passphrase draws persistedDeviceId versions =
      .command (.service (.listDevices user.val)) fun docs =>
        match versions.max? with
        | some maxV => alignKeyring user draws (toDevicePublicKeysListResponse docs) maxV
        | none => generateKeypair crypto user passphrase draws persistedDeviceId
            (toDevicePublicKeysListResponse docs) := by
  unfold ensureListed
  rw [listUserDevicePublicKeys_command, command_bind]
  rfl

/-- Storing the device id leaves the key to be stored. -/
theorem storeGenerated_command : storeGenerated crypto user passphrase draws (drawnRow crypto draws) =
    .command (.profile (.setStoredDeviceId user.val draws.clientDeviceId.val)) fun written =>
      (Program.done written : BootProgram Unit) >>= fun _ => storesKey crypto user passphrase draws := by
  unfold storeGenerated exportPrivateKeyPkcs8Base64
  simp only [base64ToArrayBuffer_encode]
  rfl

theorem Stage.advance (ideal : crypto.Ideal) {p : BootProgram Unit}
    (stage : Stage crypto user passphrase draws s p) {β : Type} {c : BootCommand β}
    {next : β → BootProgram Unit} (running : p = .command c next) :
    Advance crypto user passphrase draws s p (c.exec crypto s).2 (next (c.exec crypto s).1) := by
  have id := draws.clientDeviceId.trimmed
  cases stage with
  | opening unused =>
    rw [ensure_command] at running ⊢
    cases running
    exact .silent (.resumed _ unused) (.refl _ _ s) rfl (fun wf => wf) unused.2 rfl
  | resumed persistedDeviceId unused =>
    rw [ensureResumed_command] at running ⊢
    cases running
    simp only [BootCommand.exec, ProfileCommand.exec]
    by_cases unkeyed : listKeyringVersions s.storage user.val = []
    · rw [unkeyed]
      exact .silent (.listed persistedDeviceId unused) (.refl _ _ s) rfl (fun wf => wf) unused.2 rfl
    · exact .keysFound persistedDeviceId unkeyed rfl rfl rfl
  | listed persistedDeviceId unused =>
    rw [ensureListed_command] at running ⊢
    cases running
    exact .silent (generateKeypair_stage unused _ _) (.refl _ _ s) rfl (fun wf => wf) unused.2 rfl
  | registering rest contract unidentified =>
    cases rest with
    | done result =>
      cases result with
      | error e => cases running
      | ok result =>
        obtain ⟨rfl, own⟩ := ensures_result.mp contract
        rw [done_bind, storeGenerated_command] at running ⊢
        cases running
        obtain ⟨after, written, keyring, -, identity⟩ := @getStoredDeviceId_set s.storage user.val
          draws.clientDeviceId.val id draws.clientDeviceId.nonempty
        simp only [BootCommand.exec, ProfileCommand.exec, written, writeProfile, done_bind]
        exact .identifies rfl own identity keyring rfl rfl
    | command c' next' =>
      rw [command_bind] at running ⊢
      cases running
      obtain ⟨keeps, rest⟩ := ensures_command.mp contract s rfl
      cases c with
      | profile c => exact keeps.elim
      | service c =>
        exact .silent (.registering _ rest unidentified) (.service id keeps.1) rfl
          (fun wf => ServerCommand.exec_wellFormed c s.db wf) unidentified rfl
  | storing own =>
    cases running
    obtain ⟨pass, normal, stored⟩ := @storeKeyring_row _ _ _ crypto s.storage user.val passphrase.val 1
      (crypto.exportPkcs8 draws.pair) (some (drawnSpki crypto draws)) draws.wrap (Nat.le_refl 1)
      passphrase.accepted
    simp only [BootCommand.exec, ProfileCommand.exec, stored, writeProfile]
    exact .stores _ rfl own rfl rfl rfl ((heldKey_withRow ideal normal).trans (ideal.import_exportPkcs8 _)) rfl
  | ended result => cases running

end Stages

end MessagingSystem.Protocol
