import MessagingSystem.Protocol.KeypairBootstrap

/-!
# Bootstraps of a profile that has keys

Any number of runs that find a key in the keyring: they write no keyring row, and
what they register is the active key under one device id, so each keeps the
profile recoverable for the others.
-/
namespace MessagingSystem.Protocol
open Foundation Source Source.Server Source.Client

section Directory

variable {userId deviceId spki : String} {db db' : Database}

/-- The device is registered with the key. -/
def RegisteredKey (userId deviceId spki : String) (db : Database) : Prop :=
  ∃ key, db.storedKey userId deviceId = some key ∧ key.publicKey = spki

/-- The device is registered with no other key. -/
def NoOtherKey (userId deviceId spki : String) (db : Database) : Prop :=
  ∀ key, db.storedKey userId deviceId = some key → key.publicKey = spki

/-- A change that can only register the key for the device. -/
structure OnlyRegisters (userId deviceId spki : String) (db db' : Database) : Prop where
  registered : RegisteredKey userId deviceId spki db → RegisteredKey userId deviceId spki db'
  present : db.storedKey userId deviceId ≠ none → db'.storedKey userId deviceId ≠ none
  noOther : NoOtherKey userId deviceId spki db → NoOtherKey userId deviceId spki db'

theorem OnlyRegisters.of_same (same : db'.storedKey userId deviceId = db.storedKey userId deviceId) :
    OnlyRegisters userId deviceId spki db db' := by
  refine ⟨?_, ?_, ?_⟩
  · unfold RegisteredKey
    rw [same]
    exact fun holds => holds
  · rw [same]
    exact fun holds => holds
  · unfold NoOtherKey
    rw [same]
    exact fun holds => holds

theorem OnlyRegisters.of_registered (registered : RegisteredKey userId deviceId spki db') :
    OnlyRegisters userId deviceId spki db db' := by
  obtain ⟨key, stored, same⟩ := registered
  refine ⟨fun _ => ⟨key, stored, same⟩, fun _ => by simp [stored], fun _ other held => ?_⟩
  rw [← Option.some.inj (stored.symm.trans held)]
  exact same

theorem OnlyRegisters.trans {db'' : Database} (first : OnlyRegisters userId deviceId spki db db')
    (second : OnlyRegisters userId deviceId spki db' db'') : OnlyRegisters userId deviceId spki db db'' :=
  ⟨fun h => second.registered (first.registered h), fun h => second.present (first.present h),
    fun h => second.noOther (first.noOther h)⟩

/-- The update that replaces the key of a row. -/
theorem storedKey_update {key : DevicePublicKey} (stored : db.storedKey userId deviceId = some key)
    {patch : DevicePatch} : ∃ key', (ServerCommand.exec (.updateDevice userId deviceId patch) db).2.storedKey
      userId deviceId = some key' ∧ key'.publicKey = patch.publicKey.getD key.publicKey := by
  obtain ⟨row, found, rfl⟩ := Option.map_eq_some_iff.mp stored
  unfold Database.storedKey
  rw [findDeviceRow_update, found]
  exact ⟨_, rfl, rfl⟩

open Program

/-- Registering a key under a device id that others may register with it as well. -/
theorem registerOrUpdateDevice_shared (user : UserId) (trimmed : EcmaText.trim deviceId = deviceId)
    (nonempty : deviceId ≠ "") (uuid : String) (now : Nat) :
    Ensures ServerCommand.exec (OnlyRegisters user.val deviceId spki)
      (fun c db => OnlyRegisters user.val deviceId spki db (c.exec db).2)
      (registerOrUpdateDevice user.val spki (some deviceId) none uuid now)
      (fun outcome db => outcome.document.deviceId = deviceId ∧ RegisteredKey user.val deviceId spki db)
      db := by
  have id : registeredDeviceId (some deviceId) uuid = deviceId := by
    simp [registeredDeviceId, trimmed, nonempty]
  have found_id : ∀ {db : Database} {row : UserPublicKeyDocument},
      db.findDeviceRow user.val deviceId = some row → row.deviceId = deviceId :=
    fun found => (isDevice_of_find found).2.2
  unfold registerOrUpdateDevice
  rw [id]
  refine Ensures.bind (Q := fun _ _ => True) (Ensures.require fun _ => trivial) fun _ db _ => ?_
  dsimp only
  rw [perform_bind]
  refine ensures_command.mpr fun db _ => ⟨.of_same rfl, ?_⟩
  have reads : ServerCommand.exec (.findDevice user.val deviceId) db =
      (db.findDeviceRow user.val deviceId, db) := rfl
  rw [reads]
  cases found : db.findDeviceRow user.val deviceId with
  | none =>
    dsimp only
    rw [perform_bind]
    refine ensures_command.mpr fun db' _ => ?_
    rcases @findDeviceRow_insert db' user.val deviceId (newDeviceRow user.val deviceId spki none now) rfl rfl
      with ⟨row, held, refused⟩ | ⟨-, added, stored⟩
    · unfold newDeviceRow at refused
      rw [refused]
      exact ⟨.of_same rfl, Ensures.fail _⟩
    · have key : RegisteredKey user.val deviceId spki (db'.setDevices (db'.userDevicePublicKeys ++
          [newDeviceRow user.val deviceId spki none now])) := by
        refine ⟨toRegisterDeviceResponse (newDeviceRow user.val deviceId spki none now), ?_, rfl⟩
        rw [Database.storedKey, stored, Option.map_some]
      unfold newDeviceRow at added key
      rw [added]
      exact ⟨.of_registered key, Ensures.pure ⟨rfl, key⟩⟩
  | some existing =>
    have present : db.storedKey user.val deviceId = some (toRegisterDeviceResponse existing) := by
      rw [Database.storedKey, found, Option.map_some]
    dsimp only
    by_cases same : existing.publicKey = spki
    · rw [if_pos same]
      have registered : RegisteredKey user.val deviceId spki db := ⟨_, present, same⟩
      unfold touchDevice relabelDevice
      simp only [Option.map_none, Program.pure_bind, perform_bind]
      refine ensures_command.mpr fun db' moved => ?_
      have touched : (ServerCommand.exec (.updateDevice user.val deviceId { lastSeenAt := now }) db').2.storedKey
          user.val deviceId = db'.storedKey user.val deviceId := by
        unfold Database.storedKey
        rw [findDeviceRow_update, Option.map_map]
        rfl
      refine ⟨.of_same touched, ?_⟩
      have kept := (OnlyRegisters.of_same touched).registered (moved.registered registered)
      refine ensures_command.mpr fun db'' moved => ⟨.of_same rfl, Ensures.pure ⟨?_, moved.registered kept⟩⟩
      cases refreshed : db''.findDeviceRow user.val deviceId with
      | none =>
        have read : (ServerCommand.exec (.findDevice user.val deviceId) db'').1 = none := refreshed
        rw [read]
        exact found_id found
      | some row =>
        have read : (ServerCommand.exec (.findDevice user.val deviceId) db'').1 = some row := refreshed
        rw [read]
        exact found_id refreshed
    · rw [if_neg same]
      simp only [perform_bind]
      refine ensures_command.mpr fun db' moved => ?_
      have there := moved.present (by simp [present])
      have written : RegisteredKey user.val deviceId spki (ServerCommand.exec (.updateDevice user.val deviceId
          { publicKey := some spki, keyVersion := some (existing.keyVersion.getD 1 + 1)
            deviceLabel := Option.map (fun l => if EcmaText.trim l ≠ "" then some (EcmaText.trim l) else none)
              none
            updatedAt := some now, lastSeenAt := now }) db').2 := by
        obtain ⟨row, stored⟩ := Option.ne_none_iff_exists'.mp there
        exact storedKey_update stored
      refine ⟨.of_registered written, ?_⟩
      refine ensures_command.mpr fun db'' moved => ⟨.of_same rfl, ?_⟩
      have kept := moved.registered written
      refine Ensures.bind (Q := fun document db => document.deviceId = deviceId ∧
        RegisteredKey user.val deviceId spki db)
        (Ensures.orFail fun document read => ⟨found_id read, kept⟩) fun document db both => ?_
      exact Ensures.pure both

end Directory

section Bootstrap

variable {PublicKey PrivateKey Seed : Type} (crypto : WebCrypto PublicKey PrivateKey Seed)
  (user : UserId) (passphrase : AcceptedPassphrase) (deviceId spki : String)

/-- What the runs leave of a profile with keys: the keyring stays, and a device id
is stored only when it is registered with the key. -/
structure AlignedMove (s s' : BootState) : Prop where
  keyring : s'.storage.keyring = s.storage.keyring
  wellFormed : s.db.WellFormed → s'.db.WellFormed
  directory : OnlyRegisters user.val deviceId spki s.db s'.db
  identity : getStoredDeviceId s'.storage user.val = getStoredDeviceId s.storage user.val ∨
    getStoredDeviceId s'.storage user.val = some deviceId ∧ RegisteredKey user.val deviceId spki s'.db

/-- The state of a profile with keys whose active SPKI is `spki` and whose device is `deviceId`. -/
structure AlignedState (s : BootState) : Prop where
  wellFormed : s.db.WellFormed
  active : activeSpki s.storage user.val = some spki
  identity : (getStoredDeviceId s.storage user.val = none ∧
      deviceId = Client.DEFAULT_SINGLE_DEVICE_ID) ∨
    getStoredDeviceId s.storage user.val = some deviceId ∧ NoOtherKey user.val deviceId spki s.db

variable {crypto user passphrase deviceId spki} {s s' : BootState} {draws : EnsureDraws PrivateKey}

theorem AlignedMove.refl (s : BootState) : AlignedMove user deviceId spki s s :=
  ⟨rfl, fun wf => wf, .of_same rfl, .inl rfl⟩

theorem AlignedMove.trans (a b c : BootState) (first : AlignedMove user deviceId spki a b)
    (second : AlignedMove user deviceId spki b c) : AlignedMove user deviceId spki a c := by
  refine ⟨second.keyring.trans first.keyring, fun wf => second.wellFormed (first.wellFormed wf),
    first.directory.trans second.directory, ?_⟩
  rcases second.identity with kept | set
  · rcases first.identity with before | set
    · exact .inl (kept.trans before)
    · exact .inr ⟨kept.trans set.1, second.directory.registered set.2⟩
  · exact .inr set

theorem activeSpki_keyring {storage storage' : KeyStorage} (same : storage'.keyring = storage.keyring)
    (userId : String) : activeSpki storage' userId = activeSpki storage userId := by
  unfold activeSpki listKeyringVersions getKeyringPublicSpkiOptional
  rw [same]

theorem AlignedState.moves (s s' : BootState) (moved : AlignedMove user deviceId spki s s')
    (state : AlignedState user deviceId spki s) : AlignedState user deviceId spki s' := by
  refine ⟨moved.wellFormed state.wellFormed, (activeSpki_keyring moved.keyring _).trans state.active, ?_⟩
  rcases moved.identity with kept | ⟨set, key, stored, same⟩
  · rw [kept]
    exact state.identity.imp_right fun both => ⟨both.1, moved.directory.noOther both.2⟩
  · refine .inr ⟨set, fun other held => ?_⟩
    rw [← Option.some.inj (stored.symm.trans held)]
    exact same

open Program

/-- The contract of what is left of a run. -/
def AlignedRun (crypto : WebCrypto PublicKey PrivateKey Seed) (user : UserId) (deviceId spki : String)
    {α : Type} (p : BootProgram α) (post : α → BootState → Prop) (s : BootState) : Prop :=
  Ensures (BootCommand.exec crypto) (AlignedMove user deviceId spki)
    (fun c s => AlignedMove user deviceId spki s (c.exec crypto s).2) p post s

theorem registerDevice_aligned (trimmed : EcmaText.trim deviceId = deviceId) (nonempty : deviceId ≠ "")
    (state : AlignedState user deviceId spki s) :
    AlignedRun crypto user deviceId spki (registerDevice user spki deviceId draws)
      (fun result s => (result.deviceId = deviceId ∧ RegisteredKey user.val deviceId spki s.db) ∧
        AlignedState user deviceId spki s) s := by
  have attempt : ∀ s : BootState, AlignedState user deviceId spki s →
      AlignedRun crypto user deviceId spki (BootProgram.request (registerOrUpdateDevice user.val spki
        (some deviceId) none draws.uuid draws.now)) (fun outcome s =>
          (outcome.document.deviceId = deviceId ∧ RegisteredKey user.val deviceId spki s.db) ∧
            AlignedState user deviceId spki s) s := by
    intro s state
    have contract := @registerOrUpdateDevice_shared deviceId spki s.db user trimmed nonempty draws.uuid
      draws.now
    have requested := @Ensures.hoist _ _ _ _ _ _ _ _ (BootCommand.exec crypto) BootCommand.service
      (fun e : AppError => CryptoError.error e.message) BootState.db _ _
      (AlignedMove user deviceId spki) (fun c s => AlignedMove user deviceId spki s (c.exec crypto s).2)
      (fun _ _ => ⟨rfl, rfl⟩) (fun _ _ moved => moved.directory)
      (fun c s only => ⟨rfl, fun wf => ServerCommand.exec_wellFormed c s.db wf, only, .inl rfl⟩) _ _ s contract
    exact requested.frame AlignedState.moves (fun c s moved state => state.moves _ _ moved) state
  unfold registerDevice
  refine Ensures.bind (Ensures.retrying AlignedState.moves (fun c s moved state => state.moves _ _ moved)
    attempt draws.failedAttempts state) fun outcome s both => ?_
  exact Ensures.pure both

/-- The end of a run in a profile with keys, whatever list of devices it has read. -/
theorem alignKeyring_run (trimmed : EcmaText.trim deviceId = deviceId) (nonempty : deviceId ≠ "")
    (plain : EcmaText.trim spki = spki) {maxV : Nat}
    (stored : getKeyringPublicSpkiOptional s.storage user.val maxV = some spki)
    (deviceList : List DevicePublicKey) (state : AlignedState user deviceId spki s) :
    AlignedRun crypto user deviceId spki (alignKeyring user draws deviceList maxV) (fun _ _ => True) s := by
  unfold alignKeyring BootProgram.write BootProgram.profile AlignedRun
  simp only [perform_bind]
  refine ensures_command.mpr fun s' moved => ⟨.refl s', ?_⟩
  have state := state.moves _ _ moved
  have reads : (BootCommand.exec crypto (.profile (.getKeyringPublicSpkiOptional user.val maxV)) s').1 =
      some spki := by
    rw [← stored]
    unfold getKeyringPublicSpkiOptional
    rw [← moved.keyring]
    rfl
  rw [reads, Option.getD_some, plain]
  refine Ensures.bind (Q := fun _ s => AlignedState user deviceId spki s)
    (Ensures.require fun _ => state) fun _ s state => ?_
  refine ensures_command.mpr fun s' moved => ⟨.refl s', ?_⟩
  have state := state.moves _ _ moved
  have reads : (BootCommand.exec crypto (.profile (.getStoredDeviceId user.val)) s').1 =
      getStoredDeviceId s'.storage user.val := rfl
  rw [reads]
  have device : (getStoredDeviceId s'.storage user.val).getD Client.DEFAULT_SINGLE_DEVICE_ID = deviceId := by
    rcases state.identity with ⟨none, same⟩ | ⟨some, -⟩
    · rw [none, same]
      rfl
    · rw [some]
      rfl
  split
  · rw [device]
    refine Ensures.bind (registerDevice_aligned trimmed nonempty state) fun result s both => ?_
    obtain ⟨⟨same, registered⟩, state⟩ := both
    refine ensures_command.mpr fun s' moved => ?_
    obtain ⟨after, written, keyring, -, identity⟩ := @getStoredDeviceId_set s'.storage user.val deviceId
      trimmed nonempty
    have set : BootCommand.exec crypto (.profile (.setStoredDeviceId user.val result.deviceId)) s' =
        (.ok (), { s' with storage := after }) := by
      simp only [BootCommand.exec, ProfileCommand.exec, same, written, writeProfile]
    rw [set]
    exact ⟨⟨keyring, fun wf => wf, .of_same rfl, .inr ⟨identity, moved.directory.registered registered⟩⟩,
      Ensures.pure trivial⟩
  · exact Ensures.require fun _ => trivial

/-- A run in a profile with keys, from wherever the others leave it. -/
theorem ensure_aligned (trimmed : EcmaText.trim deviceId = deviceId) (nonempty : deviceId ≠ "")
    (plain : EcmaText.trim spki = spki) (state : AlignedState user deviceId spki s) :
    AlignedRun crypto user deviceId spki
      (ensureUserKeypairReadyForMessaging crypto user passphrase draws) (fun _ _ => True) s := by
  unfold ensureUserKeypairReadyForMessaging ensureListed BootProgram.profile AlignedRun
  simp only [perform_bind, listUserDevicePublicKeys_command, command_bind, done_bind]
  refine ensures_command.mpr fun s moved => ⟨.refl s, ?_⟩
  have state := state.moves _ _ moved
  refine ensures_command.mpr fun s moved => ⟨.refl s, ?_⟩
  have state := state.moves _ _ moved
  have active := state.active
  obtain ⟨maxV, highest, stored⟩ := Option.bind_eq_some_iff.mp state.active
  have reads : (BootCommand.exec crypto (.profile (.listKeyringVersions user.val)) s).1 =
    listKeyringVersions s.storage user.val := rfl
  rw [reads, highest]
  refine ensures_command.mpr fun s' moved => ⟨.refl s', ?_⟩
  have kept : getKeyringPublicSpkiOptional s'.storage user.val maxV = some spki := by
    rw [← stored]
    unfold getKeyringPublicSpkiOptional
    rw [moved.keyring]
    rfl
  exact alignKeyring_run trimmed nonempty plain kept _ (state.moves _ _ moved)

end Bootstrap

end MessagingSystem.Protocol
