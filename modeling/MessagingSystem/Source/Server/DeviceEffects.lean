import MessagingSystem.Source.Server.ProgramEffects

/-!
# What a registration does to the directory

The listing leaves the store alone. A new public key for a registered device
replaces the key of its row and raises the version by one.
-/
namespace MessagingSystem.Source.Server
open Foundation

/-- The update of a registration with another key. -/
def keyPatch (publicKey : String) (now : Nat) (row : UserPublicKeyDocument) : DevicePatch where
  publicKey := some publicKey
  keyVersion := some (row.keyVersion.getD 1 + 1)
  updatedAt := some now
  lastSeenAt := now

/-- The row of a device after it. -/
def replacedKey (publicKey : String) (now : Nat) (row : UserPublicKeyDocument) :
    UserPublicKeyDocument := (keyPatch publicKey now row).apply row

theorem replacedKey_fields (publicKey : String) (now : Nat) (row : UserPublicKeyDocument) :
    (replacedKey publicKey now row).publicKey = publicKey ∧
    (replacedKey publicKey now row).deviceId = row.deviceId ∧
    (replacedKey publicKey now row).keyVersion = some (row.keyVersion.getD 1 + 1) :=
  ⟨rfl, rfl, rfl⟩

theorem findDevicePublicKeysByUserId_exec (u : UserId) (db : Database) :
    ServerProgram.exec (findDevicePublicKeysByUserId u.val) db =
      (.ok ((db.userDevicePublicKeys.filter fun d => d.userId = u.val).insertionSort
        fun a b => b.updatedAt ≤ a.updatedAt), db) := by
  unfold findDevicePublicKeysByUserId
  simp only [u.trim_val, u.nonempty, if_false]
  rfl

/-- A registration of another key for a registered device replaces the key. -/
theorem registerOrUpdateDevice_updates (u : UserId) {db : Database} {publicKey deviceId : String}
    (uuid : String) (now : Nat) {row : UserPublicKeyDocument}
    (trimmed : EcmaText.trim deviceId = deviceId) (nonempty : deviceId ≠ "")
    (short : EcmaText.codeUnitLength deviceId ≤ 128)
    (found : db.findDeviceRow u.val deviceId = some row) (differs : row.publicKey ≠ publicKey) :
    ∃ db', ServerProgram.exec
        (registerOrUpdateDevice u.val publicKey (some deviceId) none uuid now) db =
        (.ok ⟨replacedKey publicKey now row, false⟩, db') ∧
      db'.findDeviceRow u.val deviceId = some (replacedKey publicKey now row) := by
  have id : registeredDeviceId (some deviceId) uuid = deviceId := by
    simp [registeredDeviceId, trimmed, nonempty]
  have updated : (db.setDevices (Collection.updateFirst (Database.isDevice u.val deviceId)
      (keyPatch publicKey now row).apply db.userDevicePublicKeys)).findDeviceRow u.val deviceId =
        some (replacedKey publicKey now row) := by
    have kept : (Collection.updateFirst (Database.isDevice u.val deviceId)
        (keyPatch publicKey now row).apply db.userDevicePublicKeys).find?
          (Database.isDevice u.val deviceId) =
        (db.userDevicePublicKeys.find? (Database.isDevice u.val deviceId)).map
          (keyPatch publicKey now row).apply := by
      refine Collection.find_updateFirst_self ?_ _
      exact fun d matched => matched
    unfold Database.findDeviceRow at found ⊢
    rw [found] at kept
    exact kept
  refine ⟨_, ?_, updated⟩
  unfold keyPatch at updated ⊢
  unfold registerOrUpdateDevice ServerProgram.exec
  simp only [id, short, decide_true, Program.run_bind, Program.run_require, Program.run_perform,
    if_true, Option.map_none, ServerCommand.exec, found, differs, if_false, updated,
    Program.run_orFail, Program.run_pure]

section StoredKey

/-- The key a device's row holds, as a response shows it. -/
def Database.storedKey (db : Database) (userId deviceId : String) : Option DevicePublicKey :=
  (db.findDeviceRow userId deviceId).map toRegisterDeviceResponse

/-- The commands a registration or deletion of one device executes. -/
def ServerCommand.OnDevice (userId deviceId : String) {β : Type} : ServerCommand β → Prop
  | .findDevice u d => u = userId ∧ d = deviceId
  | .insertDevice doc => doc.userId = userId ∧ doc.deviceId = deviceId
  | .updateDevice u d patch => u = userId ∧ d = deviceId ∧
      (patch.publicKey.isSome = true ↔ patch.keyVersion.isSome = true)
  | .deleteDevice u d => u = userId ∧ d = deviceId
  | _ => False

/-- The key an insert brings. -/
def ServerCommand.insertedKey {β : Type} : ServerCommand β → Option DevicePublicKey
  | .insertDevice doc => some (toRegisterDeviceResponse doc)
  | _ => none

/-- The key an update sets, with its version. -/
def ServerCommand.replacingKey {β : Type} : ServerCommand β → Option DevicePublicKey
  | .updateDevice _ deviceId patch =>
      match patch.publicKey, patch.keyVersion with
      | some publicKey, some keyVersion => some ⟨deviceId, publicKey, keyVersion⟩
      | _, _ => none
  | _ => none

def ServerCommand.deletes {β : Type} : ServerCommand β → Bool
  | .deleteDevice .. => true
  | _ => false

variable {db : Database} {userId deviceId : String}

theorem isDevice_of_find {row : UserPublicKeyDocument} (found : db.findDeviceRow userId deviceId = some row) :
    row ∈ db.userDevicePublicKeys ∧ row.userId = userId ∧ row.deviceId = deviceId := by
  have matched := List.find?_some found
  simp only [Database.isDevice, Bool.and_eq_true, decide_eq_true_eq] at matched
  exact ⟨List.mem_of_find?_eq_some found, matched⟩

/-- An update changes the row of its device. -/
theorem findDeviceRow_update (patch : DevicePatch) :
    (ServerCommand.exec (.updateDevice userId deviceId patch) db).2.findDeviceRow userId deviceId =
      (db.findDeviceRow userId deviceId).map patch.apply := by
  have keeps : ∀ d, Database.isDevice userId deviceId d = true →
      Database.isDevice userId deviceId (patch.apply d) = true := fun _ matched => matched
  exact Collection.find_updateFirst_self keeps db.userDevicePublicKeys

/-- A deletion leaves no row of its device. -/
theorem findDeviceRow_delete (wf : db.WellFormed) :
    (ServerCommand.exec (.deleteDevice userId deviceId) db).2.findDeviceRow userId deviceId = none := by
  refine Collection.find_eraseP wf.deviceKeys (userId, deviceId) fun d _ matched => ?_
  simpa [Database.isDevice] using matched

/-- An insert stores the row, unless the device has one already. -/
theorem findDeviceRow_insert {doc : UserPublicKeyDocument} (named : doc.userId = userId)
    (device : doc.deviceId = deviceId) :
    (∃ row, db.findDeviceRow userId deviceId = some row ∧
        ServerCommand.exec (.insertDevice doc) db = (false, db)) ∨
      (db.findDeviceRow userId deviceId = none ∧
        ServerCommand.exec (.insertDevice doc) db =
          (true, db.setDevices (db.userDevicePublicKeys ++ [doc])) ∧
        (db.setDevices (db.userDevicePublicKeys ++ [doc])).findDeviceRow userId deviceId = some doc) := by
  subst named device
  cases found : db.findDeviceRow doc.userId doc.deviceId with
  | some row =>
    left
    obtain ⟨held, sameUser, sameDevice⟩ := isDevice_of_find found
    have taken : Collection.insertUnique (fun d : UserPublicKeyDocument => (d.userId, d.deviceId)) doc
        db.userDevicePublicKeys = none :=
      if_pos (List.mem_map.mpr ⟨row, held, by rw [sameUser, sameDevice]⟩)
    refine ⟨row, rfl, ?_⟩
    simp only [ServerCommand.exec, taken]
  | none =>
    right
    have absent := List.find?_eq_none.mp found
    have free : Collection.insertUnique (fun d : UserPublicKeyDocument => (d.userId, d.deviceId)) doc
        db.userDevicePublicKeys = some (db.userDevicePublicKeys ++ [doc]) := by
      refine if_neg fun taken => ?_
      obtain ⟨row, held, same⟩ := List.mem_map.mp taken
      apply absent row held
      simpa [Database.isDevice] using same
    refine ⟨rfl, ?_, ?_⟩
    · simp only [ServerCommand.exec, free]
    · unfold Database.findDeviceRow at found ⊢
      simp [Database.setDevices, List.find?_append, found, Database.isDevice]

theorem isDevice_disjoint {otherUser otherDevice : String}
    (different : (otherUser, otherDevice) ≠ (userId, deviceId)) (d : UserPublicKeyDocument)
    (matched : Database.isDevice userId deviceId d = true) :
    Database.isDevice otherUser otherDevice d = false := by
  rw [Bool.eq_false_iff]
  intro also
  simp only [Database.isDevice, Bool.and_eq_true, decide_eq_true_eq] at matched also
  exact different (by rw [← also.1, ← also.2, matched.1, matched.2])

/-- A command on a device leaves the rows of the other devices. -/
theorem findDeviceRow_other {β : Type} {c : ServerCommand β} (on : c.OnDevice userId deviceId)
    {otherUser otherDevice : String} (different : (otherUser, otherDevice) ≠ (userId, deviceId)) :
    (c.exec db).2.findDeviceRow otherUser otherDevice = db.findDeviceRow otherUser otherDevice := by
  have disjoint := isDevice_disjoint different
  cases c with
  | findDevice u d => rfl
  | insertDevice doc =>
    obtain ⟨user, device⟩ := on
    have itself : Database.isDevice userId deviceId doc = true := by
      simp [Database.isDevice, user, device]
    rcases @findDeviceRow_insert db _ _ _ user device with ⟨row, -, refused⟩ | ⟨-, added, -⟩
    · rw [refused]
    · rw [added]
      simp [Database.findDeviceRow, Database.setDevices, List.find?_append, disjoint doc itself]
  | updateDevice u d patch =>
    obtain ⟨rfl, rfl, -⟩ := on
    exact Collection.find_updateFirst_other
      (fun row matched => ⟨disjoint row matched, disjoint (patch.apply row) matched⟩) _
  | deleteDevice u d =>
    obtain ⟨rfl, rfl⟩ := on
    exact Collection.find_eraseP_other disjoint _
  | _ => exact on.elim

/-- The stored key after a command on the device. -/
theorem storedKey_exec (wf : db.WellFormed) {β : Type} {c : ServerCommand β}
    (on : c.OnDevice userId deviceId) :
    (c.exec db).2.storedKey userId deviceId =
      match db.storedKey userId deviceId with
      | none => c.insertedKey
      | some row => if c.deletes then none else some (c.replacingKey.getD row) := by
  cases c with
  | findDevice u d => cases held : db.storedKey userId deviceId <;> exact held
  | insertDevice doc =>
    obtain ⟨user, device⟩ := on
    rcases findDeviceRow_insert user device with ⟨row, found, refused⟩ | ⟨absent, added, stored⟩
    · rw [refused]
      simp [Database.storedKey, found, ServerCommand.deletes, ServerCommand.replacingKey]
    · rw [added]
      simp [Database.storedKey, absent, stored, ServerCommand.insertedKey]
  | updateDevice u d patch =>
    obtain ⟨rfl, rfl, both⟩ := on
    unfold Database.storedKey
    rw [findDeviceRow_update]
    cases found : db.findDeviceRow u d with
    | none => rfl
    | some row =>
      have device := (isDevice_of_find found).2.2
      cases key : patch.publicKey with
      | none =>
        have version : patch.keyVersion = none := by simpa [key] using both
        simp [ServerCommand.deletes, ServerCommand.replacingKey, key, toRegisterDeviceResponse,
          DevicePatch.apply, version]
      | some publicKey =>
        obtain ⟨version, same⟩ := Option.isSome_iff_exists.mp (both.mp (by simp [key]))
        simp [ServerCommand.deletes, ServerCommand.replacingKey, key, toRegisterDeviceResponse,
          DevicePatch.apply, same, device]
  | deleteDevice u d =>
    obtain ⟨rfl, rfl⟩ := on
    unfold Database.storedKey
    rw [findDeviceRow_delete wf]
    cases found : db.findDeviceRow u d <;> rfl
  | _ => exact on.elim

section Commands

open Program

theorem touchDevice_onDevice (existing : UserPublicKeyDocument) (label : Option (Option String))
    (now : Nat) :
    Forall (ServerCommand.OnDevice userId deviceId) (touchDevice userId deviceId existing label now) := by
  have find : Forall (ServerCommand.OnDevice userId deviceId)
      (perform (.findDevice userId deviceId) : ServerProgram _) := forall_perform.mpr ⟨rfl, rfl⟩
  have update : ∀ patch : DevicePatch, (patch.publicKey.isSome = true ↔ patch.keyVersion.isSome = true) →
      Forall (ServerCommand.OnDevice userId deviceId)
        (perform (.updateDevice userId deviceId patch) : ServerProgram _) :=
    fun patch both => forall_perform.mpr ⟨rfl, rfl, both⟩
  unfold touchDevice relabelDevice
  refine .bind ?_ fun relabeled => ?_
  · split
    · exact forall_pure _
    · split
      · exact forall_pure _
      · exact .bind (update _ (by simp)) fun _ => find
  · cases relabeled with
    | some document => exact forall_pure _
    | none => exact .bind (update _ (by simp)) fun _ => .bind find fun _ => forall_pure _

theorem registerOrUpdateDevice_onDevice (userId publicKey : String)
    (clientDeviceId deviceLabel : Option String) (uuid : String) (now : Nat) :
    Forall (ServerCommand.OnDevice userId (registeredDeviceId clientDeviceId uuid))
      (registerOrUpdateDevice userId publicKey clientDeviceId deviceLabel uuid now) := by
  unfold registerOrUpdateDevice
  refine .bind (forall_require _ _) fun _ => .bind (forall_perform.mpr ⟨rfl, rfl⟩) fun existing => ?_
  cases existing with
  | none =>
    exact .bind (forall_perform.mpr ⟨rfl, rfl⟩) fun inserted => .bind (forall_require _ _) fun _ =>
      forall_pure _
  | some existing =>
    dsimp only
    split
    · exact touchDevice_onDevice existing _ now
    · exact .bind (forall_perform.mpr ⟨rfl, rfl, by simp⟩) fun _ =>
        .bind (forall_perform.mpr ⟨rfl, rfl⟩) fun _ => .bind (forall_orFail _ _) fun _ => forall_pure _

/-- A registration leaves the rows of the other devices. -/
theorem registerOrUpdateDevice_other (publicKey : String) (clientDeviceId deviceLabel : Option String)
    (uuid : String) (now : Nat) {otherUser otherDevice : String}
    (different : (otherUser, otherDevice) ≠ (userId, registeredDeviceId clientDeviceId uuid)) :
    (ServerProgram.exec (registerOrUpdateDevice userId publicKey clientDeviceId deviceLabel uuid now)
      db).2.findDeviceRow otherUser otherDevice = db.findDeviceRow otherUser otherDevice :=
  (registerOrUpdateDevice_onDevice userId publicKey clientDeviceId deviceLabel uuid now).run_invariant
    (I := fun db' : Database => db'.findDeviceRow otherUser otherDevice = db.findDeviceRow otherUser otherDevice)
    (fun _ _ on same => (findDeviceRow_other on different).trans same) rfl

/-- The row a first registration stores. -/
def newDeviceRow (userId deviceId publicKey : String) (deviceLabel : Option String) (now : Nat) :
    UserPublicKeyDocument :=
  { userId := userId
    deviceId := deviceId
    publicKey := publicKey
    deviceLabel := (deviceLabel.map fun l =>
      if EcmaText.trim l ≠ "" then some (EcmaText.trim l) else none).getD none
    lastSeenAt := some now
    createdAt := now
    updatedAt := now
    keyVersion := some 1 }

/-- A registration of a device without a row stores its row. -/
theorem registerOrUpdateDevice_inserts (publicKey : String) (clientDeviceId deviceLabel : Option String)
    (uuid : String) (now : Nat)
    (short : EcmaText.codeUnitLength (registeredDeviceId clientDeviceId uuid) ≤ 128)
    (missing : db.findDeviceRow userId (registeredDeviceId clientDeviceId uuid) = none) :
    ServerProgram.exec (registerOrUpdateDevice userId publicKey clientDeviceId deviceLabel uuid now) db =
      (.ok ⟨newDeviceRow userId (registeredDeviceId clientDeviceId uuid) publicKey deviceLabel now, true⟩,
        db.setDevices (db.userDevicePublicKeys ++
          [newDeviceRow userId (registeredDeviceId clientDeviceId uuid) publicKey deviceLabel now])) := by
  have inserts := @findDeviceRow_insert db _ _ (newDeviceRow userId
    (registeredDeviceId clientDeviceId uuid) publicKey deviceLabel now) rfl rfl
  rcases inserts with ⟨row, held, -⟩ | ⟨-, added, -⟩
  · cases missing.symm.trans held
  · unfold newDeviceRow at added ⊢
    unfold registerOrUpdateDevice ServerProgram.exec
    simp only [Program.run_bind, Program.run_require, short, decide_true, if_true, Program.run_perform,
      show ServerCommand.exec (.findDevice userId (registeredDeviceId clientDeviceId uuid)) db =
        (none, db) from congrArg (·, db) missing, added, Program.run_pure]

/-- A registration of a device without a row stores its row, or it fails and
leaves the store. -/
theorem registerOrUpdateDevice_missing (publicKey : String) (clientDeviceId deviceLabel : Option String)
    (uuid : String) (now : Nat)
    (missing : db.findDeviceRow userId (registeredDeviceId clientDeviceId uuid) = none) :
    (∃ e, ServerProgram.exec (registerOrUpdateDevice userId publicKey clientDeviceId deviceLabel uuid now)
        db = (.error e, db)) ∨
      ∃ doc, doc.publicKey = publicKey ∧ doc.keyVersion = some 1 ∧
        doc.deviceId = registeredDeviceId clientDeviceId uuid ∧
        ServerProgram.exec (registerOrUpdateDevice userId publicKey clientDeviceId deviceLabel uuid now)
          db = (.ok ⟨doc, true⟩, db.setDevices (db.userDevicePublicKeys ++ [doc])) := by
  by_cases short : EcmaText.codeUnitLength (registeredDeviceId clientDeviceId uuid) ≤ 128
  · right
    exact ⟨_, rfl, rfl, rfl,
      registerOrUpdateDevice_inserts publicKey clientDeviceId deviceLabel uuid now short missing⟩
  · left
    refine ⟨⟨"INVALID_REQUEST", 400, "deviceId is too long"⟩, ?_⟩
    unfold registerOrUpdateDevice ServerProgram.exec
    simp only [short, decide_false, Program.run_bind, Program.run_require, Bool.false_eq_true, if_false]

/-- The version a registration of a key comes to have. -/
def Database.versionFor (db : Database) (userId deviceId publicKey : String) : Nat :=
  match db.storedKey userId deviceId with
  | none => 1
  | some key => if key.publicKey = publicKey then key.keyVersion else key.keyVersion + 1

/-- A registration under an id of legal length succeeds, and the key is stored. -/
theorem registerOrUpdateDevice_registers (user : UserId) (publicKey uuid : String) (now : Nat)
    (trimmed : EcmaText.trim deviceId = deviceId) (nonempty : deviceId ≠ "")
    (short : EcmaText.codeUnitLength deviceId ≤ 128) :
    ∃ outcome db', ServerProgram.exec (registerOrUpdateDevice user.val publicKey (some deviceId) none
        uuid now) db = (.ok outcome, db') ∧
      toRegisterDeviceResponse outcome.document =
        ⟨deviceId, publicKey, db.versionFor user.val deviceId publicKey⟩ ∧
      db'.storedKey user.val deviceId = some (toRegisterDeviceResponse outcome.document) := by
  have id : registeredDeviceId (some deviceId) uuid = deviceId := by
    simp [registeredDeviceId, trimmed, nonempty]
  unfold Database.versionFor Database.storedKey
  cases found : db.findDeviceRow user.val deviceId with
  | none =>
    have inserted := @registerOrUpdateDevice_inserts db user.val publicKey (some deviceId) none uuid now
      (by rw [id]; exact short) (by rw [id]; exact found)
    rw [id] at inserted
    refine ⟨_, _, inserted, rfl, ?_⟩
    rcases @findDeviceRow_insert db _ _ (newDeviceRow user.val deviceId publicKey none now) rfl rfl with
      ⟨row, held, -⟩ | ⟨-, -, stored⟩
    · cases found.symm.trans held
    · have held : (db.setDevices (db.userDevicePublicKeys ++
          [newDeviceRow user.val deviceId publicKey none now])).findDeviceRow user.val deviceId =
            some (newDeviceRow user.val deviceId publicKey none now) := stored
      rw [held]
      rfl
  | some row =>
    obtain ⟨-, -, device⟩ := isDevice_of_find found
    by_cases same : row.publicKey = publicKey
    · have touched := @findDeviceRow_update db user.val deviceId { lastSeenAt := now }
      rw [found, Option.map_some] at touched
      refine ⟨⟨({ lastSeenAt := now } : DevicePatch).apply row, false⟩,
        (ServerCommand.exec (.updateDevice user.val deviceId { lastSeenAt := now }) db).2, ?_, ?_, ?_⟩
      · unfold registerOrUpdateDevice touchDevice relabelDevice ServerProgram.exec
        simp only [id, short, decide_true, Program.run_bind, Program.run_require, Program.run_perform,
          if_true, Option.map_none, show ServerCommand.exec (.findDevice user.val deviceId) db =
            (some row, db) from congrArg (·, db) found, same, Program.run_pure]
        simp only [ServerCommand.exec] at touched ⊢
        simp only [touched, Option.getD_some]
      · simp [toRegisterDeviceResponse, DevicePatch.apply, device, same]
      · rw [touched]
        rfl
    · obtain ⟨db', replaced, stored⟩ :=
        registerOrUpdateDevice_updates user uuid now trimmed nonempty short found same
      refine ⟨_, db', replaced, ?_, by rw [stored]; rfl⟩
      simp [toRegisterDeviceResponse, replacedKey_fields, device, same]

/-- A registration that succeeds answers with the device it was given. -/
theorem registerOrUpdateDevice_deviceId (user : UserId) {publicKey uuid : String} {now : Nat}
    {outcome : RegisterDeviceOutcome} {db' : Database}
    (trimmed : EcmaText.trim deviceId = deviceId) (nonempty : deviceId ≠ "")
    (registered : ServerProgram.exec (registerOrUpdateDevice user.val publicKey (some deviceId) none
      uuid now) db = (.ok outcome, db')) :
    (toRegisterDeviceResponse outcome.document).deviceId = deviceId := by
  by_cases short : EcmaText.codeUnitLength deviceId ≤ 128
  · obtain ⟨outcome', after, ran, answer, -⟩ := @registerOrUpdateDevice_registers db deviceId user
      publicKey uuid now trimmed nonempty short
    rw [registered, Prod.mk.injEq, Except.ok.injEq] at ran
    rw [ran.1, answer]
  · have id : registeredDeviceId (some deviceId) uuid = deviceId := by
      simp [registeredDeviceId, trimmed, nonempty]
    unfold registerOrUpdateDevice ServerProgram.exec at registered
    simp [id, short] at registered

end Commands

end StoredKey

end MessagingSystem.Source.Server
