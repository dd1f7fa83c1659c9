import MessagingSystem.Source.Client.KeyringImport

/-!
# Imports as a whole

The import stores the entries of a file one after another and the device id last.
A bad entry or a rejected write after the first row leaves a part of the file in
the keyring, and a row of the same version is replaced whatever key it holds.
-/
namespace MessagingSystem.Guarantees.ImportAtomicity
open Foundation Source.Client

variable {PublicKey PrivateKey Seed : Type} {crypto : WebCrypto PublicKey PrivateKey Seed}

section File

/-- The entries the loop does not skip: the version and the text of the key. -/
def keyEntries (entries : List (String × Json)) : List (Nat × String) :=
  entries.filterMap fun entry => (entryVersion entry.1).bind fun keyVersion =>
    (Json.asString (some entry.2)).map fun text => (keyVersion, text)

/-- The payload of a file, empty if it does not open. -/
def fileMembers (crypto : WebCrypto PublicKey PrivateKey Seed) (userId : String) (fileBytes : List UInt8)
    (backupPassphrase : String) : List (String × Json) :=
  (openBackup crypto userId fileBytes backupPassphrase).toOption.getD []

def fileKeys (crypto : WebCrypto PublicKey PrivateKey Seed) (userId : String) (fileBytes : List UInt8)
    (backupPassphrase : String) : List (Nat × String) :=
  keyEntries (objectEntries
    ((isRecord (Json.member (fileMembers crypto userId fileBytes backupPassphrase) "entries")).getD []))

def fileDeviceId (crypto : WebCrypto PublicKey PrivateKey Seed) (userId : String) (fileBytes : List UInt8)
    (backupPassphrase : String) : String :=
  EcmaText.trim
    ((Json.asString (Json.member (fileMembers crypto userId fileBytes backupPassphrase) "deviceId")).getD "")

end File

/-- Some passphrase opens the row, and to another key than the text of an entry is. -/
def HoldsOther (crypto : WebCrypto PublicKey PrivateKey Seed) (row : KeyringPrivateKeyRow) (text : String) :
    Prop :=
  ∃ passphrase held, decryptPayloadToPkcs8 crypto row.payload passphrase = .ok held ∧
    base64ToArrayBuffer text ≠ .ok held

/-- The keys can be loaded with the storage passphrase. -/
def AllStored (crypto : WebCrypto PublicKey PrivateKey Seed) (stored : KeyStorage)
    (userId storagePassphrase : String) (keys : List (Nat × String)) : Prop :=
  ∀ key ∈ keys, ∃ pkcs8, base64ToArrayBuffer key.2 = .ok pkcs8 ∧
    loadKeyringPrivateKeyPkcs8 crypto stored userId key.1 storagePassphrase = .ok (some pkcs8)

/-- A version that holds another key than the file has for it stays as it is. -/
def OthersKept (crypto : WebCrypto PublicKey PrivateKey Seed) (storage stored : KeyStorage) (userId : String)
    (keys : List (Nat × String)) : Prop :=
  ∀ key ∈ keys, ∀ row, OrderedMap.get storage.keyring (userId, key.1) = some row →
    HoldsOther crypto row key.2 → OrderedMap.get stored.keyring (userId, key.1) = some row

/-- What an import should leave: the rows and the device id as they were if it throws,
every entry stored and no other key replaced if it returns. -/
def LeavesWhole (crypto : WebCrypto PublicKey PrivateKey Seed) (storage : KeyStorage)
    (userId storagePassphrase : String) (keys : List (Nat × String)) :
    Except CryptoError (List Nat × Option String) × KeyStorage → Prop
  | (.error _, stored) => stored.keyring = storage.keyring ∧ stored.deviceIdentity = storage.deviceIdentity
  | (.ok _, stored) =>
      AllStored crypto stored userId storagePassphrase keys ∧ OthersKept crypto storage stored userId keys

/-- The import of the file is all or nothing. -/
def AllOrNothing (crypto : WebCrypto PublicKey PrivateKey Seed) (storage : KeyStorage) (userId : String)
    (fileBytes : List UInt8) (backupPassphrase storagePassphrase : String) (draws : Nat → WrapDraws)
    (failures : WriteFailures) : Prop :=
  LeavesWhole crypto storage userId storagePassphrase (fileKeys crypto userId fileBytes backupPassphrase)
    (importKeyringBackupFailing crypto storage userId fileBytes backupPassphrase storagePassphrase draws
      failures)

/-- The loop throws at an entry: its text is not Base64, the storage passphrase is
not accepted, or its write is rejected. -/
def EntryFails (storagePassphrase : String) (failures : WriteFailures) (i : Nat) (text : String) : Prop :=
  (∃ e, base64ToArrayBuffer text = .error e) ∨ (∃ e, normalizePassphrase storagePassphrase = .error e) ∨
    failures i ≠ none

/-- Nothing of the import fails, entries of one version are one key, and the
profile holds no other key under a version of the file. -/
structure Uninterrupted (crypto : WebCrypto PublicKey PrivateKey Seed) (storage : KeyStorage)
    (userId storagePassphrase deviceId : String) (failures : WriteFailures) (keys : List (Nat × String)) :
    Prop where
  entries : ∀ (i : Nat) (key : Nat × String), keys[i]? = some key →
    ¬ EntryFails storagePassphrase failures i key.2
  device : deviceId ≠ "" → failures keys.length = none
  agree : ∀ key ∈ keys, ∀ other ∈ keys, key.1 = other.1 →
    base64ToArrayBuffer key.2 = base64ToArrayBuffer other.2
  held : ∀ key ∈ keys, ∀ row, OrderedMap.get storage.keyring (userId, key.1) = some row →
    ¬ HoldsOther crypto row key.2

/-- The file has no key entry, or already its first one fails, or nothing does. -/
def ImportsWhole (crypto : WebCrypto PublicKey PrivateKey Seed) (storage : KeyStorage) (userId : String)
    (fileBytes : List UInt8) (backupPassphrase storagePassphrase : String) (failures : WriteFailures) : Prop :=
  let keys := fileKeys crypto userId fileBytes backupPassphrase
  (∀ key, keys.head? = some key → EntryFails storagePassphrase failures 0 key.2) ∨
    Uninterrupted crypto storage userId storagePassphrase
      (fileDeviceId crypto userId fileBytes backupPassphrase) failures keys

/-- What an import draws is new: no row of the profile is a wrap with it. -/
def FreshDraws (crypto : WebCrypto PublicKey PrivateKey Seed) (storage : KeyStorage)
    (draws : Nat → WrapDraws) : Prop :=
  ∀ entry ∈ storage.keyring, ∀ pkcs8 pass i,
    entry.2.payload ≠ wrapPrivateKeyPkcs8 crypto pkcs8 pass PBKDF2_ITERATIONS_DEFAULT (draws i)

section Rows

variable {storage stored : KeyStorage} {userId storagePassphrase : String} {draws : Nat → WrapDraws}
  {failures : WriteFailures} {keys : List (Nat × String)}

/-- The loop over the entries that are not skipped: the error it ends with, and the profile. -/
def storeKeys (crypto : WebCrypto PublicKey PrivateKey Seed) (userId storagePassphrase : String)
    (draws : Nat → WrapDraws) (failures : WriteFailures) :
    List (Nat × String) → Nat → KeyStorage → Option CryptoError × KeyStorage
  | [], _, storage => (none, storage)
  | key :: rest, i, storage =>
      match storeEntry crypto storage userId storagePassphrase key.1 key.2 (draws i) (failures i) with
      | .ok stored => storeKeys crypto userId storagePassphrase draws failures rest (i + 1) stored
      | .error e => (some e, storage)

theorem storeKeys_nil (i : Nat) (storage : KeyStorage) :
    storeKeys crypto userId storagePassphrase draws failures [] i storage = (none, storage) := rfl

theorem keyEntries_skip {k : String} {v : Json} (rest : List (String × Json))
    (skipped : entryVersion k = none ∨ Json.asString (some v) = none) :
    keyEntries ((k, v) :: rest) = keyEntries rest := by
  unfold keyEntries
  apply List.filterMap_cons_none
  rcases skipped with none | none
  · rw [none, Option.bind_none]
  · rw [none]
    cases entryVersion k <;> rfl

theorem keyEntries_take {k : String} {keyVersion : Nat} (t : String) (rest : List (String × Json))
    (version : entryVersion k = some keyVersion) :
    keyEntries ((k, .string t) :: rest) = (keyVersion, t) :: keyEntries rest := by
  unfold keyEntries
  apply List.filterMap_cons_some
  rw [version]
  rfl

theorem importEntriesFailing_eq (entries : List (String × Json)) (imported : List Nat) (storage : KeyStorage) :
    importEntriesFailing crypto userId storagePassphrase draws failures entries imported storage =
      ((storeKeys crypto userId storagePassphrase draws failures (keyEntries entries) imported.length
          storage).1.elim (.ok (imported ++ (keyEntries entries).map Prod.fst)) .error,
        (storeKeys crypto userId storagePassphrase draws failures (keyEntries entries) imported.length
          storage).2) := by
  induction entries generalizing imported storage with
  | nil =>
    have none : keyEntries [] = [] := rfl
    rw [none, List.map_nil, List.append_nil]
    rfl
  | cons entry rest ih =>
    obtain ⟨k, v⟩ := entry
    unfold importEntriesFailing
    cases version : entryVersion k with
    | none =>
      rw [keyEntries_skip rest (.inl version)]
      exact ih imported storage
    | some keyVersion =>
      cases v with
      | string t =>
        rw [keyEntries_take t rest version]
        unfold storeKeys
        dsimp only
        cases storeEntry crypto storage userId storagePassphrase keyVersion t (draws imported.length)
          (failures imported.length) with
        | error e => rfl
        | ok stored =>
          have later := ih (imported ++ [keyVersion]) stored
          rw [List.length_append, List.length_singleton] at later
          simp only [later, List.map_cons, List.append_assoc, List.singleton_append]
      | _ =>
        rw [keyEntries_skip rest (.inr rfl)]
        exact ih imported storage

theorem keyEntries_positive (entries : List (String × Json)) : ∀ key ∈ keyEntries entries, 1 ≤ key.1 := by
  intro key member
  obtain ⟨entry, -, taken⟩ := List.mem_filterMap.mp member
  obtain ⟨keyVersion, version, taken⟩ := Option.bind_eq_some_iff.mp taken
  obtain ⟨text, -, rfl⟩ := Option.map_eq_some_iff.mp taken
  obtain ⟨-, positive⟩ := Option.filter_eq_some_iff.mp version
  exact of_decide_eq_true positive

/-- The row an import writes. -/
def importedRow (crypto : WebCrypto PublicKey PrivateKey Seed) (pkcs8 : List UInt8) (pass : String)
    (draws : WrapDraws) : KeyringPrivateKeyRow :=
  ⟨none, wrapPrivateKeyPkcs8 crypto pkcs8 pass PBKDF2_ITERATIONS_DEFAULT draws⟩

/-- The row is one an import writes for an entry of the version. -/
def Imported (crypto : WebCrypto PublicKey PrivateKey Seed) (storagePassphrase : String)
    (draws : Nat → WrapDraws) (keys : List (Nat × String)) (v : Nat) (row : KeyringPrivateKeyRow) : Prop :=
  ∃ key ∈ keys, key.1 = v ∧ ∃ pkcs8 pass i, base64ToArrayBuffer key.2 = .ok pkcs8 ∧
    normalizePassphrase storagePassphrase = .ok pass ∧ row = importedRow crypto pkcs8 pass (draws i)

theorem Imported.mono {more : List (Nat × String)} {v : Nat} {row : KeyringPrivateKeyRow}
    (imported : Imported crypto storagePassphrase draws keys v row) (sub : ∀ key ∈ keys, key ∈ more) :
    Imported crypto storagePassphrase draws more v row := by
  obtain ⟨key, member, rest⟩ := imported
  exact ⟨key, sub key member, rest⟩

/-- An entry that fails leaves the profile as it is. -/
theorem storeEntry_fails {i : Nat} {v : Nat} {text : String}
    (fails : EntryFails storagePassphrase failures i text) (legal : 1 ≤ v) :
    ∃ e, storeEntry crypto storage userId storagePassphrase v text (draws i) (failures i) = .error e := by
  have positive : ¬ v < 1 := by omega
  unfold storeEntry storeKeyringPrivateKeyPkcs8
  cases decoded : base64ToArrayBuffer text with
  | error e => exact ⟨e, rfl⟩
  | ok pkcs8 =>
    cases normal : normalizePassphrase storagePassphrase with
    | error e => exact ⟨e, by simp [positive, bind, Except.bind]⟩
    | ok pass =>
      cases write : failures i with
      | some e => exact ⟨e, by simp [positive, bind, Except.bind]⟩
      | none =>
        rcases fails with ⟨e, bad⟩ | ⟨e, bad⟩ | rejected
        · cases decoded.symm.trans bad
        · cases normal.symm.trans bad
        · exact absurd write rejected

/-- An entry that does not fail writes its row. -/
theorem storeEntry_stores {i : Nat} {v : Nat} {text : String}
    (stands : ¬ EntryFails storagePassphrase failures i text) (legal : 1 ≤ v) :
    ∃ pkcs8 pass, base64ToArrayBuffer text = .ok pkcs8 ∧ normalizePassphrase storagePassphrase = .ok pass ∧
      storeEntry crypto storage userId storagePassphrase v text (draws i) (failures i) =
        .ok { storage with
          keyring := OrderedMap.set (userId, v) (importedRow crypto pkcs8 pass (draws i)) storage.keyring } := by
  have positive : ¬ v < 1 := by omega
  unfold storeEntry storeKeyringPrivateKeyPkcs8
  cases decoded : base64ToArrayBuffer text with
  | error e => exact absurd (.inl ⟨e, decoded⟩) stands
  | ok pkcs8 =>
    cases normal : normalizePassphrase storagePassphrase with
    | error e => exact absurd (.inr (.inl ⟨e, normal⟩)) stands
    | ok pass =>
      cases write : failures i with
      | some e => exact absurd (.inr (.inr (by simp [write]))) stands
      | none => exact ⟨pkcs8, pass, rfl, rfl, by simp [positive, importedRow, bind, Except.bind]⟩

/-- What the loop leaves: the device id, and each row as it was or as an entry wrote it. -/
theorem storeKeys_rows (positive : ∀ key ∈ keys, 1 ≤ key.1) (i : Nat) (storage : KeyStorage) :
    (storeKeys crypto userId storagePassphrase draws failures keys i storage).2.deviceIdentity =
        storage.deviceIdentity ∧
      ∀ v, OrderedMap.get
            (storeKeys crypto userId storagePassphrase draws failures keys i storage).2.keyring (userId, v) =
          OrderedMap.get storage.keyring (userId, v) ∨
        ∃ row, OrderedMap.get
            (storeKeys crypto userId storagePassphrase draws failures keys i storage).2.keyring (userId, v) =
          some row ∧ Imported crypto storagePassphrase draws keys v row := by
  induction keys generalizing i storage with
  | nil => exact ⟨rfl, fun v => .inl rfl⟩
  | cons key rest ih =>
    have legal := positive key List.mem_cons_self
    have positive : ∀ k ∈ rest, 1 ≤ k.1 := fun k member => positive k (List.mem_cons_of_mem _ member)
    unfold storeKeys
    by_cases fails : EntryFails storagePassphrase failures i key.2
    · obtain ⟨e, thrown⟩ := @storeEntry_fails _ _ _ crypto storage userId _ draws _ i _ _ fails legal
      rw [thrown]
      exact ⟨rfl, fun v => .inl rfl⟩
    · obtain ⟨pkcs8, pass, decoded, normal, written⟩ :=
        @storeEntry_stores _ _ _ crypto storage userId _ draws _ i _ _ fails legal
      rw [written]
      obtain ⟨device, rows⟩ := ih positive (i + 1) { storage with
        keyring := OrderedMap.set (userId, key.1) (importedRow crypto pkcs8 pass (draws i)) storage.keyring }
      refine ⟨device, fun v => ?_⟩
      rcases rows v with same | ⟨row, found, imported⟩
      · rw [OrderedMap.get_set] at same
        by_cases this : v = key.1
        · right
          rw [this] at same ⊢
          rw [if_pos rfl] at same
          exact ⟨_, same, key, List.mem_cons_self, rfl, pkcs8, pass, i, decoded, normal, rfl⟩
        · left
          have other : (userId, v) ≠ (userId, key.1) := fun equal => this (Prod.mk.inj equal).2
          rw [if_neg other] at same
          exact same
      · right
        exact ⟨row, found, imported.mono fun key member => List.mem_cons_of_mem _ member⟩

/-- A first entry that does not fail leaves its version with a row of the file. -/
theorem storeKeys_first {key : Nat × String} {rest : List (Nat × String)}
    (positive : ∀ k ∈ key :: rest, 1 ≤ k.1) (i : Nat) (storage : KeyStorage)
    (stands : ¬ EntryFails storagePassphrase failures i key.2) :
    ∃ row, OrderedMap.get (storeKeys crypto userId storagePassphrase draws failures (key :: rest) i
        storage).2.keyring (userId, key.1) = some row ∧
      Imported crypto storagePassphrase draws (key :: rest) key.1 row := by
  have legal := positive key List.mem_cons_self
  obtain ⟨pkcs8, pass, decoded, normal, written⟩ :=
    @storeEntry_stores _ _ _ crypto storage userId _ draws _ i _ _ stands legal
  unfold storeKeys
  rw [written]
  obtain ⟨-, rows⟩ := @storeKeys_rows _ _ _ crypto userId storagePassphrase draws failures rest
    (fun key member => positive key (List.mem_cons_of_mem _ member)) (i + 1) { storage with
      keyring := OrderedMap.set (userId, key.1) (importedRow crypto pkcs8 pass (draws i)) storage.keyring }
  rcases rows key.1 with same | ⟨row, found, imported⟩
  · rw [OrderedMap.get_set, if_pos rfl] at same
    exact ⟨_, same, key, List.mem_cons_self, rfl, pkcs8, pass, i, decoded, normal, rfl⟩
  · exact ⟨row, found, imported.mono fun key member => List.mem_cons_of_mem _ member⟩

/-- The loop ends without an error exactly when no entry fails. -/
theorem storeKeys_done_iff (positive : ∀ key ∈ keys, 1 ≤ key.1) (i : Nat) (storage : KeyStorage) :
    (storeKeys crypto userId storagePassphrase draws failures keys i storage).1 = none ↔
      ∀ (j : Nat) (key : Nat × String), keys[j]? = some key →
        ¬ EntryFails storagePassphrase failures (i + j) key.2 := by
  induction keys generalizing i storage with
  | nil => simp [storeKeys_nil]
  | cons key rest ih =>
    have legal := positive key List.mem_cons_self
    have positive : ∀ k ∈ rest, 1 ≤ k.1 := fun k member => positive k (List.mem_cons_of_mem _ member)
    unfold storeKeys
    by_cases fails : EntryFails storagePassphrase failures i key.2
    · obtain ⟨e, thrown⟩ := @storeEntry_fails _ _ _ crypto storage userId _ draws _ i _ _ fails legal
      rw [thrown]
      constructor
      · intro none
        cases none
      · intro all
        exact absurd fails (all 0 key rfl)
    · obtain ⟨pkcs8, pass, -, -, written⟩ :=
        @storeEntry_stores _ _ _ crypto storage userId _ draws _ i _ _ fails legal
      rw [written]
      dsimp only
      rw [ih positive]
      constructor
      · intro later j other here
        cases j with
        | zero =>
          cases here
          exact fails
        | succ j =>
          have shifted := later j other here
          rwa [Nat.add_right_comm, Nat.add_assoc] at shifted
      · intro all j other here
        have shifted := all (j + 1) other here
        rwa [← Nat.add_assoc, Nat.add_right_comm] at shifted

/-- A loop without an error leaves every version of the file with a row of the file. -/
theorem storeKeys_all (positive : ∀ key ∈ keys, 1 ≤ key.1) (i : Nat) (storage : KeyStorage)
    (done : (storeKeys crypto userId storagePassphrase draws failures keys i storage).1 = none) :
    ∀ key ∈ keys, ∃ row, OrderedMap.get
        (storeKeys crypto userId storagePassphrase draws failures keys i storage).2.keyring (userId, key.1) =
          some row ∧ Imported crypto storagePassphrase draws keys key.1 row := by
  induction keys generalizing i storage with
  | nil => exact fun key member => by cases member
  | cons key rest ih =>
    have stands := (storeKeys_done_iff positive i storage).mp done 0 key rfl
    intro other member
    rcases List.mem_cons.mp member with rfl | later
    · exact storeKeys_first positive i storage stands
    · have legal := positive key List.mem_cons_self
      have positive : ∀ k ∈ rest, 1 ≤ k.1 := fun k member => positive k (List.mem_cons_of_mem _ member)
      obtain ⟨pkcs8, pass, -, -, written⟩ :=
        @storeEntry_stores _ _ _ crypto storage userId _ draws _ i _ _ stands legal
      unfold storeKeys at done ⊢
      rw [written] at done ⊢
      obtain ⟨row, found, imported⟩ := ih positive (i + 1) _ done other later
      exact ⟨row, found, imported.mono fun key member => List.mem_cons_of_mem _ member⟩

end Rows

section Whole

variable {storage stored : KeyStorage} {userId backupPassphrase storagePassphrase deviceId : String}
  {fileBytes : List UInt8} {draws : Nat → WrapDraws} {failures : WriteFailures} {keys : List (Nat × String)}

theorem mem_of_get {v : Nat} {row : KeyringPrivateKeyRow}
    (found : OrderedMap.get storage.keyring (userId, v) = some row) :
    ∃ entry ∈ storage.keyring, entry.2 = row := by
  obtain ⟨entry, located, same⟩ := Option.map_eq_some_iff.mp found
  exact ⟨entry, List.mem_of_find?_eq_some located, same⟩

/-- A row the import wrote is not one of the profile before it. -/
theorem Imported.fresh (fresh : FreshDraws crypto storage draws) {v w : Nat} {row : KeyringPrivateKeyRow}
    (imported : Imported crypto storagePassphrase draws keys v row) :
    OrderedMap.get storage.keyring (userId, w) ≠ some row := by
  intro found
  obtain ⟨entry, member, same⟩ := mem_of_get found
  obtain ⟨key, -, -, pkcs8, pass, i, -, -, rfl⟩ := imported
  apply fresh entry member pkcs8 pass i
  rw [same]
  rfl

/-- A row the import wrote loads as the key of its entry. -/
theorem load_imported (ideal : crypto.Ideal) {v : Nat} {row : KeyringPrivateKeyRow}
    (found : OrderedMap.get stored.keyring (userId, v) = some row)
    (imported : Imported crypto storagePassphrase draws keys v row) :
    ∃ key ∈ keys, key.1 = v ∧ ∃ pkcs8, base64ToArrayBuffer key.2 = .ok pkcs8 ∧
      loadKeyringPrivateKeyPkcs8 crypto stored userId v storagePassphrase = .ok (some pkcs8) := by
  obtain ⟨key, member, same, pkcs8, pass, i, decoded, normal, rfl⟩ := imported
  obtain ⟨trimmed, nonempty⟩ := normalizePassphrase_trim normal
  have opened := decryptPayload_wrap ideal trimmed nonempty pkcs8 PBKDF2_ITERATIONS_DEFAULT (draws i)
  refine ⟨key, member, same, pkcs8, decoded, ?_⟩
  unfold loadKeyringPrivateKeyPkcs8
  simp only [normal, found, importedRow, bind, Except.bind]
  unfold wrapPrivateKeyPkcs8 at opened ⊢
  simp only [opened]

/-- Once the first entry has been stored the rows are not those from before. -/
theorem storeKeys_changes (fresh : FreshDraws crypto storage draws) (positive : ∀ key ∈ keys, 1 ≤ key.1)
    {first : Nat × String} (head : keys.head? = some first)
    (stands : ¬ EntryFails storagePassphrase failures 0 first.2) :
    (storeKeys crypto userId storagePassphrase draws failures keys 0 storage).2.keyring ≠ storage.keyring := by
  cases keys with
  | nil => cases head
  | cons key rest =>
    cases head
    obtain ⟨row, found, imported⟩ :=
      @storeKeys_first _ _ _ crypto userId _ draws _ _ _ positive 0 storage stands
    intro same
    rw [same] at found
    exact imported.fresh fresh found

/-- What a loop without an error leaves is as it should be exactly when the entries
of a version agree and the profile held no other key under it. -/
theorem stored_iff (ideal : crypto.Ideal) (fresh : FreshDraws crypto storage draws)
    (rows : ∀ key ∈ keys, ∃ row, OrderedMap.get stored.keyring (userId, key.1) = some row ∧
      Imported crypto storagePassphrase draws keys key.1 row) :
    AllStored crypto stored userId storagePassphrase keys ∧ OthersKept crypto storage stored userId keys ↔
      (∀ key ∈ keys, ∀ other ∈ keys, key.1 = other.1 →
        base64ToArrayBuffer key.2 = base64ToArrayBuffer other.2) ∧
      ∀ key ∈ keys, ∀ row, OrderedMap.get storage.keyring (userId, key.1) = some row →
        ¬ HoldsOther crypto row key.2 := by
  constructor
  · rintro ⟨all, kept⟩
    constructor
    · intro key member other member' same
      obtain ⟨pkcs8, decoded, loaded⟩ := all key member
      obtain ⟨pkcs8', decoded', loaded'⟩ := all other member'
      rw [same, loaded', Except.ok.injEq, Option.some.injEq] at loaded
      rw [decoded, decoded', loaded]
    · intro key member row found holds
      obtain ⟨row', found', imported⟩ := rows key member
      have unchanged := kept key member row found holds
      rw [found', Option.some.injEq] at unchanged
      rw [unchanged] at imported
      exact imported.fresh fresh found
  · rintro ⟨agree, held⟩
    constructor
    · intro key member
      obtain ⟨row, found, imported⟩ := rows key member
      obtain ⟨other, member', same, pkcs8, decoded, loaded⟩ := load_imported ideal found imported
      exact ⟨pkcs8, (agree key member other member' same.symm).trans decoded, loaded⟩
    · intro key member row found holds
      exact absurd holds (held key member row found)

/-- An import that has nothing to store throws and writes nothing. -/
theorem import_no_keys (none : fileKeys crypto userId fileBytes backupPassphrase = []) :
    ∃ e, importKeyringBackupFailing crypto storage userId fileBytes backupPassphrase storagePassphrase draws
      failures = (.error e, storage) := by
  unfold fileKeys fileMembers at none
  unfold importKeyringBackupFailing
  cases opened : openBackup crypto userId fileBytes backupPassphrase with
  | error e => exact ⟨e, rfl⟩
  | ok inner =>
    rw [opened] at none
    simp only [Except.toOption, Option.getD_some] at none
    cases record : isRecord (Json.member inner "entries") with
    | none => exact ⟨.error "Corrupted backup entries", by simp only [record]⟩
    | some ent =>
      rw [record, Option.getD_some] at none
      refine ⟨.error "No key entries found in backup", ?_⟩
      simp only [record, importEntriesFailing_eq, none, storeKeys_nil, Option.elim_none, List.map_nil,
        List.append_nil, if_true]

/-- The import of a file with keys throws in its loop or at the device id, or returns. -/
theorem import_keys (some' : fileKeys crypto userId fileBytes backupPassphrase ≠ [])
    (r : Option CryptoError × KeyStorage)
    (looped : storeKeys crypto userId storagePassphrase draws failures
      (fileKeys crypto userId fileBytes backupPassphrase) 0 storage = r) :
    ∃ result stored, importKeyringBackupFailing crypto storage userId fileBytes backupPassphrase
        storagePassphrase draws failures = (result, stored) ∧ stored.keyring = r.2.keyring ∧
      (result.isOk = false → stored.deviceIdentity = r.2.deviceIdentity) ∧
      (result.isOk = true ↔ r.1 = none ∧ (fileDeviceId crypto userId fileBytes backupPassphrase ≠ "" →
        failures (fileKeys crypto userId fileBytes backupPassphrase).length = none)) := by
  unfold fileDeviceId
  unfold fileKeys at some' looped ⊢
  unfold fileMembers at some' looped ⊢
  unfold importKeyringBackupFailing
  cases opened : openBackup crypto userId fileBytes backupPassphrase with
  | error e =>
    rw [opened] at some'
    exact absurd rfl some'
  | ok inner =>
    rw [opened] at some' looped
    simp only [Except.toOption, Option.getD_some] at some' looped ⊢
    cases record : isRecord (Json.member inner "entries") with
    | none =>
      rw [record] at some'
      exact absurd rfl some'
    | some ent =>
      rw [record, Option.getD_some] at some' looped
      obtain ⟨failed, after⟩ := r
      simp only [importEntriesFailing_eq, List.length_nil, looped, List.nil_append, Option.getD_some]
      cases failed with
      | some e => exact ⟨.error e, after, rfl, rfl, fun _ => rfl, by simp [Except.isOk, Except.toBool]⟩
      | none =>
        have versions : (keyEntries (objectEntries ent)).map Prod.fst ≠ [] := by
          simpa using some'
        simp only [Option.elim_none, versions, if_false, List.length_map]
        by_cases blank : EcmaText.trim ((Json.asString (Json.member inner "deviceId")).getD "") = ""
        · simp only [blank, if_true]
          exact ⟨_, after, rfl, rfl, fun _ => rfl, by simp [Except.isOk, Except.toBool]⟩
        · simp only [blank, if_false, setStoredDeviceId, EcmaText.trim_trim]
          cases failures (keyEntries (objectEntries ent)).length with
          | none => exact ⟨_, _, rfl, rfl, Bool.noConfusion, by simp [Except.isOk, Except.toBool]⟩
          | some e => exact ⟨_, _, rfl, rfl, fun _ => rfl, by simp [Except.isOk, Except.toBool, blank]⟩

/-- The loop throws before it has written a row. -/
theorem storeKeys_untouched (positive : ∀ key ∈ keys, 1 ≤ key.1) {first : Nat × String}
    (head : keys.head? = some first) (fails : EntryFails storagePassphrase failures 0 first.2)
    (storage : KeyStorage) :
    ∃ e, storeKeys crypto userId storagePassphrase draws failures keys 0 storage = (some e, storage) := by
  cases keys with
  | nil => cases head
  | cons key rest =>
    cases head
    obtain ⟨e, thrown⟩ := @storeEntry_fails _ _ _ crypto storage userId _ draws _ 0 _ _ fails
      (positive first List.mem_cons_self)
    unfold storeKeys
    rw [thrown]
    exact ⟨e, rfl⟩

theorem leavesWhole_throws {result : Except CryptoError (List Nat × Option String)}
    (thrown : result.isOk = false) :
    LeavesWhole crypto storage userId storagePassphrase keys (result, stored) ↔
      stored.keyring = storage.keyring ∧ stored.deviceIdentity = storage.deviceIdentity := by
  cases result with
  | error e => exact Iff.rfl
  | ok value => cases thrown

theorem leavesWhole_returns {result : Except CryptoError (List Nat × Option String)}
    (returned : result.isOk = true) :
    LeavesWhole crypto storage userId storagePassphrase keys (result, stored) ↔
      AllStored crypto stored userId storagePassphrase keys ∧ OthersKept crypto storage stored userId keys := by
  cases result with
  | error e => cases returned
  | ok value => exact Iff.rfl

/-- An import is all or nothing exactly when the file has no key entry, or its first
one already fails, or nothing fails and nothing collides. -/
theorem import_all_or_nothing_iff (ideal : crypto.Ideal) (fresh : FreshDraws crypto storage draws)
    (userId : String) (fileBytes : List UInt8) (backupPassphrase storagePassphrase : String)
    (failures : WriteFailures) :
    AllOrNothing crypto storage userId fileBytes backupPassphrase storagePassphrase draws failures ↔
      ImportsWhole crypto storage userId fileBytes backupPassphrase storagePassphrase failures := by
  have positive : ∀ key ∈ fileKeys crypto userId fileBytes backupPassphrase, 1 ≤ key.1 :=
    keyEntries_positive _
  unfold AllOrNothing ImportsWhole
  dsimp only
  by_cases none : fileKeys crypto userId fileBytes backupPassphrase = []
  · obtain ⟨e, ran⟩ := @import_no_keys _ _ _ crypto storage userId backupPassphrase storagePassphrase
      fileBytes draws failures none
    rw [ran, none]
    exact iff_of_true ⟨rfl, rfl⟩ (.inl fun key head => by cases head)
  · obtain ⟨first, rest, keys⟩ := List.exists_cons_of_ne_nil none
    have head : (fileKeys crypto userId fileBytes backupPassphrase).head? = some first := by rw [keys]; rfl
    obtain ⟨result, stored, ran, rows, device, ok⟩ := @import_keys _ _ _ crypto storage userId
      backupPassphrase storagePassphrase fileBytes draws failures none _ rfl
    rw [ran]
    by_cases fails : EntryFails storagePassphrase failures 0 first.2
    · obtain ⟨e, untouched⟩ := @storeKeys_untouched _ _ _ crypto userId storagePassphrase draws failures _
        positive first head fails storage
      rw [untouched] at rows device ok
      have thrown : result.isOk = false := by
        rw [Bool.eq_false_iff]
        intro returned
        cases (ok.mp returned).1
      apply iff_of_true
      · exact (leavesWhole_throws thrown).mpr ⟨rows, device thrown⟩
      · left
        intro key same
        rw [head] at same
        cases same
        exact fails
    · have changes := @storeKeys_changes _ _ _ crypto storage userId storagePassphrase draws failures _ fresh
        positive first head fails
      have later : ¬ ∀ key, (fileKeys crypto userId fileBytes backupPassphrase).head? = some key →
          EntryFails storagePassphrase failures 0 key.2 := fun all => fails (all first head)
      rw [or_iff_right later]
      have done := @storeKeys_done_iff _ _ _ crypto userId storagePassphrase draws failures _ positive 0 storage
      simp only [Nat.zero_add] at done
      by_cases returned : result.isOk = true
      · rw [leavesWhole_returns returned]
        obtain ⟨finished, written⟩ := ok.mp returned
        have stands := done.mp finished
        have all := @storeKeys_all _ _ _ crypto userId storagePassphrase draws failures _ positive 0 storage
          finished
        rw [← rows] at all
        rw [stored_iff ideal fresh all]
        constructor
        · rintro ⟨agree, held⟩
          exact ⟨stands, written, agree, held⟩
        · intro whole
          exact ⟨whole.agree, whole.held⟩
      · rw [leavesWhole_throws (Bool.eq_false_iff.mpr returned)]
        apply iff_of_false
        · rintro ⟨same, -⟩
          exact changes (rows.symm.trans same)
        · intro whole
          exact returned (ok.mpr ⟨done.mpr whole.entries, whole.device⟩)

end Whole

section Files

/-- Draws that all came out zero. -/
def zeroes : WrapDraws := ⟨RandomBytes.zero 16, RandomBytes.zero 12⟩

/-- A backup file with these entries. -/
def backupOf (deviceId : Option String) (entries : List (String × String)) : List UInt8 :=
  utf8 (backupFileBody "ana" 0 (wrapPrivateKeyPkcs8 transparentCrypto
    (utf8 (Json.object (backupPlaintext "ana" 0 deviceId entries)).stringify) "backup"
    PBKDF2_ITERATIONS_DEFAULT zeroes)).stringify

theorem backupOf_opens (deviceId : Option String) {entries : List (String × String)}
    (distinct : (entries.map Prod.fst).Nodup) :
    openBackup transparentCrypto "ana" (backupOf deviceId entries) "backup" =
      .ok (backupPlaintext "ana" 0 deviceId entries) := by
  apply openBackup_file transparentCrypto_ideal (by decide) (by decide)
    (plaintext_wellFormed distinct 0 deviceId)
  rw [backupPlaintext, List.append_assoc, List.cons_append, Json.member_cons_self]
  rfl

theorem fileKeys_backupOf (deviceId : Option String) {entries : List (String × String)}
    (distinct : (entries.map Prod.fst).Nodup) :
    fileKeys transparentCrypto "ana" (backupOf deviceId entries) "backup" =
      keyEntries (objectEntries (entries.map fun entry => (entry.1, Json.string entry.2))) := by
  obtain ⟨members, -⟩ := @plaintext_members "ana" 0 deviceId entries
  unfold fileKeys fileMembers
  rw [backupOf_opens deviceId distinct, Except.toOption, Option.getD_some, members]
  rfl

/-- A draw cannot be stale for a profile without rows. -/
theorem fresh_empty (draws : Nat → WrapDraws) : FreshDraws transparentCrypto {} draws :=
  fun entry member => by cases member

/-- The first key of a file is stored, its second one is not Base64. -/
def twoEntries : List (String × String) := [("1", "AA=="), ("2", "@")]

theorem twoEntries_keys :
    fileKeys transparentCrypto "ana" (backupOf none twoEntries) "backup" = [(1, "AA=="), (2, "@")] := by
  rw [fileKeys_backupOf none (by decide)]
  decide

theorem first_stands : ¬ EntryFails "storage" (fun _ => none) 0 "AA==" := by
  have decoded : base64ToArrayBuffer "AA==" = .ok [0] := by decide
  have normal : normalizePassphrase "storage" = .ok "storage" := by decide
  rintro (⟨e, bad⟩ | ⟨e, bad⟩ | bad)
  · cases decoded.symm.trans bad
  · cases normal.symm.trans bad
  · exact bad rfl

/-- The second entry is not Base64: the import throws, and the first key stays in the keyring. -/
theorem bad_entry_leaves_row :
    ¬ AllOrNothing transparentCrypto {} "ana" (backupOf none twoEntries) "backup" "storage"
      (fun _ => zeroes) fun _ => none := by
  have positive : ∀ key ∈ fileKeys transparentCrypto "ana" (backupOf none twoEntries) "backup", 1 ≤ key.1 :=
    keyEntries_positive _
  have some' : fileKeys transparentCrypto "ana" (backupOf none twoEntries) "backup" ≠ [] := by
    rw [twoEntries_keys]
    decide
  obtain ⟨result, stored, ran, rows, -, ok⟩ := @import_keys _ _ _ transparentCrypto {} "ana" "backup"
    "storage" (backupOf none twoEntries) (fun _ => zeroes) (fun _ => none) some' _ rfl
  have thrown : result.isOk = false := by
    rw [Bool.eq_false_iff]
    intro returned
    have stands := (storeKeys_done_iff positive 0 _).mp (ok.mp returned).1 1 (2, "@")
      (by rw [twoEntries_keys]; rfl)
    exact stands (.inl ⟨.invalidCharacter, by decide⟩)
  have changes := @storeKeys_changes _ _ _ transparentCrypto {} "ana" "storage" (fun _ => zeroes)
    (fun _ => none) _ (fresh_empty _) positive (1, "AA==") (by rw [twoEntries_keys]; rfl) first_stands
  unfold AllOrNothing
  rw [ran, leavesWhole_throws thrown]
  rintro ⟨same, -⟩
  exact changes (rows.symm.trans same)

theorem oneEntry_keys :
    fileKeys transparentCrypto "ana" (backupOf (some "phone") [("1", "AA==")]) "backup" = [(1, "AA==")] := by
  rw [fileKeys_backupOf (some "phone") (by decide)]
  decide

theorem import_all_or_nothing_iff_one :
    AllOrNothing transparentCrypto {} "ana" (backupOf (some "phone") [("1", "AA==")]) "backup" "storage"
      (fun _ => zeroes) fun _ => none := by
  rw [import_all_or_nothing_iff transparentCrypto_ideal (fresh_empty _)]
  unfold ImportsWhole
  rw [oneEntry_keys]
  right
  refine ⟨fun i key here => ?_, fun _ => rfl, fun key member other member' same => ?_,
    fun key _ row found => ?_⟩
  · cases i with
    | zero =>
      cases here
      exact first_stands
    | succ i => cases here
  · rw [List.mem_singleton.mp member, List.mem_singleton.mp member']
  · cases found

end Files

end MessagingSystem.Guarantees.ImportAtomicity
