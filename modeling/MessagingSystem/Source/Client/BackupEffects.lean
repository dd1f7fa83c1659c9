import MessagingSystem.Source.Client.EnsureEffects
import MessagingSystem.Source.Client.KeyringBackup

/-!
# What an export and an import do

The private keys and the device id come back from a backup file when the backup
passphrase has no white space around it. The public keys of the rows do not:
none is stored by the import, and the bootstrap refuses a keyring without them.
-/
namespace MessagingSystem.Source.Client
open Foundation Server

variable {PublicKey PrivateKey Seed : Type} {crypto : WebCrypto PublicKey PrivateKey Seed}

section Bare

/-- No row of the keyring has a public key. -/
def BareKeyring (storage : KeyStorage) : Prop :=
  ∀ entry ∈ storage.keyring, entry.2.publicKeySpkiB64 = none

variable {storage stored : KeyStorage} {userId passphrase : String} {draws : Nat → WrapDraws}

theorem storeKeyring_bare {v : Nat} {pkcs8 : List UInt8} {wrap : WrapDraws} (bare : BareKeyring storage)
    (written : storeKeyringPrivateKeyPkcs8 crypto storage userId v pkcs8 passphrase none wrap = .ok stored) :
    BareKeyring stored ∧ (∀ w, w ∈ listKeyringVersions stored userId ↔
      w = v ∨ w ∈ listKeyringVersions storage userId) := by
  obtain ⟨pass, -, rfl⟩ := storeKeyring_ok written
  refine ⟨fun entry member => ?_, fun w => mem_versions_withRow _⟩
  rcases OrderedMap.mem_set member with rfl | old
  · rfl
  · exact bare entry old

/-- Whatever is imported, the rows have no public key, and the imported versions are listed. -/
theorem importEntries_bare {entries : List (String × Json)} {imported : List Nat}
    {result : Except CryptoError (List Nat)} (bare : BareKeyring storage)
    (listed : ∀ v ∈ imported, v ∈ listKeyringVersions storage userId)
    (ran : importEntries crypto userId passphrase draws entries imported storage = (result, stored)) :
    BareKeyring stored ∧ ∀ versions, result = .ok versions →
      ∀ v ∈ versions, v ∈ listKeyringVersions stored userId := by
  induction entries generalizing imported storage with
  | nil =>
    cases ran
    refine ⟨bare, fun versions same => ?_⟩
    cases same
    exact listed
  | cons entry rest ih =>
    obtain ⟨k, v⟩ := entry
    unfold importEntries at ran
    split at ran
    · rename_i keyVersion text _
      dsimp only at ran
      split at ran
      · rename_i after written
        cases decoded : base64ToArrayBuffer text with
        | error e => simp [decoded, bind, Except.bind] at written
        | ok pkcs8 =>
          simp only [decoded, bind, Except.bind] at written
          obtain ⟨bare, versions⟩ := storeKeyring_bare bare written
          refine ih bare (fun w member => (versions w).mpr ?_) ran
          rcases List.mem_append.mp member with old | new
          · exact .inr (listed w old)
          · exact .inl (List.mem_singleton.mp new)
      · cases ran
        exact ⟨bare, fun versions same => by cases same⟩
    · exact ih bare listed ran

/-- An import into a profile without public keys leaves none. -/
theorem import_bare {bytes : List UInt8} {backupPassphrase : String}
    {result : List Nat × Option String} (bare : BareKeyring storage)
    (ran : importKeyringBackupFromArrayBuffer crypto storage userId bytes backupPassphrase passphrase draws =
      (.ok result, stored)) :
    BareKeyring stored ∧ listKeyringVersions stored userId ≠ [] := by
  unfold importKeyringBackupFromArrayBuffer at ran
  split at ran
  · cases ran
  split at ran
  · cases ran
  split at ran
  · cases ran
  rename_i importedVersions after imported
  obtain ⟨bareAfter, listed⟩ := importEntries_bare bare (fun v member => by cases member) imported
  split at ran
  · cases ran
  rename_i some'
  have nonempty : listKeyringVersions after userId ≠ [] := by
    obtain ⟨v, rest, same⟩ := List.exists_cons_of_ne_nil some'
    have member := listed importedVersions rfl v (by simp [same])
    intro empty
    rw [empty] at member
    cases member
  dsimp only at ran
  split at ran
  · cases ran
    exact ⟨bareAfter, nonempty⟩
  · split at ran
    · rename_i restored identified
      cases ran
      unfold setStoredDeviceId at identified
      dsimp only at identified
      split at identified
      · cases identified
      · cases identified
        exact ⟨bareAfter, nonempty⟩
    · cases ran

/-- A keyring without public keys makes the bootstrap throw. -/
theorem ensure_bare {user : UserId} {pass : AcceptedPassphrase} {db : Database} (bare : BareKeyring stored)
    (keyed : listKeyringVersions stored user.val ≠ []) (ensureDraws : EnsureDraws PrivateKey) :
    (ensureUserKeypairReadyForMessaging crypto user pass ensureDraws).exec crypto ⟨stored, db⟩ =
      (.error (.error "Your device has keyring data but no public key metadata. Restore from a backup."),
        ⟨stored, db⟩) := by
  obtain ⟨v, newest⟩ : ∃ v, (listKeyringVersions stored user.val).max? = some v := by
    cases found : (listKeyringVersions stored user.val).max? with
    | none => exact absurd (List.max?_eq_none_iff.mp found) keyed
    | some v => exact ⟨v, rfl⟩
  have none : getKeyringPublicSpkiOptional stored user.val v = none := by
    unfold getKeyringPublicSpkiOptional OrderedMap.get
    cases found : stored.keyring.find? fun entry => entry.1 = (user.val, v) with
    | none => rfl
    | some entry => simp [bare entry (List.mem_of_find?_eq_some found)]
  have empty : EcmaText.trim ((Option.none : Option String).getD "") = "" := by decide
  rw [ensure_exec]
  simp only [newest]
  unfold alignKeyring BootProgram.exec BootProgram.profile
  simp only [Program.run_bind, Program.run_perform, BootCommand.exec, ProfileCommand.exec, none, empty,
    Program.run_require, ne_eq, not_true_eq_false, decide_false, Bool.false_eq_true, if_false]

end Bare

section Entries

/-- An entry of the exported object. -/
def exportedEntry (key : Nat × List UInt8) : String × Json :=
  (toString key.1, .string (arrayBufferToBase64 key.2))

theorem toString_nat_injective {m n : Nat} (same : toString m = toString n) : m = n := by
  have parsed := EcmaNumber.parseInt_toString m
  rw [same, EcmaNumber.parseInt_toString] at parsed
  exact (Int.ofNat.inj (Option.some.inj parsed)).symm

theorem arrayIndex_toString (n : Nat) :
    arrayIndex (toString n) = if n < 4294967295 then some n else none := by
  unfold arrayIndex
  rw [EcmaNumber.parseInt_toString, Option.bind_some]
  simp

/-- Ascending versions are listed as they are. -/
theorem objectEntries_ascending {keys : List (Nat × List UInt8)}
    (ascending : (keys.map Prod.fst).Pairwise (· < ·)) :
    objectEntries (keys.map exportedEntry) = keys.map exportedEntry := by
  have index : ∀ key : Nat × List UInt8, arrayIndex (exportedEntry key).1 =
      if key.1 < 4294967295 then some key.1 else none := fun key => arrayIndex_toString key.1
  induction keys with
  | nil => rfl
  | cons key rest ih =>
    rw [List.map_cons, List.pairwise_cons] at ascending
    obtain ⟨least, ascending⟩ := ascending
    have above : ∀ other ∈ rest, key.1 < other.1 := fun other member =>
      least other.1 (List.mem_map_of_mem member)
    have tail := ih ascending
    unfold objectEntries at tail ⊢
    by_cases small : key.1 < 4294967295
    · have here := index key
      rw [if_pos small] at here
      have first : ∀ m ∈ (rest.map exportedEntry).filter fun m => (arrayIndex m.1).isSome,
          (arrayIndex (exportedEntry key).1).getD 0 ≤ (arrayIndex m.1).getD 0 := by
        intro m member
        obtain ⟨member, indexed⟩ := List.mem_filter.mp member
        obtain ⟨other, later, rfl⟩ := List.mem_map.mp member
        rw [index other] at indexed ⊢
        split at indexed
        · rename_i otherSmall
          have less := above other later
          simp only [here, otherSmall, if_true, Option.getD_some]
          omega
        · cases indexed
      rw [List.map_cons, List.filter_cons_of_pos (by simp [here]), List.filter_cons_of_neg (by simp [here]),
        List.insertionSort_cons_of_forall_rel _ first, List.cons_append, tail]
    · -- from the first version that is no index on, none is
      have none : ∀ m ∈ (key :: rest).map exportedEntry, arrayIndex m.1 = none := by
        intro m member
        obtain ⟨other, listed, rfl⟩ := List.mem_map.mp member
        rw [index other, if_neg]
        rcases List.mem_cons.mp listed with rfl | later
        · exact small
        · have less := above other later
          omega
      have noIndex : ((key :: rest).map exportedEntry).filter (fun m => (arrayIndex m.1).isSome) = [] :=
        List.filter_eq_nil_iff.mpr fun m member => by simp [none m member]
      have allNames : ((key :: rest).map exportedEntry).filter (fun m => (arrayIndex m.1).isNone) =
          (key :: rest).map exportedEntry := List.filter_eq_self.mpr fun m member => by simp [none m member]
      rw [noIndex, allNames]
      rfl

variable {storage : KeyStorage} {userId passphrase newPassphrase : String}

/-- What the export loop collects: the keys that can be loaded, in the order of the versions. -/
theorem keyringEntries_spec {versions : List Nat} {entries : List (String × String)}
    (collected : keyringEntries crypto storage userId passphrase versions = .ok entries) :
    ∃ keys : List (Nat × List UInt8),
      entries = keys.map (fun key => (toString key.1, arrayBufferToBase64 key.2)) ∧
      (keys.map Prod.fst).Sublist versions ∧ ∀ v ∈ versions, ∀ pkcs8,
        loadKeyringPrivateKeyPkcs8 crypto storage userId v passphrase = .ok (some pkcs8) → (v, pkcs8) ∈ keys := by
  induction versions generalizing entries with
  | nil =>
    cases collected
    exact ⟨[], rfl, List.Sublist.refl _, fun v member => by cases member⟩
  | cons v rest ih =>
    rw [keyringEntries] at collected
    cases loaded : loadKeyringPrivateKeyPkcs8 crypto storage userId v passphrase with
    | error e => simp [loaded, bind, Except.bind] at collected
    | ok found =>
      cases later : keyringEntries crypto storage userId passphrase rest with
      | error e => simp [loaded, later, bind, Except.bind] at collected
      | ok more =>
        simp only [loaded, later, bind, Except.bind, Except.ok.injEq] at collected
        obtain ⟨keys, same, sub, all⟩ := ih later
        have others : ∀ w ∈ v :: rest, ∀ pkcs8, w ≠ v →
            loadKeyringPrivateKeyPkcs8 crypto storage userId w passphrase = .ok (some pkcs8) →
            (w, pkcs8) ∈ keys := by
          intro w member pkcs8 other held
          exact all w ((List.mem_cons.mp member).resolve_left other) pkcs8 held
        cases found with
        | none =>
          refine ⟨keys, by rw [← collected, same]; rfl, sub.cons v, fun w member pkcs8 held => ?_⟩
          by_cases first : w = v
          · rw [first, loaded] at held
            cases held
          · exact others w member pkcs8 first held
        | some bytes =>
          refine ⟨(v, bytes) :: keys, by rw [← collected, same]; rfl, sub.cons_cons v,
            fun w member pkcs8 held => ?_⟩
          by_cases first : w = v
          · rw [first, loaded] at held
            cases held
            rw [first]
            exact List.mem_cons_self
          · exact List.mem_cons_of_mem _ (others w member pkcs8 first held)

/-- Exported keys are imported under their versions; the rest of the profile stays. -/
theorem importEntries_keys (ideal : crypto.Ideal) {pass : String} {draws : Nat → WrapDraws}
    (normal : normalizePassphrase newPassphrase = .ok pass) {keys : List (Nat × List UInt8)}
    (positive : ∀ key ∈ keys, 1 ≤ key.1) (distinct : (keys.map Prod.fst).Nodup) (imported : List Nat) :
    ∃ stored, importEntries crypto userId newPassphrase draws (keys.map exportedEntry) imported storage =
        (.ok (imported ++ keys.map Prod.fst), stored) ∧ stored.deviceIdentity = storage.deviceIdentity ∧
      (∀ v, v ∉ keys.map Prod.fst →
        heldKey crypto stored userId newPassphrase v = heldKey crypto storage userId newPassphrase v) ∧
      ∀ key ∈ keys, heldKey crypto stored userId newPassphrase key.1 = crypto.importPkcs8 key.2 := by
  induction keys generalizing storage imported with
  | nil => exact ⟨storage, by simp [importEntries], rfl, fun v _ => rfl, fun key member => by cases member⟩
  | cons key rest ih =>
    rw [List.map_cons, List.nodup_cons] at distinct
    obtain ⟨fresh, distinct⟩ := distinct
    have legal := positive key List.mem_cons_self
    have parsed : (EcmaNumber.parseInt (toString key.1)).filter (fun keyVersion => 1 ≤ keyVersion) =
        some (key.1 : Int) := by
      have atLeast : (1 : Int) ≤ key.1 := by omega
      rw [EcmaNumber.parseInt_toString, Option.filter_some, if_pos (decide_eq_true atLeast)]
    obtain ⟨stored, written⟩ : ∃ stored, storeKeyringPrivateKeyPkcs8 crypto storage userId key.1 key.2
        newPassphrase none (draws imported.length) = .ok stored := by
      have legal' : ¬ key.1 < 1 := by omega
      simp [storeKeyringPrivateKeyPkcs8, legal', normal, bind, Except.bind]
    obtain ⟨-, identity, -⟩ := storeKeyring_listed written
    have held := storeKeyring_held ideal rfl written
    obtain ⟨final, ran, kept, others, all⟩ := @ih stored (fun key member => positive key
      (List.mem_cons_of_mem _ member)) distinct (imported ++ [key.1])
    have decoded : base64ToArrayBuffer (arrayBufferToBase64 key.2) = .ok key.2 := base64ToArrayBuffer_encode _
    refine ⟨final, ?_, kept.trans identity, fun v other => ?_, fun entry member => ?_⟩
    · rw [List.map_cons, exportedEntry]
      unfold importEntries
      simp only [parsed, decoded, bind, Except.bind, Int.toNat_natCast, written]
      rw [ran, List.map_cons, List.append_assoc, List.singleton_append]
    · rw [List.map_cons, List.mem_cons, not_or] at other
      rw [others v other.2, held v, if_neg other.1]
    · rcases List.mem_cons.mp member with rfl | later
      · rw [others _ fresh, held, if_pos rfl]
      · exact all entry later

end Entries

section File

variable {storage : KeyStorage} {userId passphrase backupPassphrase : String} {draws : BackupDraws}
  {wrap : WrapDraws}

theorem decode_stringify {members : List (String × Json)} :
    decodeText (utf8 (Json.object members).stringify) = (Json.object members).stringify ∧
      decodeTextFatal (utf8 (Json.object members).stringify) = .ok (Json.object members).stringify := by
  have back : TextCoding.decodeFrom {} (utf8 (Json.object members).stringify) =
      (Json.object members).stringify.toList := TextCoding.decodeFrom_encode _
  have noMark : TextCoding.dropByteOrderMark (Json.object members).stringify.toList =
      (Json.object members).stringify.toList := by
    rw [Json.stringify, String.toList_ofList, Json.write, List.cons_append]
    have other : '{' ≠ TextCoding.byteOrderMark := by decide
    rw [TextCoding.dropByteOrderMark, if_neg other]
  have text : decodeText (utf8 (Json.object members).stringify) = (Json.object members).stringify := by
    rw [decodeText, back, noMark, String.ofList_toList]
  refine ⟨text, ?_⟩
  unfold decodeTextFatal
  rw [back, text]
  exact if_pos rfl

theorem parse_object {members : List (String × Json)} (wf : (Json.object members).wellFormed = true) :
    parseBackupJson (Json.object members).stringify = .ok (.object members) := by
  unfold parseBackupJson
  rw [Json.parse_stringify wf]

/-- A decimal is a well-formed number. -/
theorem wellFormed_decimal (n : Nat) : (Json.number (toString n)).wellFormed = true := by
  have word : ∀ c ∈ (toString n).toList, Json.isWordChar c = true := by
    intro c member
    rw [EcmaNumber.toList_toString] at member
    simp [Json.isWordChar, Char.isAlphanum, EcmaNumber.isDigit_toDigits member]
  rw [Json.wellFormed, EcmaNumber.readLiteral_toString, Bool.and_eq_true, List.all_eq_true]
  exact ⟨word, rfl⟩

/-- The passphrase of the wrap opens the payload of a file. -/
theorem unwrapBackup_wrap (ideal : crypto.Ideal) (trimmed : EcmaText.trim backupPassphrase = backupPassphrase)
    (nonempty : backupPassphrase ≠ "") (plain : List UInt8) :
    unwrapBackup crypto (some (.number (toString PBKDF2_ITERATIONS_DEFAULT)))
      (Base64.encode wrap.salt.bytes) (Base64.encode wrap.iv.bytes)
      (Base64.encode (crypto.aesGcmEncrypt (crypto.pbkdf2 (utf8 backupPassphrase) wrap.salt.bytes
        PBKDF2_ITERATIONS_DEFAULT) wrap.iv.bytes plain)) backupPassphrase = .ok plain := by
  have opened := decryptPayload_wrap ideal trimmed nonempty plain PBKDF2_ITERATIONS_DEFAULT wrap
  have literal : EcmaNumber.unsignedLong (toString PBKDF2_ITERATIONS_DEFAULT) = some 310000 :=
    EcmaNumber.unsignedLong_toString (by decide)
  unfold unwrapBackup
  simp only [literal]
  exact opened

/-- A file opens with a backup passphrase that has no white space around it. -/
theorem openBackup_file (ideal : crypto.Ideal) (trimmed : EcmaText.trim backupPassphrase = backupPassphrase)
    (nonempty : backupPassphrase ≠ "") {members : List (String × Json)}
    (wf : (Json.object members).wellFormed = true)
    (format : Json.asString (Json.member members "format") = some KEYRING_BACKUP_FILE_FORMAT)
    (exportedAt : Nat) :
    openBackup crypto userId (utf8 (backupFileBody userId exportedAt (wrapPrivateKeyPkcs8 crypto
      (utf8 (Json.object members).stringify) backupPassphrase PBKDF2_ITERATIONS_DEFAULT wrap)).stringify)
      backupPassphrase = .ok members := by
  have opened := @unwrapBackup_wrap _ _ _ crypto backupPassphrase wrap ideal trimmed nonempty
    (utf8 (Json.object members).stringify)
  have bodyWf : (backupFileBody userId exportedAt (wrapPrivateKeyPkcs8 crypto
      (utf8 (Json.object members).stringify) backupPassphrase PBKDF2_ITERATIONS_DEFAULT wrap)).wellFormed =
        true := by
    have number := wellFormed_decimal PBKDF2_ITERATIONS_DEFAULT
    simp only [backupFileBody, wrapPrivateKeyPkcs8, wrappedJson, Json.wellFormed, Json.membersWellFormed,
      List.map_cons, List.map_nil] at number ⊢
    rw [number]
    decide
  obtain ⟨-, bodyText⟩ := @decode_stringify [("format", .string KEYRING_BACKUP_FILE_FORMAT),
    ("userId", .string userId), ("exportedAt", .string (EcmaDate.toISOString exportedAt)),
    ("wrapped", wrappedJson (wrapPrivateKeyPkcs8 crypto (utf8 (Json.object members).stringify)
      backupPassphrase PBKDF2_ITERATIONS_DEFAULT wrap))]
  have bodyParsed := parse_object bodyWf
  have iterations (i : Json) (rest : List (String × Json)) :
      Json.member (("pbkdf2Iterations", i) :: rest) "pbkdf2Iterations" = some i := by simp
  have salt (i s : Json) (rest : List (String × Json)) :
      Json.member (("pbkdf2Iterations", i) :: ("saltB64", s) :: rest) "saltB64" = some s := by simp
  have iv (i s v : Json) (rest : List (String × Json)) : Json.member
      (("pbkdf2Iterations", i) :: ("saltB64", s) :: ("ivB64", v) :: rest) "ivB64" = some v := by simp
  have ciphertext (i s v c : Json) : Json.member [("pbkdf2Iterations", i), ("saltB64", s), ("ivB64", v),
      ("ciphertextB64", c)] "ciphertextB64" = some c := by simp
  have wrapped (f u e w : Json) : Json.member [("format", f), ("userId", u), ("exportedAt", e),
      ("wrapped", w)] "wrapped" = some w := by simp
  have owner (f u : Json) (rest : List (String × Json)) :
      Json.member (("format", f) :: ("userId", u) :: rest) "userId" = some u := by simp
  have text (s : String) : Json.asString (some (.string s)) = some s := rfl
  unfold openBackup
  unfold backupFileBody at bodyParsed ⊢
  rw [bodyText]
  simp only [bind, Except.bind, bodyParsed, isRecord, Json.member_cons_self, text, owner, wrapped, ne_eq,
    not_true_eq_false, if_false]
  simp only [wrapPrivateKeyPkcs8, wrappedJson, iterations, salt, iv, ciphertext, stringOrEmpty, stringOf,
    opened]
  simp only [(@decode_stringify members).1, parse_object wf, format, not_true_eq_false, if_false]

/-- The strings of an object are well formed. -/
theorem membersWellFormed_strings (entries : List (String × String)) :
    Json.membersWellFormed (entries.map fun entry => (entry.1, Json.string entry.2)) = true := by
  induction entries with
  | nil => rfl
  | cons entry rest ih =>
    rw [List.map_cons, Json.membersWellFormed, ih]
    simp [Json.wellFormed]

theorem plaintext_wellFormed {entries : List (String × String)} (distinct : (entries.map Prod.fst).Nodup)
    (exportedAt : Nat) (deviceId : Option String) :
    (Json.object (backupPlaintext userId exportedAt deviceId entries)).wellFormed = true := by
  have names : ((entries.map fun entry => (entry.1, Json.string entry.2)).map Prod.fst).Nodup := by
    rw [List.map_map]
    exact distinct
  have inner : (Json.object (entries.map fun entry => (entry.1, .string entry.2))).wellFormed = true := by
    rw [Json.wellFormed, membersWellFormed_strings, Bool.and_true, decide_eq_true_eq]
    exact names
  cases deviceId with
  | none =>
    simp only [backupPlaintext, Option.map_none, Option.toList_none, List.append_nil, List.cons_append,
      List.nil_append, Json.wellFormed, Json.membersWellFormed, List.map_cons, List.map_nil] at inner ⊢
    rw [inner]
    decide
  | some d =>
    simp only [backupPlaintext, Option.map_some, Option.toList_some, List.cons_append,
      List.nil_append, Json.wellFormed, Json.membersWellFormed, List.map_cons, List.map_nil] at inner ⊢
    rw [inner]
    decide

/-- The versions of a keyring with one row a version are strictly ascending. -/
theorem listKeyringVersions_ascending (unique : (storage.keyring.map Prod.fst).Nodup) :
    (listKeyringVersions storage userId).Pairwise (· < ·) := by
  have sorted : (listKeyringVersions storage userId).Pairwise (· ≤ ·) := List.pairwise_insertionSort _ _
  have distinct : (listKeyringVersions storage userId).Nodup := by
    unfold listKeyringVersions
    rw [(List.perm_insertionSort _ _).nodup_iff]
    refine List.Nodup.map_on (fun a kept b kept' same => ?_) ((List.Nodup.of_map _ unique).filter _)
    have first := of_decide_eq_true (List.mem_filter.mp kept).2
    have second := of_decide_eq_true (List.mem_filter.mp kept').2
    exact List.inj_on_of_nodup_map unique (List.mem_filter.mp kept).1 (List.mem_filter.mp kept').1
      (Prod.ext (first.trans second.symm) same)
  exact (sorted.and distinct).imp fun both => Nat.lt_of_le_of_ne both.1 both.2

/-- A file of a keyring opens to the keys that can be loaded. -/
theorem build_opens (ideal : crypto.Ideal) {file : KeyringBackupFile} {legacyKeyVersion : Int}
    (trimmed : EcmaText.trim backupPassphrase = backupPassphrase) (nonempty : backupPassphrase ≠ "")
    (unique : (storage.keyring.map Prod.fst).Nodup)
    (loads : ∃ v own, heldKey crypto storage userId passphrase v = some own)
    (built : buildKeyringBackupBlob crypto storage userId passphrase backupPassphrase legacyKeyVersion draws =
      .ok file) :
    ∃ keys : List (Nat × List UInt8), openBackup crypto userId file.blob backupPassphrase =
        .ok (backupPlaintext userId draws.exportedAt (getStoredDeviceId storage userId)
          (keys.map fun key => (toString key.1, arrayBufferToBase64 key.2))) ∧
      (keys.map Prod.fst).Pairwise (· < ·) ∧
      (∀ key ∈ keys, key.1 ∈ listKeyringVersions storage userId) ∧
      ∀ v own, heldKey crypto storage userId passphrase v = some own →
        ∃ pkcs8, (v, pkcs8) ∈ keys ∧ crypto.importPkcs8 pkcs8 = some own := by
  obtain ⟨v, own, held⟩ := loads
  have keyed : 0 < (listKeyringVersions storage userId).length :=
    List.length_pos_of_mem (listed_of_heldKey held)
  cases collected : keyringEntries crypto storage userId passphrase (listKeyringVersions storage userId) with
  | error e => simp [buildKeyringBackupBlob, keyed, collected, bind, Except.bind] at built
  | ok entries =>
    simp only [buildKeyringBackupBlob, keyed, if_true, collected, bind, Except.bind, Except.ok.injEq] at built
    subst built
    obtain ⟨keys, same, sub, all⟩ := keyringEntries_spec collected
    have ascending : (keys.map Prod.fst).Pairwise (· < ·) :=
      (@listKeyringVersions_ascending storage userId unique).sublist sub
    have distinct : (keys.map Prod.fst).Nodup := ascending.imp fun less => Nat.ne_of_lt less
    have names : (entries.map Prod.fst).Nodup := by
      have texts : entries.map Prod.fst = (keys.map Prod.fst).map toString := by
        rw [same, List.map_map, List.map_map]
        rfl
      rw [texts]
      exact distinct.map fun _ _ => toString_nat_injective
    have format : Json.asString (Json.member (backupPlaintext userId draws.exportedAt
        (getStoredDeviceId storage userId) entries) "format") = some KEYRING_BACKUP_FILE_FORMAT := by
      rw [backupPlaintext, List.append_assoc, List.cons_append, Json.member_cons_self]
      rfl
    have opened := @openBackup_file _ _ _ crypto userId backupPassphrase draws.wrap ideal trimmed nonempty _
      (plaintext_wellFormed names draws.exportedAt (getStoredDeviceId storage userId)) format draws.exportedAt
    refine ⟨keys, by rw [opened, same], ascending, fun key member => sub.mem (List.mem_map_of_mem member),
      fun w key loaded => ?_⟩
    have listed := listed_of_heldKey loaded
    unfold heldKey at loaded
    split at loaded
    · rename_i pkcs8 found
      exact ⟨pkcs8, all w listed pkcs8 found, loaded⟩
    · cases loaded

/-- What the import reads of the payload. -/
theorem plaintext_members (exportedAt : Nat) (deviceId : Option String) (entries : List (String × String)) :
    Json.member (backupPlaintext userId exportedAt deviceId entries) "entries" =
        some (.object (entries.map fun entry => (entry.1, .string entry.2))) ∧
      Json.asString (Json.member (backupPlaintext userId exportedAt deviceId entries) "deviceId") =
        deviceId := by
  cases deviceId with
  | none => simp [backupPlaintext, Json.asString]
  | some d => simp [backupPlaintext, Json.asString]

/-- The private keys and the device id come back. -/
theorem import_build (ideal : crypto.Ideal) {newPassphrase pass : String} {file : KeyringBackupFile}
    {legacyKeyVersion : Int} {importDraws : Nat → WrapDraws}
    (trimmed : EcmaText.trim backupPassphrase = backupPassphrase) (nonempty : backupPassphrase ≠ "")
    (normal : normalizePassphrase newPassphrase = .ok pass)
    (unique : (storage.keyring.map Prod.fst).Nodup)
    (positive : ∀ v ∈ listKeyringVersions storage userId, 1 ≤ v)
    (loads : ∃ v own, heldKey crypto storage userId passphrase v = some own)
    (built : buildKeyringBackupBlob crypto storage userId passphrase backupPassphrase legacyKeyVersion draws =
      .ok file) :
    ∃ versions stored, importKeyringBackupFromArrayBuffer crypto {} userId file.blob backupPassphrase
        newPassphrase importDraws = (.ok (versions, getStoredDeviceId storage userId), stored) ∧
      getStoredDeviceId stored userId = getStoredDeviceId storage userId ∧
      ∀ v own, heldKey crypto storage userId passphrase v = some own →
        heldKey crypto stored userId newPassphrase v = some own := by
  obtain ⟨keys, opened, ascending, listed, all⟩ := build_opens ideal trimmed nonempty unique loads built
  obtain ⟨v, own, held⟩ := loads
  obtain ⟨pkcs8, member, -⟩ := all v own held
  have nonemptyKeys : keys.map Prod.fst ≠ [] := by
    intro none
    rw [List.map_eq_nil_iff.mp none] at member
    cases member
  obtain ⟨stored, imported, identity, -, keyHeld⟩ := @importEntries_keys _ _ _ crypto {} userId newPassphrase
    ideal pass importDraws normal keys (fun key member => positive key.1 (listed key member))
    (ascending.imp fun less => Nat.ne_of_lt less) []
  rw [List.nil_append] at imported
  have restored : ∀ v own, heldKey crypto storage userId passphrase v = some own →
      heldKey crypto stored userId newPassphrase v = some own := by
    intro v own loaded
    obtain ⟨pkcs8, member, key⟩ := all v own loaded
    rw [keyHeld _ member, key]
  obtain ⟨entries, device⟩ := @plaintext_members userId draws.exportedAt (getStoredDeviceId storage userId)
    (keys.map fun key => (toString key.1, arrayBufferToBase64 key.2))
  have members : (keys.map fun key => (toString key.1, arrayBufferToBase64 key.2)).map
      (fun entry => (entry.1, Json.string entry.2)) = keys.map exportedEntry := by
    rw [List.map_map]
    rfl
  rw [members] at entries
  have run_none : EcmaText.trim ((getStoredDeviceId storage userId).getD "") = "" →
      importKeyringBackupFromArrayBuffer crypto {} userId file.blob backupPassphrase newPassphrase
          importDraws = (.ok ((keys.map Prod.fst).insertionSort fun a b => a ≤ b, none), stored) := by
    intro none
    unfold importKeyringBackupFromArrayBuffer
    simp only [opened, entries, isRecord, objectEntries_ascending ascending, imported, nonemptyKeys, if_false,
      device, none, if_true]
  have run_some : ∀ d after, EcmaText.trim ((getStoredDeviceId storage userId).getD "") = d → d ≠ "" →
      setStoredDeviceId stored userId d = .ok after →
      importKeyringBackupFromArrayBuffer crypto {} userId file.blob backupPassphrase newPassphrase
          importDraws = (.ok ((keys.map Prod.fst).insertionSort fun a b => a ≤ b, some d), after) := by
    intro d after same nonempty written
    unfold importKeyringBackupFromArrayBuffer
    simp only [opened, entries, isRecord, objectEntries_ascending ascending, imported, nonemptyKeys, if_false,
      device, same, nonempty, written]
  cases identified : getStoredDeviceId storage userId with
  | none =>
    have absent : getStoredDeviceId stored userId = none := by
      unfold getStoredDeviceId
      rw [identity]
      rfl
    refine ⟨(keys.map Prod.fst).insertionSort fun a b => a ≤ b, stored, ?_, absent, restored⟩
    exact run_none (by rw [identified]; decide)
  | some d =>
    obtain ⟨plain, nonemptyId⟩ := getStoredDeviceId_trimmed identified
    obtain ⟨after, written, keyring, -, identity⟩ := @getStoredDeviceId_set stored userId d plain nonemptyId
    refine ⟨(keys.map Prod.fst).insertionSort fun a b => a ≤ b, after, ?_, identity,
      fun v own loaded => ?_⟩
    · exact run_some d after (by rw [identified, Option.getD_some, plain]) nonemptyId written
    · rw [heldKey_congr crypto keyring]
      exact restored v own loaded

end File

end MessagingSystem.Source.Client
