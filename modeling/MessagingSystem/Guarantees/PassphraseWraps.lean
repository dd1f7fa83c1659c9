import MessagingSystem.Source.Client.PrivateKeyWrap

/-!
# Passphrase wraps and their unwraps

A wrap uses the passphrase as it is, an unwrap trims it first. So the unwrap with
the same passphrase gives the bytes back only when nothing was there to trim.
The rows of the keyring are wrapped with a trimmed passphrase; a direct wrap and
the export of a backup are not. Passphrases are texts without lone surrogates, of which
`TextEncoder` makes the bytes of U+FFFD, so that two such passphrases derive one key.
-/
namespace MessagingSystem.Guarantees.PassphraseWraps
open Foundation Source.Client

variable {PublicKey PrivateKey Seed : Type} {crypto : WebCrypto PublicKey PrivateKey Seed}

/-- Ideal key derivation and AES-GCM: another passphrase derives another key, and a
ciphertext opens with its own key only. -/
structure IdealPassphrases (crypto : WebCrypto PublicKey PrivateKey Seed) : Prop where
  derive_injective : ∀ passphrase other salt iterations,
    crypto.pbkdf2 passphrase salt iterations = crypto.pbkdf2 other salt iterations → passphrase = other
  decrypt_encrypt : ∀ key iv plaintext, iv.length = 12 →
    crypto.aesGcmDecrypt key iv (crypto.aesGcmEncrypt key iv plaintext) = some plaintext
  decrypt_other : ∀ key other iv plaintext, other ≠ key →
    crypto.aesGcmDecrypt other iv (crypto.aesGcmEncrypt key iv plaintext) = none

/-- The unwrap with the passphrase gives the bytes back, and it fails with one that
is another after trimming. -/
def Undone (unwrap : String → Except CryptoError (List UInt8)) (bytes : List UInt8)
    (passphrase : String) : Prop :=
  unwrap passphrase = .ok bytes ∧
    ∀ other, EcmaText.trim other ≠ EcmaText.trim passphrase → ∃ e, unwrap other = .error e

section Wrap

variable {bytes : List UInt8} {passphrase other iterations : String} {draws : WrapDraws}
  {payload : WrappedPrivateKeyPayload}

theorem utf8_injective {s t : String} (same : utf8 s = utf8 t) : s = t := by
  have back (s : String) : TextCoding.decodeFrom {} (utf8 s) = s.toList := TextCoding.decodeFrom_encode _
  apply String.toList_injective
  rw [← back s, same, back t]

/-- What an unwrap of a wrap gives, for every passphrase. -/
theorem unwrapPayload_wrap (ideal : IdealPassphrases crypto)
    (wrapped : wrapWithIterations crypto bytes passphrase iterations draws = .ok payload) (other : String) :
    unwrapPayload crypto payload other =
      if EcmaText.trim other = "" then .error (.error "Passphrase must not be empty")
      else if EcmaText.trim other = passphrase then .ok bytes
      else .error (.error "Wrong passphrase or corrupted private key data") := by
  unfold wrapWithIterations at wrapped
  unfold unwrapPayload unwrapBackup
  unfold deriveIterations at wrapped
  cases converted : EcmaNumber.unsignedLong iterations with
  | none => simp [converted, bind, Except.bind] at wrapped
  | some n =>
    cases n with
    | zero => simp [converted, bind, Except.bind] at wrapped
    | succ n =>
      simp only [converted, bind, Except.bind, Except.ok.injEq] at wrapped
      subst wrapped
      simp only [converted, unwrapPrivateKeyPkcs8, base64ToArrayBuffer_encode, bind, Except.bind]
      by_cases blank : EcmaText.trim other = ""
      · simp only [blank, if_true]
      · simp only [blank, if_false]
        by_cases same : EcmaText.trim other = passphrase
        · rw [if_pos same, same, ideal.decrypt_encrypt _ _ _ draws.iv.length_eq]
        · have keys : crypto.pbkdf2 (utf8 (EcmaText.trim other)) draws.salt.bytes (n + 1) ≠
              crypto.pbkdf2 (utf8 passphrase) draws.salt.bytes (n + 1) := by
            intro derived
            exact same (utf8_injective (ideal.derive_injective _ _ _ _ derived))
          rw [if_neg same, ideal.decrypt_other _ _ _ _ keys]

/-- An unwrap that trims undoes the wraps with trimmed passphrases. -/
theorem undone_iff {unwrap : String → Except CryptoError (List UInt8)} {blank wrong : CryptoError}
    (trims : ∀ other, unwrap other = if EcmaText.trim other = "" then .error blank
      else if EcmaText.trim other = passphrase then .ok bytes else .error wrong) :
    Undone unwrap bytes passphrase ↔ EcmaText.Trimmed passphrase ∧ passphrase ≠ "" := by
  constructor
  · rintro ⟨opened, -⟩
    rw [trims] at opened
    split at opened
    · cases opened
    · rename_i nonempty
      split at opened
      · rename_i trimmed
        exact ⟨trimmed, trimmed ▸ nonempty⟩
      · cases opened
  · rintro ⟨trimmed, nonempty⟩
    have same : EcmaText.trim passphrase = passphrase := trimmed
    refine ⟨?_, fun other differs => ?_⟩
    · rw [trims, same, if_neg nonempty, if_pos rfl]
    · rw [same] at differs
      rw [trims, if_neg differs]
      split
      · exact ⟨blank, rfl⟩
      · exact ⟨wrong, rfl⟩

end Wrap

section File

variable {storage : KeyStorage} {userId storagePassphrase backupPassphrase iterations : String}
  {legacyKeyVersion : Int} {draws : BackupDraws} {file : KeyringBackupFile}

/-- The number of iterations of a wrap is written into a file as it is. -/
theorem iterations_wellFormed {n : Nat} (derived : deriveIterations iterations = .ok n) :
    (Json.number iterations).wellFormed = true := by
  unfold deriveIterations EcmaNumber.unsignedLong at derived
  cases read : EcmaNumber.readLiteral iterations.toList with
  | none => simp [read] at derived
  | some l => exact Json.wellFormed_of_readLiteral read

theorem backupFileMembers_wellFormed {payload : WrappedPrivateKeyPayload} (userId : String) (exportedAt : Nat)
    (number : (Json.number payload.pbkdf2Iterations).wellFormed = true) :
    (Json.object (backupFileMembers userId exportedAt payload)).wellFormed = true := by
  simp only [backupFileMembers, WrappedPrivateKeyPayload.json, Json.wellFormed, Json.membersWellFormed,
    List.map_cons, List.map_nil] at number ⊢
  rw [number]
  decide

/-- The import unwraps the payload the file was written with. -/
theorem unwrapFile_members {payload : WrappedPrivateKeyPayload} (exportedAt : Nat)
    (number : (Json.number payload.pbkdf2Iterations).wellFormed = true) (passphrase : String) :
    unwrapFile crypto userId (utf8 (Json.object (backupFileMembers userId exportedAt payload)).stringify)
      passphrase = unwrapPayload crypto payload passphrase := by
  have text := (@decode_stringify (backupFileMembers userId exportedAt payload)).2
  have parsed := parse_object (backupFileMembers_wellFormed userId exportedAt number)
  have format : Json.asString (Json.member (backupFileMembers userId exportedAt payload) "format") =
      some KEYRING_BACKUP_FILE_FORMAT := by simp [backupFileMembers, Json.asString]
  have owner : Json.asString (Json.member (backupFileMembers userId exportedAt payload) "userId") =
      some userId := by simp [backupFileMembers, Json.asString]
  have wrapped : Json.member (backupFileMembers userId exportedAt payload) "wrapped" = some payload.json := by
    simp [backupFileMembers]
  unfold unwrapFile
  simp only [text, parsed, bind, Except.bind, isRecord, format, owner, wrapped, ne_eq, not_true_eq_false,
    if_false]
  unfold WrappedPrivateKeyPayload.json unwrapPayload
  simp [stringOrEmpty, stringOf]

/-- A file unwraps like the payload in it, which holds the plaintext of the export. -/
theorem unwrapFile_build (built : buildWithIterations crypto storage userId storagePassphrase backupPassphrase
      legacyKeyVersion iterations draws = .ok file) :
    ∃ plaintext payload,
      backupPlaintextBytes crypto storage userId storagePassphrase legacyKeyVersion draws.exportedAt =
        .ok plaintext ∧
      wrapWithIterations crypto plaintext backupPassphrase iterations draws.wrap = .ok payload ∧
      ∀ passphrase, unwrapFile crypto userId file.blob passphrase = unwrapPayload crypto payload passphrase := by
  unfold buildWithIterations at built
  cases collected : backupPlaintextBytes crypto storage userId storagePassphrase legacyKeyVersion
      draws.exportedAt with
  | error e => simp [collected, bind, Except.bind] at built
  | ok plaintext =>
    cases wrapped : wrapWithIterations crypto plaintext backupPassphrase iterations draws.wrap with
    | error e => simp [collected, wrapped, bind, Except.bind] at built
    | ok payload =>
      simp only [collected, wrapped, bind, Except.bind, Except.ok.injEq] at built
      have number : (Json.number payload.pbkdf2Iterations).wellFormed = true := by
        unfold wrapWithIterations at wrapped
        cases derived : deriveIterations iterations with
        | error e => simp [derived, bind, Except.bind] at wrapped
        | ok n =>
          simp only [derived, bind, Except.bind, Except.ok.injEq] at wrapped
          subst wrapped
          exact iterations_wellFormed derived
      refine ⟨plaintext, payload, rfl, wrapped, fun passphrase => ?_⟩
      rw [← built]
      dsimp only
      exact unwrapFile_members draws.exportedAt number passphrase

end File

/-- The bytes of a wrap and of a backup file come back with the same passphrase, and with
no other, exactly when the passphrase has no white space around it and is not empty. -/
theorem unwrap_undoes_wrap_iff (ideal : IdealPassphrases crypto) :
    (∀ bytes passphrase iterations draws payload,
      wrapWithIterations crypto bytes passphrase iterations draws = .ok payload →
      (Undone (unwrapPayload crypto payload) bytes passphrase ↔
        EcmaText.Trimmed passphrase ∧ passphrase ≠ "")) ∧
    ∀ storage userId storagePassphrase backupPassphrase legacyKeyVersion iterations draws plaintext file,
      backupPlaintextBytes crypto storage userId storagePassphrase legacyKeyVersion draws.exportedAt =
        .ok plaintext →
      buildWithIterations crypto storage userId storagePassphrase backupPassphrase legacyKeyVersion iterations
        draws = .ok file →
      (Undone (unwrapFile crypto userId file.blob) plaintext backupPassphrase ↔
        EcmaText.Trimmed backupPassphrase ∧ backupPassphrase ≠ "") := by
  constructor
  · intro bytes passphrase iterations draws payload wrapped
    exact undone_iff (unwrapPayload_wrap ideal wrapped)
  · intro storage userId storagePassphrase backupPassphrase legacyKeyVersion iterations draws plaintext file
      collected built
    obtain ⟨exported, payload, same, wrapped, unwraps⟩ := unwrapFile_build built
    rw [collected] at same
    cases same
    apply undone_iff
    intro other
    rw [unwraps other]
    exact unwrapPayload_wrap ideal wrapped other

section Framed

/-- A key, framed so that no frame begins another one. -/
def framed (key : List UInt8) : List UInt8 := key.flatMap (fun byte => [1, byte]) ++ [0]

theorem framed_inj {key other rest : List UInt8}
    (begins : (framed other).isPrefixOf (framed key ++ rest) = true) : other = key := by
  induction other generalizing key with
  | nil =>
    cases key with
    | nil => rfl
    | cons byte key => simp [framed] at begins
  | cons first other ih =>
    cases key with
    | nil => simp [framed] at begins
    | cons byte key =>
      simp only [framed, List.flatMap_cons, List.cons_append, List.nil_append, List.isPrefixOf_cons_cons,
        beq_self_eq_true, Bool.true_and, Bool.and_eq_true, beq_iff_eq] at begins
      rw [begins.1, ih begins.2]

/-- A platform without secrecy whose keys are the passphrases themselves. -/
def framedCrypto : WebCrypto UInt8 UInt8 Unit :=
  { transparentCrypto with
    pbkdf2 := fun passphrase _ _ => passphrase
    aesGcmEncrypt := fun key _ plaintext => framed key ++ plaintext
    aesGcmDecrypt := fun key _ ciphertext =>
      if (framed key).isPrefixOf ciphertext then some (ciphertext.drop (framed key).length) else none }

theorem framedCrypto_ideal : IdealPassphrases framedCrypto where
  derive_injective _ _ _ _ same := same
  decrypt_encrypt key iv plaintext _ := by simp [framedCrypto]
  decrypt_other key other iv plaintext differs := by
    have apart : ¬ (framed other).isPrefixOf (framed key ++ plaintext) = true := fun begins =>
      differs (framed_inj begins)
    exact if_neg apart

theorem exists_of_isOk {α : Type} {result : Except CryptoError α} (succeeds : result.isOk = true) :
    ∃ value, result = .ok value := by
  cases result with
  | error e => cases succeeds
  | ok value => exact ⟨value, rfl⟩

/-- Draws that all came out zero, at the epoch. -/
def zeroDraws : BackupDraws := ⟨⟨RandomBytes.zero 16, RandomBytes.zero 12⟩, 0⟩

theorem iterations_derived : deriveIterations "10000" = .ok 10000 := by decide

/-- A wrap with a space before the passphrase does not open with that passphrase. -/
theorem spaced_passphrase_is_wrong :
    ∃ payload, wrapWithIterations framedCrypto [1, 2, 3] " secret" "10000" zeroDraws.wrap = .ok payload ∧
      unwrapPayload framedCrypto payload " secret" =
        .error (.error "Wrong passphrase or corrupted private key data") := by
  obtain ⟨payload, wrapped⟩ : ∃ payload,
      wrapWithIterations framedCrypto [1, 2, 3] " secret" "10000" zeroDraws.wrap = .ok payload := by
    simp [wrapWithIterations, iterations_derived, bind, Except.bind]
  refine ⟨payload, wrapped, ?_⟩
  rw [unwrapPayload_wrap framedCrypto_ideal wrapped]
  decide

/-- A profile with one key. -/
def keyedProfile : Except CryptoError KeyStorage :=
  storeKeyringPrivateKeyPkcs8 framedCrypto {} "ana" 1 [7] "open" none zeroDraws.wrap

theorem unwrap_undoes_wrap_iff_secret :
    (∃ payload, wrapWithIterations framedCrypto [1, 2, 3] "secret" "10000" zeroDraws.wrap = .ok payload ∧
      Undone (unwrapPayload framedCrypto payload) [1, 2, 3] "secret") ∧
    ∃ storage plaintext file, keyedProfile = .ok storage ∧
      backupPlaintextBytes framedCrypto storage "ana" "open" 1 0 = .ok plaintext ∧
      buildWithIterations framedCrypto storage "ana" "open" "secret" 1 "10000" zeroDraws = .ok file ∧
      Undone (unwrapFile framedCrypto "ana" file.blob) plaintext "secret" := by
  have plain : EcmaText.Trimmed "secret" ∧ "secret" ≠ "" := by decide
  obtain ⟨wraps, files⟩ := unwrap_undoes_wrap_iff framedCrypto_ideal
  constructor
  · obtain ⟨payload, wrapped⟩ : ∃ payload,
        wrapWithIterations framedCrypto [1, 2, 3] "secret" "10000" zeroDraws.wrap = .ok payload := by
      simp [wrapWithIterations, iterations_derived, bind, Except.bind]
    exact ⟨payload, wrapped, (wraps _ _ _ _ _ wrapped).mpr plain⟩
  · have checked : keyedProfile.toOption.map (fun storage =>
        (backupPlaintextBytes framedCrypto storage "ana" "open" 1 0).isOk &&
        (buildWithIterations framedCrypto storage "ana" "open" "secret" 1 "10000" zeroDraws).isOk) =
          some true := by decide
    obtain ⟨storage, keyed, exported⟩ := Option.map_eq_some_iff.mp checked
    rw [Bool.and_eq_true] at exported
    have stored : keyedProfile = .ok storage := by
      cases profile : keyedProfile with
      | error e =>
        rw [profile] at keyed
        cases keyed
      | ok found =>
        rw [profile] at keyed
        cases keyed
        rfl
    obtain ⟨plaintext, collected⟩ := exists_of_isOk exported.1
    obtain ⟨file, built⟩ := exists_of_isOk exported.2
    exact ⟨storage, plaintext, file, stored, collected, built,
      (files storage "ana" "open" "secret" 1 "10000" zeroDraws plaintext file collected built).mpr plain⟩

end Framed

end MessagingSystem.Guarantees.PassphraseWraps
