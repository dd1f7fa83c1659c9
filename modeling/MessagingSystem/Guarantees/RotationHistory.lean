import MessagingSystem.Protocol.KeyRotation

/-!
# History across key rotations

The keyring keeps a row for every version, but the receive path loads the
highest version only, and the legacy row while the keyring is empty. A message
is read as long as no version above the one that holds its key is filed.
-/
namespace MessagingSystem.Guarantees.RotationHistory
open Foundation Source.Server Source.Client Protocol

section

variable {PublicKey PrivateKey Seed : Type} {crypto : WebCrypto PublicKey PrivateKey Seed}
variable {profile : BrowserProfile} {deviceId : String}

/-- What the receive path makes of a message is its text, as the text encoding keeps it. -/
def Reads (crypto : WebCrypto PublicKey PrivateKey Seed) (profile : BrowserProfile)
    (s : RotationState PrivateKey) (m : ReceivedMessage) : Prop :=
  peerDecryption crypto s.storage profile.user.val profile.passphrase m.payload =
    .plaintext (TextCoding.decode (TextCoding.encode m.text))

/-- The profile still has the private key of the message, under a keyring
version or in the legacy row. -/
def KeyHeld (crypto : WebCrypto PublicKey PrivateKey Seed) (profile : BrowserProfile)
    (s : RotationState PrivateKey) (m : ReceivedMessage) (place : Option Nat) : Prop :=
  ∃ own, profile.keyAt crypto s.storage place = some own ∧
    importRecipientPublicEcdhP256 crypto m.publicKey = .ok (crypto.publicKeyOf own)

/-- A keyring version that is loaded before a place: every version comes before
the legacy row. -/
def Supersedes (v : Nat) : Option Nat → Prop
  | none => True
  | some w => w < v

/-- A step files a private key, its own or the legacy one, above a place. -/
def FilesAbove (crypto : WebCrypto PublicKey PrivateKey Seed) (profile : BrowserProfile)
    (place : Option Nat) (t : Transition (RotationState PrivateKey) (RotationEvent PrivateKey Seed)) :
    Prop :=
  ∃ v, filedVersion crypto profile t = some v ∧ Supersedes v place

/-- No version above a place is in the keyring, and none is filed after. -/
def StaysNewest (crypto : WebCrypto PublicKey PrivateKey Seed) (profile : BrowserProfile)
    (place : Option Nat) (s : RotationState PrivateKey)
    (after : List (Transition (RotationState PrivateKey) (RotationEvent PrivateKey Seed))) : Prop :=
  (∀ v ∈ profile.versions s.storage, ¬ Supersedes v place) ∧
    ∀ t ∈ after, ¬ FilesAbove crypto profile place t

/-- The keyring versions after a run: those before it and those it filed. -/
theorem versions_run {s t : RotationState PrivateKey}
    {history : List (Transition (RotationState PrivateKey) (RotationEvent PrivateKey Seed))}
    (run : (rotationMachine crypto profile).Run s history t) (v : Nat) :
    v ∈ profile.versions t.storage ↔ v ∈ profile.versions s.storage ∨
      ∃ t ∈ history, filedVersion crypto profile t = some v := by
  induction run with
  | nil => simp
  | @snoc history source target event earlier last ih =>
    rw [RotationStep.versions last v, ih]
    simp only [List.mem_append, List.mem_singleton, or_and_right, exists_or, exists_eq_left,
      or_assoc]

theorem staysNewest_iff {s t : RotationState PrivateKey} {place : Option Nat}
    {history : List (Transition (RotationState PrivateKey) (RotationEvent PrivateKey Seed))}
    (run : (rotationMachine crypto profile).Run s history t) :
    StaysNewest crypto profile place s history ↔
      ∀ v ∈ profile.versions t.storage, ¬ Supersedes v place := by
  constructor
  · rintro ⟨present, filed⟩ v listed above
    rcases (versions_run run v).mp listed with old | ⟨t, member, files⟩
    · exact present v old above
    · exact filed t member ⟨v, files, above⟩
  · intro none
    refine ⟨fun v old => none v ((versions_run run v).mpr (.inl old)), ?_⟩
    rintro t member ⟨v, files, above⟩
    exact none v ((versions_run run v).mpr (.inr ⟨t, member, files⟩)) above

/-- A run keeps the device that a profile is registered as. -/
theorem device_run {s t : RotationState PrivateKey}
    {history : List (Transition (RotationState PrivateKey) (RotationEvent PrivateKey Seed))}
    (run : (rotationMachine crypto profile).Run s history t) (own : PendingOwn profile s) :
    PendingOwn profile t ∧ ∀ d, getStoredDeviceId s.storage profile.user.val = some d →
      getStoredDeviceId t.storage profile.user.val = some d := by
  refine run.invariant (I := fun t => PendingOwn profile t ∧
    ∀ d, getStoredDeviceId s.storage profile.user.val = some d →
      getStoredDeviceId t.storage profile.user.val = some d) ?_ ⟨own, fun _ held => held⟩
  rintro s label s' ⟨own, kept⟩ taken
  obtain ⟨own', keeps⟩ := RotationStep.device taken own
  exact ⟨own', fun d held => keeps d (kept d held)⟩

/-- The keys stay apart over a run of rotations with the profile's passphrase. -/
theorem distinctKeys_run (ideal : crypto.Ideal) {s t : RotationState PrivateKey}
    {history : List (Transition (RotationState PrivateKey) (RotationEvent PrivateKey Seed))}
    (run : (rotationMachine crypto profile).Run s history t) (keys : DistinctKeys crypto profile s)
    (passphrases : ∀ t ∈ history, UsesProfilePassphrase profile t) : DistinctKeys crypto profile t :=
  run.invariant_of_forall (I := DistinctKeys crypto profile)
    (fun _ _ _ keys taken condition => keys.step ideal taken condition) keys passphrases

/-- The place of a held key is the one that is loaded exactly when no version
above it is in the keyring. -/
theorem newest_iff {s : RotationState PrivateKey} {m : ReceivedMessage} {place : Option Nat}
    (held : KeyHeld crypto profile s m place) :
    (profile.versions s.storage).max? = place ↔
      ∀ v ∈ profile.versions s.storage, ¬ Supersedes v place := by
  obtain ⟨own, key, -⟩ := held
  cases place with
  | none =>
    rw [List.max?_eq_none_iff, List.eq_nil_iff_forall_not_mem]
    simp [Supersedes]
  | some w =>
    have listed : w ∈ profile.versions s.storage := listed_of_heldKey key
    simp only [List.max?_eq_some_iff, listed, true_and, Supersedes, not_lt]

/-- Whatever a profile holds at the start, a message whose key it still holds is
read after any run in which no version above that key's has been filed; when no
key is held twice at the start, only then. -/
theorem history_readable_iff (ideal : crypto.Ideal) (profile : BrowserProfile)
    (start s s' final : RotationState PrivateKey) (event : RotationEvent PrivateKey Seed)
    (before after :
      List (Transition (RotationState PrivateKey) (RotationEvent PrivateKey Seed)))
    (m : ReceivedMessage) (place : Option Nat)
    (idle : (rotationMachine crypto profile).init start)
    (earlier : (rotationMachine crypto profile).Run start before s)
    (sent : (rotationMachine crypto profile).step s event s')
    (appended : s'.received = s.received ++ [m])
    (later : (rotationMachine crypto profile).Run s' after final)
    (held : KeyHeld crypto profile final m place) :
    (StaysNewest crypto profile place s after → Reads crypto profile final m) ∧
    (NoKeyTwice crypto profile start.storage →
      (∀ t ∈ before ++ after, UsesProfilePassphrase profile t) →
      Reads crypto profile final m → StaysNewest crypto profile place s after) := by
  obtain ⟨⟨draws, text, devices, rfl⟩, storage, deviceId, device, hybrid, drawn, recipient,
    encrypts, imported, slot⟩ := RotationStep.sent sent appended
  have atSend := (device_run (earlier.snoc sent) (by simp [PendingOwn, idle.1])).1
  have atEnd := (device_run later atSend).2 deviceId (storage ▸ device)
  have stays : StaysNewest crypto profile place s after ↔
      ∀ v ∈ profile.versions final.storage, ¬ Supersedes v place := by
    rw [← staysNewest_iff later, StaysNewest, StaysNewest, storage]
  have reads : Reads crypto profile final m ↔ ∃ own, profile.keyAt crypto final.storage
      (profile.versions final.storage).max? = some own ∧ crypto.publicKeyOf own = recipient :=
    peerDecryption_iff ideal atEnd encrypts slot
  rw [stays, reads, ← newest_iff held]
  obtain ⟨own, key, matching⟩ := held
  have same : crypto.publicKeyOf own = recipient :=
    (Except.ok.inj (imported.symm.trans matching)).symm
  constructor
  · intro newest
    exact ⟨own, newest ▸ key, same⟩
  · rintro distinct passphrases ⟨other, newest, equal⟩
    have initial : DistinctKeys crypto profile start :=
      ⟨distinct, by simp [idle.1], by simp [idle.1], by simp [idle.1]⟩
    have given : ∀ t ∈ before ++ [⟨s, .send draws text devices, s'⟩] ++ after,
        UsesProfilePassphrase profile t := by
      intro t taken
      rw [List.mem_append, List.mem_append, List.mem_singleton] at taken
      rcases taken with (member | rfl) | member
      · exact passphrases t (List.mem_append_left _ member)
      · exact trivial
      · exact passphrases t (List.mem_append_right _ member)
    have keys := distinctKeys_run ideal (Machine.Run.append (earlier.snoc sent) later) initial given
    exact keys.stored _ _ other own newest key (equal.trans same.symm)

end

section Runs

/-- Random values that all came out zero. -/
def zeroWrap : WrapDraws where
  salt := .zero 16
  iv := .zero 12

def zeroHybrid : HybridDraws Unit where
  messageKey := .zero 32
  iv := .zero 12
  seed _ := ()

def alice : BrowserProfile := ⟨UserId.alice, "secret"⟩

def spki (own : UInt8) : String := exportPublicKeySpkiBase64 transparentCrypto own

theorem import_spki (own : UInt8) :
    importRecipientPublicEcdhP256 transparentCrypto (spki own) = .ok own :=
  importRecipient_export transparentCrypto_ideal own

def phoneRow : UserPublicKeyDocument :=
  { userId := "alice", deviceId := "phone", publicKey := spki 1, deviceLabel := none
    lastSeenAt := none, createdAt := 1, updatedAt := 1, keyVersion := some 1 }

/-- The profile of a phone that has registered its first key. -/
def phone : RotationState UInt8 where
  storage :=
    { keyring := [(("alice", 1), ⟨some (spki 1), wrapPrivateKeyPkcs8 transparentCrypto [1] "secret"
        PBKDF2_ITERATIONS_DEFAULT zeroWrap⟩)]
      deviceIdentity := [("alice", "phone")] }
  db := { userDevicePublicKeys := [phoneRow] }

theorem phone_idle : (rotationMachine transparentCrypto alice).init phone := ⟨rfl, rfl⟩

/-- The phone holds one key. -/
theorem phone_key {place : Option Nat} {own : UInt8}
    (key : alice.keyAt transparentCrypto phone.storage place = some own) : place = some 1 ∧ own = 1 := by
  cases place with
  | none =>
    have absent : alice.keyAt transparentCrypto phone.storage none = none := by decide
    cases absent.symm.trans key
  | some v =>
    have listed : v ∈ listKeyringVersions phone.storage "alice" := listed_of_heldKey key
    obtain rfl : v = 1 := List.mem_singleton.mp listed
    have first : alice.keyAt transparentCrypto phone.storage (some 1) = some 1 := by decide
    exact ⟨rfl, (Option.some.inj (first.symm.trans key)).symm⟩

theorem phone_distinct : NoKeyTwice transparentCrypto alice phone.storage := by
  intro place other own twin first second _
  rw [(phone_key first).1, (phone_key second).1]

/-- A message for the phone, wrapped for its first key. -/
def greeting : ReceivedMessage where
  payload := (encryptUtf8ToHybridSendPayload transparentCrypto zeroHybrid [0x68, 0x69]
    [⟨"phone", spki 1⟩]).toOption.getD ⟨"", "", "", ∅⟩
  text := [0x68, 0x69]
  publicKey := spki 1

/-- The phone with the message. -/
def greeted : RotationState UInt8 := { phone with received := [greeting] }

theorem phone_greeted : RotationStep transparentCrypto alice phone
    (.send zeroHybrid [0x68, 0x69] [⟨"phone", spki 1⟩]) greeted :=
  .send phone zeroHybrid [0x68, 0x69] [⟨"phone", spki 1⟩] "phone" phoneRow greeting.payload
    (by decide) (by decide) (by simp [phoneRow]) (by simp) rfl (by decide)

def rotation : RotationDraws UInt8 := ⟨2, zeroWrap, "", 2⟩

/-- A second key is registered, and the tab is closed before it is stored. -/
def interrupted : RotationState UInt8 := greeted.register transparentCrypto alice "secret" rotation

theorem greeted_interrupted : RotationStep transparentCrypto alice greeted
    (.register "secret" rotation) interrupted := by
  refine .register greeted "secret" rotation ⟨fun place own key => ?_, by simp [greeted, phone]⟩
  rw [(phone_key key).2]
  decide

def secondKey : PendingRotation UInt8 := ⟨2, ⟨"phone", spki 2, 2⟩, "secret"⟩

/-- The rotation completes: the keyring has both keys. -/
def rotated : RotationState UInt8 := interrupted.store transparentCrypto alice 0 secondKey zeroWrap

theorem interrupted_rotated : RotationStep transparentCrypto alice interrupted (.store 0 zeroWrap)
    rotated := .store interrupted 0 zeroWrap secondKey rfl

/-- What becomes of the phone after the message. -/
theorem greeted_rotated : (rotationMachine transparentCrypto alice).Run greeted
    [⟨greeted, .register "secret" rotation, interrupted⟩, ⟨interrupted, .store 0 zeroWrap, rotated⟩]
    rotated :=
  .snoc (.snoc .nil greeted_interrupted) interrupted_rotated

theorem greeting_read_until_stored :
    Reads transparentCrypto alice interrupted greeting ∧
      ¬ Reads transparentCrypto alice rotated greeting := by
  constructor
  · refine (history_readable_iff transparentCrypto_ideal alice phone phone greeted interrupted
      (.send zeroHybrid [0x68, 0x69] [⟨"phone", spki 1⟩]) []
      [⟨greeted, .register "secret" rotation, interrupted⟩] greeting (some 1) phone_idle .nil
      phone_greeted rfl (.snoc .nil greeted_interrupted) ⟨1, by decide, import_spki 1⟩).1
      ⟨fun v listed => ?_, fun t member => ?_⟩
    · obtain rfl : v = 1 := List.mem_singleton.mp (show v ∈ [1] from listed)
      exact lt_irrefl 1
    · obtain rfl := List.mem_singleton.mp member
      rintro ⟨v, filed, -⟩
      have none : filedVersion transparentCrypto alice
          ⟨greeted, .register "secret" rotation, interrupted⟩ = none := by decide
      cases none.symm.trans filed
  · intro read
    have stays := (history_readable_iff transparentCrypto_ideal alice phone phone greeted rotated
      (.send zeroHybrid [0x68, 0x69] [⟨"phone", spki 1⟩]) []
      [⟨greeted, .register "secret" rotation, interrupted⟩,
        ⟨interrupted, .store 0 zeroWrap, rotated⟩] greeting (some 1) phone_idle .nil phone_greeted
      rfl greeted_rotated ⟨1, by decide, import_spki 1⟩).2 phone_distinct (fun t member => ?_) read
    · exact stays.2 _ (List.mem_cons_of_mem _ List.mem_cons_self)
        ⟨2, by decide, Nat.lt_succ_self 1⟩
    · simp only [List.nil_append, List.mem_cons, List.not_mem_nil, or_false] at member
      rcases member with rfl | rfl
      · exact rfl
      · exact trivial

theorem greeting_lost :
    ¬ ∀ (profile : BrowserProfile) (start s s' final : RotationState UInt8)
      (event : RotationEvent UInt8 Unit)
      (before after : List (Transition (RotationState UInt8) (RotationEvent UInt8 Unit)))
      (m : ReceivedMessage) (place : Option Nat),
      (rotationMachine transparentCrypto profile).init start →
      (rotationMachine transparentCrypto profile).Run start before s →
      (rotationMachine transparentCrypto profile).step s event s' →
      s'.received = s.received ++ [m] →
      (rotationMachine transparentCrypto profile).Run s' after final →
      KeyHeld transparentCrypto profile final m place → Reads transparentCrypto profile final m := by
  intro claim
  have read := claim alice phone phone greeted rotated _ [] _ greeting (some 1) phone_idle .nil
    phone_greeted rfl greeted_rotated ⟨1, by decide, import_spki 1⟩
  have failed : peerDecryption transparentCrypto rotated.storage alice.user.val alice.passphrase
      greeting.payload = .cryptoFailed := by decide
  unfold Reads at read
  rw [failed] at read
  cases read

end Runs

end MessagingSystem.Guarantees.RotationHistory
