import MessagingSystem.Foundation.Transition
import MessagingSystem.Source.Client.EnsureEffects

/-!
# Keyring and directory

Bootstraps, rotations and deletions of this device on the service, one after the
other, from an empty browser profile. The keyring orders its keys by the version
that the service counts, and the service counts from 1 again after a deletion:
a rotation then gets a version that the keyring has passed.
-/
namespace MessagingSystem.Guarantees.KeyringAgreement
open Foundation Source Source.Server Source.Client

inductive KeyringEvent (PrivateKey : Type) where
  | ensure (draws : EnsureDraws PrivateKey)
  | rotate (storagePassphrase : AcceptedPassphrase) (draws : RotationDraws PrivateKey) (wrap : WrapDraws)
  | deleteDevice

abbrev KeyringTransition (PrivateKey : Type) := Transition BootState (KeyringEvent PrivateKey)

variable {PublicKey PrivateKey Seed : Type} (crypto : WebCrypto PublicKey PrivateKey Seed)
  (user : UserId) (passphrase : AcceptedPassphrase)

/-- The state after an event. -/
def afterEvent (s : BootState) : KeyringEvent PrivateKey → BootState
  | .ensure draws =>
      ((ensureUserKeypairReadyForMessaging crypto user passphrase draws).exec crypto s).2
  | .rotate storagePassphrase draws wrap =>
      (rotateUserKeypairOnServer crypto user storagePassphrase.val draws wrap s).2
  | .deleteDevice =>
      match getStoredDeviceId s.storage user.val with
      | some deviceId =>
          { s with db := (ServerProgram.exec (deleteDeviceForUser user.val deviceId) s.db).2 }
      | none => s

/-- Nothing fails on the way, and the pair that is drawn is new. -/
def Unfailing (s : BootState) : KeyringEvent PrivateKey → Prop
  | .ensure draws => draws.failedAttempts = [] ∧ UnregisteredPair crypto s.db draws.pair
  | .rotate _ draws _ => UnregisteredPair crypto s.db draws.pair
  | .deleteDevice => True

instance (s : BootState) (event : KeyringEvent PrivateKey) : Decidable (Unfailing crypto s event) :=
  match event with
  | .ensure draws => inferInstanceAs (Decidable (draws.failedAttempts = [] ∧
      ∀ row ∈ s.db.userDevicePublicKeys,
        row.publicKey ≠ exportPublicKeySpkiBase64 crypto (crypto.publicKeyOf draws.pair)))
  | .rotate _ draws _ => inferInstanceAs (Decidable (∀ row ∈ s.db.userDevicePublicKeys,
      row.publicKey ≠ exportPublicKeySpkiBase64 crypto (crypto.publicKeyOf draws.pair)))
  | .deleteDevice => .isTrue trivial

def keyringMachine : Machine BootState (KeyringEvent PrivateKey) where
  init s := s.storage = {} ∧ s.db.WellFormed
  step s event t := Unfailing crypto s event ∧ t = afterEvent crypto user passphrase s event

/-- No private key of the keyring is overwritten. -/
def KeysKept (t : KeyringTransition PrivateKey) : Prop :=
  ∀ v pass own, heldKey crypto t.source.storage user.val pass v = some own →
    heldKey crypto t.target.storage user.val pass v = some own

/-- A bootstrap does not throw, and keyring and directory agree after it. -/
def EnsureAgrees (s : BootState) : Prop :=
  ∀ draws : EnsureDraws PrivateKey, Unfailing crypto s (.ensure draws) →
    ∃ t, (ensureUserKeypairReadyForMessaging crypto user passphrase draws).exec crypto s = (.ok (), t) ∧
      Agrees user t

/-- A rotation is refused, because no device of the user is registered, or it
gets a version above all versions of the keyring. -/
def rotatesAbove (t : KeyringTransition PrivateKey) : Bool :=
  match t.label with
  | .rotate .. =>
      (ServerCommand.exec (.listDevices user.val) t.source.db).1.isEmpty ||
        (listKeyringVersions t.source.storage user.val).all fun v =>
          v < nextVersion t.source.db user.val (currentDevice t.source.storage user.val)
  | _ => true

/-- A profile the bootstrap can work from, without a legacy key. -/
structure KeyringState (s : BootState) : Prop where
  recoverable : Recoverable user s
  noLegacy : OrderedMap.get s.storage.legacy user.val = none

variable {crypto user passphrase} {s : BootState}

theorem KeyringState.initial (empty : s.storage = {}) (wf : s.db.WellFormed) : KeyringState user s := by
  have noDevice : getStoredDeviceId s.storage user.val = none := by
    rw [empty]
    rfl
  have noKey : listKeyringVersions s.storage user.val = [] := by
    rw [empty]
    rfl
  refine ⟨⟨wf, fun d held => ?_, fun _ d held => ?_, fun keyed => absurd noKey keyed⟩, by rw [empty]; rfl⟩
  · rw [noDevice] at held
    cases held
  · rw [noDevice] at held
    cases held

theorem KeyringState.ensureAgrees (ideal : crypto.Ideal) (spkis : crypto.NonemptySpki)
    (state : KeyringState user s) : EnsureAgrees crypto user passphrase s := by
  intro draws unfailing
  obtain ⟨t, ran, agrees, -, -, -⟩ := @ensure_recovers _ _ _ crypto s user passphrase draws ideal spkis
    state.recoverable unfailing.1 unfailing.2
  exact ⟨t, ran, agrees⟩

/-- The deletion of this device leaves the profile, and a directory without its row. -/
theorem delete_recoverable (recoverable : Recoverable user s) :
    Recoverable user (afterEvent crypto user passphrase s .deleteDevice) ∧
      (afterEvent crypto user passphrase s .deleteDevice).storage = s.storage := by
  unfold afterEvent
  cases device : getStoredDeviceId s.storage user.val with
  | none => exact ⟨recoverable, rfl⟩
  | some d =>
    obtain ⟨trimmed, -⟩ := getStoredDeviceId_trimmed device
    have ran : (ServerProgram.exec (deleteDeviceForUser user.val d) s.db).2 =
        (ServerCommand.exec (.deleteDevice user.val d) s.db).2 := by
      unfold deleteDeviceForUser
      rw [user.trim_val, trimmed]
      rfl
    have rows : ∀ row ∈ (ServerCommand.exec (.deleteDevice user.val d) s.db).2.userDevicePublicKeys,
        row ∈ s.db.userDevicePublicKeys := fun row member => List.mem_of_mem_eraseP member
    have gone := @findDeviceRow_delete s.db user.val d recoverable.wellFormed
    dsimp only
    rw [ran]
    refine ⟨⟨ServerCommand.exec_wellFormed _ _ recoverable.wellFormed, recoverable.short, fun unkeyed d' held listed => ?_,
      fun keyed => ?_⟩, rfl⟩
    · obtain ⟨row, member, own, same⟩ := listed
      exact recoverable.unkeyed unkeyed d' held ⟨row, rows row member, own, same⟩
    · obtain ⟨spki, active, trimmed, nonempty, -⟩ := recoverable.keyed keyed
      refine ⟨spki, active, trimmed, nonempty, fun d' key held found => ?_⟩
      rw [← Option.some.inj (device.symm.trans held), Database.storedKey, gone] at found
      cases found

/-- A step that meets the condition keeps the state in order and loses no key. -/
theorem KeyringState.step (ideal : crypto.Ideal) (spkis : crypto.NonemptySpki)
    (state : KeyringState user s) {event : KeyringEvent PrivateKey} {t : BootState}
    (taken : (keyringMachine crypto user passphrase).step s event t)
    (above : rotatesAbove user ⟨s, event, t⟩ = true) :
    KeyringState user t ∧ KeysKept crypto user ⟨s, event, t⟩ := by
  obtain ⟨unfailing, rfl⟩ := taken
  obtain ⟨recoverable, noLegacy⟩ := state
  cases event with
  | ensure draws =>
    obtain ⟨t, ran, -, after, legacy, kept⟩ := @ensure_recovers _ _ _ crypto s user passphrase draws ideal
      spkis recoverable unfailing.1 unfailing.2
    have target : afterEvent crypto user passphrase s (.ensure draws) = t := congrArg Prod.snd ran
    rw [target]
    exact ⟨⟨after, by rw [legacy]; exact noLegacy⟩, kept⟩
  | rotate storagePassphrase draws wrap =>
    have higher : (ServerCommand.exec (.listDevices user.val) s.db).1.isEmpty = true ∨
        ∀ v ∈ listKeyringVersions s.storage user.val,
          v < nextVersion s.db user.val (currentDevice s.storage user.val) := by
      simpa [rotatesAbove, List.all_eq_true] using above
    obtain ⟨result, t, ran, after, legacy, kept⟩ := @rotate_recovers _ _ _ crypto s user
      storagePassphrase.val draws wrap spkis recoverable (.inr noLegacy) storagePassphrase.accepted
      unfailing higher
    have target : afterEvent crypto user passphrase s (.rotate storagePassphrase draws wrap) = t :=
      congrArg Prod.snd ran
    rw [target]
    exact ⟨⟨after, by rw [legacy]; exact noLegacy⟩, kept⟩
  | deleteDevice =>
    obtain ⟨after, storage⟩ := @delete_recoverable _ _ _ crypto user passphrase s recoverable
    refine ⟨⟨after, by rw [storage]; exact noLegacy⟩, fun v pass own held => ?_⟩
    dsimp only
    rw [storage]
    exact held

/-- In every run whose rotations get a version above the keyring, a bootstrap
succeeds in every state reached and leaves keyring and directory in agreement,
and no stored private key is ever overwritten. -/
theorem keyring_and_directory_agree (ideal : crypto.Ideal) (spkis : crypto.NonemptySpki)
    {start final : BootState} {history : List (KeyringTransition PrivateKey)}
    (init : (keyringMachine crypto user passphrase).init start)
    (run : (keyringMachine crypto user passphrase).Run start history final)
    (above : ∀ t ∈ history, rotatesAbove user t = true) :
    EnsureAgrees crypto user passphrase final ∧
      ∀ t ∈ history, KeysKept crypto user t ∧ EnsureAgrees crypto user passphrase t.source ∧
        EnsureAgrees crypto user passphrase t.target := by
  have initial := @KeyringState.initial user start init.1 init.2
  have preserved : ∀ s event t, KeyringState user s →
      (keyringMachine crypto user passphrase).step s event t →
      rotatesAbove user ⟨s, event, t⟩ = true → KeyringState user t :=
    fun s event t state taken above => (state.step ideal spkis taken above).1
  have last := run.invariant_of_forall preserved initial above
  refine ⟨last.ensureAgrees ideal spkis, fun t member => ?_⟩
  obtain ⟨taken, source, target⟩ := run.recorded_of_forall preserved initial above t member
  have kept := (source.step ideal spkis taken (above t member)).2
  exact ⟨kept, source.ensureAgrees ideal spkis, target.ensureAgrees ideal spkis⟩

section Runs

open UserId (alice)

def secret : AcceptedPassphrase := ⟨"secret", "secret", by rfl⟩

def zeroWrap : WrapDraws := ⟨⟨List.replicate 16 0, rfl⟩, ⟨List.replicate 12 0, rfl⟩⟩

def phoneId : DrawnDeviceId := ⟨"phone", by decide, by decide, by decide, by decide⟩

def ensure (own : UInt8) : KeyringEvent UInt8 :=
  .ensure { pair := own, clientDeviceId := phoneId, wrap := zeroWrap, now := 1 }

def rotate (own : UInt8) : KeyringEvent UInt8 := .rotate secret ⟨own, zeroWrap, "", 1⟩ zeroWrap

/-- Another device of alice is registered; this browser's profile is empty. -/
def newBrowser : BootState where
  storage := {}
  db := { userDevicePublicKeys := [{ userId := "alice", deviceId := "laptop", publicKey := "k0", createdAt := 0
                                     updatedAt := 0, deviceLabel := none, lastSeenAt := none
                                     keyVersion := some 1 }] }

theorem newBrowser_init : (keyringMachine transparentCrypto alice secret).init newBrowser :=
  ⟨rfl, List.nodup_nil, by decide⟩

theorem transparentCrypto_spkis : transparentCrypto.NonemptySpki := fun key empty => by cases empty

/-- The recorded run of events. -/
def ran (events : List (KeyringEvent UInt8)) : Option (List (KeyringTransition UInt8) × BootState) :=
  Machine.trace (fun s event => if Unfailing transparentCrypto s event then
    some (afterEvent transparentCrypto alice secret s event) else none) newBrowser events

theorem ran_run {events : List (KeyringEvent UInt8)} {history : List (KeyringTransition UInt8)}
    {final : BootState} (executed : ran events = some (history, final)) :
    (keyringMachine transparentCrypto alice secret).Run newBrowser history final := by
  refine Machine.trace_run _ (fun s event t taken => ?_) executed
  split at taken
  · rename_i unfailing
    exact ⟨unfailing, (Option.some.inj taken).symm⟩
  · cases taken

/-- A rotation, a deletion and a new registration of the active key. -/
theorem keyring_and_directory_agree_registered_again :
    ∃ history final, (keyringMachine transparentCrypto alice secret).Run newBrowser history final ∧
      listKeyringVersions final.storage "alice" = [1, 2] ∧
      EnsureAgrees transparentCrypto alice secret final := by
  have checked : (ran [ensure 1, rotate 2, .deleteDevice, ensure 3]).map (fun executed =>
      (executed.1.all (rotatesAbove alice), listKeyringVersions executed.2.storage "alice")) =
      some (true, [1, 2]) := by decide
  obtain ⟨⟨history, final⟩, executed, same⟩ := Option.map_eq_some_iff.mp checked
  obtain ⟨above, versions⟩ := Prod.mk.inj same
  exact ⟨history, final, ran_run executed, versions, (keyring_and_directory_agree transparentCrypto_ideal
    transparentCrypto_spkis newBrowser_init (ran_run executed) (List.all_eq_true.mp above)).1⟩

/-- After a deletion a rotation gets version 1 again, and the first private key is lost. -/
theorem first_key_overwritten :
    ¬ ∀ (start final : BootState) (history : List (KeyringTransition UInt8)),
      (keyringMachine transparentCrypto alice secret).init start →
      (keyringMachine transparentCrypto alice secret).Run start history final →
      EnsureAgrees transparentCrypto alice secret final ∧
        ∀ t ∈ history, KeysKept transparentCrypto alice t := by
  intro claim
  have checked : (ran [ensure 1, .deleteDevice, rotate 2]).bind (fun executed =>
      executed.1.getLast?.map fun t => (heldKey transparentCrypto t.source.storage "alice" "secret" 1,
        heldKey transparentCrypto t.target.storage "alice" "secret" 1)) = some (some 1, some 2) := by decide
  obtain ⟨⟨history, final⟩, executed, last⟩ := Option.bind_eq_some_iff.mp checked
  obtain ⟨t, found, same⟩ := Option.map_eq_some_iff.mp last
  obtain ⟨before, after⟩ := Prod.mk.inj same
  have kept := (claim newBrowser final history newBrowser_init (ran_run executed)).2 t
    (List.mem_of_getLast? found) 1 "secret" 1 before
  cases after.symm.trans kept

end Runs

end MessagingSystem.Guarantees.KeyringAgreement
