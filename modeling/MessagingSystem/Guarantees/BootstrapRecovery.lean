import MessagingSystem.Protocol.BootAligned
import MessagingSystem.Protocol.BootPair

/-!
# Recovery of the key pair bootstrap

Two bootstraps that interleave and may be cut off anywhere. Once none is active
a further bootstrap succeeds, unless a run was cut off between storing its device
id and storing its private key, or stored its key over that of the run whose
device id is stored.
-/
namespace MessagingSystem.Guarantees.BootstrapRecovery
open Foundation Source Source.Server Source.Client Protocol

variable {PublicKey PrivateKey Seed : Type} {crypto : WebCrypto PublicKey PrivateKey Seed}
  {user : UserId} {passphrase : AcceptedPassphrase}

/-- No run is active. -/
def Idle (s : BootPool PrivateKey) : Prop := ∀ entry ∈ s.calls, ∃ result, entry.2 = .done result

/-- A further bootstrap without failures succeeds and leaves a working device. -/
def Recovers (crypto : WebCrypto PublicKey PrivateKey Seed) (user : UserId)
    (passphrase : AcceptedPassphrase) (s : BootState) : Prop :=
  ∀ draws : EnsureDraws PrivateKey, draws.failedAttempts = [] →
    UnregisteredPair crypto s.db draws.pair →
    ∃ t, (ensureUserKeypairReadyForMessaging crypto user passphrase draws).exec crypto s = (.ok (), t) ∧
      Working crypto user passphrase t

section States

variable {s s' : BootState}

theorem recovers_of_restartable (ideal : crypto.Ideal) (spkis : crypto.NonemptySpki)
    (restartable : Restartable crypto user passphrase s) : Recovers crypto user passphrase s := by
  intro draws unfailing unregistered
  obtain ⟨recoverable, matching⟩ := restartable
  by_cases unkeyed : listKeyringVersions s.storage user.val = []
  · obtain ⟨t, v, ran, -, -, device, row, active, newest, held⟩ :=
      @ensure_generates _ _ _ crypto s user passphrase draws ideal spkis recoverable unkeyed unfailing
        unregistered
    exact ⟨t, ran, _, _, v, draws.pair, device, draws.clientDeviceId.short, row, newest, held, active, rfl⟩
  · obtain ⟨t, ran, -, -, keyring, d, key, device, short, row, active⟩ :=
      @ensure_aligns _ _ _ crypto s user passphrase draws recoverable unkeyed unfailing
    obtain ⟨spki, shown, -, -, -⟩ := recoverable.keyed unkeyed
    obtain ⟨v, newest, -⟩ := Option.bind_eq_some_iff.mp shown
    obtain ⟨own, held, same⟩ := matching v newest
    refine ⟨t, ran, d, key, v, own, device, short, row, ?_, ?_, ?_, ?_⟩
    · rw [listKeyringVersions_congr keyring]
      exact newest
    · rw [heldKey_congr crypto keyring]
      exact held
    · rw [activeSpki_keyring keyring]
      exact active
    · exact Option.some.inj (active.symm.trans same)

/-- A working device can be restarted. -/
theorem restartable_of_working (spkis : crypto.NonemptySpki) (wf : s.db.WellFormed)
    (working : Working crypto user passphrase s) : Restartable crypto user passphrase s := by
  obtain ⟨d, key, v, own, device, short, row, newest, held, active, same⟩ := working
  have listed : listKeyringVersions s.storage user.val ≠ [] := by
    intro empty
    rw [empty] at newest
    cases newest
  refine ⟨⟨wf, fun d' stored => ?_, fun empty => absurd empty listed, fun _ => ⟨key.publicKey, active, ?_, ?_,
    fun d' key' stored found => ?_⟩⟩, fun v' highest => ?_⟩
  · rw [← Option.some.inj (device.symm.trans stored)]
    exact short
  · rw [same]
    exact exportedSpki_trimmed own
  · rw [same]
    exact exportedSpki_nonempty spkis own
  · rw [← Option.some.inj (device.symm.trans stored), row] at found
    rw [← Option.some.inj found]
  · rw [← Option.some.inj (newest.symm.trans highest)]
    exact ⟨own, held, by rw [active, same]⟩

end States

section Keyed

/-- The runs of a profile with keys keep it restartable, wherever they are cut off. -/
theorem keyed_restartable {start final : BootPool PrivateKey} {history : List (BootTransition PrivateKey)}
    (init : (bootMachine crypto user passphrase).init start)
    (run : (bootMachine crypto user passphrase).Run start history final)
    (keyed : listKeyringVersions start.store.storage user.val ≠ []) :
    Restartable crypto user passphrase final.store := by
  obtain ⟨⟨recoverable, matching⟩, a, b, calls, -, -, -⟩ := init
  obtain ⟨spki, active, plain, nonemptySpki, same⟩ := recoverable.keyed keyed
  let deviceId := currentDevice start.store.storage user.val
  obtain ⟨trimmed, nonempty⟩ := currentDevice_trimmed start.store.storage user.val
  have short := recoverable.currentDevice_short
  have state : AlignedState user deviceId spki start.store := by
    refine ⟨recoverable.wellFormed, active, ?_⟩
    unfold deviceId currentDevice
    cases held : getStoredDeviceId start.store.storage user.val with
    | none => exact .inl ⟨rfl, rfl⟩
    | some d => exact .inr ⟨rfl, fun key stored => same d key held stored⟩
  let I := fun s : BootState => AlignedState user deviceId spki s ∧
    s.storage.keyring = start.store.storage.keyring
  have compatible : (bootCalls crypto user passphrase).Compatible I (AlignedMove user deviceId spki)
      (fun c s => AlignedMove user deviceId spki s (c.exec crypto s).2) (fun _ _ _ => True) :=
    { refl := .refl
      trans := .trans
      keeps := fun s s' moved both => ⟨both.1.moves _ _ moved, moved.keyring.trans both.2⟩
      stable := fun _ _ _ _ _ _ => trivial
      allowed := fun _ _ moved => moved
      begins := fun draws s both => ensure_aligned trimmed nonempty plain both.1 }
  have contracts : (bootCalls crypto user passphrase).Contracts I (AlignedMove user deviceId spki)
      (fun c s => AlignedMove user deviceId spki s (c.exec crypto s).2) (fun _ _ _ => True) start := by
    refine ⟨⟨state, rfl⟩, fun entry member => ?_⟩
    rw [calls] at member
    rcases List.mem_cons.mp member with rfl | later
    · exact ensure_aligned trimmed nonempty plain state
    · obtain rfl := List.mem_singleton.mp later
      exact ensure_aligned trimmed nonempty plain state
  have preserved : ∀ s event t, (bootCalls crypto user passphrase).Contracts I
      (AlignedMove user deviceId spki) (fun c s => AlignedMove user deviceId spki s (c.exec crypto s).2)
      (fun _ _ _ => True) s → (bootMachine crypto user passphrase).step s event t →
      (bootCalls crypto user passphrase).Contracts I (AlignedMove user deviceId spki)
        (fun c s => AlignedMove user deviceId spki s (c.exec crypto s).2) (fun _ _ _ => True) t :=
    fun s event t contracts taken => Calls.Contracts.preserved compatible contracts taken.1
  have ended := run.invariant preserved contracts
  have last : AlignedState user deviceId spki final.store := ended.1.1
  have keyring : final.store.storage.keyring = start.store.storage.keyring := ended.1.2
  have versions := @listKeyringVersions_congr _ _ user.val keyring
  refine ⟨⟨last.wellFormed, fun d stored => ?_, fun empty => absurd (versions.symm.trans empty) keyed,
    fun _ => ⟨spki, last.active, plain, nonemptySpki, fun d key stored found => ?_⟩⟩, fun v newest => ?_⟩
  · rcases last.identity with ⟨none, -⟩ | ⟨some, -⟩
    · cases none.symm.trans stored
    · rw [← Option.some.inj (some.symm.trans stored)]
      exact short
  · rcases last.identity with ⟨none, -⟩ | ⟨some, noOther⟩
    · cases none.symm.trans stored
    · rw [← Option.some.inj (some.symm.trans stored)] at found
      exact noOther key found
  · rw [versions] at newest
    obtain ⟨own, held, shown⟩ := matching v newest
    refine ⟨own, ?_, ?_⟩
    · rw [heldKey_congr crypto keyring]
      exact held
    · rw [activeSpki_keyring keyring]
      exact shown

end Keyed

section Unkeyed

/-- The two runs stand together. -/
def PairedRuns (crypto : WebCrypto PublicKey PrivateKey Seed) (user : UserId)
    (passphrase : AcceptedPassphrase) (s : BootPool PrivateKey) : Prop :=
  ∃ x y, s.calls = [x, y] ∧ x.1.clientDeviceId.val ≠ y.1.clientDeviceId.val ∧
    Paired crypto user passphrase s.store x y

/-- One of two calls is at the index. -/
theorem pair_at {x y entry : BootEntry PrivateKey} {index : Nat} (held : [x, y][index]? = some entry) :
    (index = 0 ∧ x = entry) ∨ (index = 1 ∧ y = entry) := by
  match index, held with
  | 0, held => exact .inl ⟨rfl, Option.some.inj held⟩
  | 1, held => exact .inr ⟨rfl, Option.some.inj held⟩

theorem PairedRuns.preserved (ideal : crypto.Ideal) (spkis : crypto.NonemptySpki) {s t : BootPool PrivateKey}
    {event : BootEvent PrivateKey} (paired : PairedRuns crypto user passphrase s)
    (taken : (bootMachine crypto user passphrase).step s event t)
    (together : keepsTogether user ⟨s, event, t⟩ = true) : PairedRuns crypto user passphrase t := by
  obtain ⟨x, y, calls, different, paired⟩ := paired
  obtain ⟨taken, notTaken⟩ := taken
  cases taken with
  | takeUp draws => exact absurd rfl (notTaken draws)
  | advance index call c next running =>
    have keeps : aboutToStore (.command c next) = true →
        identified user s.store x = true ∨ identified user s.store y = true := by
      intro about
      have other : s.calls.any (identified user s.store) = true := by
        simpa only [keepsTogether, running, Option.all_some, about, Bool.not_true, Bool.false_or]
          using together
      simpa only [calls, List.any_cons, List.any_nil, Bool.or_false, Bool.or_eq_true] using other
    rw [calls] at running ⊢
    rcases pair_at running with ⟨rfl, rfl⟩ | ⟨rfl, rfl⟩
    · exact ⟨_, y, rfl, different, paired.advance ideal spkis different rfl keeps⟩
    · exact ⟨x, _, rfl, different,
        (paired.symm.advance ideal spkis different.symm rfl fun about => (keeps about).symm).symm⟩
  | abort index call c next e fails running =>
    simp only [keepsTogether, running, Option.all_some, Bool.not_eq_true'] at together
    rw [calls] at running ⊢
    rcases pair_at running with ⟨rfl, rfl⟩ | ⟨rfl, rfl⟩
    · exact ⟨_, y, rfl, different, paired.abort e (by simp [together])⟩
    · exact ⟨x, _, rfl, different, (paired.symm.abort e (by simp [together])).symm⟩

theorem restartable_of_unkeyed {s : BootState} (wf : s.db.WellFormed) (unkeyed : Unkeyed user s) :
    Restartable crypto user passphrase s := by
  obtain ⟨empty, unlisted⟩ := unkeyed
  refine ⟨⟨wf, fun d stored => (unlisted d stored).1, fun _ d stored => (unlisted d stored).2,
    fun keyed => absurd empty keyed⟩, fun v newest => ?_⟩
  rw [empty] at newest
  cases newest

theorem unkeyed_restartable (ideal : crypto.Ideal) (spkis : crypto.NonemptySpki)
    {start final : BootPool PrivateKey} {history : List (BootTransition PrivateKey)}
    (init : (bootMachine crypto user passphrase).init start)
    (run : (bootMachine crypto user passphrase).Run start history final)
    (empty : listKeyringVersions start.store.storage user.val = [])
    (together : ∀ t ∈ history, keepsTogether user t = true) (idle : Idle final) :
    Restartable crypto user passphrase final.store := by
  obtain ⟨restartable, a, b, calls, different, unusedA, unusedB⟩ := init
  have initial : PairedRuns crypto user passphrase start := by
    refine ⟨_, _, calls, different, .inl ⟨restartable.recoverable.wellFormed, .opening unusedA,
      .opening unusedB, ?_, fun keyed => absurd empty keyed, .inr (.inl ⟨empty, fun d stored =>
        ⟨restartable.recoverable.short d stored, restartable.recoverable.unkeyed empty d stored⟩⟩)⟩⟩
    rw [empty]
    exact fun v listed => absurd listed (List.not_mem_nil)
  obtain ⟨x, y, ended, -, paired⟩ := run.invariant_of_forall (I := PairedRuns crypto user passphrase)
    (fun s event t paired taken together => paired.preserved ideal spkis taken together) initial together
  have done : ∀ entry, entry = x ∨ entry = y → ∃ result, entry.2 = .done result := by
    intro entry either
    apply idle entry
    rw [ended]
    rcases either with rfl | rfl
    · simp
    · simp
  rcases paired with g | q
  · obtain ⟨first, doneFirst⟩ := done x (.inl rfl)
    obtain ⟨second, doneSecond⟩ := done y (.inr rfl)
    rcases g.standing with (mine | other) | unkeyed | working
    · exact absurd mine (not_identified_done doneFirst)
    · exact absurd other (not_identified_done doneSecond)
    · exact restartable_of_unkeyed g.wellFormed unkeyed
    · exact restartable_of_working spkis g.wellFormed working
  · exact restartable_of_working spkis q.wellFormed q.working

/-- After two bootstraps, interleaved and cut off anywhere, a further one
succeeds, when no step takes the stored device id and its private key apart. -/
theorem bootstrap_recovers (ideal : crypto.Ideal) (spkis : crypto.NonemptySpki)
    {start final : BootPool PrivateKey} {history : List (BootTransition PrivateKey)}
    (init : (bootMachine crypto user passphrase).init start)
    (run : (bootMachine crypto user passphrase).Run start history final)
    (together : ∀ t ∈ history, keepsTogether user t = true) (idle : Idle final) :
    Restartable crypto user passphrase final.store ∧ Recovers crypto user passphrase final.store := by
  have restartable : Restartable crypto user passphrase final.store := by
    by_cases empty : listKeyringVersions start.store.storage user.val = []
    · exact unkeyed_restartable ideal spkis init run empty together idle
    · exact keyed_restartable init run empty
  exact ⟨restartable, recovers_of_restartable ideal spkis restartable⟩

end Unkeyed

section Runs

open UserId (alice)

theorem secret_accepted : ∃ pass, normalizePassphrase "secret" = .ok pass := ⟨"secret", by rfl⟩

def secret : AcceptedPassphrase := ⟨"secret", secret_accepted⟩

theorem zeros_length (n : Nat) : (List.replicate n (0 : UInt8)).length = n := List.length_replicate

def zeroWrap : WrapDraws := ⟨⟨List.replicate 16 0, zeros_length 16⟩, ⟨List.replicate 12 0, zeros_length 12⟩⟩

def first : EnsureDraws UInt8 :=
  { pair := 1
    clientDeviceId := ⟨"first", by decide, by decide, by decide, by decide⟩
    wrap := zeroWrap
    now := 1 }

def second : EnsureDraws UInt8 :=
  { pair := 2
    clientDeviceId := ⟨"second", by decide, by decide, by decide, by decide⟩
    wrap := zeroWrap
    now := 2 }

/-- Two runs on a new profile of a user without devices. -/
def newProfile : BootPool UInt8 where
  store := ⟨{}, {}⟩
  calls := [(first, ensureUserKeypairReadyForMessaging transparentCrypto alice secret first),
    (second, ensureUserKeypairReadyForMessaging transparentCrypto alice secret second)]

theorem newProfile_init : (bootMachine transparentCrypto alice secret).init newProfile := by
  have unlisted : ∀ d, ¬ Listed newProfile.store.db "alice" d := by
    intro d listed
    obtain ⟨row, member, -⟩ := listed
    cases member
  refine ⟨⟨⟨⟨List.nodup_nil, by decide⟩, ?_, ?_, fun keyed => absurd rfl keyed⟩, ?_⟩, first, second, rfl, by decide,
    ⟨unlisted _, by decide⟩, ⟨unlisted _, by decide⟩⟩
  · exact fun d stored => by cases stored
  · exact fun _ d stored => by cases stored
  · exact fun v newest => by cases newest

/-- The next command of a run, or the end of a run that is cut off. -/
def next (s : BootPool UInt8) : BootEvent UInt8 → Option (BootPool UInt8)
  | .takeUp _ => none
  | .advance index => (bootCalls transparentCrypto alice secret).next s (.advance index)
  | .abort index e =>
      match s.calls[index]? with
      | some (call, .command _ _) => some ⟨s.store, s.calls.set index (call, .done (.error e))⟩
      | _ => none

theorem next_step (s : BootPool UInt8) (event : BootEvent UInt8) (t : BootPool UInt8)
    (stepped : next s event = some t) :
    (bootMachine transparentCrypto alice secret).step s event t := by
  cases event with
  | takeUp draws => cases stepped
  | advance index =>
    exact ⟨@Calls.next_step _ _ _ _ _ (bootCalls transparentCrypto alice secret) (fun _ => True) s _ t stepped,
      fun draws taken => by cases taken⟩
  | abort index e =>
    simp only [next] at stepped
    split at stepped
    · rename_i call β c rest running
      cases stepped
      exact ⟨.abort s index call c rest e trivial running, fun draws taken => by cases taken⟩
    · cases stepped

/-- Steps of one run, then steps of a run, and so on. -/
def interleaved (turns : List (Nat × Nat)) : List (BootEvent UInt8) :=
  turns.flatMap fun turn => List.replicate turn.2 (.advance turn.1)

/-- Both runs have ended. -/
def ended (s : BootPool UInt8) : Bool :=
  s.calls.all fun entry => match entry.2 with
    | .done _ => true
    | .command .. => false

theorem idle_of_ended {s : BootPool UInt8} (all : ended s = true) : Idle s := by
  intro entry member
  have done := List.all_eq_true.mp all entry member
  cases remaining : entry.2 with
  | done result => exact ⟨result, rfl⟩
  | command c next =>
    rw [remaining] at done
    cases done

/-- Both runs find no key and register a pair; the second stores its key last. -/
theorem bootstrap_recovers_interleaved :
    ∃ history final, (bootMachine transparentCrypto alice secret).Run newProfile history final ∧
      getStoredDeviceId final.store.storage "alice" = some "second" ∧
      Recovers transparentCrypto alice secret final.store := by
  have checked : (Machine.trace next newProfile (interleaved [(0, 2), (1, 2), (0, 5), (1, 5)])).map
      (fun executed => (executed.1.all (keepsTogether alice), ended executed.2,
        getStoredDeviceId executed.2.store.storage "alice")) = some (true, true, some "second") := by decide
  obtain ⟨⟨history, final⟩, executed, same⟩ := Option.map_eq_some_iff.mp checked
  obtain ⟨together, same⟩ := Prod.mk.inj same
  obtain ⟨all, device⟩ := Prod.mk.inj same
  have run := Machine.trace_run next next_step executed
  exact ⟨history, final, run, device, (bootstrap_recovers transparentCrypto_ideal
    (fun key empty => by cases empty) newProfile_init run (List.all_eq_true.mp together)
    (idle_of_ended all)).2⟩

/-- A run without failures that draws a third pair. -/
def third : EnsureDraws UInt8 :=
  { pair := 3
    clientDeviceId := ⟨"third", by decide, by decide, by decide, by decide⟩
    wrap := zeroWrap
    now := 3 }

/-- After the events both runs have ended, no device has the third pair, and a run with it fails. -/
def fails (events : List (BootEvent UInt8)) : Bool :=
  match Machine.trace next newProfile events with
  | none => false
  | some executed => ended executed.2 && executed.2.store.db.userDevicePublicKeys.all
      (fun row => row.publicKey ≠ exportPublicKeySpkiBase64 transparentCrypto (transparentCrypto.publicKeyOf 3)) &&
      !((ensureUserKeypairReadyForMessaging transparentCrypto alice secret third).exec transparentCrypto
        executed.2.store).1.isOk

theorem not_recovered {events : List (BootEvent UInt8)} (failed : fails events = true) :
    ¬ ∀ (start final : BootPool UInt8) (history : List (BootTransition UInt8)),
      (bootMachine transparentCrypto alice secret).init start →
      (bootMachine transparentCrypto alice secret).Run start history final → Idle final →
      Recovers transparentCrypto alice secret final.store := by
  intro claim
  unfold fails at failed
  split at failed
  · cases failed
  · rename_i executed traced
    obtain ⟨history, final⟩ := executed
    simp only [Bool.and_eq_true, List.all_eq_true, Bool.not_eq_true'] at failed
    obtain ⟨⟨all, unregistered⟩, failed⟩ := failed
    obtain ⟨t, ran, -⟩ := claim newProfile final history newProfile_init (Machine.trace_run next next_step traced)
      (idle_of_ended all) third rfl (fun row member => of_decide_eq_true (unregistered row member))
    rw [ran] at failed
    cases failed

/-- The tab is closed when the device id is stored and the private key is not. -/
theorem key_lost_with_tab :
    ¬ ∀ (start final : BootPool UInt8) (history : List (BootTransition UInt8)),
      (bootMachine transparentCrypto alice secret).init start →
      (bootMachine transparentCrypto alice secret).Run start history final → Idle final →
      Recovers transparentCrypto alice secret final.store :=
  @not_recovered (interleaved [(0, 6)] ++ [.abort 0 (.error "closed"), .abort 1 (.error "closed")])
    (by decide)

/-- The first run stores its key over that of the run whose device id is stored. -/
example : fails (interleaved [(0, 2), (1, 2), (0, 4), (1, 5), (0, 1)]) = true := by decide

end Runs

end MessagingSystem.Guarantees.BootstrapRecovery
