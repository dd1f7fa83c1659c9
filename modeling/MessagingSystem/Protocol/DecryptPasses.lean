import MessagingSystem.Foundation.Transition
import MessagingSystem.Source.Client.PeerDecryption

/-!
# The decrypt passes of a tab

The effect of `usePeerMessageDecryption` in a tab where everything else goes on:
a pass takes up its rows when it starts, loads the private key, loads the device
id and then decrypts row after row. The next pass, or the cleanup of the effect,
cancels it. Between any two of these the store and the browser profile may change.
-/
namespace MessagingSystem.Protocol
open Foundation Source.Client

/-- How far a pass is. -/
inductive PassStage (PrivateKey : Type) where
  | starting
  | keyLoaded (pk : PrivateKey)
  | decrypting (pk : PrivateKey) (deviceId : Option String)

/-- A pass that is not cancelled, with the rows still to be decrypted. -/
structure DecryptPass (PrivateKey : Type) where
  uid : String
  targets : List Message
  stage : PassStage PrivateKey

structure DecryptTab (PrivateKey : Type) where
  messaging : MessagingState := initialState
  storage : KeyStorage := {}
  passphrase : String := ""
  pass : Option (DecryptPass PrivateKey) := none

namespace DecryptTab

/-- `decryptedBodyByMessageId[id]`. -/
def cached {PrivateKey : Type} (s : DecryptTab PrivateKey) (id : String) : Option String :=
  s.messaging.decryptedBodyByMessageId.get id

end DecryptTab

inductive DecryptEvent where
  /-- The effect runs for a thread. -/
  | start (uid : String) (midList : List String)
  /-- The cleanup runs and no pass follows. -/
  | stop
  | loadKey
  | loadDevice
  | decryptNext
  /-- Another part of the tab dispatches an action. -/
  | dispatch (action : StoreAction)
  /-- The key stores and the device passphrase of the profile change. -/
  | changeProfile (storage : KeyStorage) (passphrase : String)

section Passes

variable {PublicKey PrivateKey Seed : Type} (crypto : WebCrypto PublicKey PrivateKey Seed) (env : MediaEnv)

/-- A pass with nothing left to do has ended. -/
def passOf (uid : String) (targets : List Message) (stage : PassStage PrivateKey) :
    Option (DecryptPass PrivateKey) :=
  if targets = [] then none else some ⟨uid, targets, stage⟩

/-- The rows of a tab without private key. -/
def recordNoLocalKey (s : MessagingState) (targets : List Message) : MessagingState :=
  targets.foldl (fun s t => s.record t.id { plaintext := PEER_DECRYPT_NO_LOCAL_KEY }) s

def decryptNext (s : DecryptTab PrivateKey) : DecryptEvent → Option (DecryptTab PrivateKey)
  | .start uid midList => some { s with pass := passOf uid (decryptTargets s.messaging uid midList) .starting }
  | .stop => some { s with pass := none }
  | .loadKey =>
      match s.pass with
      | some ⟨uid, targets, .starting⟩ =>
          match loadMessagingEcdhPrivateKey crypto s.storage uid s.passphrase with
          | .error _ => some { s with pass := none }
          | .ok none => some { s with messaging := recordNoLocalKey s.messaging targets, pass := none }
          | .ok (some pk) => some { s with pass := some ⟨uid, targets, .keyLoaded pk⟩ }
      | _ => none
  | .loadDevice =>
      match s.pass with
      | some ⟨uid, targets, .keyLoaded pk⟩ =>
          some { s with pass := some ⟨uid, targets, .decrypting pk (getStoredDeviceId s.storage uid)⟩ }
      | _ => none
  | .decryptNext =>
      match s.pass with
      | some ⟨uid, m :: rest, .decrypting pk deviceId⟩ =>
          some { s with
            messaging := s.messaging.record m.id (decryptOutcome crypto env m deviceId pk)
            pass := passOf uid rest (.decrypting pk deviceId) }
      | _ => none
  | .dispatch action =>
      if action.isDecryptedBody then none
      else some { s with messaging := storeReducer s.messaging action }
  | .changeProfile storage passphrase => some { s with storage := storage, passphrase := passphrase }

/-- A tab that starts with an empty store and no pass. -/
def decryptMachine : Machine (DecryptTab PrivateKey) DecryptEvent where
  init s := s.messaging = initialState ∧ s.pass = none
  step s event t := decryptNext crypto env s event = some t

variable {crypto env}

/-- The entry of the last target with an id. -/
theorem recordNoLocalKey_get (s : MessagingState) (targets : List Message) (id : String) :
    (recordNoLocalKey s targets).decryptedBodyByMessageId.get id =
      if id ∈ targets.map (fun t => t.id) then some PEER_DECRYPT_NO_LOCAL_KEY
      else s.decryptedBodyByMessageId.get id := by
  unfold recordNoLocalKey
  induction targets generalizing s with
  | nil => rfl
  | cons t rest ih =>
    rw [List.foldl_cons, ih, MessagingState.record_get, List.map_cons]
    by_cases later : id ∈ rest.map fun t => t.id
    · rw [if_pos later, if_pos (List.mem_cons_of_mem _ later)]
    · rw [if_neg later]
      by_cases here : id = t.id
      · rw [if_pos here, if_pos (by simp [here])]
      · rw [if_neg here, if_neg (by simp [here, later])]

theorem recordNoLocalKey_messagesById (s : MessagingState) (targets : List Message) :
    (recordNoLocalKey s targets).messagesById = s.messagesById := by
  unfold recordNoLocalKey
  induction targets generalizing s with
  | nil => rfl
  | cons t rest ih =>
    rw [List.foldl_cons, ih]
    rfl

end Passes

section Steps

variable {PublicKey PrivateKey Seed : Type} (crypto : WebCrypto PublicKey PrivateKey Seed) (env : MediaEnv)

/-- What a step records for a message. -/
def recorded (id : String) (t : Transition (DecryptTab PrivateKey) DecryptEvent) : Option String :=
  match t.label, t.source.pass with
  | .loadKey, some ⟨uid, targets, .starting⟩ =>
      match loadMessagingEcdhPrivateKey crypto t.source.storage uid t.source.passphrase with
      | .ok none => if id ∈ targets.map (fun m => m.id) then some PEER_DECRYPT_NO_LOCAL_KEY else none
      | _ => none
  | .decryptNext, some ⟨_, m :: _, .decrypting pk deviceId⟩ =>
      if m.id = id then some (decryptOutcome crypto env m deviceId pk).plaintext else none
  | _, _ => none

variable {crypto env} {s t : DecryptTab PrivateKey} {event : DecryptEvent} {id : String}

/-- A step that records nothing for a message keeps its entry or removes it. -/
theorem cached_step (id : String) (stepped : decryptNext crypto env s event = some t) :
    (∃ line, recorded crypto env id ⟨s, event, t⟩ = some line ∧ t.cached id = some line) ∨
      (recorded crypto env id ⟨s, event, t⟩ = none ∧ (t.cached id = s.cached id ∨ t.cached id = none)) := by
  cases event with
  | start uid midList => cases stepped; exact .inr ⟨rfl, .inl rfl⟩
  | stop => cases stepped; exact .inr ⟨rfl, .inl rfl⟩
  | changeProfile storage passphrase => cases stepped; exact .inr ⟨rfl, .inl rfl⟩
  | dispatch action =>
    unfold decryptNext at stepped
    dsimp only at stepped
    split at stepped
    · cases stepped
    · rename_i other
      cases stepped
      exact .inr ⟨rfl, (storeReducer_undecrypted s.messaging (Bool.not_eq_true _ ▸ other)).entry id⟩
  | loadKey =>
    unfold decryptNext at stepped
    dsimp only at stepped
    split at stepped
    · rename_i uid targets running
      unfold recorded
      simp only [running]
      split at stepped
      · rename_i e failed
        cases stepped
        simp only [failed]
        exact .inr ⟨trivial, .inl rfl⟩
      · rename_i absent
        cases stepped
        simp only [absent]
        unfold DecryptTab.cached
        dsimp only
        rw [recordNoLocalKey_get]
        by_cases member : id ∈ targets.map fun m => m.id
        · exact .inl ⟨_, if_pos member, if_pos member⟩
        · exact .inr ⟨if_neg member, .inl (if_neg member)⟩
      · rename_i pk loaded
        cases stepped
        simp only [loaded]
        exact .inr ⟨trivial, .inl rfl⟩
    · cases stepped
  | loadDevice =>
    unfold decryptNext at stepped
    dsimp only at stepped
    split at stepped
    · cases stepped
      exact .inr ⟨rfl, .inl rfl⟩
    · cases stepped
  | decryptNext =>
    unfold decryptNext at stepped
    dsimp only at stepped
    split at stepped
    · rename_i uid m rest pk deviceId running
      cases stepped
      unfold recorded DecryptTab.cached
      simp only [running, MessagingState.record_get]
      by_cases same : m.id = id
      · exact .inl ⟨_, if_pos same, if_pos same.symm⟩
      · exact .inr ⟨if_neg same, .inl (if_neg fun other => same other.symm)⟩
    · cases stepped

variable (crypto env)

/-- Rows under their ids, and a pass whose rows are still to be retried, save for
those that it has recorded itself. -/
structure PassInvariant (s : DecryptTab PrivateKey) : Prop where
  keyed : Keyed s.messaging
  uniform : ∀ p, s.pass = some p → ∀ a ∈ p.targets, ∀ b ∈ p.targets, a.id = b.id → a = b
  waiting : ∀ p, s.pass = some p → ∀ m ∈ p.targets,
    shouldRetryPeerDecryptAfterCachedFailure (s.cached m.id) = true ∨
      ∃ pk deviceId, p.stage = .decrypting pk deviceId ∧
        s.cached m.id = some (decryptOutcome crypto env m deviceId pk).plaintext

variable {crypto env}

theorem passInvariant_idle (keyed : Keyed t.messaging) (idle : t.pass = none) : PassInvariant crypto env t where
  keyed := keyed
  uniform p running := by rw [idle] at running; cases running
  waiting p running := by rw [idle] at running; cases running

theorem passInvariant_init (start : (decryptMachine crypto env).init s) : PassInvariant crypto env s := by
  apply passInvariant_idle _ start.2
  intro id row held
  rw [start.1] at held
  cases (Record.get_empty id).symm.trans held

theorem passInvariant_start (inv : PassInvariant crypto env s) (uid : String) (midList : List String) :
    PassInvariant crypto env
      { s with pass := passOf uid (decryptTargets s.messaging uid midList) .starting } := by
  have taken : ∀ p : DecryptPass PrivateKey,
      passOf uid (decryptTargets s.messaging uid midList) .starting = some p →
      ∀ m ∈ p.targets, decryptTarget s.messaging uid m.id = some m := by
    intro p running m member
    unfold passOf at running
    split at running
    · cases running
    · cases running
      exact ((mem_decryptTargets inv.keyed).mp member).2
  refine ⟨inv.keyed, fun p running a inA b inB same => ?_, fun p running m member => .inl ?_⟩
  · have first := taken p running a inA
    rw [same, taken p running b inB] at first
    exact (Option.some.inj first).symm
  · obtain ⟨row, -, -, -, retry, -⟩ := decryptTarget_eq_some_iff.mp (taken p running m member)
    exact retry

/-- A pass that goes on with the rows it had, before any of them is recorded. -/
theorem passInvariant_continue (inv : PassInvariant crypto env s) {p q : DecryptPass PrivateKey}
    (running : s.pass = some p) (fresh : ∀ pk deviceId, p.stage ≠ .decrypting pk deviceId)
    (same : q.targets = p.targets) : PassInvariant crypto env { s with pass := some q } := by
  refine ⟨inv.keyed, fun r now => ?_, fun r now m member => .inl ?_⟩
  · cases now
    rw [same]
    exact inv.uniform p running
  · cases now
    rw [same] at member
    rcases inv.waiting p running m member with retry | ⟨pk, deviceId, stage, -⟩
    · exact retry
    · exact absurd stage (fresh pk deviceId)

theorem passInvariant_decrypted (inv : PassInvariant crypto env s) {uid : String} {m : Message}
    {rest : List Message} {pk : PrivateKey} {deviceId : Option String}
    (running : s.pass = some ⟨uid, m :: rest, .decrypting pk deviceId⟩) :
    PassInvariant crypto env
      { s with
        messaging := s.messaging.record m.id (decryptOutcome crypto env m deviceId pk)
        pass := passOf uid rest (.decrypting pk deviceId) } := by
  have uniform := inv.uniform _ running
  have waiting := inv.waiting _ running
  refine ⟨inv.keyed, fun p now => ?_, fun p now a member => ?_⟩
  · unfold passOf at now
    dsimp only at now
    split at now
    · cases now
    · cases now
      intro a inA b inB
      exact uniform a (List.mem_cons_of_mem _ inA) b (List.mem_cons_of_mem _ inB)
  · unfold passOf at now
    dsimp only at now
    split at now
    · cases now
    · cases now
      unfold DecryptTab.cached
      dsimp only at member ⊢
      rw [MessagingState.record_get]
      by_cases same : a.id = m.id
      · rw [if_pos same, uniform a (List.mem_cons_of_mem _ member) m List.mem_cons_self same]
        exact .inr ⟨pk, deviceId, rfl, rfl⟩
      · rw [if_neg same]
        exact waiting a (List.mem_cons_of_mem _ member)

/-- Every step keeps the invariant. -/
theorem passInvariant_step (inv : PassInvariant crypto env s)
    (stepped : decryptNext crypto env s event = some t) : PassInvariant crypto env t := by
  cases event with
  | start uid midList =>
    cases stepped
    exact passInvariant_start inv uid midList
  | stop =>
    cases stepped
    exact passInvariant_idle inv.keyed rfl
  | changeProfile storage passphrase =>
    cases stepped
    exact ⟨inv.keyed, inv.uniform, inv.waiting⟩
  | dispatch action =>
    unfold decryptNext at stepped
    dsimp only at stepped
    split at stepped
    · cases stepped
    · rename_i other
      cases stepped
      have kept := storeReducer_undecrypted s.messaging (Bool.not_eq_true _ ▸ other)
      refine ⟨kept.keyed inv.keyed, inv.uniform, fun p running m member => ?_⟩
      rcases kept.entry m.id with same | gone
      · rcases inv.waiting p running m member with retry | ⟨pk, deviceId, stage, held⟩
        · left
          unfold DecryptTab.cached at retry ⊢
          rwa [← same] at retry
        · exact .inr ⟨pk, deviceId, stage, same.trans held⟩
      · left
        unfold DecryptTab.cached
        rw [gone]
        rfl
  | loadKey =>
    unfold decryptNext at stepped
    dsimp only at stepped
    split at stepped
    · rename_i uid targets running
      split at stepped
      · cases stepped
        exact passInvariant_idle inv.keyed rfl
      · cases stepped
        apply passInvariant_idle _ rfl
        intro id row held
        rw [recordNoLocalKey_messagesById] at held
        exact inv.keyed id row held
      · cases stepped
        exact passInvariant_continue inv running (by simp) rfl
    · cases stepped
  | loadDevice =>
    unfold decryptNext at stepped
    dsimp only at stepped
    split at stepped
    · rename_i uid targets pk running
      cases stepped
      exact passInvariant_continue inv running (by simp) rfl
    · cases stepped
  | decryptNext =>
    unfold decryptNext at stepped
    dsimp only at stepped
    split at stepped
    · rename_i uid m rest pk deviceId running
      cases stepped
      exact passInvariant_decrypted inv running
    · cases stepped

theorem passInvariant_run {start final : DecryptTab PrivateKey}
    {history : List (Transition (DecryptTab PrivateKey) DecryptEvent)}
    (initial : (decryptMachine crypto env).init start)
    (run : (decryptMachine crypto env).Run start history final) : PassInvariant crypto env final :=
  run.invariant (I := PassInvariant crypto env) (fun _ _ _ inv step => passInvariant_step inv step)
    (passInvariant_init initial)

/-- An entry that is not retried is recorded again with the same text only. -/
theorem recorded_sticky (inv : PassInvariant crypto env s) {line text : String}
    (held : s.cached id = some text) (lasting : text ≠ PEER_DECRYPT_NO_DEVICE_KEY_ENTRY)
    (records : recorded crypto env id ⟨s, event, t⟩ = some line) : line = text := by
  have closed : shouldRetryPeerDecryptAfterCachedFailure (s.cached id) = false := by
    rw [held]
    simp [shouldRetryPeerDecryptAfterCachedFailure, lasting]
  unfold recorded at records
  split at records
  · rename_i uid targets _ running
    split at records
    · split at records
      · rename_i member
        obtain ⟨m, listed, rfl⟩ := List.mem_map.mp member
        rcases inv.waiting _ running m listed with retry | ⟨pk, deviceId, stage, -⟩
        · rw [closed] at retry
          cases retry
        · cases stage
      · cases records
    · cases records
  · rename_i uid m rest pk deviceId _ running
    split at records
    · rename_i same
      cases records
      subst same
      rcases inv.waiting _ running m List.mem_cons_self with retry | ⟨pk', deviceId', stage, recorded⟩
      · rw [closed] at retry
        cases retry
      · cases stage
        exact Option.some.inj (recorded.symm.trans held)
    · cases records
  · cases records

end Steps

end MessagingSystem.Protocol
