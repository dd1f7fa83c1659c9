import MessagingSystem.Protocol.DecryptPasses

/-!
# Failures that later decrypt passes replace

A pass retries a message without an entry, or with the line of a missing key
slot. Whatever else a pass has recorded for the message lasts until its entry is
removed, so a later pass that could decrypt it leaves the failure in place.
-/
namespace MessagingSystem.Guarantees.DecryptRetries
open Foundation Source.Client Protocol

variable {PublicKey PrivateKey Seed : Type} {crypto : WebCrypto PublicKey PrivateKey Seed} {env : MediaEnv}

section Lasting

variable (crypto env)

/-- What the step records for the message is retried, or is its text. -/
def Recovers (id text : String) (t : Transition (DecryptTab PrivateKey) DecryptEvent) : Prop :=
  ∀ line, recorded crypto env id t = some line → line = PEER_DECRYPT_NO_DEVICE_KEY_ENTRY ∨ line = text

/-- Whatever the passes of a history have recorded for the message is retried or
its text, or was removed later. -/
def Recovered (id text : String) : List (Transition (DecryptTab PrivateKey) DecryptEvent) → Prop
  | [] => True
  | t :: later =>
      (Recovers crypto env id text t ∨ ∃ u ∈ later, u.target.cached id = none) ∧ Recovered id text later

variable {crypto env} {id text : String} {s t : DecryptTab PrivateKey}

/-- The message has no entry, or one that is retried or its text. -/
def Open (id text : String) (s : DecryptTab PrivateKey) : Prop :=
  ∀ line, s.cached id = some line → line = PEER_DECRYPT_NO_DEVICE_KEY_ENTRY ∨ line = text

/-- The step does not remove the entry of the message. -/
def KeepsEntry (id : String) (t : Transition (DecryptTab PrivateKey) DecryptEvent) : Prop :=
  t.source.cached id ≠ none → t.target.cached id ≠ none

theorem recovered_removed {t : Transition (DecryptTab PrivateKey) DecryptEvent}
    (removed : t.target.cached id = none) (silent : recorded crypto env id t = none)
    (history : List (Transition (DecryptTab PrivateKey) DecryptEvent)) :
    Recovered crypto env id text (history ++ [t]) := by
  induction history with
  | nil =>
    refine ⟨.inl fun line records => ?_, trivial⟩
    rw [silent] at records
    cases records
  | cons u rest ih => exact ⟨.inr ⟨t, by simp, removed⟩, ih⟩

theorem recovered_append {t : Transition (DecryptTab PrivateKey) DecryptEvent}
    (held : t.target.cached id ≠ none)
    (history : List (Transition (DecryptTab PrivateKey) DecryptEvent)) :
    Recovered crypto env id text (history ++ [t]) ↔
      Recovered crypto env id text history ∧ Recovers crypto env id text t := by
  induction history with
  | nil => simp [Recovered]
  | cons u rest ih =>
    have same : (∃ v ∈ rest ++ [t], v.target.cached id = none) ↔ ∃ v ∈ rest, v.target.cached id = none := by
      simp [held]
    rw [List.cons_append, Recovered, Recovered, ih, same, and_assoc]

/-- One step, when it does not remove the entry. -/
theorem open_step_iff {event : DecryptEvent} (inv : PassInvariant crypto env s)
    (stepped : decryptNext crypto env s event = some t) (held : t.cached id ≠ none) :
    Open id text t ↔ Open id text s ∧ Recovers crypto env id text ⟨s, event, t⟩ := by
  rcases cached_step id stepped with ⟨line, records, now⟩ | ⟨silent, same | gone⟩
  · have recovers : Recovers crypto env id text ⟨s, event, t⟩ ↔ Open id text t := by
      unfold Recovers Open
      rw [records, now]
    rw [recovers]
    refine ⟨fun opened => ⟨fun before held => ?_, opened⟩, fun both => both.2⟩
    by_cases missing : before = PEER_DECRYPT_NO_DEVICE_KEY_ENTRY
    · exact .inl missing
    · rw [← recorded_sticky inv held missing records]
      exact opened line now
  · have recovers : Recovers crypto env id text ⟨s, event, t⟩ := by
      intro line records
      rw [silent] at records
      cases records
    unfold Open
    rw [same]
    exact ⟨fun opened => ⟨opened, recovers⟩, fun both => both.1⟩
  · exact absurd gone held

/-- After a run the entry is open exactly when its history has recovered. -/
theorem open_iff_recovered {start final : DecryptTab PrivateKey}
    {history : List (Transition (DecryptTab PrivateKey) DecryptEvent)}
    (initial : (decryptMachine crypto env).init start)
    (run : (decryptMachine crypto env).Run start history final) :
    Open id text final ↔ Recovered crypto env id text history := by
  induction run with
  | nil =>
    apply iff_of_true
    · intro line held
      unfold DecryptTab.cached at held
      rw [initial.1] at held
      cases (Record.get_empty id).symm.trans held
    · trivial
  | @snoc history source target event earlier last ih =>
    have inv := passInvariant_run initial earlier
    by_cases gone : target.cached id = none
    · apply iff_of_true
      · intro line held
        rw [gone] at held
        cases held
      · apply recovered_removed gone
        rcases cached_step id last with ⟨line, records, now⟩ | ⟨silent, -⟩
        · rw [gone] at now
          cases now
        · exact silent
    · rw [recovered_append gone, ← ih]
      exact open_step_iff inv last gone

/-- An entry that is not retried lasts as long as it is not removed. -/
theorem cached_lasting {final : DecryptTab PrivateKey}
    {history : List (Transition (DecryptTab PrivateKey) DecryptEvent)} (inv : PassInvariant crypto env s)
    (held : s.cached id = some text) (lasting : text ≠ PEER_DECRYPT_NO_DEVICE_KEY_ENTRY)
    (run : (decryptMachine crypto env).Run s history final) (keeps : ∀ t ∈ history, KeepsEntry id t) :
    final.cached id = some text := by
  have both : PassInvariant crypto env final ∧ final.cached id = some text := by
    apply run.invariant_of_forall (I := fun s => PassInvariant crypto env s ∧ s.cached id = some text)
      (C := KeepsEntry id) _ ⟨inv, held⟩ keeps
    rintro s event t ⟨inv, held⟩ step keeps
    refine ⟨passInvariant_step inv step, ?_⟩
    rcases cached_step id step with ⟨line, records, now⟩ | ⟨-, same | gone⟩
    · rw [now, recorded_sticky inv held lasting records]
    · rw [same, held]
    · exact absurd gone (keeps (by simp [held]))
  exact both.2

end Lasting

section LastPass

variable (crypto env)

/-- The local state that a pass of `uid` meets with this step: nothing cancels it, the
key it loads and the device id are these, and the message is not removed. -/
structure Meets (uid id deviceId : String) (pk : PrivateKey)
    (t : Transition (DecryptTab PrivateKey) DecryptEvent) : Prop where
  running : (∀ other midList, t.label ≠ .start other midList) ∧ t.label ≠ .stop
  key : t.label = .loadKey →
    loadMessagingEcdhPrivateKey crypto t.source.storage uid t.source.passphrase = .ok (some pk)
  device : t.label = .loadDevice → getStoredDeviceId t.source.storage uid = some deviceId
  keeps : KeepsEntry id t

/-- The pass that starts in `s` runs to its end in `t`. -/
structure LastPass (uid : String) (midList : List String) (id deviceId : String) (pk : PrivateKey)
    (s : DecryptTab PrivateKey) (steps : List (Transition (DecryptTab PrivateKey) DecryptEvent))
    (t : DecryptTab PrivateKey) : Prop where
  run : (decryptMachine crypto env).Run
    { s with pass := passOf uid (decryptTargets s.messaging uid midList) .starting } steps t
  meets : ∀ step ∈ steps, Meets crypto uid id deviceId pk step
  ended : t.pass = none

variable {crypto env} {uid id deviceId : String} {pk : PrivateKey} {m : Message} {pt : CodeUnits}
  {s t : DecryptTab PrivateKey} {event : DecryptEvent}

/-- The pass, with the message among the rows to come or already recorded. -/
structure Underway (env : MediaEnv) (uid deviceId : String) (pk : PrivateKey) (m : Message) (pt : CodeUnits)
    (s : DecryptTab PrivateKey) : Prop where
  taken : (∃ p, s.pass = some p ∧ m ∈ p.targets) ∨ s.cached m.id = some (decryptedBodyOf env pt).plaintext
  owner : ∀ p, s.pass = some p → p.uid = uid
  only : ∀ p, s.pass = some p → ∀ a ∈ p.targets, a.id = m.id → a = m
  loaded : ∀ p pk', s.pass = some p → p.stage = .keyLoaded pk' → pk' = pk
  decrypting : ∀ p pk' device, s.pass = some p → p.stage = .decrypting pk' device →
    pk' = pk ∧ device = some deviceId

/-- Such a pass records the text of the message only. -/
theorem recorded_underway (decrypts : decryptRow crypto m deviceId pk = .ok pt)
    (trimmed : EcmaText.trim deviceId = deviceId) (underway : Underway env uid deviceId pk m pt s)
    (meets : Meets crypto uid m.id deviceId pk ⟨s, event, t⟩) {line : String}
    (records : recorded crypto env m.id ⟨s, event, t⟩ = some line) :
    line = (decryptedBodyOf env pt).plaintext := by
  unfold recorded at records
  split at records
  · rename_i owner targets begun running
    obtain rfl := underway.owner _ running
    rw [meets.key begun] at records
    cases records
  · rename_i owner a rest pk' device _ running
    split at records
    · rename_i same
      cases records
      obtain rfl := underway.only _ running a List.mem_cons_self same
      obtain ⟨rfl, rfl⟩ := underway.decrypting _ _ _ running rfl
      rw [decryptOutcome_of_decrypts trimmed decrypts]
    · cases records
  · cases records

/-- The entry of the message after a step of such a pass. -/
theorem cached_underway (decrypts : decryptRow crypto m deviceId pk = .ok pt)
    (trimmed : EcmaText.trim deviceId = deviceId) (underway : Underway env uid deviceId pk m pt s)
    (meets : Meets crypto uid m.id deviceId pk ⟨s, event, t⟩)
    (stepped : decryptNext crypto env s event = some t)
    (held : s.cached m.id = some (decryptedBodyOf env pt).plaintext) :
    t.cached m.id = some (decryptedBodyOf env pt).plaintext := by
  rcases cached_step m.id stepped with ⟨line, records, now⟩ | ⟨-, same | gone⟩
  · rw [now, recorded_underway decrypts trimmed underway meets records]
  · rw [same, held]
  · exact absurd gone (meets.keeps (by simp [held]))

/-- A step that leaves the pass as it is. -/
theorem underway_beside (decrypts : decryptRow crypto m deviceId pk = .ok pt)
    (trimmed : EcmaText.trim deviceId = deviceId) (underway : Underway env uid deviceId pk m pt s)
    (meets : Meets crypto uid m.id deviceId pk ⟨s, event, t⟩)
    (stepped : decryptNext crypto env s event = some t) (same : t.pass = s.pass) :
    Underway env uid deviceId pk m pt t := by
  refine ⟨?_, by rw [same]; exact underway.owner, by rw [same]; exact underway.only,
    by rw [same]; exact underway.loaded, by rw [same]; exact underway.decrypting⟩
  rcases underway.taken with waiting | held
  · exact .inl (by rwa [same])
  · exact .inr (cached_underway decrypts trimmed underway meets stepped held)

/-- A step that leaves the rows of the pass as they are and brings it further. -/
theorem underway_further (decrypts : decryptRow crypto m deviceId pk = .ok pt)
    (trimmed : EcmaText.trim deviceId = deviceId) (underway : Underway env uid deviceId pk m pt s)
    (meets : Meets crypto uid m.id deviceId pk ⟨s, event, t⟩)
    (stepped : decryptNext crypto env s event = some t) {p q : DecryptPass PrivateKey}
    (running : s.pass = some p) (now : t.pass = some q) (owner : q.uid = p.uid) (rows : q.targets = p.targets)
    (loaded : ∀ pk', q.stage = .keyLoaded pk' → pk' = pk)
    (decrypting : ∀ pk' device, q.stage = .decrypting pk' device → pk' = pk ∧ device = some deviceId) :
    Underway env uid deviceId pk m pt t := by
  constructor
  · rcases underway.taken with ⟨p', running', member⟩ | held
    · cases running.symm.trans running'
      exact .inl ⟨q, now, by rwa [rows]⟩
    · exact .inr (cached_underway decrypts trimmed underway meets stepped held)
  · intro r later
    cases now.symm.trans later
    rw [owner]
    exact underway.owner p running
  · intro r later
    cases now.symm.trans later
    rw [rows]
    exact underway.only p running
  · intro r pk' later stage
    cases now.symm.trans later
    exact loaded pk' stage
  · intro r pk' device later stage
    cases now.symm.trans later
    exact decrypting pk' device stage

/-- Every step of the pass. -/
theorem underway_step (decrypts : decryptRow crypto m deviceId pk = .ok pt)
    (trimmed : EcmaText.trim deviceId = deviceId) (underway : Underway env uid deviceId pk m pt s)
    (meets : Meets crypto uid m.id deviceId pk ⟨s, event, t⟩)
    (stepped : decryptNext crypto env s event = some t) : Underway env uid deviceId pk m pt t := by
  cases event with
  | start other midList => exact absurd rfl (meets.running.1 other midList)
  | stop => exact absurd rfl meets.running.2
  | changeProfile storage passphrase =>
    have same : t.pass = s.pass := by
      cases stepped
      rfl
    exact underway_beside decrypts trimmed underway meets stepped same
  | dispatch action =>
    have same : t.pass = s.pass := by
      unfold decryptNext at stepped
      dsimp only at stepped
      split at stepped
      · cases stepped
      · cases stepped
        rfl
    exact underway_beside decrypts trimmed underway meets stepped same
  | loadKey =>
    have step := stepped
    unfold decryptNext at step
    dsimp only at step
    split at step
    · rename_i owner targets running
      obtain rfl := underway.owner _ running
      have found := meets.key rfl
      dsimp only at found
      rw [found] at step
      cases step
      exact underway_further decrypts trimmed underway meets stepped running rfl rfl rfl
        (fun pk' stage => by cases stage; rfl) (fun pk' device stage => by cases stage)
    · cases step
  | loadDevice =>
    have step := stepped
    unfold decryptNext at step
    dsimp only at step
    split at step
    · rename_i owner targets pk' running
      obtain rfl := underway.owner _ running
      obtain rfl := underway.loaded _ _ running rfl
      have found := meets.device rfl
      dsimp only at found
      rw [found] at step
      cases step
      exact underway_further decrypts trimmed underway meets stepped running rfl rfl rfl
        (fun pk' stage => by cases stage) (fun pk' device stage => by cases stage; exact ⟨rfl, rfl⟩)
    · cases step
  | decryptNext =>
    have step := stepped
    unfold decryptNext at step
    dsimp only at step
    split at step
    · rename_i owner a rest pk' device running
      obtain rfl := underway.owner _ running
      obtain ⟨rfl, rfl⟩ := underway.decrypting _ _ _ running rfl
      have later : ∀ p, t.pass = some p → p = ⟨owner, rest, .decrypting pk' (some deviceId)⟩ := by
        intro p now
        cases step
        unfold passOf at now
        dsimp only at now
        split at now
        · cases now
        · exact (Option.some.inj now).symm
      constructor
      · by_cases here : a.id = m.id
        · have records : recorded crypto env m.id ⟨s, .decryptNext, t⟩ =
              some (decryptOutcome crypto env a (some deviceId) pk').plaintext := by
            unfold recorded
            simp only [running, if_pos here]
          rcases cached_step m.id stepped with ⟨line, again, now⟩ | ⟨silent, -⟩
          · right
            rw [now, recorded_underway decrypts trimmed underway meets again]
          · rw [records] at silent
            cases silent
        · rcases underway.taken with ⟨p, running', member⟩ | held
          · cases running.symm.trans running'
            rcases List.mem_cons.mp member with rfl | tail
            · exact absurd rfl here
            · left
              cases step
              have nonempty : rest ≠ [] := List.ne_nil_of_mem tail
              exact ⟨_, if_neg nonempty, tail⟩
          · exact .inr (cached_underway decrypts trimmed underway meets stepped held)
      · intro p now
        rw [later p now]
      · intro p now b member
        rw [later p now] at member
        exact underway.only _ running b (List.mem_cons_of_mem _ member)
      · intro p pk'' now stage
        rw [later p now] at stage
        cases stage
      · intro p pk'' device now stage
        rw [later p now] at stage
        cases stage
        exact ⟨rfl, rfl⟩
    · cases step

/-- A pass that takes up the message records its text. -/
theorem taken_decrypted {midList : List String} {steps : List (Transition (DecryptTab PrivateKey) DecryptEvent)}
    (inv : PassInvariant crypto env s) (listed : m.id ∈ midList)
    (taken : decryptTarget s.messaging uid m.id = some m)
    (last : LastPass crypto env uid midList m.id deviceId pk s steps t)
    (trimmed : EcmaText.trim deviceId = deviceId) (decrypts : decryptRow crypto m deviceId pk = .ok pt) :
    t.cached m.id = some (decryptedBodyOf env pt).plaintext := by
  have member : m ∈ decryptTargets s.messaging uid midList :=
    (mem_decryptTargets inv.keyed).mpr ⟨listed, taken⟩
  have starts : passOf uid (decryptTargets s.messaging uid midList) (.starting : PassStage PrivateKey) =
      some ⟨uid, decryptTargets s.messaging uid midList, .starting⟩ := if_neg (List.ne_nil_of_mem member)
  have begun : Underway env uid deviceId pk m pt
      { s with pass := passOf uid (decryptTargets s.messaging uid midList) .starting } := by
    constructor
    · exact .inl ⟨_, starts, member⟩
    · intro p running
      cases starts.symm.trans running
      rfl
    · intro p running a inA same
      cases starts.symm.trans running
      have again := ((mem_decryptTargets inv.keyed).mp inA).2
      rw [same, taken] at again
      exact (Option.some.inj again).symm
    · intro p pk' running stage
      cases starts.symm.trans running
      cases stage
    · intro p pk' device running stage
      cases starts.symm.trans running
      cases stage
  have finished : Underway env uid deviceId pk m pt t :=
    last.run.invariant_of_forall (I := Underway env uid deviceId pk m pt)
      (C := Meets crypto uid m.id deviceId pk)
      (fun s event t underway step meets => underway_step decrypts trimmed underway meets step) begun last.meets
  rcases finished.taken with ⟨p, running, -⟩ | held
  · rw [last.ended] at running
    cases running
  · exact held

/-- After every sequence of passes, a last pass whose private key decrypts the slot of the
message leaves its text exactly when no earlier pass has left a lasting failure: the
passes since the entry was last removed recorded a missing key slot or the text. -/
theorem slot_failures_retried {start : DecryptTab PrivateKey} {midList : List String}
    {history steps : List (Transition (DecryptTab PrivateKey) DecryptEvent)}
    (initial : (decryptMachine crypto env).init start)
    (passes : (decryptMachine crypto env).Run start history s) (listed : m.id ∈ midList)
    {row : StoredMessage} (held : s.messaging.messagesById.get m.id = some row) (same : row.toMessage = m)
    (hybrid : isHybridE2eeMessage m = true)
    (untyped : ¬ (m.senderId = uid ∧ (s.messaging.senderPlaintextByMessageId.get m.id).isSome))
    (last : LastPass crypto env uid midList m.id deviceId pk s steps t) {storage : KeyStorage}
    (stored : getStoredDeviceId storage uid = some deviceId)
    (decrypts : decryptRow crypto m deviceId pk = .ok pt) :
    t.cached m.id = some (decryptedBodyOf env pt).plaintext ↔
      Recovered crypto env m.id (decryptedBodyOf env pt).plaintext history := by
  have inv := passInvariant_run initial passes
  have trimmed := (getStoredDeviceId_trimmed stored).1
  rw [← open_iff_recovered initial passes]
  have begun := passInvariant_start inv uid midList
  have keeps : ∀ step ∈ steps, KeepsEntry m.id step := fun step member => (last.meets step member).keeps
  cases cached : s.cached m.id with
  | none =>
    apply iff_of_true
    · apply taken_decrypted inv listed _ last trimmed decrypts
      refine decryptTarget_eq_some_iff.mpr ⟨row, held, same, hybrid, ?_, untyped⟩
      unfold DecryptTab.cached at cached
      rw [cached]
      rfl
    · intro line now
      rw [cached] at now
      cases now
  | some line =>
    by_cases missing : line = PEER_DECRYPT_NO_DEVICE_KEY_ENTRY
    · apply iff_of_true
      · apply taken_decrypted inv listed _ last trimmed decrypts
        refine decryptTarget_eq_some_iff.mpr ⟨row, held, same, hybrid, ?_, untyped⟩
        unfold DecryptTab.cached at cached
        rw [cached, missing]
        decide
      · intro other now
        rw [cached] at now
        cases now
        exact .inl missing
    · have lasts : t.cached m.id = some line := cached_lasting begun cached missing last.run keeps
      rw [lasts]
      constructor
      · intro text other now
        rw [cached] at now
        cases now
        exact .inr (Option.some.inj text)
      · intro opened
        rcases opened line cached with entry | text
        · exact absurd entry missing
        · rw [text]

end LastPass

section Hello

def noUrls : MediaEnv where
  parseUrl _ := none
  s3PublicBaseUrl := none
  s3Bucket := none

def helloKey : List UInt8 := List.replicate 32 7

/-- A message of `bob` that the device `dA` of `alice` can decrypt. -/
def hello : Message where
  id := "m1"
  conversationId := "c"
  senderId := "bob"
  body := .value (Base64.encode (transparentCrypto.aesGcmEncrypt helloKey (List.replicate 12 0) (utf8 "hi")))
  encryptedMessageKeys := .value (Record.ofList [("dA", transparentCrypto.sealKey () helloKey 1)])
  iv := .value (Base64.encode (List.replicate 12 0))
  algorithm := .value MESSAGE_HYBRID_ALGORITHM
  createdAt := "2024-01-01T00:00:00.000Z"

/-- A profile with the private key of the device, before its id is stored. -/
def keyRestored : KeyStorage where
  legacy := [("alice", wrapPrivateKeyPkcs8 transparentCrypto [1] "pass" PBKDF2_ITERATIONS_DEFAULT
    ⟨.zero 16, .zero 12⟩)]

def deviceStored : KeyStorage := { keyRestored with deviceIdentity := [("alice", "dA")] }

def thread : MessagingState := storeReducer initialState (.thread (.appendIncomingMessageIfNew hello none))

def tab (messaging : MessagingState) (storage : KeyStorage) (pass : Option (DecryptPass UInt8)) :
    DecryptTab UInt8 := ⟨messaging, storage, "pass", pass⟩

def helloMachine : Machine (DecryptTab UInt8) DecryptEvent := decryptMachine transparentCrypto noUrls

theorem thread_row : thread.messagesById.get "m1" = some hello.toStored := by decide +kernel

theorem thread_targets : decryptTargets thread "alice" ["m1"] = [hello] := by decide +kernel

theorem key_loads (deviceIdentity : List (String × String)) :
    loadMessagingEcdhPrivateKey transparentCrypto { keyRestored with deviceIdentity := deviceIdentity } "alice"
      "pass" = .ok (some 1) := rfl

theorem hello_hybrid : isHybridE2eeMessage hello = true := by decide +kernel

theorem hello_decrypts : decryptRow transparentCrypto hello "dA" 1 = .ok (TextCoding.units "hi".toList) := by
  decide +kernel

theorem hello_text : (decryptedBodyOf noUrls (TextCoding.units "hi".toList)).plaintext = "hi" := by
  decide +kernel

theorem start_hello (storage : KeyStorage) : helloMachine.step (tab thread storage none)
    (.start "alice" ["m1"]) (tab thread storage (some ⟨"alice", [hello], .starting⟩)) := by
  have started : passOf "alice" (decryptTargets thread "alice" ["m1"]) (.starting : PassStage UInt8) =
      some ⟨"alice", [hello], .starting⟩ := by
    rw [thread_targets]
    rfl
  exact congrArg (fun pass => some (tab thread storage pass)) started

theorem loadKey_hello (messaging : MessagingState) {storage : KeyStorage} (targets : List Message)
    (loads : loadMessagingEcdhPrivateKey transparentCrypto storage "alice" "pass" = .ok (some 1)) :
    helloMachine.step (tab messaging storage (some ⟨"alice", targets, .starting⟩)) .loadKey
      (tab messaging storage (some ⟨"alice", targets, .keyLoaded 1⟩)) := by
  change decryptNext _ _ _ _ = _
  unfold decryptNext tab
  dsimp only
  rw [loads]

def missingSlot : MessagingState := thread.record "m1" { plaintext := PEER_DECRYPT_NO_DEVICE_KEY_ENTRY }

/-- `alice`'s tab has her private key and no device id: the pass records a missing slot. -/
theorem missing_slot_run : ∃ history, helloMachine.Run (tab initialState keyRestored none) history
    (tab missingSlot deviceStored none) := by
  have received : helloMachine.step (tab initialState keyRestored none)
      (.dispatch (.thread (.appendIncomingMessageIfNew hello none))) (tab thread keyRestored none) := rfl
  have unnamed : helloMachine.step (tab thread keyRestored (some ⟨"alice", [hello], .keyLoaded 1⟩)) .loadDevice
      (tab thread keyRestored (some ⟨"alice", [hello], .decrypting 1 none⟩)) := rfl
  have missing : helloMachine.step (tab thread keyRestored (some ⟨"alice", [hello], .decrypting 1 none⟩))
      .decryptNext (tab missingSlot keyRestored none) := rfl
  have named : helloMachine.step (tab missingSlot keyRestored none) (.changeProfile deviceStored "pass")
      (tab missingSlot deviceStored none) := rfl
  exact ⟨_, .snoc (.snoc (.snoc (.snoc (.snoc (.snoc .nil received) (start_hello keyRestored))
    (loadKey_hello thread [hello] (key_loads []))) unnamed) missing) named⟩

theorem missing_slot_targets : decryptTargets missingSlot "alice" ["m1"] = [hello] := by decide +kernel

theorem device_stored : getStoredDeviceId deviceStored "alice" = some "dA" := rfl

/-- The steps of a pass over the message with this entry. -/
def helloSteps (messaging : MessagingState) : List (Transition (DecryptTab UInt8) DecryptEvent) :=
  [⟨tab messaging deviceStored (some ⟨"alice", [hello], .starting⟩), .loadKey,
      tab messaging deviceStored (some ⟨"alice", [hello], .keyLoaded 1⟩)⟩,
    ⟨tab messaging deviceStored (some ⟨"alice", [hello], .keyLoaded 1⟩), .loadDevice,
      tab messaging deviceStored (some ⟨"alice", [hello], .decrypting 1 (some "dA")⟩)⟩,
    ⟨tab messaging deviceStored (some ⟨"alice", [hello], .decrypting 1 (some "dA")⟩), .decryptNext,
      tab (messaging.record "m1" (decryptOutcome transparentCrypto noUrls hello (some "dA") 1)) deviceStored
        none⟩]

theorem hello_lastPass {messaging : MessagingState} (targets : decryptTargets messaging "alice" ["m1"] = [hello]) :
    LastPass transparentCrypto noUrls "alice" ["m1"] "m1" "dA" 1 (tab messaging deviceStored none)
      (helloSteps messaging)
      (tab (messaging.record "m1" (decryptOutcome transparentCrypto noUrls hello (some "dA") 1)) deviceStored
        none) where
  run := by
    have started : passOf "alice" (decryptTargets messaging "alice" ["m1"]) (.starting : PassStage UInt8) =
        some ⟨"alice", [hello], .starting⟩ := by
      rw [targets]
      rfl
    have device : helloMachine.step (tab messaging deviceStored (some ⟨"alice", [hello], .keyLoaded 1⟩))
        .loadDevice (tab messaging deviceStored (some ⟨"alice", [hello], .decrypting 1 (some "dA")⟩)) := rfl
    have decrypted : helloMachine.step
        (tab messaging deviceStored (some ⟨"alice", [hello], .decrypting 1 (some "dA")⟩)) .decryptNext
        (tab (messaging.record "m1" (decryptOutcome transparentCrypto noUrls hello (some "dA") 1)) deviceStored
          none) := rfl
    have ran := ((Machine.Run.nil (M := helloMachine)).snoc
      (loadKey_hello messaging [hello] (key_loads [("alice", "dA")]))).snoc device |>.snoc decrypted
    unfold tab at ran ⊢
    dsimp only at ran ⊢
    rw [started]
    exact ran
  meets := by
    intro step member
    rcases List.mem_cons.mp member with rfl | member
    · exact ⟨by simp, fun _ => key_loads [("alice", "dA")], by simp, fun held => held⟩
    · rcases List.mem_cons.mp member with rfl | member
      · exact ⟨by simp, by simp, fun _ => device_stored, fun held => held⟩
      · obtain rfl := List.mem_singleton.mp member
        refine ⟨by simp, by simp, by simp, fun _ => ?_⟩
        unfold DecryptTab.cached tab
        rw [MessagingState.record_get, if_pos rfl]
        exact Option.some_ne_none _
  ended := rfl

/-- Once the device id is stored, the next pass replaces the line of the missing slot. -/
theorem slot_failures_retried_hello :
    ∃ history steps t, helloMachine.Run (tab initialState keyRestored none) history
        (tab missingSlot deviceStored none) ∧
      LastPass transparentCrypto noUrls "alice" ["m1"] "m1" "dA" 1 (tab missingSlot deviceStored none) steps t ∧
      t.cached "m1" = some "hi" := by
  obtain ⟨history, run⟩ := missing_slot_run
  have last := hello_lastPass missing_slot_targets
  refine ⟨history, _, _, run, last, ?_⟩
  have row : missingSlot.messagesById.get "m1" = some hello.toStored := thread_row
  have untyped : ¬ (hello.senderId = "alice" ∧ (missingSlot.senderPlaintextByMessageId.get "m1").isSome) := by
    rintro ⟨sender, -⟩
    exact absurd sender (by decide)
  have retried := slot_failures_retried (m := hello) ⟨rfl, rfl⟩ run (by simp [hello]) row rfl hello_hybrid
    untyped last device_stored hello_decrypts
  rw [hello_text] at retried
  apply retried.mpr
  apply (open_iff_recovered ⟨rfl, rfl⟩ run).mp
  intro line held
  unfold DecryptTab.cached tab missingSlot at held
  have own : hello.id = "m1" := rfl
  rw [MessagingState.record_get, if_pos own] at held
  exact .inl (Option.some.inj held).symm

/-- A pass before the key was restored has recorded `PEER_DECRYPT_NO_LOCAL_KEY`. -/
def noLocalKey : MessagingState := recordNoLocalKey thread [hello]

theorem no_local_key_targets : decryptTargets noLocalKey "alice" ["m1"] = [] := by decide +kernel

/-- `alice` restores her key from a backup after a pass without it: the last pass, whose
key decrypts the message, takes up nothing and the failure line stays. -/
theorem restored_key_stays_unread :
    ∃ history steps t, helloMachine.init (tab initialState {} none) ∧
      helloMachine.Run (tab initialState {} none) history (tab noLocalKey deviceStored none) ∧
      noLocalKey.messagesById.get "m1" = some hello.toStored ∧ isHybridE2eeMessage hello = true ∧
      hello.senderId ≠ "alice" ∧
      LastPass transparentCrypto noUrls "alice" ["m1"] "m1" "dA" 1 (tab noLocalKey deviceStored none) steps t ∧
      loadMessagingEcdhPrivateKey transparentCrypto deviceStored "alice" "pass" = .ok (some 1) ∧
      getStoredDeviceId deviceStored "alice" = some "dA" ∧
      decryptRow transparentCrypto hello "dA" 1 = .ok (TextCoding.units "hi".toList) ∧
      t.cached "m1" = some PEER_DECRYPT_NO_LOCAL_KEY ∧
      (decryptedBodyOf noUrls (TextCoding.units "hi".toList)).plaintext = "hi" := by
  have received : helloMachine.step (tab initialState {} none)
      (.dispatch (.thread (.appendIncomingMessageIfNew hello none))) (tab thread {} none) := rfl
  have unkeyed : helloMachine.step (tab thread {} (some ⟨"alice", [hello], .starting⟩)) .loadKey
      (tab noLocalKey {} none) := rfl
  have restored : helloMachine.step (tab noLocalKey {} none) (.changeProfile deviceStored "pass")
      (tab noLocalKey deviceStored none) := rfl
  have idle : passOf "alice" (decryptTargets noLocalKey "alice" ["m1"]) (.starting : PassStage UInt8) = none := by
    rw [no_local_key_targets]
    rfl
  refine ⟨_, [], tab noLocalKey deviceStored none, ⟨rfl, rfl⟩,
    .snoc (.snoc (.snoc (.snoc .nil received) (start_hello {})) unkeyed) restored, thread_row, hello_hybrid,
    by decide, ⟨?_, by simp, rfl⟩, key_loads [("alice", "dA")], device_stored, hello_decrypts, ?_, hello_text⟩
  · unfold tab
    dsimp only
    rw [idle]
    exact .nil
  · unfold DecryptTab.cached tab noLocalKey
    rw [recordNoLocalKey_get]
    rfl

end Hello

end MessagingSystem.Guarantees.DecryptRetries
