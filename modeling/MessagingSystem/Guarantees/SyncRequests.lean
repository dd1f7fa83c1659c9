import MessagingSystem.Foundation.Transition
import MessagingSystem.Source.Client.CryptoSlice

/-!
# Pending sync requests

A trusted device holds one pending request. Requests of new devices arrive,
are dismissed and approved in any order, and an approval ends at any later time,
by `syncCompleted` or with an error. The end of one approval clears the pending
request of whichever device, and a later request takes its place.
-/
namespace MessagingSystem.Guarantees.SyncRequests
open Foundation Source.Client

/-- The slice, the approvals that are running, and the devices whose requests have
neither been dismissed nor completed. -/
structure SyncSession where
  crypto : CryptoState
  running : List DeviceSyncRequestedPayload := []
  outstanding : List String := []

inductive SyncEvent where
  | requested (payload : DeviceSyncRequestedPayload)
  | dismissed
  | approve (payload : DeviceSyncRequestedPayload)
  | completed (index : Nat)
  | failed (index : Nat)

namespace SyncSession

variable (s : SyncSession)

/-- The request comes from this device itself. -/
def isOwn (payload : DeviceSyncRequestedPayload) : Prop :=
  EcmaText.trim (s.crypto.deviceId.getD "") ≠ "" ∧
    EcmaText.trim payload.newDeviceId = EcmaText.trim (s.crypto.deviceId.getD "")

instance (payload : DeviceSyncRequestedPayload) : Decidable (s.isOwn payload) :=
  inferInstanceAs (Decidable (_ ∧ _))

/-- The request of the device is shown for approval. -/
def Shown (deviceId : String) : Prop := s.crypto.selectPendingSync.any (·.newDeviceId = deviceId) = true

/-- An approval for the device is running. -/
def Approving (deviceId : String) : Prop := s.running.any (·.newDeviceId = deviceId) = true

instance (deviceId : String) : Decidable (s.Shown deviceId) := inferInstanceAs (Decidable (_ = true))

instance (deviceId : String) : Decidable (s.Approving deviceId) := inferInstanceAs (Decidable (_ = true))

def perform : SyncEvent → Option SyncSession
  | .requested payload => some
      { s with
        crypto := s.crypto.onDeviceSyncRequested payload
        outstanding := if s.isOwn payload then s.outstanding
          else (payload.usable.toList.map (·.newDeviceId)) ++ s.outstanding }
  | .dismissed => some
      { s with
        crypto := s.crypto.syncDismissed
        outstanding := s.outstanding.filter fun d => ¬ s.Shown d }
  | .approve payload =>
      -- a blank part, or a session without a device id, ends the approval at once
      if EcmaText.trim (s.crypto.deviceId.getD "") = "" then some s
      else some { s with running := s.running ++ payload.usable.toList }
  | .completed index => s.running[index]?.map fun done =>
      { crypto := s.crypto.syncCompleted done.newDeviceId
        running := s.running.eraseIdx index
        outstanding := s.outstanding.filter fun d => d ≠ done.newDeviceId }
  | .failed index => s.running[index]?.map fun _ => { s with running := s.running.eraseIdx index }

end SyncSession

def syncMachine : Machine SyncSession SyncEvent where
  init s := s.crypto.selectPendingSync = none ∧ s.running = [] ∧ s.outstanding = []
  step s event t := s.perform event = some t

abbrev SyncTransition := Transition SyncSession SyncEvent

/-- Every outstanding request can be approved or is being approved. -/
def RequestsKept (s : SyncSession) : Prop := ∀ d ∈ s.outstanding, s.Shown d ∨ s.Approving d

/-- The end of an approval leaves the pending request of another device. -/
def PendingKept (t : SyncTransition) : Prop :=
  match t.label with
  | .completed index => ∀ done, t.source.running[index]? = some done → ∀ d, d ≠ done.newDeviceId →
      t.source.Shown d → t.target.Shown d
  | _ => True

/-- A request comes when the one shown is of the same device or is being approved; an approval
completes when no request of another device is shown; one that fails leaves its request shown,
or another approval of it running, unless it is not outstanding any more. -/
def Sequential (t : SyncTransition) : Prop :=
  match t.label with
  | .requested payload => ¬ t.source.isOwn payload → ∀ d, t.source.Shown d →
      (∃ q, payload.usable = some q ∧ q.newDeviceId = d) ∨ t.source.Approving d
  | .completed index => ∀ done, t.source.running[index]? = some done → ∀ d, t.source.Shown d →
      d = done.newDeviceId
  | .failed index => ∀ done, t.source.running[index]? = some done → done.newDeviceId ∈ t.source.outstanding →
      t.source.Shown done.newDeviceId ∨ ({ t.source with running := t.source.running.eraseIdx index }
        : SyncSession).Approving done.newDeviceId
  | _ => True

/-- The request shown is outstanding. -/
def ShownOutstanding (s : SyncSession) : Prop := ∀ d, s.Shown d → d ∈ s.outstanding

section Steps

variable {s t : SyncSession} {payload : DeviceSyncRequestedPayload} {event : SyncEvent}

theorem approving_iff {d : String} : s.Approving d ↔ ∃ q ∈ s.running, q.newDeviceId = d := by
  simp [SyncSession.Approving]

theorem shown_iff {d : String} : s.Shown d ↔ ∃ q, s.crypto.selectPendingSync = some q ∧ q.newDeviceId = d := by
  simp only [SyncSession.Shown, Option.any_eq_true, decide_eq_true_eq]

/-- What a request leaves to be shown. -/
theorem shown_requested (foreign : ¬ s.isOwn payload) {d : String}
    (happened : s.perform (.requested payload) = some t) :
    t.Shown d ↔ ∃ q, payload.usable = some q ∧ q.newDeviceId = d := by
  cases happened
  rw [shown_iff]
  show (∃ q, (s.crypto.onDeviceSyncRequested payload).selectPendingSync = some q ∧ _) ↔ _
  unfold CryptoState.onDeviceSyncRequested
  unfold SyncSession.isOwn at foreign
  simp only [foreign, if_false, CryptoState.selectPendingSync_requested]

theorem own_requested (own : s.isOwn payload) (happened : s.perform (.requested payload) = some t) : t = s := by
  cases happened
  have same : s.crypto.onDeviceSyncRequested payload = s.crypto := by
    unfold CryptoState.onDeviceSyncRequested
    unfold SyncSession.isOwn at own
    simp only [own, ne_eq, not_false_eq_true, and_self, if_true]
  simp only [same, own, if_true]

theorem approving_erased {index : Nat} {done : DeviceSyncRequestedPayload} (ends : s.running[index]? = some done)
    {d : String} (other : d ≠ done.newDeviceId) (approving : s.Approving d) :
    ∃ q ∈ s.running.eraseIdx index, q.newDeviceId = d := by
  obtain ⟨q, listed, rfl⟩ := approving_iff.mp approving
  obtain ⟨i, found⟩ := List.mem_iff_getElem?.mp listed
  have apart : i ≠ index := by
    rintro rfl
    rw [ends] at found
    exact other (congrArg _ (Option.some.inj found).symm)
  exact ⟨q, List.mem_eraseIdx_iff_getElem?.mpr ⟨i, apart, found⟩, rfl⟩

theorem not_shown (cleared : s.crypto.selectPendingSync = none) (d : String) : ¬ s.Shown d := by
  rw [shown_iff, cleared]
  rintro ⟨q, found, -⟩
  cases found

theorem cleared_dismissed (happened : s.perform .dismissed = some t) (d : String) : ¬ t.Shown d := by
  have cleared : t.crypto.selectPendingSync = none := by
    cases happened
    exact CryptoState.selectPendingSync_dismissed s.crypto
  exact not_shown cleared d

theorem cleared_completed {index : Nat} (happened : s.perform (.completed index) = some t) (d : String) :
    ¬ t.Shown d := by
  have cleared : t.crypto.selectPendingSync = none := by
    obtain ⟨done, -, rfl⟩ := Option.map_eq_some_iff.mp happened
    exact CryptoState.selectPendingSync_completed s.crypto done.newDeviceId
  exact not_shown cleared d

theorem outstanding_requested (foreign : ¬ s.isOwn payload) (happened : s.perform (.requested payload) = some t)
    (d : String) : d ∈ t.outstanding ↔ t.Shown d ∨ d ∈ s.outstanding := by
  rw [shown_requested foreign happened]
  cases happened
  simp only [if_neg foreign, List.mem_append, List.mem_map, Option.mem_toList]

theorem shownOutstanding_step (inv : ShownOutstanding s) (happened : s.perform event = some t) :
    ShownOutstanding t := by
  cases event with
  | requested payload =>
    by_cases own : s.isOwn payload
    · rw [own_requested own happened]
      exact inv
    · exact fun d shown => (outstanding_requested own happened d).mpr (.inl shown)
  | dismissed => exact fun d shown => absurd shown (cleared_dismissed happened d)
  | approve payload =>
    simp only [SyncSession.perform] at happened
    split at happened
    · cases happened
      exact inv
    · cases happened
      exact inv
  | completed index => exact fun d shown => absurd shown (cleared_completed happened d)
  | failed index =>
    obtain ⟨done, ends, rfl⟩ := Option.map_eq_some_iff.mp happened
    exact inv

/-- A step of a sequential run keeps every outstanding request. -/
theorem requestsKept_step (kept : RequestsKept s) (happened : s.perform event = some t)
    (sequential : Sequential ⟨s, event, t⟩) : RequestsKept t := by
  cases event with
  | requested payload =>
    by_cases own : s.isOwn payload
    · rw [own_requested own happened]
      exact kept
    · have running : t.running = s.running := by
        cases happened
        rfl
      intro d listed
      rcases (outstanding_requested own happened d).mp listed with shown | before
      · exact .inl shown
      · have approving : s.Approving d → t.Approving d := by
          unfold SyncSession.Approving
          rw [running]
          exact id
        rcases kept d before with shown | now
        · rcases sequential own d shown with same | now
          · exact .inl ((shown_requested own happened).mpr same)
          · exact .inr (approving now)
        · exact .inr (approving now)
  | dismissed =>
    cases happened
    intro d listed
    obtain ⟨before, hidden⟩ := List.mem_filter.mp listed
    rcases kept d before with shown | approving
    · exact absurd shown (of_decide_eq_true hidden)
    · exact .inr approving
  | approve payload =>
    simp only [SyncSession.perform] at happened
    split at happened
    · cases happened
      exact kept
    · cases happened
      intro d listed
      rcases kept d listed with shown | approving
      · exact .inl shown
      · obtain ⟨q, member, same⟩ := approving_iff.mp approving
        exact .inr (approving_iff.mpr ⟨q, List.mem_append_left _ member, same⟩)
  | completed index =>
    obtain ⟨done, ends, rfl⟩ := Option.map_eq_some_iff.mp happened
    intro d listed
    obtain ⟨before, other⟩ := List.mem_filter.mp listed
    have other : d ≠ done.newDeviceId := of_decide_eq_true other
    rcases kept d before with shown | approving
    · exact absurd (sequential done ends d shown) other
    · exact .inr (approving_iff.mpr (approving_erased ends other approving))
  | failed index =>
    obtain ⟨done, ends, rfl⟩ := Option.map_eq_some_iff.mp happened
    intro d listed
    by_cases same : d = done.newDeviceId
    · rw [same] at listed ⊢
      exact sequential done ends listed
    · rcases kept d listed with shown | approving
      · exact .inl shown
      · exact .inr (approving_iff.mpr (approving_erased ends same approving))

theorem pendingKept_step (happened : s.perform event = some t) (sequential : Sequential ⟨s, event, t⟩) :
    PendingKept ⟨s, event, t⟩ := by
  cases event with
  | completed index => exact fun done ends d other shown => absurd (sequential done ends d shown) other
  | _ => trivial

theorem sequential_of_kept (inv : ShownOutstanding s) (happened : s.perform event = some t)
    (kept : RequestsKept t) (pending : PendingKept ⟨s, event, t⟩) : Sequential ⟨s, event, t⟩ := by
  cases event with
  | requested payload =>
    intro foreign d shown
    have running : t.running = s.running := by
      cases happened
      rfl
    rcases kept d ((outstanding_requested foreign happened d).mpr (.inr (inv d shown))) with now | approving
    · exact .inl ((shown_requested foreign happened).mp now)
    · unfold SyncSession.Approving at approving
      rw [running] at approving
      exact .inr approving
  | completed index =>
    intro done ends d shown
    by_contra other
    exact cleared_completed happened d (pending done ends d other shown)
  | failed index =>
    intro done ends listed
    obtain ⟨done', ends', rfl⟩ := Option.map_eq_some_iff.mp happened
    exact kept done.newDeviceId listed
  | _ => trivial

end Steps

variable {start final : SyncSession} {history : List SyncTransition}

/-- Every request that is neither dismissed nor completed stays approvable, and no approval
discards the request of another device, exactly when the requests come one at a time. -/
theorem requests_kept_iff (begins : syncMachine.init start) (run : syncMachine.Run start history final) :
    (∀ t ∈ history, Sequential t) ↔ ∀ t ∈ history, RequestsKept t.target ∧ PendingKept t := by
  obtain ⟨empty, -, none⟩ := begins
  have initial : ShownOutstanding start := fun d shown => absurd shown (not_shown empty d)
  have nothing : RequestsKept start := by
    intro d listed
    rw [none] at listed
    cases listed
  constructor
  · intro sequential t taken
    obtain ⟨step, -, kept⟩ := run.recorded_of_forall (I := RequestsKept) (C := Sequential)
      (fun s event t kept step here => requestsKept_step kept step here) nothing sequential t taken
    exact ⟨kept, pendingKept_step step (sequential t taken)⟩
  · intro good t taken
    obtain ⟨step, inv⟩ := run.recorded (I := ShownOutstanding)
      (fun s event t inv step => shownOutstanding_step inv step) initial t taken
    exact sequential_of_kept inv step (good t taken).1 (good t taken).2

section Runs

def tablet : DeviceSyncRequestedPayload := ⟨"tablet", "k1"⟩

def laptop : DeviceSyncRequestedPayload := ⟨"laptop", "k2"⟩

/-- The session of a registered device. -/
def phoneSession : SyncSession := { crypto := { deviceId := some "phone" } }

theorem phoneSession_init : syncMachine.init phoneSession :=
  ⟨CryptoState.selectPendingSync_of_none _ rfl, rfl, rfl⟩

def ran (events : List SyncEvent) : Option (List SyncTransition × SyncSession) :=
  Machine.trace SyncSession.perform phoneSession events

theorem ran_run {events : List SyncEvent} {history : List SyncTransition} {final : SyncSession}
    (executed : ran events = some (history, final)) : syncMachine.Run phoneSession history final :=
  Machine.trace_run _ (fun _ _ _ taken => taken) executed

/-- `Sequential`, evaluated. -/
def sequential (t : SyncTransition) : Bool :=
  match t.label with
  | .requested payload => decide (t.source.isOwn payload) || t.source.crypto.selectPendingSync.all fun q =>
      payload.usable.any (·.newDeviceId = q.newDeviceId) || decide (t.source.Approving q.newDeviceId)
  | .completed index => t.source.running[index]?.all fun done =>
      t.source.crypto.selectPendingSync.all fun q => q.newDeviceId = done.newDeviceId
  | .failed index => t.source.running[index]?.all fun done => decide (done.newDeviceId ∈ t.source.outstanding →
      t.source.Shown done.newDeviceId ∨ ({ t.source with running := t.source.running.eraseIdx index }
        : SyncSession).Approving done.newDeviceId)
  | _ => true

theorem sequential_sound {t : SyncTransition} (checked : sequential t = true) : Sequential t := by
  obtain ⟨s, event, target⟩ := t
  cases event with
  | requested payload =>
    intro foreign d shown
    obtain ⟨q, found, rfl⟩ := shown_iff.mp shown
    have here : decide (s.isOwn payload) = false := decide_eq_false foreign
    have rest := (Option.all_eq_true _ _).mp (by simpa only [sequential, here, Bool.false_or] using checked) q found
    rcases Bool.or_eq_true_iff.mp rest with same | approving
    · obtain ⟨u, usable, id⟩ := (Option.any_eq_true _ _).mp same
      exact .inl ⟨u, usable, of_decide_eq_true id⟩
    · exact .inr (of_decide_eq_true approving)
  | completed index =>
    intro done ends d shown
    obtain ⟨q, found, rfl⟩ := shown_iff.mp shown
    exact of_decide_eq_true ((Option.all_eq_true _ _).mp ((Option.all_eq_true _ _).mp checked done ends) q found)
  | failed index => exact fun done ends => of_decide_eq_true ((Option.all_eq_true _ _).mp checked done ends)
  | _ => trivial

/-- Two devices join one after the other, and both are approved. -/
theorem requests_kept_one_at_a_time :
    ∃ history final, syncMachine.Run phoneSession history final ∧
      final.crypto.syncCompletedForNewDeviceId = some "laptop" ∧
      ∀ t ∈ history, RequestsKept t.target ∧ PendingKept t := by
  have checked : (ran [.requested tablet, .approve tablet, .completed 0, .requested laptop, .approve laptop,
      .completed 0]).bind (fun executed => if executed.1.all sequential then
        executed.2.crypto.syncCompletedForNewDeviceId else none) = some "laptop" := by decide
  obtain ⟨⟨history, final⟩, executed, completed⟩ := Option.bind_eq_some_iff.mp checked
  split at completed
  · rename_i all
    refine ⟨history, final, ran_run executed, completed, ?_⟩
    exact (requests_kept_iff phoneSession_init (ran_run executed)).mp fun t taken =>
      sequential_sound (List.all_eq_true.mp all t taken)
  · cases completed

/-- The laptop asks while the tablet is being approved, and the end of that approval
discards its request. -/
theorem request_discarded :
    ¬ ∀ (start final : SyncSession) (history : List SyncTransition), syncMachine.init start →
      syncMachine.Run start history final → ∀ t ∈ history, RequestsKept t.target ∧ PendingKept t := by
  intro claim
  have checked : (ran [.requested tablet, .approve tablet, .requested laptop, .completed 0]).bind
      (fun executed => executed.1.getLast?.map fun t => (t.target.outstanding,
        t.target.crypto.selectPendingSync, t.target.running)) = some (["laptop"], none, []) := by decide
  obtain ⟨⟨history, final⟩, executed, last⟩ := Option.bind_eq_some_iff.mp checked
  obtain ⟨t, found, same⟩ := Option.map_eq_some_iff.mp last
  obtain ⟨outstanding, hidden, idle⟩ : t.target.outstanding = ["laptop"] ∧
      t.target.crypto.selectPendingSync = none ∧ t.target.running = [] := by simpa using same
  have kept := (claim phoneSession final history phoneSession_init (ran_run executed) t
    (List.mem_of_getLast? found)).1 "laptop" (by rw [outstanding]; exact List.mem_singleton_self _)
  rcases kept with shown | approving
  · exact not_shown hidden "laptop" shown
  · obtain ⟨q, listed, -⟩ := approving_iff.mp approving
    rw [idle] at listed
    cases listed

end Runs

end MessagingSystem.Guarantees.SyncRequests
