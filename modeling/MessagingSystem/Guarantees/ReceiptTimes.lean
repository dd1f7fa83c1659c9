import MessagingSystem.Protocol.ReceiptWrites

/-!
# Receipt times under concurrency

The calls that set a receipt time of one message for one user, interleaved at
store commands. `deliveredAt` and `seenAt` never go back, end at the latest time
among the calls, and are reported as changed only by a call that raised them,
exactly when every write finds a stored time that is still below its own.
-/
namespace MessagingSystem.Guarantees.ReceiptTimes
open Foundation Source.Server Protocol

/-- The calls in flight on the store. -/
abbrev Receipts := Pool ServerCommand AppError Bool Database ReceiptCall

abbrev ReceiptTransition := Transition Receipts (PoolEvent ReceiptCall AppError)

variable {r : ReceiptRequest}

/-- A call that is about to write finds a stored time below its own. -/
def writesLater (r : ReceiptRequest) (t : ReceiptTransition) : Bool :=
  match t.label with
  | .advance index =>
      match t.source.calls[index]? with
      | some (call, p) =>
          !writesReceipt p ||
            decide (storedTime r call.kind t.source.store < WithBot.some call.at')
      | none => true
  | _ => true

/-- The stored times do not go back. -/
def NeverDecreases (r : ReceiptRequest) (t : ReceiptTransition) : Prop :=
  ∀ kind, storedTime r kind t.source.store ≤ storedTime r kind t.target.store

/-- A call that ends with `changed: true` has raised the stored time to its own. -/
def ChangedRaises (r : ReceiptRequest) (t : ReceiptTransition) : Prop :=
  ∀ (index : Nat) (call : ReceiptCall), t.target.calls[index]? = some (call, Program.done (.ok true)) →
    t.source.calls[index]? ≠ some (call, Program.done (.ok true)) →
      storedTime r call.kind t.source.store < storedTime r call.kind t.target.store ∧
        storedTime r call.kind t.target.store = WithBot.some call.at'

/-- Once all calls have ended, the stored time is the latest of the initial one
and those of the calls. -/
def EndsAtMaximum (r : ReceiptRequest) (start : Database) (s : Receipts) : Prop :=
  (s.All fun _ p => ∃ result, p = .done result) → ∀ kind,
    IsGreatest {time | time = storedTime r kind start ∨
      ∃ call ∈ s.calls.map Prod.fst, call.kind = kind ∧ time = WithBot.some call.at'}
      (storedTime r kind s.store)

/-- What the stored times are while the calls run. -/
structure Raised (r : ReceiptRequest) (start : Database) (s : Receipts) : Prop where
  grown : ∀ kind, storedTime r kind start ≤ storedTime r kind s.store
  ended : s.All fun call p =>
    (∃ result, p = .done result) → WithBot.some call.at' ≤ storedTime r call.kind s.store
  attained : ∀ kind, storedTime r kind s.store = storedTime r kind start ∨
    ∃ call ∈ s.calls.map Prod.fst, call.kind = kind ∧
      storedTime r kind s.store = WithBot.some call.at'

theorem Raised.initial {s : Receipts} (init : (receiptMachine r).init s) : Raised r s.store s := by
  refine ⟨fun kind => le_refl _, fun entry member => ?_, fun kind => .inl rfl⟩
  rw [init.1] at member
  cases member

theorem Raised.endsAtMaximum {start : Database} {s : Receipts} (raised : Raised r start s) :
    EndsAtMaximum r start s := by
  intro ended kind
  constructor
  · exact raised.attained kind
  · rintro time (rfl | ⟨call, member, rfl, rfl⟩)
    · exact raised.grown kind
    · obtain ⟨entry, held, rfl⟩ := List.mem_map.mp member
      exact raised.ended entry held (ended entry held)

theorem writesLater_iff {s t : Receipts} {index : Nat} {call : ReceiptCall}
    (running : s.calls[index]? = some (call, pendingWrite r call)) :
    writesLater r ⟨s, .advance index, t⟩ = true ↔
      storedTime r call.kind s.store < WithBot.some call.at' := by
  simp [writesLater, running, writesReceipt, pendingWrite]

theorem write_never_decreases {db : Database} (held : HoldsMessage r db) {call : ReceiptCall}
    (later : storedTime r call.kind db < WithBot.some call.at') (kind : ReceiptKind) :
    storedTime r kind db ≤ storedTime r kind (ServerCommand.exec
      (.setReceipt call.kind r.messageId r.actorUserId call.at') db).2 := by
  rw [storedTime_write r held]
  split
  · rename_i same
    exact same ▸ le_of_lt later
  · exact le_refl _

section Steps

variable {s t : Receipts} {event : PoolEvent ReceiptCall AppError}

theorem never_decreases (inv : ReceiptState r s) (taken : (receiptMachine r).step s event t)
    (later : writesLater r ⟨s, event, t⟩ = true) : NeverDecreases r ⟨s, event, t⟩ := by
  intro kind
  cases inv.move taken with
  | takeUp call => exact le_refl _
  | skip index call running => exact le_refl _
  | compare index call running => exact le_refl _
  | write index call running =>
    exact write_never_decreases inv.message ((writesLater_iff running).mp later) kind

theorem Raised.step {start : Database} (inv : ReceiptState r s) (raised : Raised r start s)
    (taken : (receiptMachine r).step s event t) (later : writesLater r ⟨s, event, t⟩ = true) :
    Raised r start t := by
  have grows := never_decreases inv taken later
  have grown : ∀ kind, storedTime r kind start ≤ storedTime r kind t.store :=
    fun kind => le_trans (raised.grown kind) (grows kind)
  have ended : s.All fun call p =>
      (∃ result, p = .done result) → WithBot.some call.at' ≤ storedTime r call.kind t.store :=
    raised.ended.mono fun call p bound done => le_trans (bound done) (grows call.kind)
  cases inv.move taken with
  | takeUp call =>
    refine ⟨grown, ended.takeUp (fun done => ?_) s.store, fun kind => ?_⟩
    · obtain ⟨next, shape, -⟩ := program_lookup r call
      obtain ⟨result, ends⟩ := done
      rw [shape] at ends
      cases ends
    · refine (raised.attained kind).imp_right fun ⟨other, member, held⟩ => ?_
      exact ⟨other, by simp only [List.map_append, List.mem_append, member, true_or], held⟩
  | skip index call running since =>
    refine ⟨grown, ended.set (fun _ => since) s.store index, ?_⟩
    rw [map_fst_set running]
    exact raised.attained
  | compare index call running =>
    refine ⟨grown, ended.set (fun done => ?_) s.store index, ?_⟩
    · obtain ⟨result, ends⟩ := done
      cases ends
    · rw [map_fst_set running]
      exact raised.attained
  | write index call running =>
    have written : storedTime r call.kind (ServerCommand.exec
        (.setReceipt call.kind r.messageId r.actorUserId call.at') s.store).2 =
        WithBot.some call.at' := by
      rw [storedTime_write r inv.message, if_pos rfl]
    refine ⟨grown, ended.set (fun _ => written.ge) _ index, fun kind => ?_⟩
    rw [map_fst_set running]
    by_cases same : kind = call.kind
    · subst same
      exact .inr ⟨call, List.mem_map.mpr ⟨_, List.mem_of_getElem? running, rfl⟩, rfl, written⟩
    · rw [storedTime_write r inv.message, if_neg same]
      exact raised.attained kind

theorem changed_raises (inv : ReceiptState r s) (taken : (receiptMachine r).step s event t)
    (later : writesLater r ⟨s, event, t⟩ = true) : ChangedRaises r ⟨s, event, t⟩ := by
  intro at' changed ended before
  cases inv.move taken with
  | takeUp call =>
    rw [List.getElem?_append] at ended
    split at ended
    · exact absurd ended before
    · obtain ⟨next, shape, -⟩ := program_lookup r call
      have same := List.mem_singleton.mp (List.mem_of_getElem? ended)
      rw [shape, Prod.mk.injEq] at same
      cases same.2
  | skip index call running since =>
    by_cases here : index = at'
    · subst here
      simp [List.getElem?_set] at ended
    · exact absurd (by simpa [List.getElem?_set, here] using ended) before
  | compare index call running =>
    by_cases here : index = at'
    · subst here
      simp [List.getElem?_set, pendingWrite] at ended
    · exact absurd (by simpa [List.getElem?_set, here] using ended) before
  | write index call running =>
    by_cases here : index = at'
    · subst here
      obtain ⟨bound, same⟩ := List.getElem?_eq_some_iff.mp ended
      have named : changed = call := by simpa using (congrArg Prod.fst same).symm
      subst named
      have written : storedTime r changed.kind (ServerCommand.exec
          (.setReceipt changed.kind r.messageId r.actorUserId changed.at') s.store).2 =
          WithBot.some changed.at' := by
        rw [storedTime_write r inv.message, if_pos rfl]
      refine ⟨?_, written⟩
      rw [written]
      exact (writesLater_iff running).mp later
    · exact absurd (by simpa [List.getElem?_set, here] using ended) before

/-- A write that raised the stored time found it below its own. -/
theorem writes_later_of_raises (inv : ReceiptState r s)
    (taken : (receiptMachine r).step s event t) (raises : ChangedRaises r ⟨s, event, t⟩) :
    writesLater r ⟨s, event, t⟩ = true := by
  cases inv.move taken with
  | takeUp call => rfl
  | skip index call running =>
    simp [writesLater, running, program_reads]
  | compare index call running =>
    simp [writesLater, running, program_reads]
  | write index call running =>
    have bound := (List.getElem?_eq_some_iff.mp running).1
    have ended : (s.calls.set index (call, .done (.ok true)))[index]? =
        some (call, .done (.ok true)) := by simp [bound]
    obtain ⟨raised, value⟩ := raises index call ended (by
      rw [running]
      intro same
      cases same)
    rw [writesLater_iff running, ← value]
    exact raised

end Steps

/-- Receipt times never go back, end at the maximum and are reported as changed
only when raised, exactly when no write meets a time that is not below its own. -/
theorem receipt_times_ascend_iff {start final : Receipts} {history : List ReceiptTransition}
    (init : (receiptMachine r).init start) (run : (receiptMachine r).Run start history final) :
    (∀ t ∈ history, writesLater r t = true) ↔
      (∀ t ∈ history, NeverDecreases r t ∧ ChangedRaises r t ∧
        EndsAtMaximum r start.store t.target) := by
  constructor
  · intro later t member
    have recorded := run.recorded_of_forall
      (I := fun s => ReceiptState r s ∧ Raised r start.store s)
      (fun s event t inv taken later =>
        ⟨inv.1.preserved s event t taken, inv.2.step inv.1 taken later⟩)
      ⟨.initial init, .initial init⟩ later t member
    obtain ⟨taken, inv, after⟩ := recorded
    exact ⟨never_decreases inv.1 taken (later t member),
      changed_raises inv.1 taken (later t member), after.2.endsAtMaximum⟩
  · intro kept t member
    obtain ⟨taken, inv⟩ := run.recorded ReceiptState.preserved (.initial init) t member
    exact writes_later_of_raises inv taken (kept t member).2.1

section Runs

def greeting : MessageDocument :=
  { id := "m", conversationId := "c", senderId := "alice", body := some "hi", mediaKey := none
    encryptedMessageKeys := none, iv := .undefined, algorithm := .undefined, createdAt := 1 }

/-- A message from `alice`, read by nobody yet. -/
def unread : Receipts := ⟨{ messages := [greeting] }, []⟩

def byBob : ReceiptRequest := ⟨"bob", "m", "c", none⟩

theorem unread_init : (receiptMachine byBob).init unread := ⟨rfl, greeting, rfl, rfl⟩

/-- The stored time of `bob`'s `kind` before and after the last step of the events. -/
def lastTimes (kind : ReceiptKind) (events : List (PoolEvent ReceiptCall AppError)) :
    Option (WithBot Nat × WithBot Nat) :=
  (Machine.trace (receiptCalls byBob).next unread events).bind fun executed =>
    executed.1.getLast?.map fun t =>
      (storedTime byBob kind t.source.store, storedTime byBob kind t.target.store)

/-- One tab reports the message as seen after another one did. -/
theorem receipt_times_ascend_in_turn :
    ∃ history final, (receiptMachine byBob).Run unread history final ∧ history.length = 6 ∧
      storedTime byBob .seen unread.store = ⊥ ∧ storedTime byBob .seen final.store = WithBot.some 5 ∧
      (∀ t ∈ history, NeverDecreases byBob t ∧ ChangedRaises byBob t ∧
        EndsAtMaximum byBob unread.store t.target) := by
  let events : List (PoolEvent ReceiptCall AppError) :=
    [.takeUp ⟨.seen, 3⟩, .takeUp ⟨.seen, 5⟩, .advance 0, .advance 0, .advance 1, .advance 1]
  have checked : (Machine.trace (receiptCalls byBob).next unread events).any (fun executed =>
      decide (executed.1.length = 6 ∧ storedTime byBob .seen executed.2.store = WithBot.some 5) &&
        executed.1.all (writesLater byBob)) = true := by decide
  obtain ⟨⟨history, final⟩, executed, holds⟩ := (Option.any_eq_true _ _).mp checked
  obtain ⟨seen, later⟩ := (Bool.and_eq_true _ _).mp holds
  obtain ⟨six, last⟩ := of_decide_eq_true seen
  have run : (receiptMachine byBob).Run unread history final :=
    Machine.trace_run _ (receiptCalls byBob).next_step executed
  exact ⟨history, final, run, six, by decide, last,
    (receipt_times_ascend_iff unread_init run).mp (List.all_eq_true.mp later)⟩

/-- Two tabs both look the message up before either writes, and the earlier
time is written last. -/
theorem receipt_time_goes_back :
    ¬ ∀ (r : ReceiptRequest) (start final : Receipts) (history : List ReceiptTransition),
      (receiptMachine r).init start → (receiptMachine r).Run start history final →
      ∀ t ∈ history, NeverDecreases r t ∧ ChangedRaises r t ∧
        EndsAtMaximum r start.store t.target := by
  intro claim
  let events : List (PoolEvent ReceiptCall AppError) :=
    [.takeUp ⟨.seen, 5⟩, .takeUp ⟨.seen, 3⟩, .advance 0, .advance 1, .advance 0, .advance 1]
  have times : lastTimes .seen events = some (WithBot.some 5, WithBot.some 3) := by decide
  obtain ⟨⟨history, final⟩, executed, last⟩ := Option.bind_eq_some_iff.mp times
  obtain ⟨t, found, same⟩ := Option.map_eq_some_iff.mp last
  have run : (receiptMachine byBob).Run unread history final :=
    Machine.trace_run _ (receiptCalls byBob).next_step executed
  have kept := (claim byBob unread final history unread_init run t
    (List.mem_of_getLast? found)).1 .seen
  rw [(Prod.mk.inj same).1, (Prod.mk.inj same).2] at kept
  exact absurd kept (by decide)

end Runs

end MessagingSystem.Guarantees.ReceiptTimes
