import Mathlib.Order.Bounds.Basic
import Mathlib.Order.WithBot
import MessagingSystem.Foundation.Interleaving
import MessagingSystem.Source.Server.CursorEffects

/-!
# Concurrent receipt writes

Any number of `setReceiptDelivered` and `setReceiptSeen` calls for one message
and user, one store command a step. A call reads the message, compares the time
it finds with its own and writes in a later command, so that it can be in one of
three phases: before its lookup, before its write, or ended.
-/
namespace MessagingSystem.Protocol
open Foundation Source.Server

structure ReceiptCall where
  kind : ReceiptKind
  at' : Nat

/-- The calls for the message, conversation and user of `r`. -/
def receiptCalls (r : ReceiptRequest) : Calls ServerCommand AppError Bool Database ReceiptCall where
  program call :=
    match call.kind with
    | .delivered => setReceiptDelivered r call.at'
    | .seen => setReceiptSeen r call.at'
  exec := ServerCommand.exec
  mayFail _ := False

/-- The message is stored in its conversation. -/
def HoldsMessage (r : ReceiptRequest) (db : Database) : Prop :=
  ∃ m, db.findMessageRow r.messageId = some m ∧ m.conversationId = r.conversationId

def receiptMachine (r : ReceiptRequest) :
    Machine (Pool ServerCommand AppError Bool Database ReceiptCall) (PoolEvent ReceiptCall AppError) :=
  (receiptCalls r).machine (HoldsMessage r)

/-- A receipt time of a message, below every time while there is none. -/
def receiptTime (userId : String) (kind : ReceiptKind) (m : MessageDocument) : WithBot Nat :=
  match (m.receiptsByUserId.get userId).bind fun receipts => receipts.time kind with
  | some time => WithBot.some time
  | none => ⊥

/-- The stored receipt time of the user. -/
def storedTime (r : ReceiptRequest) (kind : ReceiptKind) (db : Database) : WithBot Nat :=
  match db.findMessageRow r.messageId with
  | some m => receiptTime r.actorUserId kind m
  | none => ⊥

/-- A call that has compared and not written yet. -/
def pendingWrite (r : ReceiptRequest) (call : ReceiptCall) : ServerProgram Bool :=
  .command (.setReceipt call.kind r.messageId r.actorUserId call.at') fun _ => .done (.ok true)

inductive ReceiptPhase (r : ReceiptRequest) (call : ReceiptCall) : ServerProgram Bool → Prop where
  | lookup : ReceiptPhase r call ((receiptCalls r).program call)
  | write : ReceiptPhase r call (pendingWrite r call)
  | ended (changed : Bool) : ReceiptPhase r call (.done (.ok changed))

section Commands

variable (r : ReceiptRequest)

theorem hasReceiptSince_iff (kind : ReceiptKind) (userId : String) (at' : Nat) (m : MessageDocument) :
    hasReceiptSince kind userId at' m = true ↔ WithBot.some at' ≤ receiptTime userId kind m := by
  unfold hasReceiptSince receiptTime
  cases (m.receiptsByUserId.get userId).bind fun receipts => receipts.time kind with
  | none => simp
  | some prev => simp

/-- The lookup, and what a call goes on with when the message is found. -/
theorem program_lookup (call : ReceiptCall) :
    ∃ next, (receiptCalls r).program call = .command (.findMessage r.messageId) next ∧
      ∀ m, m.conversationId = r.conversationId → next (some m) =
        if hasReceiptSince call.kind r.actorUserId call.at' m then .done (.ok false)
        else pendingWrite r call := by
  obtain ⟨kind, at'⟩ := call
  have shape : (receiptCalls r).program ⟨kind, at'⟩ = setReceiptTime kind r at' := by
    cases kind <;> rfl
  rw [shape]
  unfold setReceiptTime
  rw [Program.perform_bind]
  refine ⟨_, rfl, fun m same => ?_⟩
  have matched : decide (m.conversationId = r.conversationId) = true := by simpa using same
  simp only [Program.orFail_some, Program.pure_bind, matched, Program.require_true]
  split
  · rfl
  · rfl

/-- The next command writes a receipt time. -/
def writesReceipt : ServerProgram Bool → Bool
  | .command (.setReceipt ..) _ => true
  | _ => false

@[simp] theorem program_reads (call : ReceiptCall) :
    writesReceipt ((receiptCalls r).program call) = false := by
  obtain ⟨next, shape, -⟩ := program_lookup r call
  rw [shape]
  rfl

theorem receiptTime_setReceipt (userId : String) (kind other : ReceiptKind) (at' : Nat)
    (m : MessageDocument) :
    receiptTime userId other (m.setReceipt kind userId at') =
      if other = kind then WithBot.some at' else receiptTime userId other m := by
  unfold receiptTime MessageDocument.setReceipt
  simp only [Record.get_set_self, Option.bind_some]
  cases m.receiptsByUserId.get userId with
  | none => cases kind <;> cases other <;> rfl
  | some receipts => cases kind <;> cases other <;> rfl

/-- The write sets the time of its kind and leaves the other one. -/
theorem storedTime_write {db : Database} (held : HoldsMessage r db) (call : ReceiptCall)
    (kind : ReceiptKind) :
    storedTime r kind (ServerCommand.exec
      (.setReceipt call.kind r.messageId r.actorUserId call.at') db).2 =
      if kind = call.kind then WithBot.some call.at' else storedTime r kind db := by
  obtain ⟨m, found, -⟩ := held
  have keeps : ∀ d : MessageDocument, decide (d.id = r.messageId) = true →
      decide ((d.setReceipt call.kind r.actorUserId call.at').id = r.messageId) = true :=
    fun _ matched => matched
  have after : (ServerCommand.exec (.setReceipt call.kind r.messageId r.actorUserId call.at')
      db).2.findMessageRow r.messageId = some (m.setReceipt call.kind r.actorUserId call.at') := by
    simp only [ServerCommand.exec, Database.findMessageRow, Database.setMessages]
    rw [Collection.find_updateFirst_self keeps]
    exact congrArg _ found
  simp only [storedTime, after, found]
  exact receiptTime_setReceipt r.actorUserId call.kind kind call.at' m

theorem HoldsMessage.exec {r : ReceiptRequest} {db : Database} (held : HoldsMessage r db) {β : Type}
    (c : ServerCommand β) : HoldsMessage r (c.exec db).2 := by
  obtain ⟨m, found, same⟩ := held
  obtain ⟨m', found', thread, -⟩ := c.exec_extends db r.messageId m found
  exact ⟨m', found', thread.trans same⟩

end Commands

section Steps

variable {r : ReceiptRequest} {start : Database}
  {s t : Pool ServerCommand AppError Bool Database ReceiptCall}
  {event : PoolEvent ReceiptCall AppError}

/-- The steps of the calls: a call is taken up, its lookup ends it or lets it
write, or it writes. -/
inductive ReceiptMove (r : ReceiptRequest) (s : Pool ServerCommand AppError Bool Database ReceiptCall) :
    PoolEvent ReceiptCall AppError → Pool ServerCommand AppError Bool Database ReceiptCall → Prop where
  | takeUp (call : ReceiptCall) :
      ReceiptMove r s (.takeUp call) ⟨s.store, s.calls ++ [(call, (receiptCalls r).program call)]⟩
  | skip (index : Nat) (call : ReceiptCall)
      (running : s.calls[index]? = some (call, (receiptCalls r).program call))
      (since : WithBot.some call.at' ≤ storedTime r call.kind s.store) :
      ReceiptMove r s (.advance index) ⟨s.store, s.calls.set index (call, .done (.ok false))⟩
  | compare (index : Nat) (call : ReceiptCall)
      (running : s.calls[index]? = some (call, (receiptCalls r).program call)) :
      ReceiptMove r s (.advance index) ⟨s.store, s.calls.set index (call, pendingWrite r call)⟩
  | write (index : Nat) (call : ReceiptCall)
      (running : s.calls[index]? = some (call, pendingWrite r call)) :
      ReceiptMove r s (.advance index)
        ⟨(ServerCommand.exec (.setReceipt call.kind r.messageId r.actorUserId call.at') s.store).2,
          s.calls.set index (call, .done (.ok true))⟩

/-- What holds of every state reached. -/
structure ReceiptState (r : ReceiptRequest)
    (s : Pool ServerCommand AppError Bool Database ReceiptCall) : Prop where
  message : HoldsMessage r s.store
  phases : s.All (ReceiptPhase r)

theorem ReceiptState.initial (init : (receiptMachine r).init s) : ReceiptState r s := by
  refine ⟨init.2, fun entry member => ?_⟩
  rw [init.1] at member
  cases member

theorem ReceiptState.move (inv : ReceiptState r s) (taken : (receiptMachine r).step s event t) :
    ReceiptMove r s event t := by
  cases taken with
  | takeUp call => exact .takeUp call
  | advance index call c next running =>
    obtain ⟨m, found, same⟩ := inv.message
    obtain ⟨following, shape, after⟩ := program_lookup r call
    generalize current : Program.command c next = p at running
    cases inv.phases.at_index running with
    | lookup =>
      rw [shape] at current
      cases current
      have reply : ((receiptCalls r).exec (.findMessage r.messageId) s.store).1 = some m := found
      rw [reply, after m same]
      split
      · rename_i since
        refine .skip index call running ?_
        rw [storedTime, found]
        exact (hasReceiptSince_iff _ _ _ _).mp since
      · exact .compare index call running
    | write =>
      cases current
      exact .write index call running
    | ended changed => cases current
  | abort index call c next e fails running => exact fails.elim

theorem ReceiptState.preserved (s : Pool ServerCommand AppError Bool Database ReceiptCall)
    (event : PoolEvent ReceiptCall AppError)
    (t : Pool ServerCommand AppError Bool Database ReceiptCall) (inv : ReceiptState r s)
    (taken : (receiptMachine r).step s event t) : ReceiptState r t := by
  cases inv.move taken with
  | takeUp call => exact ⟨inv.message, inv.phases.takeUp .lookup _⟩
  | skip index call running => exact ⟨inv.message, inv.phases.set (.ended false) _ index⟩
  | compare index call running => exact ⟨inv.message, inv.phases.set .write _ index⟩
  | write index call running =>
    exact ⟨inv.message.exec _, inv.phases.set (.ended true) _ index⟩

end Steps

end MessagingSystem.Protocol
