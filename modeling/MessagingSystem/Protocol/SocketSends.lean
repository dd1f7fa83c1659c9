import MessagingSystem.Foundation.NotedCalls
import MessagingSystem.Source.Server.SendMessage

/-!
# The sends of sockets

A socket emits `message:send` events, and the handler of each runs interleaved with
the others, one store or broker command a step; any command may fail, and a send
that is refused before its first command fails there. The stamp of a send is what
its handler will draw: `insertMessage` takes the time of the clock when the command
before it is answered. The clock does not go back.
-/
namespace MessagingSystem.Protocol
open Foundation Source.Server

structure SocketSend where
  socketId : String
  user : UserId
  payload : SendMessageRequest
  stamp : SendStamp

/-- The message that a handler has stored. -/
def noteStored : {β : Type} → Option MessageDocument → ServerCommand β → β → Option MessageDocument
  | _, _, .insertMessage doc, true => some doc
  | _, stored, _, _ => stored

/-- Handlers run in any order and fail with any error. -/
def sendCalls : NotedCalls ServerCommand AppError MessageDocument Database SocketSend (Option MessageDocument) where
  program call := sendMessageForUser call.user.val call.payload call.stamp (some call.socketId)
  blank := none
  note := noteStored
  exec := ServerCommand.exec
  admits _ _ := True
  mayFail _ := True

abbrev SendCall := NotedCall ServerCommand AppError MessageDocument SocketSend (Option MessageDocument)

abbrev SendPool := NotedPool ServerCommand AppError MessageDocument Database SocketSend (Option MessageDocument)

structure SocketService where
  pool : SendPool
  clock : Nat := 0

/-- The handlers of emitted events stand in the order of emission. -/
inductive SocketSendEvent where
  | handlers (event : PoolEvent SocketSend AppError)
  | pass (now : Nat)

/-- The message that the next command of a program inserts. -/
def insertOf : ServerProgram MessageDocument → Option MessageDocument
  | .command (.insertMessage doc) _ => some doc
  | _ => none

/-- The message of a handler that has taken its time: the message is stored or inserted next. -/
def takenDoc (call : SendCall) : Option MessageDocument :=
  match call.notes with
  | some doc => some doc
  | none => insertOf call.rest

/-- A handler whose next command is the insert takes the time of the clock. -/
def TakesTime (clock : Nat) (pool : SendPool) : PoolEvent SocketSend AppError → Prop
  | .advance i => ∀ call ∈ pool.calls[i]?, ∀ doc ∈ insertOf call.rest, doc.createdAt = clock
  | _ => True

instance (clock : Nat) (pool : SendPool) : (event : PoolEvent SocketSend AppError) →
    Decidable (TakesTime clock pool event)
  | .advance i => inferInstanceAs (Decidable (∀ call ∈ pool.calls[i]?, ∀ doc ∈ insertOf call.rest,
      doc.createdAt = clock))
  | .takeUp _ => .isTrue trivial
  | .abort _ _ => .isTrue trivial

inductive SocketStep : SocketService → SocketSendEvent → SocketService → Prop where
  | handlers (s : SocketService) (event : PoolEvent SocketSend AppError) (pool : SendPool)
      (taken : sendCalls.Step s.pool event pool) (time : TakesTime s.clock pool event) :
      SocketStep s (.handlers event) { s with pool := pool }
  | pass (s : SocketService) (now : Nat) (later : s.clock ≤ now) :
      SocketStep s (.pass now) { s with clock := now }

/-- Runs from any store, with no handler in flight. -/
def socketMachine : Machine SocketService SocketSendEvent where
  init s := s.pool.calls = []
  step := SocketStep

abbrev SocketTransition := Transition SocketService SocketSendEvent

/-- The step of an event, when it is enabled and no command fails. -/
def SocketService.next (s : SocketService) : SocketSendEvent → Option SocketService
  | .handlers event => (sendCalls.next (fun _ _ => true) s.pool event).bind fun pool =>
      if TakesTime s.clock pool event then some { s with pool := pool } else none
  | .pass now => if s.clock ≤ now then some { s with clock := now } else none

theorem SocketService.next_step (s : SocketService) (event : SocketSendEvent) (t : SocketService)
    (stepped : s.next event = some t) : socketMachine.step s event t := by
  cases event with
  | handlers event =>
    obtain ⟨pool, moved, timed⟩ := Option.bind_eq_some_iff.mp stepped
    split at timed
    · rename_i time
      cases timed
      have taken := @NotedCalls.next_step _ _ _ _ _ _ sendCalls (fun _ => True) (fun _ _ => true)
        (fun _ _ _ => trivial) s.pool event pool moved
      exact .handlers s event pool taken time
    · cases timed
  | pass now =>
    simp only [SocketService.next] at stepped
    split at stepped
    · rename_i later
      cases stepped
      exact .pass s now later
    · cases stepped

end MessagingSystem.Protocol
