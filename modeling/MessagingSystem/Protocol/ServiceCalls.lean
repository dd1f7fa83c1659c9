import MessagingSystem.Foundation.LastWrite
import MessagingSystem.Foundation.Transition
import MessagingSystem.Source.Server.CursorEffects

/-!
# Interleaved socket events

The events that several sockets send are taken up in any order, and the calls
they start run interleaved: one step executes one store command of one call.
-/
namespace MessagingSystem.Protocol
open Foundation Source.Server

/-- A socket event with the clock values its call draws. -/
inductive SocketCall where
  | messageDelivered (r : ReceiptRequest) (at' : Nat)
  | messageRead (r : ReceiptRequest) (at' now : Nat)
  | conversationRead (r : ReceiptRequest) (at' now : Nat)
  | messageSend (sender : UserId) (payload : SendMessageRequest) (stamp : SendStamp)
      (originSocketId : Option String)

namespace SocketCall

def program : SocketCall → ServerProgram Unit
  | .messageDelivered r at' => processMessageDelivered r at'
  | .messageRead r at' now => processMessageRead r at' now
  | .conversationRead r at' now => processConversationRead r at' now
  | .messageSend sender payload stamp originSocketId => do
      let _ ← sendMessageForUser sender.val payload stamp originSocketId
      pure ()

/-- The cursor a read event asks for: user, conversation and message id. -/
def readCursor : SocketCall → Option (String × String × String)
  | .messageRead r .. => some (r.actorUserId, r.conversationId, r.messageId)
  | .conversationRead r .. => some (r.actorUserId, r.conversationId, r.messageId)
  | _ => none

theorem program_contract (call : SocketCall) (db : Database) :
    CursorContract call.readCursor call.program (fun _ _ => True) db := by
  cases call with
  | messageDelivered r at' => exact processMessageDelivered_contract r at'
  | messageRead r at' now => exact processMessageRead_contract r at' now
  | conversationRead r at' now => exact processConversationRead_contract r at' now
  | messageSend sender payload stamp originSocketId =>
    exact CursorContract.of_free (.bind
      (addsOnly_cursorFree (sendMessageForUser_addsOnly sender payload stamp originSocketId))
      fun _ => Program.forall_pure _)

end SocketCall

/-- The store and the calls taken up, with what each still has to do. -/
structure Service where
  db : Database
  calls : List (SocketCall × ServerProgram Unit) := []

inductive ServiceEvent where
  | takeUp (call : SocketCall)
  | advance (index : Nat)

/-- One event is taken up, or one call executes one command. -/
inductive ServiceStep : Service → ServiceEvent → Service → Prop where
  | takeUp (s : Service) (call : SocketCall) :
      ServiceStep s (.takeUp call) { s with calls := s.calls ++ [(call, call.program)] }
  | advance (s : Service) (index : Nat) (call : SocketCall) {β : Type} (c : ServerCommand β)
      (next : β → ServerProgram Unit)
      (running : s.calls[index]? = some (call, .command c next)) :
      ServiceStep s (.advance index)
        ⟨(c.exec s.db).2, s.calls.set index (call, next (c.exec s.db).1)⟩

/-- The service from a store without read cursors. -/
def serviceMachine : Machine Service ServiceEvent where
  init s := s.calls = [] ∧ s.db.conversationReads = []
  step := ServiceStep

/-- The step of an event, when it is enabled. -/
def Service.next (s : Service) : ServiceEvent → Option Service
  | .takeUp call => some { s with calls := s.calls ++ [(call, call.program)] }
  | .advance index =>
      match s.calls[index]? with
      | some (call, .command c rest) =>
          some ⟨(c.exec s.db).2, s.calls.set index (call, rest (c.exec s.db).1)⟩
      | _ => none

theorem Service.next_step (s : Service) (event : ServiceEvent) (t : Service)
    (stepped : s.next event = some t) : serviceMachine.step s event t := by
  cases event with
  | takeUp call =>
    cases stepped
    exact .takeUp s call
  | advance index =>
    simp only [Service.next] at stepped
    split at stepped
    · rename_i call β c rest running
      cases stepped
      exact .advance s index call c rest running
    · cases stepped

/-- Every call in flight keeps the contract of its event. -/
def Service.Contracts (s : Service) : Prop :=
  ∀ entry ∈ s.calls, CursorContract entry.1.readCursor entry.2 (fun _ _ => True) s.db

theorem Service.Contracts.initial {s : Service} (start : serviceMachine.init s) : s.Contracts := by
  intro entry member
  simp [start.1] at member

theorem Service.Contracts.preserved (s : Service) (event : ServiceEvent) (t : Service)
    (contracts : s.Contracts) (taken : serviceMachine.step s event t) : t.Contracts := by
  cases taken with
  | takeUp call =>
    intro entry member
    rcases List.mem_append.mp member with old | new
    · exact contracts entry old
    · obtain rfl := List.mem_singleton.mp new
      exact call.program_contract s.db
  | advance index call c next running =>
    intro entry member
    rcases List.mem_or_eq_of_mem_set member with old | rfl
    · exact (contracts entry old).stable (c.exec_extends s.db)
    · exact (contracts _ (List.mem_of_getElem? running)).command.2

/-- The cursor write a step executes: the cursor and the place of its message. -/
def cursorWrite (t : Transition Service ServiceEvent) :
    Option ((String × String) × (Nat ×ₗ String)) :=
  match t.label with
  | .takeUp _ => none
  | .advance index =>
      match t.source.calls[index]? with
      | some (call, .command c _) =>
          if c.cursorWrite.isSome then
            call.readCursor.bind fun cursor =>
              (t.source.db.positionOf cursor.2.2).map fun place =>
                ((cursor.1, cursor.2.1), place)
          else none
      | _ => none

/-- A step executes a checked cursor write, or it leaves every cursor alone. -/
theorem step_cursor {s t : Service} {event : ServiceEvent} (contracts : s.Contracts)
    (taken : serviceMachine.step s event t) :
    s.db.Extends t.db ∧
    match cursorWrite ⟨s, event, t⟩ with
    | some (cursor, place) => t.db.cursorPosition cursor.1 cursor.2 = some place ∧
        ∀ other, other ≠ cursor → t.db.findReadRow other.1 other.2 = s.db.findReadRow other.1 other.2
    | none => ∀ u c, t.db.findReadRow u c = s.db.findReadRow u c := by
  cases taken with
  | takeUp call => exact ⟨Database.Extends.refl s.db, fun _ _ => rfl⟩
  | advance index call c next running =>
    refine ⟨c.exec_extends s.db, ?_⟩
    have writes := (contracts _ (List.mem_of_getElem? running)).command.1
    cases written : c.cursorWrite with
    | none =>
      simp only [cursorWrite, running, written, Option.isSome_none, Bool.false_eq_true, if_false]
      exact c.exec_findReadRow s.db written
    | some write =>
      obtain ⟨expected, place, held⟩ := writes write written
      simp only [cursorWrite, running, written, Option.isSome_some, if_true, expected,
        Option.bind_some, held, Option.map_some]
      exact ServerCommand.exec_cursorWrite written held

end MessagingSystem.Protocol
