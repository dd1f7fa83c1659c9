import MessagingSystem.Foundation.Transition
import MessagingSystem.Source.Server.Presence

/-!
# Sockets and last-seen times

Sockets connect with any outcome of their authentication and any handshake data.
Their heartbeats, disconnects and queries start tasks that run interleaved, one
Redis or MongoDB command a step, and any command may fail. Redis keys do not expire.
-/
namespace MessagingSystem.Protocol
open Foundation Source.Server

structure PresenceConnection where
  socket : PresenceSocket
  isOpen : Bool := true

/-- A task of a socket. A query notes the newest heartbeat of its user that had been
written when it started. -/
structure PresenceTask where
  socket : Nat
  since : Option Nat := none
  rest : PresenceProgram (Option LastSeenSocketResult)

/-- The stores, the sockets and their tasks. `newest` is the time of the newest
heartbeat of a user that has been written. -/
structure PresenceService where
  store : PresenceStore := {}
  connections : List PresenceConnection := []
  tasks : List PresenceTask := []
  newest : Record Nat := ∅

/-- `onHeartbeat` reads the clock, and `setLastSeen` reads it again. -/
inductive PresenceEvent where
  | connect (authAtConnect : SocketAuthResult) (handshakeAuth : Option Json)
  | heartbeat (socket : Nat) (now written : Nat)
  | disconnect (socket : Nat) (now : Nat)
  | getLastSeen (socket : Nat) (targetUserId : String)
  | advance (index : Nat)
  | abort (index : Nat) (e : AppError)

def noteHeartbeat : {β : Type} → PresenceCommand β → Record Nat → Record Nat
  | _, .setLastSeen user ms, newest => newest.set user.val (max ms ((newest.get user.val).getD 0))
  | _, _, newest => newest

def heartbeatTask (userId : UserId) (now : Nat) : PresenceProgram (Option LastSeenSocketResult) := do
  setLastSeen userId now
  pure none

def disconnectTask (userId : UserId) (now : Nat) : PresenceProgram (Option LastSeenSocketResult) := do
  flushLastSeenToMongo userId now
  pure none

def queryTask (targetUserId : String) : PresenceProgram (Option LastSeenSocketResult) := do
  let result ← resolveLastSeenForUser targetUserId
  pure (some result)

namespace PresenceService

variable (s : PresenceService)

/-- The newest heartbeat written of the user that a query names. -/
def newestOf (targetUserId : String) : Option Nat :=
  (trimmedUserId targetUserId).bind fun user => s.newest.get user.val

def start (task : PresenceTask) : PresenceService := { s with tasks := s.tasks ++ [task] }

def perform : PresenceEvent → Option PresenceService
  | .connect authAtConnect handshakeAuth => some
      { s with connections := s.connections ++ [⟨onConnection authAtConnect handshakeAuth, true⟩] }
  | .heartbeat i now written => s.connections[i]?.bind fun c =>
      if c.isOpen then
        match c.socket.onHeartbeat now with
        | some user => some
            { s.start ⟨i, none, heartbeatTask user written⟩ with
              connections := s.connections.set i { c with socket := { c.socket with lastHeartbeatWriteMs := now } } }
        | none => some s
      else none
  | .disconnect i now => s.connections[i]?.bind fun c =>
      if c.isOpen then
        let closed := s.connections.set i { c with isOpen := false }
        match c.socket.userId with
        | some user => some { s.start ⟨i, none, disconnectTask user now⟩ with connections := closed }
        | none => some { s with connections := closed }
      else none
  | .getLastSeen i targetUserId => s.connections[i]?.bind fun c =>
      if c.isOpen then some (s.start ⟨i, s.newestOf targetUserId, queryTask targetUserId⟩) else none
  | .advance j => s.tasks[j]?.bind fun task =>
      match task.rest with
      | .command c next => some
          { s with
            store := (c.exec s.store).2
            tasks := s.tasks.set j { task with rest := next (c.exec s.store).1 }
            newest := noteHeartbeat c s.newest }
      | .done _ => none
  | .abort j e => s.tasks[j]?.bind fun task =>
      match task.rest with
      | .command _ _ => some { s with tasks := s.tasks.set j { task with rest := .done (.error e) } }
      | .done _ => none

end PresenceService

/-- Runs from any stores, without sockets. -/
def presenceMachine : Machine PresenceService PresenceEvent where
  init s := s.connections = [] ∧ s.tasks = [] ∧ s.newest = ∅
  step s event t := s.perform event = some t

abbrev PresenceTransition := Transition PresenceService PresenceEvent

section Steps

variable {s t : PresenceService} {event : PresenceEvent}

/-- What an event does to the stores and the tasks: nothing, it starts a task, or a task
executes its next command or fails. -/
theorem perform_cases (happened : s.perform event = some t) :
    ((∀ j, event ≠ .advance j) ∧ t.store = s.store ∧ t.newest = s.newest ∧ t.tasks = s.tasks) ∨
    (t.store = s.store ∧ t.newest = s.newest ∧ ∃ task : PresenceTask, t.tasks = s.tasks ++ [task] ∧
      ((∃ i c user now written, event = .heartbeat i now written ∧ s.connections[i]? = some c ∧
          c.socket.onHeartbeat now = some user ∧ task = ⟨i, none, heartbeatTask user written⟩) ∨
        (∃ i c user now, event = .disconnect i now ∧ s.connections[i]? = some c ∧
          c.socket.userId = some user ∧ task = ⟨i, none, disconnectTask user now⟩) ∨
        (∃ i target, event = .getLastSeen i target ∧ task = ⟨i, s.newestOf target, queryTask target⟩))) ∨
    (∃ (j : Nat) (task : PresenceTask) (β : Type) (c : PresenceCommand β)
      (next : β → PresenceProgram (Option LastSeenSocketResult)), event = .advance j ∧ s.tasks[j]? = some task ∧
      task.rest = .command c next ∧ t = { s with
        store := (c.exec s.store).2
        tasks := s.tasks.set j { task with rest := next (c.exec s.store).1 }
        newest := noteHeartbeat c s.newest }) ∨
    (∃ (j : Nat) (task : PresenceTask) (e : AppError), event = .abort j e ∧ s.tasks[j]? = some task ∧
      t.store = s.store ∧ t.newest = s.newest ∧
      t.tasks = s.tasks.set j { task with rest := .done (.error e) }) := by
  cases event with
  | connect authAtConnect handshakeAuth =>
    cases happened
    exact .inl ⟨fun j => nofun, rfl, rfl, rfl⟩
  | heartbeat i now written =>
    obtain ⟨c, held, happened⟩ := Option.bind_eq_some_iff.mp happened
    split at happened
    · split at happened
      · rename_i user writes
        cases happened
        exact .inr (.inl ⟨rfl, rfl, _, rfl, .inl ⟨i, c, user, now, written, rfl, held, writes, rfl⟩⟩)
      · cases happened
        exact .inl ⟨fun j => nofun, rfl, rfl, rfl⟩
    · cases happened
  | disconnect i now =>
    obtain ⟨c, held, happened⟩ := Option.bind_eq_some_iff.mp happened
    split at happened
    · simp only at happened
      split at happened
      · rename_i user named
        cases happened
        exact .inr (.inl ⟨rfl, rfl, _, rfl, .inr (.inl ⟨i, c, user, now, rfl, held, named, rfl⟩)⟩)
      · cases happened
        exact .inl ⟨fun j => nofun, rfl, rfl, rfl⟩
    · cases happened
  | getLastSeen i target =>
    obtain ⟨c, held, happened⟩ := Option.bind_eq_some_iff.mp happened
    split at happened
    · cases happened
      exact .inr (.inl ⟨rfl, rfl, _, rfl, .inr (.inr ⟨i, target, rfl, rfl⟩)⟩)
    · cases happened
  | advance j =>
    obtain ⟨task, held, happened⟩ := Option.bind_eq_some_iff.mp happened
    split at happened
    · rename_i β c next running
      cases happened
      exact .inr (.inr (.inl ⟨j, task, β, c, next, rfl, held, running, rfl⟩))
    · cases happened
  | abort j e =>
    obtain ⟨task, held, happened⟩ := Option.bind_eq_some_iff.mp happened
    split at happened
    · cases happened
      exact .inr (.inr (.inr ⟨j, task, e, rfl, held, rfl, rfl, rfl⟩))
    · cases happened

end Steps

end MessagingSystem.Protocol
