import MessagingSystem.Foundation.Transition
import MessagingSystem.Source.Server.ProgramEffects

/-!
# Runs of key and message requests

The requests of authenticated users that touch the device directory or the
wrapped keys, one after another, from any store that keeps its unique indexes.
-/
namespace MessagingSystem.Protocol
open Foundation Source.Server

inductive ServerRequest where
  | registerOrUpdateDevice (user : UserId) (publicKey : String)
      (deviceId deviceLabel : Option String) (uuid : String) (now : Nat)
  | deleteDeviceForUser (user : UserId) (deviceId : String)
  | sendMessageForUser (user : UserId) (payload : SendMessageRequest) (stamp : SendStamp)
      (originSocketId : Option String)
  | applyBatchSyncMessageKeys (user : UserId) (source target : WireDeviceId)
      (keys : List SyncMessageKeyEntry)

namespace ServerRequest

/-- The user who makes the request. -/
def user : ServerRequest → UserId
  | .registerOrUpdateDevice u .. => u
  | .deleteDeviceForUser u _ => u
  | .sendMessageForUser u .. => u
  | .applyBatchSyncMessageKeys u .. => u

/-- The store after the request, whatever its response is. -/
def serve (db : Database) : ServerRequest → Database
  | .registerOrUpdateDevice u publicKey deviceId deviceLabel uuid now =>
      (ServerProgram.exec (Source.Server.registerOrUpdateDevice u.val publicKey deviceId deviceLabel
        uuid now) db).2
  | .deleteDeviceForUser u deviceId =>
      (ServerProgram.exec (Source.Server.deleteDeviceForUser u.val deviceId) db).2
  | .sendMessageForUser u payload stamp originSocketId =>
      (ServerProgram.exec (Source.Server.sendMessageForUser u.val payload stamp originSocketId) db).2
  | .applyBatchSyncMessageKeys u source target keys =>
      (ServerProgram.exec (Source.Server.applyBatchSyncMessageKeys u.val source.val target.val keys)
        db).2

theorem serve_wellFormed {db : Database} (wf : db.WellFormed) (request : ServerRequest) :
    (request.serve db).WellFormed := by
  cases request <;> exact ServerProgram.exec_wellFormed _ wf

theorem serve_trimmed {db : Database} (wf : db.WellFormed) (trimmed : db.TrimmedParticipants)
    (request : ServerRequest) : (request.serve db).TrimmedParticipants := by
  cases request with
  | registerOrUpdateDevice user publicKey deviceId deviceLabel uuid now =>
    exact ServerProgram.exec_keeps_trimmed (registerOrUpdateDevice_addsOnly user.val publicKey
      deviceId deviceLabel uuid now) trimmed
  | deleteDeviceForUser user deviceId =>
    exact ServerProgram.exec_keeps_trimmed (deleteDeviceForUser_addsOnly user.val deviceId) trimmed
  | sendMessageForUser user payload stamp originSocketId =>
    exact ServerProgram.exec_keeps_trimmed
      (sendMessageForUser_addsOnly user payload stamp originSocketId) trimmed
  | applyBatchSyncMessageKeys user source target keys =>
    simp only [serve, (applyBatchSyncMessageKeys_exec user source target keys db wf).1]
    unfold Database.batchSynced
    split <;> exact trimmed

end ServerRequest

/-- The service under requests in any order. -/
def serverMachine : Machine Database ServerRequest where
  init := Database.WellFormed
  step db request db' := db' = request.serve db

theorem serverMachine_serve (db : Database) (request : ServerRequest) (db' : Database)
    (served : some (request.serve db) = some db') : serverMachine.step db request db' :=
  (Option.some.inj served).symm

theorem serverMachine_preserved (db : Database) (request : ServerRequest) (db' : Database)
    (wf : db.WellFormed) (taken : serverMachine.step db request db') : db'.WellFormed := by
  obtain rfl := taken
  exact request.serve_wellFormed wf

/-- A store that requests have built up from one without threads. -/
def ReachedStore (db : Database) : Prop :=
  ∃ start history, start.WellFormed ∧ start.conversations = [] ∧
    serverMachine.Run start history db

theorem ReachedStore.trimmedParticipants {db : Database} (reached : ReachedStore db) :
    db.TrimmedParticipants := by
  obtain ⟨start, history, wf, empty, run⟩ := reached
  have invariant : db.WellFormed ∧ db.TrimmedParticipants := by
    refine run.invariant (I := fun db => db.WellFormed ∧ db.TrimmedParticipants) ?_ ⟨wf, ?_⟩
    · rintro s request t ⟨wf, trimmed⟩ rfl
      exact ⟨request.serve_wellFormed wf, request.serve_trimmed wf trimmed⟩
    · intro conv member
      simp [empty] at member
  exact invariant.2

end MessagingSystem.Protocol
