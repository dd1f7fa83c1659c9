import MessagingSystem.Protocol.PresenceService

/-!
# Presence authenticity

The last-seen values of a user are written and deleted only by tasks of sockets
authenticated as that user, while no other socket whose handshake names a user
sends a heartbeat that is written or disconnects.
-/
namespace MessagingSystem.Guarantees.PresenceAuthenticity
open Foundation Source.Server Protocol Program

/-- The user whose last-seen values a command writes or deletes. -/
def writtenUser : {β : Type} → PresenceCommand β → Option UserId
  | _, .setLastSeen user _ => some user
  | _, .setLastSeenAt user _ => some user
  | _, .deleteLastSeenRedis user => some user
  | _, .getLastSeen _ => none
  | _, .findLastSeenAt _ => none

/-- The handshake of the socket was authenticated as the user. -/
def AuthenticatedAs (s : PresenceService) (i : Nat) (user : UserId) : Prop :=
  ∃ c, s.connections[i]? = some c ∧ c.socket.authAtConnect = .ok user

/-- The step executes a command of the socket's task that writes or deletes a value of the user. -/
def Writes (t : PresenceTransition) (i : Nat) (user : UserId) : Prop :=
  ∃ (j : Nat) (task : PresenceTask) (β : Type) (c : PresenceCommand β)
    (next : β → PresenceProgram (Option LastSeenSocketResult)), t.label = .advance j ∧
    t.source.tasks[j]? = some task ∧ task.rest = .command c next ∧ task.socket = i ∧ writtenUser c = some user

/-- The values of the user in Redis and MongoDB. -/
def lastSeenOf (store : PresenceStore) (user : UserId) : Option Nat × Option (Option Nat) :=
  (store.lastSeen.get user.val, store.lastSeenAt.get user.val)

/-- A step that writes or deletes a value of a user is of a socket authenticated as that user;
any other step leaves the user's values as they are. -/
def Authentic (t : PresenceTransition) : Prop :=
  ∀ user, (∀ i, Writes t i user → AuthenticatedAs t.source i user) ∧
    ((∀ i, ¬ Writes t i user) → lastSeenOf t.target.store user = lastSeenOf t.source.store user)

/-- A heartbeat that is written, and a disconnect, of a socket with a user id is of one authenticated. -/
def Admitted (t : PresenceTransition) : Prop :=
  match t.label with
  | .heartbeat i now _ => ∀ c ∈ t.source.connections[i]?, ∀ user ∈ c.socket.onHeartbeat now,
      c.socket.authAtConnect = .ok user
  | .disconnect i _ => ∀ c ∈ t.source.connections[i]?, ∀ user ∈ c.socket.userId,
      c.socket.authAtConnect = .ok user
  | _ => True

instance : (t : PresenceTransition) → Decidable (Admitted t)
  | ⟨s, .heartbeat i now _, _⟩ => inferInstanceAs (Decidable (∀ c ∈ s.connections[i]?,
      ∀ user ∈ c.socket.onHeartbeat now, c.socket.authAtConnect = .ok user))
  | ⟨s, .disconnect i _, _⟩ => inferInstanceAs (Decidable (∀ c ∈ s.connections[i]?,
      ∀ user ∈ c.socket.userId, c.socket.authAtConnect = .ok user))
  | ⟨_, .connect _ _, _⟩ => .isTrue trivial
  | ⟨_, .getLastSeen _ _, _⟩ => .isTrue trivial
  | ⟨_, .advance _, _⟩ => .isTrue trivial
  | ⟨_, .abort _ _, _⟩ => .isTrue trivial

section Programs

/-- The values that the command writes or deletes are of an allowed user. -/
def OfUser (allowed : UserId → Prop) {β : Type} (c : PresenceCommand β) : Prop :=
  ∀ user, writtenUser c = some user → allowed user

theorem heartbeatTask_ofUser (user : UserId) (now : Nat) :
    Forall (OfUser (· = user)) (heartbeatTask user now) := by
  unfold heartbeatTask setLastSeen
  refine Forall.bind (forall_perform.mpr ?_) fun _ => forall_pure _
  intro other written
  exact (Option.some.inj written).symm

theorem disconnectTask_ofUser (user : UserId) (now : Nat) :
    Forall (OfUser (· = user)) (disconnectTask user now) := by
  unfold disconnectTask flushLastSeenToMongo
  refine Forall.bind ?_ fun _ => forall_pure _
  refine Forall.bind (forall_perform.mpr ?_) fun seen => ?_
  · intro other written
    cases written
  · refine Forall.bind (forall_perform.mpr ?_) fun matched => forall_perform.mpr ?_
    · intro other written
      exact (Option.some.inj written).symm
    · intro other written
      exact (Option.some.inj written).symm

theorem queryTask_ofUser (allowed : UserId → Prop) (target : String) :
    Forall (OfUser allowed) (queryTask target) := by
  unfold queryTask resolveLastSeenForUser
  refine Forall.bind ?_ fun _ => forall_pure _
  split
  · exact forall_pure _
  · refine Forall.bind (forall_perform.mpr ?_) fun seen => ?_
    · intro other written
      cases written
    · split
      · exact forall_pure _
      · unfold resolveFromMongo
        refine Forall.bind (forall_perform.mpr ?_) fun found => ?_
        · intro other written
          cases written
        · split
          · exact forall_pure _
          · exact forall_pure _

end Programs

section Steps

variable {s t : PresenceService} {event : PresenceEvent}

theorem getElem?_set_socket {cs : List PresenceConnection} {i k : Nat} {c before after : PresenceConnection}
    (held : cs[k]? = some before) (same : after.socket.authAtConnect = before.socket.authAtConnect)
    (found : cs[i]? = some c) :
    ∃ c', (cs.set k after)[i]? = some c' ∧ c'.socket.authAtConnect = c.socket.authAtConnect := by
  by_cases here : k = i
  · subst here
    obtain rfl := Option.some.inj (held.symm.trans found)
    obtain ⟨bound, -⟩ := List.getElem?_eq_some_iff.mp held
    exact ⟨after, List.getElem?_set_self bound, same⟩
  · exact ⟨c, (List.getElem?_set_ne here).trans found, rfl⟩

/-- A socket keeps the outcome of its authentication. -/
theorem authAtConnect_kept (happened : s.perform event = some t) {i : Nat} {c : PresenceConnection}
    (found : s.connections[i]? = some c) :
    ∃ c', t.connections[i]? = some c' ∧ c'.socket.authAtConnect = c.socket.authAtConnect := by
  cases event with
  | connect auth handshake =>
    cases happened
    obtain ⟨bound, -⟩ := List.getElem?_eq_some_iff.mp found
    exact ⟨c, (List.getElem?_append_left bound).trans found, rfl⟩
  | heartbeat k now written =>
    obtain ⟨before, held, happened⟩ := Option.bind_eq_some_iff.mp happened
    split at happened
    · split at happened
      · cases happened
        exact getElem?_set_socket held rfl found
      · cases happened
        exact ⟨c, found, rfl⟩
    · cases happened
  | disconnect k now =>
    obtain ⟨before, held, happened⟩ := Option.bind_eq_some_iff.mp happened
    split at happened
    · simp only at happened
      split at happened
      · cases happened
        exact getElem?_set_socket held rfl found
      · cases happened
        exact getElem?_set_socket held rfl found
    · cases happened
  | getLastSeen k target =>
    obtain ⟨before, held, happened⟩ := Option.bind_eq_some_iff.mp happened
    split at happened
    · cases happened
      exact ⟨c, found, rfl⟩
    · cases happened
  | advance j =>
    obtain ⟨task, held, happened⟩ := Option.bind_eq_some_iff.mp happened
    split at happened
    · cases happened
      exact ⟨c, found, rfl⟩
    · cases happened
  | abort j e =>
    obtain ⟨task, held, happened⟩ := Option.bind_eq_some_iff.mp happened
    split at happened
    · cases happened
      exact ⟨c, found, rfl⟩
    · cases happened

theorem AuthenticatedAs.step {i : Nat} {user : UserId} (authenticated : AuthenticatedAs s i user)
    (happened : s.perform event = some t) : AuthenticatedAs t i user := by
  obtain ⟨c, found, ok⟩ := authenticated
  obtain ⟨c', kept, same⟩ := authAtConnect_kept happened found
  exact ⟨c', kept, same.trans ok⟩

/-- What is left of a task writes only for users as which its socket was authenticated. -/
def TasksAuthenticated (s : PresenceService) : Prop :=
  ∀ task ∈ s.tasks, Forall (OfUser (AuthenticatedAs s task.socket)) task.rest

theorem tasksAuthenticated_step (inv : TasksAuthenticated s) (happened : s.perform event = some t)
    (admitted : Admitted ⟨s, event, t⟩) : TasksAuthenticated t := by
  have kept : ∀ task ∈ s.tasks, Forall (OfUser (AuthenticatedAs t task.socket)) task.rest :=
    fun task listed => (inv task listed).mono fun c allowed user written =>
      (allowed user written).step happened
  intro task listed
  rcases perform_cases happened with ⟨-, -, -, tasks⟩ | ⟨-, -, started, tasks, starts⟩ |
      ⟨j, running, β, c, next, -, held, rest, executed⟩ | ⟨j, failed, e, -, held, -, -, tasks⟩
  · exact kept task (tasks ▸ listed)
  · rcases List.mem_append.mp (tasks ▸ listed) with old | new
    · exact kept task old
    · obtain rfl := List.mem_singleton.mp new
      rcases starts with ⟨i, c, user, now, written, rfl, found, writes, rfl⟩ |
          ⟨i, c, user, now, rfl, found, named, rfl⟩ | ⟨i, target, -, rfl⟩
      · have authenticated : AuthenticatedAs s i user := ⟨c, found, admitted c found user writes⟩
        refine (heartbeatTask_ofUser user written).mono fun command only other writes => ?_
        obtain rfl := only other writes
        exact authenticated.step happened
      · have authenticated : AuthenticatedAs s i user := ⟨c, found, admitted c found user named⟩
        refine (disconnectTask_ofUser user now).mono fun command only other writes => ?_
        obtain rfl := only other writes
        exact authenticated.step happened
      · exact queryTask_ofUser _ target
  · rw [executed] at listed
    rcases List.mem_or_eq_of_mem_set listed with old | rfl
    · exact kept task old
    · have all := kept running (List.mem_of_getElem? held)
      rw [rest] at all
      exact (forall_command.mp all).2 _
  · rcases List.mem_or_eq_of_mem_set (tasks ▸ listed) with old | rfl
    · exact kept task old
    · exact forall_fail e

/-- A command changes the values of no other user. -/
theorem exec_lastSeenOf {β : Type} (c : PresenceCommand β) (store : PresenceStore) {user : UserId}
    (other : writtenUser c ≠ some user) : lastSeenOf (c.exec store).2 user = lastSeenOf store user := by
  have apart : ∀ writer : UserId, writtenUser c = some writer → user.val ≠ writer.val := by
    intro writer written same
    obtain ⟨val, trimmed, nonempty⟩ := user
    obtain ⟨val', trimmed', nonempty'⟩ := writer
    cases same
    exact other written
  cases c with
  | setLastSeen writer ms =>
    simp only [lastSeenOf, PresenceCommand.exec, Record.get_set_of_ne _ _ (apart writer rfl)]
  | setLastSeenAt writer at' =>
    simp only [PresenceCommand.exec]
    split
    · simp only [lastSeenOf, Record.get_set_of_ne _ _ (apart writer rfl)]
    · rfl
  | deleteLastSeenRedis writer =>
    simp only [lastSeenOf, PresenceCommand.exec, Record.get_delete_of_ne _ (apart writer rfl)]
  | getLastSeen writer => rfl
  | findLastSeenAt writer => rfl

theorem authentic_step (inv : TasksAuthenticated s) (happened : s.perform event = some t) :
    Authentic ⟨s, event, t⟩ := by
  intro user
  constructor
  · rintro i ⟨j, task, β, c, next, -, held, rest, rfl, written⟩
    have all := inv task (List.mem_of_getElem? held)
    rw [rest] at all
    exact (forall_command.mp all).1 user written
  · intro unwritten
    rcases perform_cases happened with ⟨-, store, -⟩ | ⟨store, -⟩ |
        ⟨j, task, β, c, next, rfl, held, rest, rfl⟩ | ⟨j, failed, e, -, -, store, -⟩
    · rw [store]
    · rw [store]
    · refine exec_lastSeenOf c s.store fun written => ?_
      exact unwritten task.socket ⟨j, task, β, c, next, rfl, held, rest, rfl, written⟩
    · rw [store]

end Steps

/-- In every run in which the heartbeats that are written and the disconnects are of
authenticated sockets or of sockets without a user id, presence is authentic. -/
theorem writes_authenticated {start final : PresenceService} {history : List PresenceTransition}
    (initial : presenceMachine.init start) (run : presenceMachine.Run start history final)
    (admitted : ∀ t ∈ history, Admitted t) : ∀ t ∈ history, Authentic t := by
  have none : TasksAuthenticated start := by
    intro task listed
    rw [initial.2.1] at listed
    cases listed
  have recorded := run.recorded_of_forall (I := TasksAuthenticated) (C := Admitted)
    (fun s event t inv happened fine => tasksAuthenticated_step inv happened fine) none admitted
  exact fun t taken => authentic_step (recorded t taken).2.1 (recorded t taken).1

open UserId (alice)

/-- Alice has an account, and Redis has a time of hers. -/
def online : PresenceService where
  store := { lastSeen := Record.ofList [("alice", 4000)], lastSeenAt := Record.ofList [("alice", none)] }

theorem online_init : presenceMachine.init online := ⟨rfl, rfl, rfl⟩

/-- The recorded run of the events from there. -/
def ran (events : List PresenceEvent) : Option (List PresenceTransition × PresenceService) :=
  Machine.trace PresenceService.perform online events

theorem ran_run {events : List PresenceEvent} {history : List PresenceTransition} {final : PresenceService}
    (executed : ran events = some (history, final)) : presenceMachine.Run online history final :=
  Machine.trace_run PresenceService.perform (fun _ _ _ happened => happened) executed

/-- Alice's socket sends a heartbeat and disconnects; a socket without a user id does, too. -/
theorem writes_authenticated_heartbeat_flush : ∃ history final, presenceMachine.Run online history final ∧
    history.length = 10 ∧ ∀ t ∈ history, Authentic t := by
  have checked : (ran [.connect (.ok alice) none, .connect .unauthenticated none, .heartbeat 0 5000 5000,
      .heartbeat 1 5000 5000, .advance 0, .disconnect 0 6000, .advance 1, .advance 1, .advance 1,
      .disconnect 1 7000]).any
      (fun executed => executed.1.length = 10 ∧ ∀ t ∈ executed.1, Admitted t) = true := by decide
  obtain ⟨⟨history, final⟩, executed, holds⟩ := (Option.any_eq_true _ _).mp checked
  obtain ⟨length, admitted⟩ := of_decide_eq_true holds
  have run := ran_run executed
  exact ⟨history, final, run, length, writes_authenticated online_init run admitted⟩

/-- A handshake that names alice without a token. -/
def claimsAlice : Json := .object [("userId", .string "alice")]

/-- The step writes a value of alice for a socket that is not authenticated. -/
def forged (t : PresenceTransition) : Bool :=
  match t.label with
  | .advance j =>
      match t.source.tasks[j]? with
      | some ⟨i, _, .command c _⟩ => writtenUser c = some alice ∧
          (t.source.connections[i]?.map fun c => c.socket.authAtConnect) = some .unauthenticated
      | _ => false
  | _ => false

theorem forged_sound {t : PresenceTransition} (holds : forged t) : ¬ Authentic t := by
  intro authentic
  unfold forged at holds
  split at holds
  · rename_i j labelled
    split at holds
    · rename_i i since β c next held
      obtain ⟨written, unauthenticated⟩ := of_decide_eq_true holds
      obtain ⟨socket, found, ok⟩ := (authentic alice).1 i ⟨j, _, β, c, next, labelled, held, rfl, rfl, written⟩
      rw [found] at unauthenticated
      cases ok.symm.trans (Option.some.inj unauthenticated)
    · cases holds
  · cases holds

/-- A socket without a token, whose handshake names alice, sends a heartbeat. -/
theorem heartbeat_of_claimed_user : ¬ ∀ (start final : PresenceService) (history : List PresenceTransition),
    presenceMachine.init start → presenceMachine.Run start history final → ∀ t ∈ history, Authentic t := by
  intro claim
  have checked : (ran [.connect .unauthenticated (some claimsAlice), .heartbeat 0 5000 5000, .advance 0]).any
      (fun executed => executed.1.any forged) = true := by decide
  obtain ⟨⟨history, final⟩, executed, holds⟩ := (Option.any_eq_true _ _).mp checked
  obtain ⟨t, taken, wrote⟩ := List.any_eq_true.mp holds
  exact forged_sound wrote (claim online final history online_init (ran_run executed) t taken)

end MessagingSystem.Guarantees.PresenceAuthenticity
