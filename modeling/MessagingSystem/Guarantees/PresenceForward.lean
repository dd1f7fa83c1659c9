import MessagingSystem.Protocol.PresenceService

/-!
# Presence does not go backward

A query that starts after a heartbeat has been written reports that time or a
later one, while the heartbeats are written in the order of their times, no flush
writes an older time to MongoDB where a query can read it, and none deletes a Redis
key whose time MongoDB does not have.
-/
namespace MessagingSystem.Guarantees.PresenceForward
open Foundation Source.Server Protocol Program

/-- The query reports a time, and none before `n`. -/
def notBefore (n : Nat) : LastSeenSocketResult → Prop
  | .ok _ at' => n ≤ at'
  | _ => False

/-- Run to its end from here, a query since whose start `since` had been written reports it or a later time. -/
def Reports (store : PresenceStore) (since : Option Nat)
    (rest : PresenceProgram (Option LastSeenSocketResult)) : Prop :=
  ∀ n result, since = some n → (rest.run PresenceCommand.exec store).1 = .ok (some result) → notBefore n result

/-- Every query, one that starts now, one that is running and one that has ended, reports a
time not before the newest heartbeat of its user that had been written when it started. -/
def NeverBackward (s : PresenceService) : Prop :=
  (∀ targetUserId, Reports s.store (s.newestOf targetUserId) (queryTask targetUserId)) ∧
    ∀ task ∈ s.tasks, Reports s.store task.since task.rest

/-- The task is between the two reads of a query of the user. -/
def readsMongo (user : UserId) (task : PresenceTask) : Bool :=
  match task.rest with
  | .command (.findLastSeenAt other) _ => other.val = user.val
  | _ => false

/-- MongoDB has a time not before `n`. -/
def InMongo (store : PresenceStore) (user : UserId) (n : Nat) : Prop :=
  ∃ m ∈ (store.lastSeenAt.get user.val).getD none, n ≤ m

/-- A heartbeat is written after those with earlier times. A flush writes no time before the
newest heartbeat while Redis has no key, nor one before that of a query between its reads; it
deletes a key only when MongoDB has a time not before the newest heartbeat. -/
def CommandInOrder (s : PresenceService) : {β : Type} → PresenceCommand β → Prop
  | _, .setLastSeen user ms => ∀ n ∈ s.newest.get user.val, n ≤ ms
  | _, .setLastSeenAt user at' => (s.store.lastSeenAt.get user.val).isSome →
      (s.store.lastSeen.get user.val = none → ∀ n ∈ s.newest.get user.val, n ≤ at') ∧
      ∀ task ∈ s.tasks, readsMongo user task → ∀ n ∈ task.since, n ≤ at'
  | _, .deleteLastSeenRedis user => (s.store.lastSeen.get user.val).isSome →
      ∀ n ∈ s.newest.get user.val, InMongo s.store user n
  | _, _ => True

def TaskInOrder (s : PresenceService) : Option PresenceTask → Prop
  | some ⟨_, _, .command c _⟩ => CommandInOrder s c
  | _ => True

/-- The command that the step executes, if any, is in order. -/
def InOrder (t : PresenceTransition) : Prop :=
  match t.label with
  | .advance j => TaskInOrder t.source t.source.tasks[j]?
  | _ => True

instance (store : PresenceStore) (user : UserId) (n : Nat) : Decidable (InMongo store user n) :=
  inferInstanceAs (Decidable (∃ m ∈ (store.lastSeenAt.get user.val).getD none, n ≤ m))

instance (s : PresenceService) {β : Type} (c : PresenceCommand β) : Decidable (CommandInOrder s c) :=
  match c with
  | .setLastSeen user ms => inferInstanceAs (Decidable (∀ n ∈ s.newest.get user.val, n ≤ ms))
  | .setLastSeenAt user at' => inferInstanceAs (Decidable ((s.store.lastSeenAt.get user.val).isSome →
      (s.store.lastSeen.get user.val = none → ∀ n ∈ s.newest.get user.val, n ≤ at') ∧
      ∀ task ∈ s.tasks, readsMongo user task → ∀ n ∈ task.since, n ≤ at'))
  | .deleteLastSeenRedis user => inferInstanceAs (Decidable ((s.store.lastSeen.get user.val).isSome →
      ∀ n ∈ s.newest.get user.val, InMongo s.store user n))
  | .getLastSeen _ => .isTrue trivial
  | .findLastSeenAt _ => .isTrue trivial

instance (s : PresenceService) : (task : Option PresenceTask) → Decidable (TaskInOrder s task)
  | some ⟨_, _, .command c _⟩ => inferInstanceAs (Decidable (CommandInOrder s c))
  | some ⟨_, _, .done _⟩ => .isTrue trivial
  | none => .isTrue trivial

instance : (t : PresenceTransition) → Decidable (InOrder t)
  | ⟨s, .advance j, _⟩ => inferInstanceAs (Decidable (TaskInOrder s s.tasks[j]?))
  | ⟨_, .connect _ _, _⟩ => .isTrue trivial
  | ⟨_, .heartbeat _ _ _, _⟩ => .isTrue trivial
  | ⟨_, .disconnect _ _, _⟩ => .isTrue trivial
  | ⟨_, .getLastSeen _ _, _⟩ => .isTrue trivial
  | ⟨_, .abort _ _, _⟩ => .isTrue trivial

section Queries

variable {store : PresenceStore} {since : Option Nat} {user : UserId}

/-- The second read of a query. -/
def mongoTask (user : UserId) : PresenceProgram (Option LastSeenSocketResult) := do
  let result ← resolveFromMongo user
  pure (some result)

/-- Both reads of a query. -/
def bothReads (user : UserId) : PresenceProgram (Option LastSeenSocketResult) :=
  .command (PresenceCommand.getLastSeen user) fun seen =>
    match seen with
    | some ms => pure (some (.ok .redis ms))
    | none => mongoTask user

theorem queryTask_eq (targetUserId : String) : queryTask targetUserId =
    match trimmedUserId targetUserId with
    | none => pure (some (.error "invalid_payload" "targetUserId is required"))
    | some user => bothReads user := by
  unfold queryTask resolveLastSeenForUser
  cases trimmedUserId targetUserId with
  | none => rfl
  | some user =>
    refine congrArg (Program.command (PresenceCommand.getLastSeen user)) (funext fun seen => ?_)
    cases seen with
    | none => rfl
    | some ms => rfl

theorem trimmedUserId_val (user : UserId) : trimmedUserId user.val = some user := by
  obtain ⟨val, trimmed, nonempty⟩ := user
  have same : EcmaText.trim val = val := trimmed
  unfold trimmedUserId
  rw [dif_neg (by rw [same]; exact nonempty)]
  simp only [same]

/-- The stores, read one after the other, show a time not before `n`. -/
def Current (store : PresenceStore) (user : UserId) (n : Nat) : Prop :=
  match store.lastSeen.get user.val with
  | some v => n ≤ v
  | none => InMongo store user n

theorem Current.congr {store' : PresenceStore} {n : Nat} (current : Current store user n)
    (redis : store'.lastSeen.get user.val = store.lastSeen.get user.val)
    (mongo : store'.lastSeenAt = store.lastSeenAt) : Current store' user n := by
  unfold Current InMongo at current ⊢
  rwa [redis, mongo]

theorem Current.mono {n n' : Nat} (current : Current store user n') (earlier : n ≤ n') : Current store user n := by
  unfold Current at current ⊢
  split
  · rename_i v found
    rw [found] at current
    exact Nat.le_trans earlier current
  · rename_i missing
    rw [missing] at current
    obtain ⟨m, found, later⟩ := current
    exact ⟨m, found, Nat.le_trans earlier later⟩

theorem reports_mongo : Reports store since (mongoTask user) ↔ ∀ n, since = some n → InMongo store user n := by
  have ran : ((mongoTask user).run PresenceCommand.exec store).1 = .ok (some
      (match (store.lastSeenAt.get user.val).getD none with
        | some at' => .ok .mongodb at'
        | none => .notAvailable)) := by
    unfold mongoTask resolveFromMongo
    simp only [perform_bind, command_bind, run, PresenceCommand.exec]
    cases (store.lastSeenAt.get user.val).getD none with
    | some at' => rfl
    | none => rfl
  unfold Reports InMongo
  rw [ran]
  cases (store.lastSeenAt.get user.val).getD none with
  | none =>
    constructor
    · exact fun reports n started => (reports n _ started rfl).elim
    · intro inMongo n result started same
      obtain ⟨m, found, -⟩ := inMongo n started
      cases found
  | some at' =>
    constructor
    · exact fun reports n started => ⟨at', rfl, reports n _ started rfl⟩
    · intro inMongo n result started same
      obtain ⟨m, found, later⟩ := inMongo n started
      obtain rfl := Option.some.inj found
      obtain rfl := Option.some.inj (Except.ok.inj same)
      exact later

theorem reports_both : Reports store since (bothReads user) ↔ ∀ n, since = some n → Current store user n := by
  unfold Current
  cases found : store.lastSeen.get user.val with
  | some v =>
    have ran : ((bothReads user).run PresenceCommand.exec store).1 = .ok (some (.ok .redis v)) := by
      simp only [bothReads, run, PresenceCommand.exec, found]
      rfl
    unfold Reports
    rw [ran]
    constructor
    · exact fun reports n started => reports n _ started rfl
    · intro current n result started same
      obtain rfl : LastSeenSocketResult.ok .redis v = result := Option.some.inj (Except.ok.inj same)
      exact current n started
  | none =>
    have ran : ((bothReads user).run PresenceCommand.exec store).1 =
        ((mongoTask user).run PresenceCommand.exec store).1 := by
      simp only [bothReads, run, PresenceCommand.exec, found]
    have second := @reports_mongo store since user
    unfold Reports at second ⊢
    rw [ran]
    exact second

theorem reports_none (rest : PresenceProgram (Option LastSeenSocketResult)) : Reports store none rest :=
  fun n result started => by cases started

theorem reports_query (targetUserId : String) (newest : Record Nat) :
    Reports store ((trimmedUserId targetUserId).bind fun user => newest.get user.val) (queryTask targetUserId) ↔
      ∀ user, trimmedUserId targetUserId = some user → ∀ n, newest.get user.val = some n →
        Current store user n := by
  rw [queryTask_eq]
  cases trimmedUserId targetUserId with
  | none => exact iff_of_true (reports_none _) fun user named => by cases named
  | some user =>
    rw [Option.bind_some, reports_both]
    refine ⟨fun current user' named => ?_, fun current => current user rfl⟩
    obtain rfl := Option.some.inj named
    exact current

end Queries

section Tasks

variable {store : PresenceStore} {newest : Record Nat} {task : PresenceTask} {tasks : List PresenceTask}

/-- Where a task is: it writes, it is a query before one of its reads, or it has ended. -/
inductive Stage (newest : Record Nat) (task : PresenceTask) : Prop where
  | writes (unnoted : task.since = none)
  | reads (user : UserId) (rest : task.rest = bothReads user)
      (noted : ∀ n ∈ task.since, ∃ n' ∈ newest.get user.val, n ≤ n')
  | readsMongo (user : UserId) (rest : task.rest = mongoTask user)
  | ended (result : Except AppError (Option LastSeenSocketResult)) (rest : task.rest = .done result)

theorem noteHeartbeat_grows {β : Type} (c : PresenceCommand β) (user : UserId) {n : Nat}
    (noted : n ∈ newest.get user.val) : ∃ n' ∈ (noteHeartbeat c newest).get user.val, n ≤ n' := by
  cases c with
  | setLastSeen other ms =>
    by_cases same : user.val = other.val
    · have before : newest.get other.val = some n := same ▸ noted
      refine ⟨max ms n, ?_, Nat.le_max_right ms n⟩
      simp only [noteHeartbeat, same, Record.get_set_self, before, Option.getD_some]
      rfl
    · exact ⟨n, by simpa only [noteHeartbeat, Record.get_set_of_ne _ _ same] using noted, Nat.le_refl n⟩
  | setLastSeenAt other at' => exact ⟨n, noted, Nat.le_refl n⟩
  | deleteLastSeenRedis other => exact ⟨n, noted, Nat.le_refl n⟩
  | getLastSeen other => exact ⟨n, noted, Nat.le_refl n⟩
  | findLastSeenAt other => exact ⟨n, noted, Nat.le_refl n⟩

theorem Stage.later (stage : Stage newest task) {β : Type} (c : PresenceCommand β) :
    Stage (noteHeartbeat c newest) task := by
  cases stage with
  | writes unnoted => exact .writes unnoted
  | reads user rest noted =>
    refine .reads user rest fun n started => ?_
    obtain ⟨n', before, le⟩ := noted n started
    obtain ⟨n'', now, le'⟩ := noteHeartbeat_grows c user before
    exact ⟨n'', now, Nat.le_trans le le'⟩
  | readsMongo user rest => exact .readsMongo user rest
  | ended result rest => exact .ended result rest

/-- The command of a query that is running is a read, and the query goes on with the next read or ends. -/
theorem Stage.step (stage : Stage newest task) {β : Type} {c : PresenceCommand β}
    {next : β → PresenceProgram (Option LastSeenSocketResult)} (running : task.rest = .command c next) :
    (task.since = none ∨ ∀ store, (c.exec store).2 = store ∧ noteHeartbeat c newest = newest ∧
      (∀ s : PresenceService, CommandInOrder s c)) ∧
    ∀ reply, Stage (noteHeartbeat c newest) { task with rest := next reply } := by
  cases stage with
  | writes unnoted => exact ⟨.inl unnoted, fun reply => .writes unnoted⟩
  | reads user rest noted =>
    have same := rest.symm.trans running
    unfold bothReads at same
    cases same
    refine ⟨.inr fun store => ⟨rfl, rfl, fun s => trivial⟩, fun reply => ?_⟩
    cases reply with
    | none => exact .readsMongo user rfl
    | some ms => exact .ended _ rfl
  | readsMongo user rest =>
    have same := rest.symm.trans running
    cases same
    refine ⟨.inr fun store => ⟨rfl, rfl, fun s => trivial⟩, fun reply => ?_⟩
    cases reply with
    | none => exact .ended _ rfl
    | some at' => exact .ended _ rfl
  | ended result rest => cases rest.symm.trans running

/-- The queries between their reads find a time not before the one they noted. -/
def BetweenReads (store : PresenceStore) (tasks : List PresenceTask) : Prop :=
  ∀ task ∈ tasks, ∀ n ∈ task.since, ∀ user, readsMongo user task → InMongo store user n

/-- The queries that have ended reported a time not before the one they noted. -/
def EndedReports (tasks : List PresenceTask) : Prop :=
  ∀ task ∈ tasks, ∀ n ∈ task.since, ∀ result, task.rest = .done (.ok (some result)) → notBefore n result

/-- Each user's newest heartbeat is found by a query that starts now. -/
def Fresh (store : PresenceStore) (newest : Record Nat) : Prop :=
  ∀ user : UserId, ∀ n ∈ newest.get user.val, Current store user n

/-- The next task of one without a note has none either: what is said of the tasks with notes stays. -/
theorem noted_of_set {j : Nat} (held : tasks[j]? = some task) (unnoted : task.since = none)
    (rest : PresenceProgram (Option LastSeenSocketResult)) {P : PresenceTask → Nat → Prop} :
    (∀ other ∈ tasks.set j { task with rest := rest }, ∀ n ∈ other.since, P other n) ↔
      ∀ other ∈ tasks, ∀ n ∈ other.since, P other n := by
  constructor
  · intro all other listed n started
    obtain ⟨i, found⟩ := List.mem_iff_getElem?.mp listed
    by_cases here : j = i
    · subst here
      obtain rfl := Option.some.inj (held.symm.trans found)
      cases unnoted.symm.trans started
    · exact all other (List.mem_of_getElem? ((List.getElem?_set_ne here).trans found)) n started
  · intro all other listed n started
    rcases List.mem_or_eq_of_mem_set listed with old | rfl
    · exact all other old n started
    · cases unnoted.symm.trans started

theorem readsMongo_mongoTask {user other : UserId} (rest : task.rest = mongoTask user) :
    readsMongo other task = true ↔ user.val = other.val := by
  unfold readsMongo
  rw [rest]
  exact decide_eq_true_iff

theorem inMongo_of_val {user other : UserId} {n : Nat} (same : user.val = other.val)
    (inMongo : InMongo store user n) : InMongo store other n := by
  unfold InMongo at inMongo ⊢
  rwa [← same]

end Tasks

section Steps

variable {s t : PresenceService} {event : PresenceEvent}

def Staged (s : PresenceService) : Prop := ∀ task ∈ s.tasks, Stage s.newest task

/-- What keeps presence from going backward, by what a query has read so far. -/
theorem neverBackward_iff (staged : Staged s) :
    NeverBackward s ↔ Fresh s.store s.newest ∧ BetweenReads s.store s.tasks ∧ EndedReports s.tasks := by
  constructor
  · rintro ⟨starting, running⟩
    refine ⟨fun user n noted => ?_, fun task listed n started user between => ?_,
      fun task listed n started result done => ?_⟩
    · exact (reports_query user.val s.newest).mp (starting user.val) user (trimmedUserId_val user) n noted
    · have reports := running task listed
      cases staged task listed with
      | writes unnoted => cases unnoted.symm.trans started
      | reads other rest noted =>
        unfold readsMongo at between
        rw [rest] at between
        cases between
      | readsMongo other rest =>
        rw [rest] at reports
        exact inMongo_of_val ((readsMongo_mongoTask rest).mp between) (reports_mongo.mp reports n started)
      | ended result rest =>
        unfold readsMongo at between
        rw [rest] at between
        cases between
    · have reports := running task listed
      rw [done] at reports
      exact reports n result started rfl
  · rintro ⟨fresh, between, ended⟩
    refine ⟨fun target => ?_, fun task listed => ?_⟩
    · exact (reports_query target s.newest).mpr fun user _ n noted => fresh user n noted
    · cases staged task listed with
      | writes unnoted =>
        rw [unnoted]
        exact reports_none _
      | reads user rest noted =>
        rw [rest]
        refine reports_both.mpr fun n started => ?_
        obtain ⟨n', found, earlier⟩ := noted n started
        exact (fresh user n' found).mono earlier
      | readsMongo user rest =>
        rw [rest]
        exact reports_mongo.mpr fun n started =>
          between task listed n started user ((readsMongo_mongoTask rest).mpr rfl)
      | ended result rest =>
        intro n shown started same
        rw [rest] at same
        exact ended task listed n started shown (rest.trans (congrArg Program.done same))

theorem staged_step (staged : Staged s) (happened : s.perform event = some t) : Staged t := by
  intro task listed
  rcases perform_cases happened with ⟨-, -, newest, tasks⟩ | ⟨-, newest, fresh, tasks, starts⟩ |
      ⟨j, running, β, c, next, -, held, rest, rfl⟩ | ⟨j, failed, e, -, held, -, newest, tasks⟩
  · rw [newest]
    exact staged task (tasks ▸ listed)
  · rw [newest]
    rcases List.mem_append.mp (tasks ▸ listed) with old | new
    · exact staged task old
    · obtain rfl := List.mem_singleton.mp new
      rcases starts with ⟨i, c, user, now, written, -, -, -, rfl⟩ | ⟨i, c, user, now, -, -, -, rfl⟩ | ⟨i, target, -, rfl⟩
      · exact .writes rfl
      · exact .writes rfl
      · unfold PresenceService.newestOf
        have form := queryTask_eq target
        cases named : trimmedUserId target with
        | none =>
          rw [named] at form
          exact .ended _ form
        | some user =>
          rw [named] at form
          exact .reads user form fun n noted => ⟨n, noted, Nat.le_refl n⟩
  · rcases List.mem_or_eq_of_mem_set listed with old | rfl
    · exact (staged task old).later c
    · exact ((staged running (List.mem_of_getElem? held)).step rest).2 _
  · rw [newest]
    rcases List.mem_or_eq_of_mem_set (tasks ▸ listed) with old | rfl
    · exact staged task old
    · exact .ended _ rfl

section Effects

variable {store : PresenceStore} {newest : Record Nat} {tasks : List PresenceTask}

theorem fresh_setLastSeen (fresh : Fresh store newest) (user : UserId) (ms : Nat) :
    Fresh { store with lastSeen := store.lastSeen.set user.val ms }
        (newest.set user.val (max ms ((newest.get user.val).getD 0))) ↔
      ∀ n ∈ newest.get user.val, n ≤ ms := by
  constructor
  · intro now n noted
    have current := now user _ (Record.get_set_self newest user.val _)
    unfold Current at current
    simp only [Record.get_set_self, Option.mem_def.mp noted, Option.getD_some] at current
    omega
  · intro inOrder other n noted
    by_cases same : other.val = user.val
    · unfold Current
      simp only [same, Record.get_set_self, Option.mem_def, Option.some.injEq] at noted ⊢
      cases before : newest.get user.val with
      | none =>
        rw [before, Option.getD_none] at noted
        omega
      | some n' =>
        have earlier := inOrder n' before
        rw [before, Option.getD_some] at noted
        omega
    · have before : n ∈ newest.get other.val := by
        simpa only [Record.get_set_of_ne _ _ same] using noted
      exact (fresh other n before).congr (Record.get_set_of_ne _ _ same) rfl

theorem fresh_delete (fresh : Fresh store newest) (user : UserId) :
    Fresh { store with lastSeen := store.lastSeen.delete user.val } newest ↔
      ((store.lastSeen.get user.val).isSome → ∀ n ∈ newest.get user.val, InMongo store user n) := by
  constructor
  · intro now _ n noted
    have current := now user n noted
    unfold Current at current
    simp only [Record.get_delete_self] at current
    exact current
  · intro inOrder other n noted
    have current := fresh other n noted
    by_cases same : other.val = user.val
    · have inMongo : InMongo store other n := by
        cases found : store.lastSeen.get user.val with
        | none =>
          unfold Current at current
          rw [same, found] at current
          exact current
        | some v => exact inMongo_of_val same.symm (inOrder (by rw [found]; rfl) n (same ▸ noted))
      unfold Current
      simp only [same, Record.get_delete_self]
      exact inMongo
    · exact current.congr (Record.get_delete_of_ne _ same) rfl

theorem inMongo_set (user other : UserId) (n at' : Nat) :
    InMongo { store with lastSeenAt := store.lastSeenAt.set user.val (some at') } other n ↔
      if other.val = user.val then n ≤ at' else InMongo store other n := by
  unfold InMongo
  rw [Record.get_set]
  split
  · simp
  · exact Iff.rfl

theorem fresh_setLastSeenAt (fresh : Fresh store newest) (user : UserId) (at' : Nat) :
    Fresh { store with lastSeenAt := store.lastSeenAt.set user.val (some at') } newest ↔
      (store.lastSeen.get user.val = none → ∀ n ∈ newest.get user.val, n ≤ at') := by
  constructor
  · intro now missing n noted
    have current := now user n noted
    unfold Current at current
    simp only [missing] at current
    rwa [inMongo_set, if_pos rfl] at current
  · intro inOrder other n noted
    have current := fresh other n noted
    unfold Current at current ⊢
    cases found : store.lastSeen.get other.val with
    | some v =>
      rw [found] at current
      exact current
    | none =>
      rw [found] at current
      refine (inMongo_set user other n at').mpr ?_
      split
      · rename_i same
        exact inOrder (same ▸ found) n (same ▸ noted)
      · exact current

theorem between_setLastSeenAt (between : BetweenReads store tasks) (user : UserId) (at' : Nat) :
    BetweenReads { store with lastSeenAt := store.lastSeenAt.set user.val (some at') } tasks ↔
      ∀ task ∈ tasks, readsMongo user task → ∀ n ∈ task.since, n ≤ at' := by
  constructor
  · intro now task listed reads n started
    have inMongo := now task listed n started user reads
    rwa [inMongo_set, if_pos rfl] at inMongo
  · intro inOrder task listed n started other reads
    refine (inMongo_set user other n at').mpr ?_
    split
    · rename_i same
      have readsUser : readsMongo user task := by
        unfold readsMongo at reads ⊢
        rwa [same] at reads
      exact inOrder task listed readsUser n started
    · exact between task listed n started other reads

end Effects

/-- The command of a task decides whether presence still does not go backward. -/
theorem inOrder_iff (staged : Staged s) (forward : NeverBackward s) {j : Nat} {task : PresenceTask} {β : Type}
    {c : PresenceCommand β} {next : β → PresenceProgram (Option LastSeenSocketResult)}
    (held : s.tasks[j]? = some task) (rest : task.rest = .command c next) (stagedAfter : Staged t)
    (executed : t = { s with
      store := (c.exec s.store).2
      tasks := s.tasks.set j { task with rest := next (c.exec s.store).1 }
      newest := noteHeartbeat c s.newest }) :
    CommandInOrder s c ↔ NeverBackward t := by
  rcases ((staged task (List.mem_of_getElem? held)).step rest).1 with unnoted | reads
  · have after : NeverBackward t ↔ Fresh (c.exec s.store).2 (noteHeartbeat c s.newest) ∧
        BetweenReads (c.exec s.store).2 s.tasks ∧ EndedReports s.tasks := by
      rw [neverBackward_iff stagedAfter, executed]
      exact and_congr Iff.rfl (and_congr (noted_of_set held unnoted _) (noted_of_set held unnoted _))
    obtain ⟨fresh, between, ended⟩ := (neverBackward_iff staged).mp forward
    rw [after, and_iff_left ended]
    cases c with
    | setLastSeen user ms => exact ((and_iff_left between).trans (fresh_setLastSeen fresh user ms)).symm
    | getLastSeen user => exact iff_of_true trivial ⟨fresh, between⟩
    | findLastSeenAt user => exact iff_of_true trivial ⟨fresh, between⟩
    | deleteLastSeenRedis user => exact ((and_iff_left between).trans (fresh_delete fresh user)).symm
    | setLastSeenAt user at' =>
      simp only [CommandInOrder, PresenceCommand.exec]
      cases matched : s.store.lastSeenAt.get user.val with
      | none => exact iff_of_true (fun found => by cases found) ⟨fresh, between⟩
      | some entry =>
        rw [← fresh_setLastSeenAt fresh user at', ← between_setLastSeenAt between user at']
        exact ⟨fun h => h rfl, fun h _ => h⟩
  · obtain ⟨sameStore, sameNewest, inOrder⟩ := reads s.store
    refine iff_of_true (inOrder s) ?_
    obtain ⟨starting, running⟩ := forward
    rw [executed, sameStore, sameNewest]
    refine ⟨starting, fun other listed => ?_⟩
    rcases List.mem_or_eq_of_mem_set listed with old | rfl
    · exact running other old
    · intro n result started ran
      refine running task (List.mem_of_getElem? held) n result started ?_
      rw [rest, run, sameStore]
      exact ran

theorem inOrder_decides (staged : Staged s) (forward : NeverBackward s) (happened : s.perform event = some t) :
    InOrder ⟨s, event, t⟩ ↔ NeverBackward t := by
  have stagedAfter := staged_step staged happened
  rcases perform_cases happened with ⟨idle, store, newest, tasks⟩ | ⟨store, newest, fresh, tasks, starts⟩ |
      ⟨j, task, β, c, next, rfl, held, rest, executed⟩ | ⟨j, failed, e, rfl, held, store, newest, tasks⟩
  · refine iff_of_true ?_ ?_
    · cases event with
      | advance j => exact absurd rfl (idle j)
      | connect auth handshake => trivial
      | heartbeat i now written => trivial
      | disconnect i now => trivial
      | getLastSeen i target => trivial
      | abort j e => trivial
    · unfold NeverBackward PresenceService.newestOf
      rw [store, newest, tasks]
      exact forward
  · refine iff_of_true ?_ ?_
    · rcases starts with ⟨i, c, user, now, written, rfl, -⟩ | ⟨i, c, user, now, rfl, -⟩ | ⟨i, target, rfl, -⟩ <;> trivial
    · unfold NeverBackward PresenceService.newestOf
      rw [store, newest, tasks]
      refine ⟨forward.1, fun task listed => ?_⟩
      rcases List.mem_append.mp listed with old | new
      · exact forward.2 task old
      · obtain rfl := List.mem_singleton.mp new
        rcases starts with ⟨i, c, user, now, written, -, -, -, rfl⟩ | ⟨i, c, user, now, -, -, -, rfl⟩ | ⟨i, target, -, rfl⟩
        · exact reports_none _
        · exact reports_none _
        · exact forward.1 target
  · have command : InOrder ⟨s, .advance j, t⟩ ↔ CommandInOrder s c := by
      obtain ⟨socket, since, program⟩ := task
      cases rest
      simp only [InOrder, held, TaskInOrder]
    exact command.trans (inOrder_iff staged forward held rest stagedAfter executed)
  · refine iff_of_true trivial ?_
    unfold NeverBackward PresenceService.newestOf
    rw [store, newest, tasks]
    refine ⟨forward.1, fun task listed => ?_⟩
    rcases List.mem_or_eq_of_mem_set listed with old | rfl
    · exact forward.2 task old
    · exact fun n result started ran => by cases ran

end Steps

/-- In every run, presence does not go backward exactly when the commands are in order. -/
theorem never_backward_iff {start final : PresenceService} {history : List PresenceTransition}
    (initial : presenceMachine.init start) (run : presenceMachine.Run start history final) :
    (∀ t ∈ history, InOrder t) ↔ ∀ t ∈ history, NeverBackward t.target := by
  obtain ⟨-, noTasks, noHeartbeats⟩ := initial
  refine run.forall_target_iff (I := Staged) (C := InOrder) (fun s event t staged => staged_step staged)
    (fun s event t staged forward => inOrder_decides staged forward) ?_ ?_
  · intro task listed
    rw [noTasks] at listed
    cases listed
  · refine ⟨fun target => ?_, fun task listed => ?_⟩
    · refine (reports_query target start.newest).mpr fun user _ n noted => ?_
      rw [noHeartbeats, Record.get_empty] at noted
      cases noted
    · rw [noTasks] at listed
      cases listed

open UserId (alice)

/-- Alice has an account and has not been seen. -/
def neverSeen : PresenceService where
  store := { lastSeenAt := Record.ofList [("alice", none)] }

theorem neverSeen_init : presenceMachine.init neverSeen := ⟨rfl, rfl, rfl⟩

/-- The recorded run of the events from there. -/
def ran (events : List PresenceEvent) : Option (List PresenceTransition × PresenceService) :=
  Machine.trace PresenceService.perform neverSeen events

theorem ran_run {events : List PresenceEvent} {history : List PresenceTransition} {final : PresenceService}
    (executed : ran events = some (history, final)) : presenceMachine.Run neverSeen history final :=
  Machine.trace_run PresenceService.perform (fun _ _ _ happened => happened) executed

/-- The query of the task has ended with a time before the one it noted. -/
def reportsOlder (task : PresenceTask) : Bool :=
  match task.since, task.rest with
  | some n, .done (.ok (some (.ok _ at'))) => at' < n
  | _, _ => false

theorem reportsOlder_sound {store : PresenceStore} {task : PresenceTask} (older : reportsOlder task) :
    ¬ Reports store task.since task.rest := by
  intro reports
  unfold reportsOlder at older
  split at older
  · rename_i n source at' noted ended
    rw [noted, ended] at reports
    have shown : n ≤ at' := reports n _ rfl rfl
    have before : at' < n := of_decide_eq_true older
    omega
  · cases older

/-- A flush and, after it, a query. -/
theorem never_backward_after_flush : ∃ history final, presenceMachine.Run neverSeen history final ∧
    history.length = 11 ∧ ∀ t ∈ history, NeverBackward t.target := by
  have checked : (ran [.connect (.ok alice) none, .connect (.ok alice) none, .heartbeat 0 5000 5000, .advance 0,
      .disconnect 0 6000, .advance 1, .advance 1, .advance 1, .getLastSeen 1 "alice", .advance 2, .advance 2]).any
      (fun executed => executed.1.length = 11 ∧ ∀ t ∈ executed.1, InOrder t) = true := by decide
  obtain ⟨⟨history, final⟩, executed, holds⟩ := (Option.any_eq_true _ _).mp checked
  obtain ⟨length, inOrder⟩ := of_decide_eq_true holds
  have run := ran_run executed
  exact ⟨history, final, run, length, (never_backward_iff neverSeen_init run).mp inOrder⟩

/-- A heartbeat is written between a flush's write to MongoDB and its deletion of the Redis key:
a query after it reports the time of the flush. -/
theorem heartbeat_deleted_by_flush : ¬ ∀ (start final : PresenceService) (history : List PresenceTransition),
    presenceMachine.init start → presenceMachine.Run start history final →
      ∀ t ∈ history, NeverBackward t.target := by
  intro claim
  have checked : (ran [.connect (.ok alice) none, .connect (.ok alice) none, .heartbeat 0 5000 5000, .advance 0,
      .disconnect 0 6000, .advance 1, .advance 1, .heartbeat 1 10000 10000, .advance 2, .advance 1,
      .getLastSeen 1 "alice", .advance 3, .advance 3]).any
      (fun executed => executed.1.any fun t => t.target.tasks.any reportsOlder) = true := by decide
  obtain ⟨⟨history, final⟩, executed, holds⟩ := (Option.any_eq_true _ _).mp checked
  obtain ⟨t, taken, shown⟩ := List.any_eq_true.mp holds
  obtain ⟨task, listed, older⟩ := List.any_eq_true.mp shown
  have forward := claim neverSeen final history neverSeen_init (ran_run executed) t taken
  exact reportsOlder_sound older (forward.2 task listed)

end MessagingSystem.Guarantees.PresenceForward
