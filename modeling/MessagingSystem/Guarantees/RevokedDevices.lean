import MessagingSystem.Foundation.Transition
import MessagingSystem.Source.Server.LegacyPublicKeys

/-!
# Revoked devices

Registrations, deletions and restarts of the service in any order, for any
content of the legacy key collection. A deleted device stays absent until it is
registered again, except that each restart copies the legacy rows anew and
brings a deleted `default` device back.
-/
namespace MessagingSystem.Guarantees.RevokedDevices
open Foundation Source.Server

/-- The directory, and the devices that have been deleted and not registered since. -/
structure Directory where
  db : Database
  revoked : List (String × String) := []

inductive DirectoryEvent where
  | register (user : UserId) (publicKey : String) (clientDeviceId deviceLabel : Option String)
      (uuid : String) (now : Nat)
  | delete (user : UserId) (deviceId : String)
  | restart (now : Nat)

/-- The directory after an event, with the content of the legacy collection. -/
def Directory.after (legacy : List LegacyPublicKeyDocument) (s : Directory) : DirectoryEvent → Directory
  | .register user publicKey clientDeviceId deviceLabel uuid now =>
      match ServerProgram.exec
          (registerOrUpdateDevice user.val publicKey clientDeviceId deviceLabel uuid now) s.db with
      | (.ok _, db) =>
          ⟨db, s.revoked.filter (· ≠ (user.val, registeredDeviceId clientDeviceId uuid))⟩
      | (.error _, db) => ⟨db, s.revoked⟩
  | .delete user deviceId =>
      match ServerProgram.exec (deleteDeviceForUser user.val deviceId) s.db with
      | (.ok true, db) => ⟨db, (user.val, EcmaText.trim deviceId) :: s.revoked⟩
      | (_, db) => ⟨db, s.revoked⟩
  | .restart now => ⟨(ServerProgram.exec (ensureUserPublicKeyIndexes legacy now) s.db).2, s.revoked⟩

def directoryMachine (legacy : List LegacyPublicKeyDocument) : Machine Directory DirectoryEvent where
  init s := s.db.WellFormed ∧ s.revoked = []
  step s event t := t = s.after legacy event

abbrev DirectoryTransition := Transition Directory DirectoryEvent

/-- No revoked device has a row. -/
def RevokedAbsent (s : Directory) : Prop :=
  ∀ device ∈ s.revoked, s.db.findDeviceRow device.1 device.2 = none

/-- A restart finds no legacy row of a user whose `default` device is revoked. -/
def restartsClear (legacy : List LegacyPublicKeyDocument) (t : DirectoryTransition) : Bool :=
  match t.label with
  | .restart _ => legacy.all fun doc =>
      match doc.key with
      | some (userId, _) => !t.source.revoked.contains (userId, DEFAULT_SINGLE_DEVICE_ID)
      | none => true
  | _ => true

variable {legacy : List LegacyPublicKeyDocument} {s : Directory}

theorem restartsClear_iff {now : Nat} {t : Directory} :
    restartsClear legacy ⟨s, .restart now, t⟩ = true ↔
      ∀ device ∈ s.revoked, ¬ Migrates legacy device.1 device.2 := by
  simp only [restartsClear, List.all_eq_true]
  constructor
  · rintro clear ⟨userId, deviceId⟩ revoked ⟨rfl, doc, listed, publicKey, key⟩
    have here := clear doc listed
    rw [key] at here
    have kept : s.revoked.contains (userId, DEFAULT_SINGLE_DEVICE_ID) = false := by simpa using here
    rw [List.contains_eq_mem] at kept
    exact absurd revoked (of_decide_eq_false kept)
  · intro clear doc listed
    cases key : doc.key with
    | none => rfl
    | some pair =>
      have kept : (pair.1, DEFAULT_SINGLE_DEVICE_ID) ∉ s.revoked := fun revoked =>
        clear _ revoked ⟨rfl, doc, listed, pair.2, key⟩
      simpa using kept

/-- A registration keeps the other revoked devices absent. -/
theorem register_absent (absent : RevokedAbsent s) (user : UserId) (publicKey : String)
    (clientDeviceId deviceLabel : Option String) (uuid : String) (now : Nat) :
    RevokedAbsent (s.after legacy (.register user publicKey clientDeviceId deviceLabel uuid now)) := by
  have others := fun device : String × String =>
    @registerOrUpdateDevice_other s.db user.val publicKey clientDeviceId deviceLabel uuid now
      device.1 device.2
  unfold Directory.after
  dsimp only
  cases ran : ServerProgram.exec
      (registerOrUpdateDevice user.val publicKey clientDeviceId deviceLabel uuid now) s.db with
  | mk result after =>
    rw [ran] at others
    cases result with
    | ok outcome =>
      intro device revoked
      obtain ⟨listed, different⟩ := List.mem_filter.mp revoked
      rw [others device (by simpa using different)]
      exact absent device listed
    | error e =>
      intro device revoked
      by_cases same : device = (user.val, registeredDeviceId clientDeviceId uuid)
      · subst same
        have missing := absent _ revoked
        rcases registerOrUpdateDevice_missing publicKey clientDeviceId deviceLabel uuid now missing with
          ⟨e', failed⟩ | ⟨doc, -, -, -, done⟩
        · rw [ran] at failed
          cases failed
          exact missing
        · rw [ran] at done
          cases done
      · rw [others device same]
        exact absent device revoked

theorem deleteDeviceForUser_run (user : UserId) (deviceId : String) (db : Database) :
    ∃ removed, ServerProgram.exec (deleteDeviceForUser user.val deviceId) db =
      (.ok removed, (ServerCommand.exec (.deleteDevice user.val (EcmaText.trim deviceId)) db).2) := by
  unfold deleteDeviceForUser
  rw [user.trim_val]
  exact ⟨_, rfl⟩

theorem delete_absent (wf : s.db.WellFormed) (absent : RevokedAbsent s) (user : UserId)
    (deviceId : String) : RevokedAbsent (s.after legacy (.delete user deviceId)) := by
  obtain ⟨removed, ran⟩ := deleteDeviceForUser_run user deviceId s.db
  have gone := @findDeviceRow_delete s.db user.val (EcmaText.trim deviceId) wf
  have kept : ∀ device ∈ s.revoked, (ServerCommand.exec
      (.deleteDevice user.val (EcmaText.trim deviceId)) s.db).2.findDeviceRow device.1 device.2 = none := by
    intro device revoked
    by_cases same : device = (user.val, EcmaText.trim deviceId)
    · subst same
      exact gone
    · have others := @findDeviceRow_other s.db _ _ _ (.deleteDevice user.val (EcmaText.trim deviceId))
        ⟨rfl, rfl⟩ _ _ same
      rw [others]
      exact absent device revoked
  unfold Directory.after
  dsimp only
  rw [ran]
  cases removed with
  | false => exact kept
  | true =>
    intro device revoked
    rcases List.mem_cons.mp revoked with rfl | earlier
    · exact gone
    · exact kept device earlier

/-- A restart keeps the revoked devices absent when it copies no row of theirs. -/
theorem restart_absent_iff (absent : RevokedAbsent s) (now : Nat) :
    RevokedAbsent (s.after legacy (.restart now)) ↔
      ∀ device ∈ s.revoked, ¬ Migrates legacy device.1 device.2 := by
  obtain ⟨after, ran, rows⟩ := ensureUserPublicKeyIndexes_run legacy now s.db
  unfold Directory.after
  dsimp only
  rw [ran]
  refine forall₂_congr fun device revoked => ?_
  have row := rows device.1 device.2
  rw [absent device revoked] at row
  simp only [ne_eq, not_true_eq_false, false_or] at row
  rw [← row, not_not]

theorem after_wellFormed (wf : s.db.WellFormed) (event : DirectoryEvent) :
    (s.after legacy event).db.WellFormed := by
  cases event with
  | register user publicKey clientDeviceId deviceLabel uuid now =>
    have kept := ServerProgram.exec_wellFormed
      (registerOrUpdateDevice user.val publicKey clientDeviceId deviceLabel uuid now) wf
    unfold Directory.after
    dsimp only
    split <;> simp_all
  | delete user deviceId =>
    have kept := ServerProgram.exec_wellFormed (deleteDeviceForUser user.val deviceId) wf
    unfold Directory.after
    dsimp only
    split <;> simp_all
  | restart now => exact ServerProgram.exec_wellFormed (ensureUserPublicKeyIndexes legacy now) wf

/-- A step keeps the revoked devices absent exactly when it is no restart that
finds a legacy row of theirs. -/
theorem step_absent_iff (wf : s.db.WellFormed) (absent : RevokedAbsent s) (event : DirectoryEvent) :
    restartsClear legacy ⟨s, event, s.after legacy event⟩ = true ↔ RevokedAbsent (s.after legacy event) := by
  cases event with
  | register user publicKey clientDeviceId deviceLabel uuid now =>
    exact iff_of_true rfl (register_absent absent user publicKey clientDeviceId deviceLabel uuid now)
  | delete user deviceId => exact iff_of_true rfl (delete_absent wf absent user deviceId)
  | restart now => rw [restartsClear_iff, restart_absent_iff absent]

/-- Every revoked device stays absent exactly when each restart finds no legacy
row of a user whose `default` device is revoked. -/
theorem revoked_stays_absent_iff {start final : Directory} {history : List DirectoryTransition}
    (init : (directoryMachine legacy).init start)
    (run : (directoryMachine legacy).Run start history final) :
    (∀ t ∈ history, restartsClear legacy t = true) ↔ (∀ t ∈ history, RevokedAbsent t.target) := by
  refine run.forall_target_iff (I := fun s => s.db.WellFormed) ?_ ?_ init.1 ?_
  · rintro s event t wf rfl
    exact after_wellFormed wf event
  · rintro s event t wf absent rfl
    exact step_absent_iff wf absent event
  · intro device revoked
    rw [init.2] at revoked
    cases revoked

section Runs

open UserId (alice)

/-- The key `alice` had before devices were introduced. -/
def oldKey : LegacyPublicKeyDocument := { userId := some "alice", publicKey := some "k0" }

def emptyDirectory : Directory := ⟨{}, []⟩

theorem emptyDirectory_init (legacy : List LegacyPublicKeyDocument) :
    (directoryMachine legacy).init emptyDirectory :=
  ⟨⟨List.nodup_nil, List.nodup_nil⟩, rfl⟩

/-- The recorded run of events. -/
def ran (legacy : List LegacyPublicKeyDocument) (events : List DirectoryEvent) :
    Option (List DirectoryTransition × Directory) :=
  Machine.trace (fun s event => some (s.after legacy event)) emptyDirectory events

theorem ran_run {events : List DirectoryEvent} {history : List DirectoryTransition} {final : Directory}
    (executed : ran legacy events = some (history, final)) :
    (directoryMachine legacy).Run emptyDirectory history final :=
  Machine.trace_run _ (fun _ _ _ taken => (Option.some.inj taken).symm) executed

/-- A device of its own id stays revoked over a restart. -/
theorem revoked_stays_absent_own_device :
    ∃ history final, (directoryMachine [oldKey]).Run emptyDirectory history final ∧
      final.revoked = [("alice", "d1")] ∧ ∀ t ∈ history, RevokedAbsent t.target := by
  have checked : (ran [oldKey] [.restart 1, .register alice "k1" (some "d1") none "uuid" 2,
      .delete alice "d1", .restart 3]).bind (fun executed =>
      if executed.1.all (restartsClear [oldKey]) then some executed.2.revoked else none) =
      some [("alice", "d1")] := by decide
  obtain ⟨⟨history, final⟩, executed, clear⟩ := Option.bind_eq_some_iff.mp checked
  split at clear
  · rename_i all
    exact ⟨history, final, ran_run executed, Option.some.inj clear,
      (revoked_stays_absent_iff (emptyDirectory_init _) (ran_run executed)).mp (List.all_eq_true.mp all)⟩
  · cases clear

/-- The migrated device is revoked, and the next restart migrates it again. -/
theorem revoked_device_returns :
    ¬ ∀ (legacy : List LegacyPublicKeyDocument) (start final : Directory)
      (history : List DirectoryTransition), (directoryMachine legacy).init start →
      (directoryMachine legacy).Run start history final → ∀ t ∈ history, RevokedAbsent t.target := by
  intro claim
  have checked : (ran [oldKey] [.restart 1, .delete alice "default", .restart 2]).bind (fun executed =>
      executed.1.getLast?.map fun t => (t.target.revoked, t.target.db.storedKey "alice" "default")) =
      some ([("alice", "default")], some ⟨"default", "k0", 1⟩) := by decide
  obtain ⟨⟨history, final⟩, executed, last⟩ := Option.bind_eq_some_iff.mp checked
  obtain ⟨t, found, same⟩ := Option.map_eq_some_iff.mp last
  obtain ⟨revoked, stored⟩ := Prod.mk.inj same
  have absent := claim [oldKey] emptyDirectory final history (emptyDirectory_init _) (ran_run executed) t
    (List.mem_of_getLast? found) ("alice", "default") (by rw [revoked]; exact List.mem_singleton_self _)
  unfold Database.storedKey at stored
  rw [absent] at stored
  cases stored

end Runs

end MessagingSystem.Guarantees.RevokedDevices
