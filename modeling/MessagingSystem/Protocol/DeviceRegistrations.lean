import MessagingSystem.Foundation.Interference
import MessagingSystem.Source.Server.DeviceEffects

/-!
# Concurrent registrations of one device

Any number of `registerOrUpdateDevice` and `deleteDeviceForUser` calls for one
user and device, one store command a step. Beside the store stands the list of
the keys the device's row has held, as responses show them.
-/
namespace MessagingSystem.Protocol
open Foundation Source.Server

/-- The store, and the keys the row of the device has held, newest first. -/
structure KeyLog where
  db : Database
  rows : List DevicePublicKey

/-- A call for the device, with the ids as the request spells them. -/
inductive DeviceCall (userId deviceId : String) where
  | register (publicKey : String) (clientDeviceId deviceLabel : Option String) (uuid : String)
      (now : Nat) (named : registeredDeviceId clientDeviceId uuid = deviceId)
  | delete (user device : String) (sameUser : EcmaText.trim user = userId)
      (named : EcmaText.trim device = deviceId)

variable {userId deviceId : String}

/-- The call's program, with the key its response carries. -/
def DeviceCall.program : DeviceCall userId deviceId → ServerProgram (Option DevicePublicKey)
  | .register publicKey clientDeviceId deviceLabel uuid now _ => do
      let outcome ← registerOrUpdateDevice userId publicKey clientDeviceId deviceLabel uuid now
      pure (some (toRegisterDeviceResponse outcome.document))
  | .delete user device _ _ => do
      let _ ← deleteDeviceForUser user device
      pure none

namespace KeyLog

variable (userId deviceId) in
/-- A command, with the row it leaves noted. -/
def exec {β : Type} (c : ServerCommand β) (s : KeyLog) : β × KeyLog :=
  ((c.exec s.db).1, ⟨(c.exec s.db).2, ((c.exec s.db).2.storedKey userId deviceId).toList ++ s.rows⟩)

/-- The row is noted as the newest one. -/
structure Noted (userId deviceId : String) (s : KeyLog) : Prop where
  wellFormed : s.db.WellFormed
  newest : ∀ row, s.db.storedKey userId deviceId = some row → ∃ older, s.rows = row :: older

/-- What other calls may do in between. -/
structure Continues (userId deviceId : String) (s t : KeyLog) : Prop where
  noted : Noted userId deviceId s → Noted userId deviceId t
  grows : ∀ row ∈ s.rows, row ∈ t.rows

theorem Continues.refl (s : KeyLog) : Continues userId deviceId s s := ⟨id, fun _ held => held⟩

theorem Continues.trans {a b c : KeyLog} (first : Continues userId deviceId a b)
    (second : Continues userId deviceId b c) : Continues userId deviceId a c :=
  ⟨fun noted => second.noted (first.noted noted), fun row held => second.grows row (first.grows row held)⟩

theorem exec_continues {β : Type} (c : ServerCommand β) (s : KeyLog) :
    Continues userId deviceId s (s.exec userId deviceId c).2 := by
  refine ⟨fun noted => ⟨c.exec_wellFormed s.db noted.wellFormed, fun row held => ?_⟩, fun row held =>
    List.mem_append_right _ held⟩
  have stored : (c.exec s.db).2.storedKey userId deviceId = some row := held
  exact ⟨s.rows, by simp [exec, stored]⟩

/-- The key of a row that is looked up has been noted. -/
theorem Noted.found {s : KeyLog} (noted : Noted userId deviceId s) {row : UserPublicKeyDocument}
    (found : s.db.findDeviceRow userId deviceId = some row) : toRegisterDeviceResponse row ∈ s.rows := by
  obtain ⟨older, same⟩ := noted.newest (toRegisterDeviceResponse row) (by
    simp [Database.storedKey, found])
  simp [same]

end KeyLog

variable (userId deviceId) in
def deviceCalls : Calls ServerCommand AppError (Option DevicePublicKey) KeyLog
    (DeviceCall userId deviceId) where
  program := DeviceCall.program
  exec := KeyLog.exec userId deviceId
  mayFail _ := True

abbrev DevicePool (userId deviceId : String) :=
  Pool ServerCommand AppError (Option DevicePublicKey) KeyLog (DeviceCall userId deviceId)

/-- A store with its unique indexes, whose row is all that has been noted. -/
def FirstNoted (userId deviceId : String) (s : KeyLog) : Prop :=
  s.db.WellFormed ∧ s.rows = (s.db.storedKey userId deviceId).toList

variable (userId deviceId) in
def deviceMachine : Machine (DevicePool userId deviceId) (PoolEvent (DeviceCall userId deviceId) AppError) :=
  (deviceCalls userId deviceId).machine (FirstNoted userId deviceId)

theorem FirstNoted.noted {s : KeyLog} (first : FirstNoted userId deviceId s) :
    KeyLog.Noted userId deviceId s :=
  ⟨first.1, fun row held => ⟨[], by rw [first.2, held]; rfl⟩⟩

section Contract

/-- The command is one of the device's. -/
def Names (userId deviceId : String) {β : Type} (c : ServerCommand β) (_ : KeyLog) : Prop :=
  c.OnDevice userId deviceId

/-- The response carries a key the row has held. -/
def Shown (response : Option DevicePublicKey) (s : KeyLog) : Prop :=
  ∀ key, response = some key → key ∈ s.rows

/-- A row that is found has been noted. -/
def FoundNoted (userId deviceId : String) (found : Option UserPublicKeyDocument) (s : KeyLog) : Prop :=
  KeyLog.Noted userId deviceId s ∧ ∀ row, found = some row → toRegisterDeviceResponse row ∈ s.rows

abbrev DeviceContract (userId deviceId : String) {α : Type} (p : ServerProgram α)
    (post : α → KeyLog → Prop) (s : KeyLog) : Prop :=
  Program.Ensures (KeyLog.exec userId deviceId) (KeyLog.Continues userId deviceId)
    (Names userId deviceId) p post s

variable {s : KeyLog}

theorem findDevice_contract (noted : KeyLog.Noted userId deviceId s) :
    DeviceContract userId deviceId (.perform (.findDevice userId deviceId))
      (FoundNoted userId deviceId) s := by
  refine Program.Ensures.perform fun t moved => ⟨⟨rfl, rfl⟩, ?_⟩
  have after := (KeyLog.exec_continues (.findDevice userId deviceId) t).noted (moved.noted noted)
  refine ⟨after, fun row found => ?_⟩
  exact after.found found

theorem updateDevice_contract (noted : KeyLog.Noted userId deviceId s) {patch : DevicePatch}
    (both : patch.publicKey.isSome = true ↔ patch.keyVersion.isSome = true) :
    DeviceContract userId deviceId (.perform (.updateDevice userId deviceId patch))
      (fun _ t => KeyLog.Noted userId deviceId t) s := by
  refine Program.Ensures.perform fun t moved => ⟨⟨rfl, rfl, both⟩, ?_⟩
  exact (KeyLog.exec_continues (.updateDevice userId deviceId patch) t).noted (moved.noted noted)

/-- The key of a row that is inserted is noted. -/
theorem insertDevice_noted {t : KeyLog} {doc : UserPublicKeyDocument} (user : doc.userId = userId)
    (device : doc.deviceId = deviceId)
    (inserted : (t.exec userId deviceId (.insertDevice doc)).1 = true) :
    toRegisterDeviceResponse doc ∈ (t.exec userId deviceId (.insertDevice doc)).2.rows := by
  unfold KeyLog.exec at inserted ⊢
  rcases @findDeviceRow_insert t.db _ _ _ user device with ⟨row, -, refused⟩ | ⟨-, added, stored⟩
  · rw [refused] at inserted
    cases inserted
  · rw [added]
    simp [Database.storedKey, stored]

/-- A key that has been noted stays noted. -/
theorem DeviceContract.keeps {α : Type} {p : ServerProgram α} {post : α → KeyLog → Prop}
    {key : DevicePublicKey} (contract : DeviceContract userId deviceId p post s) (held : key ∈ s.rows) :
    DeviceContract userId deviceId p (fun a t => post a t ∧ key ∈ t.rows) s :=
  contract.frame (fun _ _ moved held => moved.grows key held)
    (fun c s _ held => (KeyLog.exec_continues c s).grows key held) held

theorem relabelDevice_contract (noted : KeyLog.Noted userId deviceId s) (existing : UserPublicKeyDocument)
    (label : Option (Option String)) (now : Nat) :
    DeviceContract userId deviceId (relabelDevice userId deviceId existing label now)
      (FoundNoted userId deviceId) s := by
  have nothing : FoundNoted userId deviceId none s := ⟨noted, fun _ missing => nomatch missing⟩
  unfold relabelDevice
  cases label with
  | none => exact Program.Ensures.pure nothing
  | some next =>
    dsimp only
    split
    · exact Program.Ensures.pure nothing
    · refine (updateDevice_contract noted (by simp)).bind fun _ t noted => ?_
      exact findDevice_contract noted

theorem touchDevice_contract (noted : KeyLog.Noted userId deviceId s) {existing : UserPublicKeyDocument}
    (held : toRegisterDeviceResponse existing ∈ s.rows) (label : Option (Option String)) (now : Nat) :
    DeviceContract userId deviceId (touchDevice userId deviceId existing label now)
      (fun outcome t => toRegisterDeviceResponse outcome.document ∈ t.rows) s := by
  unfold touchDevice
  refine ((relabelDevice_contract noted existing label now).keeps held).bind fun relabeled t both => ?_
  obtain ⟨found, held⟩ := both
  cases relabeled with
  | some document => exact Program.Ensures.pure (found.2 document rfl)
  | none =>
    have touched := (@updateDevice_contract _ _ _ found.1 { lastSeenAt := now } (by simp)).keeps held
    refine touched.bind fun _ t both => ?_
    obtain ⟨noted, held⟩ := both
    refine ((findDevice_contract noted).keeps held).bind fun refreshed t both => ?_
    obtain ⟨found, held⟩ := both
    refine Program.Ensures.pure ?_
    cases refreshed with
    | some document => exact found.2 document rfl
    | none => exact held

theorem registerOrUpdateDevice_contract (noted : KeyLog.Noted userId deviceId s) (publicKey : String)
    (clientDeviceId deviceLabel : Option String) (uuid : String) (now : Nat)
    (named : registeredDeviceId clientDeviceId uuid = deviceId) :
    DeviceContract userId deviceId
      (registerOrUpdateDevice userId publicKey clientDeviceId deviceLabel uuid now)
      (fun outcome t => toRegisterDeviceResponse outcome.document ∈ t.rows) s := by
  unfold registerOrUpdateDevice
  rw [named]
  refine Program.Ensures.bind (Q := fun _ t => t = s) (Program.Ensures.require fun _ => rfl) ?_
  intro _ t same
  subst same
  refine (findDevice_contract noted).bind fun existing t found => ?_
  cases existing with
  | none =>
    dsimp only
    refine Program.Ensures.bind (Q := fun inserted t => inserted = true →
        (⟨deviceId, publicKey, 1⟩ : DevicePublicKey) ∈ t.rows) (Program.Ensures.perform ?_) ?_
    · intro t' moved
      exact ⟨⟨rfl, rfl⟩, fun inserted => insertDevice_noted rfl rfl inserted⟩
    · intro inserted t' stored
      refine Program.Ensures.bind (Q := fun _ t => (⟨deviceId, publicKey, 1⟩ : DevicePublicKey) ∈ t.rows)
        (Program.Ensures.require stored) fun _ t held => ?_
      exact Program.Ensures.pure held
  | some row =>
    dsimp only
    split
    · exact touchDevice_contract found.1 (found.2 row rfl) _ now
    · refine (updateDevice_contract found.1 (by simp)).bind fun _ t noted => ?_
      refine (findDevice_contract noted).bind fun updated t found => ?_
      refine Program.Ensures.bind (Q := fun document t => toRegisterDeviceResponse document ∈ t.rows)
        (Program.Ensures.orFail fun document read => found.2 document read) fun document t held => ?_
      exact Program.Ensures.pure held

theorem deleteDeviceForUser_contract {user device : String} (sameUser : EcmaText.trim user = userId)
    (named : EcmaText.trim device = deviceId) :
    DeviceContract userId deviceId (deleteDeviceForUser user device) (fun _ _ => True) s := by
  unfold deleteDeviceForUser
  rw [sameUser, named]
  refine Program.Ensures.bind (Q := fun _ _ => True) ?_ fun _ _ _ => Program.Ensures.pure trivial
  exact Program.Ensures.perform fun t moved => ⟨⟨rfl, rfl⟩, trivial⟩

theorem DeviceCall.program_contract (call : DeviceCall userId deviceId)
    (noted : KeyLog.Noted userId deviceId s) :
    DeviceContract userId deviceId call.program Shown s := by
  cases call with
  | register publicKey clientDeviceId deviceLabel uuid now named =>
    refine (registerOrUpdateDevice_contract noted publicKey clientDeviceId deviceLabel uuid now
      named).bind fun outcome t held => Program.Ensures.pure ?_
    rintro key ⟨⟩
    exact held
  | delete user device sameUser named =>
    have deleted := deleteDeviceForUser_contract (s := s) sameUser named
    refine deleted.bind fun _ _ _ => Program.Ensures.pure ?_
    exact fun key missing => nomatch missing

theorem deviceCalls_compatible :
    (deviceCalls userId deviceId).Compatible (KeyLog.Noted userId deviceId)
      (KeyLog.Continues userId deviceId) (Names userId deviceId) fun _ => Shown where
  refl := .refl
  trans _ _ _ := .trans
  keeps _ _ moved := moved.noted
  stable _ _ _ _ moved shown key same := moved.grows key (shown key same)
  allowed c s _ := KeyLog.exec_continues c s
  begins call _ noted := call.program_contract noted

end Contract

end MessagingSystem.Protocol
