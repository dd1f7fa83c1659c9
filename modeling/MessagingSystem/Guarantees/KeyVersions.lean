import Mathlib.Data.List.Chain
import MessagingSystem.Protocol.DeviceRegistrations

/-!
# What a key version names

A registration computes the next version from a row it has read earlier, and a
deletion lets the versions start over. Versions name one key and rise with each
new key in every run in which an update finds the row it has read, and an
insert finds no other key in the past of its device.
-/
namespace MessagingSystem.Guarantees.KeyVersions
open Foundation Source.Server Protocol

variable {userId deviceId : String}

abbrev DeviceTransition (userId deviceId : String) :=
  Transition (DevicePool userId deviceId) (PoolEvent (DeviceCall userId deviceId) AppError)

/-- The response of a call that has ended. -/
def Responded (s : DevicePool userId deviceId) (key : DevicePublicKey) : Prop :=
  ∃ call, (call, Program.done (.ok (some key))) ∈ s.calls

/-- Responses with one device id and version carry one key. -/
def OneKeyPerVersion (s : DevicePool userId deviceId) : Prop :=
  ∀ a b, Responded s a → Responded s b → a.deviceId = b.deviceId → a.keyVersion = b.keyVersion →
    a.publicKey = b.publicKey

/-- A row with another key than the row before has a greater version. -/
def RaisesVersion (newer older : DevicePublicKey) : Prop :=
  newer.publicKey ≠ older.publicKey → older.keyVersion < newer.keyVersion

/-- An update meets the version it has read, or the very row it writes; an insert
brings the only key that the row has ever held. -/
def writesInOrder (s : KeyLog) {β : Type} (c : ServerCommand β) : Bool :=
  match s.db.storedKey userId deviceId with
  | some row => c.replacingKey.all fun key => row.keyVersion + 1 = key.keyVersion || row = key
  | none => c.insertedKey.all fun key => s.rows.all fun row => row = key

/-- The command of the step writes in order. -/
def keepsOrder (t : DeviceTransition userId deviceId) : Bool :=
  match t.label with
  | .advance index =>
      match t.source.calls[index]? with
      | some (_, .command c _) => @writesInOrder userId deviceId t.source.store _ c
      | _ => true
  | _ => true

/-- The keys noted so far have their own versions, the newest one the greatest. -/
structure InOrder (userId deviceId : String) (s : KeyLog) : Prop where
  noted : KeyLog.Noted userId deviceId s
  own : ∀ a ∈ s.rows, ∀ b ∈ s.rows, a.keyVersion = b.keyVersion → a.publicKey = b.publicKey
  greatest : ∀ row, s.db.storedKey userId deviceId = some row →
    ∀ older ∈ s.rows, older.keyVersion ≤ row.keyVersion
  raises : s.rows.IsChain RaisesVersion

theorem InOrder.initial {s : KeyLog} (first : FirstNoted userId deviceId s) :
    InOrder userId deviceId s := by
  have noted := first.noted
  obtain ⟨-, rows⟩ := first
  cases held : s.db.storedKey userId deviceId with
  | none =>
    rw [held, Option.toList_none] at rows
    exact ⟨noted, by simp [rows], by simp [held], by simp [rows]⟩
  | some row =>
    rw [held, Option.toList_some] at rows
    exact ⟨noted, by simp [rows], by simp [held, rows], by simp [rows]⟩

section Step

variable {s : KeyLog}

/-- A row that follows on the newest one, or repeats the only one there has been. -/
def Follows (userId deviceId : String) (s : KeyLog) (new : DevicePublicKey) : Prop :=
  (∃ row, s.db.storedKey userId deviceId = some row ∧
    (row.keyVersion + 1 = new.keyVersion ∨ row = new)) ∨ ∀ row ∈ s.rows, row = new

theorem Follows.bound (inOrder : InOrder userId deviceId s) {new : DevicePublicKey}
    (follows : Follows userId deviceId s new) {older : DevicePublicKey} (held : older ∈ s.rows) :
    older.keyVersion < new.keyVersion ∨ older.keyVersion = new.keyVersion ∧ older.publicKey = new.publicKey := by
  rcases follows with ⟨row, stored, next | rfl⟩ | only
  · have bound := inOrder.greatest row stored older held
    omega
  · have listed : row ∈ s.rows := by
      obtain ⟨rest, same⟩ := inOrder.noted.newest row stored
      simp [same]
    rcases Nat.lt_or_eq_of_le (inOrder.greatest row stored older held) with less | same
    · exact .inl less
    · exact .inr ⟨same, inOrder.own older held row listed same⟩
  · rw [only older held]
    exact .inr ⟨rfl, rfl⟩

/-- A row that follows keeps the order. -/
theorem InOrder.push (inOrder : InOrder userId deviceId s) {t : KeyLog} {new : DevicePublicKey}
    (follows : Follows userId deviceId s new) (noted : KeyLog.Noted userId deviceId t)
    (stored : t.db.storedKey userId deviceId = some new) (rows : t.rows = new :: s.rows) :
    InOrder userId deviceId t := by
  have bound : ∀ older ∈ s.rows, older.keyVersion < new.keyVersion ∨
      older.keyVersion = new.keyVersion ∧ older.publicKey = new.publicKey :=
    fun older held => follows.bound inOrder held
  refine ⟨noted, ?_, ?_, ?_⟩
  · intro a heldA b heldB same
    rw [rows] at heldA heldB
    rcases List.mem_cons.mp heldA with rfl | oldA <;> rcases List.mem_cons.mp heldB with rfl | oldB
    · rfl
    · rcases bound b oldB with less | ⟨-, key⟩
      · omega
      · exact key.symm
    · rcases bound a oldA with less | ⟨-, key⟩
      · omega
      · exact key
    · exact inOrder.own a oldA b oldB same
  · intro row held older member
    obtain rfl : new = row := Option.some.inj (stored.symm.trans held)
    rw [rows] at member
    rcases List.mem_cons.mp member with rfl | old
    · exact Nat.le_refl _
    · rcases bound older old with less | ⟨same, -⟩
      · omega
      · omega
  · rw [rows]
    cases past : s.rows with
    | nil => exact List.isChain_singleton new
    | cons newest rest =>
      have raises := inOrder.raises
      rw [past] at raises
      refine List.isChain_cons_cons.mpr ⟨fun differs => ?_, raises⟩
      rcases bound newest (by simp [past]) with less | ⟨-, key⟩
      · exact less
      · exact absurd key.symm differs

/-- A command that writes in order keeps the order. -/
theorem InOrder.exec (inOrder : InOrder userId deviceId s) {β : Type} {c : ServerCommand β}
    (on : c.OnDevice userId deviceId)
    (ordered : @writesInOrder userId deviceId s β c = true) :
    InOrder userId deviceId (s.exec userId deviceId c).2 := by
  have noted := (KeyLog.exec_continues c s).noted inOrder.noted
  have after := storedKey_exec inOrder.noted.wellFormed on
  have unstored : (c.exec s.db).2.storedKey userId deviceId = none →
      InOrder userId deviceId (s.exec userId deviceId c).2 := by
    intro gone
    have rows : (s.exec userId deviceId c).2.rows = s.rows := by simp [KeyLog.exec, gone]
    refine ⟨noted, by rw [rows]; exact inOrder.own, fun row held => ?_, by rw [rows]; exact inOrder.raises⟩
    rw [show (s.exec userId deviceId c).2.db = (c.exec s.db).2 from rfl, gone] at held
    cases held
  have pushed : ∀ new, (c.exec s.db).2.storedKey userId deviceId = some new →
      Follows userId deviceId s new → InOrder userId deviceId (s.exec userId deviceId c).2 := by
    intro new held follows
    exact inOrder.push follows noted held (by simp [KeyLog.exec, held])
  unfold writesInOrder at ordered
  cases stored : s.db.storedKey userId deviceId with
  | none =>
    rw [stored] at after ordered
    dsimp only at after ordered
    cases inserted : c.insertedKey with
    | none => exact unstored (after.trans inserted)
    | some new =>
      rw [inserted] at ordered
      refine pushed new (after.trans inserted) (.inr fun row held => ?_)
      have all : (s.rows.all fun row => row = new) = true := ordered
      simpa using List.all_eq_true.mp all row held
  | some row =>
    rw [stored] at after ordered
    dsimp only at after ordered
    split at after
    · exact unstored after
    · refine pushed _ after (.inl ⟨row, stored, ?_⟩)
      cases replaced : c.replacingKey with
      | none => exact .inr rfl
      | some new =>
        rw [replaced] at ordered
        simpa using ordered

end Step

/-- In every run whose commands write in order, a version names one key in all
responses, and the versions of the row rise with each new key. -/
theorem version_names_key {start final : DevicePool userId deviceId}
    {history : List (DeviceTransition userId deviceId)} (init : (deviceMachine userId deviceId).init start)
    (run : (deviceMachine userId deviceId).Run start history final)
    (ordered : ∀ t ∈ history, keepsOrder t = true) :
    OneKeyPerVersion final ∧ final.store.rows.IsChain RaisesVersion := by
  have invariant := run.invariant_of_forall
    (I := fun s => (deviceCalls userId deviceId).Contracts (KeyLog.Noted userId deviceId)
      (KeyLog.Continues userId deviceId) (Names userId deviceId) (fun _ => Shown) s ∧
      InOrder userId deviceId s.store)
    (fun s event t inv taken ordered => ?_)
    ⟨Calls.Contracts.initial init.2.noted init.1, .initial init.2⟩ ordered
  · obtain ⟨contracts, inOrder⟩ := invariant
    refine ⟨?_, inOrder.raises⟩
    rintro a b ⟨callA, returnedA⟩ ⟨callB, returnedB⟩ - same
    exact inOrder.own a (contracts.result returnedA a rfl) b (contracts.result returnedB b rfl) same
  · refine ⟨inv.1.preserved deviceCalls_compatible taken, ?_⟩
    cases taken with
    | takeUp call => exact inv.2
    | advance index call c next running =>
      have on : c.OnDevice userId deviceId := inv.1.next_guarantee deviceCalls_compatible running
      refine inv.2.exec on ?_
      simpa only [keepsOrder, running] using ordered
    | abort index call c next e fails running => exact inv.2

section Runs

/-- A store without rows. -/
def unregistered : DevicePool "alice" "d1" := ⟨⟨{}, []⟩, []⟩

theorem unregistered_init : (deviceMachine "alice" "d1").init unregistered :=
  ⟨rfl, ⟨List.nodup_nil, List.nodup_nil⟩, rfl⟩

def registers (publicKey : String) : DeviceCall "alice" "d1" :=
  .register publicKey (some "d1") none "uuid" 1 (by decide)

def deletes : DeviceCall "alice" "d1" := .delete "alice" "d1" (by decide) (by decide)

/-- The keys the responses carry. -/
def responses (s : DevicePool "alice" "d1") : List (Option DevicePublicKey) :=
  s.calls.map fun entry =>
    match entry.2 with
    | .done (.ok response) => response
    | _ => none

theorem responded_of_response {s : DevicePool "alice" "d1"} {key : DevicePublicKey}
    (listed : some key ∈ responses s) : Responded s key := by
  obtain ⟨⟨call, p⟩, held, same⟩ := List.mem_map.mp listed
  match p, same, held with
  | .done (.ok response), same, held =>
    obtain rfl : response = some key := same
    exact ⟨call, held⟩

/-- One key after the other, each update on the row it has read; then the device is deleted. -/
theorem version_names_key_rotated :
    ∃ history final, (deviceMachine "alice" "d1").Run unregistered history final ∧
      responses final = [some ⟨"d1", "k1", 1⟩, some ⟨"d1", "k2", 2⟩, none] ∧ OneKeyPerVersion final := by
  let events : List (PoolEvent (DeviceCall "alice" "d1") AppError) :=
    [.takeUp (registers "k1"), .advance 0, .advance 0, .takeUp (registers "k2"), .advance 1, .advance 1,
      .advance 1, .takeUp deletes, .advance 2]
  have checked : (Machine.trace (deviceCalls "alice" "d1").next unregistered events).bind (fun executed =>
      if executed.1.all keepsOrder then some (responses executed.2) else none) =
      some [some ⟨"d1", "k1", 1⟩, some ⟨"d1", "k2", 2⟩, none] := by decide
  obtain ⟨⟨history, final⟩, executed, answered⟩ := Option.bind_eq_some_iff.mp checked
  have run : (deviceMachine "alice" "d1").Run unregistered history final :=
    Machine.trace_run _ (deviceCalls "alice" "d1").next_step executed
  split at answered
  · rename_i ordered
    exact ⟨history, final, run, Option.some.inj answered,
      (version_names_key unregistered_init run (List.all_eq_true.mp ordered)).1⟩
  · cases answered

/-- Two tabs register new keys, and both look the row up before either writes. -/
theorem version_names_two_keys :
    ¬ ∀ (userId deviceId : String) (start final : DevicePool userId deviceId)
      (history : List (DeviceTransition userId deviceId)),
      (deviceMachine userId deviceId).init start →
      (deviceMachine userId deviceId).Run start history final →
      OneKeyPerVersion final ∧ final.store.rows.IsChain RaisesVersion := by
  intro claim
  let events : List (PoolEvent (DeviceCall "alice" "d1") AppError) :=
    [.takeUp (registers "k1"), .advance 0, .advance 0, .takeUp (registers "k2"), .takeUp (registers "k3"),
      .advance 1, .advance 2, .advance 1, .advance 1, .advance 2, .advance 2]
  have checked : (Machine.trace (deviceCalls "alice" "d1").next unregistered events).map
      (fun executed => responses executed.2) =
      some [some ⟨"d1", "k1", 1⟩, some ⟨"d1", "k2", 2⟩, some ⟨"d1", "k3", 2⟩] := by decide
  obtain ⟨⟨history, final⟩, executed, answered⟩ := Option.map_eq_some_iff.mp checked
  have run : (deviceMachine "alice" "d1").Run unregistered history final :=
    Machine.trace_run _ (deviceCalls "alice" "d1").next_step executed
  have responded : ∀ key, some key ∈ [some (⟨"d1", "k1", 1⟩ : DevicePublicKey), some ⟨"d1", "k2", 2⟩,
      some ⟨"d1", "k3", 2⟩] → Responded final key := by
    intro key listed
    rw [← answered] at listed
    exact responded_of_response listed
  have same := (claim "alice" "d1" unregistered final history unregistered_init run).1
    ⟨"d1", "k2", 2⟩ ⟨"d1", "k3", 2⟩ (responded _ (by decide)) (responded _ (by decide)) rfl rfl
  exact absurd same (by decide)

end Runs

end MessagingSystem.Guarantees.KeyVersions
