import Mathlib.Order.Bounds.Basic
import MessagingSystem.Foundation.Interleaving
import MessagingSystem.Source.Server.SendMessage

/-!
# The activity time of a thread

Calls of `insertMessage` run interleaved, one MongoDB command a step, and any
command may fail. The activity time of a thread never decreases, and it is the time
of the newest message whenever no call runs, while the threads are touched in the
order of the times and no call whose time is still needed ends before its touch.
-/
namespace MessagingSystem.Guarantees.ThreadActivity
open Foundation Source.Server

/-- The calls of `insertMessage`, with the documents they store. -/
def insertCalls : Calls ServerCommand AppError Unit Database MessageDocument where
  program := insertMessage
  exec := ServerCommand.exec
  mayFail _ := True

abbrev InsertPool := Pool ServerCommand AppError Unit Database MessageDocument

abbrev InsertTransition := Transition InsertPool (PoolEvent MessageDocument AppError)

/-- `updatedAt` of the thread with the id. -/
def activityOf (db : Database) (id : String) : Option Nat :=
  (db.conversations.find? fun c => c.id = id).map ConversationDocument.updatedAt

/-- `createdAt` of the messages of the thread. -/
def messageTimes (db : Database) (id : String) : Set Nat :=
  fun time => ∃ m ∈ db.messages, m.conversationId = id ∧ m.createdAt = time

/-- The activity time of every thread with messages is the time of its newest message. -/
def NewestActivity (db : Database) : Prop :=
  ∀ id, ∀ u ∈ activityOf db id, (messageTimes db id).Nonempty → IsGreatest (messageTimes db id) u

def activityMachine : Machine InsertPool (PoolEvent MessageDocument AppError) :=
  insertCalls.machine NewestActivity

def NeverDecreases (t : InsertTransition) : Prop :=
  ∀ id, ∀ u ∈ activityOf t.source.store id, ∃ u' ∈ activityOf t.target.store id, u ≤ u'

/-- No call is running. -/
def quiescent (s : InsertPool) : Bool :=
  s.calls.all fun entry =>
    match entry.2 with
    | .done _ => true
    | .command _ _ => false

/-- The thread and the time that a call between its two writes will set. -/
def touchOf : ServerProgram Unit → Option (String × Nat)
  | .command (.touchConversation id now) _ => some (id, now)
  | _ => none

/-- One of the calls will set the thread's time to `time` or a later one. -/
def Pending (calls : List (MessageDocument × ServerProgram Unit)) (id : String) (time : Nat) : Prop :=
  ∃ entry ∈ calls, ∃ touch ∈ touchOf entry.2, touch.1 = id ∧ time ≤ touch.2

/-- A touch is executed when the stored time is not later. A call ends between its writes only
when the stored time is that of a message and not earlier, or another call will set one not earlier. -/
def InOrder (t : InsertTransition) : Prop :=
  match t.label with
  | .advance i => ∀ entry ∈ t.source.calls[i]?, ∀ touch ∈ touchOf entry.2,
      ∀ u ∈ activityOf t.source.store touch.1, u ≤ touch.2
  | .abort i _ => ∀ entry ∈ t.source.calls[i]?, ∀ touch ∈ touchOf entry.2,
      ∀ u ∈ activityOf t.source.store touch.1,
        (touch.2 ≤ u ∧ ∃ m ∈ t.source.store.messages, m.conversationId = touch.1 ∧ m.createdAt = u) ∨
          Pending (t.source.calls.eraseIdx i) touch.1 touch.2
  | .takeUp _ => True

instance (calls : List (MessageDocument × ServerProgram Unit)) (id : String) (time : Nat) :
    Decidable (Pending calls id time) :=
  inferInstanceAs (Decidable (∃ entry ∈ calls, ∃ touch ∈ touchOf entry.2, touch.1 = id ∧ time ≤ touch.2))

instance : (t : InsertTransition) → Decidable (InOrder t)
  | ⟨s, .advance i, _⟩ => inferInstanceAs (Decidable (∀ entry ∈ s.calls[i]?, ∀ touch ∈ touchOf entry.2,
      ∀ u ∈ activityOf s.store touch.1, u ≤ touch.2))
  | ⟨s, .abort i _, _⟩ => inferInstanceAs (Decidable (∀ entry ∈ s.calls[i]?, ∀ touch ∈ touchOf entry.2,
      ∀ u ∈ activityOf s.store touch.1,
        (touch.2 ≤ u ∧ ∃ m ∈ s.store.messages, m.conversationId = touch.1 ∧ m.createdAt = u) ∨
          Pending (s.calls.eraseIdx i) touch.1 touch.2))
  | ⟨_, .takeUp _, _⟩ => .isTrue trivial

section Stores

variable {db : Database} {id : String} {u : Nat}

/-- What is left of a call once its message is stored. -/
def touching (doc : MessageDocument) : ServerProgram Unit :=
  .perform (.touchConversation doc.conversationId doc.createdAt)

theorem insertMessage_eq (doc : MessageDocument) : insertMessage doc =
    .command (ServerCommand.insertMessage doc) fun inserted =>
      if inserted then touching doc else .done (.error internalServerError) := by
  refine congrArg (Program.command (ServerCommand.insertMessage doc)) (funext fun inserted => ?_)
  cases inserted with
  | true => rfl
  | false => rfl

/-- A message is stored, or the store is as it was. -/
theorem exec_insert (doc : MessageDocument) (db : Database) :
    (ServerCommand.insertMessage doc).exec db = (true, db.setMessages (db.messages ++ [doc])) ∨
      (ServerCommand.insertMessage doc).exec db = (false, db) := by
  simp only [ServerCommand.exec, Collection.insertUnique]
  by_cases fresh : doc.id ∈ db.messages.map MessageDocument.id
  · exact .inr (by rw [if_pos fresh])
  · exact .inl (by rw [if_neg fresh])

theorem activityOf_touch (db : Database) (id other : String) (now : Nat) :
    activityOf ((ServerCommand.touchConversation id now).exec db).2 other =
      if other = id then (activityOf db id).map fun _ => now else activityOf db other := by
  simp only [activityOf, ServerCommand.exec, Database.setConversations]
  by_cases same : other = id
  · subst same
    rw [if_pos rfl, @Collection.find_updateFirst_self ConversationDocument (fun c => c.id = other)
      (fun c => { c with updatedAt := now }) fun d matched => matched]
    simp only [Option.map_map]
    rfl
  · rw [if_neg same, Collection.find_updateFirst_other]
    intro d matched
    have here : d.id = id := of_decide_eq_true matched
    exact ⟨decide_eq_false (here ▸ Ne.symm same), decide_eq_false (here ▸ Ne.symm same)⟩

theorem messageTimes_append (doc : MessageDocument) (time : Nat) :
    time ∈ messageTimes (db.setMessages (db.messages ++ [doc])) id ↔
      time ∈ messageTimes db id ∨ (doc.conversationId = id ∧ doc.createdAt = time) := by
  constructor
  · rintro ⟨m, listed, same⟩
    rcases List.mem_append.mp listed with old | new
    · exact .inl ⟨m, old, same⟩
    · obtain rfl := List.mem_singleton.mp new
      exact .inr same
  · rintro (⟨m, listed, same⟩ | same)
    · exact ⟨m, List.mem_append_left _ listed, same⟩
    · exact ⟨doc, List.mem_append_right _ (List.mem_singleton.mpr rfl), same⟩

end Stores

section Steps

variable {s t : InsertPool} {event : PoolEvent MessageDocument AppError}
  {calls : List (MessageDocument × ServerProgram Unit)} {id : String} {time : Nat}

/-- Where a call is: before its first write, between its writes, or at its end. -/
inductive Stage (db : Database) : MessageDocument → ServerProgram Unit → Prop where
  | storing (doc : MessageDocument) : Stage db doc (insertMessage doc)
  | touching (doc : MessageDocument) (stored : doc.createdAt ∈ messageTimes db doc.conversationId) :
      Stage db doc (touching doc)
  | ended (doc : MessageDocument) (result : Except AppError Unit) : Stage db doc (.done result)

/-- The messages of a thread are not newer than its activity time or that of a touch to come, and
its activity time is that of a message, or a touch is to come. -/
structure Tracked (s : InsertPool) : Prop where
  stages : s.All (Stage s.store)
  covered : ∀ id, ∀ u ∈ activityOf s.store id, ∀ time ∈ messageTimes s.store id,
    time ≤ u ∨ Pending s.calls id time
  attained : ∀ id, ∀ u ∈ activityOf s.store id, (messageTimes s.store id).Nonempty →
    u ∈ messageTimes s.store id ∨ Pending s.calls id 0

theorem Pending.append (pending : Pending calls id time) (entry : MessageDocument × ServerProgram Unit) :
    Pending (calls ++ [entry]) id time := by
  obtain ⟨other, listed, later⟩ := pending
  exact ⟨other, List.mem_append_left _ listed, later⟩

theorem Pending.mono (pending : Pending calls id time) {earlier : Nat} (le : earlier ≤ time) :
    Pending calls id earlier := by
  obtain ⟨entry, listed, touch, touches, same, later⟩ := pending
  exact ⟨entry, listed, touch, touches, same, Nat.le_trans le later⟩

/-- A touch to come is that of the call that moves, or of another, which remains. -/
theorem Pending.set (pending : Pending calls id time) {i : Nat} {entry : MessageDocument × ServerProgram Unit}
    (held : calls[i]? = some entry) (moved : MessageDocument × ServerProgram Unit) :
    (∃ touch ∈ touchOf entry.2, touch.1 = id ∧ time ≤ touch.2) ∨ Pending (calls.set i moved) id time := by
  obtain ⟨other, listed, later⟩ := pending
  obtain ⟨j, found⟩ := List.mem_iff_getElem?.mp listed
  by_cases here : i = j
  · subst here
    obtain rfl := Option.some.inj (held.symm.trans found)
    exact .inl later
  · exact .inr ⟨other, List.mem_of_getElem? ((List.getElem?_set_ne here).trans found), later⟩

theorem Pending.of_erased {i : Nat} (pending : Pending (calls.eraseIdx i) id time)
    (moved : MessageDocument × ServerProgram Unit) : Pending (calls.set i moved) id time := by
  obtain ⟨other, listed, later⟩ := pending
  obtain ⟨j, apart, found⟩ := List.mem_eraseIdx_iff_getElem?.mp listed
  exact ⟨other, List.mem_of_getElem? ((List.getElem?_set_ne (Ne.symm apart)).trans found), later⟩

theorem Stage.mono {db db' : Database} (grows : ∀ id, messageTimes db id ⊆ messageTimes db' id)
    {doc : MessageDocument} {p : ServerProgram Unit} (stage : Stage db doc p) : Stage db' doc p := by
  cases stage with
  | storing => exact .storing doc
  | touching stored => exact .touching doc (grows _ stored)
  | ended result => exact .ended doc result

theorem touchOf_insertMessage (doc : MessageDocument) : touchOf (insertMessage doc) = none := by
  rw [insertMessage_eq]
  rfl

/-- A call that ends, or one whose message is refused, leaves the touches to come as they are. -/
theorem Tracked.untouched (tracked : Tracked s) {i : Nat} {doc : MessageDocument} {p q : ServerProgram Unit}
    (held : s.calls[i]? = some (doc, p)) (untouching : touchOf p = none) (stage : Stage s.store doc q) :
    Tracked ⟨s.store, s.calls.set i (doc, q)⟩ := by
  have remains : ∀ {id : String} {time : Nat}, Pending s.calls id time → Pending (s.calls.set i (doc, q)) id time := by
    intro id time pending
    rcases pending.set held (doc, q) with ⟨touch, touches, -⟩ | others
    · rw [untouching] at touches
      cases touches
    · exact others
  refine ⟨tracked.stages.set stage _ _, fun id u active time shown => ?_, fun id u active some => ?_⟩
  · exact (tracked.covered id u active time shown).imp_right remains
  · exact (tracked.attained id u active some).imp_right remains

theorem Tracked.takeUp (tracked : Tracked s) (doc : MessageDocument) :
    Tracked ⟨s.store, s.calls ++ [(doc, insertMessage doc)]⟩ := by
  refine ⟨tracked.stages.takeUp (.storing doc) _, fun id u active time shown => ?_, fun id u active some => ?_⟩
  · exact (tracked.covered id u active time shown).imp_right fun pending => pending.append _
  · exact (tracked.attained id u active some).imp_right fun pending => pending.append _

/-- The message of a call is stored, and its touch is to come. -/
theorem Tracked.stored (tracked : Tracked s) {i : Nat} {doc : MessageDocument}
    (held : s.calls[i]? = some (doc, insertMessage doc)) :
    Tracked ⟨s.store.setMessages (s.store.messages ++ [doc]), s.calls.set i (doc, touching doc)⟩ := by
  have remains : ∀ {id : String} {time : Nat}, Pending s.calls id time →
      Pending (s.calls.set i (doc, touching doc)) id time := by
    intro id time pending
    rcases pending.set held (doc, touching doc) with ⟨touch, touches, -⟩ | others
    · rw [touchOf_insertMessage] at touches
      cases touches
    · exact others
  have begins : Pending (s.calls.set i (doc, touching doc)) doc.conversationId doc.createdAt := by
    obtain ⟨bound, -⟩ := List.getElem?_eq_some_iff.mp held
    exact ⟨_, List.mem_of_getElem? (List.getElem?_set_self bound), _, rfl, rfl, Nat.le_refl _⟩
  have grows : ∀ id, messageTimes s.store id ⊆ messageTimes (s.store.setMessages (s.store.messages ++ [doc])) id :=
    fun id time shown => (messageTimes_append doc time).mpr (.inl shown)
  refine ⟨(tracked.stages.mono fun doc p stage => stage.mono grows).set (.touching doc ?_) _ _,
    fun id u active time shown => ?_, fun id u active some => ?_⟩
  · exact (messageTimes_append doc _).mpr (.inr ⟨rfl, rfl⟩)
  · rcases (messageTimes_append doc time).mp shown with old | ⟨rfl, rfl⟩
    · exact (tracked.covered id u active time old).imp_right remains
    · exact .inr begins
  · obtain ⟨time, shown⟩ := some
    rcases (messageTimes_append doc time).mp shown with old | ⟨rfl, rfl⟩
    · exact (tracked.attained id u active ⟨time, old⟩).imp (fun new => grows id new) remains
    · exact .inr (begins.mono (Nat.zero_le _))

/-- A call sets the activity time of its thread to one that is not earlier. -/
theorem Tracked.touched (tracked : Tracked s) {i : Nat} {doc : MessageDocument}
    (held : s.calls[i]? = some (doc, touching doc)) (stored : doc.createdAt ∈ messageTimes s.store doc.conversationId)
    (later : ∀ u ∈ activityOf s.store doc.conversationId, u ≤ doc.createdAt) :
    Tracked ⟨((ServerCommand.touchConversation doc.conversationId doc.createdAt).exec s.store).2,
      s.calls.set i (doc, .done (.ok ()))⟩ := by
  have remains : ∀ {id : String} {time : Nat}, Pending s.calls id time →
      (doc.conversationId = id ∧ time ≤ doc.createdAt) ∨ Pending (s.calls.set i (doc, .done (.ok ()))) id time := by
    intro id time pending
    rcases pending.set held (doc, .done (.ok ())) with ⟨touch, touches, same⟩ | others
    · obtain rfl := Option.some.inj touches
      exact .inl same
    · exact .inr others
  have same : ∀ id, messageTimes s.store id ⊆
      messageTimes ((ServerCommand.touchConversation doc.conversationId doc.createdAt).exec s.store).2 id :=
    fun id time shown => shown
  have stages := tracked.stages.mono fun doc p stage => stage.mono same
  refine ⟨stages.set (.ended doc (.ok ())) _ _, fun id u active time shown => ?_, fun id u active some => ?_⟩
  · rw [activityOf_touch] at active
    split at active
    · rename_i same
      obtain ⟨before, was, rfl⟩ := Option.map_eq_some_iff.mp active
      rcases tracked.covered id before (same ▸ was) time shown with old | pending
      · have after := later before was
        exact .inl (Nat.le_trans old after)
      · exact (remains pending).imp_left And.right
    · rename_i other
      refine (tracked.covered id u active time shown).imp_right fun pending => ?_
      exact (remains pending).resolve_left fun own => other own.1.symm
  · rw [activityOf_touch] at active
    split at active
    · rename_i same
      obtain ⟨before, was, rfl⟩ := Option.map_eq_some_iff.mp active
      exact .inl (same ▸ stored)
    · rename_i other
      refine (tracked.attained id u active some).imp_right fun pending => ?_
      exact (remains pending).resolve_left fun own => other own.1.symm

theorem Tracked.aborted (tracked : Tracked s) {i : Nat} {doc : MessageDocument} {p : ServerProgram Unit}
    (held : s.calls[i]? = some (doc, p)) (e : AppError)
    (unneeded : ∀ touch ∈ touchOf p, ∀ u ∈ activityOf s.store touch.1,
      (touch.2 ≤ u ∧ ∃ m ∈ s.store.messages, m.conversationId = touch.1 ∧ m.createdAt = u) ∨
        Pending (s.calls.eraseIdx i) touch.1 touch.2) :
    Tracked ⟨s.store, s.calls.set i (doc, .done (.error e))⟩ := by
  refine ⟨tracked.stages.set (.ended doc _) _ _, fun id u active time shown => ?_, fun id u active some => ?_⟩
  · rcases tracked.covered id u active time shown with old | pending
    · exact .inl old
    · rcases pending.set held (doc, .done (.error e)) with ⟨touch, touches, rfl, before⟩ | others
      · rcases unneeded touch touches u active with ⟨late, -⟩ | other
        · exact .inl (Nat.le_trans before late)
        · exact .inr ((other.of_erased _).mono before)
      · exact .inr others
  · rcases tracked.attained id u active some with old | pending
    · exact .inl old
    · rcases pending.set held (doc, .done (.error e)) with ⟨touch, touches, rfl, -⟩ | others
      · rcases unneeded touch touches u active with ⟨-, found⟩ | other
        · exact .inl found
        · exact .inr ((other.of_erased _).mono (Nat.zero_le _))
      · exact .inr others

theorem tracked_step (tracked : Tracked s) (taken : insertCalls.Step s event t) (inOrder : InOrder ⟨s, event, t⟩) :
    Tracked t ∧ NeverDecreases ⟨s, event, t⟩ := by
  have unchanged : t.store.conversations = s.store.conversations → NeverDecreases ⟨s, event, t⟩ := by
    intro same id u active
    refine ⟨u, ?_, Nat.le_refl u⟩
    unfold activityOf at active ⊢
    rwa [same]
  cases taken with
  | takeUp doc => exact ⟨tracked.takeUp doc, unchanged rfl⟩
  | abort i doc c next e fails running => exact ⟨tracked.aborted running e (inOrder _ running), unchanged rfl⟩
  | advance i doc c next running =>
    have stage := tracked.stages.at_index running
    generalize moving : Program.command c next = p at running stage
    cases stage with
    | storing =>
      rw [insertMessage_eq] at moving
      cases moving
      rcases exec_insert doc s.store with stored | refused
      · refine ⟨?_, unchanged ?_⟩
        · simp only [insertCalls, stored, if_true]
          exact tracked.stored running
        · simp only [insertCalls, stored]
          rfl
      · refine ⟨?_, unchanged ?_⟩
        · simp only [insertCalls, refused]
          exact tracked.untouched running (touchOf_insertMessage doc) (.ended doc _)
        · simp only [insertCalls, refused]
    | touching stored =>
      cases moving
      have later : ∀ u ∈ activityOf s.store doc.conversationId, u ≤ doc.createdAt :=
        inOrder (doc, touching doc) running (doc.conversationId, doc.createdAt) rfl
      refine ⟨tracked.touched running stored later, fun id u active => ?_⟩
      have after := activityOf_touch s.store doc.conversationId id doc.createdAt
      by_cases same : id = doc.conversationId
      · subst same
        rw [if_pos rfl, Option.mem_def.mp active] at after
        exact ⟨doc.createdAt, after, later u active⟩
      · rw [if_neg same] at after
        exact ⟨u, after.trans active, Nat.le_refl u⟩
    | ended result => cases moving

theorem Tracked.newest (tracked : Tracked s) (quiet : quiescent s) : NewestActivity s.store := by
  have settled : ∀ {id : String} {time : Nat}, ¬ Pending s.calls id time := by
    rintro id time ⟨entry, listed, touch, touches, -⟩
    have ended := List.all_eq_true.mp quiet entry listed
    split at ended
    · rename_i result rest
      rw [rest] at touches
      cases touches
    · cases ended
  intro id u active some
  refine ⟨(tracked.attained id u active some).resolve_right settled, fun time shown => ?_⟩
  exact (tracked.covered id u active time shown).resolve_right settled

end Steps

/-- In every run whose steps are in order, no activity time decreases, and when no call runs
each is the time of the thread's newest message. -/
theorem activity_newest {start final : InsertPool} {history : List InsertTransition}
    (initial : activityMachine.init start) (run : activityMachine.Run start history final)
    (inOrder : ∀ t ∈ history, InOrder t) :
    ∀ t ∈ history, NeverDecreases t ∧ (quiescent t.target → NewestActivity t.target.store) := by
  obtain ⟨noCalls, newest⟩ := initial
  have tracked : Tracked start := by
    refine ⟨fun entry listed => ?_, fun id u active time shown => ?_, fun id u active some => ?_⟩
    · rw [noCalls] at listed
      cases listed
    · exact .inl ((newest id u active ⟨time, shown⟩).2 shown)
    · exact .inl (newest id u active some).1
  have recorded := run.recorded_of_forall (I := Tracked) (C := InOrder)
    (fun s event t tracked taken ordered => (tracked_step tracked taken ordered).1) tracked inOrder
  intro t taken
  obtain ⟨step, before, after⟩ := recorded t taken
  exact ⟨(tracked_step before step (inOrder t taken)).2, after.newest⟩

/-- A thread without messages, created at 100. -/
def created : InsertPool where
  store :=
    { conversations := [{
        id := "c1"
        directPairKey := some "alice:bob"
        participantIds := ["alice", "bob"]
        isGroup := false
        createdAt := 100
        updatedAt := 100 }] }
  calls := []

def messageAt (id : String) (now : Nat) : MessageDocument where
  id := id
  conversationId := "c1"
  senderId := "alice"
  body := none
  mediaKey := none
  encryptedMessageKeys := none
  iv := .undefined
  algorithm := .undefined
  createdAt := now

theorem created_init : activityMachine.init created := by
  refine ⟨rfl, fun id u active some => ?_⟩
  obtain ⟨time, m, listed, -⟩ := some
  cases listed

/-- The recorded run of the events from there. -/
def ran (events : List (PoolEvent MessageDocument AppError)) : Option (List InsertTransition × InsertPool) :=
  Machine.trace insertCalls.next created events

theorem ran_run {events : List (PoolEvent MessageDocument AppError)} {history : List InsertTransition}
    {final : InsertPool} (executed : ran events = some (history, final)) :
    activityMachine.Run created history final :=
  Machine.trace_run insertCalls.next (fun s event t stepped => insertCalls.next_step s event t stepped) executed

/-- Two calls whose writes alternate, the earlier time first. -/
theorem activity_newest_two_sends : ∃ history final, activityMachine.Run created history final ∧
    history.length = 6 ∧ activityOf final.store "c1" = some 160 ∧
      ∀ t ∈ history, NeverDecreases t ∧ (quiescent t.target → NewestActivity t.target.store) := by
  have checked : (ran [.takeUp (messageAt "m1" 150), .takeUp (messageAt "m2" 160), .advance 0, .advance 1,
      .advance 0, .advance 1]).any (fun executed => executed.1.length = 6 ∧
        activityOf executed.2.store "c1" = some 160 ∧ ∀ t ∈ executed.1, InOrder t) = true := by decide
  obtain ⟨⟨history, final⟩, executed, holds⟩ := (Option.any_eq_true _ _).mp checked
  obtain ⟨length, active, inOrder⟩ := of_decide_eq_true holds
  have run := ran_run executed
  exact ⟨history, final, run, length, active, activity_newest created_init run inOrder⟩

/-- The step sets the activity time of the thread back. -/
def setBack (t : InsertTransition) : Bool :=
  match activityOf t.source.store "c1", activityOf t.target.store "c1" with
  | some u, some u' => u' < u
  | _, _ => false

theorem setBack_sound {t : InsertTransition} (back : setBack t) : ¬ NeverDecreases t := by
  intro never
  unfold setBack at back
  split at back
  · rename_i u u' before after
    obtain ⟨v, active, later⟩ := never "c1" u before
    obtain rfl := Option.some.inj (after.symm.trans active)
    have earlier : u' < u := of_decide_eq_true back
    omega
  · cases back

/-- The call with the later time touches the thread first. -/
theorem earlier_time_written_last :
    ¬ ∀ (start final : InsertPool) (history : List InsertTransition), activityMachine.init start →
      activityMachine.Run start history final →
        ∀ t ∈ history, NeverDecreases t ∧ (quiescent t.target → NewestActivity t.target.store) := by
  intro claim
  have checked : (ran [.takeUp (messageAt "m1" 150), .takeUp (messageAt "m2" 160), .advance 0, .advance 1,
      .advance 1, .advance 0]).any (fun executed => executed.1.any setBack) = true := by decide
  obtain ⟨⟨history, final⟩, executed, holds⟩ := (Option.any_eq_true _ _).mp checked
  obtain ⟨t, taken, back⟩ := List.any_eq_true.mp holds
  exact setBack_sound back (claim created final history created_init (ran_run executed) t taken).1

end MessagingSystem.Guarantees.ThreadActivity
