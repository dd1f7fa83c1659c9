import MessagingSystem.Protocol.ServiceCalls

/-!
# The read cursor and the thread order

`conversation_reads` leaves the rule that a cursor only advances to its
callers, and neither read event compares the new message with the cursor. The
stored cursor is the last write, so it advances exactly in the runs whose
cursor writes come in thread order.
-/
namespace MessagingSystem.Guarantees.ReadCursor
open Foundation Source.Server Protocol

/-- No cursor moves to a message that precedes the one it names. -/
def CursorsAdvance (t : Transition Service ServiceEvent) : Prop :=
  ∀ u c before after, t.source.db.cursorPosition u c = some before →
    t.target.db.cursorPosition u c = some after → before ≤ after

/-- The cursor writes of a run, oldest first. -/
def cursorWrites (history : List (Transition Service ServiceEvent)) :
    List ((String × String) × (Nat ×ₗ String)) := history.filterMap cursorWrite

/-- Each user reads each conversation in thread order. -/
def ReadInThreadOrder (history : List (Transition Service ServiceEvent)) : Prop :=
  LastWrite.Ascending (cursorWrites history)

/-- Every cursor names the last message written to it. -/
def CursorsAreLastWrites (s : Service) (writes : List ((String × String) × (Nat ×ₗ String))) :
    Prop :=
  ∀ u c, (s.db.findReadRow u c = none ∧ LastWrite.lastOf (u, c) writes = none) ∨
    ∃ place, s.db.cursorPosition u c = some place ∧ LastWrite.lastOf (u, c) writes = some place

section Step

variable {s t : Service} {event : ServiceEvent}
  {writes : List ((String × String) × (Nat ×ₗ String))}

theorem CursorsAreLastWrites.cursorPosition (refines : CursorsAreLastWrites s writes)
    (u c : String) : s.db.cursorPosition u c = LastWrite.lastOf (u, c) writes := by
  rcases refines u c with ⟨absent, none⟩ | ⟨place, held, last⟩
  · simp [Database.cursorPosition, absent, none]
  · rw [held, last]

theorem CursorsAreLastWrites.untouched (refines : CursorsAreLastWrites s writes)
    (ext : s.db.Extends t.db) {u c : String}
    (row : t.db.findReadRow u c = s.db.findReadRow u c) :
    (t.db.findReadRow u c = none ∧ LastWrite.lastOf (u, c) writes = none) ∨
      ∃ place, t.db.cursorPosition u c = some place ∧
        LastWrite.lastOf (u, c) writes = some place := by
  rcases refines u c with ⟨absent, none⟩ | ⟨place, held, last⟩
  · exact .inl ⟨row.trans absent, none⟩
  · exact .inr ⟨place, ext.cursorPosition row held, last⟩

/-- A step adds at most one write, and the cursors still are the last writes. -/
theorem CursorsAreLastWrites.step (refines : CursorsAreLastWrites s writes)
    (contracts : s.Contracts) (taken : serviceMachine.step s event t) :
    CursorsAreLastWrites t (writes ++ (cursorWrite ⟨s, event, t⟩).toList) := by
  obtain ⟨ext, effect⟩ := step_cursor contracts taken
  cases written : cursorWrite ⟨s, event, t⟩ with
  | none =>
    rw [written] at effect
    intro u c
    simpa using refines.untouched ext (effect u c)
  | some write =>
    obtain ⟨⟨userId, conversationId⟩, place⟩ := write
    rw [written] at effect
    obtain ⟨moved, others⟩ := effect
    intro u c
    simp only [Option.toList_some, LastWrite.lastOf_append]
    by_cases same : (userId, conversationId) = (u, c)
    · obtain ⟨rfl, rfl⟩ := Prod.mk.inj same
      exact .inr ⟨place, moved, if_pos rfl⟩
    · simp only [same, if_false]
      exact refines.untouched ext (others (u, c) (Ne.symm same))

/-- A step keeps the order of writes exactly when no cursor moves back. -/
theorem step_advances_iff (refines : CursorsAreLastWrites s writes) (contracts : s.Contracts)
    (taken : serviceMachine.step s event t) (ascending : LastWrite.Ascending writes) :
    LastWrite.Ascending (writes ++ (cursorWrite ⟨s, event, t⟩).toList) ↔
      CursorsAdvance ⟨s, event, t⟩ := by
  have after := refines.step contracts taken
  cases written : cursorWrite ⟨s, event, t⟩ with
  | none =>
    rw [written] at after
    refine iff_of_true (by simpa using ascending) ?_
    intro u c place place' held held'
    dsimp only at held held'
    rw [refines.cursorPosition] at held
    rw [after.cursorPosition, Option.toList_none, List.append_nil, held] at held'
    exact (Option.some.inj held').le
  | some write =>
    obtain ⟨⟨userId, conversationId⟩, place⟩ := write
    rw [written] at after
    rw [Option.toList_some, LastWrite.ascending_append_iff, and_iff_right ascending]
    constructor
    · intro bound u c before place' held held'
      dsimp only at held held'
      rw [refines.cursorPosition] at held
      rw [after.cursorPosition, Option.toList_some, LastWrite.lastOf_append] at held'
      split at held'
      · rename_i same
        cases held'
        obtain ⟨rfl, rfl⟩ := Prod.mk.inj same
        exact bound before held
      · rw [held] at held'
        exact (Option.some.inj held').le
    · intro advances last held
      refine advances userId conversationId last place ?_ ?_
      · exact (refines.cursorPosition userId conversationId).trans held
      · refine (after.cursorPosition userId conversationId).trans ?_
        rw [Option.toList_some, LastWrite.lastOf_append, if_pos rfl]

end Step

theorem run_cursors {start s : Service} {history : List (Transition Service ServiceEvent)}
    (initial : serviceMachine.init start) (run : serviceMachine.Run start history s) :
    CursorsAreLastWrites s (cursorWrites history) ∧
      (ReadInThreadOrder history ↔ ∀ t ∈ history, CursorsAdvance t) := by
  induction run with
  | nil =>
    refine ⟨fun u c => .inl ⟨?_, rfl⟩, iff_of_true List.Pairwise.nil (by simp)⟩
    simp [Database.findReadRow, initial.2]
  | @snoc history source target event earlier last ih =>
    obtain ⟨refines, advances⟩ := ih
    have contracts := earlier.invariant Service.Contracts.preserved (Service.Contracts.initial initial)
    have writes : cursorWrites (history ++ [⟨source, event, target⟩]) =
        cursorWrites history ++ (cursorWrite ⟨source, event, target⟩).toList := by
      unfold cursorWrites
      rw [List.filterMap_append]
      cases written : cursorWrite ⟨source, event, target⟩ <;> simp [written]
    refine ⟨writes ▸ refines.step contracts last, ?_⟩
    simp only [List.mem_append, List.mem_singleton, or_imp, forall_and, forall_eq, ← advances]
    unfold ReadInThreadOrder
    rw [writes]
    constructor
    · intro ascending
      have before := (List.pairwise_append.mp ascending).1
      exact ⟨before, (step_advances_iff refines contracts last before).mp ascending⟩
    · intro h
      exact (step_advances_iff refines contracts last h.1).mpr h.2

/-- In every run the cursors only advance exactly when the accepted read events
of each user and conversation reach the store in thread order. -/
theorem cursors_advance_iff (start s : Service) (history : List (Transition Service ServiceEvent))
    (initial : serviceMachine.init start) (run : serviceMachine.Run start history s) :
    ReadInThreadOrder history ↔ ∀ t ∈ history, CursorsAdvance t :=
  (run_cursors initial run).2

section Runs

/-- Two messages of `alice` to `bob`. -/
def twoMessages : Service :=
  let message (id : String) (at' : Nat) : MessageDocument :=
    { id, conversationId := "c", senderId := "alice", body := some "hi", mediaKey := none
      encryptedMessageKeys := none, iv := .undefined, algorithm := .undefined, createdAt := at' }
  let thread : ConversationDocument :=
    { id := "c", directPairKey := some "alice|bob", participantIds := ["alice", "bob"]
      isGroup := false, createdAt := 1, updatedAt := 3 }
  { db := { conversations := [thread], messages := [message "m1" 2, message "m2" 3] } }

def readBy (messageId : String) : ReceiptRequest := ⟨"bob", messageId, "c", some "socket"⟩

/-- The commands of one call, executed one after another. -/
def advances (index count : Nat) : List ServiceEvent := List.replicate count (.advance index)

/-- `bob` reads the older message and then the newer one. -/
theorem cursors_advance_in_order :
    ∃ history s, serviceMachine.Run twoMessages history s ∧ (∀ t ∈ history, CursorsAdvance t) ∧
      cursorWrites history = [(("bob", "c"), toLex (2, "m1")), (("bob", "c"), toLex (3, "m2"))] := by
  let events := [.takeUp (.messageRead (readBy "m1") 10 10)] ++ advances 0 8 ++
    [.takeUp (.conversationRead (readBy "m2") 11 11)] ++ advances 1 6
  have writes : (Machine.trace Service.next twoMessages events).map (fun r => cursorWrites r.1) =
      some [(("bob", "c"), toLex (2, "m1")), (("bob", "c"), toLex (3, "m2"))] := by decide
  obtain ⟨⟨history, s⟩, executed, same⟩ := Option.map_eq_some_iff.mp writes
  have run : serviceMachine.Run twoMessages history s :=
    Machine.trace_run Service.next Service.next_step executed
  refine ⟨history, s, run, (cursors_advance_iff twoMessages s history ⟨rfl, rfl⟩ run).mp ?_, same⟩
  have ascending : LastWrite.Ascending
      [(("bob", "c"), toLex (2, "m1")), (("bob", "c"), toLex (3, "m2"))] := by
    simp [LastWrite.Ascending, Prod.Lex.toLex_le_toLex]
  unfold ReadInThreadOrder
  rw [same]
  exact ascending

/-- The client emits `conversation:read` for the last message and then
`message:read` for an older row that scrolls into view: the cursor moves back. -/
theorem cursor_moves_back :
    ¬ ∀ (start s : Service) (history : List (Transition Service ServiceEvent)),
      serviceMachine.init start → serviceMachine.Run start history s →
      ∀ t ∈ history, CursorsAdvance t := by
  intro claim
  let events := [.takeUp (.conversationRead (readBy "m2") 10 10)] ++ advances 0 6 ++
    [.takeUp (.messageRead (readBy "m1") 11 11)] ++ advances 1 5
  have cursors : (Machine.trace Service.next twoMessages events).map (fun r =>
      r.1.getLast?.map fun t => [t.source.db.cursorPosition "bob" "c",
        t.target.db.cursorPosition "bob" "c"]) =
      some (some [some (toLex (3, "m2")), some (toLex (2, "m1"))]) := by decide
  obtain ⟨⟨history, s⟩, executed, same⟩ := Option.map_eq_some_iff.mp cursors
  obtain ⟨t, last, positions⟩ := Option.map_eq_some_iff.mp same
  have run : serviceMachine.Run twoMessages history s :=
    Machine.trace_run Service.next Service.next_step executed
  have advanced := claim twoMessages s history ⟨rfl, rfl⟩ run t (List.mem_of_getLast? last)
    "bob" "c" _ _ (List.cons.inj positions).1 (List.cons.inj (List.cons.inj positions).2).1
  exact absurd advanced (by simp [Prod.Lex.toLex_le_toLex])

end Runs

end MessagingSystem.Guarantees.ReadCursor
