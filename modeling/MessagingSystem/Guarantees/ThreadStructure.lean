import MessagingSystem.Foundation.Transition
import MessagingSystem.Source.Client.ThreadInvariant

/-!
# Structure of the thread maps

The messaging slice under any order of its five thread reducers, with acks
that arrive after their echo, echoes before their ack, and hydrations between.
-/
namespace MessagingSystem.Guarantees.ThreadStructure
open Foundation Source.Client

/-- The slice and the conversation each optimistic id was appended to. -/
structure ThreadSession where
  slice : MessagingState
  issued : String → Option String

def ThreadSession.dispatch (s : ThreadSession) (action : MessagingAction) : ThreadSession where
  slice := messagingReducer s.slice action
  issued := issuedAfter s.issued action

/-- `home` is the one conversation of each server message. -/
def threadMachine (home : String → Option String) : Machine ThreadSession MessagingAction where
  init s := s = { slice := initialState, issued := fun _ => none }
  step s action t := Admissible home s.issued action ∧ t = s.dispatch action

theorem threadInvariant_reachable {home : String → Option String} {s : ThreadSession}
    (reachable : (threadMachine home).Reachable s) :
    ThreadInvariant home s.issued s.slice := by
  refine reachable.invariant (I := fun s => ThreadInvariant home s.issued s.slice) ?_ ?_
  · rintro s rfl
    exact ThreadInvariant.initial
  · rintro s action t inv ⟨admissible, rfl⟩
    exact inv.step admissible

/-- In every reachable state a thread lists each of its rows once, its queue is
the sublist of its client ids and exactly the client rows are loading. -/
theorem thread_maps_agree (home : String → Option String) (s : ThreadSession)
    (reachable : (threadMachine home).Reachable s) (c id : String) :
    (s.slice.idsOf c).Nodup ∧
    (id ∈ s.slice.idsOf c ↔
      ∃ row, s.slice.messagesById.get id = some row ∧ row.conversationId = c) ∧
    s.slice.pendingOf c = (s.slice.idsOf c).filter isClientId ∧
    (s.slice.outboundReceiptByMessageId.get id = some .loading ↔
      isClientId id = true ∧ ∃ row, s.slice.messagesById.get id = some row) := by
  have inv := threadInvariant_reachable reachable
  refine ⟨inv.distinct c, ?_, inv.queue c, ?_⟩
  · rw [inv.listed]
    simp [MessagingState.rowHome]
  · rw [inv.loading, Option.isSome_iff_exists]

/-- An optimistic row reconciled by its echo, then by its ack. -/
theorem thread_maps_agree_echo_then_ack :
    let echo : Message :=
      { id := "m1", conversationId := "c", senderId := "u", body := .value "hi",
        createdAt := "2026-01-01T00:00:01.000Z" }
    let row : StoredMessage :=
      { id := "client:1", conversationId := "c", senderId := "u", body := .value "hi",
        createdAt := "2026-01-01T00:00:00.000Z" }
    let start : ThreadSession := { slice := initialState, issued := fun _ => none }
    let s := ((start.dispatch (.appendMessageFromSend "c" row)).dispatch
      (.appendIncomingMessageIfNew echo (some "u"))).dispatch
      (.replaceOptimisticMessage "c" "client:1" echo)
    s.slice.idsOf "c" = ["m1"] ∧ s.slice.pendingOf "c" = [] ∧
    ("m1" ∈ s.slice.idsOf "c" ↔
      ∃ row, s.slice.messagesById.get "m1" = some row ∧ row.conversationId = "c") := by
  intro echo row start s
  have reachable : (threadMachine fun _ => some "c").Reachable s := by
    refine ⟨start, _, rfl, .snoc (.snoc (.snoc .nil ⟨?_, rfl⟩) ⟨?_, rfl⟩) ⟨?_, rfl⟩⟩
    · exact ⟨by decide, rfl, rfl⟩
    · exact ⟨by decide, rfl, rfl⟩
    · exact ⟨by decide, rfl, by decide, rfl, rfl⟩
  have agree := thread_maps_agree (fun _ => some "c") s reachable "c" "m1"
  exact ⟨by decide, by decide, agree.2.1⟩

end MessagingSystem.Guarantees.ThreadStructure
