import MessagingSystem.Foundation.Json
import MessagingSystem.Foundation.Record

/-!
# The queue of inbound notifications

`notificationsSlice.ts`. Of a parsed payload the slice reads the id; the members of
its kind are `content`. `receivedAt` is the clock text that the reducer draws.
-/
namespace MessagingSystem.Source.Client
open Foundation

def MAX_INBOUND : Nat := 100

structure ParsedNotificationPayload where
  notificationId : String
  content : List (String × Json) := []

structure InboundNotificationRow where
  notificationId : String
  receivedAt : String
  payload : ParsedNotificationPayload

structure NotificationsState where
  inbound : List InboundNotificationRow := []
  seenNotificationIds : Record Bool := ∅

def notificationsInitialState : NotificationsState := {}

/-- The test `state.seenNotificationIds[id]`, for which an inherited member counts as well. -/
def NotificationsState.isSeen (state : NotificationsState) (id : String) : Bool :=
  match readProperty state.seenNotificationIds id with
  | .own seen => seen
  | .inherited => true
  | .absent => false

/-- The loop that shifts rows off the queue while it is longer than its bound. -/
def shiftWhileLong : List InboundNotificationRow → Record Bool → NotificationsState
  | [], seen => ⟨[], seen⟩
  | removed :: rest, seen =>
      if MAX_INBOUND < (removed :: rest).length then shiftWhileLong rest (seen.delete removed.notificationId)
      else ⟨removed :: rest, seen⟩

/-- The row of a payload that is appended. -/
def inboundRow (payload : ParsedNotificationPayload) (receivedAt : String) : InboundNotificationRow where
  notificationId := payload.notificationId
  receivedAt := receivedAt
  payload := payload

def appendInboundNotification (state : NotificationsState) (payload : ParsedNotificationPayload)
    (receivedAt : String) : NotificationsState :=
  if state.isSeen payload.notificationId then state
  else shiftWhileLong (state.inbound ++ [inboundRow payload receivedAt])
    (assignProperty state.seenNotificationIds payload.notificationId true)

section Rows

/-- The ids of rows. -/
def rowIds (rows : List InboundNotificationRow) : List String := rows.map InboundNotificationRow.notificationId

/-- The last elements that the bound leaves. -/
def latest {α : Type} (l : List α) : List α := l.drop (l.length - MAX_INBOUND)

theorem latest_length {α : Type} (l : List α) : (latest l).length ≤ MAX_INBOUND := by
  unfold latest
  rw [List.length_drop]
  omega

theorem latest_suffix {α : Type} (l : List α) : latest l <:+ l := List.drop_suffix _ l

theorem latest_map {α β : Type} (f : α → β) (l : List α) : (latest l).map f = latest (l.map f) := by
  unfold latest
  rw [List.map_drop, List.length_map]

/-- Older elements do not matter once they have been dropped. -/
theorem latest_latest_append {α : Type} (l : List α) (a : α) : latest (latest l ++ [a]) = latest (l ++ [a]) := by
  have front : latest l ++ [a] = (l ++ [a]).drop (l.length - MAX_INBOUND) :=
    (List.drop_append_of_le_length (Nat.sub_le _ _)).symm
  rw [front]
  unfold latest
  rw [List.drop_drop, List.length_drop, List.length_append, List.length_singleton]
  have places : l.length - MAX_INBOUND + (l.length + 1 - (l.length - MAX_INBOUND) - MAX_INBOUND) =
      l.length + 1 - MAX_INBOUND := by omega
  rw [places]

/-- The record holds the ids of the rows. -/
def SeenRows (rows : List InboundNotificationRow) (seen : Record Bool) : Prop :=
  ∀ id, seen.get id = if id ∈ rowIds rows then some true else none

/-- The loop leaves the last rows, and the record with their ids. -/
theorem shiftWhileLong_latest {rows : List InboundNotificationRow} {seen : Record Bool}
    (distinct : (rowIds rows).Nodup) (holds : SeenRows rows seen) :
    (shiftWhileLong rows seen).inbound = latest rows ∧
      SeenRows (latest rows) (shiftWhileLong rows seen).seenNotificationIds := by
  induction rows generalizing seen with
  | nil => exact ⟨rfl, holds⟩
  | cons removed rest ih =>
    obtain ⟨fresh, distinct⟩ := List.nodup_cons.mp distinct
    unfold shiftWhileLong
    by_cases long : MAX_INBOUND < (removed :: rest).length
    · have shifted : latest (removed :: rest) = latest rest := by
        unfold latest
        rw [List.length_cons] at long ⊢
        rw [show rest.length + 1 - MAX_INBOUND = (rest.length - MAX_INBOUND) + 1 by omega, List.drop_succ_cons]
      have forgets : SeenRows rest (seen.delete removed.notificationId) := by
        intro id
        rw [Record.get_delete, holds id]
        by_cases same : id = removed.notificationId
        · rw [if_pos same, if_neg (same ▸ fresh)]
        · simp [rowIds, same]
      rw [if_pos long, shifted]
      exact ih distinct forgets
    · have all : latest (removed :: rest) = removed :: rest := by
        unfold latest
        rw [Nat.sub_eq_zero_of_le (not_lt.mp long), List.drop_zero]
      rw [if_neg long, all]
      exact ⟨rfl, holds⟩

end Rows

end MessagingSystem.Source.Client
