import MessagingSystem.Source.Server.Database

/-!
# Conversations and messages

The lookups of `conversations/repo.ts` and `messages/repo.ts`, and the creation
of a direct thread.
-/
namespace MessagingSystem.Source.Server
open Foundation

def directPairKey (userA userB : String) : String :=
  let (p0, p1) := EcmaText.sortPair userA userB
  p0 ++ "|" ++ p1

theorem directPairKey_comm (a b : String) : directPairKey a b = directPairKey b a := by
  unfold directPairKey
  rw [EcmaText.sortPair_comm]

/-- A pair key tells its two users. -/
theorem directPairKey_inj {a b c d : String} (plainA : '|' ∉ a.toList) (plainB : '|' ∉ b.toList)
    (plainC : '|' ∉ c.toList) (plainD : '|' ∉ d.toList) (same : directPairKey a b = directPairKey c d) :
    EcmaText.sortPair a b = EcmaText.sortPair c d := by
  have split {p q r s : String} (plainR : '|' ∉ r.toList) (plainS : '|' ∉ s.toList)
      (same : p ++ "|" ++ q = r ++ "|" ++ s) (plainP : '|' ∉ p.toList) (plainQ : '|' ∉ q.toList) :
      p = r ∧ q = s := by
    have chars := congrArg String.toList same
    simp only [String.toList_append, List.append_assoc,
      show "|".toList = ['|'] from rfl, List.singleton_append] at chars
    obtain ⟨first, -, second⟩ := (List.append_cons_inj_of_notMem plainP plainQ).mp chars
    exact ⟨String.toList_inj.mp first, String.toList_inj.mp second⟩
  unfold directPairKey at same
  rcases EcmaText.sortPair_cases a b with first | first <;> rcases EcmaText.sortPair_cases c d with second | second <;>
    rw [first, second] at same ⊢
  · obtain ⟨rfl, rfl⟩ := split plainC plainD same plainA plainB
    rfl
  · obtain ⟨rfl, rfl⟩ := split plainD plainC same plainA plainB
    rfl
  · obtain ⟨rfl, rfl⟩ := split plainC plainD same plainB plainA
    rfl
  · obtain ⟨rfl, rfl⟩ := split plainD plainC same plainB plainA
    rfl

def findDirectConversationIdBetween (userA userB : String) : ServerProgram (Option String) := do
  if userA = userB then pure none
  else do
    let doc ← .perform (.findDirectConversation (directPairKey userA userB))
    pure (doc.map fun c => c.id)

inductive ConversationLookup where
  | direct (doc : ConversationDocument)
  | group

def lookupConversationById (conversationId : String) : ServerProgram (Option ConversationLookup) :=
  let trimmed := EcmaText.trim conversationId
  if trimmed = "" then pure none
  else do
    let doc ← .perform (.findConversation trimmed)
    pure (doc.map fun c => if c.isGroup then .group else .direct c)

/-- The direct thread held for a pair, by its pair key and then by its id. -/
def existingDirectConversation (userA userB : String) :
    ServerProgram (Option ConversationDocument) := do
  match ← findDirectConversationIdBetween userA userB with
  | none => pure none
  | some id => .perform (.findConversation id)

def findOrCreateDirectConversation (userA userB uuid : String) (now : Nat)
    (guestDataExpiresAt : Option Nat) : ServerProgram ConversationDocument := do
  match ← existingDirectConversation userA userB with
  | some existing => pure existing
  | none => do
      let (p0, p1) := EcmaText.sortPair userA userB
      let doc : ConversationDocument :=
        { id := uuid, directPairKey := some (directPairKey userA userB), participantIds := [p0, p1]
          isGroup := false, createdAt := now, updatedAt := now, guestDataExpiresAt }
      let inserted ← .perform (.insertConversation doc)
      if inserted then pure doc
      else do
        -- duplicate key: another request created the thread in between
        let retry ← existingDirectConversation userA userB
        .orFail retry ⟨"INTERNAL_ERROR", 500, "Internal server error"⟩

/-- All conversation ids where the user appears in `participantIds`. -/
def findConversationIdsForParticipant (userId : String) : ServerProgram (List String) :=
  let uid := EcmaText.trim userId
  if uid = "" then pure []
  else do
    let ids ← .perform (.participantConversationIds uid)
    pure (ids.filter fun id => id ≠ "")

/-- `findMessageById`. -/
def findMessageById (messageId : String) : ServerProgram (Option MessageDocument) :=
  .perform (.findMessage (EcmaText.trim messageId))

end MessagingSystem.Source.Server
