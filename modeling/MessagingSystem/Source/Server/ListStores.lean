import MessagingSystem.Source.Server.ListPages

/-!
# Stores under the lists

What the commands of other requests do to the rows of a list: a thread or a
message is added, a message sent in a thread touches it, and any other row keeps
its place.
-/
namespace MessagingSystem.Source.Server
open Foundation

/-- Threads and messages that can be paged through. -/
structure Database.ListableRows (db : Database) : Prop where
  conversations : Listable ConversationDocument.place db.conversations
  messages : Listable MessageDocument.place db.messages

/-- The ids and times a command stores are those of `randomUUID` and of a clock. -/
def ServerCommand.Stamped {γ : Type} : ServerCommand γ → Prop
  | .insertConversation doc => doc.place.Plain
  | .touchConversation _ now => now ≤ EcmaDate.maxTime
  | .insertMessage doc => doc.place.Plain
  | _ => True

/-- The thread that a command touches, and when. -/
def ServerCommand.touched {γ : Type} : ServerCommand γ → Option (String × Nat)
  | .touchConversation id now => some (id, now)
  | _ => none

/-- What of a message decides where it is listed. -/
def MessageDocument.listed (m : MessageDocument) : String × ListCursor := (m.conversationId, m.place)

section Append

variable {α : Type} {place : α → ListCursor} {rows : List α} {a : α}

theorem Listable.append (listable : Listable place rows) (fresh : (place a).id ∉ rows.map fun b => (place b).id)
    (plain : (place a).Plain) : Listable place (rows ++ [a]) := by
  constructor
  · rw [List.map_append, List.map_singleton]
    apply List.nodup_append.mpr
    refine ⟨listable.ids, List.nodup_singleton _, ?_⟩
    rintro x before y here rfl
    rw [List.mem_singleton.mp here] at before
    exact fresh before
  · intro b member
    rcases List.mem_append.mp member with before | here
    · exact listable.plain b before
    · exact List.mem_singleton.mp here ▸ plain

/-- An update that keeps the places. -/
theorem Listable.updateFirst (listable : Listable place rows) (filter : α → Bool) {update : α → α}
    (keeps : ∀ a, place (update a) = place a) : Listable place (Collection.updateFirst filter update rows) := by
  constructor
  · rw [Collection.map_key_updateFirst (fun a => (place a).id) _ _ fun a => congrArg ListCursor.id (keeps a)]
    exact listable.ids
  · intro b member
    rcases Collection.mem_updateFirst member with before | ⟨origin, held, rfl⟩
    · exact listable.plain b before
    · exact keeps origin ▸ listable.plain origin held

end Append

section Commands

variable {γ : Type} {db : Database}

theorem insertUnique_listable {doc : MessageDocument} {messages : List MessageDocument}
    (listable : Listable MessageDocument.place db.messages) (plain : doc.place.Plain)
    (inserted : Collection.insertUnique MessageDocument.id doc db.messages = some messages) :
    Listable MessageDocument.place messages := by
  unfold Collection.insertUnique at inserted
  split at inserted
  · cases inserted
  · rename_i fresh
    cases inserted
    exact listable.append fresh plain

theorem touched_listable (listable : Listable ConversationDocument.place db.conversations) (id : String) {now : Nat}
    (valid : now ≤ EcmaDate.maxTime) :
    Listable ConversationDocument.place (Collection.updateFirst (fun c => c.id = id)
      (fun c => { c with updatedAt := now }) db.conversations) := by
  constructor
  · rw [Collection.map_key_updateFirst (fun c => (ConversationDocument.place c).id) _
      (fun c => { c with updatedAt := now }) fun _ => rfl]
    exact listable.ids
  · intro c member
    rcases Collection.mem_updateFirst member with before | ⟨origin, held, rfl⟩
    · exact listable.plain c before
    · have plain := listable.plain origin held
      exact ⟨valid, plain.trimmed, plain.nonempty⟩

theorem exec_listable {command : ServerCommand γ} (stamped : command.Stamped) (listable : db.ListableRows) :
    (command.exec db).2.ListableRows := by
  cases command with
  | insertConversation doc =>
    simp only [ServerCommand.exec]
    split
    · exact listable
    · rename_i apart
      refine ⟨listable.conversations.append ?_ stamped, listable.messages⟩
      intro present
      obtain ⟨c, held, same⟩ := List.mem_map.mp present
      have conflict : Database.conflictsWith doc c = true := by
        unfold Database.conflictsWith
        simp [show c.id = doc.id from same]
      exact apart (List.any_eq_true.mpr ⟨c, held, conflict⟩)
  | touchConversation id now => exact ⟨touched_listable listable.conversations id stamped, listable.messages⟩
  | insertMessage doc =>
    simp only [ServerCommand.exec]
    split
    · rename_i messages inserted
      exact ⟨listable.conversations, insertUnique_listable listable.messages stamped inserted⟩
    · exact listable
  | setMessageKey messageId conversationIds source target key =>
    exact ⟨listable.conversations, listable.messages.updateFirst _ fun _ => rfl⟩
  | setReceipt kind messageId userId at' =>
    exact ⟨listable.conversations, listable.messages.updateFirst _ fun _ => rfl⟩
  | insertDevice doc =>
    simp only [ServerCommand.exec]
    split <;> exact ⟨listable.conversations, listable.messages⟩
  | _ => exact ⟨listable.conversations, listable.messages⟩

/-- Messages stay listed where they are. -/
theorem exec_listed (command : ServerCommand γ) (db : Database) {m : MessageDocument} (member : m ∈ db.messages) :
    ∃ m' ∈ (command.exec db).2.messages, m'.listed = m.listed := by
  have among (messages : List MessageDocument)
      (same : messages.map MessageDocument.listed = db.messages.map MessageDocument.listed) :
      ∃ m' ∈ messages, m'.listed = m.listed := by
    apply List.mem_map.mp
    rw [same]
    exact List.mem_map_of_mem member
  cases command with
  | insertConversation doc =>
    simp only [ServerCommand.exec]
    split <;> exact ⟨m, member, rfl⟩
  | insertMessage doc =>
    simp only [ServerCommand.exec]
    split
    · rename_i messages inserted
      unfold Collection.insertUnique at inserted
      split at inserted
      · cases inserted
      · cases inserted
        exact ⟨m, List.mem_append_left _ member, rfl⟩
    · exact ⟨m, member, rfl⟩
  | setMessageKey messageId conversationIds source target key =>
    exact among _ (Collection.map_key_updateFirst _ _ (MessageDocument.setKeyFor target key) (fun _ => rfl) _)
  | setReceipt kind messageId userId at' =>
    exact among _ (Collection.map_key_updateFirst _ _ (MessageDocument.setReceipt kind userId at') (fun _ => rfl) _)
  | insertDevice doc =>
    simp only [ServerCommand.exec]
    split <;> exact ⟨m, member, rfl⟩
  | _ => exact ⟨m, member, rfl⟩

/-- Threads stay; one is moved when a command touches it. -/
theorem exec_conversation (command : ServerCommand γ) (listable : db.ListableRows) {c : ConversationDocument}
    (member : c ∈ db.conversations) :
    ∃ c' ∈ (command.exec db).2.conversations, c'.id = c.id ∧ c'.participantIds = c.participantIds ∧
      c'.isGroup = c.isGroup ∧ (c'.updatedAt = c.updatedAt ∨ command.touched = some (c.id, c'.updatedAt)) := by
  cases command with
  | insertConversation doc =>
    simp only [ServerCommand.exec]
    split
    · exact ⟨c, member, rfl, rfl, rfl, .inl rfl⟩
    · exact ⟨c, List.mem_append_left _ member, rfl, rfl, rfl, .inl rfl⟩
  | touchConversation id now =>
    have moved : Collection.updateFirst (fun c => decide (c.id = id)) (fun c => { c with updatedAt := now })
        db.conversations =
          db.conversations.map fun c => if decide (c.id = id) then { c with updatedAt := now } else c :=
      Collection.updateFirst_eq_map listable.conversations.ids id (fun _ _ matched => of_decide_eq_true matched) _
    by_cases same : c.id = id
    · refine ⟨{ c with updatedAt := now }, ?_, rfl, rfl, rfl, .inr (by rw [same]; rfl)⟩
      simp only [ServerCommand.exec, Database.setConversations, moved]
      exact List.mem_map.mpr ⟨c, member, if_pos (decide_eq_true same)⟩
    · refine ⟨c, ?_, rfl, rfl, rfl, .inl rfl⟩
      simp only [ServerCommand.exec, Database.setConversations, moved]
      exact List.mem_map.mpr ⟨c, member, if_neg (by simpa using same)⟩
  | insertMessage doc =>
    simp only [ServerCommand.exec]
    split <;> exact ⟨c, member, rfl, rfl, rfl, .inl rfl⟩
  | insertDevice doc =>
    simp only [ServerCommand.exec]
    split <;> exact ⟨c, member, rfl, rfl, rfl, .inl rfl⟩
  | _ => exact ⟨c, member, rfl, rfl, rfl, .inl rfl⟩

/-- A user stays a participant of a thread. -/
theorem exec_participates (command : ServerCommand γ) (listable : db.ListableRows)
    (after : (command.exec db).2.ListableRows) {userId conversationId : String} {conv : ConversationDocument}
    (participates : db.Participates userId conversationId conv) :
    ∃ conv', (command.exec db).2.Participates userId conversationId conv' := by
  obtain ⟨thread, member⟩ := participates
  obtain ⟨nonblank, found, direct⟩ := directThread_eq_some.mp thread
  obtain ⟨held, named⟩ := (Collection.find_key listable.conversations.ids).mp found
  obtain ⟨conv', held', same, participants, group, -⟩ := exec_conversation command listable held
  refine ⟨conv', directThread_eq_some.mpr ⟨nonblank, ?_, group.trans direct⟩, participants ▸ member⟩
  exact (Collection.find_key after.conversations.ids).mpr ⟨held', same.trans named⟩

end Commands

end MessagingSystem.Source.Server
