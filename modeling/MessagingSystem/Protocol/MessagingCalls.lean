import MessagingSystem.Protocol.ServiceCalls

/-!
# Sends and receipt events of guests and registered users

Sends and receipt events of any users run interleaved, one store command a step, and any
command may fail. No account changes its kind while they do, and the others' commands only
add threads and messages, or change a thread's activity time and the receipts of a message.
-/
namespace MessagingSystem.Protocol
open Foundation Source.Server

def messagingCalls : Calls ServerCommand AppError Unit Database SocketCall where
  program := SocketCall.program
  exec := ServerCommand.exec
  mayFail _ := True

section Kinds

/-- Whether the account is a guest's. -/
def kindOf (users : List UserDocument) (userId : String) : Option Bool :=
  (users.find? fun u => u.id = userId).map UserDocument.isGuest

/-- Two guests or two registered users, as far as their accounts exist. -/
def SameKind (users : List UserDocument) (a b : String) : Prop :=
  ∀ g h, kindOf users a = some g → kindOf users b = some h → g = h

variable {users : List UserDocument}

theorem SameKind.refl (a : String) : SameKind users a a := by
  intro g h first second
  exact Option.some.inj (first.symm.trans second)

theorem SameKind.symm {a b : String} (same : SameKind users a b) : SameKind users b a :=
  fun g h first second => (same h g second first).symm

/-- The check before a send: both accounts are there, and of one kind. -/
theorem SameKind.of_found {a b : String} {ua ub : UserDocument} (foundA : users.find? (fun u => u.id = a) = some ua)
    (foundB : users.find? (fun u => u.id = b) = some ub) (same : ua.isGuest = ub.isGuest) : SameKind users a b := by
  intro g h first second
  simp only [kindOf, foundA, foundB, Option.map_some, Option.some.injEq] at first second
  exact first.symm.trans (same.trans second)

end Kinds

section Store

/-- The user that the body of a broker message comes from: of a receipt, of the sender's echo, of a message. -/
def authorOf (body : Json) : Option String :=
  (Json.asObject (some body)).bind fun members =>
    match Json.asObject (Json.member members "data"), Json.asObject (Json.member members "message") with
    | some data, _ => Json.asString (Json.member data "userId")
    | none, some message => Json.asString (Json.member message "senderId")
    | none, none => Json.asString (Json.member members "senderId")

/-- A broker message for a user comes from an account of the same kind. -/
def Permitted (users : List UserDocument) (entry : String × Json) : Prop :=
  ∀ reader author, (entry.1 = "message.user." ++ reader ∨ entry.1 = "message.receipt." ++ reader) →
    authorOf entry.2 = some author → SameKind users reader author

/-- No thread joins a guest and a registered user, no message of the one is in a thread of the other, and
nothing of the one is sent to the other. -/
structure Separated (db : Database) : Prop where
  threads : ∀ c ∈ db.conversations, c.isGroup = false → ∀ p ∈ c.participantIds, ∀ q ∈ c.participantIds,
    SameKind db.users p q
  messages : ∀ m ∈ db.messages, ∃ c ∈ db.conversations, c.id = m.conversationId ∧ c.isGroup = false ∧
    ∀ p ∈ c.participantIds, SameKind db.users p m.senderId
  published : ∀ entry ∈ db.published, Permitted db.users entry

/-- Ids are unique, user ids have no bar, and the thread of a pair key is one of its two users' kind. -/
structure PlainStore (db : Database) : Prop where
  ids : (db.conversations.map ConversationDocument.id).Nodup
  users : ∀ u ∈ db.users, '|' ∉ u.id.toList
  keyed : ∀ c ∈ db.conversations, c.isGroup = false → ∀ a b, '|' ∉ a.toList → '|' ∉ b.toList →
    c.directPairKey = some (directPairKey a b) → ∀ p ∈ c.participantIds, SameKind db.users p a

structure Sandboxed (db : Database) : Prop where
  separated : Separated db
  plain : PlainStore db

/-- Runs from any store in which guests are apart from registered users. -/
abbrev MessagingPool := Pool ServerCommand AppError Unit Database SocketCall

def messagingMachine : Machine MessagingPool (PoolEvent SocketCall AppError) := messagingCalls.machine Sandboxed

/-- The thread is stored, whatever its activity time is. -/
def Stored (c : ConversationDocument) (db : Database) : Prop :=
  ∃ c' ∈ db.conversations, c'.id = c.id ∧ c'.isGroup = c.isGroup ∧ c'.participantIds = c.participantIds

/-- What the other calls may do in between. -/
structure KeepsApart (db db' : Database) : Prop where
  users : db'.users = db.users
  threads : ∀ c, Stored c db → Stored c db'
  sandboxed : Sandboxed db → Sandboxed db'

/-- A command that the others allow for. -/
def Apart {δ : Type} (c : ServerCommand δ) (db : Database) : Prop := KeepsApart db (c.exec db).2

theorem KeepsApart.refl (db : Database) : KeepsApart db db := ⟨rfl, fun _ stored => stored, id⟩

theorem KeepsApart.trans {a b c : Database} (first : KeepsApart a b) (second : KeepsApart b c) : KeepsApart a c :=
  ⟨second.users.trans first.users, fun d stored => second.threads d (first.threads d stored),
    fun kept => second.sandboxed (first.sandboxed kept)⟩

variable {db db' : Database}

/-- A step that leaves users, threads, messages and publications as they are. -/
theorem KeepsApart.of_same (users : db'.users = db.users) (threads : db'.conversations = db.conversations)
    (messages : db'.messages = db.messages) (published : db'.published = db.published) : KeepsApart db db' where
  users := users
  threads c stored := by
    unfold Stored
    rw [threads]
    exact stored
  sandboxed kept := by
    obtain ⟨⟨apart, sent, told⟩, ids, plain, keyed⟩ := kept
    refine ⟨⟨?_, ?_, ?_⟩, ?_, ?_, ?_⟩ <;> simp only [users, threads, messages, published]
    · exact apart
    · exact sent
    · exact told
    · exact ids
    · exact plain
    · exact keyed

/-- An update of messages that keeps their thread and their sender. -/
theorem KeepsApart.updateMessages {filter : MessageDocument → Bool} {update : MessageDocument → MessageDocument}
    (sameThread : ∀ m, (update m).conversationId = m.conversationId) (sameSender : ∀ m, (update m).senderId = m.senderId) :
    KeepsApart db (db.setMessages (Collection.updateFirst filter update db.messages)) where
  users := rfl
  threads _ stored := stored
  sandboxed kept := by
    refine ⟨⟨kept.separated.threads, fun m member => ?_, kept.separated.published⟩, kept.plain.ids, kept.plain.users,
      kept.plain.keyed⟩
    rcases Collection.mem_updateFirst member with old | ⟨m, held, rfl⟩
    · exact kept.separated.messages m old
    · obtain ⟨c, stored, thread, direct, kinds⟩ := kept.separated.messages m held
      refine ⟨c, stored, thread.trans (sameThread m).symm, direct, fun p listed => ?_⟩
      rw [sameSender]
      exact kinds p listed

/-- The activity time of a thread changes. -/
theorem KeepsApart.touch (id : String) (now : Nat) : Apart (.touchConversation id now) db := by
  have touched : ∀ c', c' ∈ Collection.updateFirst (fun c : ConversationDocument => c.id = id)
      (fun c => { c with updatedAt := now }) db.conversations →
      ∃ c ∈ db.conversations, c'.id = c.id ∧ c'.isGroup = c.isGroup ∧ c'.participantIds = c.participantIds ∧
        c'.directPairKey = c.directPairKey := by
    intro c' member
    rcases Collection.mem_updateFirst member with old | ⟨c, held, rfl⟩
    · exact ⟨c', old, rfl, rfl, rfl, rfl⟩
    · exact ⟨c, held, rfl, rfl, rfl, rfl⟩
  have remains : ∀ c ∈ db.conversations, ∃ c' ∈ Collection.updateFirst (fun c : ConversationDocument => c.id = id)
      (fun c => { c with updatedAt := now }) db.conversations,
      c'.id = c.id ∧ c'.isGroup = c.isGroup ∧ c'.participantIds = c.participantIds := by
    intro c held
    have same := Collection.map_key_updateFirst (fun c : ConversationDocument => (c.id, c.isGroup, c.participantIds))
      (fun c => c.id = id) (fun c => { c with updatedAt := now }) (fun _ => rfl) db.conversations
    have listed := List.mem_map_of_mem (f := fun c : ConversationDocument => (c.id, c.isGroup, c.participantIds)) held
    rw [← same] at listed
    obtain ⟨c', member, same⟩ := List.mem_map.mp listed
    simp only [Prod.mk.injEq] at same
    exact ⟨c', member, same⟩
  refine ⟨rfl, ?_, fun kept => ⟨⟨?_, ?_, kept.separated.published⟩, ?_, kept.plain.users, ?_⟩⟩
  · rintro c ⟨c', held, sameId, sameKind, sameUsers⟩
    obtain ⟨c'', member, sameId', sameKind', sameUsers'⟩ := remains c' held
    exact ⟨c'', member, sameId'.trans sameId, sameKind'.trans sameKind, sameUsers'.trans sameUsers⟩
  · intro c' member direct
    obtain ⟨c, held, -, kind, users, -⟩ := touched c' member
    rw [users]
    exact kept.separated.threads c held (kind.symm.trans direct)
  · intro m member
    obtain ⟨c, held, thread, direct, kinds⟩ := kept.separated.messages m member
    obtain ⟨c', member', sameId, sameKind, sameUsers⟩ := remains c held
    exact ⟨c', member', sameId.trans thread, sameKind.trans direct, by rw [sameUsers]; exact kinds⟩
  · show (Collection.updateFirst _ _ db.conversations |>.map ConversationDocument.id).Nodup
    have same := Collection.map_key_updateFirst ConversationDocument.id (fun c => c.id = id)
      (fun c => { c with updatedAt := now }) (fun _ => rfl) db.conversations
    rw [same]
    exact kept.plain.ids
  · intro c' member direct a b plainA plainB key
    obtain ⟨c, held, -, kind, users, pair⟩ := touched c' member
    rw [users]
    exact kept.plain.keyed c held (kind.symm.trans direct) a b plainA plainB (pair.symm.trans key)

/-- Commands that neither add a thread or a message nor publish. -/
def Harmless {δ : Type} : ServerCommand δ → Prop
  | .insertConversation _ => False
  | .insertMessage _ => False
  | .publish .. => False
  | _ => True

theorem Harmless.apart {δ : Type} {c : ServerCommand δ} (harmless : Harmless c) : Apart c db := by
  cases c with
  | insertConversation doc => exact harmless.elim
  | insertMessage doc => exact harmless.elim
  | publish routingKey body => exact harmless.elim
  | touchConversation id now => exact .touch id now
  | setMessageKey messageId conversationIds source target key =>
    exact .updateMessages (fun _ => rfl) fun _ => rfl
  | setReceipt kind messageId userId at' => exact .updateMessages (fun _ => rfl) fun _ => rfl
  | insertDevice doc =>
    unfold Apart
    simp only [ServerCommand.exec]
    split
    · exact .of_same rfl rfl rfl rfl
    · exact .refl db
  | _ => exact .of_same rfl rfl rfl rfl

/-- A broker message that is permitted may be sent. -/
theorem apart_publish {entry : String × Json} (permitted : Permitted db.users entry) :
    Apart (.publish entry.1 entry.2) db where
  users := rfl
  threads _ stored := stored
  sandboxed kept := by
    refine ⟨⟨kept.separated.threads, kept.separated.messages, fun other member => ?_⟩, kept.plain.ids, kept.plain.users,
      kept.plain.keyed⟩
    rcases List.mem_append.mp member with old | new
    · exact kept.separated.published other old
    · obtain rfl := List.mem_singleton.mp new
      exact permitted

/-- A message may be stored in a direct thread of its sender's kind. -/
theorem apart_insertMessage {doc : MessageDocument} {conv : ConversationDocument} (stored : Stored conv db)
    (thread : conv.id = doc.conversationId) (direct : conv.isGroup = false)
    (kinds : ∀ p ∈ conv.participantIds, SameKind db.users p doc.senderId) : Apart (.insertMessage doc) db := by
  unfold Apart
  simp only [ServerCommand.exec]
  cases inserted : Collection.insertUnique MessageDocument.id doc db.messages with
  | none => exact .refl db
  | some messages =>
    refine ⟨rfl, fun _ kept => kept, fun kept => ⟨⟨kept.separated.threads, fun m member => ?_, kept.separated.published⟩,
      kept.plain.ids, kept.plain.users, kept.plain.keyed⟩⟩
    have appended : messages = db.messages ++ [doc] := by
      unfold Collection.insertUnique at inserted
      split at inserted
      · cases inserted
      · exact (Option.some.inj inserted).symm
    change m ∈ messages at member
    rw [appended] at member
    rcases List.mem_append.mp member with old | new
    · exact kept.separated.messages m old
    · obtain rfl := List.mem_singleton.mp new
      obtain ⟨c, held, sameId, sameKind, sameUsers⟩ := stored
      exact ⟨c, held, sameId.trans thread, sameKind.trans direct, by rw [sameUsers]; exact kinds⟩

/-- The new thread of two accounts of one kind. -/
structure NewThread (users : List UserDocument) (a b : String) (doc : ConversationDocument) : Prop where
  key : doc.directPairKey = some (directPairKey a b)
  participants : doc.participantIds = [(EcmaText.sortPair a b).1, (EcmaText.sortPair a b).2]
  plain : '|' ∉ a.toList ∧ '|' ∉ b.toList
  same : SameKind users a b

theorem NewThread.kinds {users : List UserDocument} {a b : String} {doc : ConversationDocument}
    (thread : NewThread users a b doc) : ∀ p ∈ doc.participantIds, SameKind users p a ∧ SameKind users p b := by
  intro p member
  rw [thread.participants] at member
  rcases EcmaText.mem_sortPair member with rfl | rfl
  · exact ⟨.refl p, thread.same⟩
  · exact ⟨thread.same.symm, .refl p⟩

/-- A thread of two accounts of one kind may be added. -/
theorem apart_insertConversation {doc : ConversationDocument} {a b : String} (thread : NewThread db.users a b doc) :
    Apart (.insertConversation doc) db := by
  unfold Apart
  simp only [ServerCommand.exec]
  cases clash : db.conversations.any (Database.conflictsWith doc) with
  | true =>
    rw [if_pos rfl]
    exact .refl db
  | false =>
    rw [if_neg (by simp)]
    have freshId : ∀ c ∈ db.conversations, c.id ≠ doc.id := by
      intro c held same
      have clear := List.any_eq_false.mp clash c held
      simp [Database.conflictsWith, same] at clear
    refine ⟨rfl, ?_, fun kept => ⟨⟨?_, ?_, kept.separated.published⟩, ?_, kept.plain.users, ?_⟩⟩
    · rintro c ⟨c', held, same⟩
      exact ⟨c', List.mem_append_left _ held, same⟩
    · intro c member direct p listed q listed'
      rcases List.mem_append.mp member with old | new
      · exact kept.separated.threads c old direct p listed q listed'
      · obtain rfl := List.mem_singleton.mp new
        have first := thread.kinds p listed
        rw [thread.participants] at listed'
        rcases EcmaText.mem_sortPair listed' with rfl | rfl
        · exact first.1
        · exact first.2
    · intro m member
      obtain ⟨c, held, rest⟩ := kept.separated.messages m member
      exact ⟨c, List.mem_append_left _ held, rest⟩
    · simp only [Database.setConversations, List.map_append, List.map_cons, List.map_nil]
      refine List.nodup_append.mpr ⟨kept.plain.ids, List.nodup_singleton _, ?_⟩
      intro id old other new
      obtain rfl := List.mem_singleton.mp new
      obtain ⟨c, held, rfl⟩ := List.mem_map.mp old
      exact freshId c held
    · intro c member direct x y plainX plainY key p listed
      rcases List.mem_append.mp member with old | new
      · exact kept.plain.keyed c old direct x y plainX plainY key p listed
      · obtain rfl := List.mem_singleton.mp new
        have pair := directPairKey_inj thread.plain.1 thread.plain.2 plainX plainY
          (Option.some.inj (thread.key.symm.trans key))
        have kinds := thread.kinds p listed
        have isOne : x = a ∨ x = b := by
          apply EcmaText.mem_sortPair
          rw [pair]
          rcases EcmaText.sortPair_cases x y with sorted | sorted
          · simp [sorted]
          · simp [sorted]
        rcases isOne with rfl | rfl
        · exact kinds.1
        · exact kinds.2

end Store

end MessagingSystem.Protocol
