import MessagingSystem.Foundation.Transition
import MessagingSystem.Source.Server.SendOutcomes

/-!
# The expiry of guest threads and messages

Sends between guests at any times, with MongoDB deleting what has passed its
date. A message gets its own date, its thread only the date of the send that
created it: a message outlives its thread unless each later send comes no later
than the first one.
-/
namespace MessagingSystem.Guarantees.GuestExpiry
open Foundation Source.Server

/-- The TTL index deletes a document with this date by `now`. -/
def isExpired (now : Nat) (guestDataExpiresAt : Option Nat) : Bool :=
  guestDataExpiresAt.any fun date => date ≤ now

/-- A document with the first date lasts as long as one with the second. -/
def lastsFor (thread message : Option Nat) : Bool :=
  match thread, message with
  | none, _ => true
  | some _, none => false
  | some date, some other => other ≤ date

/-- The store after the TTL indexes have been served. -/
def swept (now : Nat) (db : Database) : Database :=
  { db with
    conversations := db.conversations.filter fun c => !isExpired now c.guestDataExpiresAt
    messages := db.messages.filter fun m => !isExpired now m.guestDataExpiresAt }

inductive GuestEvent where
  | send (sender : UserId) (payload : SendMessageRequest) (stamp : SendStamp)
      (originSocketId : Option String)
  | sweep (now : Nat)
  | userExpires (id : String)

def GuestEvent.after (db : Database) : GuestEvent → Database
  | .send sender payload stamp originSocketId =>
      (ServerProgram.exec (sendMessageForUser sender.val payload stamp originSocketId) db).2
  | .sweep now => swept now db
  | .userExpires id => { db with users := db.users.filter fun u => u.id ≠ id }

/-- Every message belongs to a conversation that is still stored. -/
def NoOrphans (db : Database) : Prop :=
  ∀ m ∈ db.messages, ∃ c ∈ db.conversations, c.id = m.conversationId

/-- No conversation expires before one of its messages. -/
def ThreadsOutlast (db : Database) : Prop :=
  ∀ m ∈ db.messages, ∀ c ∈ db.conversations, c.id = m.conversationId →
    lastsFor c.guestDataExpiresAt m.guestDataExpiresAt = true

/-- The expiry law of the two collections. -/
structure ExpiryLaw (db : Database) : Prop where
  noOrphans : NoOrphans db
  outlast : ThreadsOutlast db

/-- A store of guests with the TTL on. -/
structure GuestStore (db : Database) : Prop where
  guests : ∀ u ∈ db.users, u.isGuest = true
  ttl : db.runtimeConfig.guestDataTtlEnabled = true
  threadIds : (db.conversations.map ConversationDocument.id).Nodup

/-- The message id a send draws is new. -/
def FreshMessage (db : Database) : GuestEvent → Prop
  | .send _ _ stamp _ => stamp.messageUuid ∉ db.messages.map MessageDocument.id
  | _ => True

def guestMachine : Machine Database GuestEvent where
  init db := GuestStore db ∧ ExpiryLaw db
  step db event db' := FreshMessage db event ∧ db' = event.after db

abbrev GuestTransition := Transition Database GuestEvent

/-- The date a send of two guests computes. -/
def expiryOf (stamp : SendStamp) : Nat := stamp.now + stamp.guestDataTtlSeconds * 1000

/-- A send that succeeds creates its conversation, or finds one that lasts as
long as what is stored now. -/
def sendsInTime (t : GuestTransition) : Bool :=
  match t.label with
  | .send sender payload stamp originSocketId =>
      match (ServerProgram.exec (sendMessageForUser sender.val payload stamp originSocketId) t.source).1 with
      | .ok _ => (t.source.existingThread sender.val payload).all fun c =>
          lastsFor c.guestDataExpiresAt (some (expiryOf stamp))
      | .error _ => true
  | _ => true

variable {db : Database}

/-- What the sweep leaves of a message's thread. -/
theorem swept_law (law : ExpiryLaw db) (now : Nat) : ExpiryLaw (swept now db) := by
  constructor
  · intro m held
    obtain ⟨stored, lives⟩ := List.mem_filter.mp held
    obtain ⟨c, listed, same⟩ := law.noOrphans m stored
    refine ⟨c, List.mem_filter.mpr ⟨listed, ?_⟩, same⟩
    have lasts := law.outlast m stored c listed same
    cases date : c.guestDataExpiresAt with
    | none => rfl
    | some thread =>
      cases other : m.guestDataExpiresAt with
      | none => simp [lastsFor, date, other] at lasts
      | some message =>
        simp only [lastsFor, date, other, decide_eq_true_eq] at lasts
        simp only [isExpired, other, Option.any_some, Bool.not_eq_true', decide_eq_false_iff_not] at lives
        simp only [isExpired, Option.any_some, Bool.not_eq_true', decide_eq_false_iff_not]
        omega
  · intro m held c listed same
    exact law.outlast m (List.mem_filter.mp held).1 c (List.mem_filter.mp listed).1 same

/-- The two forms of the law: threads outlast their messages exactly when no
sweep leaves an orphan. -/
theorem outlast_iff_no_orphans (threadIds : (db.conversations.map ConversationDocument.id).Nodup)
    (noOrphans : NoOrphans db) : ThreadsOutlast db ↔ ∀ now, NoOrphans (swept now db) := by
  constructor
  · intro outlast now
    exact (swept_law ⟨noOrphans, outlast⟩ now).noOrphans
  · intro swept m held c listed same
    -- a message that outlives the thread is an orphan at the thread's date
    have dies : ∀ date, c.guestDataExpiresAt = some date → isExpired date m.guestDataExpiresAt = true := by
      intro date expires
      by_contra alive
      have kept : m ∈ (GuestExpiry.swept date db).messages :=
        List.mem_filter.mpr ⟨held, by simpa using alive⟩
      obtain ⟨c', stays, named⟩ := swept date m kept
      obtain ⟨stored, lives⟩ := List.mem_filter.mp stays
      obtain rfl := Collection.eq_of_key threadIds stored listed (named.trans same.symm)
      simp [isExpired, expires] at lives
    cases date : c.guestDataExpiresAt with
    | none => rfl
    | some thread =>
      have gone := dies thread date
      cases other : m.guestDataExpiresAt with
      | none => simp [isExpired, other] at gone
      | some message => simpa [isExpired, other, lastsFor] using gone

section Dates

/-- The ids of the conversations with their dates. -/
def threadDates (db : Database) : List (String × Option Nat) :=
  db.conversations.map fun c => (c.id, c.guestDataExpiresAt)

/-- The law, told by the dates. -/
theorem expiryLaw_iff : ExpiryLaw db ↔ ∀ m ∈ db.messages,
    (∃ thread ∈ threadDates db, thread.1 = m.conversationId) ∧
      ∀ thread ∈ threadDates db, thread.1 = m.conversationId →
        lastsFor thread.2 m.guestDataExpiresAt = true := by
  constructor
  · rintro ⟨noOrphans, outlast⟩ m held
    obtain ⟨c, stored, same⟩ := noOrphans m held
    refine ⟨⟨_, List.mem_map_of_mem stored, same⟩, fun thread listed named => ?_⟩
    obtain ⟨d, stored', rfl⟩ := List.mem_map.mp listed
    exact outlast m held d stored' named
  · intro law
    constructor
    · intro m held
      obtain ⟨⟨thread, listed, named⟩, -⟩ := law m held
      obtain ⟨c, stored, rfl⟩ := List.mem_map.mp listed
      exact ⟨c, stored, named⟩
    · intro m held c stored named
      exact (law m held).2 _ (List.mem_map_of_mem stored) named

theorem threadDates_messageSent (recipientUserId : String) (doc : MessageDocument)
    (originSocketId : Option String) :
    threadDates (db.messageSent recipientUserId doc originSocketId) = threadDates db :=
  Collection.map_key_updateFirst _ _ (ConversationDocument.touched doc.createdAt) (fun _ => rfl) _

/-- A message keeps the law exactly when its thread lasts as long. -/
theorem messageSent_law_iff (threadIds : (db.conversations.map ConversationDocument.id).Nodup)
    (law : ExpiryLaw db) {conv : ConversationDocument} (stored : conv ∈ db.conversations)
    (recipientUserId : String) (doc : MessageDocument) (named : doc.conversationId = conv.id)
    (originSocketId : Option String) :
    ExpiryLaw (db.messageSent recipientUserId doc originSocketId) ↔
      lastsFor conv.guestDataExpiresAt doc.guestDataExpiresAt = true := by
  rw [expiryLaw_iff] at law ⊢
  rw [threadDates_messageSent]
  have messages : (db.messageSent recipientUserId doc originSocketId).messages = db.messages ++ [doc] := rfl
  rw [messages]
  constructor
  · intro after
    exact (after doc (by simp)).2 _ (List.mem_map_of_mem stored) named.symm
  · intro lasts m held
    rcases List.mem_append.mp held with old | new
    · exact law m old
    · obtain rfl := List.mem_singleton.mp new
      refine ⟨⟨_, List.mem_map_of_mem stored, named.symm⟩, fun thread listed same => ?_⟩
      obtain ⟨c, stored', rfl⟩ := List.mem_map.mp listed
      obtain rfl := Collection.eq_of_key threadIds stored' stored (same.trans named)
      exact lasts

end Dates

section Send

/-- A user that is looked up is a guest. -/
theorem GuestStore.isGuest (store : GuestStore db) {id : String}
    (known : (db.lookedUpUser id).isSome = true) : (db.lookedUpUser id).any (fun u => u.isGuest) = true := by
  obtain ⟨u, found⟩ := Option.isSome_iff_exists.mp known
  rw [found]
  exact store.guests u (lookedUpUser_mem found).1

/-- The date of a message between known guests. -/
theorem guestExpiry_of_guests (store : GuestStore db) (stamp : SendStamp) {senderId recipientId : String}
    (sender : (db.lookedUpUser senderId).isSome = true)
    (recipient : (db.lookedUpUser recipientId).isSome = true) :
    db.guestExpiry stamp senderId recipientId = some (expiryOf stamp) := by
  simp only [Database.guestExpiry, store.isGuest sender, store.isGuest recipient, Bool.and_true, if_true,
    computeGuestDataExpiresAt, store.ttl, expiryOf]

/-- A new thread keeps the law of the messages there are. -/
theorem law_with_thread (law : ExpiryLaw db) {doc : ConversationDocument}
    (free : db.conversations.any (Database.conflictsWith doc) = false) :
    ExpiryLaw (db.setConversations (db.conversations ++ [doc])) := by
  constructor
  · intro m held
    obtain ⟨c, stored, same⟩ := law.noOrphans m held
    exact ⟨c, List.mem_append_left _ stored, same⟩
  · intro m held c stored same
    rcases List.mem_append.mp stored with old | new
    · exact law.outlast m held c old same
    · obtain rfl := List.mem_singleton.mp new
      obtain ⟨d, stored', named⟩ := law.noOrphans m held
      have clash := List.any_eq_false.mp free d stored'
      simp [Database.conflictsWith, same, named] at clash

/-- The law after a send, from the law before. -/
theorem send_law_iff (store : GuestStore db) (law : ExpiryLaw db) (sender : UserId)
    (payload : SendMessageRequest) (stamp : SendStamp) (originSocketId : Option String)
    (fresh : stamp.messageUuid ∉ db.messages.map MessageDocument.id) :
    sendsInTime ⟨db, .send sender payload stamp originSocketId,
        GuestEvent.after db (.send sender payload stamp originSocketId)⟩ = true ↔
      ExpiryLaw (GuestEvent.after db (.send sender payload stamp originSocketId)) := by
  unfold sendsInTime GuestEvent.after
  dsimp only
  rcases sendMessageForUser_rejectedOr store.threadIds sender fresh with
    ⟨e, failed⟩ | ⟨doc, after, ran, known, conv, resolved, recipientUserId, listed, thread, rfl, rfl⟩
  · rw [failed]
    exact iff_of_true rfl law
  · rw [ran]
    have knownSender : (db.lookedUpUser sender.val).isSome = true := by
      obtain ⟨u, held, same⟩ := known
      unfold Database.lookedUpUser
      rw [sender.trim_val, if_neg sender.nonempty]
      exact List.find?_isSome.mpr ⟨u, held, by simpa using same⟩
    have date := guestExpiry_of_guests store stamp knownSender listed
    rw [date] at thread ⊢
    have threadIds := thread.threadIds store.threadIds
    cases thread with
    | named conv joined stored direct member =>
      rw [joined]
      exact (messageSent_law_iff threadIds law stored recipientUserId
        (newMessage conv.id sender.val payload stamp (some (expiryOf stamp))) rfl originSocketId).symm
    | held conv recipient joined _ stored direct pair =>
      rw [joined]
      exact (messageSent_law_iff threadIds law stored recipientUserId
        (newMessage conv.id sender.val payload stamp (some (expiryOf stamp))) rfl originSocketId).symm
    | created recipient _ different missing free =>
      rw [missing]
      refine iff_of_true rfl ((messageSent_law_iff threadIds (law_with_thread law free)
        (List.mem_append_right _ (List.mem_singleton_self _)) recipientUserId _ rfl originSocketId).mpr ?_)
      simp [newDirectThread, newMessage, lastsFor]

theorem send_keeps_store (store : GuestStore db) (sender : UserId)
    (payload : SendMessageRequest) (stamp : SendStamp) (originSocketId : Option String)
    (fresh : stamp.messageUuid ∉ db.messages.map MessageDocument.id) :
    GuestStore (GuestEvent.after db (.send sender payload stamp originSocketId)) := by
  unfold GuestEvent.after
  dsimp only
  rcases sendMessageForUser_rejectedOr store.threadIds sender fresh with
    ⟨e, failed⟩ | ⟨doc, after, ran, known, conv, resolved, recipientUserId, listed, thread, rfl, rfl⟩
  · rw [failed]
    exact store
  · rw [ran]
    have threadIds := thread.threadIds store.threadIds
    have kept : resolved.users = db.users ∧ resolved.runtimeConfig = db.runtimeConfig := by
      cases thread <;> exact ⟨rfl, rfl⟩
    refine ⟨?_, ?_, ?_⟩
    · exact fun u held => store.guests u (kept.1 ▸ held)
    · exact (congrArg _ kept.2).trans store.ttl
    · rw [Database.messageSent]
      dsimp only
      rw [Collection.map_key_updateFirst ConversationDocument.id _ (ConversationDocument.touched _)
        fun _ => rfl]
      exact threadIds

end Send

/-- No message is orphaned, at any moment of a run, exactly when every send
that finds its conversation comes early enough for its date. -/
theorem no_orphans_iff {start final : Database} {history : List GuestTransition}
    (init : guestMachine.init start) (run : guestMachine.Run start history final) :
    (∀ t ∈ history, sendsInTime t = true) ↔
      (∀ t ∈ history, NoOrphans t.target ∧ ThreadsOutlast t.target) := by
  have both : ∀ db, NoOrphans db ∧ ThreadsOutlast db ↔ ExpiryLaw db :=
    fun db => ⟨fun h => ⟨h.1, h.2⟩, fun h => ⟨h.1, h.2⟩⟩
  simp only [both]
  refine run.forall_target_iff ?_ ?_ init.1 init.2
  · rintro db event db' store ⟨fresh, rfl⟩
    cases event with
    | send sender payload stamp originSocketId =>
      exact send_keeps_store store sender payload stamp originSocketId fresh
    | sweep now =>
      exact ⟨store.guests, store.ttl, store.threadIds.sublist (List.filter_sublist.map _)⟩
    | userExpires id =>
      exact ⟨fun u held => store.guests u (List.mem_filter.mp held).1, store.ttl, store.threadIds⟩
  · rintro db event db' store law ⟨fresh, rfl⟩
    cases event with
    | send sender payload stamp originSocketId =>
      exact send_law_iff store law sender payload stamp originSocketId fresh
    | sweep now => exact iff_of_true rfl (swept_law law now)
    | userExpires id => exact iff_of_true rfl ⟨law.noOrphans, law.outlast⟩

section Runs

theorem guest_trimmed : EcmaText.Trimmed "g1" := by decide

theorem guest_nonempty : "g1" ≠ "" := by decide

def firstGuest : UserId := ⟨"g1", guest_trimmed, guest_nonempty⟩

/-- Two guests without a thread. -/
def twoGuests : Database :=
  { users := [⟨"g1", true, none⟩, ⟨"g2", true, none⟩] }

theorem twoGuests_init : guestMachine.init twoGuests := by
  refine ⟨⟨by simp [twoGuests], rfl, List.nodup_nil⟩, ?_, ?_⟩
  · exact fun m held => (List.not_mem_nil held).elim
  · exact fun m held => (List.not_mem_nil held).elim

/-- A message to the other guest at a time, with a horizon of one second. -/
def greets (conversationUuid messageUuid : String) (now : Nat) : GuestEvent :=
  .send firstGuest { recipientUserId := .value "g2", body := .value "hi" }
    ⟨conversationUuid, messageUuid, now, 1⟩ none

/-- The step of an event whose message id is new. -/
def served (db : Database) (event : GuestEvent) : Option Database :=
  match event with
  | .send _ _ stamp _ =>
      if stamp.messageUuid ∈ db.messages.map MessageDocument.id then none else some (event.after db)
  | _ => some (event.after db)

theorem served_step (db : Database) (event : GuestEvent) (db' : Database)
    (taken : served db event = some db') : guestMachine.step db event db' := by
  cases event with
  | send sender payload stamp originSocketId =>
    simp only [served] at taken
    split at taken
    · cases taken
    · rename_i fresh
      exact ⟨fresh, (Option.some.inj taken).symm⟩
  | sweep now => exact ⟨trivial, (Option.some.inj taken).symm⟩
  | userExpires id => exact ⟨trivial, (Option.some.inj taken).symm⟩

/-- One message, swept with its thread. -/
theorem no_orphans_first_message :
    ∃ history final, guestMachine.Run twoGuests history final ∧
      (history.map fun t => (t.target.messages.length, t.target.conversations.length)) = [(1, 1), (0, 0)] ∧
      ∀ t ∈ history, NoOrphans t.target ∧ ThreadsOutlast t.target := by
  have checked : (Machine.trace served twoGuests [greets "c1" "m1" 0, .sweep 1000]).any (fun executed =>
      decide ((executed.1.map fun t => (t.target.messages.length, t.target.conversations.length)) =
        [(1, 1), (0, 0)]) && executed.1.all sendsInTime) = true := by decide
  obtain ⟨⟨history, final⟩, executed, holds⟩ := (Option.any_eq_true _ _).mp checked
  obtain ⟨swept, inTime⟩ := (Bool.and_eq_true _ _).mp holds
  have run : guestMachine.Run twoGuests history final := Machine.trace_run _ served_step executed
  exact ⟨history, final, run, of_decide_eq_true swept,
    (no_orphans_iff twoGuests_init run).mp (List.all_eq_true.mp inTime)⟩

/-- A second message half a second later is still stored when the thread is gone. -/
theorem later_message_orphaned :
    ¬ ∀ (start final : Database) (history : List GuestTransition), guestMachine.init start →
      guestMachine.Run start history final →
      ∀ t ∈ history, NoOrphans t.target ∧ ThreadsOutlast t.target := by
  intro claim
  have checked : (Machine.trace served twoGuests
      [greets "c1" "m1" 0, greets "c2" "m2" 500, .sweep 1000]).bind (fun executed =>
      executed.1.getLast?.map fun t =>
        (t.target.messages.map MessageDocument.id, t.target.conversations)) = some (["m2"], []) := by decide
  obtain ⟨⟨history, final⟩, executed, last⟩ := Option.bind_eq_some_iff.mp checked
  obtain ⟨t, found, same⟩ := Option.map_eq_some_iff.mp last
  obtain ⟨messages, conversations⟩ := Prod.mk.inj same
  have run : guestMachine.Run twoGuests history final := Machine.trace_run _ served_step executed
  have law := claim twoGuests final history twoGuests_init run t (List.mem_of_getLast? found)
  have stays : "m2" ∈ t.target.messages.map MessageDocument.id := by simp [messages]
  obtain ⟨m, held, -⟩ := List.mem_map.mp stays
  obtain ⟨c, stored, -⟩ := law.1 m held
  rw [conversations] at stored
  cases stored

end Runs

end MessagingSystem.Guarantees.GuestExpiry
