import MessagingSystem.Guarantees.KeySyncProgress
import MessagingSystem.Protocol.KeySyncArrivals

/-!
# A key sync that runs to its end

While other requests store messages, an approval whose requests succeed and whose keys
unwrap reaches every message that had a key of the old device when it began, since a
page begins behind a message and not behind a number of them. It changes nothing but
the slot of the new device, in messages that have a key of the old one.
-/
namespace MessagingSystem.Guarantees.KeySyncComplete
open Foundation Source.Server Source.Client Protocol KeySyncProgress

variable {PublicKey PrivateKey Seed : Type} {crypto : WebCrypto PublicKey PrivateKey Seed}

/-- What a sync for a device may make of a message. -/
structure Touched (target : String) (m m' : MessageDocument) : Prop where
  fields : { m' with encryptedMessageKeys := m.encryptedMessageKeys } = m
  slots : ∀ deviceId, deviceId ≠ target → m'.keyFor deviceId = m.keyFor deviceId

/-- The new device reads with its slot what the old one reads with its own. -/
def CopiedTo (crypto : WebCrypto PublicKey PrivateKey Seed) (own newOwn : PrivateKey) (source target : String)
    (m m' : MessageDocument) : Prop :=
  ∃ key, m'.keyFor target = some key ∧ key ≠ "" ∧
    ∀ messageKey, Unwraps crypto own source m messageKey → unwrapMessageKey crypto key newOwn = .ok messageKey

namespace Touched

variable {target : String} {m m' : MessageDocument}

theorem refl (target : String) (m : MessageDocument) : Touched target m m := ⟨rfl, fun _ _ => rfl⟩

theorem id (touched : Touched target m m') : m'.id = m.id := by
  have same := congrArg MessageDocument.id touched.fields
  exact same

theorem position (touched : Touched target m m') : m'.position = m.position := by
  have same := congrArg MessageDocument.position touched.fields
  exact same

theorem hasKeyFor (touched : Touched target m m') {source : String} (different : source ≠ target) :
    m'.hasKeyFor source = m.hasKeyFor source := by
  unfold MessageDocument.hasKeyFor
  rw [touched.slots source different]

theorem canSync (touched : Touched target m m') {source : String} (different : source ≠ target)
    (conversationIds : List String) :
    Database.canSync conversationIds source m' = Database.canSync conversationIds source m := by
  have conversation := congrArg MessageDocument.conversationId touched.fields
  dsimp only at conversation
  unfold Database.canSync
  rw [touched.hasKeyFor different, conversation]

/-- A batch for the device touches what has been touched. -/
theorem synced (touched : Touched target m m') (conversationIds : List String) (source : String)
    (entries : List (String × String)) : Touched target m (syncedMessage conversationIds source target entries m') := by
  have frame := DeviceKeyIsolation.syncedMessage_frame conversationIds source target entries m'
  refine ⟨?_, fun deviceId other => ?_⟩
  · have both := congrArg (fun doc : MessageDocument =>
      { doc with encryptedMessageKeys := m.encryptedMessageKeys }) frame
    exact both.trans touched.fields
  · rw [DeviceKeyIsolation.keyFor_syncedMessage, if_neg fun both => other both.1]
    exact touched.slots deviceId other

end Touched

theorem canSync_mono {conversationIds more : List String} {source : String} {m : MessageDocument}
    (subset : conversationIds ⊆ more) (eligible : Database.canSync conversationIds source m = true) :
    Database.canSync more source m = true := by
  unfold Database.canSync at eligible ⊢
  rw [Bool.and_eq_true, List.contains_iff_mem] at eligible ⊢
  exact ⟨subset eligible.1, eligible.2⟩

section Store

variable {target source : String} {own newOwn : PrivateKey}

/-- A stored message and what has become of it: it is as it was unless it has a key of the old device. -/
structure Framed (target source : String) (conversationIds : List String) (m m' : MessageDocument) : Prop where
  touched : Touched target m m'
  kept : Database.canSync conversationIds source m = false → m' = m

theorem Framed.refl (target source : String) (conversationIds : List String) (m : MessageDocument) :
    Framed target source conversationIds m m := ⟨Touched.refl target m, fun _ => rfl⟩

theorem Framed.synced {conversationIds : List String} {m m' : MessageDocument}
    (framed : Framed target source conversationIds m m') (different : source ≠ target)
    (entries : List (String × String)) :
    Framed target source conversationIds m (syncedMessage conversationIds source target entries m') := by
  refine ⟨framed.touched.synced conversationIds source entries, fun excluded => ?_⟩
  rw [syncedMessage_of_not_eligible, framed.kept excluded]
  rw [framed.touched.canSync different]
  exact excluded

/-- With more threads the frame is wider. -/
theorem Framed.widen {conversationIds more : List String} {m m' : MessageDocument}
    (framed : Framed target source conversationIds m m') (subset : conversationIds ⊆ more) :
    Framed target source more m m' := by
  refine ⟨framed.touched, fun excluded => framed.kept (Bool.eq_false_iff.mpr fun eligible => ?_)⟩
  rw [canSync_mono subset eligible] at excluded
  cases excluded

end Store

/-- A user's threads stay theirs when others are opened. -/
theorem own_subset_arrive (db : Database) (arrivals : Arrivals) (userId : String) :
    db.ownConversationIds userId ⊆ (arrive db arrivals).ownConversationIds userId := by
  intro id member
  unfold arrive Database.ownConversationIds Database.conversationIdsOf at *
  dsimp only
  rw [List.filter_append, List.map_append, List.filter_append]
  exact List.mem_append_left _ member

/-- The cursor of a page names a message, behind which it begins. -/
def Points (db : Database) (cursor : Option String) (bound : Option (Nat ×ₗ String)) : Prop :=
  (cursor = none ∧ bound = none) ∨ ∃ m ∈ db.messages, EcmaText.trim m.id = m.id ∧ m.id ≠ "" ∧ cursor = some m.id ∧
    bound = some m.position

/-- The messages that the pages so far have passed. -/
def passed (bound : Option (Nat ×ₗ String)) (m : MessageDocument) : Bool :=
  !Keyset.isAfter MessageDocument.position bound m

/-- The messages to come, in the order of the pages. -/
def toCome (a : SyncApproval) (bound : Option (Nat ×ₗ String)) (db : Database) : List MessageDocument :=
  Keyset.after MessageDocument.position bound (db.keyedMessages a.user.val a.source.val)

/-- The page of the first of these messages. -/
def pageOf (source : String) (cap : Nat) (rest : List MessageDocument) : SyncMessageKeysPage where
  items := pageEntries source (rest.take cap)
  hasMore := decide (cap < rest.length)
  nextAfterMessageId := if cap < rest.length then (rest.take cap).getLast?.map MessageDocument.id else none

section Pages

variable {a : SyncApproval} {db db' : Database} {page : SyncMessageKeysPage} {cursor : Option String}
  {bound : Option (Nat ×ₗ String)}

theorem mem_toCome {m : MessageDocument} : m ∈ toCome a bound db ↔ m ∈ db.messages ∧
    Database.canSync (db.ownConversationIds a.user.val) a.source.val m = true ∧ passed bound m = false := by
  unfold toCome Keyset.after passed
  rw [List.mem_filter, Database.mem_keyedMessages, and_assoc, Bool.not_eq_false']

theorem toCome_ordered (wf : db.WellFormed) : Keyset.Ordered MessageDocument.position (toCome a bound db) :=
  (Database.keyedMessages_ordered wf).filter _

theorem toCome_ids (wf : db.WellFormed) : ((toCome a bound db).map MessageDocument.id).Nodup :=
  (Database.keyedMessages_ids wf).sublist (List.filter_sublist.map MessageDocument.id)

theorem toCome_keyed : ∀ doc ∈ toCome a bound db, ∃ envelope, doc.keyFor a.source.val = some envelope := by
  intro doc member
  have eligible := (mem_toCome.mp member).2.1
  unfold Database.canSync MessageDocument.hasKeyFor at eligible
  rw [Bool.and_eq_true] at eligible
  cases held : doc.keyFor a.source.val with
  | none => simp [held] at eligible
  | some envelope => exact ⟨envelope, rfl⟩

/-- A page that is answered holds the messages behind its cursor. -/
theorem listSync_points (wf : db.WellFormed) (points : Points db cursor bound)
    (answered : ServerProgram.exec (listSyncMessageKeysForUserDevice a.user.val a.source.val cursor a.pageLimit) db =
      (.ok page, db')) : db' = db ∧ page = pageOf a.source.val (pageCap a.pageLimit) (toCome a bound db) := by
  have form := syncPage_eq (pageCap a.pageLimit) (@toCome_keyed a db bound)
  have shown : db' = db ∧ page = syncPage a.source.val (pageCap a.pageLimit)
      ((toCome a bound db).take (pageCap a.pageLimit + 1)) := by
    unfold toCome
    rcases listSync_exec wf a.user a.source answered with ⟨same, empty, result⟩ | ⟨bound', db₁, anchored, result⟩
    · rw [empty]
      exact ⟨same, result⟩
    · rcases points with ⟨rfl, rfl⟩ | ⟨m, member, trimmed, nonempty, rfl, rfl⟩
      · cases anchored
        exact result rfl
      · obtain ⟨same, row, named, rfl⟩ := syncAnchor_exec nonempty anchored
        have found : db.findMessageRow m.id = some m := by
          unfold Database.findMessageRow
          exact (Collection.find_key wf.messageIds).mpr ⟨member, rfl⟩
        rw [trimmed, found] at named
        cases named
        exact result same
  exact ⟨shown.1, shown.2.trans form⟩

/-- What is behind the last message of a page is on none of its places. -/
theorem passed_page {rest : List MessageDocument} (ordered : Keyset.Ordered MessageDocument.position rest) {cap : Nat}
    {front : List MessageDocument} {last : MessageDocument} (cut : rest.take cap = front ++ [last])
    {m : MessageDocument} (member : m ∈ rest) :
    passed (some last.position) m = true ↔ m ∈ rest.take cap := by
  have split := List.take_append_drop cap rest
  rw [← split] at ordered
  have parts := List.pairwise_append.mp ordered
  unfold passed Keyset.isAfter
  rw [Bool.not_eq_true', decide_eq_false_iff_not, not_lt]
  constructor
  · intro low
    rw [← split] at member
    rcases List.mem_append.mp member with here | later
    · exact here
    · have above := parts.2.2 last (by rw [cut]; simp) m later
      exact absurd above (not_lt.mpr low)
  · intro here
    have inner := parts.1
    rw [cut] at inner here
    rcases List.mem_append.mp here with before | now
    · exact ((List.pairwise_append.mp inner).2.2 m before last List.mem_cons_self).le
    · rw [List.mem_singleton.mp now]

end Pages

/-- The messages and threads of the first requests of a run. -/
def arrivedMessages (arrivals : Nat → Arrivals) (requests : Nat) : List MessageDocument :=
  (List.range requests).flatMap fun i => (arrivals i).messages

def arrivedConversations (arrivals : Nat → Arrivals) (requests : Nat) : List ConversationDocument :=
  (List.range requests).flatMap fun i => (arrivals i).conversations

/-- The messages that are there when the approval begins, and those that arrive: a finite number, under ids of their
own, whose keys for the old device unwrap. -/
structure Orderly (crypto : WebCrypto PublicKey PrivateKey Seed) (own : PrivateKey) (source : String) (start : Database)
    (arrivals : Nat → Arrivals) (total : Nat) : Prop where
  wf : start.WellFormed
  fresh : ∀ n, ((start.messages ++ arrivedMessages arrivals n).map MessageDocument.id).Nodup
  plain : ∀ n, ∀ m ∈ start.messages ++ arrivedMessages arrivals n, EcmaText.trim m.id = m.id ∧ m.id ≠ ""
  opens : ∀ n, ∀ m ∈ start.messages ++ arrivedMessages arrivals n, m.hasKeyFor source = true →
    rewraps crypto own source m = true
  few : ∀ n, (start.messages ++ arrivedMessages arrivals n).length ≤ total

/-- The store of an approval after some of its requests: what was there has been framed, and the messages that the
pages have passed have been copied. -/
structure Under (crypto : WebCrypto PublicKey PrivateKey Seed) (a : SyncApproval) (own newOwn : PrivateKey)
    (start : Database) (arrivals : Nat → Arrivals) (requests : Nat) (past : MessageDocument → Bool) (db : Database) :
    Prop where
  rest : db = { start with
    conversations := start.conversations ++ arrivedConversations arrivals requests, messages := db.messages }
  images : ∃ front back, db.messages = front ++ back ∧
    List.Forall₂ (fun m m' => Framed a.target.val a.source.val (db.ownConversationIds a.user.val) m m' ∧
      (Database.canSync (start.ownConversationIds a.user.val) a.source.val m = true → past m = true →
        CopiedTo crypto own newOwn a.source.val a.target.val m m')) start.messages front ∧
    List.Forall₂ (Framed a.target.val a.source.val (db.ownConversationIds a.user.val))
      (arrivedMessages arrivals requests) back

section Images

variable {R : MessageDocument → MessageDocument → Prop} {l l' : List MessageDocument}

theorem forall₂_map {β : Type} {f : MessageDocument → β} (same : ∀ m m', R m m' → f m' = f m)
    (images : List.Forall₂ R l l') : l'.map f = l.map f := by
  induction images with
  | nil => rfl
  | cons here later ih => rw [List.map_cons, List.map_cons, same _ _ here, ih]

theorem forall₂_origin (images : List.Forall₂ R l l') {m' : MessageDocument} (member : m' ∈ l') : ∃ m ∈ l, R m m' := by
  induction images with
  | nil => cases member
  | cons here later ih =>
    rcases List.mem_cons.mp member with rfl | tail
    · exact ⟨_, List.mem_cons_self, here⟩
    · obtain ⟨m, held, related⟩ := ih tail
      exact ⟨m, List.mem_cons_of_mem _ held, related⟩

theorem forall₂_image (images : List.Forall₂ R l l') {m : MessageDocument} (member : m ∈ l) : ∃ m' ∈ l', R m m' := by
  induction images with
  | nil => cases member
  | cons here later ih =>
    rcases List.mem_cons.mp member with rfl | tail
    · exact ⟨_, List.mem_cons_self, here⟩
    · obtain ⟨m', held, related⟩ := ih tail
      exact ⟨m', List.mem_cons_of_mem _ held, related⟩

/-- Related elements are elements of the two lists. -/
theorem forall₂_members (images : List.Forall₂ R l l') :
    List.Forall₂ (fun m m' => (m ∈ l ∧ m' ∈ l') ∧ R m m') l l' := by
  induction images with
  | nil => exact .nil
  | cons here later ih =>
    refine .cons ⟨⟨List.mem_cons_self, List.mem_cons_self⟩, here⟩ (ih.imp fun m m' related => ?_)
    exact ⟨⟨List.mem_cons_of_mem _ related.1.1, List.mem_cons_of_mem _ related.1.2⟩, related.2⟩

end Images

namespace Under

variable {a : SyncApproval} {own newOwn : PrivateKey} {start db : Database} {arrivals : Nat → Arrivals}
  {requests total : Nat} {past past' : MessageDocument → Bool}

theorem all (under : Under crypto a own newOwn start arrivals requests past db) :
    List.Forall₂ (Framed a.target.val a.source.val (db.ownConversationIds a.user.val))
      (start.messages ++ arrivedMessages arrivals requests) db.messages := by
  obtain ⟨front, back, messages, first, second⟩ := under.images
  rw [messages]
  exact List.rel_append (first.imp fun _ _ both => both.1) second

theorem wf (under : Under crypto a own newOwn start arrivals requests past db)
    (orderly : Orderly crypto own a.source.val start arrivals total) : db.WellFormed := by
  constructor
  · rw [forall₂_map (fun _ _ framed => framed.touched.id) under.all]
    exact orderly.fresh requests
  · rw [under.rest]
    exact orderly.wf.deviceKeys

theorem length (under : Under crypto a own newOwn start arrivals requests past db)
    (orderly : Orderly crypto own a.source.val start arrivals total) : db.messages.length ≤ total := by
  rw [← under.all.length_eq]
  exact orderly.few requests

theorem plain (under : Under crypto a own newOwn start arrivals requests past db)
    (orderly : Orderly crypto own a.source.val start arrivals total) {m : MessageDocument} (member : m ∈ db.messages) :
    EcmaText.trim m.id = m.id ∧ m.id ≠ "" := by
  obtain ⟨origin, held, framed⟩ := forall₂_origin under.all member
  rw [framed.touched.id]
  exact orderly.plain requests origin held

theorem opens (under : Under crypto a own newOwn start arrivals requests past db)
    (orderly : Orderly crypto own a.source.val start arrivals total) (different : a.source.val ≠ a.target.val)
    {m : MessageDocument} (member : m ∈ db.messages) (keyed : m.hasKeyFor a.source.val = true) :
    rewraps crypto own a.source.val m = true := by
  obtain ⟨origin, held, framed⟩ := forall₂_origin under.all member
  rw [framed.touched.hasKeyFor different] at keyed
  have opened := orderly.opens requests origin held keyed
  unfold rewraps at opened ⊢
  rw [framed.touched.slots _ different]
  exact opened

/-- Fewer messages that are passed. -/
theorem imp (under : Under crypto a own newOwn start arrivals requests past db)
    (fewer : ∀ m ∈ start.messages, Database.canSync (start.ownConversationIds a.user.val) a.source.val m = true →
      past' m = true → past m = true) : Under crypto a own newOwn start arrivals requests past' db := by
  obtain ⟨front, back, messages, first, second⟩ := under.images
  refine ⟨under.rest, front, back, messages, ?_, second⟩
  exact (forall₂_members first).imp fun m m' related => ⟨related.2.1, fun keyed passed =>
    related.2.2 keyed (fewer m related.1.1 keyed passed)⟩

/-- The threads of the user when the approval began are still theirs. -/
theorem own_subset (under : Under crypto a own newOwn start arrivals requests past db) :
    start.ownConversationIds a.user.val ⊆ db.ownConversationIds a.user.val := by
  intro id member
  rw [under.rest]
  unfold Database.ownConversationIds Database.conversationIdsOf at member ⊢
  dsimp only
  rw [List.filter_append, List.map_append, List.filter_append]
  exact List.mem_append_left _ member

/-- Messages and threads arrive. -/
theorem arrives (under : Under crypto a own newOwn start arrivals requests past db) :
    Under crypto a own newOwn start arrivals (requests + 1) past (arrive db (arrivals requests)) := by
  obtain ⟨front, back, messages, first, second⟩ := under.images
  have more := own_subset_arrive db (arrivals requests) a.user.val
  refine ⟨?_, front, back ++ (arrivals requests).messages, ?_, ?_, ?_⟩
  · unfold arrivedConversations
    rw [List.range_succ, List.flatMap_append, List.flatMap_singleton, ← List.append_assoc]
    have rest := under.rest
    unfold arrivedConversations at rest
    unfold arrive
    dsimp only
    rw [rest]
  · unfold arrive
    rw [messages, List.append_assoc]
  · exact first.imp fun m m' both => ⟨both.1.widen more, both.2⟩
  · unfold arrivedMessages
    rw [List.range_succ, List.flatMap_append, List.flatMap_singleton]
    refine List.rel_append (second.imp fun m m' framed => framed.widen more) ?_
    exact List.forall₂_same.mpr fun m _ => Framed.refl _ _ _ m

end Under

section Upload

variable {a : SyncApproval} {own newOwn : PrivateKey} {start db : Database} {arrivals : Nat → Arrivals}
  {requests total : Nat} {past : MessageDocument → Bool} {docs : List MessageDocument}
  {keys : List SyncMessageKeyEntry}

/-- An upload for some of the stored messages passes these. -/
theorem Under.uploads (under : Under crypto a own newOwn start arrivals requests past db)
    (orderly : Orderly crypto own a.source.val start arrivals total) (different : a.source.val ≠ a.target.val)
    (held : ∀ doc ∈ docs, doc ∈ db.messages ∧
      Database.canSync (db.ownConversationIds a.user.val) a.source.val doc = true)
    (distinct : (docs.map MessageDocument.id).Nodup)
    (wrapped : List.Forall₂ (Rewrapped crypto own newOwn a.source.val) docs keys)
    (registered : db.bothRegistered a.user.val a.source.val a.target.val = true) :
    Under crypto a own newOwn start arrivals requests
      (fun m => past m || decide (m.id ∈ docs.map MessageDocument.id))
      (db.batchSynced a.user.val a.source.val a.target.val keys) := by
  have names := Midway.uploaded_ids wrapped
  have trimmed : ∀ k ∈ keys, EcmaText.trim k.messageId = k.messageId ∧ k.messageId ∈ docs.map MessageDocument.id := by
    intro k member
    have named : k.messageId ∈ docs.map MessageDocument.id := by
      rw [← names]
      exact List.mem_map_of_mem member
    obtain ⟨doc, listed, same⟩ := List.mem_map.mp named
    exact ⟨by rw [← same]; exact (under.plain orderly (held doc listed).1).1, named⟩
  have single : (keys.map fun k => EcmaText.trim k.messageId).Nodup := by
    have same : (keys.map fun k => EcmaText.trim k.messageId) = keys.map fun k => k.messageId :=
      List.map_congr_left fun k member => (trimmed k member).1
    rw [same, names]
    exact distinct
  have ids := (under.wf orderly).messageIds
  have synced : db.batchSynced a.user.val a.source.val a.target.val keys = db.setMessages (db.messages.map
      (syncedMessage (db.ownConversationIds a.user.val) a.source.val a.target.val (lastByMessage keys))) := by
    unfold Database.batchSynced
    rw [if_pos registered]
  obtain ⟨front, back, messages, first, second⟩ := under.images
  rw [synced]
  refine ⟨?_, front.map (syncedMessage (db.ownConversationIds a.user.val) a.source.val a.target.val (lastByMessage keys)),
    back.map (syncedMessage (db.ownConversationIds a.user.val) a.source.val a.target.val (lastByMessage keys)), ?_, ?_, ?_⟩
  · unfold Database.setMessages
    dsimp only
    rw [under.rest]
  · unfold Database.setMessages
    rw [messages, List.map_append]
  · rw [List.forall₂_map_right_iff]
    refine (forall₂_members first).imp fun m m' related => ?_
    obtain ⟨⟨-, inFront⟩, framed, copied⟩ := related
    have stored : m' ∈ db.messages := by
      rw [messages]
      exact List.mem_append_left _ inFront
    refine ⟨framed.synced different (lastByMessage keys), fun keyed passes => ?_⟩
    by_cases here : m.id ∈ docs.map MessageDocument.id
    · -- The message is on the page: its slot is what has been uploaded for it.
      obtain ⟨doc, listed, same⟩ := List.mem_map.mp here
      have one : doc = m' := List.inj_on_of_nodup_map ids (held doc listed).1 stored
        (same.trans framed.touched.id.symm)
      subst one
      obtain ⟨k, posted, spec⟩ := upload_of_mem wrapped listed
      have uploaded := uploaded_of_mem single posted
      rw [(trimmed k posted).1, spec.id] at uploaded
      refine ⟨k.encryptedMessageKey, ?_, spec.nonempty, fun messageKey unwraps => ?_⟩
      · rw [DeviceKeyIsolation.keyFor_syncedMessage, if_pos ⟨rfl, (held doc listed).2⟩, uploaded, Option.some_or]
      · apply spec.opens messageKey
        unfold Unwraps at unwraps ⊢
        rw [framed.touched.slots _ different]
        exact unwraps
    · -- The upload names other messages.
      rw [decide_eq_false here, Bool.or_false] at passes
      have unnamed : ∀ k ∈ keys, EcmaText.trim k.messageId ≠ m'.id := by
        intro k member same
        apply here
        rw [← framed.touched.id, ← same, (trimmed k member).1]
        exact (trimmed k member).2
      rw [syncedMessage_unnamed unnamed]
      exact copied keyed passes
  · rw [List.forall₂_map_right_iff]
    exact second.imp fun m m' framed => framed.synced different (lastByMessage keys)

end Upload

section Count

variable {bound : Option (Nat ×ₗ String)} {last : MessageDocument}

/-- Behind a message that was behind the bound, more has been passed. -/
theorem passed_mono (behind : passed bound last = false) {m : MessageDocument} (before : passed bound m = true) :
    passed (some last.position) m = true := by
  cases bound with
  | none => cases before
  | some b =>
    unfold passed Keyset.isAfter at *
    rw [Bool.not_eq_false', decide_eq_true_eq] at behind
    rw [Bool.not_eq_true', decide_eq_false_iff_not, not_lt] at before ⊢
    exact before.trans behind.le

theorem passed_last (last : MessageDocument) : passed (some last.position) last = true := by
  unfold passed Keyset.isAfter
  simp

/-- Every page passes one message at least. -/
theorem passed_count {messages : List MessageDocument} (held : last ∈ messages) (behind : passed bound last = false) :
    messages.countP (passed bound) + 1 ≤ messages.countP (passed (some last.position)) := by
  obtain ⟨front, back, rfl⟩ := List.append_of_mem held
  have mono (l : List MessageDocument) : l.countP (passed bound) ≤ l.countP (passed (some last.position)) :=
    List.countP_mono_left fun m _ => passed_mono behind
  have first := mono front
  have second := mono back
  rw [List.countP_append, List.countP_append, List.countP_cons_of_neg (by rw [behind]; exact Bool.false_ne_true),
    List.countP_cons_of_pos (passed_last last)]
  omega

/-- What is passed depends on the place of a message. -/
theorem passed_congr {m m' : MessageDocument} (same : m'.position = m.position) : passed bound m' = passed bound m := by
  unfold passed Keyset.isAfter
  rw [same]

end Count

section Copying

variable {a : SyncApproval} {own newOwn : PrivateKey} {start db db' : Database} {arrivals : Nat → Arrivals}
  {requests total : Nat} {bound : Option (Nat ×ₗ String)} {keys : List SyncMessageKeyEntry} {last : MessageDocument}

/-- A message of the start that has not been passed is still to come. -/
theorem Under.reaches (under : Under crypto a own newOwn start arrivals requests (passed bound) db)
    (different : a.source.val ≠ a.target.val) {m : MessageDocument} (member : m ∈ start.messages)
    (eligible : Database.canSync (start.ownConversationIds a.user.val) a.source.val m = true)
    (behind : passed bound m = false) : ∃ m' ∈ toCome a bound db, m'.id = m.id ∧ m'.position = m.position := by
  obtain ⟨m', held, framed⟩ := forall₂_image under.all (List.mem_append_left _ member)
  refine ⟨m', mem_toCome.mpr ⟨held, ?_, ?_⟩, framed.touched.id, framed.touched.position⟩
  · rw [framed.touched.canSync different]
    exact canSync_mono under.own_subset eligible
  · rw [passed_congr framed.touched.position]
    exact behind

/-- The upload of a page passes what is on it, though more has arrived since it was listed. -/
theorem Under.uploadsPage (under : Under crypto a own newOwn start arrivals requests (passed bound) db)
    (orderly : Orderly crypto own a.source.val start arrivals total) (different : a.source.val ≠ a.target.val)
    {cap : Nat} (wrapped : List.Forall₂ (Rewrapped crypto own newOwn a.source.val) ((toCome a bound db).take cap) keys)
    (registered : (arrive db (arrivals requests)).bothRegistered a.user.val a.source.val a.target.val = true)
    {past : MessageDocument → Bool}
    (onPage : ∀ m' ∈ toCome a bound db, past m' = true → m' ∈ (toCome a bound db).take cap)
    (placed : ∀ m m' : MessageDocument, m'.position = m.position → past m' = past m) :
    Under crypto a own newOwn start arrivals (requests + 1) past
      ((arrive db (arrivals requests)).batchSynced a.user.val a.source.val a.target.val keys) := by
  have held : ∀ doc ∈ (toCome a bound db).take cap, doc ∈ (arrive db (arrivals requests)).messages ∧
      Database.canSync ((arrive db (arrivals requests)).ownConversationIds a.user.val) a.source.val doc = true := by
    intro doc member
    obtain ⟨stored, eligible, -⟩ := mem_toCome.mp (List.mem_of_mem_take member)
    exact ⟨List.mem_append_left _ stored, canSync_mono (own_subset_arrive _ _ _) eligible⟩
  have distinct := (toCome_ids (under.wf orderly)).sublist ((List.take_sublist cap (toCome a bound db)).map _)
  refine (under.arrives.uploads orderly different held distinct wrapped registered).imp fun m member eligible passes => ?_
  cases behind : passed bound m with
  | true => rfl
  | false =>
    obtain ⟨m', coming, sameId, place⟩ := under.reaches different member eligible behind
    rw [Bool.false_or]
    refine decide_eq_true (List.mem_map.mpr ⟨m', onPage m' coming ?_, sameId⟩)
    rw [placed m m' place]
    exact passes

/-- After an upload the cursor names the last message of the page. -/
theorem points_uploaded (registered : db.bothRegistered a.user.val a.source.val a.target.val = true)
    (held : last ∈ db.messages) (plain : EcmaText.trim last.id = last.id ∧ last.id ≠ "") :
    Points (db.batchSynced a.user.val a.source.val a.target.val keys) (some last.id) (some last.position) := by
  refine .inr ⟨syncedMessage (db.ownConversationIds a.user.val) a.source.val a.target.val (lastByMessage keys) last,
    ?_, ?_, ?_, ?_, ?_⟩
  · rw [Database.batchSynced, if_pos registered]
    exact List.mem_map_of_mem held
  · rw [syncedMessage_id]
    exact plain.1
  · rw [syncedMessage_id]
    exact plain.2
  · rw [syncedMessage_id]
  · rw [syncedMessage_position]

/-- Arrivals and uploads leave the number of passed messages as it was, or more. -/
theorem passed_kept (db : Database) (arrivals : Arrivals) (keys : List SyncMessageKeyEntry) :
    db.messages.countP (passed bound) ≤
      ((arrive db arrivals).batchSynced a.user.val a.source.val a.target.val keys).messages.countP (passed bound) := by
  have grown : db.messages.countP (passed bound) ≤ (arrive db arrivals).messages.countP (passed bound) := by
    have more : (arrive db arrivals).messages = db.messages ++ arrivals.messages := rfl
    rw [more, List.countP_append]
    omega
  unfold Database.batchSynced
  split
  · have place : passed bound ∘ (syncedMessage ((arrive db arrivals).ownConversationIds a.user.val) a.source.val
        a.target.val (lastByMessage keys)) = passed bound :=
      funext fun m => passed_congr (syncedMessage_position _ _ _ _ m)
    unfold Database.setMessages
    dsimp only
    rw [List.countP_map, place]
    exact grown
  · exact grown

end Copying

section Loop

variable {a : SyncApproval} {own newOwn : PrivateKey} {start : Database} {arrivals : Nat → Arrivals} {seeds : Nat → Seed}
  {total : Nat}

/-- The end of an approval that has reached every message. -/
def Complete (crypto : WebCrypto PublicKey PrivateKey Seed) (a : SyncApproval) (own newOwn : PrivateKey)
    (start : Database) (arrivals : Nat → Arrivals) (r : SyncEnd × SyncProgress) : Prop :=
  r.1 = .completed ∧ ∃ requests, Under crypto a own newOwn start arrivals requests (fun _ => true) r.2.db

/-- The loop from one page on: enough pages remain for the messages that have not been passed. -/
theorem copyPagesAmid_complete (ideal : crypto.Ideal)
    (registered : a.newDevicePublicKey = exportPublicKeySpkiBase64 crypto (crypto.publicKeyOf newOwn))
    (different : a.source.val ≠ a.target.val) (orderly : Orderly crypto own a.source.val start arrivals total)
    {pages requests : Nat} {s : SyncProgress} {cursor : Option String} {bound : Option (Nat ×ₗ String)}
    (under : Under crypto a own newOwn start arrivals requests (passed bound) s.db) (points : Points s.db cursor bound)
    (enough : total < pages + s.db.messages.countP (passed bound))
    (succeeds : ∀ e, (copyPagesAmid crypto arrivals a own seeds pages requests cursor s).1 ≠ .rejected e) :
    Complete crypto a own newOwn start arrivals
      (copyPagesAmid crypto arrivals a own seeds pages requests cursor s) := by
  induction pages generalizing requests s cursor bound with
  | zero =>
    have counted := @List.countP_le_length _ (passed bound) s.db.messages
    have bounded := under.length orderly
    omega
  | succ pages ih =>
    have arrived := under.arrives
    have points' : Points (arrive s.db (arrivals requests)) cursor bound := by
      rcases points with none' | ⟨m, member, rest⟩
      · exact .inl none'
      · exact .inr ⟨m, List.mem_append_left _ member, rest⟩
    have more' : s.db.messages.countP (passed bound) ≤
        (arrive s.db (arrivals requests)).messages.countP (passed bound) := by
      have appended : (arrive s.db (arrivals requests)).messages = s.db.messages ++ (arrivals requests).messages := rfl
      rw [appended, List.countP_append]
      omega
    unfold copyPagesAmid at succeeds ⊢
    generalize arrive s.db (arrivals requests) = stored at arrived points' more' succeeds ⊢
    have wf := arrived.wf orderly
    have size := pageCap_pos a.pageLimit
    cases listed : ServerProgram.exec
        (listSyncMessageKeysForUserDevice a.user.val a.source.val cursor a.pageLimit) stored with
    | mk reply db =>
      rw [listed] at succeeds
      cases reply with
      | error e => exact absurd rfl (succeeds e)
      | ok page =>
        obtain ⟨rfl, rfl⟩ := listSync_points wf points' listed
        have ordered := @toCome_ordered a db bound wf
        unfold pageOf at succeeds ⊢
        dsimp only at succeeds ⊢
        by_cases empty : pageEntries a.source.val ((toCome a bound db).take (pageCap a.pageLimit)) = []
        · -- No message is left.
          rw [if_pos empty]
          have none' : toCome a bound db = [] := by
            unfold pageEntries at empty
            rw [List.map_eq_nil_iff, List.take_eq_nil_iff] at empty
            rcases empty with zero | none'
            · omega
            · exact none'
          refine ⟨rfl, requests + 1, arrived.imp fun m member eligible _ => ?_⟩
          by_contra behind
          obtain ⟨m', held, -⟩ := arrived.reaches different member eligible (Bool.eq_false_iff.mpr behind)
          rw [none'] at held
          cases held
        · rw [if_neg empty] at succeeds ⊢
          have good : ((toCome a bound db).take (pageCap a.pageLimit)).all (rewraps crypto own a.source.val) = true := by
            rw [List.all_eq_true]
            intro doc member
            obtain ⟨held, eligible, -⟩ := mem_toCome.mp (List.mem_of_mem_take member)
            exact arrived.opens orderly different held (Bool.and_eq_true _ _ ▸ eligible).2
          obtain ⟨keys, wrapped, uploads⟩ := @rewrapEntries_ok _ _ _ crypto own newOwn a.source.val
            a.newDevicePublicKey seeds ideal registered _
            (fun doc member => toCome_keyed doc (List.mem_of_mem_take member)) good s.posted.length
          rw [wrapped] at succeeds ⊢
          dsimp only at succeeds ⊢
          cases uploaded : ServerProgram.exec (applyBatchSyncMessageKeys a.user.val a.source.val a.target.val keys)
              (arrive db (arrivals (requests + 1))) with
          | mk reply db' =>
            rw [uploaded] at succeeds
            cases reply with
            | error e => exact absurd rfl (succeeds e)
            | ok res =>
              dsimp only at succeeds ⊢
              have both := applyBatch_registered uploaded
              have wf' := arrived.arrives.wf orderly
              have synced := (applyBatchSyncMessageKeys_exec a.user a.source a.target keys _ wf').1
              rw [uploaded] at synced
              dsimp only at synced
              subst synced
              obtain ⟨front, last, cut⟩ : ∃ front last,
                  (toCome a bound db).take (pageCap a.pageLimit) = front ++ [last] := by
                rcases List.eq_nil_or_concat ((toCome a bound db).take (pageCap a.pageLimit)) with none' | ⟨front, last, cut⟩
                · rw [none'] at empty
                  exact absurd rfl empty
                · exact ⟨front, last, by rw [cut, List.concat_eq_append]⟩
              by_cases more : pageCap a.pageLimit < (toCome a bound db).length
              · -- The next page begins behind the last message of this one.
                have onPage : last ∈ (toCome a bound db).take (pageCap a.pageLimit) := by
                  rw [cut]
                  simp
                obtain ⟨lastHeld, -, lastBehind⟩ := mem_toCome.mp (List.mem_of_mem_take onPage)
                have plain := arrived.plain orderly lastHeld
                have cursor' := @nextCursor_some
                  { items := pageEntries a.source.val ((toCome a bound db).take (pageCap a.pageLimit))
                    hasMore := true
                    nextAfterMessageId := ((toCome a bound db).take (pageCap a.pageLimit)).getLast?.map MessageDocument.id }
                  last.id (by simp [cut]) plain
                simp only [more, decide_true, if_true, cursor'] at succeeds ⊢
                refine ih (arrived.uploadsPage orderly different uploads both
                    (fun m' held passes => (passed_page ordered cut held).mp passes) fun m m' => passed_congr)
                  (points_uploaded both (List.mem_append_left _ lastHeld) plain) ?_ succeeds
                have counted := passed_count lastHeld lastBehind
                have kept := @passed_kept a (some last.position) db (arrivals (requests + 1)) keys
                dsimp only
                omega
              · have whole : (toCome a bound db).take (pageCap a.pageLimit) = toCome a bound db :=
                  List.take_of_length_le (by omega)
                simp only [more, decide_false, Bool.false_eq_true, if_false]
                refine ⟨rfl, requests + 1 + 1, arrived.uploadsPage orderly different uploads both ?_ fun _ _ _ => rfl⟩
                intro m' held _
                rwa [whole]

end Loop

section Approval

variable {a : SyncApproval} {own newOwn : PrivateKey} {seeds : Nat → Seed} {start : Database} {arrivals : Nat → Arrivals}
  {total : Nat}

theorem approveAmid_copies {refreshToken : Option String} (inOrder : InOrder crypto a newOwn refreshToken start)
    (pages : Nat) : executeApproveDeviceKeySyncAmid crypto arrivals a (some own) refreshToken seeds pages start =
      copyPagesAmid crypto arrivals a own seeds pages 0 none ⟨start, [], 0⟩ := by
  obtain ⟨row, held, user, device, publicKey⟩ := inOrder.listed
  have listed : (start.userDevicePublicKeys.any fun row => row.userId = a.user.val &&
      EcmaText.trim row.deviceId = a.target.val && EcmaText.trim row.publicKey = a.newDevicePublicKey) = true := by
    rw [List.any_eq_true]
    exact ⟨row, held, by simp [user, device, publicKey]⟩
  unfold executeApproveDeviceKeySyncAmid
  simp only [listed, Bool.not_true, Bool.false_eq_true, if_false, inOrder.token]

theorem under_start (start : Database) : Under crypto a own newOwn start arrivals 0 (passed none) start := by
  refine ⟨?_, start.messages, [], (List.append_nil _).symm, ?_, .nil⟩
  · unfold arrivedConversations
    rw [List.range_zero, List.flatMap_nil, List.append_nil]
  · exact List.forall₂_same.mpr fun m _ => ⟨Framed.refl _ _ _ m, fun _ passes => nomatch passes⟩

/-- An approval whose requests succeed and whose keys unwrap completes, whatever arrives meanwhile: the new device reads
each message the old one could read when it began, and nothing else of the store is changed by it. -/
theorem key_sync_complete (ideal : crypto.Ideal) {refreshToken : Option String}
    (inOrder : InOrder crypto a newOwn refreshToken start) (different : a.source.val ≠ a.target.val)
    (orderly : Orderly crypto own a.source.val start arrivals total) {pages : Nat} (enough : total < pages)
    {ended : SyncEnd} {final : SyncProgress}
    (ran : executeApproveDeviceKeySyncAmid crypto arrivals a (some own) refreshToken seeds pages start = (ended, final))
    (succeeds : ∀ e, ended ≠ .rejected e) : ended = .completed ∧
    (∀ m ∈ start.messages, Database.canSync (start.ownConversationIds a.user.val) a.source.val m = true →
      ∃ m' ∈ final.db.messages, m'.id = m.id ∧ CopiedTo crypto own newOwn a.source.val a.target.val m m') ∧
    ∃ requests, final.db = { start with
        conversations := start.conversations ++ arrivedConversations arrivals requests
        messages := final.db.messages } ∧
      List.Forall₂ (Framed a.target.val a.source.val (final.db.ownConversationIds a.user.val))
        (start.messages ++ arrivedMessages arrivals requests) final.db.messages := by
  rw [approveAmid_copies inOrder] at ran
  have complete := @copyPagesAmid_complete _ _ _ crypto a own newOwn start arrivals seeds total ideal inOrder.registered
    different orderly pages 0 ⟨start, [], 0⟩ none none (under_start start) (.inl ⟨rfl, rfl⟩)
    (Nat.lt_add_right _ enough) (by rw [ran]; exact succeeds)
  rw [ran] at complete
  obtain ⟨completed, requests, under⟩ := complete
  refine ⟨completed, fun m member eligible => ?_, requests, under.rest, under.all⟩
  obtain ⟨front, back, messages, first, -⟩ := under.images
  obtain ⟨m', held, framed, copied⟩ := forall₂_image first member
  refine ⟨m', ?_, framed.touched.id, copied eligible rfl⟩
  dsimp only at messages ⊢
  rw [messages]
  exact List.mem_append_left _ held

end Approval

section Arrival

/-- A message arrives between the first page and its upload. -/
def lateMessage (i : Nat) : Arrivals :=
  if i = 1 then { messages := [message "m0" 0 (goodKey transparentCrypto ())] } else {}

theorem lateMessage_arrived (n : Nat) :
    arrivedMessages lateMessage n = [] ∨ arrivedMessages lateMessage n = [message "m0" 0 (goodKey transparentCrypto ())] := by
  have none' (n : Nat) : arrivedMessages lateMessage (min n 1) = [] := by
    rcases n with _ | n
    · rfl
    · rw [Nat.min_eq_right (by omega)]
      rfl
  induction n with
  | zero => exact .inl rfl
  | succ n ih =>
    have step : arrivedMessages lateMessage (n + 1) = arrivedMessages lateMessage n ++ (lateMessage n).messages := by
      unfold arrivedMessages
      rw [List.range_succ, List.flatMap_append, List.flatMap_singleton]
    rw [step]
    by_cases here : n = 1
    · right
      subst here
      rfl
    · have quiet : (lateMessage n).messages = [] := by
        unfold lateMessage
        rw [if_neg here]
      rw [quiet, List.append_nil]
      exact ih

/-- The two messages of the start, and the late one. -/
def twoStored : Database :=
  twoMessages transparentCrypto (goodKey transparentCrypto ()) (goodKey transparentCrypto ())

theorem twoStored_orderly : Orderly transparentCrypto 1 "dA" twoStored lateMessage 3 := by
  have opens := goodKey_opens transparentCrypto_ideal rfl ()
  have each (n : Nat) (m : MessageDocument) (member : m ∈ twoStored.messages ++ arrivedMessages lateMessage n) :
      m = message "m1" 1 (goodKey transparentCrypto ()) ∨ m = message "m2" 2 (goodKey transparentCrypto ()) ∨
        m = message "m0" 0 (goodKey transparentCrypto ()) := by
    rcases List.mem_append.mp member with before | late
    · rcases List.mem_pair.mp before with same | same
      · exact .inl same
      · exact .inr (.inl same)
    · rcases lateMessage_arrived n with none' | one
      · rw [none'] at late
        cases late
      · rw [one] at late
        exact .inr (.inr (List.mem_singleton.mp late))
  have firstPlain : EcmaText.trim "m1" = "m1" ∧ "m1" ≠ "" := by decide
  have secondPlain : EcmaText.trim "m2" = "m2" ∧ "m2" ≠ "" := by decide
  have latePlain : EcmaText.trim "m0" = "m0" ∧ "m0" ≠ "" := by decide
  refine ⟨twoMessages_wellFormed transparentCrypto _ _, fun n => ?_, fun n m member => ?_, fun n m member _ => ?_,
    fun n => ?_⟩
  · rcases lateMessage_arrived n with none' | one
    · rw [none', List.append_nil]
      exact (twoMessages_wellFormed transparentCrypto _ _).messageIds
    · rw [one]
      change ["m1", "m2", "m0"].Nodup
      decide
  · rcases each n m member with rfl | rfl | rfl
    · exact firstPlain
    · exact secondPlain
    · exact latePlain
  · rcases each n m member with rfl | rfl | rfl
    · exact message_rewraps "m1" 1 opens
    · exact message_rewraps "m2" 2 opens
    · exact message_rewraps "m0" 0 opens
  · rcases lateMessage_arrived n with none' | one
    · rw [none']
      exact Nat.le_succ 2
    · rw [one]
      exact Nat.le_refl 3

/-- Both messages of the start are copied, on a page each, though one arrives before the place of the first. -/
theorem key_sync_complete_two_pages : ∃ final : SyncProgress, final.db.messages.length = 3 ∧
    ∀ m ∈ twoStored.messages, Database.canSync (twoStored.ownConversationIds "alice") "dA" m = true →
      ∃ m' ∈ final.db.messages, m'.id = m.id ∧ CopiedTo transparentCrypto 1 2 "dA" "dA2" m m' := by
  have ran : (executeApproveDeviceKeySyncAmid transparentCrypto lateMessage (approval transparentCrypto) (some 1)
      (some "token") (fun _ => ()) 4 twoStored).1 = .completed ∧
    (executeApproveDeviceKeySyncAmid transparentCrypto lateMessage (approval transparentCrypto) (some 1)
      (some "token") (fun _ => ()) 4 twoStored).2.db.messages.length = 3 := by decide +kernel
  have inOrder : InOrder transparentCrypto (approval transparentCrypto) 2 (some "token") twoStored :=
    twoMessages_inOrder transparentCrypto rfl _ _
  have complete := key_sync_complete transparentCrypto_ideal inOrder (by decide) twoStored_orderly (Nat.lt_succ_self 3)
    Prod.mk.eta.symm fun e => by rw [ran.1]; simp
  exact ⟨_, ran.2, complete.2.1⟩

end Arrival

end MessagingSystem.Guarantees.KeySyncComplete
