import MessagingSystem.Guarantees.DeviceKeyIsolation
import MessagingSystem.Source.Client.DeviceKeySync
import MessagingSystem.Source.Client.MessageKeyEnvelope
import MessagingSystem.Source.Server.SyncPages

/-!
# Progress of a key sync

An approval uploads the pages of wrapped keys one after another. A source key that
does not unwrap, or not to a message key, ends it: what stands on its page or on a
later one is not copied, whether or not it unwraps.
-/
namespace MessagingSystem.Guarantees.KeySyncProgress
open Foundation Source.Server Source.Client

variable {PublicKey PrivateKey Seed : Type} {crypto : WebCrypto PublicKey PrivateKey Seed}

/-- The source key of the message unwraps to this message key. -/
def Unwraps (crypto : WebCrypto PublicKey PrivateKey Seed) (own : PrivateKey) (source : String)
    (doc : MessageDocument) (messageKey : List UInt8) : Prop :=
  ∃ envelope, doc.keyFor source = some envelope ∧ unwrapMessageKey crypto envelope own = .ok messageKey

/-- The source key unwraps, and to the 32 bytes that can be wrapped again. -/
def rewraps (crypto : WebCrypto PublicKey PrivateKey Seed) (own : PrivateKey) (source : String)
    (doc : MessageDocument) : Bool :=
  match unwrapMessageKey crypto ((doc.keyFor source).getD "") own with
  | .ok messageKey => decide (messageKey.length = 32)
  | .error _ => false

/-- An upload that gives the new device the key of the message. -/
structure Rewrapped (crypto : WebCrypto PublicKey PrivateKey Seed) (own newOwn : PrivateKey) (source : String)
    (doc : MessageDocument) (upload : SyncMessageKeyEntry) : Prop where
  id : upload.messageId = doc.id
  nonempty : upload.encryptedMessageKey ≠ ""
  opens : ∀ messageKey, Unwraps crypto own source doc messageKey →
    unwrapMessageKey crypto upload.encryptedMessageKey newOwn = .ok messageKey

/-- Every upload is in the message it names. -/
def Stored (target : String) (s : SyncProgress) : Prop :=
  ∀ upload ∈ s.posted, ∃ doc ∈ s.db.messages, doc.id = upload.messageId ∧
    doc.keyFor target = some upload.encryptedMessageKey

/-- The ids of messages are UUIDs: not blank, and without white space around them. -/
def PlainIds (db : Database) : Prop := ∀ m ∈ db.messages, EcmaText.trim m.id = m.id ∧ m.id ≠ ""

section Page

variable {own newOwn : PrivateKey} {source spki : String} {seeds : Nat → Seed}

/-- The entries of a page. -/
def pageEntries (source : String) (docs : List MessageDocument) : List SyncMessageKeyEntry :=
  docs.map fun doc => ⟨doc.id, (doc.keyFor source).getD ""⟩

/-- A page of keys that unwrap to message keys is wrapped for the new device. -/
theorem rewrapEntries_ok (ideal : crypto.Ideal)
    (registered : spki = exportPublicKeySpkiBase64 crypto (crypto.publicKeyOf newOwn))
    {docs : List MessageDocument} (keyed : ∀ doc ∈ docs, ∃ envelope, doc.keyFor source = some envelope)
    (good : docs.all (rewraps crypto own source) = true) (drawn : Nat) :
    ∃ keys, rewrapEntries crypto own spki seeds drawn (pageEntries source docs) = .ok keys ∧
      List.Forall₂ (Rewrapped crypto own newOwn source) docs keys := by
  induction docs generalizing drawn with
  | nil => exact ⟨[], rfl, .nil⟩
  | cons doc rest ih =>
    rw [List.all_cons, Bool.and_eq_true] at good
    obtain ⟨here, later⟩ := good
    obtain ⟨envelope, held⟩ := keyed doc List.mem_cons_self
    obtain ⟨keys, wrapped, all⟩ := ih (fun doc member => keyed doc (List.mem_cons_of_mem _ member)) later
      (drawn + 1)
    unfold rewraps at here
    rw [held, Option.getD_some] at here
    split at here
    · rename_i messageKey opened
      have length := of_decide_eq_true here
      have sealed : wrapMessageKey crypto messageKey spki (seeds drawn) =
          .ok (crypto.sealKey (seeds drawn) messageKey (crypto.publicKeyOf newOwn)) :=
        (wrapMessageKey_eq_ok length).mpr
          ⟨_, by rw [registered]; exact importRecipient_export ideal _, rfl⟩
      refine ⟨⟨doc.id, crypto.sealKey (seeds drawn) messageKey (crypto.publicKeyOf newOwn)⟩ :: keys, ?_,
        .cons ⟨rfl, ?_, ?_⟩ all⟩
      · unfold pageEntries at wrapped ⊢
        rw [List.map_cons, rewrapEntries, held, Option.getD_some]
        simp only [opened, sealed, wrapped, bind, Except.bind]
      · intro empty
        have nonblank := ideal.seal_nonblank (seeds drawn) messageKey (crypto.publicKeyOf newOwn)
        dsimp only at empty
        rw [empty] at nonblank
        exact absurd nonblank (by decide)
      · rintro other ⟨envelope', held', opened'⟩
        rw [held] at held'
        cases held'
        cases opened.symm.trans opened'
        exact ideal.open_own _ _ _
    · cases here

/-- A page with another key throws. -/
theorem rewrapEntries_throws {docs : List MessageDocument}
    (bad : docs.all (rewraps crypto own source) = false) (drawn : Nat) :
    ∃ e, rewrapEntries crypto own spki seeds drawn (pageEntries source docs) = .error e := by
  induction docs generalizing drawn with
  | nil => cases bad
  | cons doc rest ih =>
    unfold pageEntries
    rw [List.map_cons, rewrapEntries]
    rw [List.all_cons] at bad
    dsimp only
    unfold rewraps at bad
    cases opened : unwrapMessageKey crypto ((doc.keyFor source).getD "") own with
    | error e => exact ⟨e, rfl⟩
    | ok messageKey =>
      simp only [bind, Except.bind]
      cases wrapped : wrapMessageKey crypto messageKey spki (seeds drawn) with
      | error e => exact ⟨e, rfl⟩
      | ok newKey =>
        have length : messageKey.length = 32 := by
          by_contra other
          simp [wrapMessageKey, assertMessageKeyLength, other, bind, Except.bind] at wrapped
        rw [opened] at bad
        simp only [length, decide_true, Bool.true_and] at bad
        obtain ⟨e, thrown⟩ := ih bad (drawn + 1)
        unfold pageEntries at thrown
        simp only [thrown]
        exact ⟨e, rfl⟩

end Page

section Answer

variable {source : String}

theorem pageEntries_eq {docs : List MessageDocument}
    (keyed : ∀ doc ∈ docs, ∃ envelope, doc.keyFor source = some envelope) :
    (docs.filterMap fun doc => (doc.keyFor source).map fun key => (⟨doc.id, key⟩ : SyncMessageKeyEntry)) =
      pageEntries source docs := by
  induction docs with
  | nil => rfl
  | cons doc rest ih =>
    obtain ⟨envelope, held⟩ := keyed doc List.mem_cons_self
    have later := ih fun doc member => keyed doc (List.mem_cons_of_mem _ member)
    rw [List.filterMap_cons_some (by rw [held]; rfl), later, pageEntries, pageEntries, List.map_cons, held]
    rfl

/-- A page of messages that all have a key. -/
theorem syncPage_eq {rest : List MessageDocument} (cap : Nat)
    (keyed : ∀ doc ∈ rest, ∃ envelope, doc.keyFor source = some envelope) :
    syncPage source cap (rest.take (cap + 1)) =
      { items := pageEntries source (rest.take cap)
        hasMore := decide (cap < rest.length)
        nextAfterMessageId := if cap < rest.length then (rest.take cap).getLast?.map MessageDocument.id
          else none } := by
  have more : cap < (rest.take (cap + 1)).length ↔ cap < rest.length := by
    rw [List.length_take]
    omega
  have taken : (if decide (cap < (rest.take (cap + 1)).length) = true then (rest.take (cap + 1)).take cap
      else rest.take (cap + 1)) = rest.take cap := by
    by_cases full : cap < rest.length
    · rw [if_pos (decide_eq_true (more.mpr full)), List.take_take]
      congr 1
      omega
    · rw [if_neg (by simpa [more] using full), List.take_of_length_le (by omega),
        List.take_of_length_le (by omega)]
  have items := @pageEntries_eq source (rest.take cap) fun doc member =>
    keyed doc (List.mem_of_mem_take member)
  have last : (pageEntries source (rest.take cap)).getLast?.map (fun last => last.messageId) =
      (rest.take cap).getLast?.map MessageDocument.id := by
    unfold pageEntries
    rw [List.getLast?_map, Option.map_map]
    rfl
  unfold syncPage
  dsimp only
  rw [taken, items, last]
  simp only [more, decide_eq_true_eq]

end Answer

/-- The cursor of an approval that has copied these messages. -/
def CursorAt (before : List MessageDocument) (cursor : Option String) : Prop :=
  (before = [] ∧ cursor = none) ∨ ∃ earlier last, before = earlier ++ [last] ∧ cursor = some last.id

/-- An approval between two pages: the messages copied so far, and those to come. -/
structure Midway (a : SyncApproval) (s : SyncProgress) (cursor : Option String)
    (before rest : List MessageDocument) : Prop where
  wf : s.db.WellFormed
  plain : PlainIds s.db
  docs : s.db.keyedMessages a.user.val a.source.val = before ++ rest
  place : CursorAt before cursor
  stored : Stored a.target.val s
  listed : ∀ upload ∈ s.posted, upload.messageId ∈ before.map MessageDocument.id

namespace Midway

variable {a : SyncApproval} {s : SyncProgress} {cursor : Option String} {before rest : List MessageDocument}
  {own newOwn : PrivateKey}

theorem member (midway : Midway a s cursor before rest) {doc : MessageDocument} (listed : doc ∈ before ++ rest) :
    doc ∈ s.db.messages ∧
      Database.canSync (s.db.ownConversationIds a.user.val) a.source.val doc = true := by
  rw [← midway.docs] at listed
  exact Database.mem_keyedMessages.mp listed

theorem keyed (midway : Midway a s cursor before rest) :
    ∀ doc ∈ rest, ∃ envelope, doc.keyFor a.source.val = some envelope := by
  intro doc listed
  have eligible := (midway.member (List.mem_append_right before listed)).2
  unfold Database.canSync MessageDocument.hasKeyFor at eligible
  rw [Bool.and_eq_true] at eligible
  cases held : doc.keyFor a.source.val with
  | none => simp [held] at eligible
  | some envelope => exact ⟨envelope, rfl⟩

theorem ids (midway : Midway a s cursor before rest) : ((before ++ rest).map MessageDocument.id).Nodup := by
  rw [← midway.docs]
  exact Database.keyedMessages_ids midway.wf

/-- A page that is answered is the next of the messages to come. -/
theorem answer (midway : Midway a s cursor before rest) {page : SyncMessageKeysPage} {db : Database}
    (answered : ServerProgram.exec
      (listSyncMessageKeysForUserDevice a.user.val a.source.val cursor a.pageLimit) s.db = (.ok page, db)) :
    db = s.db ∧ page = syncPage a.source.val (pageCap a.pageLimit) (rest.take (pageCap a.pageLimit + 1)) := by
  rcases midway.place with ⟨rfl, rfl⟩ | ⟨earlier, last, rfl, rfl⟩
  · have first := listSync_first midway.wf a.user a.source answered
    rwa [midway.docs, List.nil_append] at first
  · have split := midway.docs
    rw [List.append_assoc, List.singleton_append] at split
    have plain := midway.plain last (midway.member (by simp)).1
    exact listSync_next midway.wf a.user a.source split plain.1 plain.2 answered

/-- The uploads of a page name its messages. -/
theorem uploaded_ids {page : List MessageDocument} {keys : List SyncMessageKeyEntry}
    (wrapped : List.Forall₂ (Rewrapped crypto own newOwn a.source.val) page keys) :
    keys.map (fun k => k.messageId) = page.map MessageDocument.id := by
  induction wrapped with
  | nil => rfl
  | cons here later ih => rw [List.map_cons, List.map_cons, here.id, ih]

theorem uploaded_nonempty {page : List MessageDocument} {keys : List SyncMessageKeyEntry}
    (wrapped : List.Forall₂ (Rewrapped crypto own newOwn a.source.val) page keys) :
    ∀ k ∈ keys, k.encryptedMessageKey ≠ "" := by
  induction wrapped with
  | nil => exact fun k member => by cases member
  | cons here later ih =>
    intro k member
    rcases List.mem_cons.mp member with rfl | tail
    · exact here.nonempty
    · exact ih k tail

/-- After the upload of a page the approval stands behind it. -/
theorem upload {page : List MessageDocument} {last : MessageDocument} {keys : List SyncMessageKeyEntry}
    {res : BatchKeyUpload} {db : Database}
    (midway : Midway a s cursor before (page ++ last :: rest))
    (wrapped : List.Forall₂ (Rewrapped crypto own newOwn a.source.val) (page ++ [last]) keys)
    (answered : ServerProgram.exec
      (applyBatchSyncMessageKeys a.user.val a.source.val a.target.val keys) s.db = (.ok res, db)) :
    ∃ copied, Midway a ⟨db, s.posted ++ keys, s.totalPosted + res.applied⟩ (some last.id) copied rest := by
  have registered := applyBatch_registered answered
  have synced : db = s.db.batchSynced a.user.val a.source.val a.target.val keys := by
    rw [← (applyBatchSyncMessageKeys_exec a.user a.source a.target keys s.db midway.wf).1, answered]
  have wf : db.WellFormed := by
    have kept := ServerProgram.exec_wellFormed
      (applyBatchSyncMessageKeys a.user.val a.source.val a.target.val keys) midway.wf
    rwa [answered] at kept
  have nonempty := uploaded_nonempty wrapped
  have names := uploaded_ids wrapped
  -- the uploads name messages of the page, whose ids are plain
  have trimmed : ∀ k ∈ keys, EcmaText.trim k.messageId = k.messageId ∧
      ∃ doc ∈ page ++ [last], doc.id = k.messageId := by
    intro k member
    have named : k.messageId ∈ (page ++ [last]).map MessageDocument.id := by
      rw [← names]
      exact List.mem_map_of_mem member
    obtain ⟨doc, listed, same⟩ := List.mem_map.mp named
    have plain := midway.plain doc (midway.member (List.mem_append_right before (by
      rw [← List.singleton_append, ← List.append_assoc]
      exact List.mem_append_left rest listed))).1
    exact ⟨by rw [← same]; exact plain.1, doc, listed, same⟩
  have all := midway.ids
  rw [← List.singleton_append, ← List.append_assoc page, ← List.append_assoc] at all
  have unnamed : ∀ doc ∈ rest, ∀ k ∈ keys, EcmaText.trim k.messageId ≠ doc.id := by
    intro doc listed k member same
    obtain ⟨plain, other, paged, named⟩ := trimmed k member
    rw [List.map_append, List.nodup_append] at all
    apply all.2.2 other.id (List.mem_map_of_mem (List.mem_append_right before paged)) doc.id
      (List.mem_map_of_mem listed)
    rw [named, ← plain, same]
  have messages : db.messages = s.db.messages.map (syncedMessage (s.db.ownConversationIds a.user.val)
      a.source.val a.target.val (lastByMessage keys)) := by
    rw [synced, Database.batchSynced, if_pos registered]
    rfl
  have paged : ∀ doc ∈ page ++ [last], doc ∈ before ++ (page ++ last :: rest) := by
    intro doc listed
    rw [← List.singleton_append, ← List.append_assoc page]
    exact List.mem_append_right before (List.mem_append_left rest listed)
  have docs : db.keyedMessages a.user.val a.source.val =
      (before ++ (page ++ [last])).map (syncedMessage (s.db.ownConversationIds a.user.val) a.source.val
        a.target.val (lastByMessage keys)) ++ rest := by
    rw [synced, keyedMessages_batchSynced registered nonempty, midway.docs, ← List.singleton_append,
      ← List.append_assoc page, ← List.append_assoc, List.map_append]
    congr 1
    rw [List.map_congr_left fun doc listed => syncedMessage_unnamed (unnamed doc listed), List.map_id']
  refine ⟨_, wf, ?_, docs, .inr ⟨(before ++ page).map (syncedMessage (s.db.ownConversationIds a.user.val)
    a.source.val a.target.val (lastByMessage keys)), syncedMessage (s.db.ownConversationIds a.user.val)
    a.source.val a.target.val (lastByMessage keys) last, ?_, ?_⟩, ?_, ?_⟩
  · intro m member
    rw [messages] at member
    obtain ⟨doc, held, rfl⟩ := List.mem_map.mp member
    rw [syncedMessage_id]
    exact midway.plain doc held
  · rw [← List.append_assoc, List.map_append, List.map_singleton]
  · rw [syncedMessage_id]
  · intro upload member
    dsimp only
    rw [messages]
    rcases List.mem_append.mp member with old | new
    · obtain ⟨doc, held, named, stored⟩ := midway.stored upload old
      have listed := midway.listed upload old
      have same : syncedMessage (s.db.ownConversationIds a.user.val) a.source.val a.target.val
          (lastByMessage keys) doc = doc := by
        apply syncedMessage_unnamed
        intro k member same
        obtain ⟨plain, other, onPage, otherId⟩ := trimmed k member
        rw [List.map_append, List.nodup_append] at all
        have before := (List.nodup_append.mp (List.map_append ▸ all.1)).2.2
        apply before upload.messageId listed other.id (List.mem_map_of_mem onPage)
        rw [otherId, ← plain, same, named]
      exact ⟨doc, List.mem_map.mpr ⟨doc, held, same⟩, named, stored⟩
    · obtain ⟨plain, doc, onPage, named⟩ := trimmed upload new
      obtain ⟨held, eligible⟩ := midway.member (paged doc onPage)
      have distinct : (keys.map fun k => EcmaText.trim k.messageId).Nodup := by
        have same : (keys.map fun k => EcmaText.trim k.messageId) = keys.map fun k => k.messageId :=
          List.map_congr_left fun k member => (trimmed k member).1
        rw [same, names]
        rw [List.map_append, List.nodup_append] at all
        exact (List.nodup_append.mp (List.map_append ▸ all.1)).2.1
      have uploaded := uploaded_of_mem distinct new
      rw [plain, ← named] at uploaded
      refine ⟨_, List.mem_map_of_mem held, ?_, ?_⟩
      · rw [syncedMessage_id, named]
      · rw [DeviceKeyIsolation.keyFor_syncedMessage, if_pos ⟨rfl, eligible⟩, uploaded, Option.some_or]
  · intro upload member
    have ids : ((before ++ (page ++ [last])).map (syncedMessage (s.db.ownConversationIds a.user.val)
        a.source.val a.target.val (lastByMessage keys))).map MessageDocument.id =
          (before ++ (page ++ [last])).map MessageDocument.id := by
      rw [List.map_map]
      exact List.map_congr_left fun doc _ => syncedMessage_id _ _ _ _ doc
    rw [ids, List.map_append]
    rcases List.mem_append.mp member with old | new
    · exact List.mem_append_left _ (midway.listed upload old)
    · obtain ⟨-, doc, onPage, named⟩ := trimmed upload new
      exact List.mem_append_right _ (List.mem_map.mpr ⟨doc, onPage, named⟩)

end Midway

section Loop

variable {a : SyncApproval} {own newOwn : PrivateKey} {seeds : Nat → Seed}

/-- What an approval that no request rejects has copied of the messages to come: the
pages before the first one with a key that cannot be wrapped again. -/
structure Copied (crypto : WebCrypto PublicKey PrivateKey Seed) (a : SyncApproval) (own newOwn : PrivateKey)
    (s : SyncProgress) (rest : List MessageDocument) (r : SyncEnd × SyncProgress) : Prop where
  ended : r.1 ≠ .unfinished
  stored : Stored a.target.val r.2
  uploads : ∃ keys, r.2.posted = s.posted ++ keys ∧
    List.Forall₂ (Rewrapped crypto own newOwn a.source.val)
      (Keyset.leading (pageCap a.pageLimit - 1) (rewraps crypto own a.source.val) rest) keys

theorem pageCap_pos (limit : Nat) : pageCap limit - 1 + 1 = pageCap limit := by
  unfold pageCap MAX_LIST_LIMIT
  omega

theorem nextCursor_some {page : SyncMessageKeysPage} {id : String} (named : page.nextAfterMessageId = some id)
    (plain : EcmaText.trim id = id ∧ id ≠ "") : nextCursor page = some id := by
  unfold nextCursor
  rw [named, Option.bind_some, plain.1, if_neg plain.2]

/-- The loop from one page on. -/
theorem copyPages_copies (ideal : crypto.Ideal)
    (registered : a.newDevicePublicKey = exportPublicKeySpkiBase64 crypto (crypto.publicKeyOf newOwn))
    {pages : Nat} {s : SyncProgress} {cursor : Option String} {before rest : List MessageDocument}
    (midway : Midway a s cursor before rest) (enough : rest.length < pages)
    (succeeds : ∀ e, (copyPages crypto a own seeds pages cursor s).1 ≠ .rejected e) :
    Copied crypto a own newOwn s rest (copyPages crypto a own seeds pages cursor s) := by
  induction pages generalizing s cursor before rest with
  | zero => cases enough
  | succ pages ih =>
    have size := pageCap_pos a.pageLimit
    unfold copyPages at succeeds ⊢
    cases listed : ServerProgram.exec
        (listSyncMessageKeysForUserDevice a.user.val a.source.val cursor a.pageLimit) s.db with
    | mk reply db =>
      rw [listed] at succeeds
      cases reply with
      | error e => exact absurd rfl (succeeds e)
      | ok page =>
        obtain ⟨rfl, rfl⟩ := midway.answer listed
        rw [syncPage_eq _ midway.keyed] at succeeds ⊢
        dsimp only at succeeds ⊢
        by_cases empty : pageEntries a.source.val (rest.take (pageCap a.pageLimit)) = []
        · -- no message is left
          rw [if_pos empty]
          have none : rest = [] := by
            unfold pageEntries at empty
            rw [List.map_eq_nil_iff, List.take_eq_nil_iff] at empty
            rcases empty with zero | none
            · omega
            · exact none
          subst none
          refine ⟨by simp, midway.stored, [], (List.append_nil _).symm, ?_⟩
          rw [Keyset.leading_nil]
          exact .nil
        · rw [if_neg empty] at succeeds ⊢
          have keyed : ∀ doc ∈ rest.take (pageCap a.pageLimit), ∃ envelope,
              doc.keyFor a.source.val = some envelope := fun doc member =>
            midway.keyed doc (List.mem_of_mem_take member)
          cases good : (rest.take (pageCap a.pageLimit)).all (rewraps crypto own a.source.val) with
          | false =>
            -- a key of this page throws
            obtain ⟨e, thrown⟩ := @rewrapEntries_throws _ _ _ crypto own a.source.val a.newDevicePublicKey seeds
              _ good s.posted.length
            rw [thrown]
            refine ⟨by simp, midway.stored, [], (List.append_nil _).symm, ?_⟩
            rw [Keyset.leading_bad (by rw [size, good]; exact Bool.false_ne_true)]
            exact .nil
          | true =>
            obtain ⟨keys, wrapped, all⟩ := @rewrapEntries_ok _ _ _ crypto own newOwn a.source.val
              a.newDevicePublicKey seeds ideal registered _ keyed good s.posted.length
            rw [wrapped] at succeeds ⊢
            dsimp only at succeeds ⊢
            cases uploaded : ServerProgram.exec
                (applyBatchSyncMessageKeys a.user.val a.source.val a.target.val keys) s.db with
            | mk reply db =>
              rw [uploaded] at succeeds
              cases reply with
              | error e => exact absurd rfl (succeeds e)
              | ok res =>
                dsimp only at succeeds ⊢
                obtain ⟨page, last, cut⟩ : ∃ page last, rest.take (pageCap a.pageLimit) = page ++ [last] := by
                  rcases List.eq_nil_or_concat (rest.take (pageCap a.pageLimit)) with none | ⟨page, last, cut⟩
                  · rw [none] at empty
                    exact absurd rfl empty
                  · exact ⟨page, last, by rw [cut, List.concat_eq_append]⟩
                have whole : rest = page ++ last :: rest.drop (pageCap a.pageLimit) := by
                  rw [← List.singleton_append, ← List.append_assoc, ← cut, List.take_append_drop]
                have pages' : Keyset.leading (pageCap a.pageLimit - 1) (rewraps crypto own a.source.val) rest =
                    (page ++ [last]) ++ Keyset.leading (pageCap a.pageLimit - 1)
                      (rewraps crypto own a.source.val) (rest.drop (pageCap a.pageLimit)) := by
                  rw [Keyset.leading_good (by rw [size, good]), size, cut]
                rw [cut] at all
                obtain ⟨copied, next⟩ := Midway.upload (by rwa [whole] at midway) all uploaded
                by_cases more : pageCap a.pageLimit < rest.length
                · have plain := midway.plain last (midway.member (List.mem_append_right before (by
                    rw [whole]
                    simp))).1
                  have cursor := @nextCursor_some
                    { items := pageEntries a.source.val (rest.take (pageCap a.pageLimit))
                      hasMore := true
                      nextAfterMessageId :=
                        (rest.take (pageCap a.pageLimit)).getLast?.map MessageDocument.id }
                    last.id (by simp [cut]) plain
                  simp only [more, decide_true, if_true, cursor] at succeeds ⊢
                  have shorter : (rest.drop (pageCap a.pageLimit)).length < pages := by
                    rw [List.length_drop]
                    omega
                  obtain ⟨ended, stored, later, posted, rewrapped⟩ := ih next shorter succeeds
                  refine ⟨ended, stored, keys ++ later, ?_, ?_⟩
                  · rw [posted, List.append_assoc]
                  · rw [pages']
                    exact List.rel_append all rewrapped
                · have none : rest.drop (pageCap a.pageLimit) = [] := List.drop_eq_nil_iff.mpr (by omega)
                  simp only [more, decide_false, Bool.false_eq_true, if_false]
                  refine ⟨by simp, next.stored, keys, rfl, ?_⟩
                  rw [pages', none, Keyset.leading_nil, List.append_nil]
                  exact all

end Loop

section Approval

variable {a : SyncApproval} {own newOwn : PrivateKey} {seeds : Nat → Seed} {db : Database}

/-- Every message whose source key unwraps has its key uploaded for the new device and stored. -/
def CopiesAll (crypto : WebCrypto PublicKey PrivateKey Seed) (a : SyncApproval) (own newOwn : PrivateKey)
    (db : Database) (final : SyncProgress) : Prop :=
  ∀ doc ∈ db.keyedMessages a.user.val a.source.val, ∀ messageKey, Unwraps crypto own a.source.val doc messageKey →
    ∃ upload ∈ final.posted, upload.messageId = doc.id ∧
      unwrapMessageKey crypto upload.encryptedMessageKey newOwn = .ok messageKey ∧
      ∃ stored ∈ final.db.messages, stored.id = doc.id ∧
        stored.keyFor a.target.val = some upload.encryptedMessageKey

/-- No source key that cannot be wrapped again stands on the page of one that unwraps, or before it. -/
def NoBadKeyBefore (crypto : WebCrypto PublicKey PrivateKey Seed) (a : SyncApproval) (own : PrivateKey)
    (db : Database) : Prop :=
  ∀ (i : Nat) (doc : MessageDocument), (db.keyedMessages a.user.val a.source.val)[i]? = some doc →
    (∃ messageKey, Unwraps crypto own a.source.val doc messageKey) →
    ∀ (j : Nat) (other : MessageDocument), (db.keyedMessages a.user.val a.source.val)[j]? = some other →
      j / pageCap a.pageLimit ≤ i / pageCap a.pageLimit → rewraps crypto own a.source.val other = true

/-- The session of an approval is in order: the new device is listed under its own key,
the private key and the refresh token are there. -/
structure InOrder (crypto : WebCrypto PublicKey PrivateKey Seed) (a : SyncApproval) (newOwn : PrivateKey)
    (refreshToken : Option String) (db : Database) : Prop where
  registered : a.newDevicePublicKey = exportPublicKeySpkiBase64 crypto (crypto.publicKeyOf newOwn)
  listed : ∃ row ∈ db.userDevicePublicKeys, row.userId = a.user.val ∧
    EcmaText.trim row.deviceId = a.target.val ∧ EcmaText.trim row.publicKey = a.newDevicePublicKey
  token : EcmaText.trim (refreshToken.getD "") ≠ ""

theorem approve_copies {refreshToken : Option String} (inOrder : InOrder crypto a newOwn refreshToken db)
    (pages : Nat) : executeApproveDeviceKeySync crypto a (some own) refreshToken seeds pages db =
      copyPages crypto a own seeds pages none ⟨db, [], 0⟩ := by
  obtain ⟨row, held, user, device, publicKey⟩ := inOrder.listed
  have listed : (db.userDevicePublicKeys.any fun row => row.userId = a.user.val &&
      EcmaText.trim row.deviceId = a.target.val && EcmaText.trim row.publicKey = a.newDevicePublicKey) =
        true := by
    rw [List.any_eq_true]
    exact ⟨row, held, by simp [user, device, publicKey]⟩
  unfold executeApproveDeviceKeySync
  simp only [listed, Bool.not_true, Bool.false_eq_true, if_false, inOrder.token]

/-- A copied message is an upload that opens for the new device. -/
theorem upload_of_mem {docs : List MessageDocument} {keys : List SyncMessageKeyEntry}
    (wrapped : List.Forall₂ (Rewrapped crypto own newOwn a.source.val) docs keys) {doc : MessageDocument}
    (copied : doc ∈ docs) : ∃ upload ∈ keys, Rewrapped crypto own newOwn a.source.val doc upload := by
  induction wrapped with
  | nil => cases copied
  | cons here later ih =>
    rcases List.mem_cons.mp copied with rfl | tail
    · exact ⟨_, List.mem_cons_self, here⟩
    · obtain ⟨upload, member, spec⟩ := ih tail
      exact ⟨upload, List.mem_cons_of_mem _ member, spec⟩

/-- A message is copied exactly when its page and those before hold no bad key. -/
theorem copied_iff (wf : db.WellFormed) {i : Nat} {doc : MessageDocument}
    (here : (db.keyedMessages a.user.val a.source.val)[i]? = some doc) :
    doc.id ∈ (Keyset.leading (pageCap a.pageLimit - 1) (rewraps crypto own a.source.val)
        (db.keyedMessages a.user.val a.source.val)).map MessageDocument.id ↔
      ∀ (j : Nat) (other : MessageDocument), (db.keyedMessages a.user.val a.source.val)[j]? = some other →
        j / pageCap a.pageLimit ≤ i / pageCap a.pageLimit → rewraps crypto own a.source.val other = true := by
  have leads := @Keyset.map_mem_leading_iff _ (pageCap a.pageLimit - 1) (rewraps crypto own a.source.val) _ _ _
    (Database.keyedMessages_ids wf) _ _ here
  rwa [pageCap_pos] at leads

/-- An approval whose requests succeed ends, and it copies the key of every message whose
source key unwraps exactly when no other key stands on its page or before it. -/
theorem key_sync_copies_iff (ideal : crypto.Ideal) {refreshToken : Option String}
    (inOrder : InOrder crypto a newOwn refreshToken db) (wf : db.WellFormed) (plain : PlainIds db)
    {pages : Nat} (enough : db.messages.length < pages)
    (succeeds : ∀ e, (executeApproveDeviceKeySync crypto a (some own) refreshToken seeds pages db).1 ≠
      .rejected e) :
    (executeApproveDeviceKeySync crypto a (some own) refreshToken seeds pages db).1 ≠ .unfinished ∧
      (CopiesAll crypto a own newOwn db
          (executeApproveDeviceKeySync crypto a (some own) refreshToken seeds pages db).2 ↔
        NoBadKeyBefore crypto a own db) := by
  rw [approve_copies inOrder] at succeeds ⊢
  have start : Midway a ⟨db, [], 0⟩ none [] (db.keyedMessages a.user.val a.source.val) :=
    { wf := wf
      plain := plain
      docs := rfl
      place := .inl ⟨rfl, rfl⟩
      stored := fun upload member => by cases member
      listed := fun upload member => by cases member }
  have few : (db.keyedMessages a.user.val a.source.val).length < pages := by
    have fewer : (db.keyedMessages a.user.val a.source.val).length ≤ db.messages.length := by
      rw [Database.keyedMessages, (Keyset.sorted_perm _).length_eq]
      exact List.length_filter_le _ _
    omega
  obtain ⟨ended, stored, keys, posted, wrapped⟩ := copyPages_copies ideal inOrder.registered start few succeeds
  rw [List.nil_append] at posted
  have copied := @copied_iff _ _ _ crypto a own db wf
  refine ⟨ended, fun all i doc here unwraps => ?_, fun noBad doc member messageKey unwraps => ?_⟩
  · obtain ⟨messageKey, unwrapped⟩ := unwraps
    obtain ⟨upload, held, named, -⟩ := all doc (List.mem_of_getElem? here) messageKey unwrapped
    rw [posted] at held
    have ids : doc.id ∈ (Keyset.leading (pageCap a.pageLimit - 1) (rewraps crypto own a.source.val)
        (db.keyedMessages a.user.val a.source.val)).map MessageDocument.id := by
      rw [← Midway.uploaded_ids wrapped, ← named]
      exact List.mem_map_of_mem held
    exact (copied here).mp ids
  · obtain ⟨i, here⟩ := List.getElem?_of_mem member
    have ids := (copied here).mpr (noBad i doc here ⟨messageKey, unwraps⟩)
    obtain ⟨other, leads, same⟩ := List.mem_map.mp ids
    have unique := List.inj_on_of_nodup_map (Database.keyedMessages_ids wf)
      ((Keyset.leading_begins _).subset leads) member same
    subst unique
    obtain ⟨upload, held, spec⟩ := upload_of_mem wrapped leads
    rw [← posted] at held
    obtain ⟨row, inDb, rowId, rowKey⟩ := stored upload held
    exact ⟨upload, held, spec.id, spec.opens messageKey unwraps, row, inDb, rowId.trans spec.id, rowKey⟩

end Approval

section Planted

open UserId (alice)
open WireDeviceId (deviceA deviceA2)

/-- A message of `bob` with this key for the first device. -/
def message (id : String) (createdAt : Nat) (key : String) : MessageDocument where
  id := id
  conversationId := "c"
  senderId := "bob"
  body := some "cipher"
  mediaKey := none
  encryptedMessageKeys := some (Record.ofList [("dA", key)])
  iv := .value "iv"
  algorithm := .value "hybrid"
  createdAt := createdAt

variable {Seed : Type} (crypto : WebCrypto UInt8 UInt8 Seed)

def deviceRow (deviceId : WireDeviceId) (own : UInt8) : UserPublicKeyDocument where
  userId := "alice"
  deviceId := deviceId.val
  publicKey := exportPublicKeySpkiBase64 crypto own
  deviceLabel := none
  lastSeenAt := none
  createdAt := 1
  updatedAt := 1
  keyVersion := none

/-- Two devices of `alice` and a thread with these two keys. -/
def twoMessages (first second : String) : Database where
  conversations := [⟨"c", none, ["alice", "bob"], false, 1, 1, none⟩]
  messages := [message "m1" 1 first, message "m2" 2 second]
  userDevicePublicKeys := [deviceRow crypto deviceA 1, deviceRow crypto deviceA2 2]

/-- The first device approves the second one, with a message to a page. -/
def approval : SyncApproval where
  user := alice
  source := deviceA
  target := deviceA2
  newDevicePublicKey := exportPublicKeySpkiBase64 crypto 2
  pageLimit := 1

theorem twoMessages_inOrder (registered : crypto.publicKeyOf 2 = 2) (first second : String) :
    InOrder crypto (approval crypto) 2 (some "token") (twoMessages crypto first second) where
  registered := by rw [registered]; rfl
  listed := by
    have trimmed : EcmaText.trim "dA2" = "dA2" := by decide
    exact ⟨deviceRow crypto deviceA2 2, by simp [twoMessages], rfl, trimmed,
      Base64.trimmed_encode (crypto.exportSpki 2)⟩
  token := by decide

theorem twoMessages_wellFormed (first second : String) : (twoMessages crypto first second).WellFormed where
  messageIds := by
    change ["m1", "m2"].Nodup
    decide
  deviceKeys := by
    change [("alice", "dA"), ("alice", "dA2")].Nodup
    decide

theorem twoMessages_plain (first second : String) : PlainIds (twoMessages crypto first second) := by
  have first_plain : EcmaText.trim "m1" = "m1" ∧ "m1" ≠ "" := by decide
  have second_plain : EcmaText.trim "m2" = "m2" ∧ "m2" ≠ "" := by decide
  intro m member
  rcases List.mem_pair.mp member with rfl | rfl
  · exact first_plain
  · exact second_plain

theorem message_keyFor (id : String) (createdAt : Nat) (key : String) :
    (message id createdAt key).keyFor "dA" = some key := rfl

variable {crypto} in
theorem message_rewraps {key : String} {own : UInt8} (id : String) (createdAt : Nat)
    (opens : crypto.openKey key own = .ok (List.replicate 32 0)) :
    rewraps crypto own "dA" (message id createdAt key) = true := by
  unfold rewraps
  rw [message_keyFor, Option.getD_some, unwrapMessageKey, opens]
  exact decide_eq_true List.length_replicate

/-- The key of a message for the first device. -/
def goodKey (seed : Seed) : String := crypto.sealKey seed (List.replicate 32 0) 1

variable {crypto} in
theorem goodKey_opens (ideal : crypto.Ideal) (registered : crypto.publicKeyOf 1 = 1) (seed : Seed) :
    unwrapMessageKey crypto (goodKey crypto seed) 1 = .ok (List.replicate 32 0) := by
  have opens := ideal.open_own seed (List.replicate 32 0) 1
  rwa [registered] at opens

/-- Two keys that unwrap are both copied, on a page each. -/
theorem key_sync_copies_iff_two_pages :
    CopiesAll transparentCrypto (approval transparentCrypto) 1 2
      (twoMessages transparentCrypto (goodKey transparentCrypto ()) (goodKey transparentCrypto ()))
      (executeApproveDeviceKeySync transparentCrypto (approval transparentCrypto) (some 1) (some "token")
        (fun _ => ()) 3
        (twoMessages transparentCrypto (goodKey transparentCrypto ()) (goodKey transparentCrypto ()))).2 := by
  have ran : (executeApproveDeviceKeySync transparentCrypto (approval transparentCrypto) (some 1) (some "token")
      (fun _ => ()) 3
      (twoMessages transparentCrypto (goodKey transparentCrypto ()) (goodKey transparentCrypto ()))).1 =
        .completed := by decide +kernel
  have copies := key_sync_copies_iff transparentCrypto_ideal
    (twoMessages_inOrder transparentCrypto rfl (goodKey transparentCrypto ()) (goodKey transparentCrypto ()))
    (twoMessages_wellFormed transparentCrypto _ _) (twoMessages_plain transparentCrypto _ _)
    (Nat.lt_succ_self 2) (fun e => by rw [ran]; simp)
  rw [copies.2]
  intro i doc _ _ j other listed _
  have member := (Database.mem_keyedMessages.mp (List.mem_of_getElem? listed)).1
  have opens := goodKey_opens transparentCrypto_ideal rfl ()
  rcases List.mem_pair.mp member with rfl | rfl
  · exact message_rewraps "m1" 1 opens
  · exact message_rewraps "m2" 2 opens

/-- The platform with the envelopes of the source. -/
def envelopes : WebCrypto UInt8 UInt8 (WrapSeed UInt8) := withEnvelopes transparentCrypto summedKey

/-- `bob` plants a key that is no envelope: the key of his next message, which
unwraps, is not copied. -/
theorem planted_key_blocks_sync :
    ∃ (db : Database) (seeds : Nat → WrapSeed UInt8),
      InOrder envelopes (approval envelopes) 2 (some "token") db ∧ db.WellFormed ∧ PlainIds db ∧
      (executeApproveDeviceKeySync envelopes (approval envelopes) (some 1) (some "token") seeds 3 db).1 =
        .threw (.error "Invalid hybrid wrap envelope") ∧
      ¬ CopiesAll envelopes (approval envelopes) 1 2 db
        (executeApproveDeviceKeySync envelopes (approval envelopes) (some 1) (some "token") seeds 3 db).2 := by
  refine ⟨twoMessages envelopes "planted" (goodKey envelopes ⟨3, .zero 16, .zero 12⟩),
    fun _ => ⟨3, .zero 16, .zero 12⟩, twoMessages_inOrder envelopes rfl _ _, twoMessages_wellFormed envelopes _ _,
    twoMessages_plain envelopes _ _, by decide +kernel, fun all => ?_⟩
  have posted : (executeApproveDeviceKeySync envelopes (approval envelopes) (some 1) (some "token")
      (fun _ => ⟨3, .zero 16, .zero 12⟩) 3
      (twoMessages envelopes "planted" (goodKey envelopes ⟨3, .zero 16, .zero 12⟩))).2.posted = [] := by
    decide +kernel
  have listed : message "m2" 2 (goodKey envelopes ⟨3, .zero 16, .zero 12⟩) ∈
      (twoMessages envelopes "planted" (goodKey envelopes ⟨3, .zero 16, .zero 12⟩)).keyedMessages
        "alice" "dA" := by
    rw [Database.mem_keyedMessages]
    exact ⟨by simp [twoMessages], by decide +kernel⟩
  have opens := goodKey_opens (withEnvelopes_ideal transparentCrypto_ideal summedKey_agrees) rfl
    ⟨3, .zero 16, .zero 12⟩
  obtain ⟨upload, held, -⟩ := all _ listed (List.replicate 32 0)
    ⟨goodKey envelopes ⟨3, .zero 16, .zero 12⟩, message_keyFor "m2" 2 _, opens⟩
  rw [posted] at held
  cases held

end Planted

end MessagingSystem.Guarantees.KeySyncProgress
