import MessagingSystem.Source.Client.MessagingSlice

/-!
# A fetched row that lags behind keeps the envelope

`GET /conversations/{id}/messages` may answer a row without some fields of the
envelope that Socket.IO delivered. Merged with the stored row such a row is the
stored row again, except that the preview URL is trimmed and a blank media key
is the one of the fetched row.
-/
namespace MessagingSystem.Guarantees.HydrateMerge
open Foundation Source.Client

/-- The fetched field is the stored one, or is absent or null. -/
def Lags {α : Type} (fetched stored : Nullable α) : Prop :=
  fetched = stored ∨ fetched = .undefined ∨ fetched = .null

/-- The map of wrapped keys may be empty too. -/
def KeysLag (fetched stored : Nullable (Record String)) : Prop :=
  Lags fetched stored ∨ ∃ keys, fetched = .value keys ∧ keys.size = 0

/-- A fetched row of the same message that lacks some fields of the stored one. -/
structure Behind (fetched : Message) (stored : StoredMessage) : Prop where
  id : fetched.id = stored.id
  conversationId : fetched.conversationId = stored.conversationId
  senderId : fetched.senderId = stored.senderId
  createdAt : fetched.createdAt = stored.createdAt
  body : Lags fetched.body stored.body
  mediaKey : Lags fetched.mediaKey stored.mediaKey
  encryptedMessageKeys : KeysLag fetched.encryptedMessageKeys stored.encryptedMessageKeys
  iv : Lags fetched.iv stored.iv
  algorithm : Lags fetched.algorithm stored.algorithm

/-- What a wire row holds. -/
structure Envelope (m : Message) (keys : Record String) (iv body : String) : Prop where
  algorithm : m.algorithm = .value MESSAGE_HYBRID_ALGORITHM
  encryptedMessageKeys : m.encryptedMessageKeys = .value keys
  listed : 0 < keys.size
  ivNonBlank : EcmaText.isNonBlank iv = true
  bodyNonBlank : EcmaText.isNonBlank body = true
  iv : m.iv = .value iv
  body : m.body = .value body

theorem isNonBlankField_iff {f : Nullable String} :
    isNonBlankField f = true ↔ ∃ s, f = .value s ∧ EcmaText.isNonBlank s = true := by
  cases f <;> simp [isNonBlankField]

@[simp] theorem isNonBlankField_value (s : String) :
    isNonBlankField (.value s) = EcmaText.isNonBlank s := rfl

theorem isMessageWireE2ee_iff {m : Message} :
    isMessageWireE2ee m = true ↔ ∃ keys iv body, Envelope m keys iv body := by
  constructor
  · intro wire
    simp only [isMessageWireE2ee, isHybridE2eeMessage, Bool.and_eq_true, beq_iff_eq] at wire
    obtain ⟨⟨⟨algorithm, listed⟩, ivHeld⟩, bodyHeld⟩ := wire
    obtain ⟨iv, ivEq, ivNonBlank⟩ := isNonBlankField_iff.mp ivHeld
    obtain ⟨body, bodyEq, bodyNonBlank⟩ := isNonBlankField_iff.mp bodyHeld
    cases keysEq : m.encryptedMessageKeys with
    | undefined => simp [keysEq] at listed
    | null => simp [keysEq] at listed
    | value keys =>
      rw [keysEq] at listed
      exact ⟨keys, iv, body, algorithm, keysEq, of_decide_eq_true listed, ivNonBlank, bodyNonBlank,
        ivEq, bodyEq⟩
  · rintro ⟨keys, iv, body, envelope⟩
    rw [isMessageWireE2ee, isHybridE2eeMessage, envelope.algorithm, envelope.encryptedMessageKeys,
      envelope.iv, envelope.body, isNonBlankField_value, isNonBlankField_value,
      envelope.ivNonBlank, envelope.bodyNonBlank, Bool.and_true, Bool.and_true, beq_self_eq_true,
      Bool.true_and]
    exact decide_eq_true envelope.listed

section Merge

variable {existing : StoredMessage} {fetched : Message} {keys : Record String} {iv body : String}

/-- `x ?? y` of a field that lags and the stored field. -/
theorem Lags.orElse {α : Type} {fetched : Nullable α} {value : α}
    (lags : Lags fetched (.value value)) : fetched.orElse (.value value) = .value value := by
  rcases lags with rfl | rfl | rfl <;> rfl

/-- The preview of the stored row, trimmed. -/
def keptPreview (existing : StoredMessage) : Nullable String :=
  let pv := trimOrEmpty existing.mediaPreviewUrl
  if pv ≠ "" then .value pv else .undefined

/-- A preview that was trimmed before stays as it is. -/
theorem keptPreview_trimmed {row : StoredMessage}
    (kept : row.mediaPreviewUrl = keptPreview existing) :
    keptPreview row = keptPreview existing := by
  by_cases blank : trimOrEmpty existing.mediaPreviewUrl = ""
  · have none : keptPreview existing = .undefined := if_neg (not_not.mpr blank)
    rw [none] at kept ⊢
    rw [keptPreview, kept]
    rfl
  · have some : keptPreview existing = .value (trimOrEmpty existing.mediaPreviewUrl) := if_pos blank
    have again : trimOrEmpty row.mediaPreviewUrl = trimOrEmpty existing.mediaPreviewUrl := by
      rw [kept, some]
      cases existing.mediaPreviewUrl with
      | undefined => rfl
      | null => rfl
      | value url => exact EcmaText.trim_trim url
    rw [some, keptPreview, again]
    exact if_pos blank

/-- The stored row with the fields that the merge decides. -/
def keptRow (existing : StoredMessage) (fetched : Message) : StoredMessage :=
  { existing with
    mediaKey := mergeHydrateMediaKey existing fetched
    mediaPreviewUrl := keptPreview existing }

/-- A wire row that lags behind has every field of the stored one. -/
theorem Behind.same_of_wire (behind : Behind fetched existing)
    (envelope : Envelope existing.toMessage keys iv body)
    (wire : isMessageWireE2ee fetched = true) :
    fetched.body = existing.body ∧ fetched.iv = existing.iv ∧
      fetched.algorithm = existing.algorithm ∧
      fetched.encryptedMessageKeys = existing.encryptedMessageKeys ∧
      0 < encryptedMessageKeyCount fetched := by
  obtain ⟨keys', iv', body', fetchedEnvelope⟩ := isMessageWireE2ee_iff.mp wire
  have present : ∀ {α : Type} {f stored : Nullable α} {value : α}, f = .value value →
      Lags f stored → f = stored := by
    intro α f stored value held lags
    rcases lags with same | none | none
    · exact same
    · simp [held] at none
    · simp [held] at none
  refine ⟨present fetchedEnvelope.body behind.body, present fetchedEnvelope.iv behind.iv,
    fetchedEnvelope.algorithm.trans envelope.algorithm.symm, ?_, ?_⟩
  · rcases behind.encryptedMessageKeys with lags | ⟨empty, held, size⟩
    · exact present fetchedEnvelope.encryptedMessageKeys lags
    · rw [fetchedEnvelope.encryptedMessageKeys, Nullable.value.injEq] at held
      have listed := fetchedEnvelope.listed
      rw [held] at listed
      omega
  · simpa [encryptedMessageKeyCount, fetchedEnvelope.encryptedMessageKeys]
      using fetchedEnvelope.listed

theorem merge_behind (behind : Behind fetched existing)
    (envelope : Envelope existing.toMessage keys iv body) :
    mergeHydrateFetchedWithExisting (some existing) fetched = keptRow existing fetched := by
  have stored : isMessageWireE2ee existing.toMessage = true :=
    isMessageWireE2ee_iff.mpr ⟨keys, iv, body, envelope⟩
  unfold mergeHydrateFetchedWithExisting keptRow keptPreview
  cases wire : isMessageWireE2ee fetched with
  | false =>
    have bodyKept : fetched.body.orElse existing.body = existing.body := by
      have lags := behind.body
      rw [envelope.body] at lags ⊢
      exact lags.orElse
    have ivKept : (existing.iv.orElse fetched.iv).orNull = existing.iv := by
      rw [envelope.iv]
      rfl
    have algorithmKept : (existing.algorithm.orElse fetched.algorithm).orNull =
        existing.algorithm := by
      rw [envelope.algorithm]
      rfl
    simp [stored, bodyKept, ivKept, algorithmKept, behind.id, behind.conversationId,
      behind.senderId, behind.createdAt]
  | true =>
    obtain ⟨sameBody, sameIv, sameAlgorithm, sameKeys, listed⟩ := behind.same_of_wire envelope wire
    have some : (encryptedMessageKeyCount fetched == 0) = false := by simp; omega
    simp [stored, some, sameBody, sameIv, sameAlgorithm, sameKeys, behind.id,
      behind.conversationId, behind.senderId, behind.createdAt]

theorem Envelope.keptRow (envelope : Envelope existing.toMessage keys iv body)
    (fetched : Message) : Envelope (keptRow existing fetched).toMessage keys iv body :=
  ⟨envelope.algorithm, envelope.encryptedMessageKeys, envelope.listed, envelope.ivNonBlank,
    envelope.bodyNonBlank, envelope.iv, envelope.body⟩

theorem mediaKey_kept (behind : Behind fetched existing)
    (nonBlank : trimOrEmpty existing.mediaKey ≠ "") :
    mergeHydrateMediaKey existing fetched = existing.mediaKey := by
  have held : existing.mediaKey.orNull = existing.mediaKey := by
    cases keyEq : existing.mediaKey with
    | undefined => simp [keyEq, trimOrEmpty] at nonBlank
    | null => rfl
    | value key => rfl
  rcases behind.mediaKey with same | none | none
  · simp [mergeHydrateMediaKey, same, nonBlank, held]
  · rw [mergeHydrateMediaKey, none, if_neg (fun filled => filled rfl), if_pos nonBlank, held]
  · rw [mergeHydrateMediaKey, none, if_neg (fun filled => filled rfl), if_pos nonBlank, held]

/-- A blank media key is the one that was fetched. -/
theorem mediaKey_blank (fetched : Message)
    (blank : trimOrEmpty existing.mediaKey = "") :
    mergeHydrateMediaKey existing fetched = fetched.mediaKey.orNull := by
  simp [mergeHydrateMediaKey, blank]

theorem Behind.keptRow (behind : Behind fetched existing) :
    Behind fetched (keptRow existing fetched) := by
  refine ⟨behind.id, behind.conversationId, behind.senderId, behind.createdAt, behind.body, ?_,
    behind.encryptedMessageKeys, behind.iv, behind.algorithm⟩
  show Lags fetched.mediaKey (mergeHydrateMediaKey existing fetched)
  by_cases blank : trimOrEmpty existing.mediaKey = ""
  · rw [mediaKey_blank fetched blank]
    cases fetched.mediaKey <;> simp [Lags, Nullable.orNull]
  · rw [mediaKey_kept behind blank]
    exact behind.mediaKey

theorem keptRow_keptRow (behind : Behind fetched existing) :
    HydrateMerge.keptRow (HydrateMerge.keptRow existing fetched) fetched =
      HydrateMerge.keptRow existing fetched := by
  have keySame : mergeHydrateMediaKey (HydrateMerge.keptRow existing fetched) fetched =
      mergeHydrateMediaKey existing fetched := by
    by_cases blank : trimOrEmpty (mergeHydrateMediaKey existing fetched) = ""
    · rw [mediaKey_blank fetched blank]
      by_cases storedBlank : trimOrEmpty existing.mediaKey = ""
      · rw [mediaKey_blank fetched storedBlank]
      · rw [mediaKey_kept behind storedBlank] at blank
        exact absurd blank storedBlank
    · exact mediaKey_kept behind.keptRow blank
  have previewSame : keptPreview (HydrateMerge.keptRow existing fetched) = keptPreview existing :=
    keptPreview_trimmed rfl
  rw [HydrateMerge.keptRow, keySame, previewSame]
  rfl

end Merge

/-- The merged row is still a wire row with the whole envelope of the stored
one, keeps its media key and its preview, and is what merging it again gives. -/
theorem hydrate_keeps_envelope (existing : StoredMessage) (fetched : Message)
    (wire : isMessageWireE2ee existing.toMessage = true) (behind : Behind fetched existing) :
    isMessageWireE2ee (mergeHydrateFetchedWithExisting (some existing) fetched).toMessage = true ∧
    (mergeHydrateFetchedWithExisting (some existing) fetched).body = existing.body ∧
    (mergeHydrateFetchedWithExisting (some existing) fetched).iv = existing.iv ∧
    (mergeHydrateFetchedWithExisting (some existing) fetched).algorithm = existing.algorithm ∧
    (mergeHydrateFetchedWithExisting (some existing) fetched).encryptedMessageKeys =
      existing.encryptedMessageKeys ∧
    (trimOrEmpty existing.mediaKey ≠ "" →
      (mergeHydrateFetchedWithExisting (some existing) fetched).mediaKey = existing.mediaKey) ∧
    (trimOrEmpty existing.mediaPreviewUrl ≠ "" →
      (mergeHydrateFetchedWithExisting (some existing) fetched).mediaPreviewUrl =
        .value (trimOrEmpty existing.mediaPreviewUrl)) ∧
    mergeHydrateFetchedWithExisting
        (some (mergeHydrateFetchedWithExisting (some existing) fetched)) fetched =
      mergeHydrateFetchedWithExisting (some existing) fetched := by
  obtain ⟨keys, iv, body, envelope⟩ := isMessageWireE2ee_iff.mp wire
  rw [merge_behind behind envelope]
  refine ⟨isMessageWireE2ee_iff.mpr ⟨keys, iv, body, envelope.keptRow fetched⟩, rfl, rfl, rfl, rfl,
    mediaKey_kept behind, fun nonBlank => if_pos nonBlank, ?_⟩
  rw [merge_behind behind.keptRow (envelope.keptRow fetched), keptRow_keptRow behind]

/-- A stored image row, and the row fetched without its keys and media key. -/
def storedImage : StoredMessage where
  id := "m-1"
  conversationId := "c-1"
  senderId := "u-2"
  body := .value "Y2lwaGVy"
  mediaKey := .value "users/u-2/a.png"
  encryptedMessageKeys := .value (Record.ofList [("d-1", "wrapped")])
  iv := .value "aXY="
  algorithm := .value MESSAGE_HYBRID_ALGORITHM
  createdAt := "2026-04-01T12:00:00.000Z"
  mediaPreviewUrl := .value " blob:a "

def fetchedImage : Message :=
  { storedImage.toMessage with
    mediaKey := .null
    encryptedMessageKeys := .value ∅
    iv := .undefined }

theorem fetchedImage_behind : Behind fetchedImage storedImage where
  id := rfl
  conversationId := rfl
  senderId := rfl
  createdAt := rfl
  body := .inl rfl
  mediaKey := .inr (.inr rfl)
  encryptedMessageKeys := .inr ⟨∅, rfl, rfl⟩
  iv := .inr (.inl rfl)
  algorithm := .inl rfl

theorem hydrate_keeps_envelope_image :
    isMessageWireE2ee
        (mergeHydrateFetchedWithExisting (some storedImage) fetchedImage).toMessage = true ∧
      (mergeHydrateFetchedWithExisting (some storedImage) fetchedImage).mediaKey =
        .value "users/u-2/a.png" := by
  have kept := hydrate_keeps_envelope storedImage fetchedImage (by decide) fetchedImage_behind
  exact ⟨kept.1, kept.2.2.2.2.2.1 (by decide)⟩

end MessagingSystem.Guarantees.HydrateMerge
