import MessagingSystem.Guarantees.AddressedDevices
import MessagingSystem.Guarantees.DirectDelivery
import MessagingSystem.Guarantees.InnerPlaintext
import MessagingSystem.Protocol.BrokerPublications
import MessagingSystem.Source.Client.PeerDecryption
import MessagingSystem.Source.Client.UseSendEncryptedMessage

/-!
# A message is read as it was typed

From the composer of one tab to the bubble of another: the encrypted send, the
schema, the stored document, the broker, the parser of the tab, its decrypt pass
and the text it shows.
-/
namespace MessagingSystem.Guarantees.ReadAsTyped
open Foundation Source.Server Source.Client Protocol AddressedDevices InnerPlaintext DirectDelivery

section Text

/-- A trimmed text starts with no white space. -/
theorem head_of_trimmed {s : String} (trimmed : EcmaText.Trimmed s) {c : Char} (head : s.toList.head? = some c) :
    EcmaText.isSpace c = false := by
  have same : EcmaText.trimChars s.toList = s.toList := by
    have lists := congrArg String.toList (show EcmaText.trim s = s from trimmed)
    rwa [EcmaText.trim, String.toList_ofList] at lists
  have start : EcmaText.trimChars s.toList <+: s.toList.dropWhile EcmaText.isSpace := List.rdropWhile_prefix _ _
  rw [same] at start
  cases front : s.toList.dropWhile EcmaText.isSpace with
  | nil =>
    rw [front] at start
    rw [List.prefix_nil.mp start] at head
    cases head
  | cons d rest =>
    rw [front] at start
    have first : d = c := by
      cases text : s.toList with
      | nil =>
        rw [text] at head
        cases head
      | cons e more =>
        rw [text] at head start
        cases head
        exact (List.cons_prefix_cons.mp start).1.symm
    have solid := List.head_dropWhile_not EcmaText.isSpace (l := s.toList) (by simp [front])
    simp only [front, List.head_cons] at solid
    rw [← first]
    exact solid

/-- A trimmed text survives `TextEncoder` and `TextDecoder`. -/
theorem decode_encode_trimmed {s : String} (trimmed : EcmaText.Trimmed s) :
    TextCoding.decode (TextCoding.encode (TextCoding.units s.toList)) = TextCoding.units s.toList := by
  rw [TextCoding.decode_encode_iff]
  constructor
  · unfold TextCoding.IsWellFormed
    rw [TextCoding.scalars_units]
  · intro marked
    have head := (TextCoding.head_scalars _).mpr marked
    rw [TextCoding.scalars_units] at head
    exact absurd (head_of_trimmed trimmed head) (by decide)

theorem trimmed_trimOrEmpty (f : Nullable String) : EcmaText.Trimmed (trimOrEmpty f) := by
  cases f with
  | undefined => decide
  | null => decide
  | value s => exact EcmaText.trimmed_trim s

/-- The text and the media key of a payload, as they are to come back. -/
def typedText (typed : HybridSendRequest) : String := trimOrEmpty typed.body

def typedKey (typed : HybridSendRequest) : Option String :=
  if trimOrEmpty typed.mediaKey ≠ "" then some (trimOrEmpty typed.mediaKey) else none

theorem keptKey_typed (typed : HybridSendRequest) : keptKey (typedKey typed) = typedKey typed := by
  have again : EcmaText.trim (trimOrEmpty typed.mediaKey) = trimOrEmpty typed.mediaKey :=
    trimmed_trimOrEmpty typed.mediaKey
  unfold keptKey typedKey
  by_cases empty : trimOrEmpty typed.mediaKey = ""
  · simp [empty]
  · simp [empty, again]

theorem innerUtf8_eq (env : MediaEnv) (typed : HybridSendRequest) :
    innerUtf8 env typed = serializeHybridInnerPlaintextV1 env (typedText typed) (typedKey typed)
      typed.mediaRetrievableUrl.toOption := rfl

theorem innerUtf8_trimmed (env : MediaEnv) (typed : HybridSendRequest) : EcmaText.Trimmed (innerUtf8 env typed) := by
  rw [innerUtf8_eq]
  unfold serializeHybridInnerPlaintextV1
  dsimp only
  split
  · exact trimmed_trimOrEmpty typed.body
  · unfold envelopeJson Json.stringify
    rw [Json.write, List.cons_append]
    exact EcmaText.trimmed_of_ends _ _ _ (by decide) (by decide)

/-- The text and the key that the decoder reads do not depend on its environment. -/
theorem parsed_env (env env' : MediaEnv) (utf8 : String) :
    (parseDecryptedHybridUtf8 env' utf8).text = (parseDecryptedHybridUtf8 env utf8).text ∧
      (parseDecryptedHybridUtf8 env' utf8).mediaObjectKey = (parseDecryptedHybridUtf8 env utf8).mediaObjectKey := by
  unfold parseDecryptedHybridUtf8
  cases v1Members utf8 with
  | none => exact ⟨rfl, rfl⟩
  | some parsed =>
    dsimp only
    unfold parsedEnvelope
    dsimp only
    split <;> exact ⟨rfl, rfl⟩

/-- A text that is not taken for an envelope, or comes with a key, comes back with the key. -/
theorem decryptedBodyOf_inner (env env' : MediaEnv) {typed : HybridSendRequest}
    (told : typedKey typed ≠ none ∨ ¬ IsEnvelope (typedText typed)) :
    (decryptedBodyOf env' (TextCoding.units (innerUtf8 env typed).toList)).plaintext = typedText typed ∧
    (decryptedBodyOf env' (TextCoding.units (innerUtf8 env typed).toList)).resolvedAttachmentKey =
      ((typedKey typed).map Nullable.value).getD .undefined := by
  obtain ⟨text, key⟩ := parsed_env env env' (innerUtf8 env typed)
  have back : RoundTrips env (typedText typed) (typedKey typed) typed.mediaRetrievableUrl.toOption := by
    cases held : keptKey (typedKey typed) with
    | some key => exact roundTrips_of_key env _ held
    | none =>
      have plain : typedKey typed = none := by rw [← keptKey_typed, held]
      have unread := v1Members_eq_none.mpr (told.resolve_left fun some => some plain)
      rw [RoundTrips, serialize_plain env _ held, held, parseDecryptedHybridUtf8, unread]
      exact ⟨rfl, rfl⟩
  obtain ⟨textBack, keyBack⟩ := back
  rw [← innerUtf8_eq] at textBack keyBack
  unfold decryptedBodyOf
  rw [TextCoding.scalars_units, String.ofList_toList]
  dsimp only
  rw [text, key, textBack, keyBack, keptKey_typed]
  exact ⟨rfl, rfl⟩

end Text

section Wire

variable {PublicKey PrivateKey Seed : Type} {crypto : WebCrypto PublicKey PrivateKey Seed}
variable {draws : HybridDraws Seed} {plaintext : CodeUnits} {request : EncryptedSendRequest}

/-- The payload that the schema makes of the members of a request. -/
def payloadOf (request : EncryptedSendRequest) : SendMessageRequest where
  conversationId := request.conversationId
  recipientUserId := request.recipientUserId
  body := .value request.hybrid.body
  mediaKey := .null
  encryptedMessageKeys := some request.hybrid.encryptedMessageKeys
  iv := .value request.hybrid.iv
  algorithm := .value request.hybrid.algorithm

/-- The request names a thread or a recipient, not both, and no empty one. -/
structure Addresses (request : EncryptedSendRequest) : Prop where
  thread : request.conversationId ≠ .value ""
  recipient : request.recipientUserId ≠ .value ""
  one : hasText request.conversationId ≠ hasText request.recipientUserId

theorem nullableTextSchema_field (check : String → Bool) (f : Nullable String) :
    nullableTextSchema check (fieldJson f) = if (f.toOption.all check) = true then some f else none := by
  cases f with
  | undefined => rfl
  | null => rfl
  | value s => cases checked : check s <;> simp [fieldJson, nullableTextSchema, Nullable.toOption, checked]

theorem nonEmptyText_iff {s : String} : nonEmptyText s = true ↔ s ≠ "" := by
  unfold nonEmptyText EcmaText.codeUnitLength
  rw [decide_eq_true_eq]
  constructor
  · rintro long rfl
    simp at long
  · intro nonempty
    cases chars : s.toList with
    | nil => exact absurd (String.toList_eq_nil_iff.mp chars) nonempty
    | cons c rest =>
      have one : 1 ≤ EcmaText.charUnits c := by
        unfold EcmaText.charUnits
        split <;> omega
      rw [List.foldr_cons]
      omega

theorem all_nonEmptyText {f : Nullable String} : (f.toOption.all nonEmptyText) = true ↔ f ≠ .value "" := by
  cases f with
  | undefined => simp [Nullable.toOption]
  | null => simp [Nullable.toOption]
  | value s => simp [Nullable.toOption, nonEmptyText_iff]

/-- The schema reads a record back, when no name of it is `__proto__`. -/
theorem encryptedMessageKeysSchema_record {keys : Record String} (plain : keys.get "__proto__" = none) :
    encryptedMessageKeysSchema (some (.object (keys.names.map fun name =>
      (name, .string ((keys.get name).getD ""))))) = some (some keys) := by
  have own : (keys.names.map fun name => (name, Json.string ((keys.get name).getD ""))).filter
      (fun m => m.1 ≠ "__proto__") = keys.names.map fun name => (name, Json.string ((keys.get name).getD "")) := by
    apply List.filter_eq_self.mpr
    intro m member
    obtain ⟨name, listed, rfl⟩ := List.mem_map.mp member
    rw [Record.mem_names] at listed
    rw [decide_eq_true_eq]
    rintro rfl
    rw [plain] at listed
    cases listed
  have read : ∀ names : List String, (names.map fun name => (name, Json.string ((keys.get name).getD ""))).mapM
      (fun m => (Json.asString (some m.2)).map fun key => (m.1, key)) =
        some (names.map fun name => (name, (keys.get name).getD "")) := by
    intro names
    induction names with
    | nil => rfl
    | cons name rest ih =>
      rw [List.map_cons, List.mapM_cons, ih]
      rfl
  unfold encryptedMessageKeysSchema
  simp only [own, read, Option.bind_eq_bind, Option.bind_some, Option.some.injEq]
  refine Record.ext fun name => (Record.get_tabulate _ _ _).trans ?_
  cases held : keys.get name with
  | none =>
    rw [if_neg]
    rw [Record.mem_names, held]
    exact Bool.false_ne_true
  | some key =>
    rw [if_pos]
    · rfl
    · rw [Record.mem_names, held]
      rfl

theorem encode_nonempty {bytes : List UInt8} (nonempty : bytes ≠ []) : EcmaText.trim (Base64.encode bytes) ≠ "" := by
  have trimmed : EcmaText.trim (Base64.encode bytes) = Base64.encode bytes := Base64.trimmed_encode bytes
  rw [trimmed]
  intro empty
  have back := Base64.decode_encode bytes
  rw [empty] at back
  exact nonempty (Option.some.inj back).symm

theorem hasText_trimmed {s : String} (solid : EcmaText.Trimmed s ∧ s ≠ "") : hasText (.value s) = true := by
  have same : EcmaText.trim s = s := solid.1
  simp [hasText, trimmedField, same, solid.2]

/-- AES-GCM appends its tag, so no ciphertext is empty. -/
def Tagged (crypto : WebCrypto PublicKey PrivateKey Seed) : Prop :=
  ∀ key iv text, key.length = 32 → iv.length = 12 → crypto.aesGcmEncrypt key iv text ≠ []

/-- What an encryption puts on the wire. -/
structure Enveloped (hybrid : HybridSendPayload) : Prop where
  body : EcmaText.Trimmed hybrid.body ∧ hybrid.body ≠ ""
  iv : EcmaText.Trimmed hybrid.iv ∧ hybrid.iv ≠ ""
  algorithm : hybrid.algorithm = MESSAGE_HYBRID_ALGORITHM
  keys : hybrid.encryptedMessageKeys.get "__proto__" = none

theorem enveloped (tagged : Tagged crypto)
    {devices : List HybridDeviceRow} {hybrid : HybridSendPayload}
    (encrypted : encryptUtf8ToHybridSendPayload crypto draws plaintext devices = .ok hybrid) : Enveloped hybrid := by
  obtain ⟨-, encrypts, algorithm, wrapped⟩ := encryptUtf8_eq_ok.mp encrypted
  have drawn : draws.iv.bytes ≠ [] := by
    intro empty
    have length := draws.iv.length_eq
    rw [empty] at length
    simp at length
  have solid {bytes : List UInt8} (nonempty : bytes ≠ []) : Base64.encode bytes ≠ "" := by
    intro empty
    exact encode_nonempty nonempty (by rw [empty]; exact EcmaText.trim_empty)
  constructor
  · rw [encrypts.body]
    exact ⟨Base64.trimmed_encode _, solid (tagged _ _ _ draws.messageKey.length_eq draws.iv.length_eq)⟩
  · rw [encrypts.iv]
    exact ⟨Base64.trimmed_encode _, solid drawn⟩
  · exact algorithm
  · rw [wrapForDevices_proto draws.messageKey.length_eq wrapped]
    rfl

/-- The schema accepts the request exactly when it is addressed. -/
theorem schema_members (enveloped : Enveloped request.hybrid) :
    sendMessageRequestSchema (.object request.members) = some (payloadOf request) ∧ Addresses request ∨
      sendMessageRequestSchema (.object request.members) = none ∧ ¬ Addresses request := by
  have conversationId : Json.member request.members "conversationId" = fieldJson request.conversationId := by
    simp [EncryptedSendRequest.members, Json.member_append, member_nullableMember, member_keysMember]
  have recipientUserId : Json.member request.members "recipientUserId" = fieldJson request.recipientUserId := by
    simp [EncryptedSendRequest.members, Json.member_append, member_nullableMember, member_keysMember]
  have body : Json.member request.members "body" = some (.string request.hybrid.body) := by
    simp [EncryptedSendRequest.members, Json.member_append, member_nullableMember]
  have mediaKey : Json.member request.members "mediaKey" = some .null := by
    simp [EncryptedSendRequest.members, Json.member_append, member_nullableMember]
  have keys : Json.member request.members "encryptedMessageKeys" =
      some (.object (request.hybrid.encryptedMessageKeys.names.map fun name =>
        (name, .string ((request.hybrid.encryptedMessageKeys.get name).getD "")))) := by
    simp [EncryptedSendRequest.members, Json.member_append, member_nullableMember, keysMember]
  have iv : Json.member request.members "iv" = some (.string request.hybrid.iv) := by
    simp [EncryptedSendRequest.members, Json.member_append, member_nullableMember]
  have algorithm : Json.member request.members "algorithm" = some (.string request.hybrid.algorithm) := by
    simp [EncryptedSendRequest.members, Json.member_append, member_nullableMember, member_keysMember]
  have tag : nullableTextSchema (fun s => EcmaText.codeUnitLength s ≤ 256)
      (some (.string request.hybrid.algorithm)) = some (.value request.hybrid.algorithm) := by
    rw [enveloped.algorithm]
    rfl
  have checks : sendMessageIssues (payloadOf request) = [] ↔
      hasText request.conversationId ≠ hasText request.recipientUserId := by
    have bodyText : hasText (payloadOf request).body = true := hasText_trimmed enveloped.body
    have ivText : hasText (payloadOf request).iv = true := hasText_trimmed enveloped.iv
    have tagText : hasText (payloadOf request).algorithm = true := by
      show hasText (.value request.hybrid.algorithm) = true
      rw [enveloped.algorithm]
      decide
    rw [sendMessageIssues_eq_nil, bodyText, ivText, tagText]
    simp [payloadOf]
  have read : sendMessageRequestSchema (.object request.members) =
      if request.conversationId.toOption.all nonEmptyText = true ∧ request.recipientUserId.toOption.all nonEmptyText = true ∧
          sendMessageIssues (payloadOf request) = [] then some (payloadOf request) else none := by
    unfold sendMessageRequestSchema
    simp only [Json.asObject, Option.bind_eq_bind, Option.bind_some, conversationId, recipientUserId, body, mediaKey,
      keys, iv, algorithm, nullableTextSchema_field, encryptedMessageKeysSchema_record enveloped.keys, tag, bodySchema]
    cases thread : request.conversationId.toOption.all nonEmptyText with
    | false => simp
    | true =>
      cases recipient : request.recipientUserId.toOption.all nonEmptyText with
      | false => simp
      | true => simp [nullableTextSchema, payloadOf]
  rw [read]
  by_cases accepted : request.conversationId.toOption.all nonEmptyText = true ∧
      request.recipientUserId.toOption.all nonEmptyText = true ∧ sendMessageIssues (payloadOf request) = []
  · rw [if_pos accepted]
    obtain ⟨thread, recipient, none⟩ := accepted
    exact .inl ⟨rfl, all_nonEmptyText.mp thread, all_nonEmptyText.mp recipient, checks.mp none⟩
  · rw [if_neg accepted]
    exact .inr ⟨rfl, fun addressed => accepted ⟨all_nonEmptyText.mpr addressed.thread,
      all_nonEmptyText.mpr addressed.recipient, checks.mpr addressed.one⟩⟩

/-- The payload of a composer: of an open thread, or of the first message to a user that the search listed. -/
def FromComposer (typed : HybridSendRequest) : Prop :=
  (∃ conversationId userId payload uuid now row request,
    prepareSend conversationId userId payload uuid now = .ok (row, request) ∧ typed = request.toRequest) ∨
  ∃ recipientUserId text mediaKey url, EcmaText.isNonBlank recipientUserId = true ∧
    typed = newDirectThreadRequest recipientUserId text mediaKey url

theorem prepareSend_named {conversationId userId : Option String} {payload : ThreadComposerSendPayload}
    {uuid now : String} {row : StoredMessage} {request : HybridSendMessageRequest}
    (success : prepareSend conversationId userId payload uuid now = .ok (row, request)) :
    EcmaText.trim request.conversationId ≠ "" := by
  obtain ⟨-, named, -, same⟩ := prepareSend_success success
  have nonblank : EcmaText.isNonBlank (conversationId.getD "") = true := by
    by_contra blank
    unfold prepareSend at success
    rw [if_pos (by simp [blank])] at success
    cases success
  rw [same, named, EcmaText.trim_trim]
  exact EcmaText.isNonBlank_iff.mp nonblank

/-- A field with more than white space. -/
theorem named_field {s : String} (nonblank : EcmaText.trim s ≠ "") :
    Nullable.value s ≠ .value "" ∧ hasText (.value s) = true := by
  constructor
  · rintro same
    cases same
    exact nonblank EcmaText.trim_empty
  · simp [hasText, trimmedField, nonblank]

/-- The schema accepts whatever the encrypted send makes of the payload of a composer. -/
theorem composed_requests_accepted {env : MediaEnv} (tagged : Tagged crypto) {around : SendSurroundings}
    {senderId peerUserId : Option String} {typed : HybridSendRequest} (composer : FromComposer typed)
    (composed : sendEncryptedMessage crypto env around draws senderId peerUserId typed = .ok request) :
    sendMessageRequestSchema (.object request.members) = some (payloadOf request) := by
  obtain ⟨encrypted, thread, recipient⟩ := sendEncryptedMessage_ok composed
  have addressed : Addresses request := by
    rcases composer with ⟨_, _, _, _, _, _, sent, prepared, rfl⟩ | ⟨user, text, key, url, nonblank, rfl⟩
    · obtain ⟨nonempty, text⟩ := named_field (prepareSend_named prepared)
      constructor
      · rw [thread]
        exact nonempty
      · rw [recipient]
        exact nofun
      · rw [thread, recipient]
        exact fun same => Bool.false_ne_true (text.symm.trans same).symm
    · obtain ⟨nonempty, text⟩ := named_field (EcmaText.isNonBlank_iff.mp nonblank)
      constructor
      · rw [thread]
        exact nofun
      · rw [recipient]
        exact nonempty
      · rw [thread, recipient]
        exact fun same => Bool.false_ne_true (same.trans text)
  rcases schema_members (enveloped tagged encrypted) with ⟨accepted, -⟩ | ⟨-, unaddressed⟩
  · exact accepted
  · exact absurd addressed unaddressed

end Wire

section Slots

variable {PublicKey PrivateKey Seed : Type} {crypto : WebCrypto PublicKey PrivateKey Seed}
variable {messageKey : List UInt8} {seed : Nat → Seed} {n : Nat} {devices : List HybridDeviceRow}
variable {keys out : Record String}

/-- What the loop over the devices writes is sealed for the key of one of them. -/
theorem wrapForDevices_sealed (length : messageKey.length = 32)
    (done : wrapForDevices crypto messageKey seed n devices keys = .ok out) {id envelope : String}
    (held : out.get id = some envelope) : keys.get id = some envelope ∨
      ∃ d ∈ devices, ∃ drawn recipient, importRecipientPublicEcdhP256 crypto d.publicKey = .ok recipient ∧
        envelope = crypto.sealKey drawn messageKey recipient := by
  induction devices generalizing n keys with
  | nil =>
    rw [wrapForDevices, Except.ok.injEq] at done
    exact .inl (done ▸ held)
  | cons d rest ih =>
    obtain ⟨recipient, imported, done⟩ := (wrapForDevices_cons length).mp done
    rcases ih done with before | ⟨later, member, sealed⟩
    · rw [get_assignProperty] at before
      split at before
      · cases before
        exact .inr ⟨d, List.mem_cons_self, seed n, recipient, imported, rfl⟩
      · exact .inl before
    · exact .inr ⟨later, List.mem_cons_of_mem _ member, sealed⟩

variable {draws : HybridDraws Seed} {plaintext : CodeUnits} {recipientRows selfRows : List HybridDeviceRow}
variable {hybrid : HybridSendPayload} {row : HybridDeviceRow}

/-- The row has a slot that no row of another key contends for. -/
structure Slotted (crypto : WebCrypto PublicKey PrivateKey Seed) (rows : List HybridDeviceRow)
    (row : HybridDeviceRow) : Prop where
  nonblank : EcmaText.trim row.deviceId ≠ ""
  plain : EcmaText.trim row.deviceId ≠ "__proto__"
  unshared : ∀ other ∈ rows, EcmaText.trim other.deviceId = EcmaText.trim row.deviceId →
    importRecipientPublicEcdhP256 crypto other.publicKey = importRecipientPublicEcdhP256 crypto row.publicKey

/-- The slot of such a row is sealed for its own key. -/
theorem slot_of_slotted (encrypted : encryptUtf8ToHybridSendPayload crypto draws plaintext
      (mergeHybridDeviceRows [recipientRows, selfRows]) = .ok hybrid)
    (member : row ∈ recipientRows ++ selfRows) (slotted : Slotted crypto (recipientRows ++ selfRows) row)
    {own : PrivateKey} (matching : importRecipientPublicEcdhP256 crypto row.publicKey = .ok (crypto.publicKeyOf own)) :
    ∃ drawn, hybrid.encryptedMessageKeys.get (EcmaText.trim row.deviceId) =
      some (crypto.sealKey drawn draws.messageKey.bytes (crypto.publicKeyOf own)) := by
  obtain ⟨-, -, -, wrapped⟩ := encryptUtf8_eq_ok.mp encrypted
  obtain ⟨listed, original, id, kept⟩ := row_of_union member slotted.nonblank
  obtain ⟨drawn, recipient, imported, slot⟩ := wrapForDevices_get draws.messageKey.length_eq wrapped (merged_nodup _)
    kept slotted.plain
  have same : importRecipientPublicEcdhP256 crypto listed.publicKey = .ok recipient := imported
  rw [slotted.unshared listed original id, matching, Except.ok.injEq] at same
  rw [← same] at slot
  exact ⟨drawn, slot⟩

/-- A private key that no listed row belongs to opens no slot. -/
theorem unread_by_others (ideal : crypto.Ideal)
    (encrypted : encryptUtf8ToHybridSendPayload crypto draws plaintext
      (mergeHybridDeviceRows [recipientRows, selfRows]) = .ok hybrid) {other : PrivateKey}
    (unlisted : ∀ row ∈ recipientRows ++ selfRows,
      importRecipientPublicEcdhP256 crypto row.publicKey ≠ .ok (crypto.publicKeyOf other)) (deviceId : String)
    (text : CodeUnits) :
    decryptHybridMessageToUtf8 crypto hybrid.body hybrid.iv hybrid.encryptedMessageKeys deviceId other ≠ .ok text := by
  obtain ⟨-, -, -, wrapped⟩ := encryptUtf8_eq_ok.mp encrypted
  cases held : hybrid.encryptedMessageKeys.get (EcmaText.trim deviceId) with
  | none =>
    intro read
    have slot : ∀ key, wrappedKeyFor hybrid.encryptedMessageKeys deviceId ≠ .ok key := by
      intro key
      unfold wrappedKeyFor readProperty
      rw [held]
      by_cases inherited : EcmaText.trim deviceId ∈ objectPrototypeNames
      · simp [inherited]
      · simp [inherited]
    unfold decryptHybridMessageToUtf8 at read
    cases found : wrappedKeyFor hybrid.encryptedMessageKeys deviceId with
    | error e =>
      rw [found] at read
      cases read
    | ok key => exact slot key found
  | some envelope =>
    rcases wrapForDevices_sealed draws.messageKey.length_eq wrapped held with before | ⟨d, member, drawn, recipient,
      imported, rfl⟩
    · cases before
    · apply decryptHybrid_other ideal other held
      rintro rfl
      obtain ⟨listed, inLists, -, rfl⟩ := mem_merged member
      exact unlisted listed (by simpa using inLists) imported

end Slots

section Sends

variable {PublicKey PrivateKey Seed : Type}

/-- A send, from the payload of a composer to the document that the server stores for it, with the ids that
`randomUUID` has drawn for the message and for its thread. -/
structure TypedSend (crypto : WebCrypto PublicKey PrivateKey Seed) (env : MediaEnv) where
  around : SendSurroundings
  draws : HybridDraws Seed
  senderId : Option String
  peerUserId : Option String
  typed : HybridSendRequest
  request : EncryptedSendRequest
  composed : sendEncryptedMessage crypto env around draws senderId peerUserId typed = .ok request
  sent : DirectSend
  received : sendMessageRequestSchema (.object request.members) = some sent.payload
  drawn : EcmaText.Trimmed sent.stamp.messageUuid ∧ sent.stamp.messageUuid ≠ ""
  thread : EcmaText.Trimmed sent.doc.conversationId ∧ sent.doc.conversationId ≠ ""

variable {crypto : WebCrypto PublicKey PrivateKey Seed} {env : MediaEnv}

namespace TypedSend

/-- The rows of the directory that the message is encrypted for. -/
def rows (send : TypedSend crypto env) : List HybridDeviceRow :=
  send.around.directory.rowsOf (sendRecipient send.peerUserId send.typed) ++ send.around.directory.rowsOf "me"

/-- The message of the stored document. -/
def message (send : TypedSend crypto env) : Message := apiMessage send.sent.doc

/-- What the server stores of an accepted request is read back whole. -/
theorem clean (send : TypedSend crypto env) : (apiMessage send.sent.doc).Clean := by
  obtain ⟨recipient, conversationId, resolved, -, -, -, -, -, inserted⟩ := sendMessageForUser_inserts send.sent.success
  obtain ⟨document, -, -⟩ := insertDirectMessageAndPublish_stores inserted
  have thread := send.thread
  rw [document] at thread ⊢
  exact newMessage_clean send.received send.drawn send.sent.sender thread _

end TypedSend

/-- What the document keeps of the envelope. -/
structure StoredEnvelope (hybrid : HybridSendPayload) (m : Message) : Prop where
  body : m.body = .value hybrid.body
  mediaKey : m.mediaKey = .null
  keys : m.encryptedMessageKeys = .value hybrid.encryptedMessageKeys
  iv : m.iv = .value hybrid.iv
  algorithm : m.algorithm = .value MESSAGE_HYBRID_ALGORITHM

/-- The stored message is the envelope that was sent, and no media key beside it. -/
theorem TypedSend.stored (tagged : Tagged crypto)
    (send : TypedSend crypto env) : StoredEnvelope send.request.hybrid send.message := by
  obtain ⟨encrypted, -, -⟩ := sendEncryptedMessage_ok send.composed
  have wire := enveloped tagged encrypted
  have payload : send.sent.payload = payloadOf send.request := by
    rcases schema_members wire with ⟨accepted, -⟩ | ⟨rejected, -⟩
    · exact Option.some.inj (send.received.symm.trans accepted)
    · exact absurd (send.received.symm.trans rejected) (Option.some_ne_none _)
  obtain ⟨recipient, conversationId, resolved, -, -, -, -, -, inserted⟩ := sendMessageForUser_inserts send.sent.success
  obtain ⟨doc, -, -⟩ := insertDirectMessageAndPublish_stores inserted
  have bodyTrim : EcmaText.trim send.request.hybrid.body = send.request.hybrid.body := wire.body.1
  have ivTrim : EcmaText.trim send.request.hybrid.iv = send.request.hybrid.iv := wire.iv.1
  have tag : normalizeEnvelopeField (.value send.request.hybrid.algorithm) = .value MESSAGE_HYBRID_ALGORITHM := by
    rw [wire.algorithm]
    rfl
  unfold TypedSend.message
  rw [doc, payload]
  constructor
  · simp [apiMessage, newMessage, payloadOf, normalizeText, bodyTrim, wire.body.2, nullableOf]
  · show nullableOf (storedMediaKey (payloadOf send.request)) = .null
    have none : storedMediaKey (payloadOf send.request) = none := by
      unfold storedMediaKey
      split <;> rfl
    rw [none]
    rfl
  · rfl
  · simp [apiMessage, newMessage, payloadOf, normalizeEnvelopeField, ivTrim, wire.iv.2]
  · exact tag

/-- A device reads a message of its store: a pass takes it up, and the bubble shows text and key as they were typed. -/
structure ReadBy (crypto : WebCrypto PublicKey PrivateKey Seed) (env : MediaEnv) (typed : HybridSendRequest)
    (m : Message) (deviceId : String) (own : PrivateKey) : Prop where
  taken : ∀ (s : MessagingState) uid row, s.messagesById.get m.id = some row → row.toMessage = m →
    shouldRetryPeerDecryptAfterCachedFailure (s.decryptedBodyByMessageId.get m.id) = true →
    ¬ (m.senderId = uid ∧ (s.senderPlaintextByMessageId.get m.id).isSome) → decryptTargets s uid [m.id] = [m]
  shown : ∀ (s : MessagingState) isOwn, (isOwn = true → s.senderPlaintextByMessageId.get m.id = none) →
    resolveMessageDisplayBody m isOwn s.senderPlaintextByMessageId
      (s.record m.id (decryptOutcome crypto env m (some deviceId) own)).decryptedBodyByMessageId = typedText typed
  attached : ∀ (s : MessagingState) key, typedKey typed = some key →
    (s.record m.id (decryptOutcome crypto env m (some deviceId) own)).decryptedAttachmentKeyByMessageId.get m.id =
      some key

/-- A row of the envelope with a slot is a hybrid row. -/
theorem isHybrid_of_stored {hybrid : HybridSendPayload} {m : Message} (stored : StoredEnvelope hybrid m)
    (wire : Enveloped hybrid) {id envelope : String} (slot : hybrid.encryptedMessageKeys.get id = some envelope) :
    isHybridE2eeMessage m = true := by
  have filled : 0 < hybrid.encryptedMessageKeys.size := by
    by_contra empty
    rw [Record.get_of_size (Nat.eq_zero_of_not_pos empty) id] at slot
    cases slot
  unfold isHybridE2eeMessage isNonBlankField
  rw [stored.body, stored.keys, stored.iv, stored.algorithm]
  simp [filled, isNonBlank_trimmed wire.body, isNonBlank_trimmed wire.iv]

theorem decryptTargets_single {s : MessagingState} {uid mid : String} {m : Message}
    (target : decryptTarget s uid mid = some m) : decryptTargets s uid [mid] = [m] := by
  unfold decryptTargets
  rw [List.filterMap_cons_some target]
  rfl

/-- A device with a slot of its own reads the stored message. -/
theorem readBy_of_slotted (ideal : crypto.Ideal) (tagged : Tagged crypto)
    (send : TypedSend crypto env) (told : typedKey send.typed ≠ none ∨ ¬ IsEnvelope (typedText send.typed))
    {row : HybridDeviceRow} (member : row ∈ send.rows) (slotted : Slotted crypto send.rows row) {own : PrivateKey}
    (matching : importRecipientPublicEcdhP256 crypto row.publicKey = .ok (crypto.publicKeyOf own)) (env' : MediaEnv) :
    ReadBy crypto env' send.typed send.message (EcmaText.trim row.deviceId) own := by
  obtain ⟨encrypted, -, -⟩ := sendEncryptedMessage_ok send.composed
  have wire := enveloped tagged encrypted
  have stored := send.stored tagged
  obtain ⟨drawn, slot⟩ := slot_of_slotted encrypted member slotted matching
  have hybrid := isHybrid_of_stored stored wire slot
  obtain ⟨-, encrypts, -, -⟩ := encryptUtf8_eq_ok.mp encrypted
  have again : EcmaText.trim (EcmaText.trim row.deviceId) = EcmaText.trim row.deviceId := EcmaText.trim_trim _
  have decrypts : decryptRow crypto send.message (EcmaText.trim row.deviceId) own =
      .ok (TextCoding.units (innerUtf8 env send.typed).toList) := by
    unfold decryptRow
    rw [stored.keys, stored.body, stored.iv]
    rw [← again] at slot
    exact (decryptHybrid_own ideal encrypts slot).trans
      (congrArg Except.ok (decode_encode_trimmed (innerUtf8_trimmed env send.typed)))
  have outcome := @decryptOutcome_of_decrypts _ _ _ crypto env' _ _ _ _ again decrypts
  obtain ⟨text, key⟩ := decryptedBodyOf_inner env env' told
  constructor
  · intro s uid held row' same retry notOwn
    exact decryptTargets_single (decryptTarget_eq_some_iff.mpr ⟨held, row', same, hybrid, retry, notOwn⟩)
  · intro s isOwn notTyped
    have entry : (s.record send.message.id (decryptOutcome crypto env' send.message
        (some (EcmaText.trim row.deviceId)) own)).decryptedBodyByMessageId.get send.message.id =
          some (typedText send.typed) := by
      rw [MessagingState.record_get, if_pos rfl, outcome, text]
    have raw : textOrEmpty send.message.body ≠ "" := by
      rw [stored.body]
      exact wire.body.2
    unfold resolveMessageDisplayBody isMessageWireE2ee
    dsimp only
    rw [if_neg raw, hybrid, entry]
    cases isOwn with
    | false => rfl
    | true =>
      rw [notTyped rfl]
      rfl
  · intro s key' typed
    unfold MessagingState.record setPeerDecryptedBody
    dsimp only
    rw [outcome, key, typed]
    have given : trimOrEmpty (.value key') = key' ∧ key' ≠ "" := by
      unfold typedKey at typed
      split at typed
      · rename_i nonempty
        cases typed
        exact ⟨trimmed_trimOrEmpty send.typed.mediaKey, nonempty⟩
      · cases typed
    simp [storeOrDelete, given.1, given.2]

/-- A tab that does not hold the message and is not its sender's stores it as it came. -/
theorem appended (m : Message) {s : MessagingState} {user : String} (other : m.senderId ≠ EcmaText.trim user)
    (absent : s.messagesById.get m.id = none) :
    (appendIncomingMessageIfNew s m (some user)).messagesById.get m.id = some m.toStored := by
  obtain ⟨-, -, rows, -, -⟩ := appendPlainIncoming_effects s m false
  have plain : appendIncomingMessageIfNew s m (some user) = appendPlainIncoming s m false := by
    simp [appendIncomingMessageIfNew, absent, other]
  rw [plain, rows, if_pos rfl]

/-- What the tab of a socket makes of the messages that it receives. -/
def tabMessages (σ : Socket) (r : Replica) (history : List Consumption) : List (Option Message) :=
  ((σ.received r history).filterMap SocketEvent.newMessage).map fun payload =>
    parseMessageNewPayload (.object payload)

theorem tab_receives (send : TypedSend crypto env) {topology : Topology} {history : List Consumption}
    (deliverable : Deliverable send.sent topology) (drained : topology.Drained send.sent.published history)
    {r : Replica} (member : r ∈ topology.replicas) {σ : Socket} (socket : σ ∈ r.sockets) (awaits : Awaits send.sent σ) :
    tabMessages σ r history = [some send.message] := by
  have delivered := delivered_of_deliverable deliverable drained
  have received : (σ.received r history).filterMap SocketEvent.newMessage = [messageMembers send.sent.doc] := by
    obtain ⟨user, owner, recipient | ⟨rfl, notOrigin⟩⟩ := awaits
    · exact delivered.recipient r member σ socket user owner recipient
    · exact delivered.sender r member σ socket owner notOrigin
  unfold tabMessages
  rw [received, List.map_singleton, ← apiMessage_members, parseMessageNewPayload_members send.clean]
  rfl

end Sends

section Runs

open UserId (alice)

/-- The directories of two users with one device each. -/
def twoDirectories : DevicePublicKeysState :=
  ((DevicePublicKeysState.fetchFulfilled {} ⟨"bob", [deviceRow "phone" 1], false⟩ 0).fetchFulfilled
    ⟨"me", [deviceRow "laptop" 2], false⟩ 0)

def freshDirectories : SendSurroundings := ⟨.ok (), twoDirectories, 1, fun _ => .ok (), twoDirectories⟩

def captioned : HybridSendRequest := newDirectThreadRequest "bob" "hi" (some "users/alice/a.png") none

/-- What the encrypted send makes of it. -/
def captionedRequest : Except CryptoError EncryptedSendRequest :=
  sendEncryptedMessage transparentCrypto unsetEnv freshDirectories zeroDraws (some "alice") none captioned

def captionedStamp : SendStamp := ⟨"c", "m", 1, 86400⟩

def sendCaptioned (request : EncryptedSendRequest) : Except AppError MessageDocument × Database :=
  ServerProgram.exec (sendMessageForUser alice.val (payloadOf request) captionedStamp
    (SendEntry.messageSend aliceTab.id).originSocketId) twoUsers

/-- The request names `bob` and the server stores it in a new thread. -/
def storesCaptioned : Bool :=
  match captionedRequest with
  | .ok request => decide (request.conversationId = .undefined ∧ request.recipientUserId = .value "bob") &&
      match (sendCaptioned request).1 with
      | .ok doc => decide (doc.conversationId = "c")
      | .error _ => false
  | .error _ => false

theorem captioned_stored : storesCaptioned = true := by decide +kernel

theorem captioned_rows : freshDirectories.directory.rowsOf (sendRecipient none captioned) ++
    freshDirectories.directory.rowsOf "me" = [deviceRow "phone" 1, deviceRow "laptop" 2] := by decide +kernel

theorem transparentCrypto_tagged : Tagged transparentCrypto := by
  intro key iv text long _ empty
  have none : key = [] := (List.append_eq_nil_iff.mp (List.append_eq_nil_iff.mp empty).1).1
  rw [none] at long
  cases long

/-- The first message to `bob` is accepted. -/
theorem composed_requests_accepted_captioned : ∃ request, captionedRequest = .ok request ∧
    sendMessageRequestSchema (.object request.members) = some (payloadOf request) := by
  have stored := captioned_stored
  unfold storesCaptioned at stored
  cases composed : captionedRequest with
  | error e =>
    rw [composed] at stored
    cases stored
  | ok request =>
    have composer : FromComposer captioned := .inr ⟨"bob", "hi", some "users/alice/a.png", none, by decide, rfl⟩
    exact ⟨request, rfl, composed_requests_accepted transparentCrypto_tagged composer composed⟩

theorem exists_captioned : ∃ send : TypedSend transparentCrypto unsetEnv, send.typed = captioned ∧
    send.rows = [deviceRow "phone" 1, deviceRow "laptop" 2] := by
  have stored := captioned_stored
  unfold storesCaptioned at stored
  cases composed : captionedRequest with
  | error e =>
    rw [composed] at stored
    cases stored
  | ok request =>
    rw [composed] at stored
    dsimp only at stored
    obtain ⟨addressed, stored⟩ := Bool.and_eq_true_iff.mp stored
    obtain ⟨thread, recipient⟩ := of_decide_eq_true addressed
    cases answer : sendCaptioned request with
    | mk result after =>
      rw [answer] at stored
      cases result with
      | error e => cases stored
      | ok doc =>
        have wire := enveloped transparentCrypto_tagged (sendEncryptedMessage_ok composed).1
        have accepted : sendMessageRequestSchema (.object request.members) = some (payloadOf request) := by
          rcases schema_members wire with ⟨accepted, -⟩ | ⟨-, unaddressed⟩
          · exact accepted
          · refine absurd ⟨?_, ?_, ?_⟩ unaddressed
            · rw [thread]
              exact nofun
            · rw [recipient]
              decide
            · rw [thread, recipient]
              decide
        let send : DirectSend := ⟨twoUsers, twoUsers_reached, alice, payloadOf request, captionedStamp,
          .messageSend aliceTab.id, doc, after, answer⟩
        have named : doc.conversationId = "c" := of_decide_eq_true stored
        have thread : EcmaText.Trimmed doc.conversationId ∧ doc.conversationId ≠ "" := by
          rw [named]
          decide
        have drawn : EcmaText.Trimmed captionedStamp.messageUuid ∧ captionedStamp.messageUuid ≠ "" := by decide
        exact ⟨⟨freshDirectories, zeroDraws, some "alice", none, captioned, request, composed, send, accepted, drawn,
          thread⟩, rfl, captioned_rows⟩

end Runs

end MessagingSystem.Guarantees.ReadAsTyped
