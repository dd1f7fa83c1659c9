import MessagingSystem.Source.Client.MessageDisplay
import MessagingSystem.Source.Client.MessageHybrid

/-!
# Ciphertext is not shown

The body of a hybrid send is Base64 of at least sixteen bytes. Whatever else a
row with that body has lost, the bubble shows an overlay, an ellipsis or a
failure line. A readable body of a row without envelope is shown as it is.
-/
namespace MessagingSystem.Guarantees.CiphertextHidden
open Foundation Source.Client

variable {PublicKey PrivateKey Seed : Type} {crypto : WebCrypto PublicKey PrivateKey Seed}

/-- AES-GCM ciphertext ends in a tag of sixteen bytes. -/
def Tagged (crypto : WebCrypto PublicKey PrivateKey Seed) : Prop :=
  ∀ key iv plaintext, key.length = 32 → iv.length = 12 →
    plaintext.length + 16 ≤ (crypto.aesGcmEncrypt key iv plaintext).length

section Alphabet

theorem isOpaqueChar_digit : ∀ n < 64, isOpaqueChar (Base64.digit n) = true := by decide

theorem isOpaqueChar_encode (bytes : List UInt8) :
    ∀ c ∈ (Base64.encode bytes).toList, isOpaqueChar c = true := by
  intro c member
  rw [Base64.encode, String.toList_ofList, Base64.encodeChars] at member
  rcases List.mem_append.mp member with digits | padding
  · obtain ⟨n, listed, rfl⟩ := List.mem_map.mp digits
    exact isOpaqueChar_digit n (Base64.toSextets_lt bytes n listed)
  · obtain rfl := (List.mem_replicate.mp padding).2
    decide

theorem length_le_toSextets (bytes : List UInt8) :
    bytes.length ≤ (Base64.toSextets bytes).length := by
  induction bytes using Base64.toSextets.induct with
  | case1 a b c rest ih =>
    simp only [Base64.toSextets, List.length_cons]
    omega
  | case2 a b => simp [Base64.toSextets]
  | case3 a => simp [Base64.toSextets]
  | case4 => simp [Base64.toSextets]

theorem length_le_encode (bytes : List UInt8) :
    bytes.length ≤ (Base64.encode bytes).toList.length := by
  have sextets := length_le_toSextets bytes
  rw [Base64.encode, String.toList_ofList, Base64.encodeChars, List.length_append, List.length_map]
  omega

end Alphabet

/-- The body of a payload is Base64 of a ciphertext with its tag. -/
theorem payload_body (tagged : Tagged crypto) {draws : HybridDraws Seed} {plaintext : CodeUnits}
    {devices : List HybridDeviceRow} {payload : HybridSendPayload}
    (sent : encryptUtf8ToHybridSendPayload crypto draws plaintext devices = .ok payload) :
    ∃ ciphertext, payload.body = Base64.encode ciphertext ∧ 16 ≤ ciphertext.length := by
  obtain ⟨-, encrypts, -, -⟩ := encryptUtf8_eq_ok.mp sent
  have long := tagged draws.messageKey.bytes draws.iv.bytes (TextCoding.encode plaintext)
    draws.messageKey.length_eq draws.iv.length_eq
  exact ⟨_, encrypts.body, by omega⟩

/-- A ciphertext body is recognised as such, whatever became of its envelope. -/
theorem opaque_body {ciphertext : List UInt8} (long : 16 ≤ ciphertext.length) :
    looksLikeOpaqueCiphertextBody (Base64.encode ciphertext) = true := by
  have length := length_le_encode ciphertext
  apply looksLikeOpaque_of_plain (isOpaqueChar_encode ciphertext)
  · intro c member
    rw [Base64.encode, String.toList_ofList] at member
    exact (Base64.encodeChars_plain ciphertext c member).1
  · omega

/-- No line that stands in for a body is made of the Base64 alphabet. -/
theorem body_ne_line (bytes : List UInt8) :
    Base64.encode bytes ≠ "…" ∧ Base64.encode bytes ≠ PEER_DECRYPT_INLINE_UNAVAILABLE := by
  have alphabet := isOpaqueChar_encode bytes
  constructor
  · intro same
    rw [same] at alphabet
    exact absurd (alphabet '…' (by decide)) (by decide)
  · intro same
    rw [same] at alphabet
    exact absurd (alphabet ' ' (by decide)) (by decide)

/-- No row with a sent body shows it; a readable body without envelope is shown verbatim. -/
theorem ciphertext_never_shown (tagged : Tagged crypto) :
    (∀ (draws : HybridDraws Seed) (plaintext : CodeUnits) (devices : List HybridDeviceRow)
        (payload : HybridSendPayload),
      encryptUtf8ToHybridSendPayload crypto draws plaintext devices = .ok payload →
      ∀ (m : Message) (isOwn : Bool) (senderPlaintext decrypted : Record String),
        m.body = .value payload.body →
        (∀ id text, senderPlaintext.get id = some text → text ≠ payload.body) →
        (∀ id text, decrypted.get id = some text → text ≠ payload.body) →
        resolveMessageDisplayBody m isOwn senderPlaintext decrypted ≠ payload.body) ∧
    ∀ (m : Message) (body : String) (isOwn : Bool) (senderPlaintext decrypted : Record String),
      isMessageWireE2ee m = false → m.body = .value body →
      ((EcmaText.trim body).toList.any EcmaText.isSpace = true ∨
        EcmaText.codeUnitLength (EcmaText.trim body) < 12) →
      resolveMessageDisplayBody m isOwn senderPlaintext decrypted = body := by
  constructor
  · intro draws plaintext devices payload sent m isOwn senderPlaintext decrypted held hidden hidden'
    obtain ⟨ciphertext, encoded, long⟩ := payload_body tagged sent
    rw [encoded] at held hidden hidden' ⊢
    obtain ⟨notEllipsis, notLine⟩ := body_ne_line ciphertext
    cases classified : isMessageWireE2ee m with
    | false =>
      rw [resolve_unclassified held classified, if_pos (opaque_body long)]
      split
      · exact notEllipsis.symm
      · exact notLine.symm
    | true =>
      have nonempty : Base64.encode ciphertext ≠ "" := by
        intro empty
        have length := length_le_encode ciphertext
        rw [empty] at length
        exact absurd (long.trans length) (by decide)
      rcases @resolve_classified m _ isOwn senderPlaintext decrypted held nonempty classified with
        ellipsis | sender | echoed
      · rw [ellipsis]
        exact notEllipsis.symm
      · exact hidden _ _ sender
      · exact hidden' _ _ echoed
  · intro m body isOwn senderPlaintext decrypted unclassified held readable
    rw [resolve_unclassified held unclassified, looksLikeOpaque_eq_false readable]
    rfl

theorem transparentCrypto_tagged : Tagged transparentCrypto := by
  intro key iv plaintext keyLength ivLength
  simp only [transparentCrypto, List.length_append]
  omega

def plainDraws : HybridDraws Unit where
  messageKey := .zero 32
  iv := .zero 12
  seed _ := ()

/-- The text `hi` for one device, and the row that lost all but its body. -/
theorem ciphertext_never_shown_hi :
    ∃ payload, encryptUtf8ToHybridSendPayload transparentCrypto plainDraws [0x68, 0x69]
        [⟨"d-1", exportPublicKeySpkiBase64 transparentCrypto 7⟩] = .ok payload ∧
      resolveMessageDisplayBody
        { id := "m-1"
          conversationId := "c-1"
          senderId := "u-2"
          createdAt := "2026-04-01T12:00:00.000Z"
          body := .value payload.body } false ∅ ∅ ≠ payload.body := by
  have importable : importRecipientPublicEcdhP256 transparentCrypto
      (exportPublicKeySpkiBase64 transparentCrypto 7) = .ok 7 :=
    importRecipient_export transparentCrypto_ideal 7
  have wrapped : wrapForDevices transparentCrypto plainDraws.messageKey.bytes plainDraws.seed 0
      [⟨"d-1", exportPublicKeySpkiBase64 transparentCrypto 7⟩] ∅ =
        .ok (assignProperty ∅ "d-1"
          (transparentCrypto.sealKey () plainDraws.messageKey.bytes 7)) := by
    have wrap := (wrapMessageKey_eq_ok plainDraws.messageKey.length_eq).mpr
      ⟨7, importable, @rfl _ (transparentCrypto.sealKey () plainDraws.messageKey.bytes 7)⟩
    rw [wrapForDevices, show plainDraws.seed 0 = () from rfl, wrap]
    rfl
  obtain ⟨payload, sent⟩ : ∃ payload, encryptUtf8ToHybridSendPayload transparentCrypto plainDraws
      [0x68, 0x69] [⟨"d-1", exportPublicKeySpkiBase64 transparentCrypto 7⟩] = .ok payload :=
    ⟨⟨_, _, _, _⟩, encryptUtf8_eq_ok.mpr ⟨List.cons_ne_nil _ _, ⟨rfl, rfl⟩, rfl, wrapped⟩⟩
  refine ⟨payload, sent, ?_⟩
  apply (ciphertext_never_shown transparentCrypto_tagged).1 _ _ _ _ sent _ _ ∅ ∅ rfl
  · intro id text held
    simp at held
  · intro id text held
    simp at held

end MessagingSystem.Guarantees.CiphertextHidden
