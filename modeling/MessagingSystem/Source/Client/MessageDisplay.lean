import MessagingSystem.Source.Client.Message

/-!
# The text of a message bubble

`messageDisplayBody.ts` with the heuristic of `messageBodyOpaqueHeuristic.ts`
and the failure lines of `peerDecryptInline.ts`.
-/
namespace MessagingSystem.Source.Client
open Foundation

def PEER_DECRYPT_INLINE_UNAVAILABLE : String := "Can't decrypt on this device."

/-- No wrapped key for the `deviceId` of this browser. -/
def PEER_DECRYPT_NO_DEVICE_KEY_ENTRY : String :=
  "Can't decrypt older messages here without multi-device sync from another trusted device. " ++
    "New messages encrypted for this device still work."

/-- No private key in this browser. -/
def PEER_DECRYPT_NO_LOCAL_KEY : String :=
  "Can't decrypt on this device. No encryption key for this browser."

/-- The wrapped key is there, but unwrapping or decrypting failed. -/
def PEER_DECRYPT_CRYPTO_FAILED : String :=
  "Can't decrypt on this device. The ciphertext could not be decoded."

/-- The class `[A-Za-z0-9+/=_-]`. -/
def isOpaqueChar (c : Char) : Bool :=
  c.isAlphanum || c = '+' || c = '/' || c = '=' || c = '_' || c = '-'

/-- Likely ciphertext: at least twelve code units of Base64 alphabet without white space. -/
def looksLikeOpaqueCiphertextBody (body : String) : Bool :=
  let t := EcmaText.trim body
  if EcmaText.codeUnitLength t < 12 then false
  else if t.toList.any EcmaText.isSpace then false
  else t.toList.all isOpaqueChar

/-- The text of a bubble: plaintext as it is, ciphertext through the overlays only. -/
def resolveMessageDisplayBody (m : Message) (isOwn : Bool)
    (senderPlaintextByMessageId decryptedBodyByMessageId : Record String) : String :=
  let raw := textOrEmpty m.body
  if raw = "" then ""
  else if !isMessageWireE2ee m then
    if looksLikeOpaqueCiphertextBody raw then
      if isOwn then "…" else PEER_DECRYPT_INLINE_UNAVAILABLE
    else raw
  else if isOwn then
    match senderPlaintextByMessageId.get m.id with
    | some sender => sender
    | none => (decryptedBodyByMessageId.get m.id).getD "…"
  else (decryptedBodyByMessageId.get m.id).getD "…"

section Heuristic

theorem length_le_codeUnitLength (s : String) : s.toList.length ≤ EcmaText.codeUnitLength s := by
  unfold EcmaText.codeUnitLength
  induction s.toList with
  | nil => exact Nat.le_refl _
  | cons c rest ih =>
    have one : 1 ≤ EcmaText.charUnits c := by
      unfold EcmaText.charUnits
      split <;> omega
    rw [List.length_cons, List.foldr_cons]
    omega

/-- A long text of the alphabet is taken for ciphertext. -/
theorem looksLikeOpaque_of_plain {body : String} (plain : ∀ c ∈ body.toList, isOpaqueChar c = true)
    (solid : ∀ c ∈ body.toList, EcmaText.isSpace c = false) (long : 12 ≤ body.toList.length) :
    looksLikeOpaqueCiphertextBody body = true := by
  have trimmed : EcmaText.trim body = body := EcmaText.trimmed_of_plain solid
  have units := length_le_codeUnitLength body
  have none : body.toList.any EcmaText.isSpace = false := by
    rw [List.any_eq_false]
    intro c member
    simp [solid c member]
  unfold looksLikeOpaqueCiphertextBody
  rw [trimmed, if_neg (by omega), none]
  exact List.all_eq_true.mpr plain

/-- White space or a short text is not taken for ciphertext. -/
theorem looksLikeOpaque_eq_false {body : String}
    (readable : (EcmaText.trim body).toList.any EcmaText.isSpace = true ∨
      EcmaText.codeUnitLength (EcmaText.trim body) < 12) :
    looksLikeOpaqueCiphertextBody body = false := by
  unfold looksLikeOpaqueCiphertextBody
  rcases readable with spaced | short
  · simp [spaced]
  · simp only [if_pos short]

end Heuristic

section Display

variable {m : Message} {body : String} {isOwn : Bool} {senderPlaintext decrypted : Record String}

/-- What is shown for a row that is not classified as ciphertext. -/
theorem resolve_unclassified (held : m.body = .value body)
    (unclassified : isMessageWireE2ee m = false) :
    resolveMessageDisplayBody m isOwn senderPlaintext decrypted =
      if looksLikeOpaqueCiphertextBody body then
        if isOwn then "…" else PEER_DECRYPT_INLINE_UNAVAILABLE
      else body := by
  unfold resolveMessageDisplayBody
  rw [held, unclassified]
  by_cases empty : body = ""
  · subst empty
    rfl
  · have raw : textOrEmpty (.value body) = body := rfl
    simp only [raw, if_neg empty, Bool.not_false, if_true]

/-- What is shown for a row that is classified as ciphertext comes from an overlay. -/
theorem resolve_classified (held : m.body = .value body) (nonempty : body ≠ "")
    (classified : isMessageWireE2ee m = true) :
    resolveMessageDisplayBody m isOwn senderPlaintext decrypted = "…" ∨
      senderPlaintext.get m.id =
        some (resolveMessageDisplayBody m isOwn senderPlaintext decrypted) ∨
      decrypted.get m.id =
        some (resolveMessageDisplayBody m isOwn senderPlaintext decrypted) := by
  have shown : resolveMessageDisplayBody m isOwn senderPlaintext decrypted =
      if isOwn then
        match senderPlaintext.get m.id with
        | some sender => sender
        | none => (decrypted.get m.id).getD "…"
      else (decrypted.get m.id).getD "…" := by
    simp [resolveMessageDisplayBody, held, classified, textOrEmpty, nonempty]
  rw [shown]
  cases isOwn <;> cases senderPlaintext.get m.id <;> cases decrypted.get m.id <;> simp

end Display

end MessagingSystem.Source.Client
