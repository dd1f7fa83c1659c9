import MessagingSystem.Source.Client.MessageHybridPlaintext
import MessagingSystem.Source.Client.MessageKeyCrypto

/-!
# Wrap envelopes

The JSON around a wrapped message key in `messageKeyCrypto.ts`, written by
`wrapMessageKey` and read by `unwrapMessageKey`. ECDH with HKDF is a parameter
that gives the AES key of a wrap.
-/
namespace MessagingSystem.Source.Client
open Foundation

def MESSAGE_KEY_WRAP_ALG : String := "p256-hkdf-aes256gcm-wrap-v1"

/-- The fields of an envelope beside `v` and `alg`. -/
structure MessageKeyWrapEnvelopeV1 where
  ephPubSpkiB64 : String
  hkdfSaltB64 : String
  ivB64 : String
  ciphertextB64 : String
  deriving DecidableEq

/-- What one wrap draws. -/
structure WrapSeed (PrivateKey : Type) where
  ephemeral : PrivateKey
  salt : RandomBytes 16
  iv : RandomBytes 12

def MessageKeyWrapEnvelopeV1.json (env : MessageKeyWrapEnvelopeV1) : Json :=
  .object [("v", .number "1"), ("alg", .string MESSAGE_KEY_WRAP_ALG), ("ephPubSpkiB64", .string env.ephPubSpkiB64),
    ("hkdfSaltB64", .string env.hkdfSaltB64), ("ivB64", .string env.ivB64),
    ("ciphertextB64", .string env.ciphertextB64)]

/-- The envelope that parsed members hold. -/
def envelopeOf (o : List (String × Json)) : Option MessageKeyWrapEnvelopeV1 :=
  if isVersionOne o = true ∧ Json.asString (Json.member o "alg") = some MESSAGE_KEY_WRAP_ALG then do
    let ephPubSpkiB64 ← Json.asString (Json.member o "ephPubSpkiB64")
    let hkdfSaltB64 ← Json.asString (Json.member o "hkdfSaltB64")
    let ivB64 ← Json.asString (Json.member o "ivB64")
    let ciphertextB64 ← Json.asString (Json.member o "ciphertextB64")
    some ⟨ephPubSpkiB64, hkdfSaltB64, ivB64, ciphertextB64⟩
  else none

def parseMessageKeyWrapEnvelope (raw : String) : Option MessageKeyWrapEnvelopeV1 :=
  (Json.asObject (Json.parse raw)).bind envelopeOf

/-- A written envelope is read back. -/
theorem parseMessageKeyWrapEnvelope_json (env : MessageKeyWrapEnvelopeV1) :
    parseMessageKeyWrapEnvelope env.json.stringify = some env := by
  have one : (Json.number "1").wellFormed = true := by decide
  have wf : env.json.wellFormed = true := by
    simp only [MessageKeyWrapEnvelopeV1.json, Json.wellFormed, Json.membersWellFormed] at one ⊢
    simpa using one
  have version : EcmaNumber.isOne "1" = true := by decide
  unfold parseMessageKeyWrapEnvelope
  rw [Json.parse_stringify wf]
  simp [MessageKeyWrapEnvelopeV1.json, Json.asObject, envelopeOf, isVersionOne, version, Json.asString]

section Wrap

variable {PublicKey PrivateKey Seed : Type} (crypto : WebCrypto PublicKey PrivateKey Seed)
  (deriveWrapKeyFromEcdh : PrivateKey → PublicKey → List UInt8 → List UInt8)

/-- The envelope of `wrapMessageKey`. -/
def sealEnvelope (seed : WrapSeed PrivateKey) (messageKey : List UInt8) (recipientPublic : PublicKey) :
    MessageKeyWrapEnvelopeV1 :=
  let wrapAes := deriveWrapKeyFromEcdh seed.ephemeral recipientPublic seed.salt.bytes
  { ephPubSpkiB64 := Base64.encode (crypto.exportSpki (crypto.publicKeyOf seed.ephemeral))
    hkdfSaltB64 := Base64.encode seed.salt.bytes
    ivB64 := Base64.encode seed.iv.bytes
    ciphertextB64 := Base64.encode (crypto.aesGcmEncrypt wrapAes seed.iv.bytes messageKey) }

/-- What `unwrapMessageKey` does with an envelope. -/
def openEnvelope (env : MessageKeyWrapEnvelopeV1) (devicePrivateKey : PrivateKey) :
    Except CryptoError (List UInt8) := do
  let ephPubDer ← base64ToArrayBuffer env.ephPubSpkiB64
  match crypto.importSpki ephPubDer with
  | none => .error .dataError
  | some ephemeralPublic =>
      let salt ← base64ToArrayBuffer env.hkdfSaltB64
      let wrapAes := deriveWrapKeyFromEcdh devicePrivateKey ephemeralPublic salt
      let ivW ← base64ToArrayBuffer env.ivB64
      let wct ← base64ToArrayBuffer env.ciphertextB64
      match crypto.aesGcmDecrypt wrapAes ivW wct with
      | some msgKeyRaw => .ok msgKeyRaw
      | none => .error .operationError

/-- The platform with these envelopes around its message keys. -/
def withEnvelopes : WebCrypto PublicKey PrivateKey (WrapSeed PrivateKey) where
  publicKeyOf := crypto.publicKeyOf
  exportSpki := crypto.exportSpki
  importSpki := crypto.importSpki
  exportPkcs8 := crypto.exportPkcs8
  importPkcs8 := crypto.importPkcs8
  pbkdf2 := crypto.pbkdf2
  aesGcmEncrypt := crypto.aesGcmEncrypt
  aesGcmDecrypt := crypto.aesGcmDecrypt
  sealKey seed messageKey recipient :=
    (sealEnvelope crypto deriveWrapKeyFromEcdh seed messageKey recipient).json.stringify
  openKey envelope own :=
    match parseMessageKeyWrapEnvelope envelope with
    | some env => openEnvelope crypto deriveWrapKeyFromEcdh env own
    | none => .error (.error "Invalid hybrid wrap envelope")

/-- ECDH agrees on both sides and tells recipients apart, and AES-GCM is authenticated. -/
structure WrapKeysAgree : Prop where
  length : ∀ own remote salt, (deriveWrapKeyFromEcdh own remote salt).length = 32
  agree : ∀ own other salt, deriveWrapKeyFromEcdh own (crypto.publicKeyOf other) salt =
    deriveWrapKeyFromEcdh other (crypto.publicKeyOf own) salt
  apart : ∀ own other recipient salt, crypto.publicKeyOf own ≠ recipient →
    deriveWrapKeyFromEcdh own (crypto.publicKeyOf other) salt ≠ deriveWrapKeyFromEcdh other recipient salt
  authentic : ∀ key other iv plaintext, key.length = 32 → other.length = 32 → other ≠ key →
    crypto.aesGcmDecrypt other iv (crypto.aesGcmEncrypt key iv plaintext) = none

variable {crypto} {deriveWrapKeyFromEcdh}

/-- A sealed envelope is opened with the key its fields derive. -/
theorem openEnvelope_seal (ideal : crypto.Ideal) (seed : WrapSeed PrivateKey) (messageKey : List UInt8)
    (recipient : PublicKey) (own : PrivateKey) :
    openEnvelope crypto deriveWrapKeyFromEcdh
        (sealEnvelope crypto deriveWrapKeyFromEcdh seed messageKey recipient) own =
      (crypto.aesGcmDecrypt
        (deriveWrapKeyFromEcdh own (crypto.publicKeyOf seed.ephemeral) seed.salt.bytes) seed.iv.bytes
        (crypto.aesGcmEncrypt (deriveWrapKeyFromEcdh seed.ephemeral recipient seed.salt.bytes) seed.iv.bytes
          messageKey)).elim (.error .operationError) .ok := by
  simp only [openEnvelope, sealEnvelope, base64ToArrayBuffer_encode, ideal.import_exportSpki, bind, Except.bind]
  cases crypto.aesGcmDecrypt
      (deriveWrapKeyFromEcdh own (crypto.publicKeyOf seed.ephemeral) seed.salt.bytes) seed.iv.bytes _ <;> rfl

theorem openKey_withEnvelopes (seed : WrapSeed PrivateKey) (messageKey : List UInt8) (recipient : PublicKey)
    (own : PrivateKey) : (withEnvelopes crypto deriveWrapKeyFromEcdh).openKey
        ((withEnvelopes crypto deriveWrapKeyFromEcdh).sealKey seed messageKey recipient) own =
      openEnvelope crypto deriveWrapKeyFromEcdh
        (sealEnvelope crypto deriveWrapKeyFromEcdh seed messageKey recipient) own := by
  simp only [withEnvelopes, parseMessageKeyWrapEnvelope_json]

theorem sealed_nonblank (env : MessageKeyWrapEnvelopeV1) : EcmaText.isNonBlank env.json.stringify = true := by
  have ends : EcmaText.trim env.json.stringify = env.json.stringify := by
    unfold MessageKeyWrapEnvelopeV1.json Json.stringify
    rw [Json.write, List.cons_append]
    exact EcmaText.trimmed_of_ends _ _ _ (by decide) (by decide)
  rw [EcmaText.isNonBlank_iff, ends]
  intro empty
  have letters := congrArg String.toList empty
  unfold MessageKeyWrapEnvelopeV1.json Json.stringify at letters
  rw [Json.write, List.cons_append, String.toList_ofList] at letters
  cases letters

/-- An envelope opens for the recipient. -/
theorem openKey_own (ideal : crypto.Ideal) (keys : WrapKeysAgree crypto deriveWrapKeyFromEcdh)
    (seed : WrapSeed PrivateKey) (messageKey : List UInt8) (own : PrivateKey) :
    (withEnvelopes crypto deriveWrapKeyFromEcdh).openKey ((withEnvelopes crypto deriveWrapKeyFromEcdh).sealKey
      seed messageKey ((withEnvelopes crypto deriveWrapKeyFromEcdh).publicKeyOf own)) own = .ok messageKey := by
  have recipient : (withEnvelopes crypto deriveWrapKeyFromEcdh).publicKeyOf own = crypto.publicKeyOf own := rfl
  have decrypted := ideal.decrypt_encrypt
    (deriveWrapKeyFromEcdh own (crypto.publicKeyOf seed.ephemeral) seed.salt.bytes) seed.iv.bytes messageKey
    (keys.length _ _ _) seed.iv.length_eq
  rw [openKey_withEnvelopes, recipient, openEnvelope_seal ideal, keys.agree seed.ephemeral own, decrypted]
  rfl

/-- It does not open for another private key. -/
theorem openKey_other (ideal : crypto.Ideal) (keys : WrapKeysAgree crypto deriveWrapKeyFromEcdh)
    (seed : WrapSeed PrivateKey) (messageKey : List UInt8) {recipient : PublicKey} {other : PrivateKey}
    (mismatch : crypto.publicKeyOf other ≠ recipient) :
    ((withEnvelopes crypto deriveWrapKeyFromEcdh).openKey ((withEnvelopes crypto deriveWrapKeyFromEcdh).sealKey
      seed messageKey recipient) other).toOption = none := by
  have refused := keys.authentic _ _ seed.iv.bytes messageKey (keys.length seed.ephemeral recipient _)
    (keys.length other (crypto.publicKeyOf seed.ephemeral) _)
    (keys.apart other seed.ephemeral recipient seed.salt.bytes mismatch)
  rw [openKey_withEnvelopes, openEnvelope_seal ideal, refused]
  rfl

/-- The envelopes satisfy what the scheme relies on. -/
theorem withEnvelopes_ideal (ideal : crypto.Ideal) (keys : WrapKeysAgree crypto deriveWrapKeyFromEcdh) :
    (withEnvelopes crypto deriveWrapKeyFromEcdh).Ideal where
  public_has_private := ideal.public_has_private
  import_exportSpki := ideal.import_exportSpki
  import_exportPkcs8 := ideal.import_exportPkcs8
  pbkdf2_length := ideal.pbkdf2_length
  decrypt_encrypt := ideal.decrypt_encrypt
  seal_nonblank seed messageKey recipient :=
    sealed_nonblank (sealEnvelope crypto deriveWrapKeyFromEcdh seed messageKey recipient)
  open_own seed messageKey own := openKey_own ideal keys seed messageKey own
  open_other seed messageKey _ _ mismatch := openKey_other ideal keys seed messageKey mismatch

end Wrap

section SummedKeys

/-- A wrap key that both sides compute: the sum of their bytes, followed by zeros. -/
def summedKey (own remote : UInt8) (_salt : List UInt8) : List UInt8 := (own + remote) :: List.replicate 31 0

theorem summedKey_agrees : WrapKeysAgree transparentCrypto summedKey where
  length own remote salt := rfl
  agree own other salt := by
    unfold summedKey transparentCrypto
    rw [UInt8.add_comm]
  apart own other recipient salt mismatch := by
    intro same
    have sums : own + other = other + recipient := (List.cons.inj same).1
    rw [UInt8.add_comm other] at sums
    exact mismatch (UInt8.add_left_inj other |>.mp sums)
  authentic key other iv plaintext long short different := by
    have closed : ¬ (other ++ iv).isPrefixOf (key ++ iv ++ plaintext) = true := by
      intro begins
      rw [List.isPrefixOf_iff_prefix, List.append_assoc] at begins
      have first := (List.prefix_append other iv).trans begins
      have heads := List.prefix_of_prefix_length_le first (List.prefix_append key _) (by omega)
      exact different (heads.eq_of_length (by omega))
    exact if_neg closed

end SummedKeys

end MessagingSystem.Source.Client
