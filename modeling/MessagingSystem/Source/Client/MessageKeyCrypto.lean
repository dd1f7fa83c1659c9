import MessagingSystem.Foundation.Base64
import MessagingSystem.Foundation.TextCoding

/-!
# Message keys and device keys

`messageKeyCrypto.ts`, `encoding.ts` and `keypair.ts` over the platform's
WebCrypto. The platform is a parameter: the operations it offers are the fields
of `WebCrypto`, and `WebCrypto.Ideal` says what the scheme relies on. Random
values are arguments.
-/
namespace MessagingSystem.Source.Client
open Foundation

/-- What the crypto code throws: an `Error` with a text, or an exception of the platform. -/
inductive CryptoError where
  | error (message : String)
  | invalidCharacter
  | dataError
  | operationError
  | typeError
  deriving DecidableEq

/-- An array of `n` bytes that `getRandomValues` has filled. -/
structure RandomBytes (n : Nat) where
  bytes : List UInt8
  length_eq : bytes.length = n

/-- The platform's operations. `sealKey` and `openKey` are the P-256 ECDH, HKDF
and AES-GCM envelope around a message key; a `Seed` is the ephemeral pair, the
salt and the IV that one wrap draws. -/
structure WebCrypto (PublicKey PrivateKey Seed : Type) where
  publicKeyOf : PrivateKey → PublicKey
  exportSpki : PublicKey → List UInt8
  importSpki : List UInt8 → Option PublicKey
  exportPkcs8 : PrivateKey → List UInt8
  importPkcs8 : List UInt8 → Option PrivateKey
  pbkdf2 (passphrase salt : List UInt8) (iterations : Nat) : List UInt8
  aesGcmEncrypt (key iv plaintext : List UInt8) : List UInt8
  aesGcmDecrypt (key iv ciphertext : List UInt8) : Option (List UInt8)
  sealKey (seed : Seed) (messageKey : List UInt8) (recipient : PublicKey) : String
  openKey (envelope : String) (own : PrivateKey) : Except CryptoError (List UInt8)

variable {PublicKey PrivateKey Seed : Type}

/-- Ideal primitives: an envelope opens for the matching private key only,
decryption undoes encryption, exported keys are imported again. -/
structure WebCrypto.Ideal (crypto : WebCrypto PublicKey PrivateKey Seed) : Prop where
  public_has_private : Function.Surjective crypto.publicKeyOf
  import_exportSpki : ∀ key, crypto.importSpki (crypto.exportSpki key) = some key
  import_exportPkcs8 : ∀ key, crypto.importPkcs8 (crypto.exportPkcs8 key) = some key
  pbkdf2_length : ∀ passphrase salt iterations,
    (crypto.pbkdf2 passphrase salt iterations).length = 32
  decrypt_encrypt : ∀ key iv plaintext, key.length = 32 → iv.length = 12 →
    crypto.aesGcmDecrypt key iv (crypto.aesGcmEncrypt key iv plaintext) = some plaintext
  seal_nonblank : ∀ seed messageKey recipient,
    EcmaText.isNonBlank (crypto.sealKey seed messageKey recipient) = true
  open_own : ∀ seed messageKey own,
    crypto.openKey (crypto.sealKey seed messageKey (crypto.publicKeyOf own)) own = .ok messageKey
  open_other : ∀ seed messageKey recipient other, crypto.publicKeyOf other ≠ recipient →
    (crypto.openKey (crypto.sealKey seed messageKey recipient) other).toOption = none

/-- `base64ToArrayBuffer`. -/
def base64ToArrayBuffer (b64 : String) : Except CryptoError (List UInt8) :=
  match Base64.decode (EcmaText.trim b64) with
  | some bytes => .ok bytes
  | none => .error .invalidCharacter

@[simp] theorem base64ToArrayBuffer_encode (bytes : List UInt8) :
    base64ToArrayBuffer (Base64.encode bytes) = .ok bytes := by
  have trimmed : EcmaText.trim (Base64.encode bytes) = Base64.encode bytes :=
    Base64.trimmed_encode bytes
  rw [base64ToArrayBuffer, trimmed, Base64.decode_encode]

section Keys

variable (crypto : WebCrypto PublicKey PrivateKey Seed)

/-- `exportPublicKeySpkiBase64`. -/
def exportPublicKeySpkiBase64 (publicKey : PublicKey) : String :=
  Base64.encode (crypto.exportSpki publicKey)

/-- `exportPrivateKeyPkcs8Base64`. -/
def exportPrivateKeyPkcs8Base64 (privateKey : PrivateKey) : String :=
  Base64.encode (crypto.exportPkcs8 privateKey)

/-- `importP256EcdhPrivateKeyPkcs8`. -/
def importP256EcdhPrivateKeyPkcs8 (pkcs8Der : List UInt8) : Except CryptoError PrivateKey :=
  match crypto.importPkcs8 pkcs8Der with
  | some key => .ok key
  | none => .error .dataError

/-- `importRecipientPublicEcdhP256`. -/
def importRecipientPublicEcdhP256 (spkiB64 : String) : Except CryptoError PublicKey := do
  let der ← base64ToArrayBuffer (EcmaText.trim spkiB64)
  match crypto.importSpki der with
  | some key => .ok key
  | none => .error .dataError

variable {crypto}

/-- An exported public key is imported as it was. -/
theorem importRecipient_export (ideal : crypto.Ideal) (publicKey : PublicKey) :
    importRecipientPublicEcdhP256 crypto (exportPublicKeySpkiBase64 crypto publicKey) =
      .ok publicKey := by
  have trimmed : EcmaText.trim (Base64.encode (crypto.exportSpki publicKey)) =
      Base64.encode (crypto.exportSpki publicKey) := Base64.trimmed_encode _
  simp only [importRecipientPublicEcdhP256, exportPublicKeySpkiBase64, trimmed,
    base64ToArrayBuffer_encode, ideal.import_exportSpki, bind, Except.bind]

end Keys

section MessageKey

variable (crypto : WebCrypto PublicKey PrivateKey Seed)

/-- `assertMessageKeyLength`. -/
def assertMessageKeyLength (messageKey : List UInt8) : Except CryptoError Unit :=
  if messageKey.length ≠ 32 then .error (.error "Message key must be 32 bytes (AES-256)")
  else .ok ()

/-- `encryptMessageBody`, with the IV it draws. -/
def encryptMessageBody (messageKey : List UInt8) (plaintext : CodeUnits) (iv : RandomBytes 12) :
    Except CryptoError (List UInt8 × List UInt8) := do
  assertMessageKeyLength messageKey
  .ok (crypto.aesGcmEncrypt messageKey iv.bytes (TextCoding.encode plaintext), iv.bytes)

/-- `decryptMessageBody`. -/
def decryptMessageBody (messageKey ciphertext iv : List UInt8) : Except CryptoError CodeUnits := do
  if iv.length ≠ 12 then .error (.error "IV must be 12 bytes for AES-GCM")
  assertMessageKeyLength messageKey
  match crypto.aesGcmDecrypt messageKey iv ciphertext with
  | some plaintext => .ok (TextCoding.decode plaintext)
  | none => .error .operationError

/-- `wrapMessageKey`, with the values it draws. -/
def wrapMessageKey (messageKey : List UInt8) (devicePublicKeySpkiBase64 : String) (seed : Seed) :
    Except CryptoError String := do
  assertMessageKeyLength messageKey
  let recipientPublic ← importRecipientPublicEcdhP256 crypto devicePublicKeySpkiBase64
  .ok (crypto.sealKey seed messageKey recipientPublic)

/-- `unwrapMessageKey`. -/
def unwrapMessageKey (encryptedKey : String) (devicePrivateKey : PrivateKey) :
    Except CryptoError (List UInt8) :=
  crypto.openKey encryptedKey devicePrivateKey

variable {crypto}

theorem assertMessageKeyLength_ok {messageKey : List UInt8} (length : messageKey.length = 32) :
    assertMessageKeyLength messageKey = .ok () := by
  simp [assertMessageKeyLength, length]

theorem encryptMessageBody_ok {messageKey : List UInt8} (length : messageKey.length = 32)
    (plaintext : CodeUnits) (iv : RandomBytes 12) :
    encryptMessageBody crypto messageKey plaintext iv =
      .ok (crypto.aesGcmEncrypt messageKey iv.bytes (TextCoding.encode plaintext), iv.bytes) := by
  rw [encryptMessageBody, assertMessageKeyLength_ok length]
  rfl

/-- A body decrypts to its plaintext, up to what the text encoding loses. -/
theorem decryptMessageBody_encrypt (ideal : crypto.Ideal) {messageKey : List UInt8}
    (length : messageKey.length = 32) (plaintext : CodeUnits) (iv : RandomBytes 12) :
    decryptMessageBody crypto messageKey
        (crypto.aesGcmEncrypt messageKey iv.bytes (TextCoding.encode plaintext)) iv.bytes =
      .ok (TextCoding.decode (TextCoding.encode plaintext)) := by
  have ivLength : ¬ iv.bytes.length ≠ 12 := not_not.mpr iv.length_eq
  simp only [decryptMessageBody, if_neg ivLength, assertMessageKeyLength_ok length,
    ideal.decrypt_encrypt messageKey iv.bytes _ length iv.length_eq, bind, Except.bind]

/-- Wrapping succeeds for the keys that can be imported. -/
theorem wrapMessageKey_eq_ok {messageKey : List UInt8} (length : messageKey.length = 32)
    {spki envelope : String} {seed : Seed} :
    wrapMessageKey crypto messageKey spki seed = .ok envelope ↔
      ∃ recipient, importRecipientPublicEcdhP256 crypto spki = .ok recipient ∧
        envelope = crypto.sealKey seed messageKey recipient := by
  rw [wrapMessageKey, assertMessageKeyLength_ok length]
  simp only [bind, Except.bind]
  cases importRecipientPublicEcdhP256 crypto spki with
  | error e => simp
  | ok recipient => simp [eq_comm]

end MessageKey

section TransparentCrypto

/-- Random bytes that all came out zero. -/
def RandomBytes.zero (n : Nat) : RandomBytes n := ⟨List.replicate n 0, List.length_replicate⟩

/-- A platform without secrecy that keeps the laws: keys are bytes and an
envelope is the recipient's byte before the message key. -/
def transparentCrypto : WebCrypto UInt8 UInt8 Unit where
  publicKeyOf own := own
  exportSpki key := [key]
  importSpki
    | [key] => some key
    | _ => none
  exportPkcs8 key := [key]
  importPkcs8
    | [key] => some key
    | _ => none
  pbkdf2 passphrase salt _ := (passphrase ++ salt ++ List.replicate 32 0).take 32
  aesGcmEncrypt key iv plaintext := key ++ iv ++ plaintext
  aesGcmDecrypt key iv ciphertext :=
    if (key ++ iv).isPrefixOf ciphertext then some (ciphertext.drop (key ++ iv).length) else none
  sealKey _ messageKey recipient := Base64.encode (recipient :: messageKey)
  openKey envelope own :=
    match Base64.decode envelope with
    | some (recipient :: messageKey) =>
        if recipient = own then .ok messageKey else .error .operationError
    | _ => .error .operationError

theorem transparentCrypto_ideal : transparentCrypto.Ideal where
  public_has_private key := ⟨key, rfl⟩
  import_exportSpki _ := rfl
  import_exportPkcs8 _ := rfl
  pbkdf2_length passphrase salt iterations := by
    simp only [transparentCrypto, List.length_take, List.length_append, List.length_replicate]
    omega
  decrypt_encrypt key iv plaintext _ _ := by simp [transparentCrypto]
  seal_nonblank seed messageKey recipient := by
    have trimmed : EcmaText.trim (Base64.encode (recipient :: messageKey)) =
        Base64.encode (recipient :: messageKey) := Base64.trimmed_encode _
    rw [EcmaText.isNonBlank_iff, transparentCrypto, trimmed]
    intro empty
    have decoded := Base64.decode_encode (recipient :: messageKey)
    rw [empty] at decoded
    exact absurd decoded (by simp [show Base64.decode "" = some [] by decide])
  open_own seed messageKey own := by simp [transparentCrypto, Base64.decode_encode]
  open_other seed messageKey recipient other mismatch := by
    have closed : recipient ≠ other := fun same => mismatch same.symm
    simp [transparentCrypto, Base64.decode_encode, closed, Except.toOption]

end TransparentCrypto

end MessagingSystem.Source.Client
