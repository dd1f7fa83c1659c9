import MessagingSystem.Foundation.OrderedMap
import MessagingSystem.Source.Client.Message
import MessagingSystem.Source.Client.MessageKeyCrypto

/-!
# The hybrid envelope of a message

`messageHybrid.ts`: the union of the device lists, the encryption of a message
for them and its decryption on one device. The map of wrapped keys is a plain
object, with what that means for a device named `__proto__`.
-/
namespace MessagingSystem.Source.Client
open Foundation

structure HybridDeviceRow where
  deviceId : String
  publicKey : String
  deriving DecidableEq

/-- One row in the union: a blank id is skipped, an id seen before keeps its place. -/
def mergeRow (map : List (String × HybridDeviceRow)) (row : HybridDeviceRow) :
    List (String × HybridDeviceRow) :=
  let id := EcmaText.trim row.deviceId
  if id = "" then map else OrderedMap.set id ⟨id, row.publicKey⟩ map

def mergeHybridDeviceRows (lists : List (List HybridDeviceRow)) : List HybridDeviceRow :=
  (lists.flatten.foldl mergeRow []).map Prod.snd

structure HybridSendPayload where
  algorithm : String
  body : String
  iv : String
  encryptedMessageKeys : Record String

/-- What one encryption draws: the message key, the IV and a seed for each wrap. -/
structure HybridDraws (Seed : Type) where
  messageKey : RandomBytes 32
  iv : RandomBytes 12
  seed : Nat → Seed

section

variable {PublicKey PrivateKey Seed : Type} (crypto : WebCrypto PublicKey PrivateKey Seed)

/-- The loop over the devices: one wrapped key each, from the `n`-th draw on. -/
def wrapForDevices (messageKey : List UInt8) (seed : Nat → Seed) :
    Nat → List HybridDeviceRow → Record String → Except CryptoError (Record String)
  | _, [], keys => .ok keys
  | n, d :: rest, keys => do
      let wrapped ← wrapMessageKey crypto messageKey d.publicKey (seed n)
      wrapForDevices messageKey seed (n + 1) rest (assignProperty keys d.deviceId wrapped)

def encryptUtf8ToHybridSendPayload (draws : HybridDraws Seed) (plaintext : CodeUnits)
    (devices : List HybridDeviceRow) : Except CryptoError HybridSendPayload := do
  if devices.isEmpty then
    .error (.error "At least one device public key is required for hybrid encryption")
  let (ciphertext, iv) ← encryptMessageBody crypto draws.messageKey.bytes plaintext draws.iv
  let encryptedMessageKeys ← wrapForDevices crypto draws.messageKey.bytes draws.seed 0 devices ∅
  .ok { algorithm := MESSAGE_HYBRID_ALGORITHM
        body := Base64.encode ciphertext
        iv := Base64.encode iv
        encryptedMessageKeys }

/-- `encryptedMessageKeys[trimmedDevice]`, when it is a wrapped key. -/
def wrappedKeyFor (encryptedMessageKeys : Record String) (deviceId : String) :
    Except CryptoError String :=
  match readProperty encryptedMessageKeys (EcmaText.trim deviceId) with
  | .own wrapped =>
      if EcmaText.isNonBlank wrapped then .ok wrapped
      else .error (.error "No wrapped key for this device")
  -- an inherited object has no `trim` to call
  | .inherited => .error .typeError
  | .absent => .error (.error "No wrapped key for this device")

def decryptHybridMessageToUtf8 (body iv : String) (encryptedMessageKeys : Record String)
    (deviceId : String) (recipientPrivateKey : PrivateKey) : Except CryptoError CodeUnits := do
  let wrapped ← wrappedKeyFor encryptedMessageKeys deviceId
  let msgKeyRaw ← unwrapMessageKey crypto wrapped recipientPrivateKey
  let ivBody ← base64ToArrayBuffer iv
  let ct ← base64ToArrayBuffer body
  decryptMessageBody crypto msgKeyRaw ct ivBody

end

section Merge

/-- The entries the union is built from. -/
def mergeEntries (rows : List HybridDeviceRow) : List (String × HybridDeviceRow) :=
  rows.filterMap fun row =>
    if EcmaText.trim row.deviceId = "" then none
    else some (EcmaText.trim row.deviceId, ⟨EcmaText.trim row.deviceId, row.publicKey⟩)

theorem foldl_mergeRow (rows : List HybridDeviceRow) (map : List (String × HybridDeviceRow)) :
    rows.foldl mergeRow map =
      (mergeEntries rows).foldl (fun map entry => OrderedMap.set entry.1 entry.2 map) map := by
  induction rows generalizing map with
  | nil => rfl
  | cons row rest ih =>
    by_cases blank : EcmaText.trim row.deviceId = ""
    · simpa [mergeRow, mergeEntries, blank] using ih map
    · simpa [mergeRow, mergeEntries, blank] using ih _

theorem mergeHybridDeviceRows_eq (lists : List (List HybridDeviceRow)) :
    mergeHybridDeviceRows lists =
      (OrderedMap.ofEntries (mergeEntries lists.flatten)).map Prod.snd := by
  rw [mergeHybridDeviceRows, foldl_mergeRow]
  rfl

variable {lists : List (List HybridDeviceRow)} {row : HybridDeviceRow}

theorem mem_mergeEntries {rows : List HybridDeviceRow} {entry : String × HybridDeviceRow} :
    entry ∈ mergeEntries rows ↔ ∃ row ∈ rows, EcmaText.trim row.deviceId ≠ "" ∧
      entry = (EcmaText.trim row.deviceId, ⟨EcmaText.trim row.deviceId, row.publicKey⟩) := by
  constructor
  · intro member
    obtain ⟨row, held, kept⟩ := List.mem_filterMap.mp member
    by_cases blank : EcmaText.trim row.deviceId = ""
    · simp [blank] at kept
    · rw [if_neg blank, Option.some.injEq] at kept
      exact ⟨row, held, blank, kept.symm⟩
  · rintro ⟨row, held, nonblank, rfl⟩
    exact List.mem_filterMap.mpr ⟨row, held, if_neg nonblank⟩

theorem entry_merged {rows : List HybridDeviceRow} {entry : String × HybridDeviceRow}
    (held : entry ∈ OrderedMap.ofEntries (mergeEntries rows)) :
    ∃ row ∈ rows, EcmaText.trim row.deviceId ≠ "" ∧
      entry = (EcmaText.trim row.deviceId, ⟨EcmaText.trim row.deviceId, row.publicKey⟩) :=
  mem_mergeEntries.mp (OrderedMap.mem_of_mem_ofEntries held)

/-- Every row of the union comes from a listed row with a nonblank id. -/
theorem mem_merged (member : row ∈ mergeHybridDeviceRows lists) :
    ∃ listed ∈ lists.flatten, EcmaText.trim listed.deviceId ≠ "" ∧
      row = ⟨EcmaText.trim listed.deviceId, listed.publicKey⟩ := by
  rw [mergeHybridDeviceRows_eq] at member
  obtain ⟨entry, held, rfl⟩ := List.mem_map.mp member
  obtain ⟨listed, original, nonblank, rfl⟩ := entry_merged held
  exact ⟨listed, original, nonblank, rfl⟩

/-- Every nonblank id is in the union. -/
theorem merged_of_mem (lists : List (List HybridDeviceRow)) (member : row ∈ lists.flatten)
    (nonblank : EcmaText.trim row.deviceId ≠ "") :
    ∃ kept ∈ mergeHybridDeviceRows lists, kept.deviceId = EcmaText.trim row.deviceId := by
  have key : EcmaText.trim row.deviceId ∈
      (OrderedMap.ofEntries (mergeEntries lists.flatten)).map Prod.fst := by
    rw [OrderedMap.mem_keys_ofEntries]
    exact List.mem_map.mpr ⟨_, mem_mergeEntries.mpr ⟨row, member, nonblank, rfl⟩, rfl⟩
  obtain ⟨entry, held, id⟩ := List.mem_map.mp key
  obtain ⟨listed, -, -, rfl⟩ := entry_merged held
  rw [mergeHybridDeviceRows_eq]
  exact ⟨_, List.mem_map.mpr ⟨_, held, rfl⟩, id⟩

/-- The union has one row for an id. -/
theorem merged_nodup (lists : List (List HybridDeviceRow)) :
    ((mergeHybridDeviceRows lists).map HybridDeviceRow.deviceId).Nodup := by
  have ids : (mergeHybridDeviceRows lists).map HybridDeviceRow.deviceId =
      (OrderedMap.ofEntries (mergeEntries lists.flatten)).map Prod.fst := by
    rw [mergeHybridDeviceRows_eq, List.map_map]
    refine List.map_congr_left fun entry held => ?_
    obtain ⟨listed, -, -, rfl⟩ := entry_merged held
    rfl
  rw [ids]
  exact OrderedMap.nodup_keys_ofEntries _

end Merge

section Wrap

variable {PublicKey PrivateKey Seed : Type} {crypto : WebCrypto PublicKey PrivateKey Seed}
variable {messageKey : List UInt8} {seed : Nat → Seed} {n : Nat} {devices : List HybridDeviceRow}
variable {keys out : Record String}

/-- The first device of the loop. -/
theorem wrapForDevices_cons (length : messageKey.length = 32) {d : HybridDeviceRow}
    {rest : List HybridDeviceRow} :
    wrapForDevices crypto messageKey seed n (d :: rest) keys = .ok out ↔
      ∃ recipient, importRecipientPublicEcdhP256 crypto d.publicKey = .ok recipient ∧
        wrapForDevices crypto messageKey seed (n + 1) rest
          (assignProperty keys d.deviceId (crypto.sealKey (seed n) messageKey recipient)) =
            .ok out := by
  rw [wrapForDevices]
  constructor
  · intro wrapped
    cases first : wrapMessageKey crypto messageKey d.publicKey (seed n) with
    | error e =>
      rw [first] at wrapped
      simp [bind, Except.bind] at wrapped
    | ok envelope =>
      rw [first] at wrapped
      obtain ⟨recipient, imported, rfl⟩ := (wrapMessageKey_eq_ok length).mp first
      exact ⟨recipient, imported, wrapped⟩
  · rintro ⟨recipient, imported, rest⟩
    rw [(wrapMessageKey_eq_ok length).mpr ⟨recipient, imported, rfl⟩]
    exact rest

/-- Slots of other ids stay as they were. -/
theorem wrapForDevices_frame (length : messageKey.length = 32)
    (done : wrapForDevices crypto messageKey seed n devices keys = .ok out) {id : String}
    (other : id ∉ devices.map HybridDeviceRow.deviceId) : out.get id = keys.get id := by
  induction devices generalizing n keys with
  | nil =>
    rw [wrapForDevices, Except.ok.injEq] at done
    rw [done]
  | cons d rest ih =>
    obtain ⟨recipient, -, done⟩ := (wrapForDevices_cons length).mp done
    rw [List.map_cons, List.mem_cons, not_or] at other
    rw [ih done other.2, get_assignProperty, if_neg fun same => other.1 same.1]

/-- No key is ever stored under `__proto__`. -/
theorem wrapForDevices_proto (length : messageKey.length = 32)
    (done : wrapForDevices crypto messageKey seed n devices keys = .ok out) :
    out.get "__proto__" = keys.get "__proto__" := by
  induction devices generalizing n keys with
  | nil =>
    rw [wrapForDevices, Except.ok.injEq] at done
    rw [done]
  | cons d rest ih =>
    obtain ⟨recipient, -, done⟩ := (wrapForDevices_cons length).mp done
    rw [ih done, get_assignProperty, if_neg fun same => same.2 same.1.symm]

/-- Each device of a list without repeated ids finds a key wrapped for it. -/
theorem wrapForDevices_get (length : messageKey.length = 32)
    (done : wrapForDevices crypto messageKey seed n devices keys = .ok out)
    (distinct : (devices.map HybridDeviceRow.deviceId).Nodup) {d : HybridDeviceRow}
    (member : d ∈ devices) (plain : d.deviceId ≠ "__proto__") :
    ∃ drawn recipient, importRecipientPublicEcdhP256 crypto d.publicKey = .ok recipient ∧
      out.get d.deviceId = some (crypto.sealKey drawn messageKey recipient) := by
  induction devices generalizing n keys with
  | nil => simp at member
  | cons first rest ih =>
    obtain ⟨recipient, imported, done⟩ := (wrapForDevices_cons length).mp done
    rw [List.map_cons, List.nodup_cons] at distinct
    rcases List.mem_cons.mp member with rfl | later
    · refine ⟨seed n, recipient, imported, ?_⟩
      rw [wrapForDevices_frame length done distinct.1, get_assignProperty, if_pos ⟨rfl, plain⟩]
    · exact ih done distinct.2 later

/-- The loop completes exactly when every key can be imported. -/
theorem wrapForDevices_completes_iff (length : messageKey.length = 32) :
    (∃ out, wrapForDevices crypto messageKey seed n devices keys = .ok out) ↔
      ∀ d ∈ devices, ∃ recipient, importRecipientPublicEcdhP256 crypto d.publicKey =
        .ok recipient := by
  induction devices generalizing n keys with
  | nil => simp [wrapForDevices]
  | cons d rest ih =>
    simp only [wrapForDevices_cons length, List.mem_cons, forall_eq_or_imp]
    constructor
    · rintro ⟨out, recipient, imported, done⟩
      exact ⟨⟨recipient, imported⟩, ih.mp ⟨out, done⟩⟩
    · rintro ⟨⟨recipient, imported⟩, others⟩
      obtain ⟨out, done⟩ := ih.mpr others
      exact ⟨out, recipient, imported, done⟩

end Wrap

section RoundTrip

variable {PublicKey PrivateKey Seed : Type} {crypto : WebCrypto PublicKey PrivateKey Seed}
variable {draws : HybridDraws Seed} {plaintext : CodeUnits} {devices : List HybridDeviceRow}
variable {payload : HybridSendPayload}

/-- The body of a payload is the plaintext under the drawn key and IV. -/
structure HybridSendPayload.Encrypts (crypto : WebCrypto PublicKey PrivateKey Seed)
    (draws : HybridDraws Seed) (plaintext : CodeUnits) (payload : HybridSendPayload) : Prop where
  body : payload.body = Base64.encode (crypto.aesGcmEncrypt draws.messageKey.bytes draws.iv.bytes
    (TextCoding.encode plaintext))
  iv : payload.iv = Base64.encode draws.iv.bytes

theorem encryptUtf8_eq_ok :
    encryptUtf8ToHybridSendPayload crypto draws plaintext devices = .ok payload ↔
      devices ≠ [] ∧ payload.Encrypts crypto draws plaintext ∧
        payload.algorithm = MESSAGE_HYBRID_ALGORITHM ∧
        wrapForDevices crypto draws.messageKey.bytes draws.seed 0 devices ∅ =
          .ok payload.encryptedMessageKeys := by
  unfold encryptUtf8ToHybridSendPayload
  rw [encryptMessageBody_ok draws.messageKey.length_eq]
  cases devices with
  | nil => simp [bind, Except.bind]
  | cons d rest =>
    cases wrapped : wrapForDevices crypto draws.messageKey.bytes draws.seed 0 (d :: rest) ∅ with
    | error e => simp [bind, Except.bind]
    | ok keys =>
      obtain ⟨algorithm, body, iv, held⟩ := payload
      simp only [List.isEmpty_cons, bind, Except.bind, Except.ok.injEq]
      constructor
      · intro same
        cases same
        exact ⟨List.cons_ne_nil _ _, ⟨rfl, rfl⟩, rfl, rfl⟩
      · rintro ⟨-, ⟨rfl, rfl⟩, rfl, rfl⟩
        rfl

theorem wrappedKeyFor_sealed (ideal : crypto.Ideal) {keys : Record String} {deviceId : String}
    {drawn : Seed} {messageKey : List UInt8} {recipient : PublicKey}
    (held : keys.get (EcmaText.trim deviceId) = some (crypto.sealKey drawn messageKey recipient)) :
    wrappedKeyFor keys deviceId = .ok (crypto.sealKey drawn messageKey recipient) := by
  have own : readProperty keys (EcmaText.trim deviceId) =
      .own (crypto.sealKey drawn messageKey recipient) := readProperty_eq_own.mpr held
  rw [wrappedKeyFor, own]
  exact if_pos (ideal.seal_nonblank drawn messageKey recipient)

/-- The private key of the public key a slot was wrapped for reads the message. -/
theorem decryptHybrid_own (ideal : crypto.Ideal) (encrypts : payload.Encrypts crypto draws plaintext)
    {deviceId : String} {drawn : Seed} {own : PrivateKey}
    (held : payload.encryptedMessageKeys.get (EcmaText.trim deviceId) =
      some (crypto.sealKey drawn draws.messageKey.bytes (crypto.publicKeyOf own))) :
    decryptHybridMessageToUtf8 crypto payload.body payload.iv payload.encryptedMessageKeys deviceId
      own = .ok (TextCoding.decode (TextCoding.encode plaintext)) := by
  simp only [decryptHybridMessageToUtf8, wrappedKeyFor_sealed ideal held, unwrapMessageKey,
    ideal.open_own, encrypts.body, encrypts.iv, base64ToArrayBuffer_encode,
    decryptMessageBody_encrypt ideal draws.messageKey.length_eq, bind, Except.bind]

/-- Another private key does not. -/
theorem decryptHybrid_other (ideal : crypto.Ideal) (other : PrivateKey) {deviceId : String}
    {drawn : Seed} {recipient : PublicKey}
    (held : payload.encryptedMessageKeys.get (EcmaText.trim deviceId) =
      some (crypto.sealKey drawn draws.messageKey.bytes recipient))
    (mismatch : crypto.publicKeyOf other ≠ recipient) (text : CodeUnits) :
    decryptHybridMessageToUtf8 crypto payload.body payload.iv payload.encryptedMessageKeys deviceId
      other ≠ .ok text := by
  have closed := ideal.open_other drawn draws.messageKey.bytes recipient other mismatch
  simp only [decryptHybridMessageToUtf8, wrappedKeyFor_sealed ideal held, unwrapMessageKey, bind,
    Except.bind]
  cases opened : crypto.openKey (crypto.sealKey drawn draws.messageKey.bytes recipient) other with
  | error e => simp
  | ok key =>
    rw [opened] at closed
    simp [Except.toOption] at closed

end RoundTrip

end MessagingSystem.Source.Client
