import MessagingSystem.Source.Client.MessageHybrid

/-!
# Every addressed device can read

A message is encrypted for the union of the recipient's and the sender's device
lists. The directory keeps device ids apart per user only, while the union and
the map of wrapped keys go by the id alone, so two users' devices of one id
contend for one slot.
-/
namespace MessagingSystem.Guarantees.AddressedDevices
open Foundation Source.Client

section

variable {PublicKey PrivateKey Seed : Type}

/-- The device of a listed row finds a key wrapped to its own public key, and
the matching private key gives the plaintext. -/
structure CanRead (crypto : WebCrypto PublicKey PrivateKey Seed) (draws : HybridDraws Seed)
    (plaintext : CodeUnits) (payload : HybridSendPayload) (row : HybridDeviceRow) : Prop where
  wrapped : ∃ drawn recipient, importRecipientPublicEcdhP256 crypto row.publicKey = .ok recipient ∧
    payload.encryptedMessageKeys.get (EcmaText.trim row.deviceId) =
      some (crypto.sealKey drawn draws.messageKey.bytes recipient)
  reads : ∀ own, importRecipientPublicEcdhP256 crypto row.publicKey = .ok (crypto.publicKeyOf own) →
    decryptHybridMessageToUtf8 crypto payload.body payload.iv payload.encryptedMessageKeys
      row.deviceId own = .ok plaintext

/-- Every listed device of the recipient and of the sender reads the message. -/
def AllCanRead (crypto : WebCrypto PublicKey PrivateKey Seed) (draws : HybridDraws Seed)
    (plaintext : CodeUnits) (recipientRows selfRows : List HybridDeviceRow) : Prop :=
  ∀ row ∈ recipientRows ++ selfRows, ∃ payload,
    encryptUtf8ToHybridSendPayload crypto draws plaintext
      (mergeHybridDeviceRows [recipientRows, selfRows]) = .ok payload ∧
    CanRead crypto draws plaintext payload row

/-- A row that gets a slot of its own, and a plaintext the text encoding keeps. -/
structure Addressable (crypto : WebCrypto PublicKey PrivateKey Seed) (plaintext : CodeUnits)
    (rows : List HybridDeviceRow) (row : HybridDeviceRow) : Prop where
  imported : ∃ recipient, importRecipientPublicEcdhP256 crypto row.publicKey = .ok recipient
  nonblank : EcmaText.trim row.deviceId ≠ ""
  plain : EcmaText.trim row.deviceId ≠ "__proto__"
  unshared : ∀ other ∈ rows, EcmaText.trim other.deviceId = EcmaText.trim row.deviceId →
    importRecipientPublicEcdhP256 crypto other.publicKey =
      importRecipientPublicEcdhP256 crypto row.publicKey
  wellFormed : TextCoding.IsWellFormed plaintext
  noMark : plaintext.head? ≠ some 0xFEFF

variable {crypto : WebCrypto PublicKey PrivateKey Seed} {draws : HybridDraws Seed}
variable {plaintext : CodeUnits} {recipientRows selfRows : List HybridDeviceRow}
variable {payload : HybridSendPayload} {row other : HybridDeviceRow}

/-- One slot is wrapped for one public key. -/
theorem sealed_injective (ideal : crypto.Ideal) {drawn drawn' : Seed} {messageKey : List UInt8}
    {recipient recipient' : PublicKey}
    (same : crypto.sealKey drawn messageKey recipient =
      crypto.sealKey drawn' messageKey recipient') : recipient = recipient' := by
  by_contra differ
  obtain ⟨own, rfl⟩ := ideal.public_has_private recipient
  have opened := ideal.open_own drawn messageKey own
  have closed := ideal.open_other drawn' messageKey recipient' own differ
  rw [← same, opened] at closed
  simp [Except.toOption] at closed

/-- The slots of a payload for the union of two lists. -/
theorem slot_of_union
    (encrypted : encryptUtf8ToHybridSendPayload crypto draws plaintext
      (mergeHybridDeviceRows [recipientRows, selfRows]) = .ok payload)
    {id envelope : String} (held : payload.encryptedMessageKeys.get id = some envelope) :
    id ≠ "" ∧ id ≠ "__proto__" := by
  obtain ⟨-, -, -, wrapped⟩ := encryptUtf8_eq_ok.mp encrypted
  constructor
  · rintro rfl
    have absent : "" ∉ (mergeHybridDeviceRows [recipientRows, selfRows]).map
        HybridDeviceRow.deviceId := by
      intro member
      obtain ⟨merged, held, blank⟩ := List.mem_map.mp member
      obtain ⟨listed, -, nonblank, rfl⟩ := mem_merged held
      exact nonblank blank
    rw [wrapForDevices_frame draws.messageKey.length_eq wrapped absent] at held
    simp at held
  · rintro rfl
    rw [wrapForDevices_proto draws.messageKey.length_eq wrapped] at held
    simp at held

/-- The row of the union for a listed id. -/
theorem row_of_union (member : row ∈ recipientRows ++ selfRows)
    (nonblank : EcmaText.trim row.deviceId ≠ "") :
    ∃ listed ∈ recipientRows ++ selfRows,
      EcmaText.trim listed.deviceId = EcmaText.trim row.deviceId ∧
      ⟨EcmaText.trim row.deviceId, listed.publicKey⟩ ∈
        mergeHybridDeviceRows [recipientRows, selfRows] := by
  have flat : [recipientRows, selfRows].flatten = recipientRows ++ selfRows := by simp
  obtain ⟨kept, held, id⟩ := merged_of_mem [recipientRows, selfRows]
    (flat ▸ member) nonblank
  obtain ⟨listed, original, -, rfl⟩ := mem_merged held
  refine ⟨listed, flat ▸ original, id, ?_⟩
  rw [← id]
  exact held

theorem addressable_of_all_can_read (ideal : crypto.Ideal)
    (all : AllCanRead crypto draws plaintext recipientRows selfRows)
    (member : row ∈ recipientRows ++ selfRows) :
    Addressable crypto plaintext (recipientRows ++ selfRows) row := by
  obtain ⟨payload, encrypted, canRead⟩ := all row member
  obtain ⟨drawn, recipient, imported, slot⟩ := canRead.wrapped
  obtain ⟨nonblank, plain⟩ := slot_of_union encrypted slot
  obtain ⟨own, rfl⟩ := ideal.public_has_private recipient
  obtain ⟨-, encrypts, -, -⟩ := encryptUtf8_eq_ok.mp encrypted
  have read := canRead.reads own imported
  rw [decryptHybrid_own ideal encrypts slot, Except.ok.injEq] at read
  obtain ⟨wellFormed, noMark⟩ := (TextCoding.decode_encode_iff plaintext).mp read
  refine ⟨⟨_, imported⟩, nonblank, plain, ?_, wellFormed, noMark⟩
  intro other held sameId
  obtain ⟨payload', encrypted', canRead'⟩ := all other held
  obtain rfl := Except.ok.inj (encrypted.symm.trans encrypted')
  obtain ⟨drawn', recipient', imported', slot'⟩ := canRead'.wrapped
  rw [sameId, slot, Option.some.injEq] at slot'
  rw [imported, imported', sealed_injective ideal slot']

theorem all_can_read_of_addressable (ideal : crypto.Ideal)
    (all : ∀ row ∈ recipientRows ++ selfRows,
      Addressable crypto plaintext (recipientRows ++ selfRows) row) :
    AllCanRead crypto draws plaintext recipientRows selfRows := by
  intro row member
  have addressable := all row member
  obtain ⟨recipient, imported⟩ := addressable.imported
  obtain ⟨listed, original, id, kept⟩ := row_of_union member addressable.nonblank
  have importable : ∀ d ∈ mergeHybridDeviceRows [recipientRows, selfRows], ∃ recipient,
      importRecipientPublicEcdhP256 crypto d.publicKey = .ok recipient := by
    intro d held
    obtain ⟨source, inLists, -, rfl⟩ := mem_merged held
    exact (all source (by simpa using inLists)).imported
  obtain ⟨keys, wrapped⟩ : ∃ keys, wrapForDevices crypto draws.messageKey.bytes draws.seed 0
      (mergeHybridDeviceRows [recipientRows, selfRows]) ∅ = .ok keys :=
    (wrapForDevices_completes_iff draws.messageKey.length_eq).mpr importable
  obtain ⟨payload, encrypted, held⟩ : ∃ payload, encryptUtf8ToHybridSendPayload crypto draws
      plaintext (mergeHybridDeviceRows [recipientRows, selfRows]) = .ok payload ∧
        payload.encryptedMessageKeys = keys :=
    ⟨⟨_, _, _, keys⟩, encryptUtf8_eq_ok.mpr
      ⟨List.ne_nil_of_mem kept, ⟨rfl, rfl⟩, rfl, wrapped⟩, rfl⟩
  obtain ⟨drawn, recipient', imported', slot⟩ := wrapForDevices_get draws.messageKey.length_eq
    wrapped (merged_nodup _) kept addressable.plain
  rw [← held] at slot
  rw [addressable.unshared listed original id, imported, Except.ok.injEq] at imported'
  subst imported'
  refine ⟨payload, encrypted, ⟨drawn, recipient, imported, slot⟩, ?_⟩
  intro own matching
  obtain rfl := Except.ok.inj (imported.symm.trans matching)
  obtain ⟨-, encrypts, -, -⟩ := encryptUtf8_eq_ok.mp encrypted
  have preserved := (TextCoding.decode_encode_iff plaintext).mpr
    ⟨addressable.wellFormed, addressable.noMark⟩
  rw [decryptHybrid_own ideal encrypts slot, preserved]

/-- Every listed device reads the message exactly when every row has a slot of
its own and the text encoding keeps the plaintext. -/
theorem all_can_read_iff (ideal : crypto.Ideal) (draws : HybridDraws Seed) (plaintext : CodeUnits)
    (recipientRows selfRows : List HybridDeviceRow) :
    AllCanRead crypto draws plaintext recipientRows selfRows ↔
      ∀ row ∈ recipientRows ++ selfRows,
        Addressable crypto plaintext (recipientRows ++ selfRows) row :=
  ⟨fun all _ member => addressable_of_all_can_read ideal all member,
    all_can_read_of_addressable ideal⟩

end

section Runs

/-- Random values that all came out zero. -/
def zeroDraws : HybridDraws Unit where
  messageKey := .zero 32
  iv := .zero 12
  seed _ := ()

/-- The text `hi`. -/
def greeting : CodeUnits := [0x68, 0x69]

/-- A directory row for the device that holds the private key `own`. -/
def deviceRow (deviceId : String) (own : UInt8) : HybridDeviceRow :=
  ⟨deviceId, exportPublicKeySpkiBase64 transparentCrypto own⟩

theorem import_deviceRow (deviceId : String) (own : UInt8) :
    importRecipientPublicEcdhP256 transparentCrypto (deviceRow deviceId own).publicKey = .ok own :=
  importRecipient_export transparentCrypto_ideal own

theorem greeting_read_by_both :
    AllCanRead transparentCrypto zeroDraws greeting [deviceRow "phone" 1] [deviceRow "laptop" 2] := by
  refine (all_can_read_iff transparentCrypto_ideal zeroDraws greeting [deviceRow "phone" 1]
    [deviceRow "laptop" 2]).mpr ?_
  simp only [List.cons_append, List.nil_append, List.mem_cons, List.not_mem_nil, or_false,
    forall_eq_or_imp, forall_eq]
  refine ⟨⟨⟨1, import_deviceRow _ _⟩, by decide, by decide, ?_, by decide, by decide⟩,
    ⟨⟨2, import_deviceRow _ _⟩, by decide, by decide, ?_, by decide, by decide⟩⟩
  · intro other member
    rcases List.mem_pair.mp member with rfl | rfl
    · exact fun _ => rfl
    · exact fun same => absurd same (by decide)
  · intro other member
    rcases List.mem_pair.mp member with rfl | rfl
    · exact fun same => absurd same (by decide)
    · exact fun _ => rfl

/-- Two users whose legacy keys were migrated: both devices are called `default`,
and the recipient's is left without a key. -/
theorem migrated_recipient_cannot_read :
    ¬ AllCanRead transparentCrypto zeroDraws greeting [deviceRow "default" 1]
      [deviceRow "default" 2] := by
  intro all
  have addressable : Addressable transparentCrypto greeting
      ([deviceRow "default" 1] ++ [deviceRow "default" 2]) (deviceRow "default" 1) :=
    addressable_of_all_can_read transparentCrypto_ideal all (by simp)
  have same := addressable.unshared (deviceRow "default" 2) (by simp) rfl
  rw [import_deviceRow, import_deviceRow, Except.ok.injEq] at same
  exact absurd same (by decide)

end Runs

end MessagingSystem.Guarantees.AddressedDevices
