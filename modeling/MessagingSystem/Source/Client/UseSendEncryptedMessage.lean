import MessagingSystem.Source.Client.DevicePublicKeysSlice
import MessagingSystem.Source.Client.MessageHybridPlaintext
import MessagingSystem.Source.Client.SocketMessageNew
import MessagingSystem.Source.Client.UseSendMessage

/-!
# The encrypted send

`useSendEncryptedMessage.sendMessage`: text and media key go into the inner
plaintext, which is encrypted for the devices of the recipient and of the sender,
and `message:send` carries the envelope in their place.
-/
namespace MessagingSystem.Source.Client
open Foundation

/-- `SendMessageRequest & { mediaRetrievableUrl? }`, without the fields of the envelope. -/
structure HybridSendRequest where
  conversationId : Nullable String := .undefined
  recipientUserId : Nullable String := .undefined
  body : Nullable String := .undefined
  mediaKey : Nullable String := .undefined
  mediaRetrievableUrl : Nullable String := .undefined

/-- The request of `useSendMessage`. -/
def HybridSendMessageRequest.toRequest (r : HybridSendMessageRequest) : HybridSendRequest where
  conversationId := .value r.conversationId
  body := r.body
  mediaKey := r.mediaKey
  mediaRetrievableUrl := r.mediaRetrievableUrl

/-- The request of `NewDirectThreadComposer`, from the trimmed text and the attachment. -/
def newDirectThreadRequest (recipientUserId text : String) (mediaKey mediaRetrievableUrl : Option String) :
    HybridSendRequest where
  recipientUserId := .value recipientUserId
  body := if text ≠ "" then .value text else .undefined
  mediaKey := (mediaKey.map .value).getD .undefined
  mediaRetrievableUrl :=
    let url := EcmaText.trim (mediaRetrievableUrl.getD "")
    if url ≠ "" then .value url else .undefined

def RECIPIENT_NO_HYBRID_DEVICE_KEYS_MESSAGE : String :=
  "This contact has no registered messaging devices. They need to use the app once on a supported browser " ++
    "(HTTPS) so their device can register encryption keys."

def SENDER_NO_HYBRID_DEVICE_KEYS_MESSAGE : String :=
  "No device encryption keys are available for your account in this browser. Try refreshing after signing in."

/-- What a send meets on its way: the end of the keypair check, the directory cache at the first
`getState()` with the clock, the end of its directory requests, and the cache at the second. -/
structure SendSurroundings where
  ready : Except CryptoError Unit
  cached : DevicePublicKeysState
  now : Nat
  fetched : List String → Except CryptoError Unit
  directory : DevicePublicKeysState

/-- The directories whose cached rows a send does not use. -/
def staleDirectories (around : SendSurroundings) (rid : String) : List String :=
  [rid, "me"].filter fun userId => !isDevicePublicKeysCacheFresh (around.cached.entry userId) around.now

/-- `entry?.items ?? []`. -/
def DevicePublicKeysState.rowsOf (state : DevicePublicKeysState) (userId : String) : List HybridDeviceRow :=
  ((state.entry userId).map DevicePublicKeysEntry.items).getD []

/-- The throw for a directory that could not be loaded. -/
def directoryError (directory : DevicePublicKeysState) (rid : String) : Option String :=
  let rEntry := directory.entry rid
  let sEntry := directory.entry "me"
  if (rEntry.any fun e => e.status = .failed) || sEntry.any fun e => e.status = .failed then
    some (((rEntry.bind DevicePublicKeysEntry.error).or (sEntry.bind DevicePublicKeysEntry.error)).getD
      "Failed to load device public keys.")
  else none

/-- The rows a message is encrypted for, the recipient's and the sender's. -/
def loadDeviceRows (around : SendSurroundings) (rid : String) :
    Except CryptoError (List HybridDeviceRow × List HybridDeviceRow) := do
  around.ready
  if staleDirectories around rid ≠ [] then around.fetched (staleDirectories around rid)
  match directoryError around.directory rid with
  | some message => .error (.error message)
  | none =>
      if around.directory.rowsOf rid = [] then .error (.error RECIPIENT_NO_HYBRID_DEVICE_KEYS_MESSAGE)
      else if around.directory.rowsOf "me" = [] then .error (.error SENDER_NO_HYBRID_DEVICE_KEYS_MESSAGE)
      else .ok (around.directory.rowsOf rid, around.directory.rowsOf "me")

/-- What `socketSend` gets: the envelope, beside what is left of the payload; `mediaKey` is `null`. -/
structure EncryptedSendRequest where
  conversationId : Nullable String
  recipientUserId : Nullable String
  hybrid : HybridSendPayload

/-- The members of the `message:send` event. -/
def EncryptedSendRequest.members (r : EncryptedSendRequest) : List (String × Json) :=
  nullableMember "conversationId" r.conversationId ++ nullableMember "recipientUserId" r.recipientUserId ++
    [("body", .string r.hybrid.body), ("mediaKey", .null), ("iv", .string r.hybrid.iv)] ++
    keysMember (.value r.hybrid.encryptedMessageKeys) ++ [("algorithm", .string r.hybrid.algorithm)]

/-- `payload.recipientUserId?.trim() || peerUserId || ''`. -/
def sendRecipient (peerUserId : Option String) (payload : HybridSendRequest) : String :=
  let own := trimOrEmpty payload.recipientUserId
  if own ≠ "" then own else EcmaText.trim (peerUserId.getD "")

/-- The text of a payload, as it goes into the inner plaintext. -/
def innerUtf8 (env : MediaEnv) (payload : HybridSendRequest) : String :=
  let mediaKeyTrim := trimOrEmpty payload.mediaKey
  serializeHybridInnerPlaintextV1 env (trimOrEmpty payload.body)
    (if mediaKeyTrim ≠ "" then some mediaKeyTrim else none) payload.mediaRetrievableUrl.toOption

section

variable {PublicKey PrivateKey Seed : Type} (crypto : WebCrypto PublicKey PrivateKey Seed) (env : MediaEnv)

/-- `sendMessage`, up to the request it hands to `socketSend`. -/
def sendEncryptedMessage (around : SendSurroundings) (draws : HybridDraws Seed) (senderId peerUserId : Option String)
    (payload : HybridSendRequest) : Except CryptoError EncryptedSendRequest := do
  if !EcmaText.isNonBlank (senderId.getD "") then
    .error (.error "You must be signed in to send messages.")
  if trimOrEmpty payload.body = "" ∧ trimOrEmpty payload.mediaKey = "" then
    .error (.error "Message body or mediaKey is required.")
  if sendRecipient peerUserId payload = "" then
    .error (.error "Encrypted send requires recipientUserId or peerUserId for this thread.")
  let (recipientRows, selfRows) ← loadDeviceRows around (sendRecipient peerUserId payload)
  let hybrid ← encryptUtf8ToHybridSendPayload crypto draws (TextCoding.units (innerUtf8 env payload).toList)
    (mergeHybridDeviceRows [recipientRows, selfRows])
  .ok ⟨payload.conversationId, payload.recipientUserId, hybrid⟩

variable {crypto env}
variable {around : SendSurroundings} {draws : HybridDraws Seed} {senderId peerUserId : Option String}
variable {payload : HybridSendRequest} {request : EncryptedSendRequest}

theorem loadDeviceRows_ok {rid : String} {rows : List HybridDeviceRow × List HybridDeviceRow}
    (loaded : loadDeviceRows around rid = .ok rows) :
    rows = (around.directory.rowsOf rid, around.directory.rowsOf "me") ∧
      around.directory.rowsOf rid ≠ [] ∧ around.directory.rowsOf "me" ≠ [] := by
  unfold loadDeviceRows at loaded
  cases ready : around.ready with
  | error e => simp [ready, bind, Except.bind] at loaded
  | ok done =>
    cases fetched : around.fetched (staleDirectories around rid) with
    | error e =>
      by_cases stale : staleDirectories around rid ≠ []
      · simp [ready, fetched, stale, bind, Except.bind] at loaded
      · simp only [ready, if_neg stale, bind, Except.bind] at loaded
        split at loaded
        · cases loaded
        · split at loaded
          · cases loaded
          · split at loaded
            · cases loaded
            · cases loaded
              exact ⟨rfl, by assumption, by assumption⟩
    | ok more =>
      simp only [ready, fetched, ite_self, bind, Except.bind] at loaded
      split at loaded
      · cases loaded
      · split at loaded
        · cases loaded
        · split at loaded
          · cases loaded
          · cases loaded
            exact ⟨rfl, by assumption, by assumption⟩

/-- A send that gets as far as its request has encrypted its inner plaintext for the rows of the directory. -/
theorem sendEncryptedMessage_ok
    (composed : sendEncryptedMessage crypto env around draws senderId peerUserId payload = .ok request) :
    encryptUtf8ToHybridSendPayload crypto draws (TextCoding.units (innerUtf8 env payload).toList)
        (mergeHybridDeviceRows [around.directory.rowsOf (sendRecipient peerUserId payload),
          around.directory.rowsOf "me"]) = .ok request.hybrid ∧
      request.conversationId = payload.conversationId ∧ request.recipientUserId = payload.recipientUserId := by
  unfold sendEncryptedMessage at composed
  by_cases signedIn : (!EcmaText.isNonBlank (senderId.getD "")) = true
  · simp [signedIn, bind, Except.bind] at composed
  · by_cases empty : trimOrEmpty payload.body = "" ∧ trimOrEmpty payload.mediaKey = ""
    · simp [signedIn, empty, bind, Except.bind] at composed
    · by_cases unaddressed : sendRecipient peerUserId payload = ""
      · simp [signedIn, empty, unaddressed, bind, Except.bind] at composed
      · simp only [if_neg signedIn, if_neg empty, if_neg unaddressed, bind, Except.bind] at composed
        cases loaded : loadDeviceRows around (sendRecipient peerUserId payload) with
        | error e =>
          rw [loaded] at composed
          cases composed
        | ok rows =>
          obtain ⟨rfl, -, -⟩ := loadDeviceRows_ok loaded
          rw [loaded] at composed
          dsimp only at composed
          cases encrypted : encryptUtf8ToHybridSendPayload crypto draws
              (TextCoding.units (innerUtf8 env payload).toList)
              (mergeHybridDeviceRows [around.directory.rowsOf (sendRecipient peerUserId payload),
                around.directory.rowsOf "me"]) with
          | error e =>
            rw [encrypted] at composed
            cases composed
          | ok hybrid =>
            rw [encrypted] at composed
            cases composed
            exact ⟨rfl, rfl, rfl⟩

end

end MessagingSystem.Source.Client
