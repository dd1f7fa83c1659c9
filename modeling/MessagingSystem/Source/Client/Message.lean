import MessagingSystem.Foundation.EcmaText
import MessagingSystem.Foundation.Record

/-!
# The wire `Message` and the hybrid envelope test

`components['schemas']['Message']` as the web client reads it, the client-only
preview field of `StoredMessage`, and `isHybridE2eeMessage` of
`messageHybrid.ts`.
-/
namespace MessagingSystem.Source.Client
open Foundation

/-- Wire tag for `Message.algorithm`. -/
def MESSAGE_HYBRID_ALGORITHM : String := "aes-256-gcm+p256-hybrid-v1"

structure Message where
  id : String
  conversationId : String
  senderId : String
  body : Nullable String := .undefined
  mediaKey : Nullable String := .undefined
  encryptedMessageKeys : Nullable (Record String) := .undefined
  iv : Nullable String := .undefined
  algorithm : Nullable String := .undefined
  createdAt : String
  deriving DecidableEq

/-- `messagesById` values: the server row and a client-only preview URL. -/
structure StoredMessage extends Message where
  mediaPreviewUrl : Nullable String := .undefined
  deriving DecidableEq

/-- A server row stored as it came. -/
def Message.toStored (m : Message) : StoredMessage := { toMessage := m }

@[simp] theorem Message.toStored_toMessage (m : Message) : m.toStored.toMessage = m := rfl

/-- `typeof x === 'string' && x.trim().length > 0`. -/
def isNonBlankField (f : Nullable String) : Bool :=
  match f with
  | .value s => EcmaText.isNonBlank s
  | _ => false

/-- True when the row carries the per-device hybrid envelope. -/
def isHybridE2eeMessage (m : Message) : Bool :=
  m.algorithm == .value MESSAGE_HYBRID_ALGORITHM &&
    (match m.encryptedMessageKeys with
      | .value keys => decide (0 < keys.size)
      | _ => false) &&
    isNonBlankField m.iv && isNonBlankField m.body

def isMessageWireE2ee (m : Message) : Bool := isHybridE2eeMessage m

/-- `x?.trim() ?? ''`. -/
def trimOrEmpty (f : Nullable String) : String :=
  match f with
  | .value s => EcmaText.trim s
  | _ => ""

/-- `x ?? ''`. -/
def textOrEmpty (f : Nullable String) : String := f.toOption.getD ""

/-- JavaScript truthiness of an optional string. -/
def isTruthy (f : Nullable String) : Bool :=
  match f with
  | .value s => !s.isEmpty
  | _ => false

end MessagingSystem.Source.Client
