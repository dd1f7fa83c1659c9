import MessagingSystem.Foundation.EcmaNumber
import MessagingSystem.Source.Client.NotificationsSlice
import MessagingSystem.Source.Client.SocketMessageNew

/-!
# Notifications of a tab

`socketNotificationPayload.ts`: the worker takes a `notification` event apart and
builds its payload anew, from the members of its kind only.
-/
namespace MessagingSystem.Source.Client
open Foundation

/-- A property that is absent, `null` or a string, copied as it is. -/
def nullableCopy (o : List (String × Json)) (name : String) : Option (List (String × Json)) :=
  (nullableText o name).map (nullableMember name)

/-- A property that is absent or a string, copied as it is. -/
def optionalCopy (o : List (String × Json)) (name : String) : Option (List (String × Json)) :=
  match Json.member o name with
  | none => some []
  | some (.string s) => some [(name, .string s)]
  | some _ => none

/-- The group of a notification whose scope is `group`. -/
def groupCopy (o : List (String × Json)) (scope : String) : Option (List (String × Json)) :=
  if scope = "group" then do
    let groupId ← nonBlankText o "groupId"
    let groupTitle ← nullableCopy o "groupTitle"
    some (("groupId", .string (EcmaText.trim groupId)) :: groupTitle)
  else some []

/-- `direct` or `group`. -/
def scopeText (o : List (String × Json)) (name : String) : Option String :=
  (Json.asString (Json.member o name)).filter fun s => s = "direct" || s = "group"

def parseMessageKind (o : List (String × Json)) : Option ParsedNotificationPayload := do
  let notificationId ← nonBlankText o "notificationId"
  let occurredAt ← nonBlankText o "occurredAt"
  let threadType ← scopeText o "threadType"
  let conversationId ← nonBlankText o "conversationId"
  let messageId ← nonBlankText o "messageId"
  let senderUserId ← nonBlankText o "senderUserId"
  let senderDisplayName ← nullableCopy o "senderDisplayName"
  let preview ← optionalCopy o "preview"
  let group ← groupCopy o threadType
  some {
    notificationId := EcmaText.trim notificationId
    content := [("schemaVersion", .number "1"), ("kind", .string "message"),
      ("notificationId", .string (EcmaText.trim notificationId)), ("occurredAt", .string (EcmaText.trim occurredAt)),
      ("threadType", .string threadType), ("conversationId", .string (EcmaText.trim conversationId)),
      ("messageId", .string (EcmaText.trim messageId)), ("senderUserId", .string (EcmaText.trim senderUserId))] ++
      senderDisplayName ++ preview ++ group }

/-- The display name of a caller; it is never left out. -/
def callerDisplayName (o : List (String × Json)) : Option Json :=
  match Json.member o "callerDisplayName" with
  | none => some .null
  | some .null => some .null
  | some (.string s) => some (.string s)
  | some _ => none

/-- A property that is absent or a string that is not blank, trimmed. -/
def optionalNonBlank (o : List (String × Json)) (name : String) : Option (List (String × Json)) :=
  match Json.member o name with
  | none => some []
  | some _ => (nonBlankText o name).map fun s => [(name, .string (EcmaText.trim s))]

def parseCallIncomingKind (o : List (String × Json)) : Option ParsedNotificationPayload := do
  let notificationId ← nonBlankText o "notificationId"
  let occurredAt ← nonBlankText o "occurredAt"
  let media ← (Json.asString (Json.member o "media")).filter fun s => s = "audio" || s = "video"
  let callScope ← scopeText o "callScope"
  let callId ← nonBlankText o "callId"
  let callerUserId ← nonBlankText o "callerUserId"
  let callerDisplayName ← callerDisplayName o
  let conversationId ← optionalNonBlank o "conversationId"
  let group ← groupCopy o callScope
  some {
    notificationId := EcmaText.trim notificationId
    content := [("schemaVersion", .number "1"), ("kind", .string "call_incoming"),
      ("notificationId", .string (EcmaText.trim notificationId)), ("occurredAt", .string (EcmaText.trim occurredAt)),
      ("media", .string media), ("callScope", .string callScope), ("callId", .string (EcmaText.trim callId)),
      ("callerUserId", .string (EcmaText.trim callerUserId)), ("callerDisplayName", callerDisplayName)] ++
      conversationId ++ group }

/-- `o.schemaVersion === 1`. -/
def isSchemaVersionOne (o : List (String × Json)) : Bool :=
  match Json.member o "schemaVersion" with
  | some (.number literal) => EcmaNumber.isOne literal
  | _ => false

def parseNotificationWorkerPayload (input : Json) : Option ParsedNotificationPayload := do
  let o ← Json.asObject (some input)
  if isSchemaVersionOne o then
    match Json.member o "kind" with
    | some (.string "message") => parseMessageKind o
    | some (.string "call_incoming") => parseCallIncomingKind o
    | _ => none
  else none

end MessagingSystem.Source.Client
