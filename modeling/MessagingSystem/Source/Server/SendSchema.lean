import MessagingSystem.Source.Server.SendMessage

/-!
# The schema of a send

`sendMessageRequestSchema` of `schemas.ts`: `POST /messages` and the socket event
`message:send` parse their payload with it. Unknown members are stripped.
-/
namespace MessagingSystem.Source.Server
open Foundation

/-- What `ctx.addIssue` records. -/
structure SchemaIssue where
  message : String
  path : List String

/-- `z.union([z.string(), z.null()]).optional()` with a check of its string. -/
def nullableTextSchema (check : String → Bool) : Option Json → Option (Nullable String)
  | none => some .undefined
  | some .null => some .null
  | some (.string s) => if check s then some (.value s) else none
  | some _ => none

/-- `z.string().min(1)`. -/
def nonEmptyText (s : String) : Bool := 1 ≤ EcmaText.codeUnitLength s

/-- `z.string().optional()`. -/
def bodySchema : Option Json → Option (Nullable String)
  | none => some .undefined
  | some (.string s) => some (.value s)
  | some _ => none

/-- `z.record(z.string(), z.string()).optional()`, which passes over the name `__proto__`. -/
def encryptedMessageKeysSchema : Option Json → Option (Option (Record String))
  | none => some none
  | some (.object members) => do
      let own := members.filter fun m => m.1 ≠ "__proto__"
      let entries ← own.mapM fun m => (Json.asString (some m.2)).map fun key => (m.1, key)
      some (some (Record.ofList entries))
  | some _ => none

def issueWhen (condition : Bool) (message field : String) : List SchemaIssue :=
  if condition then [⟨message, [field]⟩] else []

/-- A field that is there with more than white space. -/
def hasText (f : Nullable String) : Bool := trimmedField f ≠ ""

def hasKeys (data : SendMessageRequest) : Bool := data.encryptedMessageKeys.any fun keys => decide (0 < keys.size)

/-- The `superRefine` of the schema. -/
def sendMessageIssues (data : SendMessageRequest) : List SchemaIssue :=
  let hasConv := hasText data.conversationId
  let hasRecip := hasText data.recipientUserId
  let bodyHas := hasText data.body
  let mediaHas := hasText data.mediaKey
  let ivOk := hasText data.iv
  let algOk := hasText data.algorithm
  issueWhen (!hasConv && !hasRecip)
      "Provide either conversationId (existing or group thread) or recipientUserId (new direct thread)"
      "conversationId" ++
    issueWhen (hasConv && hasRecip) "Omit recipientUserId when conversationId is set" "recipientUserId" ++
    issueWhen (!bodyHas && !mediaHas) "Provide body text and/or mediaKey" "body" ++
    issueWhen (hasKeys data && !ivOk) "iv is required when encryptedMessageKeys contains one or more entries" "iv" ++
    issueWhen (hasKeys data && !algOk)
      "algorithm is required when encryptedMessageKeys contains one or more entries" "algorithm"

/-- The payload that the schema makes of a request it accepts. -/
def sendMessageRequestSchema (raw : Json) : Option SendMessageRequest := do
  let o ← Json.asObject (some raw)
  let conversationId ← nullableTextSchema nonEmptyText (Json.member o "conversationId")
  let recipientUserId ← nullableTextSchema nonEmptyText (Json.member o "recipientUserId")
  let body ← bodySchema (Json.member o "body")
  let mediaKey ← nullableTextSchema nonEmptyText (Json.member o "mediaKey")
  let encryptedMessageKeys ← encryptedMessageKeysSchema (Json.member o "encryptedMessageKeys")
  let iv ← nullableTextSchema (fun _ => true) (Json.member o "iv")
  let algorithm ← nullableTextSchema (fun s => EcmaText.codeUnitLength s ≤ 256) (Json.member o "algorithm")
  let data : SendMessageRequest :=
    { conversationId, recipientUserId, body, mediaKey, encryptedMessageKeys, iv, algorithm }
  if (sendMessageIssues data).isEmpty then some data else none

section Accepted

variable {raw : Json} {data : SendMessageRequest}

@[simp] theorem issueWhen_eq_nil {condition : Bool} {message field : String} :
    issueWhen condition message field = [] ↔ condition = false := by
  cases condition <;> simp [issueWhen]

/-- An accepted payload passes each check of the `superRefine`. -/
theorem sendMessageRequestSchema_checks (accepted : sendMessageRequestSchema raw = some data) :
    sendMessageIssues data = [] := by
  simp only [sendMessageRequestSchema, Option.bind_eq_bind, Option.bind_eq_some_iff] at accepted
  obtain ⟨o, -, conversationId, -, recipientUserId, -, body, -, mediaKey, -, keys, -, iv, -, algorithm, -,
    checked⟩ := accepted
  split at checked
  · rename_i none
    cases checked
    exact List.isEmpty_iff.mp none
  · cases checked

theorem sendMessageIssues_eq_nil (data : SendMessageRequest) :
    sendMessageIssues data = [] ↔
      (hasText data.conversationId ≠ hasText data.recipientUserId) ∧
      (hasText data.body = true ∨ hasText data.mediaKey = true) ∧
      (hasKeys data = true → hasText data.iv = true ∧ hasText data.algorithm = true) := by
  simp only [sendMessageIssues, List.append_eq_nil_iff, issueWhen_eq_nil]
  cases hasText data.conversationId <;> cases hasText data.recipientUserId <;> cases hasText data.body <;>
    cases hasText data.mediaKey <;> cases hasKeys data <;> simp

/-- The normalizer keeps a text exactly when the schema counts it. -/
theorem normalizeText_isSome (f : Nullable String) : (normalizeText f).isSome = hasText f := by
  cases f with
  | undefined => simp [normalizeText, hasText, trimmedField]
  | null => simp [normalizeText, hasText, trimmedField]
  | value s => by_cases blank : EcmaText.trim s = "" <;> simp [normalizeText, hasText, trimmedField, blank]

theorem normalizeEnvelopeField_isSome (f : Nullable String) :
    (normalizeEnvelopeField f).toOption.isSome = hasText f := by
  cases f with
  | undefined => simp [normalizeEnvelopeField, hasText, trimmedField]
  | null => simp [normalizeEnvelopeField, hasText, trimmedField]
  | value s => by_cases blank : EcmaText.trim s = "" <;> simp [normalizeEnvelopeField, hasText, trimmedField, blank]

theorem hasHybridEnvelope_eq (data : SendMessageRequest) :
    hasHybridEnvelope data = (hasKeys data && hasText data.algorithm) := by
  unfold hasHybridEnvelope hasKeys
  rw [normalizeEnvelopeField_isSome]
  cases data.encryptedMessageKeys <;> rfl

/-- An accepted payload has a hybrid envelope as soon as it names keys. -/
theorem hasHybridEnvelope_accepted (checked : sendMessageIssues data = []) :
    hasHybridEnvelope data = hasKeys data := by
  obtain ⟨-, -, envelope⟩ := (sendMessageIssues_eq_nil data).mp checked
  rw [hasHybridEnvelope_eq]
  cases keys : hasKeys data with
  | false => rfl
  | true => exact (envelope keys).2

theorem names_of_mapM {members : List (String × Json)} {entries : List (String × String)}
    (mapped : (members.mapM fun m => (Json.asString (some m.2)).map fun key => (m.1, key)) = some entries) :
    entries.map Prod.fst = members.map Prod.fst := by
  induction members generalizing entries with
  | nil =>
    cases mapped
    rfl
  | cons m rest ih =>
    simp only [List.mapM_cons, Option.bind_eq_bind, Option.bind_eq_some_iff, Option.pure_def] at mapped
    obtain ⟨e, first, others, more, same⟩ := mapped
    obtain ⟨key, -, rfl⟩ := Option.map_eq_some_iff.mp first
    cases same
    rw [List.map_cons, List.map_cons, ih more]

/-- The schema passes over the name `__proto__`. -/
theorem encryptedMessageKeysSchema_plain {value : Option Json} {keys : Record String}
    (accepted : encryptedMessageKeysSchema value = some (some keys)) : keys.get "__proto__" = none := by
  unfold encryptedMessageKeysSchema at accepted
  split at accepted
  · cases accepted
  · rename_i members
    simp only [Option.bind_eq_bind, Option.bind_eq_some_iff] at accepted
    obtain ⟨entries, mapped, same⟩ := accepted
    cases same
    apply Record.get_ofList_of_absent
    intro among
    rw [names_of_mapM mapped] at among
    obtain ⟨m, own, named⟩ := List.mem_map.mp among
    exact of_decide_eq_true (List.mem_filter.mp own).2 named
  · cases accepted

theorem sendMessageRequestSchema_keys (accepted : sendMessageRequestSchema raw = some data) {keys : Record String}
    (given : data.encryptedMessageKeys = some keys) : keys.get "__proto__" = none := by
  simp only [sendMessageRequestSchema, Option.bind_eq_bind, Option.bind_eq_some_iff] at accepted
  obtain ⟨o, -, conversationId, -, recipientUserId, -, body, -, mediaKey, -, parsed, schema, iv, -, algorithm, -,
    checked⟩ := accepted
  split at checked
  · cases checked
    exact encryptedMessageKeysSchema_plain (schema.trans (congrArg some given))
  · cases checked

end Accepted

end MessagingSystem.Source.Server
