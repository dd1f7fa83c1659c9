import MessagingSystem.Foundation.Json
import MessagingSystem.Source.Client.Message

/-!
# `message:new` of a tab

`socketMessageNew.ts`. An object is the list of its members; the keys of a message are
copied one by one into a plain object.
-/
namespace MessagingSystem.Source.Client
open Foundation

/-- The members of a row, a missing property being left out. -/
def nullableMember (name : String) : Nullable String → List (String × Json)
  | .undefined => []
  | .null => [(name, .null)]
  | .value s => [(name, .string s)]

/-- The member of the keys; the order of a record's names is not observable. -/
def keysMember : Nullable (Record String) → List (String × Json)
  | .undefined => []
  | .null => [("encryptedMessageKeys", .null)]
  | .value keys => [("encryptedMessageKeys", .object (keys.names.map fun name =>
      (name, .string ((keys.get name).getD ""))))]

/-- The fields of a row, as an object has them. -/
def Message.members (m : Message) : List (String × Json) :=
  [("id", .string m.id), ("conversationId", .string m.conversationId), ("senderId", .string m.senderId)] ++
    nullableMember "body" m.body ++ nullableMember "mediaKey" m.mediaKey ++
    [("createdAt", .string m.createdAt)] ++ keysMember m.encryptedMessageKeys ++
    nullableMember "iv" m.iv ++ nullableMember "algorithm" m.algorithm

/-- `typeof o[name] === 'string' && o[name].trim() !== ''`. -/
def nonBlankText (o : List (String × Json)) (name : String) : Option String :=
  (Json.asString (Json.member o name)).filter fun s => EcmaText.isNonBlank s

/-- A property that is absent, `null` or a string. -/
def nullableText (o : List (String × Json)) (name : String) : Option (Nullable String) :=
  match Json.member o name with
  | none => some .undefined
  | some .null => some .null
  | some (.string s) => some (.value s)
  | some _ => none

/-- The loop over the entries, which ends at a value that is not a string. -/
def copyKeys (out : Record String) : List (String × Json) → Option (Record String)
  | [] => some out
  | (k, .string v) :: rest => copyKeys (assignProperty out k v) rest
  | _ :: _ => none

def parseEncryptedMessageKeysField : Option Json → Option (Nullable (Record String))
  | none => some .undefined
  | some .null => some .null
  | some (.object entries) => (copyKeys ∅ entries).map .value
  | some _ => none

def parseMessageNewPayload (input : Json) : Option Message := do
  let o ← Json.asObject (some input)
  let id ← nonBlankText o "id"
  let conversationId ← nonBlankText o "conversationId"
  let senderId ← nonBlankText o "senderId"
  let createdAt ← nonBlankText o "createdAt"
  let body ← nullableText o "body"
  let mediaKey ← nullableText o "mediaKey"
  let iv ← nullableText o "iv"
  let algorithm ← nullableText o "algorithm"
  let emk ← parseEncryptedMessageKeysField (Json.member o "encryptedMessageKeys")
  some {
    id := EcmaText.trim id
    conversationId := EcmaText.trim conversationId
    senderId := EcmaText.trim senderId
    body := body
    mediaKey := mediaKey
    encryptedMessageKeys := emk
    iv := iv
    algorithm := algorithm
    createdAt := createdAt }

section Keys

/-- The copy has the string of every name but `__proto__`, the last one of a name that is repeated. -/
theorem get_copyKeys {entries : List (String × String)} (distinct : (entries.map Prod.fst).Nodup) (out : Record String) :
    ∃ copied, copyKeys out (entries.map fun e => (e.1, Json.string e.2)) = some copied ∧ ∀ name, copied.get name =
      if name = "__proto__" then out.get name
      else ((entries.find? fun e => e.1 = name).map Prod.snd).orElse fun _ => out.get name := by
  induction entries generalizing out with
  | nil =>
    refine ⟨out, rfl, fun name => ?_⟩
    split <;> rfl
  | cons e rest ih =>
    obtain ⟨fresh, distinct⟩ := List.nodup_cons.mp distinct
    obtain ⟨copied, copies, gets⟩ := ih distinct (assignProperty out e.1 e.2)
    refine ⟨copied, copies, fun name => ?_⟩
    rw [gets name, get_assignProperty]
    by_cases proto : name = "__proto__"
    · subst proto
      simp only [if_true]
      rw [if_neg]
      rintro ⟨same, other⟩
      exact other same.symm
    · rw [if_neg proto, if_neg proto]
      by_cases here : e.1 = name
      · subst here
        have absent : rest.find? (fun other => other.1 = e.1) = none := by
          refine List.find?_eq_none.mpr fun other listed same => fresh ?_
          rw [← of_decide_eq_true same]
          exact List.mem_map_of_mem listed
        rw [absent, if_pos ⟨rfl, proto⟩]
        simp
      · rw [if_neg fun same => here same.1.symm, List.find?_cons_of_neg (by simpa using here)]

/-- A record without `__proto__` is copied as it is. -/
theorem copyKeys_record {keys : Record String} (plain : keys.get "__proto__" = none) :
    copyKeys ∅ (keys.names.map fun name => (name, .string ((keys.get name).getD ""))) = some keys := by
  have distinct : ((keys.names.map fun name => (name, (keys.get name).getD "")).map Prod.fst).Nodup := by
    rw [List.map_map]
    have names : keys.names.map (Prod.fst ∘ fun name => (name, (keys.get name).getD "")) = keys.names :=
      List.map_id' keys.names
    rw [names]
    exact Finset.sort_nodup _ _
  obtain ⟨copied, copies, gets⟩ := get_copyKeys distinct ∅
  rw [List.map_map] at copies
  refine copies.trans (congrArg some (Record.ext fun name => ?_))
  rw [gets name, Record.get_empty]
  by_cases proto : name = "__proto__"
  · subst proto
    rw [if_pos rfl, plain]
  · rw [if_neg proto, List.find?_map]
    cases held : keys.get name with
    | none =>
      have absent : keys.names.find? ((fun e : String × String => decide (e.1 = name)) ∘
          fun name => (name, (keys.get name).getD "")) = none := by
        refine List.find?_eq_none.mpr fun other listed same => ?_
        have here : other = name := of_decide_eq_true same
        rw [Record.mem_names, here, held] at listed
        cases listed
      rw [absent]
      rfl
    | some value =>
      have listed : name ∈ keys.names := Record.mem_names.mpr (by rw [held]; rfl)
      have present : keys.names.find? ((fun e : String × String => decide (e.1 = name)) ∘
          fun name => (name, (keys.get name).getD "")) = some name := by
        have some' : (keys.names.find? ((fun e : String × String => decide (e.1 = name)) ∘
            fun name => (name, (keys.get name).getD ""))).isSome = true :=
          List.find?_isSome.mpr ⟨name, listed, decide_eq_true (Eq.refl name)⟩
        obtain ⟨found, finds⟩ := Option.isSome_iff_exists.mp some'
        have same := List.find?_some finds
        rw [finds]
        exact congrArg some (of_decide_eq_true same)
      rw [present]
      simp only [Option.map_some, held, Option.getD_some]
      rfl

end Keys

section Members

/-- A field of a row as an object has it. -/
def fieldJson : Nullable String → Option Json
  | .undefined => none
  | .null => some .null
  | .value s => some (.string s)

theorem member_nullableMember (field name : String) (f : Nullable String) :
    Json.member (nullableMember field f) name = if field = name then fieldJson f else none := by
  by_cases same : field = name
  · subst same
    cases f <;> simp [nullableMember, fieldJson]
  · cases f <;> simp [nullableMember, same]

theorem member_keysMember {name : String} (other : "encryptedMessageKeys" ≠ name)
    (keys : Nullable (Record String)) : Json.member (keysMember keys) name = none := by
  cases keys <;> simp [keysMember, other]

theorem nullableText_fieldJson {o : List (String × Json)} {name : String} {f : Nullable String}
    (held : Json.member o name = fieldJson f) : nullableText o name = some f := by
  unfold nullableText
  rw [held]
  cases f <;> rfl

theorem nonBlankText_held {o : List (String × Json)} {name s : String}
    (held : Json.member o name = some (.string s)) (solid : EcmaText.isNonBlank s = true) :
    nonBlankText o name = some s := by
  unfold nonBlankText
  rw [held, Json.asString, Option.filter_some, if_pos solid]

/-- A message that the parser can give back: its ids are trimmed and no key is named `__proto__`. -/
structure Message.Clean (m : Message) : Prop where
  id : EcmaText.Trimmed m.id ∧ m.id ≠ ""
  conversationId : EcmaText.Trimmed m.conversationId ∧ m.conversationId ≠ ""
  senderId : EcmaText.Trimmed m.senderId ∧ m.senderId ≠ ""
  createdAt : EcmaText.isNonBlank m.createdAt = true
  keys : ∀ keys, m.encryptedMessageKeys = .value keys → keys.get "__proto__" = none

theorem isNonBlank_trimmed {s : String} (trimmed : EcmaText.Trimmed s ∧ s ≠ "") :
    EcmaText.isNonBlank s = true := by
  rw [EcmaText.isNonBlank_iff]
  have same : EcmaText.trim s = s := trimmed.1
  rw [same]
  exact trimmed.2

theorem parseEncryptedMessageKeysField_keysMember {keys : Nullable (Record String)}
    (plain : ∀ held, keys = .value held → held.get "__proto__" = none) :
    parseEncryptedMessageKeysField (Json.member (keysMember keys) "encryptedMessageKeys") = some keys := by
  cases keys with
  | undefined => rfl
  | null => rfl
  | value held =>
    unfold keysMember
    rw [Json.member_cons_self, parseEncryptedMessageKeysField, copyKeys_record (plain held rfl)]
    rfl

/-- Each field is found under its name. -/
theorem member_members (m : Message) :
    Json.member m.members "id" = some (.string m.id) ∧
      Json.member m.members "conversationId" = some (.string m.conversationId) ∧
      Json.member m.members "senderId" = some (.string m.senderId) ∧
      Json.member m.members "createdAt" = some (.string m.createdAt) ∧
      Json.member m.members "body" = fieldJson m.body ∧
      Json.member m.members "mediaKey" = fieldJson m.mediaKey ∧
      Json.member m.members "iv" = fieldJson m.iv ∧
      Json.member m.members "algorithm" = fieldJson m.algorithm ∧
      Json.member m.members "encryptedMessageKeys" =
        Json.member (keysMember m.encryptedMessageKeys) "encryptedMessageKeys" := by
  simp [Message.members, Json.member_append, member_nullableMember, member_keysMember]

/-- The members of a clean message are parsed to the message. -/
theorem parseMessageNewPayload_members {m : Message} (clean : m.Clean) :
    parseMessageNewPayload (.object m.members) = some m := by
  obtain ⟨id, conversationId, senderId, createdAt, body, mediaKey, iv, algorithm, keys⟩ := member_members m
  have parsed := parseEncryptedMessageKeysField_keysMember clean.keys
  have idTrim : EcmaText.trim m.id = m.id := clean.id.1
  have conversationTrim : EcmaText.trim m.conversationId = m.conversationId := clean.conversationId.1
  have senderTrim : EcmaText.trim m.senderId = m.senderId := clean.senderId.1
  simp only [parseMessageNewPayload, Json.asObject, Option.bind_eq_bind, Option.bind_some,
    nonBlankText_held id (isNonBlank_trimmed clean.id),
    nonBlankText_held conversationId (isNonBlank_trimmed clean.conversationId),
    nonBlankText_held senderId (isNonBlank_trimmed clean.senderId),
    nonBlankText_held createdAt clean.createdAt, nullableText_fieldJson body, nullableText_fieldJson mediaKey,
    nullableText_fieldJson iv, nullableText_fieldJson algorithm, keys, parsed, idTrim, conversationTrim,
    senderTrim]

end Members

end MessagingSystem.Source.Client
