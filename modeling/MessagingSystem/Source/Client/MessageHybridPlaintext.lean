import MessagingSystem.Foundation.JsonText
import MessagingSystem.Source.Client.MediaPublicUrl

/-!
# The inner plaintext of a hybrid message

`messageHybridPlaintext.ts`: a text without attachment is encrypted as it is, a
message with a media key as a small JSON envelope, and the decoder tells the
two apart by their content.
-/
namespace MessagingSystem.Source.Client
open Foundation

structure ParsedHybridPlaintext where
  text : String
  mediaObjectKey : Option String
  mediaRetrievableUrl : Option String
  deriving DecidableEq

section

variable (env : MediaEnv)

/-- Accepts `http:` and `https:` URLs. -/
def sanitizeHttpUrlForMediaLocator (raw : String) : Option String :=
  let t := EcmaText.trim raw
  if t = "" then none
  else (env.parseUrl t).bind fun u =>
    if u.protocol ≠ "http:" ∧ u.protocol ≠ "https:" then none else some u.href

def sanitizePublicBasePrefix (raw : String) : Option String :=
  ((sanitizeHttpUrlForMediaLocator env raw).filter fun u => u ≠ "").map dropFinalSlash

/-- A URL that may be shared: not empty and not pre-signed for an upload. -/
def sharableUrl (raw : String) : Option String :=
  (sanitizeHttpUrlForMediaLocator env raw).filter fun u =>
    u ≠ "" && !isPresignedS3PutObjectUrl env u

/-- The members beside `k`: `u` when a URL is known, else `b` when a base is. -/
def locatorMembers (key : String) (mediaRetrievableUrl : Option String) : List (String × Json) :=
  let explicitU := sharableUrl env (EcmaText.trim (mediaRetrievableUrl.getD ""))
  let envFullUrl := sharableUrl env ((getMediaPublicObjectUrl env key).getD "")
  match explicitU, envFullUrl with
  | some u, _ => [("u", .string u)]
  | none, some u => [("u", .string u)]
  | none, none => ((getMediaPublicBasePrefix env).map fun base => ("b", Json.string base)).toList

/-- The envelope of a message with a media key. -/
def envelopeJson (text key : String) (mediaRetrievableUrl : Option String) : Json :=
  .object ([("v", .number "1")] ++ (if text ≠ "" then [("t", .string text)] else []) ++
    [("m", .object (("k", .string key) :: locatorMembers env key mediaRetrievableUrl))])

def serializeHybridInnerPlaintextV1 (text : String) (mediaObjectKey mediaRetrievableUrl : Option String) :
    String :=
  let key := EcmaText.trim (mediaObjectKey.getD "")
  if key = "" then text else (envelopeJson env text key mediaRetrievableUrl).stringify

/-- `m.u`, a pre-signed upload URL being replaced by the public URL of the key. -/
def parsedUrlOf (mediaObjectKey : Option String) (m : List (String × Json)) : Option String :=
  (Json.asString (Json.member m "u")).bind fun raw =>
    ((sanitizeHttpUrlForMediaLocator env raw).filter fun u => u ≠ "").bind fun u =>
      if isPresignedS3PutObjectUrl env u then
        (mediaObjectKey.bind fun key => sanitizeHttpUrlForMediaLocator env
          ((getMediaPublicObjectUrl env key).getD "")).filter fun u => u ≠ ""
      else some u

/-- `m.b` with the key. -/
def parsedBaseUrlOf (mediaObjectKey : Option String) (m : List (String × Json)) : Option String :=
  (Json.asString (Json.member m "b")).bind fun raw =>
    ((sanitizePublicBasePrefix env raw).filter fun b => b ≠ "").bind fun b =>
      mediaObjectKey.bind fun key => buildMediaUrlFromPublicBasePrefixAndKey b key

/-- The fields of a v1 envelope. -/
def parsedEnvelope (parsed : List (String × Json)) : ParsedHybridPlaintext :=
  let text := (Json.asString (Json.member parsed "t")).getD ""
  match Json.member parsed "m" with
  | some (.object m) =>
      let mediaObjectKey :=
        ((Json.asString (Json.member m "k")).filter EcmaText.isNonBlank).map EcmaText.trim
      ⟨text, mediaObjectKey, (parsedUrlOf env mediaObjectKey m).or (parsedBaseUrlOf env mediaObjectKey m)⟩
  | _ => ⟨text, none, none⟩

/-- `parsed.v === HYBRID_MESSAGE_PLAINTEXT_V1`. -/
def isVersionOne (parsed : List (String × Json)) : Bool :=
  match Json.member parsed "v" with
  | some (.number literal) => EcmaNumber.isOne literal
  | _ => false

/-- The members of a text that the decoder takes for a v1 envelope. -/
def v1Members (utf8 : String) : Option (List (String × Json)) :=
  if EcmaText.startsWith (EcmaText.trim utf8) "\x7b" then
    match Json.parse utf8 with
    | some (.object parsed) => if isVersionOne parsed then some parsed else none
    | _ => none
  else none

def parseDecryptedHybridUtf8 (utf8 : String) : ParsedHybridPlaintext :=
  match v1Members utf8 with
  | some parsed => parsedEnvelope env parsed
  | none => ⟨utf8, none, none⟩

end

section Envelope

variable {env : MediaEnv} {text key : String} {url : Option String}

theorem locatorMembers_cases (env : MediaEnv) (key : String) (url : Option String) :
    locatorMembers env key url = [] ∨
      ∃ value, locatorMembers env key url = [("u", .string value)] ∨
        locatorMembers env key url = [("b", .string value)] := by
  unfold locatorMembers
  dsimp only
  cases sharableUrl env (EcmaText.trim (url.getD "")) with
  | some u => exact .inr ⟨u, .inl rfl⟩
  | none =>
    cases sharableUrl env ((getMediaPublicObjectUrl env key).getD "") with
    | some u => exact .inr ⟨u, .inl rfl⟩
    | none =>
      cases getMediaPublicBasePrefix env with
      | some base => exact .inr ⟨base, .inr rfl⟩
      | none => exact .inl rfl

theorem locator_wellFormed (env : MediaEnv) (key : String) (url : Option String) :
    Json.wellFormed (.object (("k", .string key) :: locatorMembers env key url)) = true := by
  rcases locatorMembers_cases env key url with none | ⟨value, u | b⟩
  · rw [none]
    rfl
  · rw [u]
    rfl
  · rw [b]
    rfl

theorem envelopeJson_wellFormed (env : MediaEnv) (text key : String) (url : Option String) :
    (envelopeJson env text key url).wellFormed = true := by
  have locator := locator_wellFormed env key url
  have one : (Json.number "1").wellFormed = true := by decide
  unfold envelopeJson
  by_cases empty : text = ""
  · simp [empty, Json.wellFormed, Json.membersWellFormed] at one locator ⊢
    exact ⟨one, locator⟩
  · simp [empty, Json.wellFormed, Json.membersWellFormed] at one locator ⊢
    exact ⟨one, locator⟩

/-- An envelope is read back. -/
theorem v1Members_envelope (env : MediaEnv) (text key : String) (url : Option String) :
    ∃ parsed, v1Members (envelopeJson env text key url).stringify = some parsed ∧
      envelopeJson env text key url = .object parsed := by
  have read := Json.parse_stringify (envelopeJson_wellFormed env text key url)
  have opens : EcmaText.startsWith (EcmaText.trim (envelopeJson env text key url).stringify) "\x7b" =
      true := by
    have ends : EcmaText.trim (envelopeJson env text key url).stringify =
        (envelopeJson env text key url).stringify := by
      unfold envelopeJson Json.stringify
      rw [Json.write, List.cons_append]
      exact EcmaText.trimmed_of_ends _ _ _ (by decide) (by decide)
    rw [ends]
    unfold envelopeJson Json.stringify EcmaText.startsWith
    simp only [Json.write, String.toList_ofList, List.cons_append]
    rfl
  unfold v1Members
  rw [if_pos opens, read]
  exact ⟨_, if_pos rfl, rfl⟩

end Envelope

end MessagingSystem.Source.Client
