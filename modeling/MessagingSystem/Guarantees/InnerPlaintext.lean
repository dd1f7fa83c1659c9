import MessagingSystem.Source.Client.MessageHybridPlaintext

/-!
# The inner plaintext comes back

With a media key the envelope carries text and key. Without one the text is its
own encoding, so it comes back exactly when it is no envelope itself: a text
that `JSON.parse` reads as an object whose `v` is 1 is taken for one, and then
its own text is lost.
-/
namespace MessagingSystem.Guarantees.InnerPlaintext
open Foundation Source.Client

/-- The trimmed media key, if there is one. -/
def keptKey (mediaObjectKey : Option String) : Option String :=
  let key := EcmaText.trim (mediaObjectKey.getD "")
  if key = "" then none else some key

/-- Decoding gives the text and the trimmed key back. -/
def RoundTrips (env : MediaEnv) (text : String) (mediaObjectKey mediaRetrievableUrl : Option String) :
    Prop :=
  (parseDecryptedHybridUtf8 env
    (serializeHybridInnerPlaintextV1 env text mediaObjectKey mediaRetrievableUrl)).text = text ∧
  (parseDecryptedHybridUtf8 env
    (serializeHybridInnerPlaintextV1 env text mediaObjectKey mediaRetrievableUrl)).mediaObjectKey =
      keptKey mediaObjectKey

/-- The text is JSON of an object whose `v` is 1. -/
def IsEnvelope (text : String) : Prop :=
  ∃ members, Json.parse text = some (.object members) ∧ isVersionOne members = true

section Detection

theorem isSpace_of_isJsonSpace {c : Char} (space : Json.isJsonSpace c = true) :
    EcmaText.isSpace c = true := by
  simp only [Json.isJsonSpace, Bool.or_eq_true, decide_eq_true_eq] at space
  rcases space with ((rfl | rfl) | rfl) | rfl <;> decide

/-- JSON text of an object opens with a brace after the white space. -/
theorem object_opens {text : String} {members : List (String × Json)}
    (parsed : Json.parse text = some (.object members)) :
    ∃ rest, Json.skipSpace text.toList = '\x7b' :: rest := by
  obtain ⟨r, read, whole⟩ := Option.bind_eq_some_iff.mp parsed
  split at whole
  · rw [Option.some.injEq] at whole
    generalize text.toList.length = fuel at read
    cases fuel with
    | zero => cases read
    | succ fuel =>
      rw [Json.readValue] at read
      split at read
      · obtain ⟨literal, -, rfl⟩ := Option.map_eq_some_iff.mp read
        cases whole
      · split at read
        · cases read
          cases whole
        · obtain ⟨items, -, rfl⟩ := Option.map_eq_some_iff.mp read
          cases whole
      · rename_i rest starts
        exact ⟨rest, starts⟩
      · exact absurd whole ((Json.size_readWord read).2.2 members)
  · cases whole

theorem startsWith_trim {text : String} {rest : List Char}
    (opens : Json.skipSpace text.toList = '\x7b' :: rest) :
    EcmaText.startsWith (EcmaText.trim text) "\x7b" = true := by
  have front : text.toList.dropWhile EcmaText.isSpace = '\x7b' :: rest := by
    have whole := List.takeWhile_append_dropWhile (p := Json.isJsonSpace) (l := text.toList)
    rw [show text.toList.dropWhile Json.isJsonSpace = '\x7b' :: rest from opens] at whole
    rw [← whole, List.dropWhile_append_of_pos fun c member =>
      isSpace_of_isJsonSpace (List.mem_takeWhile_imp member)]
    exact List.dropWhile_cons_of_neg (by decide)
  have kept : ∃ more, ('\x7b' :: rest).rdropWhile EcmaText.isSpace = '\x7b' :: more := by
    cases trimmed : ('\x7b' :: rest).rdropWhile EcmaText.isSpace with
    | nil =>
      have all := List.rdropWhile_eq_nil_iff.mp trimmed '\x7b' List.mem_cons_self
      exact absurd all (by decide)
    | cons c more =>
      have start := List.rdropWhile_prefix EcmaText.isSpace (l := '\x7b' :: rest)
      rw [trimmed, List.cons_prefix_cons] at start
      exact ⟨more, by rw [start.1]⟩
  obtain ⟨more, kept⟩ := kept
  unfold EcmaText.startsWith EcmaText.trim EcmaText.trimChars
  simp only [front, kept, String.toList_ofList]
  rfl

theorem text_ne_empty {text : String} {members : List (String × Json)}
    (parsed : Json.parse text = some (.object members)) : text ≠ "" := by
  rintro rfl
  obtain ⟨rest, opens⟩ := object_opens parsed
  cases opens

theorem asString_eq_some {value : Option Json} {s : String} :
    Json.asString value = some s ↔ value = some (.string s) := by
  constructor
  · intro held
    unfold Json.asString at held
    split at held
    · cases held
      rfl
    · cases held
  · rintro rfl
    rfl

/-- The decoder takes exactly the envelopes for envelopes. -/
theorem v1Members_eq_none {text : String} : v1Members text = none ↔ ¬ IsEnvelope text := by
  unfold v1Members IsEnvelope
  constructor
  · rintro none ⟨members, parsed, one⟩
    obtain ⟨rest, opens⟩ := object_opens parsed
    rw [if_pos (startsWith_trim opens), parsed] at none
    simp [one] at none
  · intro plain
    split
    · split
      · rename_i members parsed
        exact if_neg fun one => plain ⟨members, parsed, one⟩
      · rfl
    · rfl

end Detection

section Cases

variable (env : MediaEnv) {text : String} {mediaObjectKey : Option String}

theorem roundTrips_of_key (url : Option String) {key : String}
    (held : keptKey mediaObjectKey = some key) : RoundTrips env text mediaObjectKey url := by
  obtain ⟨nonempty, trimmed⟩ : key ≠ "" ∧ EcmaText.trim (mediaObjectKey.getD "") = key := by
    unfold keptKey at held
    dsimp only at held
    split at held
    · cases held
    · rename_i filled
      cases held
      exact ⟨filled, rfl⟩
  obtain ⟨parsed, read, same⟩ := v1Members_envelope env text key url
  have wire : serializeHybridInnerPlaintextV1 env text mediaObjectKey url =
      (envelopeJson env text key url).stringify := by
    unfold serializeHybridInnerPlaintextV1
    rw [trimmed]
    exact if_neg nonempty
  have again : EcmaText.trim key = key := by
    rw [← trimmed, EcmaText.trim_trim]
  have decoded : parseDecryptedHybridUtf8 env (serializeHybridInnerPlaintextV1 env text
      mediaObjectKey url) = parsedEnvelope env parsed := by
    rw [wire, parseDecryptedHybridUtf8, read]
  have nonBlank : EcmaText.isNonBlank key = true := by
    rw [EcmaText.isNonBlank_iff, again]
    exact nonempty
  rw [RoundTrips, decoded, held]
  rw [envelopeJson, Json.object.injEq] at same
  subst same
  by_cases empty : text = ""
  · subst empty
    simp [parsedEnvelope, Json.member, Json.asString, nonBlank, again]
  · simp [parsedEnvelope, empty, Json.member, Json.asString, nonBlank, again]

theorem serialize_plain (url : Option String) (none : keptKey mediaObjectKey = none) :
    serializeHybridInnerPlaintextV1 env text mediaObjectKey url = text := by
  unfold keptKey at none
  dsimp only at none
  split at none
  · rename_i blank
    exact if_pos blank
  · cases none

/-- The text of an envelope is not the envelope. -/
theorem parsedEnvelope_text_ne {parsed : List (String × Json)} (read : v1Members text = some parsed) :
    (parsedEnvelope env parsed).text ≠ text := by
  have shown : (parsedEnvelope env parsed).text =
      (Json.asString (Json.member parsed "t")).getD "" := by
    unfold parsedEnvelope
    dsimp only
    split <;> rfl
  have object : Json.parse text = some (.object parsed) := by
    unfold v1Members at read
    split at read
    · split at read
      · rename_i members held
        split at read
        · cases read
          exact held
        · cases read
      · cases read
    · cases read
  rw [shown]
  intro same
  cases found : Json.asString (Json.member parsed "t") with
  | some t =>
    have shorter := Json.size_member_lt object (asString_eq_some.mp found)
    rw [found, Option.getD_some] at same
    rw [same] at shorter
    omega
  | none =>
    rw [found, Option.getD_none] at same
    exact text_ne_empty object same.symm

end Cases

/-- Text and key come back exactly when there is a key or the text is no envelope. -/
theorem inner_round_trip_iff (env : MediaEnv) (text : String)
    (mediaObjectKey mediaRetrievableUrl : Option String) :
    RoundTrips env text mediaObjectKey mediaRetrievableUrl ↔
      (keptKey mediaObjectKey ≠ none ∨ ¬ IsEnvelope text) := by
  cases held : keptKey mediaObjectKey with
  | some key => exact ⟨fun _ => .inl (by simp), fun _ => roundTrips_of_key env _ held⟩
  | none =>
    rw [← v1Members_eq_none, RoundTrips, serialize_plain env mediaRetrievableUrl held, held,
      parseDecryptedHybridUtf8]
    cases read : v1Members text with
    | none => simp
    | some parsed => simp [parsedEnvelope_text_ne env read]

section Run

/-- A text that a user may type. -/
def typedEnvelope : String :=
  "\x7b\"v\":1,\"m\":\x7b\"k\":\"users/u-9/a.png\"\x7d\x7d"

theorem typedEnvelope_members : v1Members typedEnvelope =
    some [("v", .number "1"), ("m", .object [("k", .string "users/u-9/a.png")])] := by
  have text : typedEnvelope = (Json.object [("v", .number "1"),
      ("m", .object [("k", .string "users/u-9/a.png")])]).stringify := by decide
  have read : Json.parse typedEnvelope = some (.object [("v", .number "1"),
      ("m", .object [("k", .string "users/u-9/a.png")])]) := by
    rw [text]
    exact Json.parse_stringify (by decide)
  unfold v1Members
  rw [if_pos (by decide), read]
  rfl

/-- A build without the storage variables. -/
def unsetEnv : MediaEnv where
  parseUrl t := if EcmaText.startsWith t "https:" then some ⟨"https:", t, none⟩ else none
  s3PublicBaseUrl := none
  s3Bucket := none

/-- Typed without attachment, it comes back as an attachment without text. -/
theorem typed_envelope_is_reinterpreted :
    (parseDecryptedHybridUtf8 unsetEnv
        (serializeHybridInnerPlaintextV1 unsetEnv typedEnvelope none none)).text = "" ∧
      (parseDecryptedHybridUtf8 unsetEnv
        (serializeHybridInnerPlaintextV1 unsetEnv typedEnvelope none none)).mediaObjectKey =
          some "users/u-9/a.png" ∧
      ¬ RoundTrips unsetEnv typedEnvelope none none := by
  have plain : serializeHybridInnerPlaintextV1 unsetEnv typedEnvelope none none = typedEnvelope := rfl
  have nonBlank : EcmaText.isNonBlank "users/u-9/a.png" = true := by decide
  have trimmed : EcmaText.trim "users/u-9/a.png" = "users/u-9/a.png" := by decide
  have decoded : parseDecryptedHybridUtf8 unsetEnv typedEnvelope = parsedEnvelope unsetEnv [("v", .number "1"),
      ("m", .object [("k", .string "users/u-9/a.png")])] := by
    rw [parseDecryptedHybridUtf8, typedEnvelope_members]
  have fields : (parsedEnvelope unsetEnv [("v", .number "1"),
      ("m", .object [("k", .string "users/u-9/a.png")])]).text = "" ∧
      (parsedEnvelope unsetEnv [("v", .number "1"),
        ("m", .object [("k", .string "users/u-9/a.png")])]).mediaObjectKey =
          some "users/u-9/a.png" := by
    simp [parsedEnvelope, Json.member, Json.asString, nonBlank, trimmed]
  rw [RoundTrips, plain, decoded]
  refine ⟨fields.1, fields.2, fun back => ?_⟩
  rw [fields.1] at back
  exact absurd back.1 (by decide)

end Run

end MessagingSystem.Guarantees.InnerPlaintext
