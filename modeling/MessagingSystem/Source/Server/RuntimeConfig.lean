import MessagingSystem.Foundation.JsonText
import MessagingSystem.Source.Server.Database

/-!
# The settings in force and their copy in Redis

The settings are those of the `system_config` document, and of the environment of the
process where the document has none. They are kept in Redis as JSON for five minutes.
-/
namespace MessagingSystem.Source.Server
open Foundation

/-- The defaults in the environment of a process. -/
structure Env where
  emailVerificationRequired : Bool
  guestSessionsEnabled : Bool
  guestDataTtlEnabled : Bool
  deriving DecidableEq

/-- A `system_config` document, as operators write it. -/
abbrev SystemConfigDocument := List (String × Json)

def runtimeConfigRedisTtlSeconds : Nat := 300

/-- `typeof value === 'boolean'`, with the value. -/
def booleanOf : Option Json → Option Bool
  | some (.bool value) => some value
  | _ => none

def buildEffectiveRuntimeConfigFromDb (doc : Option SystemConfigDocument) (env : Env) : EffectiveRuntimeConfig :=
  let setting (name : String) (default : Bool) := (booleanOf (doc.bind fun d => Json.member d name)).getD default
  { emailVerificationRequired := setting "emailVerificationRequired" env.emailVerificationRequired
    guestSessionsEnabled := setting "guestSessionsEnabled" env.guestSessionsEnabled
    guestDataTtlEnabled := setting "guestDataTtlEnabled" env.guestDataTtlEnabled }

def EffectiveRuntimeConfig.toJson (config : EffectiveRuntimeConfig) : Json :=
  .object [
    ("emailVerificationRequired", .bool config.emailVerificationRequired),
    ("guestSessionsEnabled", .bool config.guestSessionsEnabled),
    ("guestDataTtlEnabled", .bool config.guestDataTtlEnabled)]

/-- A text of another shape, as an older release may have left it, counts as nothing. -/
def parseCachedJson (raw : String) : Option EffectiveRuntimeConfig := do
  let parsed ← Json.asObject (Json.parse raw)
  let emailVerificationRequired ← booleanOf (Json.member parsed "emailVerificationRequired")
  let guestSessionsEnabled ← booleanOf (Json.member parsed "guestSessionsEnabled")
  let guestDataTtlEnabled ← booleanOf (Json.member parsed "guestDataTtlEnabled")
  pure { emailVerificationRequired, guestSessionsEnabled, guestDataTtlEnabled }

/-- What a call of `getEffectiveRuntimeConfig` waits for, or its answer. -/
inductive ConfigCall where
  | get
  /-- `redis` is false for a call that found no Redis client. -/
  | find (redis : Bool)
  | set (effective : EffectiveRuntimeConfig)
  | returns (effective : EffectiveRuntimeConfig)

namespace ConfigCall

def begins (redisConnected : Bool) : ConfigCall :=
  if redisConnected then .get else .find false

/-- The call goes on with the answer to its `GET`; `none` when the key is missing. -/
def afterGet (raw : Option String) : ConfigCall :=
  match (raw.filter fun text => text ≠ "").bind parseCachedJson with
  | some hit => .returns hit
  | none => .find true

def afterFind (redis : Bool) (effective : EffectiveRuntimeConfig) : ConfigCall :=
  if redis then .set effective else .returns effective

end ConfigCall

/-- What is kept in Redis is read back as it was. -/
theorem parseCachedJson_stringify (config : EffectiveRuntimeConfig) :
    parseCachedJson (Json.stringify config.toJson) = some config := by
  have parsed : Json.parse (Json.stringify config.toJson) = some config.toJson :=
    Json.parse_stringify (by simp [EffectiveRuntimeConfig.toJson, Json.wellFormed, Json.membersWellFormed])
  unfold parseCachedJson
  rw [parsed]
  simp [EffectiveRuntimeConfig.toJson, Json.asObject, booleanOf]

/-- A hit is a text in Redis that reads as settings; nothing else is answered from Redis. -/
theorem ConfigCall.afterGet_cases (raw : Option String) :
    (∃ text hit, raw = some text ∧ parseCachedJson text = some hit ∧ afterGet raw = .returns hit) ∨
      afterGet raw = .find true := by
  unfold afterGet
  split
  · rename_i hit read
    obtain ⟨text, kept, parsed⟩ := Option.bind_eq_some_iff.mp read
    exact .inl ⟨text, hit, (Option.filter_eq_some_iff.mp kept).1, parsed, rfl⟩
  · exact .inr rfl

end MessagingSystem.Source.Server
