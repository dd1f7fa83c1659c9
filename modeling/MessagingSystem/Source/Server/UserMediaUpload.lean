import MessagingSystem.Foundation.UrlPath
import MessagingSystem.Source.Client.MediaPublicUrl

/-!
# Keys of uploaded media

`userMediaUpload.ts`, and what `patchMeJsonBody` makes of a media key. The UUID of
a new key is an argument. `encodeURIComponent` and the encoding of a key's segments
are the same text in both applications.
-/
namespace MessagingSystem.Source.Server
open Foundation Source.Client

/-- `S3_PUBLIC_BASE_URL`: a URL with a scheme and an authority, and without query and fragment. -/
structure PublicBaseUrl where
  val : String
  plain : ∀ c ∈ val.toList, c ≠ '?' ∧ c ≠ '#'
  hierarchical : 3 ≤ ((dropFinalSlash val).toList.splitOn '/').length

structure StorageEnv where
  S3_KEY_PREFIX : Option String := none
  S3_PUBLIC_BASE_URL : Option PublicBaseUrl := none
  S3_BUCKET : Option String := none

/-- `s.replace(/^\/+/, '')`. -/
def dropLeadingSlashes (s : String) : String := String.ofList (s.toList.dropWhile fun c => c = '/')

/-- `s.replace(/^\/+|\/+$/g, '')`. -/
def dropOuterSlashes (s : String) : String :=
  String.ofList ((s.toList.dropWhile fun c => c = '/').rdropWhile fun c => c = '/')

/-- The characters that a file name keeps. -/
def isFilenameChar (c : Char) : Bool :=
  ('a' ≤ c && c ≤ 'z') || ('A' ≤ c && c ≤ 'Z') || ('0' ≤ c && c ≤ '9') || c = '.' || c = '_' || c = '-'

/-- Each code unit of another character is replaced. -/
def safeFilename (name : String) : String :=
  let base := String.ofList ((name.toList.flatMap fun c =>
    if isFilenameChar c then [c] else List.replicate (EcmaText.charUnits c) '_').take 128)
  if base = "" then "file" else base

/-- The part of a key before `users/`, which is empty without `S3_KEY_PREFIX`. -/
def keyPrefix (env : StorageEnv) : String :=
  match env.S3_KEY_PREFIX with
  | none => ""
  | some keyPrefix => EcmaText.trim (dropOuterSlashes keyPrefix)

/-- `prefix ? `${prefix}/${middle}` : middle`. -/
def withKeyPrefix (env : StorageEnv) (middle : String) : String :=
  if keyPrefix env = "" then middle else keyPrefix env ++ "/" ++ middle

def userMediaKeyPrefixForUser (env : StorageEnv) (userId : String) : String :=
  withKeyPrefix env ("users/" ++ userId ++ "/")

def isUserMediaObjectKeyOwnedByUser (env : StorageEnv) (userId rawKey : String) : Bool :=
  let key := EcmaText.trim (dropLeadingSlashes rawKey)
  if key = "" then false else EcmaText.startsWith key (userMediaKeyPrefixForUser env userId)

def buildUserMediaObjectKey (env : StorageEnv) (userId filename uuid : String) : String :=
  withKeyPrefix env ("users/" ++ userId ++ "/" ++ uuid ++ "-" ++ safeFilename filename)

def publicObjectUrl (env : StorageEnv) (key : String) : Option String :=
  match env.S3_PUBLIC_BASE_URL, env.S3_BUCKET with
  | some baseUrl, some bucket =>
      if bucket = "" then none
      else some (dropFinalSlash baseUrl.val ++ "/" ++ encodeURIComponent bucket ++ "/" ++ encodeObjectPath key)
  | _, _ => none

/-- The profile picture that `patchMeJsonBody` stores for a media key, or a refusal. -/
def profilePictureOfMediaKey (env : StorageEnv) (userId mediaKey : String) : Option String :=
  if isUserMediaObjectKeyOwnedByUser env userId mediaKey then some ((publicObjectUrl env mediaKey).getD mediaKey)
  else none

example : safeFilename "Mein Bild.png" = "Mein_Bild.png" := by decide

end MessagingSystem.Source.Server
