import Mathlib.Data.List.Infix
import MessagingSystem.Foundation.EcmaText
import MessagingSystem.Foundation.TextCoding

/-!
# Public URLs of media objects

`mediaPublicUrl.ts` as far as the inner plaintext of a message uses it. The
`URL` class of the platform and the build-time environment are parameters.
-/
namespace MessagingSystem.Source.Client
open Foundation

/-- What is read of a parsed URL. -/
structure ParsedUrl where
  protocol : String
  /-- `u.toString()`. -/
  href : String
  /-- `u.searchParams.get('x-id')`. -/
  xId : Option String

/-- `new URL(t)`, a `TypeError` being `none`, and the two `VITE_S3_*` variables. -/
structure MediaEnv where
  parseUrl : String → Option ParsedUrl
  s3PublicBaseUrl : Option String
  s3Bucket : Option String

/-- The characters that `encodeURIComponent` leaves alone. -/
def isUnescaped (c : Char) : Bool :=
  c.isAlphanum || "-_.!~*'()".toList.contains c

/-- The upper-case hexadecimal digits of a byte, after a percent sign. -/
def percentByte (b : UInt8) : List Char :=
  ['%', (Nat.digitChar (b.toNat / 16)).toUpper, (Nat.digitChar (b.toNat % 16)).toUpper]

/-- `encodeURIComponent(s)` of a string without lone surrogates. -/
def encodeURIComponent (s : String) : String :=
  String.ofList (s.toList.flatMap fun c =>
    if isUnescaped c then [c] else (TextCoding.encodeChar c).flatMap percentByte)

/-- `s.replace(/\/$/, '')`. -/
def dropFinalSlash (s : String) : String :=
  if s.toList.getLast? = some '/' then String.ofList s.toList.dropLast else s

/-- `s.includes(part)`. -/
def includes (s part : String) : Bool := decide (part.toList <:+: s.toList)

/-- A pre-signed upload URL, which is not readable. -/
def isPresignedS3PutObjectUrl (env : MediaEnv) (url : String) : Bool :=
  let t := EcmaText.trim url
  if !includes t "PutObject" && !includes t "X-Amz-" then false
  else (env.parseUrl t).any fun u => u.xId = some "PutObject"

def getMediaPublicBasePrefix (env : MediaEnv) : Option String :=
  let base := EcmaText.trim (dropFinalSlash (env.s3PublicBaseUrl.getD ""))
  let bucket := EcmaText.trim (env.s3Bucket.getD "")
  if base = "" ∨ bucket = "" then none else some (base ++ "/" ++ encodeURIComponent bucket)

/-- `key.split('/').map((s) => encodeURIComponent(s)).join('/')`. -/
def encodeObjectPath (key : String) : String :=
  String.intercalate "/" ((key.toList.splitOn '/').map fun part =>
    encodeURIComponent (String.ofList part))

def getMediaPublicObjectUrl (env : MediaEnv) (mediaKey : String) : Option String :=
  let key := EcmaText.trim mediaKey
  if key = "" then none
  else (getMediaPublicBasePrefix env).map fun basePrefix => basePrefix ++ "/" ++ encodeObjectPath key

def buildMediaUrlFromPublicBasePrefixAndKey (basePrefix mediaKey : String) : Option String :=
  let p := EcmaText.trim (dropFinalSlash basePrefix)
  let key := EcmaText.trim mediaKey
  if p = "" ∨ key = "" then none else some (p ++ "/" ++ encodeObjectPath key)

example : encodeObjectPath "users/u1/a b.png" = "users/u1/a%20b.png" := by decide

end MessagingSystem.Source.Client
