import MessagingSystem.Foundation.Codec
import MessagingSystem.Source.Server.Tokens

/-!
# Token purposes

Access tokens, email verification tokens and password reset tokens are signed
with one secret. Each mail verifier accepts tokens of its own purpose only. The
access verifier compares neither purpose nor issuer and takes its key from the
secret as configured, while the signers trim it: with a trimmed secret it accepts
mail tokens, and with any other it refuses the access tokens themselves.
-/
namespace MessagingSystem.Guarantees.TokenPurposes
open Foundation Source.Server

section Separation

variable (jose : Jose) (env : TokenEnv) (userId email : String)

/-- No mail token is accepted as an access token. -/
def MailNotAccess : Prop :=
  ∀ kind issuedAt token, signMailToken jose env kind userId email issuedAt = .ok token →
    ∀ now, verifyAccessTokenJwt jose env token now = none

/-- No access token is accepted by a mail verifier. -/
def AccessNotMail : Prop :=
  ∀ emailVerified options issuedAt token expiresIn,
    signAccessToken jose env userId emailVerified options issuedAt = .ok (token, expiresIn) →
    ∀ kind now claims, verifyMailToken jose env kind token now ≠ .ok claims

/-- No mail verifier accepts the other kind of mail token. -/
def MailNotOtherMail : Prop :=
  ∀ kind issuedAt token, signMailToken jose env kind userId email issuedAt = .ok token →
    ∀ other, other ≠ kind → ∀ now claims, verifyMailToken jose env other token now ≠ .ok claims

/-- Every verifier accepts the unexpired tokens of its own signer, with their subject. -/
structure OwnAccepted : Prop where
  access : ∀ emailVerified options issuedAt token expiresIn,
    signAccessToken jose env userId emailVerified options issuedAt = .ok (token, expiresIn) →
    ∀ now, now < issuedAt + expiresIn →
      ∃ verified, verifyAccessTokenJwt jose env token now = some verified ∧ verified.sub = userId
  mail : ∀ kind issuedAt token, signMailToken jose env kind userId email issuedAt = .ok token →
    ∀ now, now < issuedAt + 3600 * kind.ttlHours env →
      ∃ claims, verifyMailToken jose env kind token now = .ok claims ∧ claims.userId = userId

structure PurposesSeparated : Prop where
  mailNotAccess : MailNotAccess jose env userId email
  accessNotMail : AccessNotMail jose env userId
  mailNotOtherMail : MailNotOtherMail jose env userId email
  ownAccepted : OwnAccepted jose env userId email

end Separation

section Verifiers

variable {jose : Jose} {env : TokenEnv} {secret : String}

theorem MailToken.ttl_positive (env : TokenEnv) (kind : MailToken) : 0 < 3600 * kind.ttlHours env := by
  cases kind with
  | emailVerification => exact Nat.mul_pos (by decide) env.verificationPositive
  | passwordReset => exact Nat.mul_pos (by decide) env.resetPositive

theorem purpose_injective {kind other : MailToken} (same : kind.purpose = other.purpose) :
    kind = other := by
  cases kind <;> cases other <;> first | rfl | exact absurd same (by decide)

theorem access_not_mail (ideal : jose.Ideal) (configured : env.JWT_SECRET = some secret)
    (nonblank : EcmaText.trim secret ≠ "") (userId : String) : AccessNotMail jose env userId := by
  intro emailVerified options issuedAt token expiresIn signed kind now claims
  rw [signAccessToken_eq configured nonblank] at signed
  cases signed
  rw [verifyMailToken_signed ideal configured nonblank kind _ rfl rfl rfl, if_neg]
  · intro accepted
    cases accepted
  · rintro ⟨-, purpose, -⟩
    cases purpose

theorem mail_not_other_mail (ideal : jose.Ideal) (configured : env.JWT_SECRET = some secret)
    (nonblank : EcmaText.trim secret ≠ "") (userId email : String) :
    MailNotOtherMail jose env userId email := by
  intro kind issuedAt token signed other different now claims
  rw [signMailToken_eq configured nonblank] at signed
  cases signed
  rw [verifyMailToken_signed ideal configured nonblank other _ rfl rfl rfl, if_neg]
  · intro accepted
    cases accepted
  · rintro ⟨-, purpose, -⟩
    exact different (purpose_injective (Option.some.inj purpose)).symm

/-- No mail token passes for an access token exactly when none of the user's
access tokens is accepted either. -/
theorem mail_not_access_iff (ideal : jose.Ideal) (configured : env.JWT_SECRET = some secret)
    (nonblank : EcmaText.trim secret ≠ "") (userId email : String) :
    MailNotAccess jose env userId email ↔
      ¬ (EcmaText.Trimmed secret ∧ EcmaText.trim userId ≠ "") := by
  constructor
  · intro refused usable
    have signed : signMailToken jose env .passwordReset userId email 0 = _ :=
      signMailToken_eq configured nonblank .passwordReset userId email 0
    have refusal := refused .passwordReset 0 _ signed 0
    rw [verifyAccessTokenJwt_signed ideal configured nonblank _ rfl rfl, if_pos] at refusal
    · cases refusal
    · exact ⟨usable.1, usable.2, by simpa using MailToken.ttl_positive env .passwordReset⟩
  · intro unusable kind issuedAt token signed now
    rw [signMailToken_eq configured nonblank] at signed
    cases signed
    rw [verifyAccessTokenJwt_signed ideal configured nonblank _ rfl rfl, if_neg]
    exact fun accepted => unusable ⟨accepted.1, accepted.2.1⟩

theorem own_access_usable (ideal : jose.Ideal) (configured : env.JWT_SECRET = some secret)
    (nonblank : EcmaText.trim secret ≠ "") {userId email : String}
    (own : OwnAccepted jose env userId email) :
    EcmaText.Trimmed secret ∧ EcmaText.trim userId ≠ "" := by
  have signed : signAccessToken jose env userId true {} 0 = _ :=
    signAccessToken_eq configured nonblank userId true {} 0
  obtain ⟨verified, accepted, -⟩ :=
    own.access true {} 0 _ _ signed 0 (by simpa using env.accessPositive)
  rw [verifyAccessTokenJwt_signed ideal configured nonblank _ rfl rfl] at accepted
  split at accepted
  · rename_i usable
    exact ⟨usable.1, usable.2.1⟩
  · cases accepted

end Verifiers

/-- The purposes are separated for no secret, user and email; the mail verifiers
alone keep them apart. -/
theorem purposes_never_separated (jose : Jose) (ideal : jose.Ideal) (env : TokenEnv) (secret : String)
    (configured : env.JWT_SECRET = some secret) (nonblank : EcmaText.trim secret ≠ "")
    (userId email : String) :
    ¬ PurposesSeparated jose env userId email ∧ AccessNotMail jose env userId ∧
      MailNotOtherMail jose env userId email := by
  refine ⟨fun separated => ?_, access_not_mail ideal configured nonblank userId,
    mail_not_other_mail ideal configured nonblank userId email⟩
  have usable := own_access_usable ideal configured nonblank separated.ownAccepted
  exact (mail_not_access_iff ideal configured nonblank userId email).mp separated.mailNotAccess usable

section Runs

/-- Bytes as the characters of the same numbers. -/
def bytesCodec : Codec ByteArray :=
  Codec.text.image (fun s => ⟨(s.toList.map fun c => UInt8.ofNat c.toNat).toArray⟩)
    (fun bytes => String.ofList (bytes.data.toList.map fun b => Char.ofNat b.toNat)) fun bytes => by
      have same (b : UInt8) : UInt8.ofNat (Char.ofNat b.toNat).toNat = b := by
        have valid : b.toNat.isValidChar := .inl (Nat.lt_trans b.toNat_lt (by decide))
        have number : (Char.ofNat b.toNat).toNat = b.toNat := by
          unfold Char.ofNat
          rw [dif_pos valid]
          rfl
        rw [number, UInt8.ofNat_toNat]
      simp [Function.comp_def, same]

def flagCodec : Codec Bool :=
  Codec.number.image (fun n => n = 1) (fun b => if b then 1 else 0) fun b => by cases b <;> rfl

def payloadCodec : Codec JWTPayload :=
  ((Codec.text.optional.pair (Codec.text.optional.pair (Codec.number.optional.pair
      (Codec.number.optional.pair Codec.text.optional)))).pair
    (Codec.text.optional.pair (flagCodec.optional.pair
      (flagCodec.optional.pair Codec.text.optional)))).image
    (fun p => ⟨p.1.1, p.1.2.1, p.1.2.2.1, p.1.2.2.2.1, p.1.2.2.2.2, p.2.1, p.2.2.1, p.2.2.2.1,
      p.2.2.2.2⟩)
    (fun p => ((p.sub, p.iss, p.iat, p.exp, p.purpose),
      (p.email, p.email_verified, p.guest, p.sourceDeviceId)))
    fun _ => rfl

def signedCodec : Codec (String × ByteArray × JWTPayload) :=
  Codec.text.pair (bytesCodec.pair payloadCodec)

/-- A `jose` whose signatures are the keys. -/
def plainJose : Jose where
  sign alg key payload := String.ofList ('e' :: (signedCodec.write (alg, key, payload) ++ ['y']))
  jwtVerify token key options now :=
    (signedCodec.read (token.toList.drop 1)).bind fun signed =>
      let payload := signed.1.2.2
      if key.data = signed.1.2.1.data ∧ signed.1.1 ∈ options.algorithms ∧
          options.issuer.all (fun issuer => payload.iss = some issuer) ∧
          payload.exp.all (fun exp => now < exp) then
        some payload
      else none

theorem plainJose_ideal : plainJose.Ideal where
  verify alg key payload key' options now := by
    simp only [plainJose, String.toList_ofList, List.drop_one, List.tail_cons,
      signedCodec.read_write, Option.bind_some, Option.all_eq_true, decide_eq_true_eq]
  trimmed alg key payload := EcmaText.trimmed_of_ends 'e' 'y' _ rfl rfl
  nonempty alg key payload := by
    intro empty
    exact absurd (congrArg String.toList empty) (by simp [plainJose])

def env : TokenEnv where
  JWT_SECRET := some "test-secret"
  ACCESS_TOKEN_TTL_SECONDS := 3600
  GUEST_ACCESS_TOKEN_TTL_SECONDS := 1800
  EMAIL_VERIFICATION_TOKEN_TTL_HOURS := 48
  PASSWORD_RESET_TOKEN_TTL_HOURS := 1
  accessPositive := by decide
  guestPositive := by decide
  verificationPositive := by decide
  resetPositive := by decide

theorem alice_purposes_mixed :
    ¬ PurposesSeparated plainJose env "alice" "alice@example.org" ∧
      AccessNotMail plainJose env "alice" ∧
      MailNotOtherMail plainJose env "alice" "alice@example.org" :=
  purposes_never_separated plainJose plainJose_ideal env "test-secret" rfl (by decide) "alice"
    "alice@example.org"

/-- The token of a password reset mail is accepted as an access token. -/
theorem reset_token_grants_access :
    ¬ ∀ (jose : Jose) (env : TokenEnv) (secret userId email : String), jose.Ideal →
      env.JWT_SECRET = some secret → EcmaText.trim secret ≠ "" →
      PurposesSeparated jose env userId email := by
  intro claim
  have nonblank : EcmaText.trim "test-secret" ≠ "" := by decide
  have separated := claim plainJose env "test-secret" "alice" "alice@example.org" plainJose_ideal
    rfl nonblank
  refine (mail_not_access_iff plainJose_ideal rfl nonblank "alice" "alice@example.org").mp
    separated.mailNotAccess ⟨?_, ?_⟩
  · decide
  · decide

end Runs

end MessagingSystem.Guarantees.TokenPurposes
