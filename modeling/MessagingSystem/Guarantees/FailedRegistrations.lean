import MessagingSystem.Protocol.Sessions
import MessagingSystem.Source.Server.Registration

/-!
# Failed registrations

`POST /auth/register` and `POST /auth/guest` insert the user before they sign
tokens, look for the device the body names and store the refresh token. A
request that ends in an error has left `users` as they were unless it fails
after the insert.
-/
namespace MessagingSystem.Guarantees.FailedRegistrations
open Foundation Source.Server Source.Server.Registration Program

/-- The awaited calls of a request, each of which is made once. -/
inductive RequestStep where
  | countAttempt (key : String)
  | expireCount (key : String)
  | runtimeConfig
  | hashPassword
  | insertUser
  | signVerificationToken
  | findDevice
  | signAccessToken
  | createRefreshToken
  | other
  deriving DecidableEq

def authStep : {β : Type} → AuthCommand β → RequestStep
  | _, .increment key => .countAttempt key
  | _, .expire key _ => .expireCount key
  | _, .getEffectiveRuntimeConfig => .runtimeConfig
  | _, .findUserDeviceRow _ _ => .findDevice
  | _, .createRefreshToken _ _ => .createRefreshToken
  | _, _ => .other

def userStep : {β : Type} → UserCommand β → RequestStep
  | _, .hashPassword _ => .hashPassword
  | _, .insertUser _ => .insertUser
  | _, .signEmailVerificationToken _ _ _ => .signVerificationToken
  | _, .signAccessToken _ _ _ _ => .signAccessToken

def step {β : Type} : RegistrationCommand β → RequestStep
  | .auth c => authStep c
  | .user c => userStep c

/-- Which steps of a request fail, and whether the store has executed them. -/
abbrev StepFaults := RequestStep → Option (Fault AppError)

/-- A request that ends in an error leaves the users as they were. -/
def FailsCleanly {α : Type} (svc : AuthService) (faults : StepFaults) (p : RegistrationProgram α)
    (s : RegistrationStore) : Prop :=
  (∃ e, (p.runThrowing (RegistrationCommand.exec svc) (fun c => faults (step c)) s).1 = .error e) →
    (p.runThrowing (RegistrationCommand.exec svc) (fun c => faults (step c)) s).2.users = s.users

/-- The attempts counted under a key so far. -/
def attempts (key : String) (s : RegistrationStore) : Nat := (s.stores.counters.get key).getD 0

/-- One more attempt is counted without a failure, and within the limit. -/
structure Counted (faults : StepFaults) (key : String) (max : Nat) (s : RegistrationStore) : Prop where
  counts : faults (.countAttempt key) = none
  expires : attempts key s = 0 → faults (.expireCount key) = none
  within : attempts key s + 1 ≤ max

/-- The device that a body names, if any, is looked up and found registered for the user id. -/
def DeviceFound (faults : StepFaults) (userId : String) (raw : Nullable String) (s : RegistrationStore) : Prop :=
  ∀ d, raw = .value d → EcmaText.trim d ≠ "" → faults .findDevice = none ∧
    (s.stores.userDevicePublicKeys.find?
      (Database.isDevice (EcmaText.trim userId) (EcmaText.trim d))).isSome = true

/-- No step from the lookup of the device on fails. -/
def TokensIssued (faults : StepFaults) (userId : String) (raw : Nullable String) (s : RegistrationStore) :
    Prop :=
  DeviceFound faults userId raw s ∧ faults .signAccessToken = none ∧ faults .createRefreshToken = none

variable {svc : AuthService} {env : RegistrationEnv} {faults : StepFaults} {s : RegistrationStore}

/-- A registration gets as far as an insert that meets no duplicate key. -/
structure RegisterInserts (svc : AuthService) (env : RegistrationEnv) (faults : StepFaults)
    (body : RegisterRequest) (ip : String) (draws : RegistrationDraws) (s : RegistrationStore) : Prop where
  secret : svc.env.trimmedSecret.isSome = true
  counted : Counted faults ("ratelimit:register:ip:" ++ ip) env.REGISTER_RATE_LIMIT_MAX s
  config : faults .runtimeConfig = none
  hash : faults .hashPassword = none
  fresh : duplicateKey s.users (newUser svc body (!s.stores.runtimeConfig.emailVerificationRequired)
    (svc.hashPassword body.password) draws) = none

/-- From the insert on no step of a registration fails. -/
structure RegisterCompletes (svc : AuthService) (faults : StepFaults) (body : RegisterRequest)
    (draws : RegistrationDraws) (s : RegistrationStore) : Prop where
  insert : faults .insertUser = none
  verification : s.stores.runtimeConfig.emailVerificationRequired = true →
    normalizeEmail svc body.email ≠ "" ∧ faults .signVerificationToken = none
  tokens : s.stores.runtimeConfig.emailVerificationRequired = false →
    TokensIssued faults draws.id body.sourceDeviceId s

/-- A guest request gets as far as an insert that meets no duplicate key. -/
structure GuestInserts (svc : AuthService) (env : RegistrationEnv) (faults : StepFaults)
    (body : GuestRequest) (ip : String) (fingerprintRaw : Option String) (draws : RegistrationDraws)
    (s : RegistrationStore) : Prop where
  secret : svc.env.trimmedSecret.isSome = true
  counted : Counted faults ("ratelimit:auth-guest:ip:" ++ ip) env.GUEST_AUTH_RATE_LIMIT_MAX_PER_IP s
  countedFingerprint : ∀ raw, fingerprintRaw = some raw →
    Counted faults ("ratelimit:auth-guest:fp:" ++ env.fingerprintRedisKeySegment raw)
      env.GUEST_AUTH_RATE_LIMIT_MAX_PER_FINGERPRINT s
  config : faults .runtimeConfig = none
  hash : faults .hashPassword = none
  fresh : duplicateKey s.users (newGuest svc body
    (computeGuestDataExpiresAt env s.stores.runtimeConfig draws.now)
    (svc.hashPassword draws.guestPassword) draws) = none

/-- From the insert on no step of a guest request fails. -/
structure GuestCompletes (faults : StepFaults) (body : GuestRequest) (draws : RegistrationDraws)
    (s : RegistrationStore) : Prop where
  insert : faults .insertUser = none
  tokens : TokensIssued faults draws.id body.sourceDeviceId s

/-- The insert fails and is not executed. -/
def InsertRejected (faults : StepFaults) : Prop := ∃ e, faults .insertUser = some (.before e)

section Steps

variable {α : Type}

/-- The failures of a request as those of its commands. -/
abbrev throws (faults : StepFaults) {β : Type} (c : RegistrationCommand β) : Option (Fault AppError) :=
  faults (step c)

theorem failsCleanly_iff {p : RegistrationProgram α} : FailsCleanly svc faults p s ↔
    KeepsOnError (RegistrationCommand.exec svc) (throws faults) RegistrationStore.users s.users p s := Iff.rfl

/-- The commands that leave the users alone. -/
def Silent (svc : AuthService) {β : Type} (c : RegistrationCommand β) : Prop :=
  ∀ s : RegistrationStore, (c.exec svc s).2.users = s.users

theorem silent_auth {β : Type} (c : AuthCommand β) : Silent svc (.auth c) := fun _ => rfl

theorem forall_shared (p : AuthProgram α) : Forall (Silent svc) (shared p) := by
  induction p with
  | done result =>
    cases result with
    | ok a => exact forall_pure a
    | error e => exact forall_fail e
  | command c next ih => exact forall_command.mpr ⟨silent_auth c, ih⟩

theorem forall_bindAndIssue (doc : Registration.UserDocument) (guest : Bool) (raw : Nullable String) (now : Nat) :
    Forall (Silent svc) (bindAndIssue svc doc guest raw now) := by
  unfold bindAndIssue Registration.issueAuthTokens
  refine (forall_shared _).bind fun device => ?_
  refine Forall.bind (forall_perform.mpr fun s => rfl) fun signed => ?_
  refine Forall.bind ?_ fun access => (forall_shared _).bind fun token => forall_pure _
  cases signed with
  | ok access => exact forall_pure access
  | error e => exact forall_fail e

theorem forall_signVerification (doc : Registration.UserDocument) (now : Nat) :
    Forall (Silent svc) (signVerification doc now) := by
  unfold signVerification
  refine Forall.bind (forall_orFail _ _) fun email => ?_
  refine Forall.bind (forall_perform.mpr fun s => rfl) fun signed => ?_
  cases signed with
  | ok token => exact forall_pure ()
  | error e => exact forall_fail e

/-- A shared part up to its continuation. -/
theorem shared_command {β γ : Type} (c : AuthCommand β) (next : β → AuthProgram γ)
    (f : γ → RegistrationProgram α) : (shared (.command c next) >>= f : RegistrationProgram α) =
      .command (.auth c) fun reply => shared (next reply) >>= f := rfl

theorem shared_done {γ : Type} (a : γ) (f : γ → RegistrationProgram α) :
    (shared (.done (.ok a)) >>= f : RegistrationProgram α) = f a := rfl

/-- The store when an attempt has been counted. -/
def countedStore (key : String) (s : RegistrationStore) : RegistrationStore :=
  { s with stores := { s.stores with counters := s.stores.counters.set key (attempts key s + 1) } }

theorem clean_counted {seen : List Registration.UserDocument} (same : s.users = seen) (key : String) (window max : Nat)
    (f : Bool → RegistrationProgram α) :
    KeepsOnError (RegistrationCommand.exec svc) (throws faults) RegistrationStore.users seen
        (shared (rateLimitExceeded key window max) >>= f) s ↔
      (faults (.countAttempt key) = none → (attempts key s = 0 → faults (.expireCount key) = none) →
        KeepsOnError (RegistrationCommand.exec svc) (throws faults) RegistrationStore.users seen
          (f (decide (max < attempts key s + 1))) (countedStore key s)) := by
  unfold rateLimitExceeded
  rw [perform_bind, shared_command, keepsOnError_silent same rfl]
  refine imp_congr_right fun counted => ?_
  have count : (RegistrationCommand.exec svc (.auth (.increment key)) s) =
      (attempts key s + 1, countedStore key s) := rfl
  rw [count]
  by_cases first : attempts key s = 0
  · simp only [first, Nat.zero_add, if_true, perform_bind, true_implies]
    rw [shared_command, keepsOnError_silent (s := countedStore key s) same rfl]
    rfl
  · have more : attempts key s + 1 ≠ 1 := by omega
    simp only [more, if_false, first, false_implies, true_implies]
    rfl

/-- Up to the check of the limit; a request that is refused has inserted nothing. -/
theorem clean_limited {seen : List Registration.UserDocument} (same : s.users = seen) (key : String)
    (window max : Nat) (e : AppError) (f : RegistrationProgram α) :
    KeepsOnError (RegistrationCommand.exec svc) (throws faults) RegistrationStore.users seen
        (shared (rateLimitExceeded key window max) >>= fun limited => .require (!limited) e >>= fun _ => f) s ↔
      (Counted faults key max s →
        KeepsOnError (RegistrationCommand.exec svc) (throws faults) RegistrationStore.users seen f
          (countedStore key s)) := by
  rw [clean_counted same]
  by_cases within : attempts key s + 1 ≤ max
  · have admitted : decide (max < attempts key s + 1) = false := decide_eq_false (by omega)
    rw [admitted]
    exact ⟨fun kept counted => kept counted.counts counted.expires,
      fun kept counts expires => kept ⟨counts, expires, within⟩⟩
  · have refused : decide (max < attempts key s + 1) = true := decide_eq_true (by omega)
    rw [refused]
    have kept : KeepsOnError (RegistrationCommand.exec svc) (throws faults) RegistrationStore.users seen
        (.fail e : RegistrationProgram α) (countedStore key s) := fun _ => same
    exact iff_of_true (fun _ _ => kept) fun counted => absurd counted.within within

/-- The store with a new user. -/
def inserted (doc : Registration.UserDocument) (s : RegistrationStore) : RegistrationStore :=
  { s with users := s.users ++ [doc] }

/-- From the insert on a request must not fail. -/
theorem keeps_insert {seen : List Registration.UserDocument} (same : s.users = seen)
    (doc : Registration.UserDocument) {f : Registration.UserDocument → RegistrationProgram α}
    (silent : ∀ d, Forall (Silent svc) (f d)) :
    KeepsOnError (RegistrationCommand.exec svc) (throws faults) RegistrationStore.users seen
        (insertUser doc >>= f) s ↔
      (duplicateKey s.users doc = none → InsertRejected faults ∨
        (faults .insertUser = none ∧
          Succeeds (RegistrationCommand.exec svc) (throws faults) (f doc) (inserted doc s))) := by
  unfold insertUser user
  rw [perform_bind, command_bind]
  cases fresh : duplicateKey s.users doc with
  | none =>
    have stored : (RegistrationCommand.exec svc (.user (.insertUser doc)) s) = (none, inserted doc s) := by
      simp only [RegistrationCommand.exec, UserCommand.exec, fresh, inserted]
    rw [keepsOnError_commit same (P := Silent svc), stored]
    · simp only [true_implies, InsertRejected]
      rfl
    · rw [stored, ← same]
      exact fun unchanged => List.cons_ne_nil doc [] (List.append_right_eq_self.mp unchanged)
    · exact fun c s kept => kept s
    · rw [stored]
      exact silent doc
  | some index =>
    have refused : (RegistrationCommand.exec svc (.user (.insertUser doc)) s) = (some index, s) := by
      simp only [RegistrationCommand.exec, UserCommand.exec, fresh]
    rw [keepsOnError_silent same (by rw [refused]), refused]
    refine iff_of_true (fun _ => ?_) fun none => by cases none
    cases index with
    | email => exact keepsOnError_done same _
    | id => exact keepsOnError_done same _
    | username => exact keepsOnError_done same _

/-- From the settings on up to the insert. -/
theorem clean_creates {t : RegistrationStore} {seen : List Registration.UserDocument} (same : t.users = seen)
    (plain : String) (doc : EffectiveRuntimeConfig → String → Registration.UserDocument)
    {tail : EffectiveRuntimeConfig → Registration.UserDocument → RegistrationProgram α}
    (silent : ∀ cfg d, Forall (Silent svc) (tail cfg d)) :
    KeepsOnError (RegistrationCommand.exec svc) (throws faults) RegistrationStore.users seen
        (shared (.perform .getEffectiveRuntimeConfig) >>= fun cfg =>
          (user (.hashPassword plain) >>= fun passwordHash => insertUser (doc cfg passwordHash)) >>= tail cfg) t ↔
      (faults .runtimeConfig = none → faults .hashPassword = none →
        duplicateKey seen (doc t.stores.runtimeConfig (svc.hashPassword plain)) = none →
        InsertRejected faults ∨ (faults .insertUser = none ∧
          Succeeds (RegistrationCommand.exec svc) (throws faults)
            (tail t.stores.runtimeConfig (doc t.stores.runtimeConfig (svc.hashPassword plain)))
            (inserted (doc t.stores.runtimeConfig (svc.hashPassword plain)) t))) := by
  have read : (RegistrationCommand.exec svc (.auth .getEffectiveRuntimeConfig) t) =
      (t.stores.runtimeConfig, t) := rfl
  have hashed : (RegistrationCommand.exec svc (.user (.hashPassword plain)) t) =
      (svc.hashPassword plain, t) := rfl
  unfold Program.perform user
  rw [shared_command, keepsOnError_silent same rfl, read, shared_done, perform_bind, command_bind,
    keepsOnError_silent same rfl, hashed, keeps_insert same _ (silent t.stores.runtimeConfig), same]
  exact Iff.rfl

theorem secretKey_ok (configured : svc.env.trimmedSecret.isSome = true) (notConfigured : String) :
    ∃ key, secretKey svc.env notConfigured = .ok key := by
  obtain ⟨secret, found⟩ := Option.isSome_iff_exists.mp configured
  exact ⟨encodeText secret, by simp only [secretKey, found]⟩

theorem succeeds_signVerification (configured : svc.env.trimmedSecret.isSome = true)
    (doc : Registration.UserDocument) (now : Nat) (f : RegistrationProgram α) :
    Succeeds (RegistrationCommand.exec svc) (throws faults) (signVerification doc now >>= fun _ => f) s ↔
      (∃ email, doc.email = some email ∧ email ≠ "") ∧ faults .signVerificationToken = none ∧
        Succeeds (RegistrationCommand.exec svc) (throws faults) f s := by
  unfold signVerification
  by_cases named : ∃ email, doc.email = some email ∧ email ≠ ""
  · obtain ⟨email, found, nonempty⟩ := named
    obtain ⟨key, signs⟩ := secretKey_ok configured MailToken.emailVerification.notConfigured
    have signed : (RegistrationCommand.exec svc (.user (.signEmailVerificationToken doc.id email now)) s) =
        (.ok (svc.jose.sign "HS256" key
          { purpose := some MailToken.emailVerification.purpose
            email := some email
            sub := some doc.id
            iss := some ISSUER
            iat := some now
            exp := some (now + 3600 * MailToken.emailVerification.ttlHours svc.env) }), s) := by
      simp only [RegistrationCommand.exec, UserCommand.exec, signEmailVerificationToken, signMailToken,
        signs]
      rfl
    have filtered : (some email).filter (fun email => decide (email ≠ "")) = some email := by
      simp [nonempty]
    rw [found, filtered, orFail_some, pure_bind]
    simp only [user, perform_bind, command_bind]
    rw [succeeds_command, signed]
    exact (and_iff_right ⟨email, rfl, nonempty⟩).symm
  · have missing : doc.email.filter (fun email => decide (email ≠ "")) = none := by
      cases found : doc.email with
      | none => rfl
      | some email =>
        have empty : email = "" := by
          by_contra nonempty
          exact named ⟨email, found, nonempty⟩
        simp [empty]
    rw [missing]
    refine iff_of_false (fun succeeded => ?_) fun parts => named parts.1
    obtain ⟨a, result⟩ := succeeded
    cases result

/-- The device is resolved when the body names none, or when it is found. -/
theorem succeeds_resolve (userId : String) (raw : Nullable String)
    {f : Option String → RegistrationProgram α} {rest : Prop}
    (following : ∀ device, Succeeds (RegistrationCommand.exec svc) (throws faults) (f device) s ↔ rest) :
    Succeeds (RegistrationCommand.exec svc) (throws faults)
        (shared (resolveSourceDeviceIdForAccessToken userId raw) >>= f) s ↔
      DeviceFound faults userId raw s ∧ rest := by
  cases raw with
  | undefined =>
    rw [show shared (resolveSourceDeviceIdForAccessToken userId .undefined) >>= f = f none from rfl, following]
    exact (and_iff_right fun d named => by cases named).symm
  | null =>
    rw [show shared (resolveSourceDeviceIdForAccessToken userId .null) >>= f = f none from rfl, following]
    exact (and_iff_right fun d named => by cases named).symm
  | value d =>
    simp only [resolveSourceDeviceIdForAccessToken]
    by_cases blank : EcmaText.trim d = ""
    · rw [if_pos blank]
      rw [show shared (pure none) >>= f = f none from rfl, following]
      refine (and_iff_right ?_).symm
      intro d' named nonblank
      cases named
      exact absurd blank nonblank
    · rw [if_neg blank, perform_bind, shared_command, succeeds_command]
      have read : (RegistrationCommand.exec svc
          (.auth (.findUserDeviceRow (EcmaText.trim userId) (EcmaText.trim d))) s) =
          (s.stores.userDevicePublicKeys.find?
            (Database.isDevice (EcmaText.trim userId) (EcmaText.trim d)), s) := rfl
      rw [read]
      cases found : s.stores.userDevicePublicKeys.find?
          (Database.isDevice (EcmaText.trim userId) (EcmaText.trim d)) with
      | some row =>
        rw [show shared (Program.require (some row).isSome _ >>= fun _ => pure (some (EcmaText.trim d))) >>= f =
          f (some (EcmaText.trim d)) from rfl, following]
        refine and_congr_left fun _ => ⟨fun works d' named _ => ?_, fun device => (device d rfl blank).1⟩
        cases named
        exact ⟨works, by rw [found]; rfl⟩
      | none =>
        refine iff_of_false (fun both => ?_) fun both => ?_
        · obtain ⟨a, result⟩ := both.2
          cases result
        · have present := (both.1 d rfl blank).2
          rw [found] at present
          cases present

theorem succeeds_bindAndIssue (configured : svc.env.trimmedSecret.isSome = true)
    (doc : Registration.UserDocument) (guest : Bool) (raw : Nullable String) (now : Nat) :
    Succeeds (RegistrationCommand.exec svc) (throws faults) (bindAndIssue svc doc guest raw now) s ↔
      TokensIssued faults doc.id raw s := by
  refine succeeds_resolve doc.id raw fun device => ?_
  obtain ⟨key, signs⟩ := secretKey_ok configured "JWT_SECRET is not configured"
  unfold Registration.issueAuthTokens user shared
  simp only [perform_bind]
  rw [succeeds_command]
  refine and_congr Iff.rfl ?_
  simp only [RegistrationCommand.exec, UserCommand.exec, signAccessToken, signs]
  refine succeeds_command.trans (and_iff_left ?_)
  exact ⟨_, rfl⟩

end Steps

section Register

variable (svc env faults) (body : RegisterRequest) (ip : String) (draws : RegistrationDraws) (s)

/-- What a registration does once the user is stored. -/
def registerTail (required : Bool) (doc : Registration.UserDocument) :
    RegistrationProgram (Option AuthTokens) := do
  if required then signVerification doc (draws.now / 1000) else pure ()
  if !doc.emailVerified then pure none
  else do
    let tokens ← bindAndIssue svc doc false body.sourceDeviceId (draws.now / 1000)
    pure (some tokens)

theorem forall_registerTail (required : Bool) (doc : Registration.UserDocument) :
    Forall (Silent svc) (registerTail svc body draws required doc) := by
  unfold registerTail
  have tokens : Forall (Silent svc) (if !doc.emailVerified then pure none else do
      let tokens ← bindAndIssue svc doc false body.sourceDeviceId (draws.now / 1000)
      pure (some tokens)) :=
    forall_ite (forall_pure none) ((forall_bindAndIssue doc false body.sourceDeviceId _).bind fun _ => forall_pure _)
  cases required with
  | true => exact (forall_signVerification doc _).bind fun _ => tokens
  | false => exact tokens

theorem succeeds_registerTail (configured : svc.env.trimmedSecret.isSome = true) (passwordHash : String)
    {t : RegistrationStore} (config : t.stores.runtimeConfig = s.stores.runtimeConfig)
    (devices : t.stores.userDevicePublicKeys = s.stores.userDevicePublicKeys) :
    (faults .insertUser = none ∧ Succeeds (RegistrationCommand.exec svc) (throws faults)
      (registerTail svc body draws t.stores.runtimeConfig.emailVerificationRequired
        (newUser svc body (!t.stores.runtimeConfig.emailVerificationRequired) passwordHash draws)) t) ↔
      RegisterCompletes svc faults body draws s := by
  unfold registerTail
  cases required : t.stores.runtimeConfig.emailVerificationRequired with
  | true =>
    have same : s.stores.runtimeConfig.emailVerificationRequired = true := by rw [← config, required]
    have tail := @succeeds_signVerification svc faults t _ configured
      (newUser svc body false passwordHash draws) (draws.now / 1000) (pure (none : Option AuthTokens))
    have ends : Succeeds (RegistrationCommand.exec svc) (throws faults)
        (pure (none : Option AuthTokens)) t := ⟨none, rfl⟩
    have email : (∃ email, (newUser svc body false passwordHash draws).email = some email ∧ email ≠ "") ↔
        normalizeEmail svc body.email ≠ "" :=
      ⟨fun ⟨e, found, nonempty⟩ => Option.some.inj found ▸ nonempty, fun nonempty => ⟨_, rfl, nonempty⟩⟩
    rw [email] at tail
    refine (and_congr_right fun _ => tail).trans ⟨fun parts => ?_, fun completes => ?_⟩
    · obtain ⟨insert, named, signed, -⟩ := parts
      exact ⟨insert, fun _ => ⟨named, signed⟩, fun off => (by rw [same] at off; cases off)⟩
    · obtain ⟨named, signed⟩ := completes.verification same
      exact ⟨completes.insert, named, signed, ends⟩
  | false =>
    have same : s.stores.runtimeConfig.emailVerificationRequired = false := by rw [← config, required]
    have tail := @succeeds_bindAndIssue svc faults t configured
      (newUser svc body true passwordHash draws) false body.sourceDeviceId (draws.now / 1000)
    have tokens : TokensIssued faults draws.id body.sourceDeviceId t ↔
        TokensIssued faults draws.id body.sourceDeviceId s := by
      unfold TokensIssued DeviceFound
      rw [devices]
    refine (and_congr_right fun _ => succeeds_bind_pure.trans (tail.trans tokens)).trans
      ⟨fun parts => ?_, fun completes => ?_⟩
    · exact ⟨parts.1, fun on => (by rw [same] at on; cases on), fun _ => parts.2⟩
    · exact ⟨completes.insert, completes.tokens same⟩

theorem register_failsCleanly_iff : FailsCleanly svc faults (postRegister svc env body ip draws) s ↔
    (RegisterInserts svc env faults body ip draws s →
      InsertRejected faults ∨ RegisterCompletes svc faults body draws s) := by
  rw [failsCleanly_iff]
  by_cases secret : svc.env.trimmedSecret.isSome = true
  · have starts : postRegister svc env body ip draws =
        (shared (rateLimitExceeded ("ratelimit:register:ip:" ++ ip) env.REGISTER_RATE_LIMIT_WINDOW_SEC
          env.REGISTER_RATE_LIMIT_MAX) >>= fun limited =>
        .require (!limited) ⟨"RATE_LIMIT_EXCEEDED", 429, "Too many registration attempts; try again later"⟩ >>=
        fun _ => shared (.perform .getEffectiveRuntimeConfig) >>= fun cfg =>
        createUser svc body (!cfg.emailVerificationRequired) draws >>=
        registerTail svc body draws cfg.emailVerificationRequired) := by
      unfold postRegister requireJwtForAuth
      rw [secret]
      rfl
    rw [starts, clean_limited rfl]
    have completes := fun t config devices =>
      @succeeds_registerTail svc faults s body draws secret (svc.hashPassword body.password) t config devices
    refine (imp_congr_right fun _ => clean_creates rfl body.password
      (fun cfg hash => newUser svc body (!cfg.emailVerificationRequired) hash draws)
      (fun cfg d => forall_registerTail svc body draws cfg.emailVerificationRequired d)).trans ?_
    exact ⟨fun kept ins => (kept ins.counted ins.config ins.hash ins.fresh).imp_right
        (completes (inserted _ (countedStore _ s)) rfl rfl).mp,
      fun kept counted config hash fresh => (kept ⟨secret, counted, config, hash, fresh⟩).imp_right
        (completes (inserted _ (countedStore _ s)) rfl rfl).mpr⟩
  · have refused : postRegister svc env body ip draws =
        .fail ⟨"AUTH_NOT_CONFIGURED", 503, "JWT_SECRET is not configured"⟩ := by
      unfold postRegister requireJwtForAuth
      rw [Bool.not_eq_true] at secret
      rw [secret]
      rfl
    rw [refused]
    exact iff_of_true (fun _ => rfl) fun ins => absurd ins.secret secret

end Register

section Guest

variable (svc env faults) (body : GuestRequest) (ip : String) (fingerprintRaw : Option String)
  (draws : RegistrationDraws) (s)

/-- The store when a guest's attempt has been counted. -/
def countedGuest : RegistrationStore :=
  match fingerprintRaw with
  | some raw => countedStore ("ratelimit:auth-guest:fp:" ++ env.fingerprintRedisKeySegment raw)
      (countedStore ("ratelimit:auth-guest:ip:" ++ ip) s)
  | none => countedStore ("ratelimit:auth-guest:ip:" ++ ip) s

theorem guestKeys_differ (a b : String) : "ratelimit:auth-guest:fp:" ++ a ≠ "ratelimit:auth-guest:ip:" ++ b := by
  intro same
  have lists := congrArg String.toList same
  rw [String.toList_append, String.toList_append] at lists
  have head := congrArg (fun l : List Char => l[21]?) lists
  simp at head

theorem clean_guestLimited {α : Type} {seen : List Registration.UserDocument} (same : s.users = seen)
    (e : AppError) (f : RegistrationProgram α) :
    KeepsOnError (RegistrationCommand.exec svc) (throws faults) RegistrationStore.users seen
        (shared (isGuestAuthRateLimited env ip fingerprintRaw) >>= fun limited =>
          .require (!limited) e >>= fun _ => f) s ↔
      (Counted faults ("ratelimit:auth-guest:ip:" ++ ip) env.GUEST_AUTH_RATE_LIMIT_MAX_PER_IP s →
        (∀ raw, fingerprintRaw = some raw →
          Counted faults ("ratelimit:auth-guest:fp:" ++ env.fingerprintRedisKeySegment raw)
            env.GUEST_AUTH_RATE_LIMIT_MAX_PER_FINGERPRINT s) →
        KeepsOnError (RegistrationCommand.exec svc) (throws faults) RegistrationStore.users seen f
          (countedGuest env s ip fingerprintRaw)) := by
  unfold isGuestAuthRateLimited shared
  rw [hoist_bind, assoc]
  refine (clean_counted same _ _ _ _).trans ?_
  by_cases within : attempts ("ratelimit:auth-guest:ip:" ++ ip) s + 1 ≤ env.GUEST_AUTH_RATE_LIMIT_MAX_PER_IP
  · have admitted : decide (env.GUEST_AUTH_RATE_LIMIT_MAX_PER_IP <
        attempts ("ratelimit:auth-guest:ip:" ++ ip) s + 1) = false := decide_eq_false (by omega)
    rw [admitted]
    cases fingerprintRaw with
    | none =>
      exact ⟨fun kept counted _ => kept counted.counts counted.expires,
        fun kept counts expires => kept ⟨counts, expires, within⟩ fun raw named => by cases named⟩
    | some raw =>
      have apart : attempts ("ratelimit:auth-guest:fp:" ++ env.fingerprintRedisKeySegment raw)
          (countedStore ("ratelimit:auth-guest:ip:" ++ ip) s) =
          attempts ("ratelimit:auth-guest:fp:" ++ env.fingerprintRedisKeySegment raw) s := by
        unfold attempts countedStore
        simp only [Record.get_set_of_ne _ _ (guestKeys_differ _ ip)]
      have counts : Counted faults ("ratelimit:auth-guest:fp:" ++ env.fingerprintRedisKeySegment raw)
            env.GUEST_AUTH_RATE_LIMIT_MAX_PER_FINGERPRINT
            (countedStore ("ratelimit:auth-guest:ip:" ++ ip) s) ↔
          ∀ raw', some raw = some raw' →
            Counted faults ("ratelimit:auth-guest:fp:" ++ env.fingerprintRedisKeySegment raw')
              env.GUEST_AUTH_RATE_LIMIT_MAX_PER_FINGERPRINT s := by
        refine ⟨fun counted raw' named => ?_, fun counted => ?_⟩
        · obtain rfl := Option.some.inj named
          exact ⟨counted.counts, apart ▸ counted.expires, apart ▸ counted.within⟩
        · have here := counted raw rfl
          exact ⟨here.counts, apart ▸ here.expires, apart ▸ here.within⟩
      have second := @clean_limited svc faults (countedStore ("ratelimit:auth-guest:ip:" ++ ip) s) α seen same
        ("ratelimit:auth-guest:fp:" ++ env.fingerprintRedisKeySegment raw)
        env.GUEST_AUTH_RATE_LIMIT_WINDOW_SEC env.GUEST_AUTH_RATE_LIMIT_MAX_PER_FINGERPRINT e f
      rw [counts] at second
      exact ⟨fun kept counted => second.mp (kept counted.counts counted.expires),
        fun kept counts expires => second.mpr (kept ⟨counts, expires, within⟩)⟩
  · have refused : decide (env.GUEST_AUTH_RATE_LIMIT_MAX_PER_IP <
        attempts ("ratelimit:auth-guest:ip:" ++ ip) s + 1) = true := decide_eq_true (by omega)
    rw [refused]
    have kept : KeepsOnError (RegistrationCommand.exec svc) (throws faults) RegistrationStore.users seen
        (.fail e : RegistrationProgram α) (countedStore ("ratelimit:auth-guest:ip:" ++ ip) s) := fun _ => same
    exact iff_of_true (fun _ _ => kept) fun counted => absurd counted.within within

theorem succeeds_guestTail (configured : svc.env.trimmedSecret.isSome = true) {t : RegistrationStore}
    {doc : Registration.UserDocument} (id : doc.id = draws.id)
    (devices : t.stores.userDevicePublicKeys = s.stores.userDevicePublicKeys) :
    Succeeds (RegistrationCommand.exec svc) (throws faults)
      (bindAndIssue svc doc true body.sourceDeviceId (draws.now / 1000) >>= fun tokens =>
        (pure (tokens, toUserApiShape doc) : RegistrationProgram (AuthTokens × UserApiShape))) t ↔
      TokensIssued faults draws.id body.sourceDeviceId s := by
  rw [succeeds_bind_pure, succeeds_bindAndIssue configured]
  unfold TokensIssued DeviceFound
  rw [id, devices]

theorem guest_failsCleanly_iff : FailsCleanly svc faults (postGuest svc env body ip fingerprintRaw draws) s ↔
    (GuestInserts svc env faults body ip fingerprintRaw draws s →
      InsertRejected faults ∨ GuestCompletes faults body draws s) := by
  rw [failsCleanly_iff]
  by_cases secret : svc.env.trimmedSecret.isSome = true
  · have starts : postGuest svc env body ip fingerprintRaw draws =
        (shared (isGuestAuthRateLimited env ip fingerprintRaw) >>= fun limited =>
        .require (!limited) ⟨"RATE_LIMIT_EXCEEDED", 429, "Too many guest session attempts; try again later"⟩ >>=
        fun _ => shared (.perform .getEffectiveRuntimeConfig) >>= fun cfg =>
        createGuestUser svc body (computeGuestDataExpiresAt env cfg draws.now) draws >>= fun doc =>
        bindAndIssue svc doc true body.sourceDeviceId (draws.now / 1000) >>= fun tokens =>
        pure (tokens, toUserApiShape doc)) := by
      unfold postGuest requireJwtForAuth
      rw [secret]
      rfl
    rw [starts, clean_guestLimited svc env faults s ip fingerprintRaw rfl]
    have config : (countedGuest env s ip fingerprintRaw).stores.runtimeConfig = s.stores.runtimeConfig := by
      unfold countedGuest
      cases fingerprintRaw <;> rfl
    have devices : (countedGuest env s ip fingerprintRaw).stores.userDevicePublicKeys =
        s.stores.userDevicePublicKeys := by
      unfold countedGuest
      cases fingerprintRaw <;> rfl
    have users : (countedGuest env s ip fingerprintRaw).users = s.users := by
      unfold countedGuest
      cases fingerprintRaw <;> rfl
    refine (imp_congr_right fun _ => imp_congr_right fun _ => clean_creates users draws.guestPassword
      (fun cfg hash => newGuest svc body (computeGuestDataExpiresAt env cfg draws.now) hash draws)
      (fun _ d => (forall_bindAndIssue d true body.sourceDeviceId _).bind fun _ => forall_pure _)).trans ?_
    rw [config]
    have tail := fun (doc : Registration.UserDocument) (id : doc.id = draws.id) =>
      succeeds_guestTail svc faults s body draws secret
      (t := inserted doc (countedGuest env s ip fingerprintRaw)) id devices
    refine ⟨fun kept ins => ?_, fun kept counted fingerprint config hash fresh => ?_⟩
    · refine (kept ins.counted ins.countedFingerprint ins.config ins.hash ins.fresh).imp_right fun parts => ?_
      exact ⟨parts.1, (tail _ rfl).mp parts.2⟩
    · refine (kept ⟨secret, counted, fingerprint, config, hash, fresh⟩).imp_right fun completes => ?_
      exact ⟨completes.insert, (tail _ rfl).mpr completes.tokens⟩
  · have refused : postGuest svc env body ip fingerprintRaw draws =
        .fail ⟨"AUTH_NOT_CONFIGURED", 503, "JWT_SECRET is not configured"⟩ := by
      unfold postGuest requireJwtForAuth
      rw [Bool.not_eq_true] at secret
      rw [secret]
      rfl
    rw [refused]
    exact iff_of_true (fun _ => rfl) fun ins => absurd ins.secret secret

end Guest

/-- A request that ends in an error leaves `users` as they were exactly when, once its
insert meets no duplicate key, either the insert fails unexecuted or nothing fails from
there on: the address is not empty and the verification token is signed, or the device
that the body names is registered for the new user id and the tokens are issued. -/
theorem failed_requests_clean_iff (svc : AuthService) (env : RegistrationEnv) (faults : StepFaults)
    (s : RegistrationStore) :
    (∀ body ip draws, FailsCleanly svc faults (postRegister svc env body ip draws) s ↔
      (RegisterInserts svc env faults body ip draws s →
        InsertRejected faults ∨ RegisterCompletes svc faults body draws s)) ∧
    (∀ body ip fingerprintRaw draws,
      FailsCleanly svc faults (postGuest svc env body ip fingerprintRaw draws) s ↔
        (GuestInserts svc env faults body ip fingerprintRaw draws s →
          InsertRejected faults ∨ GuestCompletes faults body draws s)) :=
  ⟨fun body ip draws => register_failsCleanly_iff svc env faults s body ip draws,
    fun body ip fingerprintRaw draws => guest_failsCleanly_iff svc env faults s body ip fingerprintRaw draws⟩

/-- The settings of a deployment. -/
def settings : RegistrationEnv where
  REGISTER_RATE_LIMIT_WINDOW_SEC := 60
  REGISTER_RATE_LIMIT_MAX := 5
  GUEST_AUTH_RATE_LIMIT_WINDOW_SEC := 60
  GUEST_AUTH_RATE_LIMIT_MAX_PER_IP := 5
  GUEST_AUTH_RATE_LIMIT_MAX_PER_FINGERPRINT := 5
  GUEST_DATA_MONGODB_TTL_SECONDS := 3600
  fingerprintRedisKeySegment raw := raw

def fromPhone : RegisterRequest where
  email := "alice@example.org"
  password := "secret"
  username := "alice"
  displayName := "Alice"
  sourceDeviceId := .value "phone"

/-- A registration that names a device is refused, and the account is there. -/
theorem account_of_refused_registration :
    ¬ ∀ (svc : AuthService) (env : RegistrationEnv) (faults : StepFaults) (s : RegistrationStore),
      (∀ body ip draws, FailsCleanly svc faults (postRegister svc env body ip draws) s) ∧
      (∀ body ip fingerprintRaw draws,
        FailsCleanly svc faults (postGuest svc env body ip fingerprintRaw draws) s) := by
  intro claim
  have clean := (claim Protocol.Sample.service settings (fun _ => none) {}).1 fromPhone "10.0.0.1" ⟨"u1", "", 0⟩
  rw [register_failsCleanly_iff] at clean
  have inserts : RegisterInserts Protocol.Sample.service settings (fun _ => none) fromPhone "10.0.0.1"
      ⟨"u1", "", 0⟩ {} := by
    refine ⟨by decide, ⟨rfl, fun _ => rfl, ?_⟩, rfl, rfl, rfl⟩
    simp [attempts, settings]
  rcases clean inserts with ⟨e, rejected⟩ | completes
  · cases rejected
  · have found := ((completes.tokens rfl).1 "phone" rfl (by decide)).2
    cases found

end MessagingSystem.Guarantees.FailedRegistrations
