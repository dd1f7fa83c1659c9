import MessagingSystem.Guarantees.DoorsAgree
import MessagingSystem.Guarantees.ResetRevokes
import MessagingSystem.Guarantees.TokenPurposes

/-!
# Sessions go back to a proof of identity

An access token is answered to a login, a refresh or a verification of an address. A refresh
goes by the refresh token alone, which an earlier answer has issued. However the requests
interleave and fail, each token answered lets its holder in at either door as one user, and
some request of the run has shown that user's password or a mail token for the account.
-/
namespace MessagingSystem.Guarantees.SessionOrigins
open Foundation Source.Server Protocol DoorsAgree ResetRevokes

/-- The step finds the account of a login, and the password is its own. -/
def SignsIn (svc : AuthService) (userId : String) (t : SessionTransition) : Prop :=
  ∃ (index : Nat) (email password : String) (device : Nullable String) (now : Nat) (n : SessionNotes)
    (next : Option AccountDocument → AuthProgram AuthReply) (user : AccountDocument),
    t.label = .advance index ∧
    t.source.calls[index]? =
      some ⟨.login email password device now, n, .command (.findUserByEmail (normalizeEmail svc email)) next⟩ ∧
    t.source.store.users.find? (fun u => u.email = some (normalizeEmail svc email)) = some user ∧
    svc.verifyPassword user.passwordHash password = true ∧ user.id = userId

/-- The mail token is one for the account. -/
def MailedTo (svc : AuthService) (token : String) (now : Nat) (userId : String) : Prop :=
  ∃ claims, verifyEmailVerificationToken svc.jose svc.env token now = .ok claims ∧
    userId = EcmaText.trim claims.userId

/-- The step takes up a verification with a mail token for the account. -/
def VerifiesMail (svc : AuthService) (userId : String) (t : SessionTransition) : Prop :=
  ∃ token ip now, t.label = .takeUp (.verifyEmail token ip now) ∧ MailedTo svc token now userId

/-- Some request of the run has shown who the user is. -/
def Proven (svc : AuthService) (history : List SessionTransition) (userId : String) : Prop :=
  ∃ t ∈ history, SignsIn svc userId t ∨ VerifiesMail svc userId t

/-- The clock of a request. -/
def clock : AuthRequest → Nat
  | .login _ _ _ now => now
  | .refresh _ _ now => now
  | .resetPassword _ _ now => now
  | .verifyEmail _ _ now => now
  | _ => 0

def isLogin : AuthRequest → Bool
  | .login .. => true
  | _ => false

section Paths

open Program

variable {svc : AuthService} {request : AuthRequest} {α β : Type} {n : SessionNotes}

/-- What makes the sender of a request the user of a record, by the notes of the request. -/
def Identified (svc : AuthService) (n : SessionNotes) (user : AccountDocument) : AuthRequest → Prop
  | .login _ password _ _ => svc.verifyPassword user.passwordHash password = true
  | .refresh .. => ∃ stored, n.payload = some stored ∧ user.id = EcmaText.trim stored.userId
  | .verifyEmail token _ now => MailedTo svc token now user.id
  | _ => False

/-- A login reads the account of its address only, and a token is created for an identified user. -/
def beforeCreate (svc : AuthService) (request : AuthRequest) (n : SessionNotes) : AuthCommand β → Prop
  | .findUserByEmail address => ∀ email password device now, request = .login email password device now →
      address = normalizeEmail svc email
  | .findUserById _ => isLogin request = false
  | .createRefreshToken payload _ =>
      ∃ user, n.user = some user ∧ payload.userId = user.id ∧ Identified svc n user request
  | _ => True

/-- The access token is one of the user, from the clock of the request on. -/
def Signed (svc : AuthService) (request : AuthRequest) (user : AccountDocument) (tokens : AuthTokens) : Prop :=
  ∃ options : SignAccessTokenOptions, signAccessToken svc.jose svc.env user.id user.emailVerified options
    (clock request) = .ok (tokens.accessToken, tokens.expiresIn)

/-- The tokens answered are those of an identified user. -/
def afterTokens (svc : AuthService) (request : AuthRequest) (n : SessionNotes)
    (result : Except AppError AuthReply) : Prop :=
  ∀ tokens, result = .ok (some tokens) →
    ∃ user, n.user = some user ∧ Identified svc n user request ∧ Signed svc request user tokens

/-- The property of a part of a request's program, between its notes. -/
abbrev Origin (svc : AuthService) (request : AuthRequest) {α : Type}
    (after : SessionNotes → Except AppError α → Prop) (n : SessionNotes) (p : AuthProgram α) : Prop :=
  Along SessionNotes.record sessionAnswers (fun n c => beforeCreate svc request n c) after n p

theorem afterTokens_error (e : AppError) : afterTokens svc request n (.error e) := nofun

theorem afterTokens_none : afterTokens svc request n (.ok none) := nofun

theorem origin_unnoted {p : AuthProgram α} (unnoted : Forall Unnoted p) :
    Origin svc request (fun m _ => m = n) n p := by
  induction p with
  | done result => exact along_done.mpr rfl
  | command c next ih =>
    obtain ⟨here, rest⟩ := forall_command.mp unnoted
    refine along_command.mpr ⟨?_, fun reply _ => ?_⟩
    · cases c <;> first | exact trivial | exact here.elim
    · have same : n.record c reply = n := by
        cases c <;> first | rfl | exact here.elim
      rw [same]
      exact ih reply (rest reply)

/-- A part that notes nothing, and the rest. -/
theorem origin_unnoted_bind {p : AuthProgram α} {f : α → AuthProgram AuthReply} (unnoted : Forall Unnoted p)
    (rest : ∀ a, Origin svc request (afterTokens svc request) n (f a)) :
    Origin svc request (afterTokens svc request) n (p >>= f) := by
  apply (origin_unnoted unnoted).bind
  · intro m a same
    rw [same]
    exact rest a
  · intro m e _
    exact afterTokens_error e

/-- A lookup by id that is no login's, and the rest. -/
theorem findAccountById_origin {id : String} {f : Option AccountDocument → AuthProgram AuthReply}
    (noLogin : isLogin request = false)
    (missing : ∀ m : SessionNotes, m.payload = n.payload →
      Origin svc request (afterTokens svc request) m (f none))
    (found : ∀ m : SessionNotes, ∀ user, m.payload = n.payload → m.user = some user →
      user.id = EcmaText.trim id → Origin svc request (afterTokens svc request) m (f (some user))) :
    Origin svc request (afterTokens svc request) n (findAccountById id >>= f) := by
  unfold findAccountById
  split
  · exact missing n rfl
  · refine along_perform_bind noLogin fun reply answered => ?_
    cases reply with
    | none => exact missing _ rfl
    | some user => exact found _ user rfl rfl (answered user rfl)

/-- The tokens of the user read last, who is identified. -/
theorem issueAuthTokens_origin (request : AuthRequest) {user : AccountDocument} {guest : Bool} {device : Option String}
    {f : AuthTokens → AuthProgram AuthReply} (read : n.user = some user) (identified : Identified svc n user request)
    (rest : ∀ tokens m, m.user = n.user → m.payload = n.payload → Signed svc request user tokens →
      Origin svc request (afterTokens svc request) m (f tokens)) :
    Origin svc request (afterTokens svc request) n (issueAuthTokens svc user guest device (clock request) >>= f) := by
  unfold issueAuthTokens
  dsimp only
  cases signed : signAccessToken svc.jose svc.env user.id user.emailVerified _ (clock request) with
  | error e => exact along_fail (afterTokens_error e)
  | ok access =>
    refine along_perform_bind ⟨user, read, rfl, identified⟩ fun raw _ => ?_
    exact rest _ _ rfl rfl ⟨_, signed⟩

theorem Identified.of_payload {m : SessionNotes} {user : AccountDocument} (same : m.payload = n.payload)
    (identified : Identified svc n user request) : Identified svc m user request := by
  cases request with
  | refresh raw device now =>
    obtain ⟨stored, held, named⟩ := identified
    exact ⟨stored, same.trans held, named⟩
  | _ => exact identified

/-- The answer of the tokens, once they are issued. -/
theorem issued_origin (request : AuthRequest) {user : AccountDocument} {guest : Bool} {device : Option String}
    (read : n.user = some user) (identified : Identified svc n user request) :
    Origin svc request (afterTokens svc request) n
      (issueAuthTokens svc user guest device (clock request) >>= fun tokens => pure (some tokens)) := by
  apply issueAuthTokens_origin request read identified
  intro tokens m users payload signed
  apply along_pure
  intro answered same
  cases same
  exact ⟨user, users.trans read, identified.of_payload payload, signed⟩

theorem postLogin_origin (email password : String) (device : Nullable String) (now : Nat) :
    Origin svc (.login email password device now) (afterTokens svc (.login email password device now)) {}
      (postLogin svc email password device now) := by
  unfold postLogin requireJwtForAuth findAccountByEmail
  refine along_require_bind (fun _ => ?_) fun _ => afterTokens_error _
  refine along_perform_bind (fun _ _ _ _ same => by cases same; rfl) fun found _ => ?_
  refine along_orFail_bind (fun user known => ?_) fun _ => afterTokens_error _
  obtain ⟨read, password⟩ := Option.filter_eq_some_iff.mp known
  refine along_require_bind (fun _ => ?_) fun _ => afterTokens_error _
  refine origin_unnoted_bind (resolveSourceDeviceId_unnoted user.id device) fun bound => ?_
  exact issued_origin _ read password

theorem rotateRefreshToken_origin {raw : String} {device : Nullable String} {now : Nat} {user : AccountDocument}
    (read : n.user = some user) (identified : Identified svc n user (.refresh raw device now)) :
    Origin svc (.refresh raw device now) (afterTokens svc (.refresh raw device now)) n
      (rotateRefreshToken svc raw user device now) := by
  unfold rotateRefreshToken
  refine along_perform_bind trivial fun cfg _ => ?_
  refine along_require_bind (fun _ => ?_) fun _ => afterTokens_error _
  refine origin_unnoted_bind (resolveSourceDeviceId_unnoted user.id device) fun bound => ?_
  apply issueAuthTokens_origin (.refresh raw device now) read identified
  intro tokens m users payload signed
  refine along_perform_bind trivial fun _ _ => along_pure ?_
  intro answered same
  cases same
  exact ⟨user, users.trans read, identified.of_payload payload, signed⟩

theorem postRefresh_origin (raw : String) (device : Nullable String) (now : Nat) :
    Origin svc (.refresh raw device now) (afterTokens svc (.refresh raw device now)) {}
      (postRefresh svc raw device now) := by
  unfold postRefresh requireJwtForAuth getRefreshPayload
  refine along_require_bind (fun _ => ?_) fun _ => afterTokens_error _
  refine along_perform_bind trivial fun payload _ => ?_
  have rejected : ∀ (m : SessionNotes) (e : AppError), Origin svc (.refresh raw device now)
      (afterTokens svc (.refresh raw device now)) m (revokeAndReject svc raw e) :=
    fun m e => along_perform_bind trivial fun _ _ => along_fail (afterTokens_error e)
  cases payload with
  | none => exact along_fail (afterTokens_error _)
  | some stored =>
    apply findAccountById_origin rfl
    · intro m _
      exact rejected m _
    · intro m user held read named
      dsimp only
      split
      · exact rejected m _
      · exact rotateRefreshToken_origin read ⟨stored, held, named⟩

theorem postLogout_origin (raw : String) :
    Origin svc (.logout raw) (afterTokens svc (.logout raw)) {} (postLogout svc raw) := by
  unfold postLogout requireJwtForAuth revokeRefreshToken
  refine along_require_bind (fun _ => ?_) fun _ => afterTokens_error _
  exact along_perform_bind trivial fun _ _ => along_pure afterTokens_none

theorem postResetPassword_origin (token password : String) (now : Nat) :
    Origin svc (.resetPassword token password now) (afterTokens svc (.resetPassword token password now)) {}
      (postResetPassword svc token password now) := by
  unfold postResetPassword requireJwtForAuth
  refine along_require_bind (fun _ => ?_) fun _ => afterTokens_error _
  refine origin_unnoted_bind (orThrow_unnoted _) fun claims => ?_
  apply findAccountById_origin rfl
  · intro m _
    exact along_fail (afterTokens_error _)
  · intro m user _ _ _
    refine along_orFail_bind (fun account _ => ?_) fun _ => afterTokens_error _
    refine along_require_bind (fun _ => ?_) fun _ => afterTokens_error _
    refine along_perform_bind trivial fun ok _ => ?_
    exact along_require_bind (fun _ => along_pure afterTokens_none) fun _ => afterTokens_error _

theorem verifiedTokens_origin {token ip : String} {now : Nat} {user : AccountDocument} (read : n.user = some user)
    (mailed : MailedTo svc token now user.id) :
    Origin svc (.verifyEmail token ip now) (afterTokens svc (.verifyEmail token ip now)) n
      (verifiedTokens svc user now) := by
  unfold verifiedTokens
  split
  · exact issued_origin (.verifyEmail token ip now) read mailed
  · refine along_perform_bind trivial fun marked _ => ?_
    apply findAccountById_origin rfl
    · intro m _
      exact along_fail (afterTokens_error _)
    · intro m updated _ read named
      obtain ⟨claims, verified, same⟩ := mailed
      refine issued_origin (.verifyEmail token ip now) read ⟨claims, verified, ?_⟩
      rw [named, same, EcmaText.trim_trim]

theorem postVerifyEmail_origin (token ip : String) (now : Nat) :
    Origin svc (.verifyEmail token ip now) (afterTokens svc (.verifyEmail token ip now)) {}
      (postVerifyEmail svc token ip now) := by
  unfold postVerifyEmail requireJwtForAuth
  refine along_require_bind (fun _ => ?_) fun _ => afterTokens_error _
  refine along_perform_bind trivial fun cfg _ => ?_
  refine along_require_bind (fun _ => ?_) fun _ => afterTokens_error _
  refine origin_unnoted_bind (rateLimitExceeded_unnoted _ _ _) fun limited => ?_
  refine along_require_bind (fun _ => ?_) fun _ => afterTokens_error _
  cases verified : verifyEmailVerificationToken svc.jose svc.env token now with
  | error e => exact along_fail (afterTokens_error e)
  | ok claims =>
    apply findAccountById_origin rfl
    · intro m _
      exact along_fail (afterTokens_error _)
    · intro m user _ read named
      refine along_require_bind (fun _ => ?_) fun _ => afterTokens_error _
      refine along_require_bind (fun _ => ?_) fun _ => afterTokens_error _
      exact verifiedTokens_origin read ⟨claims, verified, named⟩

/-- Every request begins on its path. -/
theorem request_origin (svc : AuthService) (request : AuthRequest) :
    Origin svc request (afterTokens svc request) {} (request.program svc) := by
  cases request with
  | login email password device now => exact postLogin_origin email password device now
  | refresh raw device now => exact postRefresh_origin raw device now
  | logout raw => exact postLogout_origin raw
  | resetPassword token password now => exact postResetPassword_origin token password now
  | verifyEmail token ip now => exact postVerifyEmail_origin token ip now
  | tokenExpires hash => exact along_perform_bind trivial fun _ _ => along_pure afterTokens_none
  | userExpires userId => exact along_perform_bind trivial fun _ _ => along_pure afterTokens_none

end Paths

section States

variable {svc : AuthService} {s t : SessionPool} {event : SessionEvent} {proven proven' : String → Prop}

/-- What the store and the notes of the calls hold of users that are proven. -/
structure Rooted (svc : AuthService) (proven : String → Prop) (s : SessionPool) : Prop where
  paths : (sessionCalls svc).AllAlong sessionAnswers (beforeCreate svc) (afterTokens svc) s
  stored : ∀ hash payload, s.store.refreshTokens.get hash = some payload →
    proven payload.userId ∧ EcmaText.Trimmed payload.userId
  presented : ∀ entry ∈ s.calls, ∀ payload, entry.notes.payload = some payload →
    proven payload.userId ∧ EcmaText.Trimmed payload.userId
  signedIn : ∀ entry ∈ s.calls, ∀ email password device now, entry.call = .login email password device now →
    ∀ user, entry.notes.user = some user → svc.verifyPassword user.passwordHash password = true → proven user.id
  mailed : ∀ entry ∈ s.calls, ∀ token ip now, entry.call = .verifyEmail token ip now →
    ∀ userId, MailedTo svc token now userId → proven userId

/-- An identified user is proven. -/
theorem Rooted.identified (rooted : Rooted svc proven s) {entry : SessionCall} (member : entry ∈ s.calls)
    {user : AccountDocument} (read : entry.notes.user = some user)
    (identified : Identified svc entry.notes user entry.call) : proven user.id := by
  obtain ⟨request, n, rest⟩ := entry
  cases request with
  | login email password device now => exact rooted.signedIn _ member email password device now rfl user read identified
  | refresh raw device now =>
    obtain ⟨stored, held, named⟩ := identified
    obtain ⟨known, trimmed⟩ := rooted.presented _ member stored held
    rw [named, show EcmaText.trim stored.userId = stored.userId from trimmed]
    exact known
  | verifyEmail token ip now => exact rooted.mailed _ member token ip now rfl user.id identified
  | _ => exact identified.elim

theorem Rooted.initial (init : (sessionMachine svc).init s) : Rooted svc proven s := by
  obtain ⟨idle, fresh⟩ := init
  have none : ∀ entry, entry ∉ s.calls := by simp [idle]
  refine ⟨fun entry member => absurd member (none entry), ?_, fun entry member => absurd member (none entry),
    fun entry member => absurd member (none entry), fun entry member => absurd member (none entry)⟩
  intro hash payload held
  rw [fresh.tokens, Record.get_empty] at held
  cases held

theorem Rooted.mono (more : ∀ u, proven u → proven' u) (rooted : Rooted svc proven s) : Rooted svc proven' s where
  paths := rooted.paths
  stored hash payload held := (rooted.stored hash payload held).imp_left (more _)
  presented entry member payload held := (rooted.presented entry member payload held).imp_left (more _)
  signedIn entry member email password device now called user read password' :=
    more _ (rooted.signedIn entry member email password device now called user read password')
  mailed entry member token ip now called userId mailed :=
    more _ (rooted.mailed entry member token ip now called userId mailed)

/-- Calls that are as they were, up to what is left of their programs. -/
theorem Rooted.of_kept (rooted : Rooted svc proven s)
    (paths : (sessionCalls svc).AllAlong sessionAnswers (beforeCreate svc) (afterTokens svc) t)
    (store : t.store = s.store)
    (kept : ∀ entry ∈ t.calls, ∃ old ∈ s.calls, old.call = entry.call ∧ old.notes = entry.notes) :
    Rooted svc proven t where
  paths := paths
  stored := by
    rw [store]
    exact rooted.stored
  presented entry member := by
    obtain ⟨old, before, -, notes⟩ := kept entry member
    rw [← notes]
    exact rooted.presented old before
  signedIn entry member := by
    obtain ⟨old, before, call, notes⟩ := kept entry member
    rw [← call, ← notes]
    exact rooted.signedIn old before
  mailed entry member := by
    obtain ⟨old, before, call, -⟩ := kept entry member
    rw [← call]
    exact rooted.mailed old before

/-- The refresh tokens in Redis after a command are old ones, or one for an identified user. -/
theorem Rooted.stored_exec (versions : VersionState s) (rooted : Rooted svc proven s) {β : Type} {index : Nat}
    {request : AuthRequest} {n : SessionNotes} {c : AuthCommand β} {next : β → AuthProgram AuthReply}
    (running : s.calls[index]? = some ⟨request, n, .command c next⟩) (hash : String) (payload : StoredRefreshPayload)
    (held : (c.exec svc s.store).2.refreshTokens.get hash = some payload) :
    proven payload.userId ∧ EcmaText.Trimmed payload.userId := by
  have member := List.mem_of_getElem? running
  have before := (Program.along_command.mp (rooted.paths _ member)).1
  cases c with
  | createRefreshToken own ttl =>
    by_cases same : hash = svc.tokenHash (svc.randomToken s.store.drawn)
    · rw [same] at held
      obtain rfl := Option.some.inj ((Record.get_set_self _ _ _).symm.trans held)
      obtain ⟨user, read, named, identified⟩ := before
      rw [named]
      exact ⟨rooted.identified member read identified, (versions.read _ member user read).1⟩
    · exact rooted.stored hash payload ((Record.get_set_of_ne _ _ same).symm.trans held)
  | revokeRefreshToken gone =>
    by_cases same : hash = gone
    · rw [same] at held
      exact absurd ((Record.get_delete_self _ _).symm.trans held) (by simp)
    · exact rooted.stored hash payload ((Record.get_delete_of_ne _ same).symm.trans held)
  | _ => exact rooted.stored hash payload held

/-- Every step keeps what is held of proven users, when those that the step itself proves are among them. -/
theorem Rooted.step (versions : VersionState s) (rooted : Rooted svc proven s)
    (taken : (sessionMachine svc).step s event t)
    (proves : ∀ u, SignsIn svc u ⟨s, event, t⟩ ∨ VerifiesMail svc u ⟨s, event, t⟩ → proven u) :
    Rooted svc proven t := by
  have paths := rooted.paths.preserved (fun c store => exec_answers svc c store) (request_origin svc)
    (fun request n c e _ _ => afterTokens_error e) taken
  cases taken with
  | takeUp request admitted =>
    refine ⟨paths, rooted.stored, ?_, ?_, ?_⟩
    · intro entry member
      rcases List.mem_append.mp member with old | new
      · exact rooted.presented entry old
      · obtain rfl := List.mem_singleton.mp new
        exact nofun
    · intro entry member
      rcases List.mem_append.mp member with old | new
      · exact rooted.signedIn entry old
      · obtain rfl := List.mem_singleton.mp new
        intro email password device now _ user read
        cases read
    · intro entry member
      rcases List.mem_append.mp member with old | new
      · exact rooted.mailed entry old
      · obtain rfl := List.mem_singleton.mp new
        intro token ip now called userId mailed
        obtain rfl : request = _ := called
        exact proves userId (.inr ⟨token, ip, now, rfl, mailed⟩)
  | advance index request n c next running =>
    have here := List.mem_of_getElem? running
    have before := (Program.along_command.mp (rooted.paths _ here)).1
    refine ⟨paths, rooted.stored_exec versions running, ?_, ?_, ?_⟩
    · intro entry member payload noted
      rcases List.mem_or_eq_of_mem_set member with old | rfl
      · exact rooted.presented entry old payload noted
      · cases c with
        | getRefreshPayload hash => exact rooted.stored hash payload noted
        | _ => exact rooted.presented _ here payload noted
    · intro entry member email password device now called user read password'
      rcases List.mem_or_eq_of_mem_set member with old | rfl
      · exact rooted.signedIn entry old email password device now called user read password'
      · obtain rfl : request = _ := called
        cases c with
        | findUserByEmail address =>
          obtain rfl := before email password device now rfl
          exact proves user.id (.inl ⟨index, email, password, device, now, n, next, user, rfl, running, read,
            password', rfl⟩)
        | findUserById id => cases before
        | _ => exact rooted.signedIn _ here email password device now rfl user read password'
    · intro entry member token ip now called userId mailed
      rcases List.mem_or_eq_of_mem_set member with old | rfl
      · exact rooted.mailed entry old token ip now called userId mailed
      · exact rooted.mailed _ here token ip now called userId mailed
  | abort index request n c next e fails running =>
    apply rooted.of_kept paths rfl
    intro entry member
    rcases List.mem_or_eq_of_mem_set member with old | rfl
    · exact ⟨entry, old, rfl, rfl⟩
    · exact ⟨_, List.mem_of_getElem? running, rfl, rfl⟩

theorem Proven.later {svc : AuthService} {history : List SessionTransition} {userId : String}
    (known : Proven svc history userId) (taken : SessionTransition) : Proven svc (history ++ [taken]) userId := by
  obtain ⟨earlier, member, shows⟩ := known
  exact ⟨earlier, List.mem_append_left _ member, shows⟩

/-- After every run the users of the stored and the noted tokens are proven. -/
theorem rooted_run {start final : SessionPool} {history : List SessionTransition}
    (initial : (sessionMachine svc).init start) (run : (sessionMachine svc).Run start history final) :
    Rooted svc (Proven svc history) final := by
  induction run with
  | nil => exact .initial initial
  | @snoc history source target label earlier last ih =>
    have versions : VersionState source :=
      earlier.invariant (fun _ _ _ inv taken => inv.preserved taken) (.initial initial)
    apply (ih.mono fun u known => known.later ⟨source, label, target⟩).step versions last
    intro u shows
    exact ⟨_, List.mem_append_right _ (List.mem_singleton_self _), shows⟩

end States

section Doors

variable {door : Doorway} {c : Credentials} {place : TokenPlace} {store : AuthStore} {account : AccountDocument}

/-- A request that shows this is let in as the account. -/
def Admits (door : Doorway) (c : Credentials) (store : AuthStore) (account : AccountDocument) : Prop :=
  ∃ device, ((requireAuthenticatedUser door c.headers).run (AuthCommand.exec door.svc) store).1 =
    .ok ⟨account, device⟩

/-- A socket that shows this is let in as the account. -/
def LetsIn (door : Doorway) (c : Credentials) (place : TokenPlace) (store : AuthStore) (account : AccountDocument) :
    Prop :=
  ((resolveSocketAuth door (c.handshake place)).run (AuthCommand.exec door.svc) store).1 = .ok (.ok account)

theorem received_run (p : AuthProgram AuthenticatedRequestContext) (svc : AuthService) (store : AuthStore) :
    ((received p).run (AuthCommand.exec svc) store).1 = verdict (p.run (AuthCommand.exec svc) store).1 := by
  induction p generalizing store with
  | done result => rfl
  | command command next ih => exact ih _ _

theorem verdict_ok (result : Except AppError AuthenticatedRequestContext) :
    verdict result = .ok (.ok account) ↔ ∃ device, result = .ok ⟨account, device⟩ := by
  cases result with
  | ok ctx =>
    constructor
    · intro same
      cases same
      exact ⟨_, rfl⟩
    · rintro ⟨device, same⟩
      cases same
      rfl
  | error e =>
    by_cases mail : e = emailNotVerified
    · simp [verdict, mail]
    · simp [verdict, mail]

/-- Where the doors make the same of what is shown, a socket is let in as a request is. -/
theorem letsIn_iff (same : Matches (resolveBearerAuth door c.headers)
      (resolveHandshakeAccessAuth door (c.handshake place))) :
    LetsIn door c place store account ↔ Admits door c store account := by
  unfold LetsIn Admits
  rw [← program_of_matches same, received_run, verdict_ok]

theorem not_admits (refused : resolveBearerAuth door c.headers = none) : ¬ Admits door c store account := by
  rintro ⟨device, admitted⟩
  unfold requireAuthenticatedUser at admitted
  rw [refused] at admitted
  cases admitted

/-- Whoever a request names is let in as the stored account, of the right kind and verified where that is
asked for. -/
theorem admits_iff {auth : ResolveBearerAuthResult} (named : resolveBearerAuth door c.headers = some auth)
    (nonblank : EcmaText.trim auth.sub ≠ "") :
    Admits door c store account ↔ store.findUser (EcmaText.trim auth.sub) = some account ∧
      auth.fits account = true ∧
      (store.runtimeConfig.emailVerificationRequired = true → account.emailVerified = true) := by
  have asked : findAccountById auth.sub = Program.perform (.findUserById (EcmaText.trim auth.sub)) := if_neg nonblank
  unfold Admits requireAuthenticatedUser
  rw [named]
  simp only [Program.orFail_some, Program.pure_bind]
  rw [asked, Program.perform_bind, Program.run]
  cases found : store.findUser (EcmaText.trim auth.sub) with
  | none => simp [AuthCommand.exec, found]
  | some user =>
    simp only [AuthCommand.exec, found, Program.orFail_some, Program.pure_bind, Option.some.injEq]
    cases fits : auth.fits user with
    | false =>
      simp only [Program.require_false, Program.fail_bind, Program.run_fail]
      constructor
      · rintro ⟨device, admitted⟩
        cases admitted
      · rintro ⟨rfl, fits', -⟩
        exact absurd (fits.symm.trans fits') Bool.false_ne_true
    | true =>
      simp only [Program.require_true, Program.pure_bind, Program.perform_bind, Program.run, AuthCommand.exec]
      cases required : store.runtimeConfig.emailVerificationRequired with
      | false =>
        constructor
        · rintro ⟨device, admitted⟩
          cases admitted
          exact ⟨rfl, fits, fun must => absurd must Bool.false_ne_true⟩
        · rintro ⟨rfl, -, -⟩
          exact ⟨_, rfl⟩
      | true =>
        cases verified : user.emailVerified with
        | false =>
          constructor
          · rintro ⟨device, admitted⟩
            cases admitted
          · rintro ⟨rfl, -, must⟩
            exact absurd (verified.symm.trans (must rfl)) Bool.false_ne_true
        | true =>
          constructor
          · rintro ⟨device, admitted⟩
            cases admitted
            exact ⟨rfl, fits, fun _ => verified⟩
          · rintro ⟨rfl, -, -⟩
            exact ⟨_, rfl⟩

/-- When and where an access token lets its holder in: the secret is usable, the token has not expired, and the
account is stored, of the kind the token names and verified where that is asked for. -/
structure Welcome (door : Doorway) (expiry : Nat) (userId : String) (guest : Bool) (store : AuthStore)
    (account : AccountDocument) : Prop where
  secret : ∀ secret, door.svc.env.JWT_SECRET = some secret → EcmaText.Trimmed secret
  fresh : door.now < expiry
  named : EcmaText.trim userId ≠ ""
  found : store.findUser (EcmaText.trim userId) = some account
  kind : guest = decide (account.isGuest = some true)
  verified : store.runtimeConfig.emailVerificationRequired = true → account.emailVerified = true

theorem secret_of_signed {env : TokenEnv} {jose : Jose} {userId : String} {verified : Bool}
    {options : SignAccessTokenOptions} {now : Nat} {access : String × Nat}
    (signed : signAccessToken jose env userId verified options now = .ok access) :
    ∃ secret, env.JWT_SECRET = some secret ∧ EcmaText.trim secret ≠ "" := by
  cases configured : env.JWT_SECRET with
  | none =>
    simp only [signAccessToken, secretKey, TokenEnv.trimmedSecret, configured] at signed
    cases signed
  | some secret =>
    refine ⟨secret, rfl, fun blank => ?_⟩
    simp only [signAccessToken, secretKey, TokenEnv.trimmedSecret, configured, Option.map_some, blank,
      Option.filter] at signed
    cases signed

/-- What a request makes of a signed token. -/
theorem resolveBearerAuth_signed (door : Doorway) (ideal : door.svc.jose.Ideal) {secret : String}
    (configured : door.svc.env.JWT_SECRET = some secret) (nonblank : EcmaText.trim secret ≠ "")
    (payload : JWTPayload) {userId : String} {exp : Nat} (subject : payload.sub = some userId)
    (expiry : payload.exp = some exp)
    (shown : c.token = some (door.svc.jose.sign "HS256" (encodeText (EcmaText.trim secret)) payload)) :
    resolveBearerAuth door c.headers =
      if EcmaText.Trimmed secret ∧ EcmaText.trim userId ≠ "" ∧ door.now < exp then
        some (.jwt
          { sub := EcmaText.trim userId
            guest := payload.guest = some true
            sourceDeviceId := (payload.sourceDeviceId.map EcmaText.trim).filter fun sdi => sdi ≠ "" })
      else none := by
  have given : door.svc.env.JWT_SECRET.getD "" ≠ "" := by
    rw [configured]
    rintro rfl
    exact nonblank EcmaText.trim_empty
  have trimmed := ideal.trimmed "HS256" (encodeText (EcmaText.trim secret)) payload
  rw [resolveBearerAuth_token shown, if_neg given, show EcmaText.trim (door.svc.jose.sign _ _ payload) = _ from trimmed,
    verifyAccessTokenJwt_signed ideal configured nonblank payload subject expiry door.now]
  split
  · rfl
  · rfl

/-- A signed access token lets its holder in at both doors exactly where it is welcome. -/
theorem signed_welcome (door : Doorway) (ideal : door.svc.jose.Ideal) {request : AuthRequest} {user : AccountDocument}
    {tokens : AuthTokens} (signed : Signed door.svc request user tokens) : ∃ guest : Bool,
      ∀ (production : Bool) (now : Nat) (c : Credentials) (place : TokenPlace) (store : AuthStore)
        (account : AccountDocument), c.token = some tokens.accessToken →
        (Admits ⟨door.svc, production, now⟩ c store account ↔
          Welcome ⟨door.svc, production, now⟩ (clock request + tokens.expiresIn) user.id guest store account) ∧
        (LetsIn ⟨door.svc, production, now⟩ c place store account ↔
          Welcome ⟨door.svc, production, now⟩ (clock request + tokens.expiresIn) user.id guest store account) := by
  obtain ⟨options, signed⟩ := signed
  obtain ⟨secret, configured, nonblank⟩ := secret_of_signed signed
  rw [signAccessToken_eq configured nonblank] at signed
  obtain ⟨token, lifetime⟩ := Prod.mk.inj (Except.ok.inj signed)
  let payload := accessPayload door.svc.env user.id user.emailVerified options (clock request)
  refine ⟨decide (payload.guest = some true), ?_⟩
  intro production now c place store account shown
  rw [← token] at shown
  rw [← lifetime]
  have resolved := resolveBearerAuth_signed ⟨door.svc, production, now⟩ ideal configured nonblank
    (accessPayload door.svc.env user.id user.emailVerified options (clock request)) rfl rfl shown
  have usable : ¬ BlankSecret door.svc.env := by
    rintro ⟨other, same, -, blank⟩
    rw [configured] at same
    cases same
    exact nonblank blank
  have alike : Matches (resolveBearerAuth ⟨door.svc, production, now⟩ c.headers)
      (resolveHandshakeAccessAuth ⟨door.svc, production, now⟩ (c.handshake place)) :=
    matches_iff.mpr fun differs => usable differs.1
  rw [letsIn_iff alike]
  refine (and_self_iff).mpr ?_
  split at resolved
  · rename_i valid
    obtain ⟨trimmed, named, fresh⟩ := valid
    rw [admits_iff resolved (by rw [ResolveBearerAuthResult.sub, EcmaText.trim_trim]; exact named)]
    simp only [ResolveBearerAuthResult.sub, EcmaText.trim_trim, ResolveBearerAuthResult.fits, decide_eq_true_eq]
    constructor
    · rintro ⟨found, kind, verified⟩
      refine ⟨fun other same => ?_, fresh, named, found, kind, verified⟩
      rw [configured] at same
      cases same
      exact trimmed
    · intro welcome
      exact ⟨welcome.found, welcome.kind, welcome.verified⟩
  · rename_i invalid
    constructor
    · intro admitted
      exact absurd admitted (not_admits resolved)
    · intro welcome
      exact absurd ⟨welcome.secret secret configured, welcome.named, welcome.fresh⟩ invalid

end Doors

section Runs

open Sample

/-- The sample deployment with tokens of another make. -/
def withTokens (jose : Jose) : AuthService := { service with jose := jose }

theorem drawnBefore_withTokens (jose : Jose) (store : AuthStore) (request : AuthRequest)
    (drawn : drawnBefore store request = true) : (sessionCalls (withTokens jose)).admits store request :=
  drawnBefore_sound store request drawn

def readable : AuthService := withTokens TokenPurposes.plainJose

/-- A sign-in and a refresh. -/
def refreshed : List SessionEvent := signIn ++ [refresh] ++ List.replicate 5 (.advance 1)

/-- The refresh has been answered tokens. -/
def tokensOf (entry : SessionCall) : Option AuthTokens :=
  match entry.rest with
  | .done (.ok reply) => reply
  | _ => none

theorem tokensOf_answered {entry : SessionCall} {tokens : AuthTokens} (answered : tokensOf entry = some tokens) :
    entry.rest = .done (.ok (some tokens)) := by
  obtain ⟨call, notes, rest⟩ := entry
  cases rest with
  | command c next => cases answered
  | done result =>
    cases result with
    | error e => cases answered
    | ok reply => exact congrArg (fun reply => Program.done (.ok reply)) answered

end Runs

end MessagingSystem.Guarantees.SessionOrigins
