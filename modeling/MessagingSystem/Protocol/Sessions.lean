import MessagingSystem.Foundation.LostReplies
import MessagingSystem.Source.Server.Auth

/-!
# Concurrent sessions

Sign-ins, refreshes, sign-outs, password resets and email verifications run
interleaved, one MongoDB or Redis command a step, and any command may fail, in
`lossySessionMachine` also with its reply lost. A refresh token may expire and a guest account be removed at any time. Nobody
presents a refresh token before it is drawn.
-/
namespace MessagingSystem.Protocol
open Foundation Source.Server

inductive AuthRequest where
  | login (email password : String) (sourceDeviceId : Nullable String) (now : Nat)
  | refresh (refreshToken : String) (sourceDeviceId : Nullable String) (now : Nat)
  | logout (refreshToken : String)
  | resetPassword (token password : String) (now : Nat)
  | verifyEmail (token ip : String) (now : Nat)
  /-- Redis drops a key whose TTL is over. -/
  | tokenExpires (hash : String)
  /-- The TTL index removes a guest. -/
  | userExpires (userId : String)

namespace AuthRequest

/-- The refresh token a request presents. -/
def presented : AuthRequest → Option String
  | .refresh raw .. => some raw
  | .logout raw => some raw
  | _ => none

def program (svc : AuthService) : AuthRequest → AuthProgram AuthReply
  | .login email password device now => postLogin svc email password device now
  | .refresh raw device now => postRefresh svc raw device now
  | .logout raw => postLogout svc raw
  | .resetPassword token password now => postResetPassword svc token password now
  | .verifyEmail token ip now => postVerifyEmail svc token ip now
  | .tokenExpires hash => do
      .perform (.revokeRefreshToken hash)
      pure none
  | .userExpires userId => do
      .perform (.removeUser userId)
      pure none

end AuthRequest

/-- What a request has been answered: the payload of the presented token, the
user record read last and how many were read, the refresh token it has created,
and whether it has revoked the presented one. -/
structure SessionNotes where
  payload : Option StoredRefreshPayload := none
  user : Option AccountDocument := none
  userReads : Nat := 0
  issued : Option String := none
  revoked : Bool := false

def SessionNotes.record : {β : Type} → SessionNotes → AuthCommand β → β → SessionNotes
  | _, n, .getRefreshPayload _, reply => { n with payload := reply }
  | _, n, .findUserByEmail _, reply => { n with user := reply, userReads := n.userReads + 1 }
  | _, n, .findUserById _, reply => { n with user := reply, userReads := n.userReads + 1 }
  | _, n, .createRefreshToken .., raw => { n with issued := some raw }
  | _, n, .revokeRefreshToken _, _ => { n with revoked := true }
  | _, n, _, _ => n

abbrev SessionPool := NotedPool AuthCommand AppError AuthReply AuthStore AuthRequest SessionNotes

abbrev SessionCall := NotedCall AuthCommand AppError AuthReply AuthRequest SessionNotes

abbrev SessionEvent := PoolEvent AuthRequest AppError

/-- The token will not be drawn from now on. -/
def NotFuture (svc : AuthService) (store : AuthStore) (raw : String) : Prop :=
  ∀ n, store.drawn ≤ n → svc.tokenHash (svc.randomToken n) ≠ svc.tokenHash raw

def sessionCalls (svc : AuthService) :
    NotedCalls AuthCommand AppError AuthReply AuthStore AuthRequest SessionNotes where
  program := AuthRequest.program svc
  blank := {}
  note := SessionNotes.record
  exec := AuthCommand.exec svc
  admits store request := ∀ raw, request.presented = some raw → NotFuture svc store raw
  mayFail _ := True

/-- Before the first session: no refresh token, and users with plain ids that a
unique index keeps apart. -/
structure FreshStart (store : AuthStore) : Prop where
  tokens : store.refreshTokens = ∅
  users : ∀ u ∈ store.users, EcmaText.Trimmed u.id
  unique : (store.users.map AccountDocument.id).Nodup

def sessionMachine (svc : AuthService) : Machine SessionPool SessionEvent :=
  (sessionCalls svc).machine FreshStart

abbrev SessionTransition := Transition SessionPool SessionEvent

/-- The same requests, where the reply of any command may get lost. -/
def lossySessionMachine (svc : AuthService) : Machine SessionPool (LossyEvent AuthRequest AppError) :=
  (sessionCalls svc).lossyMachine FreshStart

abbrev LossySessionTransition := Transition SessionPool (LossyEvent AuthRequest AppError)

/-- Two draws have different hashes. -/
def FreshTokens (svc : AuthService) : Prop :=
  ∀ m n, svc.tokenHash (svc.randomToken m) = svc.tokenHash (svc.randomToken n) → m = n

/-- The refresh token a refresh presents. -/
def refreshes : AuthRequest → Option String
  | .refresh raw .. => some raw
  | _ => none

theorem presented_of_refreshes {request : AuthRequest} {raw : String}
    (refresh : refreshes request = some raw) :
    request.presented = some raw ∧ ∃ device now, request = .refresh raw device now := by
  cases request with
  | refresh other device now =>
    cases refresh
    exact ⟨rfl, device, now, rfl⟩
  | _ => cases refresh

def Succeeded (entry : SessionCall) : Prop := ∃ reply, entry.rest = .done (.ok reply)

section Paths

/-- The refresh has looked for the user of the token in vain, or has found one
whose version is not that of the token. -/
def SessionNotes.Rejects (n : SessionNotes) : Prop :=
  ∃ stored, n.payload = some stored ∧
    ((n.user = none ∧ (0 < n.userReads ∨ EcmaText.trim stored.userId = "")) ∨
      ∃ user, n.user = some user ∧ user.version ≠ stored.v)

/-- The refresh found its user with the version of the token. -/
def SessionNotes.Matches (n : SessionNotes) : Prop :=
  ∃ user stored, n.user = some user ∧ n.payload = some stored ∧
    user.id = EcmaText.trim stored.userId ∧ user.version = stored.v

instance (n : SessionNotes) : Decidable n.Matches :=
  decidable_of_iff ((n.user.any fun user => n.payload.any fun stored =>
      decide (user.id = EcmaText.trim stored.userId ∧ user.version = stored.v)) = true) <| by
    simp only [Option.any_eq_true, decide_eq_true_eq, SessionNotes.Matches]
    constructor
    · rintro ⟨user, read, stored, found, named, version⟩
      exact ⟨user, stored, read, found, named, version⟩
    · rintro ⟨user, stored, read, found, named, version⟩
      exact ⟨user, read, stored, found, named, version⟩

/-- What a reply says whatever the store. -/
def sessionAnswers : {β : Type} → AuthCommand β → β → Prop
  | _, .findUserById id, found => ∀ user, found = some user → user.id = id
  | _, _, _ => True

/-- What holds before a command of a request: a token is created from the user
record read last, and a refresh revokes its own token, with a reason. -/
def beforeCommand (svc : AuthService) {β : Type} (request : AuthRequest) (n : SessionNotes)
    (c : AuthCommand β) : Prop :=
  n.revoked = false ∧
    match c with
    | .findUserByEmail _ => n.issued = none
    | .findUserById _ => n.issued = none
    | .getRefreshPayload hash =>
        n.payload = none ∧ ∃ raw, request.presented = some raw ∧ hash = svc.tokenHash raw
    | .createRefreshToken payload _ =>
        n.issued = none ∧ (∃ user, n.user = some user ∧ payload = ⟨user.id, user.version⟩) ∧
          ∀ raw device now, request = .refresh raw device now → n.payload.isSome = true
    | .revokeRefreshToken hash => ∀ raw, request.presented = some raw →
        hash = svc.tokenHash raw ∧
          ∀ raw device now, request = .refresh raw device now → n.Rejects ∨ n.Matches
    | _ => True

/-- What holds when a request has ended. -/
def afterRequest (request : AuthRequest) (n : SessionNotes) (result : Except AppError AuthReply) : Prop :=
  match request with
  | .refresh .. =>
      match result with
      | .ok _ => n.revoked = true ∧ n.issued.isSome = true ∧ n.Matches
      | .error _ => n.revoked = true → n.Rejects
  | .logout _ => ∀ reply, result = .ok reply → n.revoked = true
  | _ => True

/-- The commands whose answer is not noted. -/
def Unnoted {β : Type} : AuthCommand β → Prop
  | .getEffectiveRuntimeConfig => True
  | .findUserDeviceRow .. => True
  | .increment .. => True
  | .expire .. => True
  | _ => False

open Program

variable {svc : AuthService} {request : AuthRequest} {α : Type}

/-- The property of a part of a request's program, between its notes. -/
abbrev Path (svc : AuthService) (request : AuthRequest) {α : Type}
    (after : SessionNotes → Except AppError α → Prop) (n : SessionNotes) (p : AuthProgram α) : Prop :=
  Along SessionNotes.record sessionAnswers (fun n c => beforeCommand svc request n c) after n p

theorem path_unnoted {p : AuthProgram α} (unnoted : Forall Unnoted p) {n : SessionNotes}
    (live : n.revoked = false) : Path svc request (fun m _ => m = n) n p := by
  induction p with
  | done result => exact along_done.mpr rfl
  | command c next ih =>
    obtain ⟨here, rest⟩ := forall_command.mp unnoted
    refine along_command.mpr ⟨?_, fun reply _ => ?_⟩
    · cases c <;> first | exact ⟨live, trivial⟩ | exact here.elim
    · have same : n.record c reply = n := by
        cases c <;> first | rfl | exact here.elim
      rw [same]
      exact ih reply (rest reply)

theorem resolveSourceDeviceId_unnoted (userId : String) (raw : Nullable String) :
    Forall Unnoted (resolveSourceDeviceIdForAccessToken userId raw) := by
  unfold resolveSourceDeviceIdForAccessToken
  cases raw with
  | undefined => exact forall_pure _
  | null => exact forall_pure _
  | value s =>
    dsimp only
    refine forall_ite (forall_pure _) ?_
    exact .bind (forall_perform.mpr trivial) fun row => .bind (forall_require _ _) fun _ =>
      forall_pure _

theorem rateLimitExceeded_unnoted (key : String) (window max : Nat) :
    Forall Unnoted (rateLimitExceeded key window max) := by
  unfold rateLimitExceeded
  refine .bind (forall_perform.mpr trivial) fun n => forall_ite ?_ (forall_pure _)
  exact .bind (forall_perform.mpr trivial) fun _ => forall_pure _

theorem orThrow_unnoted (x : Except AppError α) : Forall Unnoted (orThrow x) := by
  cases x with
  | ok a => exact forall_pure a
  | error e => exact forall_fail e

/-- A part that notes nothing, and the rest. -/
theorem path_unnoted_bind {β : Type} {p : AuthProgram α} {f : α → AuthProgram β}
    {after : SessionNotes → Except AppError β → Prop} {n : SessionNotes}
    (unnoted : Forall Unnoted p) (live : n.revoked = false)
    (rest : ∀ a, Path svc request after n (f a)) (failed : ∀ e, after n (.error e)) :
    Path svc request after n (p >>= f) := by
  refine (path_unnoted unnoted live).bind (fun m a same => ?_) fun m e same => ?_
  · rw [same]
    exact rest a
  · rw [same]
    exact failed e

/-- A user lookup by id, and the rest. -/
theorem findAccountById_path {β : Type} {id : String} {f : Option AccountDocument → AuthProgram β}
    {after : SessionNotes → Except AppError β → Prop} {n : SessionNotes}
    (live : n.revoked = false) (unissued : n.issued = none)
    (missing : ∀ m : SessionNotes, m.payload = n.payload → m.revoked = false → m.issued = none →
      (m.user = none ∧ 0 < m.userReads ∨ m.user = n.user ∧ EcmaText.trim id = "") →
      Path svc request after m (f none))
    (found : ∀ m : SessionNotes, ∀ user, m.payload = n.payload → m.revoked = false →
      m.issued = none → m.user = some user → user.id = EcmaText.trim id →
      Path svc request after m (f (some user))) :
    Path svc request after n (findAccountById id >>= f) := by
  unfold findAccountById
  split
  · rename_i blank
    exact missing n rfl live unissued (.inr ⟨rfl, blank⟩)
  · refine along_perform_bind ⟨live, unissued⟩ fun reply answered => ?_
    cases reply with
    | none => exact missing _ rfl live unissued (.inl ⟨rfl, Nat.succ_pos _⟩)
    | some user => exact found _ user rfl live unissued rfl (answered user rfl)

/-- The creation of the tokens of the user read last, and the rest. -/
theorem issueAuthTokens_path {β : Type} {user : AccountDocument} {guest : Bool}
    {device : Option String} {now : Nat} {f : AuthTokens → AuthProgram β}
    {after : SessionNotes → Except AppError β → Prop} {n : SessionNotes}
    (live : n.revoked = false) (unissued : n.issued = none) (read : n.user = some user)
    (known : ∀ raw device now, request = .refresh raw device now → n.payload.isSome = true)
    (rest : ∀ tokens raw, Path svc request after { n with issued := some raw } (f tokens))
    (failed : ∀ e, after n (.error e)) :
    Path svc request after n (issueAuthTokens svc user guest device now >>= f) := by
  unfold issueAuthTokens
  dsimp only
  cases signAccessToken svc.jose svc.env user.id user.emailVerified _ now with
  | error e => exact along_fail (failed e)
  | ok access =>
    refine along_perform_bind ⟨live, unissued, ⟨user, read, rfl⟩, known⟩ fun raw _ => ?_
    exact rest _ raw

/-- A blank error leaves nothing to say about a request that has revoked nothing. -/
theorem afterRequest_error {n : SessionNotes} (live : n.revoked = false) (e : AppError) :
    afterRequest request n (.error e) := by
  cases request with
  | refresh raw device now =>
    intro revoked
    rw [live] at revoked
    cases revoked
  | logout raw =>
    intro reply same
    cases same
  | _ => exact trivial

theorem postLogin_path (email password : String) (device : Nullable String) (now : Nat) :
    Path svc (.login email password device now) (afterRequest (.login email password device now)) {}
      (postLogin svc email password device now) := by
  unfold postLogin requireJwtForAuth findAccountByEmail
  refine along_require_bind (fun _ => ?_) fun _ => trivial
  refine along_perform_bind ⟨rfl, rfl⟩ fun found _ => ?_
  refine along_orFail_bind (fun user known => ?_) fun _ => trivial
  obtain ⟨read, -⟩ := Option.filter_eq_some_iff.mp known
  refine along_require_bind (fun _ => ?_) fun _ => trivial
  refine path_unnoted_bind (resolveSourceDeviceId_unnoted user.id device) rfl (fun bound => ?_)
    fun _ => trivial
  exact issueAuthTokens_path rfl rfl read (fun _ _ _ different => by cases different)
    (fun tokens raw => along_pure trivial) fun _ => trivial

theorem revokeAndReject_path {raw : String} {device : Nullable String} {now : Nat} {e : AppError}
    {n : SessionNotes} (live : n.revoked = false) (rejects : n.Rejects) :
    Path svc (.refresh raw device now) (afterRequest (.refresh raw device now)) n
      (revokeAndReject svc raw e) := by
  refine along_perform_bind ⟨live, fun raw' same => ?_⟩ fun _ _ => along_fail fun _ => rejects
  cases same
  exact ⟨rfl, fun _ _ _ _ => .inl rejects⟩

theorem rotateRefreshToken_path {raw : String} {device : Nullable String} {now : Nat}
    {user : AccountDocument} {n : SessionNotes} (live : n.revoked = false)
    (unissued : n.issued = none) (read : n.user = some user) (matching : n.Matches) :
    Path svc (.refresh raw device now) (afterRequest (.refresh raw device now)) n
      (rotateRefreshToken svc raw user device now) := by
  unfold rotateRefreshToken
  refine along_perform_bind ⟨live, trivial⟩ fun cfg _ => ?_
  refine along_require_bind (fun _ => ?_) fun _ => afterRequest_error live _
  refine path_unnoted_bind (resolveSourceDeviceId_unnoted user.id device) live (fun bound => ?_)
    (afterRequest_error live)
  have known : n.payload.isSome = true := by
    obtain ⟨_, stored, -, found, -⟩ := matching
    rw [found]
    rfl
  refine issueAuthTokens_path live unissued read (fun _ _ _ _ => known) (fun tokens created => ?_)
    (afterRequest_error live)
  refine along_perform_bind ⟨live, fun raw' same => ?_⟩ fun _ _ => along_pure ⟨rfl, rfl, matching⟩
  cases same
  exact ⟨rfl, fun _ _ _ _ => .inr matching⟩

theorem postRefresh_path (raw : String) (device : Nullable String) (now : Nat) :
    Path svc (.refresh raw device now) (afterRequest (.refresh raw device now)) {}
      (postRefresh svc raw device now) := by
  unfold postRefresh requireJwtForAuth getRefreshPayload
  refine along_require_bind (fun _ => ?_) fun _ => afterRequest_error rfl _
  refine along_perform_bind ⟨rfl, rfl, raw, rfl, rfl⟩ fun payload _ => ?_
  cases payload with
  | none => exact along_fail (afterRequest_error rfl _)
  | some stored =>
    refine findAccountById_path rfl rfl (fun m kept live _ missing => ?_)
      fun m user kept live unissued read named => ?_
    · exact revokeAndReject_path live ⟨stored, kept, .inl (by
        rcases missing with ⟨gone, read⟩ | ⟨gone, blank⟩
        · exact ⟨gone, .inl read⟩
        · exact ⟨gone, .inr blank⟩)⟩
    · by_cases same : user.version = stored.v
      · dsimp only
        rw [if_neg (not_not.mpr same)]
        exact rotateRefreshToken_path live unissued read ⟨user, stored, read, kept, named, same⟩
      · dsimp only
        rw [if_pos same]
        exact revokeAndReject_path live ⟨stored, kept, .inr ⟨user, read, same⟩⟩

theorem postLogout_path (raw : String) :
    Path svc (.logout raw) (afterRequest (.logout raw)) {} (postLogout svc raw) := by
  unfold postLogout requireJwtForAuth revokeRefreshToken
  refine along_require_bind (fun _ => ?_) fun _ => afterRequest_error rfl _
  refine along_perform_bind ⟨rfl, fun raw' same => ?_⟩ fun _ _ => along_pure fun _ _ => rfl
  cases same
  exact ⟨rfl, fun _ _ _ different => by cases different⟩

theorem postResetPassword_path (token password : String) (now : Nat) :
    Path svc (.resetPassword token password now) (afterRequest (.resetPassword token password now)) {}
      (postResetPassword svc token password now) := by
  unfold postResetPassword requireJwtForAuth
  refine along_require_bind (fun _ => ?_) fun _ => trivial
  refine path_unnoted_bind (orThrow_unnoted _) rfl (fun claims => ?_) fun _ => trivial
  refine findAccountById_path rfl rfl (fun m _ _ _ _ => along_fail trivial)
    fun m user _ live _ _ _ => ?_
  refine along_orFail_bind (fun account _ => ?_) fun _ => trivial
  refine along_require_bind (fun _ => ?_) fun _ => trivial
  refine along_perform_bind ⟨live, trivial⟩ fun ok _ => ?_
  exact along_require_bind (fun _ => along_pure trivial) fun _ => trivial

theorem verifiedTokens_path {token ip : String} {now : Nat} {user : AccountDocument}
    {n : SessionNotes} (live : n.revoked = false) (unissued : n.issued = none)
    (read : n.user = some user) :
    Path svc (.verifyEmail token ip now) (afterRequest (.verifyEmail token ip now)) n
      (verifiedTokens svc user now) := by
  unfold verifiedTokens
  split
  · exact issueAuthTokens_path live unissued read (fun _ _ _ different => by cases different)
      (fun _ _ => along_pure trivial) fun _ => trivial
  · refine along_perform_bind ⟨live, trivial⟩ fun marked _ => ?_
    refine findAccountById_path live unissued (fun m _ _ _ _ => along_fail trivial)
      fun m updated _ live unissued read _ => ?_
    exact issueAuthTokens_path live unissued read (fun _ _ _ different => by cases different)
      (fun _ _ => along_pure trivial) fun _ => trivial

theorem postVerifyEmail_path (token ip : String) (now : Nat) :
    Path svc (.verifyEmail token ip now) (afterRequest (.verifyEmail token ip now)) {}
      (postVerifyEmail svc token ip now) := by
  unfold postVerifyEmail requireJwtForAuth
  refine along_require_bind (fun _ => ?_) fun _ => trivial
  refine along_perform_bind ⟨rfl, trivial⟩ fun cfg _ => ?_
  refine along_require_bind (fun _ => ?_) fun _ => trivial
  refine path_unnoted_bind (rateLimitExceeded_unnoted _ _ _) rfl (fun limited => ?_) fun _ => trivial
  refine along_require_bind (fun _ => ?_) fun _ => trivial
  refine path_unnoted_bind (orThrow_unnoted _) rfl (fun claims => ?_) fun _ => trivial
  refine findAccountById_path rfl rfl (fun m _ _ _ _ => along_fail trivial)
    fun m user _ live unissued read _ => ?_
  refine along_require_bind (fun _ => ?_) fun _ => trivial
  refine along_require_bind (fun _ => ?_) fun _ => trivial
  exact verifiedTokens_path live unissued read

/-- Every request begins on its path. -/
theorem request_path (svc : AuthService) (request : AuthRequest) :
    Path svc request (afterRequest request) {} (request.program svc) := by
  cases request with
  | login email password device now => exact postLogin_path email password device now
  | refresh raw device now => exact postRefresh_path raw device now
  | logout raw => exact postLogout_path raw
  | resetPassword token password now => exact postResetPassword_path token password now
  | verifyEmail token ip now => exact postVerifyEmail_path token ip now
  | tokenExpires hash =>
    exact along_perform_bind ⟨rfl, fun raw same => by cases same⟩ fun _ _ => along_pure trivial
  | userExpires userId => exact along_perform_bind ⟨rfl, trivial⟩ fun _ _ => along_pure trivial

end Paths

section Store

variable {svc : AuthService} {β : Type}

/-- The refresh token a command revokes. -/
def revokes : {β : Type} → AuthCommand β → Option String
  | _, .revokeRefreshToken hash => some hash
  | _, _ => none

theorem exec_answers (svc : AuthService) (c : AuthCommand β) (store : AuthStore) :
    sessionAnswers c (c.exec svc store).1 := by
  cases c with
  | findUserById id =>
    intro user found
    simpa using List.find?_some found
  | _ => exact trivial

theorem exec_drawn (c : AuthCommand β) (store : AuthStore) :
    store.drawn ≤ (c.exec svc store).2.drawn := by
  cases c with
  | createRefreshToken payload ttl => exact Nat.le_succ _
  | _ => exact Nat.le_refl _

theorem NotFuture.exec {store : AuthStore} {raw : String} (known : NotFuture svc store raw)
    (c : AuthCommand β) : NotFuture svc (c.exec svc store).2 raw :=
  fun n later => known n (Nat.le_trans (exec_drawn c store) later)

/-- A token that is not yet to come is only ever revoked. -/
theorem exec_presented {store : AuthStore} {raw : String} (known : NotFuture svc store raw)
    (c : AuthCommand β) :
    (c.exec svc store).2.refreshTokens.get (svc.tokenHash raw) =
        store.refreshTokens.get (svc.tokenHash raw) ∨
      revokes c = some (svc.tokenHash raw) ∧
        (c.exec svc store).2.refreshTokens.get (svc.tokenHash raw) = none := by
  cases c with
  | createRefreshToken payload ttl =>
    exact .inl (Record.get_set_of_ne _ _ (known store.drawn (Nat.le_refl _)).symm)
  | revokeRefreshToken hash =>
    by_cases same : svc.tokenHash raw = hash
    · subst same
      exact .inr ⟨rfl, Record.get_delete_self _ _⟩
    · exact .inl (Record.get_delete_of_ne _ same)
  | _ => exact .inl rfl

/-- A revoked token stays revoked. -/
theorem exec_absent {store : AuthStore} {raw : String} (known : NotFuture svc store raw)
    (absent : store.refreshTokens.get (svc.tokenHash raw) = none) (c : AuthCommand β) :
    (c.exec svc store).2.refreshTokens.get (svc.tokenHash raw) = none := by
  rcases exec_presented known c with same | ⟨-, gone⟩
  · rw [same]
    exact absent
  · exact gone

end Store

section States

variable {svc : AuthService} {s t : SessionPool} {event : SessionEvent}

/-- What holds of every state reached. -/
structure SessionState (svc : AuthService) (s : SessionPool) : Prop where
  paths : (sessionCalls svc).AllAlong sessionAnswers (beforeCommand svc) afterRequest s
  presented : ∀ entry ∈ s.calls, ∀ raw, entry.call.presented = some raw → NotFuture svc s.store raw
  revoked : ∀ entry ∈ s.calls, entry.notes.revoked = true → ∀ raw,
    entry.call.presented = some raw → s.store.refreshTokens.get (svc.tokenHash raw) = none

theorem SessionState.initial (init : (sessionMachine svc).init s) : SessionState svc s := by
  have none : ∀ entry, entry ∉ s.calls := by simp [init.1]
  exact ⟨fun entry member => absurd member (none entry),
    fun entry member => absurd member (none entry), fun entry member => absurd member (none entry)⟩

/-- What holds before the next command of a call. -/
theorem SessionState.before (inv : SessionState svc s) {index : Nat} {request : AuthRequest}
    {n : SessionNotes} {β : Type} {c : AuthCommand β} {next : β → AuthProgram AuthReply}
    (running : s.calls[index]? = some ⟨request, n, .command c next⟩) :
    beforeCommand svc request n c :=
  (Program.along_command.mp (inv.paths _ (List.mem_of_getElem? running))).1

/-- What holds of a call that has ended. -/
theorem SessionState.after (inv : SessionState svc s) {entry : SessionCall}
    (member : entry ∈ s.calls) {result : Except AppError AuthReply}
    (ended : entry.rest = .done result) : afterRequest entry.call entry.notes result := by
  have path := inv.paths entry member
  rw [ended] at path
  exact Program.along_done.mp path

theorem record_revoked {β : Type} {n : SessionNotes} {c : AuthCommand β} {reply : β}
    (live : n.revoked = false) (revoked : (n.record c reply).revoked = true) :
    ∃ hash, revokes c = some hash := by
  cases c with
  | revokeRefreshToken hash => exact ⟨hash, rfl⟩
  | _ => exact absurd (live.symm.trans revoked) Bool.false_ne_true

theorem SessionState.preserved (s : SessionPool) (event : SessionEvent) (t : SessionPool)
    (inv : SessionState svc s) (taken : (sessionMachine svc).step s event t) : SessionState svc t := by
  refine ⟨?_, ?_, ?_⟩
  · exact inv.paths.preserved (fun c store => exec_answers svc c store) (request_path svc)
      (fun request n c e before _ => afterRequest_error before.1 e) taken
  · cases taken with
    | takeUp request admitted =>
      intro entry member
      rcases List.mem_append.mp member with old | new
      · exact inv.presented entry old
      · obtain rfl := List.mem_singleton.mp new
        exact admitted
    | advance index request n c next running =>
      intro entry member raw named
      rcases List.mem_or_eq_of_mem_set member with old | rfl
      · exact (inv.presented entry old raw named).exec c
      · exact (inv.presented _ (List.mem_of_getElem? running) raw named).exec c
    | abort index request n c next e fails running =>
      intro entry member raw named
      rcases List.mem_or_eq_of_mem_set member with old | rfl
      · exact inv.presented entry old raw named
      · exact inv.presented _ (List.mem_of_getElem? running) raw named
  · cases taken with
    | takeUp request admitted =>
      intro entry member revoked
      rcases List.mem_append.mp member with old | new
      · exact inv.revoked entry old revoked
      · obtain rfl := List.mem_singleton.mp new
        cases revoked
    | advance index request n c next running =>
      intro entry member revoked raw named
      rcases List.mem_or_eq_of_mem_set member with old | rfl
      · exact exec_absent (inv.presented entry old raw named) (inv.revoked entry old revoked raw named) c
      · have before := inv.before running
        obtain ⟨hash, same⟩ := record_revoked before.1 revoked
        cases c with
        | revokeRefreshToken hash =>
          rw [(before.2 raw named).1]
          exact Record.get_delete_self _ _
        | _ => cases same
    | abort index request n c next e fails running =>
      intro entry member revoked raw named
      rcases List.mem_or_eq_of_mem_set member with old | rfl
      · exact inv.revoked entry old revoked raw named
      · exact absurd ((inv.before running).1.symm.trans revoked) Bool.false_ne_true

end States

/-!
## A deployment for runs

Hashes and draws are plain, and `jose` knows one access token and one mail token.
-/
namespace Sample

theorem lifetime_positive : 0 < 900 := by decide

def env : TokenEnv where
  JWT_SECRET := some "test-secret"
  ACCESS_TOKEN_TTL_SECONDS := 900
  GUEST_ACCESS_TOKEN_TTL_SECONDS := 900
  EMAIL_VERIFICATION_TOKEN_TTL_HOURS := 900
  PASSWORD_RESET_TOKEN_TTL_HOURS := 900
  accessPositive := lifetime_positive
  guestPositive := lifetime_positive
  verificationPositive := lifetime_positive
  resetPositive := lifetime_positive

/-- The `n`th token. -/
def token (n : Nat) : String := String.ofList (List.replicate n 't')

def service : AuthService where
  jose := ⟨fun _ _ _ => "access.token", fun token _ _ _ =>
    if token = "reset.token" then
      some
        { sub := some "alice"
          iss := some ISSUER
          purpose := some MailToken.passwordReset.purpose
          email := some "alice@example.org" }
    else none⟩
  env := env
  tokenHash raw := raw
  randomToken := token
  verifyPassword passwordHash plain := decide (passwordHash = plain)
  hashPassword plain := plain
  toLowerCase text := text
  REFRESH_TOKEN_TTL_SECONDS := 86400
  GUEST_REFRESH_TOKEN_TTL_SECONDS := 3600
  VERIFY_EMAIL_RATE_LIMIT_WINDOW_SEC := 60
  VERIFY_EMAIL_RATE_LIMIT_MAX := 5

def alice : AccountDocument where
  id := "alice"
  email := some "alice@example.org"
  passwordHash := "secret"
  emailVerified := true
  isGuest := none
  refreshTokenVersion := none

def signedOut : SessionPool := ⟨{ users := [alice] }, []⟩

theorem signedOut_init : (sessionMachine service).init signedOut := by
  refine ⟨rfl, rfl, fun u member => ?_, List.nodup_singleton _⟩
  obtain rfl := List.mem_singleton.mp member
  decide

/-- The presented token is one drawn before. -/
def drawnBefore (store : AuthStore) (request : AuthRequest) : Bool :=
  request.presented.all fun raw => decide (raw.length < store.drawn)

@[simp] theorem token_length (n : Nat) : (token n).length = n := by simp [token]

theorem drawnBefore_sound (store : AuthStore) (request : AuthRequest)
    (drawn : drawnBefore store request = true) : (sessionCalls service).admits store request := by
  intro raw presented n later same
  simp only [drawnBefore, presented, Option.all_some, decide_eq_true_eq] at drawn
  have length := congrArg String.length (show token n = raw from same)
  rw [token_length] at length
  omega

theorem service_fresh : FreshTokens service := by
  intro m n same
  simpa using congrArg String.length (show token m = token n from same)

def signIn : List SessionEvent :=
  [.takeUp (.login "alice@example.org" "secret" .undefined 0), .advance 0, .advance 0]

def refresh : SessionEvent := .takeUp (.refresh (token 0) .undefined 1)

def succeeded (entry : SessionCall) : Bool :=
  match entry.rest with
  | .done (.ok _) => true
  | _ => false

theorem succeeded_sound {entry : SessionCall} (ok : succeeded entry = true) : Succeeded entry := by
  obtain ⟨call, notes, rest⟩ := entry
  cases rest with
  | command c next => cases ok
  | done result =>
    cases result with
    | error e => cases ok
    | ok reply => exact ⟨reply, rfl⟩

end Sample

end MessagingSystem.Protocol
