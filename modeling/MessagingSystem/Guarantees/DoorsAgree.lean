import MessagingSystem.Source.Server.Admission

/-!
# Requests and sockets are let in alike

A client shows the same token and user id at either door. Both ask the store the same
questions and judge the answers alike, wherever the handshake has the token, unless the
secret is configured as white space: then a socket of a development server is let in on
the user id alone.
-/
namespace MessagingSystem.Guarantees.DoorsAgree
open Foundation Source.Server

/-- What a client shows. A token that is blank is not sent. -/
structure Credentials where
  token : Option String
  userId : Option String
  proper : ∀ t, token = some t → EcmaText.trim t ≠ ""

/-- Where a handshake may have the token. -/
inductive TokenPlace where
  | token | accessToken | authorization | header
  deriving DecidableEq

namespace Credentials

def header (c : Credentials) : Option String := c.token.map fun t => "Bearer " ++ t

def headers (c : Credentials) : RequestHeaders := { authorization := c.header, xUserId := c.userId }

/-- The members of `handshake.auth` that hold the token. -/
def tokenMembers (c : Credentials) : TokenPlace → List (String × Json)
  | .token => c.token.toList.map fun t => ("token", .string t)
  | .accessToken => c.token.toList.map fun t => ("accessToken", .string t)
  | .authorization => c.header.toList.map fun value => ("authorization", .string value)
  | .header => []

def handshake (c : Credentials) (place : TokenPlace) : SocketHandshake where
  auth := some (.object (c.userId.toList.map (fun id => ("userId", .string id)) ++ c.tokenMembers place))
  authorization := if place = .header then c.header else none

end Credentials

/-- The secret is configured, but as white space. -/
def BlankSecret (env : TokenEnv) : Prop :=
  ∃ secret, env.JWT_SECRET = some secret ∧ secret ≠ "" ∧ EcmaText.trim secret = ""

/-- How a request was received, in the words of the other door. -/
def verdict : Except AppError AuthenticatedRequestContext → Except AppError ResolvedSocketAuth
  | .ok ctx => .ok (.ok ctx.user)
  | .error e => .ok (if e = emailNotVerified then .emailNotVerified else .unauthenticated)

/-- The program of a request with its verdict. -/
def received : AuthProgram AuthenticatedRequestContext → AuthProgram ResolvedSocketAuth
  | .done result => .done (verdict result)
  | .command command next => .command command fun reply => received (next reply)

section Texts

theorem rdropWhile_append {p : Char → Bool} (xs : List Char) {ys : List Char} (some' : ys.rdropWhile p ≠ []) :
    (xs ++ ys).rdropWhile p = xs ++ ys.rdropWhile p := by
  have nonempty : (ys.reverse.dropWhile p).isEmpty = false := by
    simpa [List.rdropWhile, List.isEmpty_eq_false_iff] using some'
  unfold List.rdropWhile
  rw [List.reverse_append, List.dropWhile_append, nonempty]
  simp

/-- White space at the end can go first. -/
theorem trimChars_rdropWhile (cs : List Char) :
    EcmaText.trimChars (cs.rdropWhile EcmaText.isSpace) = EcmaText.trimChars cs := by
  unfold EcmaText.trimChars
  by_cases blank : cs.dropWhile EcmaText.isSpace = []
  · have spaces : cs.rdropWhile EcmaText.isSpace = [] :=
      List.rdropWhile_eq_nil_iff.mpr fun c member => List.dropWhile_eq_nil_iff.mp blank c member
    rw [spaces, blank]
    rfl
  · have front := List.head_dropWhile_not EcmaText.isSpace (l := cs) blank
    have kept : (cs.dropWhile EcmaText.isSpace).rdropWhile EcmaText.isSpace ≠ [] := by
      intro empty
      have space := List.rdropWhile_eq_nil_iff.mp empty _ (List.head_mem blank)
      rw [space] at front
      cases front
    have split : cs.rdropWhile EcmaText.isSpace = cs.takeWhile EcmaText.isSpace ++
        (cs.dropWhile EcmaText.isSpace).rdropWhile EcmaText.isSpace := by
      rw [← rdropWhile_append _ kept, List.takeWhile_append_dropWhile]
    rw [split, List.dropWhile_append_of_pos fun c member => List.mem_takeWhile_imp member]
    have again := EcmaText.trimChars_trimChars cs
    unfold EcmaText.trimChars at again
    exact again

theorem bearerToken_append (t : String) : bearerToken ("Bearer " ++ t) = some (EcmaText.trim t) := by
  unfold bearerToken
  rw [EcmaText.startsWith_append, EcmaText.dropStart_append, if_pos rfl]

/-- The token stands behind `Bearer ` also once the member has been trimmed. -/
theorem bearerToken_trim {t : String} (nonblank : EcmaText.trim t ≠ "") :
    bearerToken (EcmaText.trim ("Bearer " ++ t)) = some (EcmaText.trim t) := by
  have kept : t.toList.rdropWhile EcmaText.isSpace ≠ [] := by
    intro empty
    have trimmed := trimChars_rdropWhile t.toList
    rw [empty] at trimmed
    apply nonblank
    unfold EcmaText.trim
    rw [← trimmed]
    decide
  have text : EcmaText.trim ("Bearer " ++ t) =
      "Bearer " ++ String.ofList (t.toList.rdropWhile EcmaText.isSpace) := by
    have front : ("Bearer ".toList ++ t.toList).dropWhile EcmaText.isSpace = "Bearer ".toList ++ t.toList := by
      simp [EcmaText.isSpace]
    unfold EcmaText.trim EcmaText.trimChars
    rw [String.toList_append, front, rdropWhile_append _ kept, String.ofList_append, String.ofList_toList]
  have same : EcmaText.trim (String.ofList (t.toList.rdropWhile EcmaText.isSpace)) = EcmaText.trim t := by
    unfold EcmaText.trim
    rw [String.toList_ofList, trimChars_rdropWhile]
  rw [text, bearerToken_append, same]

end Texts

section Shown

variable {c : Credentials} {place : TokenPlace}

/-- The members beside the user id, when `auth` is asked for another one. -/
theorem member_beside_userId (userId : Option String) (members : List (String × Json)) {name : String}
    (other : name ≠ "userId") :
    Json.member (userId.toList.map (fun id => ("userId", Json.string id)) ++ members) name =
      Json.member members name := by
  cases userId with
  | none => rfl
  | some id => simp [Json.member, other.symm]

theorem readUserId_handshake : readUserIdFromHandshakeAuth (c.handshake place).auth = c.userId.bind nonBlank := by
  obtain ⟨token, userId, proper⟩ := c
  cases userId with
  | some id => simp [readUserIdFromHandshakeAuth, Credentials.handshake, Json.asObject]
  | none =>
    cases token with
    | none => cases place <;> rfl
    | some t => cases place <;> rfl

/-- The handshake names the token, wherever it has it. -/
theorem handshakeToken_handshake : handshakeToken (c.handshake place) = c.token.map EcmaText.trim := by
  obtain ⟨token, userId, proper⟩ := c
  have asked : ∀ name, name ≠ "userId" → ∀ members, Json.member
      (userId.toList.map (fun id => ("userId", Json.string id)) ++ members) name = Json.member members name :=
    fun name other members => member_beside_userId userId members other
  unfold handshakeToken authToken
  simp only [Credentials.handshake, Json.asObject, asked "token" (by decide), asked "accessToken" (by decide),
    asked "authorization" (by decide)]
  cases token with
  | none => cases place <;> rfl
  | some t =>
    have nonblank := proper t rfl
    cases place with
    | token => simp [Credentials.tokenMembers, nonblank]
    | accessToken => simp [Credentials.tokenMembers, Json.member, nonblank]
    | authorization =>
      simp [Credentials.tokenMembers, Credentials.header, Json.member, bearerToken_trim nonblank, nonblank]
    | header => simp [Credentials.tokenMembers, Credentials.header, Json.member, bearerToken_append]

theorem headerToken : c.header.bind bearerToken = c.token.map EcmaText.trim := by
  unfold Credentials.header
  cases c.token with
  | none => rfl
  | some t => exact bearerToken_append t

end Shown

section Doors

variable {door : Doorway} {c : Credentials} {place : TokenPlace}

/-- What the two doors make of what is shown. -/
def Matches : Option ResolveBearerAuthResult → Option SocketHandshakeAuth → Prop
  | none, none => True
  | some (.jwt verified), some (.jwt sub guest) => verified.sub = sub ∧ verified.guest = guest
  | some (.dev sub _), some (.dev sub') => sub = sub'
  | _, _ => False

/-- Without a token both doors take a user id at its word, in development only. -/
theorem matches_dev : Matches (resolveDevHeaders door c.headers) (resolveDevHandshake door (c.handshake place)) := by
  unfold resolveDevHeaders resolveDevHandshake
  rw [readUserId_handshake]
  cases door.production with
  | true => exact trivial
  | false =>
    show Matches ((c.userId.bind nonBlank).map _) ((c.userId.bind nonBlank).map _)
    cases c.userId.bind nonBlank with
    | none => exact trivial
    | some sub => exact rfl

/-- The secret is missing, blank or usable, and the doors take the middle case differently. -/
theorem secret_cases (env : TokenEnv) :
    (env.JWT_SECRET.getD "" = "" ∧ env.trimmedSecret = none ∧ ¬ BlankSecret env) ∨
    (env.JWT_SECRET.getD "" ≠ "" ∧ env.trimmedSecret = none ∧ BlankSecret env) ∨
    (env.JWT_SECRET.getD "" ≠ "" ∧ env.trimmedSecret ≠ none ∧ ¬ BlankSecret env) := by
  unfold TokenEnv.trimmedSecret BlankSecret
  cases env.JWT_SECRET with
  | none => simp
  | some secret =>
    by_cases empty : secret = ""
    · simp [empty]
    · by_cases blank : EcmaText.trim secret = ""
      · simp [empty, blank]
      · simp [empty, blank]

theorem verify_of_blank (blank : BlankSecret door.svc.env) (token : String) :
    verifyAccessTokenJwt door.svc.jose door.svc.env token door.now = none := by
  obtain ⟨secret, configured, -, space⟩ := blank
  unfold verifyAccessTokenJwt
  rw [configured]
  exact if_pos space

/-- With a token both doors go by the secret. -/
theorem resolveBearerAuth_token {t : String} (shown : c.token = some t) :
    resolveBearerAuth door c.headers =
      if door.svc.env.JWT_SECRET.getD "" = "" then resolveDevHeaders door c.headers
      else (verifyAccessTokenJwt door.svc.jose door.svc.env (EcmaText.trim t) door.now).map .jwt := by
  have named : c.headers.authorization.bind bearerToken = some (EcmaText.trim t) := by
    rw [show c.headers.authorization = c.header from rfl, headerToken, shown]
    rfl
  unfold resolveBearerAuth
  rw [named]
  dsimp only
  rw [if_neg (c.proper t shown)]

theorem resolveHandshakeAccessAuth_token {t : String} (shown : c.token = some t) :
    resolveHandshakeAccessAuth door (c.handshake place) =
      if door.svc.env.trimmedSecret = none then resolveDevHandshake door (c.handshake place)
      else (verifyAccessTokenJwt door.svc.jose door.svc.env (EcmaText.trim t) door.now).map
        fun verified => .jwt verified.sub verified.guest := by
  have named : handshakeToken (c.handshake place) = some (EcmaText.trim t) := by
    rw [handshakeToken_handshake, shown]
    rfl
  unfold resolveHandshakeAccessAuth
  rw [named]
  simp only [c.proper t shown, false_or]

theorem resolveDevHandshake_eq_none : resolveDevHandshake door (c.handshake place) = none ↔
    ¬ (door.production = false ∧ (c.userId.bind nonBlank).isSome = true) := by
  unfold resolveDevHandshake
  rw [readUserId_handshake]
  cases door.production with
  | true => simp
  | false => simp [Option.isSome_iff_ne_none]

/-- The doors differ exactly for a token under a blank secret, with a user id in development. -/
theorem matches_iff : Matches (resolveBearerAuth door c.headers) (resolveHandshakeAccessAuth door (c.handshake place)) ↔
    ¬ (BlankSecret door.svc.env ∧ c.token.isSome = true ∧ door.production = false ∧
      (c.userId.bind nonBlank).isSome = true) := by
  cases shown : c.token with
  | none =>
    have request : resolveBearerAuth door c.headers = resolveDevHeaders door c.headers := by
      unfold resolveBearerAuth
      rw [show c.headers.authorization = c.header from rfl, headerToken, shown]
      rfl
    have socket : resolveHandshakeAccessAuth door (c.handshake place) =
        resolveDevHandshake door (c.handshake place) := by
      unfold resolveHandshakeAccessAuth
      rw [handshakeToken_handshake, shown]
      rfl
    rw [request, socket]
    simp [matches_dev]
  | some t =>
    rw [resolveBearerAuth_token shown, resolveHandshakeAccessAuth_token shown]
    rcases secret_cases door.svc.env with ⟨empty, unusable, proper⟩ | ⟨given, unusable, blank⟩ | ⟨given, usable, proper⟩
    · rw [if_pos empty, if_pos unusable]
      simp [matches_dev, proper]
    · rw [if_neg given, if_pos unusable, verify_of_blank blank]
      have differs : Matches none (resolveDevHandshake door (c.handshake place)) ↔
          resolveDevHandshake door (c.handshake place) = none := by
        cases resolveDevHandshake door (c.handshake place) with
        | none => simp [Matches]
        | some auth => simp [Matches]
      rw [Option.map_none, differs, resolveDevHandshake_eq_none]
      simp [blank]
    · rw [if_neg given, if_neg usable]
      have same : Matches ((verifyAccessTokenJwt door.svc.jose door.svc.env (EcmaText.trim t) door.now).map .jwt)
          ((verifyAccessTokenJwt door.svc.jose door.svc.env (EcmaText.trim t) door.now).map
            fun verified => .jwt verified.sub verified.guest) := by
        cases verifyAccessTokenJwt door.svc.jose door.svc.env (EcmaText.trim t) door.now with
        | none => exact trivial
        | some verified => exact ⟨rfl, rfl⟩
      simp [same, proper]

theorem verdict_unauthorized (message : String) : verdict (.error (unauthorized message)) = .ok .unauthenticated := by
  simp [verdict, unauthorized, emailNotVerified]

/-- The last check, of an account that is refused or not. -/
theorem received_checked (user : AccountDocument) (sourceDeviceId : Option String) (refused : Bool) :
    received (do
      .require (!refused) emailNotVerified
      pure ⟨user, sourceDeviceId⟩) = if refused then pure .emailNotVerified else pure (.ok user) := by
  cases refused with
  | false => rfl
  | true => exact congrArg Program.done (by simp [verdict])

/-- What a request does with the account it has found. -/
def admitRequest (fits : AccountDocument → Bool) (sourceDeviceId : Option String) (found : Option AccountDocument) :
    AuthProgram AuthenticatedRequestContext := do
  let user ← .orFail found (unauthorized "User not found")
  .require (fits user) (unauthorized "Access token does not match this user")
  let cfg ← .perform .getEffectiveRuntimeConfig
  .require (!(cfg.emailVerificationRequired && !user.emailVerified)) emailNotVerified
  pure ⟨user, sourceDeviceId⟩

/-- What a socket does with it. -/
def admitSocket (fits : AccountDocument → Bool) : Option AccountDocument → AuthProgram ResolvedSocketAuth
  | none => pure .unauthenticated
  | some user =>
      if fits user then do
        let cfg ← .perform .getEffectiveRuntimeConfig
        if cfg.emailVerificationRequired && !user.emailVerified then pure .emailNotVerified
        else pure (.ok user)
      else pure .unauthenticated

theorem received_admitRequest (fits : AccountDocument → Bool) (sourceDeviceId : Option String)
    (found : Option AccountDocument) : received (admitRequest fits sourceDeviceId found) = admitSocket fits found := by
  unfold admitRequest admitSocket
  cases found with
  | none => exact congrArg Program.done (verdict_unauthorized _)
  | some user =>
    simp only [Program.orFail_some, Program.pure_bind]
    cases fits user with
    | false => exact congrArg Program.done (verdict_unauthorized _)
    | true =>
      refine congrArg (Program.command AuthCommand.getEffectiveRuntimeConfig) (funext fun cfg => ?_)
      exact received_checked user sourceDeviceId (cfg.emailVerificationRequired && !user.emailVerified)

/-- Both doors look the account up alike. -/
theorem received_account (sub : String) (fits : AccountDocument → Bool) (sourceDeviceId : Option String) :
    received (findAccountById sub >>= admitRequest fits sourceDeviceId) = findAccountById sub >>= admitSocket fits := by
  unfold findAccountById
  split
  · exact received_admitRequest fits sourceDeviceId none
  · exact congrArg (Program.command (AuthCommand.findUserById _)) (funext (received_admitRequest fits sourceDeviceId))

/-- Doors that make the same of what is shown run the same program. -/
theorem program_of_matches (same : Matches (resolveBearerAuth door c.headers)
      (resolveHandshakeAccessAuth door (c.handshake place))) :
    received (requireAuthenticatedUser door c.headers) = resolveSocketAuth door (c.handshake place) := by
  unfold requireAuthenticatedUser resolveSocketAuth
  cases request : resolveBearerAuth door c.headers with
  | none =>
    rw [request] at same
    cases socket : resolveHandshakeAccessAuth door (c.handshake place) with
    | none => exact congrArg Program.done (verdict_unauthorized _)
    | some auth =>
      rw [socket] at same
      exact same.elim
  | some auth =>
    rw [request] at same
    cases socket : resolveHandshakeAccessAuth door (c.handshake place) with
    | none =>
      rw [socket] at same
      cases auth <;> exact same.elim
    | some auth' =>
      rw [socket] at same
      have one : auth.sub = auth'.sub ∧ auth.fits = auth'.fits := by
        cases auth with
        | jwt verified =>
          cases auth' with
          | jwt sub guest =>
            obtain ⟨sub, guest⟩ := same
            refine ⟨sub, funext fun user => ?_⟩
            rw [ResolveBearerAuthResult.fits, SocketHandshakeAuth.fits, guest]
          | dev sub => exact same.elim
        | dev sub sourceDeviceId =>
          cases auth' with
          | jwt sub guest => exact same.elim
          | dev sub' => exact ⟨same, rfl⟩
      dsimp only
      rw [← one.1, ← one.2]
      exact received_account auth.sub auth.fits (auth.sourceDeviceId.filter fun id => id ≠ "")

/-- Under a blank secret a token is refused where it came with a request, and not asked for where the
user id came with a socket. -/
theorem blankSecret_doors {t sub : String} (blank : BlankSecret door.svc.env) (shown : c.token = some t)
    (development : door.production = false) (named : c.userId.bind nonBlank = some sub) :
    requireAuthenticatedUser door c.headers =
        .done (.error (unauthorized "Set JWT_SECRET or use X-User-Id in non-production")) ∧
      resolveHandshakeAccessAuth door (c.handshake place) = some (.dev sub) := by
  obtain ⟨given, unusable⟩ : door.svc.env.JWT_SECRET.getD "" ≠ "" ∧ door.svc.env.trimmedSecret = none := by
    rcases secret_cases door.svc.env with ⟨-, -, proper⟩ | ⟨given, unusable, -⟩ | ⟨-, -, proper⟩
    · exact absurd blank proper
    · exact ⟨given, unusable⟩
    · exact absurd blank proper
  constructor
  · have request : resolveBearerAuth door c.headers = none := by
      rw [resolveBearerAuth_token shown, if_neg given, verify_of_blank blank]
      rfl
    unfold requireAuthenticatedUser
    rw [request, unusable]
    rfl
  · rw [resolveHandshakeAccessAuth_token shown, if_pos unusable]
    unfold resolveDevHandshake
    rw [readUserId_handshake, development, named]
    rfl

theorem programs_differ {t sub : String} (blank : BlankSecret door.svc.env) (shown : c.token = some t)
    (development : door.production = false) (named : c.userId.bind nonBlank = some sub) :
    received (requireAuthenticatedUser door c.headers) ≠ resolveSocketAuth door (c.handshake place) := by
  obtain ⟨refused, taken⟩ := @blankSecret_doors door c place t sub blank shown development named
  have nonempty : EcmaText.trim sub ≠ "" := by
    obtain ⟨id, -, trimmed⟩ := Option.bind_eq_some_iff.mp named
    unfold nonBlank at trimmed
    split at trimmed
    · cases trimmed
    · rename_i nonempty
      cases trimmed
      rw [EcmaText.trim_trim]
      exact nonempty
  have asked : findAccountById sub = Program.perform (.findUserById (EcmaText.trim sub)) := if_neg nonempty
  unfold resolveSocketAuth
  rw [refused, taken]
  dsimp only [SocketHandshakeAuth.sub]
  rw [asked]
  exact nofun

/-- The two doors run the same program, with the same verdict whatever the store answers, unless a token is
shown with a user id in development, where the secret is configured as white space. There the request is
refused, and the socket goes by the user id. -/
theorem doors_agree_iff (door : Doorway) (c : Credentials) (place : TokenPlace) :
    (received (requireAuthenticatedUser door c.headers) = resolveSocketAuth door (c.handshake place) ↔
      ¬ (BlankSecret door.svc.env ∧ c.token.isSome = true ∧ door.production = false ∧
        (c.userId.bind nonBlank).isSome = true)) ∧
    ∀ sub, BlankSecret door.svc.env ∧ c.token.isSome = true ∧ door.production = false ∧
        c.userId.bind nonBlank = some sub →
      requireAuthenticatedUser door c.headers =
          .done (.error (unauthorized "Set JWT_SECRET or use X-User-Id in non-production")) ∧
        resolveHandshakeAccessAuth door (c.handshake place) = some (.dev sub) := by
  refine ⟨⟨?_, fun usual => program_of_matches (matches_iff.mpr usual)⟩, ?_⟩
  · rintro same ⟨blank, shown, development, named⟩
    obtain ⟨t, shown⟩ := Option.isSome_iff_exists.mp shown
    obtain ⟨sub, named⟩ := Option.isSome_iff_exists.mp named
    exact programs_differ blank shown development named same
  · rintro sub ⟨blank, shown, development, named⟩
    obtain ⟨t, shown⟩ := Option.isSome_iff_exists.mp shown
    exact blankSecret_doors blank shown development named

end Doors

end MessagingSystem.Guarantees.DoorsAgree
