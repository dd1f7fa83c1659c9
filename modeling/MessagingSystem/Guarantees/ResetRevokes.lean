import MessagingSystem.Protocol.Sessions

/-!
# Password resets revoke older sessions

A refresh token carries the version of the user record it is issued from, and a
reset raises the version. Versions never fall, so a token issued from a record
that was read before the reset fails every refresh that reads the user after it,
also when the token is written to Redis last, and whichever replies get lost. A
refresh that fails without having found the user missing or changed keeps the token
it was given, unless the reply that gets lost is that of its last command, which has
deleted the token.
-/
namespace MessagingSystem.Guarantees.ResetRevokes
open Foundation Source.Server Protocol

/-- The next command of the call at `index` commits a new password for the user. -/
def Commits (userId : String) (s : SessionPool) (index : Nat) : Prop :=
  ∃ (request : AuthRequest) (n : SessionNotes) (passwordHash : String) (next : Bool → AuthProgram AuthReply),
    s.calls[index]? = some ⟨request, n, .command (.setUserPasswordAndBumpVersion userId passwordHash) next⟩ ∧
    ∃ user ∈ s.store.users, user.id = userId

/-- How many user records the call at `index` has read. -/
def userReads (s : SessionPool) (index : Nat) : Nat :=
  ((s.calls[index]?).map fun entry => entry.notes.userReads).getD 0

/-- A call has issued `raw` in the end, from a record of the user that it held before. -/
def IssuedFromBefore (userId raw : String) (before final : SessionPool) : Prop :=
  ∃ (index : Nat) (x y : SessionCall) (record : AccountDocument), before.calls[index]? = some x ∧
    x.notes.user = some record ∧ record.id = userId ∧ final.calls[index]? = some y ∧
    y.notes.userReads = x.notes.userReads ∧ y.notes.issued = some raw

/-- A refresh of the token that has read the user since does not succeed. -/
def RejectedAfter (svc : AuthService) (raw : String) (before final : SessionPool) : Prop :=
  ∀ (index : Nat) (entry : SessionCall) (presented : String), final.calls[index]? = some entry →
    refreshes entry.call = some presented → svc.tokenHash presented = svc.tokenHash raw →
    userReads before index < entry.notes.userReads → ¬ Succeeded entry

/-- Every commit, its reply lost or not, revokes the tokens issued from older records of its user. -/
def ResetsRevoke (svc : AuthService) (history : List LossySessionTransition) (final : SessionPool) : Prop :=
  ∀ t ∈ history, ∀ index, t.label.seen = .advance index → ∀ userId, Commits userId t.source index →
    ∀ raw, IssuedFromBefore userId raw t.source final → RejectedAfter svc raw t.source final

/-- A refresh that has failed has not touched the stored token, unless it has deleted it on finding its
user missing or of another version. -/
def FailuresKeepToken (svc : AuthService) (history : List LossySessionTransition) (final : SessionPool) :
    Prop :=
  ∀ (index : Nat) (entry : SessionCall) (raw : String) (e : AppError),
    final.calls[index]? = some entry → refreshes entry.call = some raw →
    entry.rest = .done (.error e) → ¬ (entry.notes.revoked = true ∧ entry.notes.Rejects) →
    ∀ t ∈ history, t.label.seen = .advance index →
      t.target.store.refreshTokens.get (svc.tokenHash raw) =
        t.source.store.refreshTokens.get (svc.tokenHash raw)

/-- A refresh that has found its user as the token says loses the reply of the command
that deletes the token, which is still stored. -/
def losesRevocation (t : LossySessionTransition) : Bool :=
  match t.label with
  | .lose index _ =>
      match t.source.calls[index]? with
      | some ⟨.refresh .., n, .command (.revokeRefreshToken hash) _⟩ =>
          decide n.Matches && (t.source.store.refreshTokens.get hash).isSome
      | _ => false
  | .kept _ => false

section Versions

variable {svc : AuthService} {β : Type}

/-- Every record of the user has at least this version. -/
def AtLeast (store : AuthStore) (userId : String) (v : Nat) : Prop :=
  ∀ user ∈ store.users, user.id = userId → v ≤ user.version

/-- A record after a command comes from one before it, of the same user and no
later version. -/
theorem exec_users (c : AuthCommand β) (store : AuthStore) :
    ∀ user ∈ (c.exec svc store).2.users,
      ∃ earlier ∈ store.users, earlier.id = user.id ∧ earlier.version ≤ user.version := by
  intro user member
  cases c with
  | setUserEmailVerified id verified =>
    rcases Collection.mem_updateFirst member with held | ⟨earlier, held, rfl⟩
    · exact ⟨user, held, rfl, Nat.le_refl _⟩
    · exact ⟨earlier, held, rfl, Nat.le_refl _⟩
  | setUserPasswordAndBumpVersion id passwordHash =>
    rcases Collection.mem_updateFirst member with held | ⟨earlier, held, rfl⟩
    · exact ⟨user, held, rfl, Nat.le_refl _⟩
    · exact ⟨earlier, held, rfl, Nat.le_succ _⟩
  | removeUser id => exact ⟨user, (List.mem_filter.mp member).1, rfl, Nat.le_refl _⟩
  | _ => exact ⟨user, member, rfl, Nat.le_refl _⟩

theorem exec_unique (c : AuthCommand β) {store : AuthStore}
    (unique : (store.users.map AccountDocument.id).Nodup) :
    ((c.exec svc store).2.users.map AccountDocument.id).Nodup := by
  cases c with
  | setUserEmailVerified id verified =>
    simpa only [AuthCommand.exec, AuthStore.updateUser,
      Collection.map_key_updateFirst AccountDocument.id _ (AccountDocument.setVerified verified)
        fun _ => rfl] using unique
  | setUserPasswordAndBumpVersion id passwordHash =>
    simpa only [AuthCommand.exec, AuthStore.updateUser,
      Collection.map_key_updateFirst AccountDocument.id _ (AccountDocument.bump passwordHash)
        fun _ => rfl] using unique
  | removeUser id => exact unique.sublist (List.filter_sublist.map _)
  | _ => exact unique

theorem AtLeast.exec {store : AuthStore} {userId : String} {v : Nat} (least : AtLeast store userId v)
    (c : AuthCommand β) : AtLeast (c.exec svc store).2 userId v := by
  intro user member named
  obtain ⟨earlier, held, same, below⟩ := exec_users c store user member
  exact Nat.le_trans (least earlier held (same.trans named)) below

/-- The commit of a new password raises the version. -/
theorem AtLeast.bump {store : AuthStore} {userId : String} {v : Nat} (least : AtLeast store userId v)
    (unique : (store.users.map AccountDocument.id).Nodup) (passwordHash : String) :
    AtLeast ((AuthCommand.setUserPasswordAndBumpVersion userId passwordHash).exec svc store).2 userId
      (v + 1) := by
  intro user member named
  have updated := Collection.updateFirst_eq_map unique userId
    (fun u _ (matched : decide (u.id = userId) = true) => of_decide_eq_true matched)
    (AccountDocument.bump passwordHash)
  simp only [AuthCommand.exec, AuthStore.updateUser, updated, List.mem_map] at member
  obtain ⟨earlier, held, rfl⟩ := member
  by_cases same : earlier.id = userId
  · simp only [same, decide_true, if_true]
    exact Nat.succ_le_succ (least earlier held same)
  · simp only [same, decide_false, Bool.false_eq_true, if_false] at named

/-- A record that is read is the latest one of its user. -/
theorem exec_reads {store : AuthStore} (unique : (store.users.map AccountDocument.id).Nodup)
    {user : AccountDocument} (held : user ∈ store.users) : AtLeast store user.id user.version := by
  intro other member same
  rw [List.inj_on_of_nodup_map unique member held same]

/-- The user record a command answers with. -/
def readUser : {β : Type} → AuthCommand β → β → Option (Option AccountDocument)
  | _, .findUserByEmail _, found => some found
  | _, .findUserById _, found => some found
  | _, _, _ => none

theorem readUser_held {c : AuthCommand β} {store : AuthStore} {user : AccountDocument}
    (read : readUser c (c.exec svc store).1 = some (some user)) : user ∈ store.users := by
  cases c with
  | findUserByEmail email => exact List.mem_of_find?_eq_some (Option.some.inj read)
  | findUserById id => exact List.mem_of_find?_eq_some (Option.some.inj read)
  | _ => cases read

/-- What an answer does to the notes about users: it counts as a read, or leaves
them alone. -/
theorem record_user (n : SessionNotes) (c : AuthCommand β) (reply : β) :
    (∃ found, readUser c reply = some found ∧ (n.record c reply).user = found ∧
        (n.record c reply).userReads = n.userReads + 1) ∨
      (n.record c reply).user = n.user ∧ (n.record c reply).userReads = n.userReads := by
  cases c with
  | findUserByEmail email => exact .inl ⟨reply, rfl, rfl, rfl⟩
  | findUserById id => exact .inl ⟨reply, rfl, rfl, rfl⟩
  | _ => exact .inr ⟨rfl, rfl⟩

end Versions

section VersionInvariant

variable {svc : AuthService} {s t : SessionPool} {event : SessionEvent}

/-- User ids are plain and unique, and no call holds a record newer than the
stored one. -/
structure VersionState (s : SessionPool) : Prop where
  unique : (s.store.users.map AccountDocument.id).Nodup
  trimmed : ∀ user ∈ s.store.users, EcmaText.Trimmed user.id
  read : ∀ entry ∈ s.calls, ∀ user, entry.notes.user = some user →
    EcmaText.Trimmed user.id ∧ AtLeast s.store user.id user.version

theorem VersionState.initial (init : (sessionMachine svc).init s) : VersionState s :=
  ⟨init.2.unique, init.2.users, fun entry member => by simp [init.1] at member⟩

/-- `AtLeast` is kept by every step. -/
theorem AtLeast.step {userId : String} {v : Nat} (least : AtLeast s.store userId v)
    (taken : (sessionMachine svc).step s event t) : AtLeast t.store userId v := by
  rcases taken.store with same | ⟨_, _, _, _, c, _, -, -, same⟩
  · rw [same]
    exact least
  · rw [same]
    exact least.exec c

theorem VersionState.preserved (inv : VersionState s) (taken : (sessionMachine svc).step s event t) :
    VersionState t := by
  refine ⟨?_, ?_, ?_⟩
  · rcases taken.store with same | ⟨_, _, _, _, c, _, -, -, same⟩
    · rw [same]
      exact inv.unique
    · rw [same]
      exact exec_unique c inv.unique
  · rcases taken.store with same | ⟨_, _, _, _, c, _, -, -, same⟩
    · rw [same]
      exact inv.trimmed
    · rw [same]
      intro user member
      obtain ⟨earlier, held, named, -⟩ := exec_users c s.store user member
      rw [← named]
      exact inv.trimmed earlier held
  · intro entry member user noted
    obtain ⟨i, held⟩ := List.getElem?_of_mem member
    suffices before : EcmaText.Trimmed user.id ∧ AtLeast s.store user.id user.version from
      ⟨before.1, before.2.step taken⟩
    rcases taken.entry held with old | ⟨call, -, -, -, rfl⟩ |
      ⟨call, n, β, c, next, rfl, running, rfl⟩ | ⟨call, n, β, c, next, e, rfl, running, rfl⟩
    · exact inv.read entry (List.mem_of_getElem? old) user noted
    · cases noted
    · rcases record_user n c (c.exec svc s.store).1 with ⟨found, read, same, -⟩ | ⟨same, -⟩
      · obtain rfl : found = some user := same.symm.trans noted
        have stored := readUser_held read
        exact ⟨inv.trimmed user stored, exec_reads inv.unique stored⟩
      · exact inv.read _ (List.mem_of_getElem? running) user (same.symm.trans noted)
    · exact inv.read _ (List.mem_of_getElem? running) user noted

end VersionInvariant

section Origins

variable {svc : AuthService} {s t : SessionPool} {event : SessionEvent} {hash : String}
  {origin : StoredRefreshPayload}

/-- The hash is that of a drawn token, and stands for nothing but `origin`. -/
structure StandsFor (svc : AuthService) (hash : String) (origin : StoredRefreshPayload)
    (s : SessionPool) : Prop where
  drawn : ∃ n, n < s.store.drawn ∧ hash = svc.tokenHash (svc.randomToken n)
  stored : ∀ p, s.store.refreshTokens.get hash = some p → p = origin
  found : ∀ entry ∈ s.calls, ∀ raw, refreshes entry.call = some raw → svc.tokenHash raw = hash →
    ∀ p, entry.notes.payload = some p → p = origin

/-- A drawn hash only ever loses its payload. -/
theorem exec_stored (fresh : FreshTokens svc) {β : Type} (c : AuthCommand β) {store : AuthStore}
    (drawn : ∃ n, n < store.drawn ∧ hash = svc.tokenHash (svc.randomToken n))
    {p : StoredRefreshPayload} (held : (c.exec svc store).2.refreshTokens.get hash = some p) :
    store.refreshTokens.get hash = some p := by
  obtain ⟨n, before, rfl⟩ := drawn
  cases c with
  | createRefreshToken payload ttl =>
    have different : svc.tokenHash (svc.randomToken n) ≠ svc.tokenHash (svc.randomToken store.drawn) :=
      fun same => Nat.ne_of_lt before (fresh _ _ same)
    exact (Record.get_set_of_ne _ _ different).symm.trans held
  | revokeRefreshToken other =>
    by_cases same : svc.tokenHash (svc.randomToken n) = other
    · subst same
      exact absurd ((Record.get_delete_self _ _).symm.trans held) (by simp)
    · exact (Record.get_delete_of_ne _ same).symm.trans held
  | _ => exact held

theorem StandsFor.preserved (fresh : FreshTokens svc) (inv : SessionState svc s)
    (stands : StandsFor svc hash origin s) (taken : (sessionMachine svc).step s event t) :
    StandsFor svc hash origin t := by
  refine ⟨?_, ?_, ?_⟩
  · obtain ⟨n, before, same⟩ := stands.drawn
    refine ⟨n, ?_, same⟩
    rcases taken.store with kept | ⟨_, _, _, _, c, _, -, -, moved⟩
    · rw [kept]
      exact before
    · rw [moved]
      exact Nat.lt_of_lt_of_le before (exec_drawn c s.store)
  · intro p held
    rcases taken.store with kept | ⟨_, _, _, _, c, _, -, -, moved⟩
    · rw [kept] at held
      exact stands.stored p held
    · rw [moved] at held
      exact stands.stored p (exec_stored fresh c stands.drawn held)
  · intro entry member raw refresh same p noted
    obtain ⟨i, held⟩ := List.getElem?_of_mem member
    rcases taken.entry held with old | ⟨call, -, -, -, rfl⟩ |
      ⟨call, n, β, c, next, rfl, running, rfl⟩ | ⟨call, n, β, c, next, e, rfl, running, rfl⟩
    · exact stands.found entry (List.mem_of_getElem? old) raw refresh same p noted
    · cases noted
    · cases c with
      | getRefreshPayload own =>
        obtain ⟨-, -, shown, named, rfl⟩ := inv.before running
        rw [(presented_of_refreshes refresh).1] at named
        cases named
        exact stands.stored p (same ▸ noted)
      | _ => exact stands.found _ (List.mem_of_getElem? running) raw refresh same p noted
    · exact stands.found _ (List.mem_of_getElem? running) raw refresh same p noted

/-- Every issued token stands for the record it was issued from. -/
def IssuedStand (svc : AuthService) (s : SessionPool) : Prop :=
  ∀ entry ∈ s.calls, ∀ raw user, entry.notes.issued = some raw → entry.notes.user = some user →
    StandsFor svc (svc.tokenHash raw) ⟨user.id, user.version⟩ s

/-- A token that has just been created stands for its payload. -/
theorem minted_stands (inv : SessionState svc s) {i : Nat} {request : AuthRequest} {n : SessionNotes}
    {payload : StoredRefreshPayload} {ttl : Nat} {next : String → AuthProgram AuthReply}
    (running : s.calls[i]? = some ⟨request, n, .command (.createRefreshToken payload ttl) next⟩)
    (taken : (sessionMachine svc).step s (.advance i) t) :
    StandsFor svc (svc.tokenHash (svc.randomToken s.store.drawn)) payload t := by
  obtain ⟨store, calls⟩ := t
  obtain rfl : store = ((AuthCommand.createRefreshToken payload ttl).exec svc s.store).2 := by
    cases taken with
    | advance index request' n' c' next' running' =>
      rw [running] at running'
      cases running'
      rfl
  refine ⟨⟨s.store.drawn, Nat.lt_succ_self _, rfl⟩, fun p held => ?_, ?_⟩
  · exact (Option.some.inj ((Record.get_set_self _ _ _).symm.trans held)).symm
  · intro entry member raw refresh same p noted
    obtain ⟨j, held⟩ := List.getElem?_of_mem member
    have known : ∀ x ∈ s.calls, x.call = entry.call → False := fun x held same' =>
      inv.presented x held raw (by rw [same']; exact (presented_of_refreshes refresh).1)
        s.store.drawn (Nat.le_refl _) same.symm
    rcases taken.entry held with old | ⟨call, different, -⟩ | ⟨call, m, β, c, rest, -, old, rfl⟩ |
      ⟨call, m, β, c, rest, e, different, -⟩
    · exact (known entry (List.mem_of_getElem? old) rfl).elim
    · cases different
    · exact (known _ (List.mem_of_getElem? old) rfl).elim
    · cases different

theorem IssuedStand.preserved (fresh : FreshTokens svc) (inv : SessionState svc s)
    (issued : IssuedStand svc s) (taken : (sessionMachine svc).step s event t) : IssuedStand svc t := by
  intro entry member raw user created noted
  obtain ⟨i, held⟩ := List.getElem?_of_mem member
  have kept : ∀ x ∈ s.calls, x.notes.issued = some raw → x.notes.user = some user →
      StandsFor svc (svc.tokenHash raw) ⟨user.id, user.version⟩ t := fun x held created noted =>
    (issued x held raw user created noted).preserved fresh inv taken
  rcases taken.entry held with old | ⟨call, -, -, -, rfl⟩ |
    ⟨call, n, β, c, next, rfl, running, rfl⟩ | ⟨call, n, β, c, next, e, rfl, running, rfl⟩
  · exact kept entry (List.mem_of_getElem? old) created noted
  · cases created
  · have before := inv.before running
    cases c with
    | findUserByEmail email => exact absurd (before.2.symm.trans created) (by simp)
    | findUserById id => exact absurd (before.2.symm.trans created) (by simp)
    | createRefreshToken payload ttl =>
      obtain ⟨-, -, ⟨holder, read, rfl⟩, -⟩ := before
      obtain rfl : holder = user := Option.some.inj (read.symm.trans noted)
      obtain rfl : svc.randomToken s.store.drawn = raw := Option.some.inj created
      exact minted_stands inv running taken
    | _ => exact kept _ (List.mem_of_getElem? running) created noted
  · exact kept _ (List.mem_of_getElem? running) created noted

end Origins

section Commits

variable {svc : AuthService} {s t : SessionPool} {event : SessionEvent} {userId : String} {v i k c d : Nat}
  {record : AccountDocument}

/-- What holds from the commit on: the version has been raised, call `i` has its
old record or has read another one, and call `k` has read no record since, or a
new one. -/
structure Committed (userId : String) (v i c : Nat) (record : AccountDocument) (k d : Nat)
    (s : SessionPool) : Prop where
  raised : AtLeast s.store userId v
  holder : ∃ y, s.calls[i]? = some y ∧
    (c < y.notes.userReads ∨ y.notes.userReads = c ∧ y.notes.user = some record)
  reader : ∀ y, s.calls[k]? = some y → d < y.notes.userReads →
    ∀ user, y.notes.user = some user → user.id = userId → v ≤ user.version

theorem holder_step (taken : (sessionMachine svc).step s event t)
    (holder : ∃ y, s.calls[i]? = some y ∧
      (c < y.notes.userReads ∨ y.notes.userReads = c ∧ y.notes.user = some record)) :
    ∃ y, t.calls[i]? = some y ∧
      (c < y.notes.userReads ∨ y.notes.userReads = c ∧ y.notes.user = some record) := by
  obtain ⟨x, held, holds⟩ := holder
  obtain ⟨y, after, -⟩ := taken.remains held
  refine ⟨y, after, ?_⟩
  rcases taken.entry after with old | ⟨call, -, outside, -⟩ |
    ⟨call, n, β, cmd, next, rfl, running, rfl⟩ | ⟨call, n, β, cmd, next, e, rfl, running, rfl⟩
  · cases held.symm.trans old
    exact holds
  · have bound := (List.getElem?_eq_some_iff.mp held).1
    omega
  · cases held.symm.trans running
    rcases record_user n cmd (cmd.exec svc s.store).1 with ⟨found, -, -, counted⟩ | ⟨same, counted⟩
    · refine .inl (Nat.lt_of_lt_of_eq ?_ counted.symm)
      rcases holds with more | ⟨equal, -⟩
      · exact Nat.lt_succ_of_lt more
      · exact Nat.lt_succ_of_le (Nat.le_of_eq equal.symm)
    · rcases holds with more | ⟨equal, noted⟩
      · exact .inl (Nat.lt_of_lt_of_eq more counted.symm)
      · exact .inr ⟨counted.trans equal, same.trans noted⟩
  · cases held.symm.trans running
    exact holds

theorem Committed.preserved (committed : Committed userId v i c record k d s)
    (taken : (sessionMachine svc).step s event t) : Committed userId v i c record k d t := by
  refine ⟨committed.raised.step taken, holder_step taken committed.holder, ?_⟩
  intro y after late user noted named
  rcases taken.entry after with old | ⟨call, -, -, -, rfl⟩ |
    ⟨call, n, β, cmd, next, rfl, running, rfl⟩ | ⟨call, n, β, cmd, next, e, rfl, running, rfl⟩
  · exact committed.reader y old late user noted named
  · cases noted
  · rcases record_user n cmd (cmd.exec svc s.store).1 with ⟨found, read, same, -⟩ | ⟨same, counted⟩
    · obtain rfl : found = some user := same.symm.trans noted
      exact committed.raised user (readUser_held read) named
    · exact committed.reader _ running (Nat.lt_of_lt_of_eq late counted) user
        (same.symm.trans noted) named
  · exact committed.reader _ running late user noted named

/-- The commit itself. -/
theorem commit_begins {index : Nat} (versions : VersionState s) (taken : (sessionMachine svc).step s (.advance index) t)
    (commits : Commits userId s index) {x : SessionCall} (held : s.calls[i]? = some x)
    (noted : x.notes.user = some record) (named : record.id = userId) :
    Committed userId (record.version + 1) i x.notes.userReads record k (userReads s k) t := by
  obtain ⟨request, n, passwordHash, next, running, -⟩ := commits
  refine ⟨?_, holder_step taken ⟨x, held, .inr ⟨rfl, noted⟩⟩, ?_⟩
  · have least := (versions.read x (List.mem_of_getElem? held) record noted).2
    rw [named] at least
    cases taken with
    | advance _ request' n' cmd next' running' =>
      cases running.symm.trans running'
      have raised : AtLeast ((AuthCommand.setUserPasswordAndBumpVersion userId passwordHash).exec svc
          s.store).2 userId (record.version + 1) := least.bump versions.unique passwordHash
      exact raised
  · intro y after late user _ _
    exfalso
    rcases taken.entry after with old | ⟨call, same, -⟩ |
      ⟨call, n', β, cmd, next', same, running', rfl⟩ | ⟨call, n', β, cmd, next', e, same, -⟩
    · simp [userReads, old] at late
    · cases same
    · cases same
      cases running.symm.trans running'
      simp only [userReads, running, Option.map_some, Option.getD_some] at late
      exact Nat.lt_irrefl _ late
    · cases same

/-- A refresh that has read the user since the commit fails with a token of the old record. -/
theorem Committed.rejects (committed : Committed record.id (record.version + 1) i c record k d s)
    (inv : SessionState svc s) {raw presented : String} {entry : SessionCall}
    (stands : StandsFor svc (svc.tokenHash raw) ⟨record.id, record.version⟩ s)
    (trimmed : EcmaText.Trimmed record.id) (held : s.calls[k]? = some entry)
    (refresh : refreshes entry.call = some presented)
    (same : svc.tokenHash presented = svc.tokenHash raw) (late : d < entry.notes.userReads) :
    ¬ Succeeded entry := by
  rintro ⟨reply, ended⟩
  have member := List.mem_of_getElem? held
  have after := inv.after member ended
  obtain ⟨-, device, now, shape⟩ := presented_of_refreshes refresh
  rw [shape] at after
  obtain ⟨-, -, user, stored, read, payload, matching, version⟩ := after
  obtain rfl := stands.found entry member presented refresh same stored payload
  have raised := committed.reader entry held late user read (matching.trans trimmed)
  rw [version] at raised
  exact Nat.not_succ_le_self _ raised

end Commits

section Lossless

variable {svc : AuthService} {start final : SessionPool} {history : List SessionTransition}

/-- While no reply gets lost, a commit revokes the tokens issued from older records. -/
theorem commit_revokes (fresh : FreshTokens svc) (init : (sessionMachine svc).init start)
    (run : (sessionMachine svc).Run start history final) {t : SessionTransition} (member : t ∈ history) {index : Nat}
    (labelled : t.label = .advance index) {userId raw : String} (commits : Commits userId t.source index)
    (issued : IssuedFromBefore userId raw t.source final) : RejectedAfter svc raw t.source final := by
  obtain ⟨i, x, y, record, heldX, noted, rfl, heldY, unread, created⟩ := issued
  intro k entry presented held refresh same late
  have preserved : ∀ s event t, (SessionState svc s ∧ VersionState s ∧ IssuedStand svc s) →
      (sessionMachine svc).step s event t → SessionState svc t ∧ VersionState t ∧ IssuedStand svc t :=
    fun s event t inv taken => ⟨inv.1.preserved s event t taken, inv.2.1.preserved taken,
      inv.2.2.preserved fresh inv.1 taken⟩
  have initial : SessionState svc start ∧ VersionState start ∧ IssuedStand svc start :=
    ⟨.initial init, .initial init, fun entry member => by simp [init.1] at member⟩
  have inv := run.invariant preserved initial
  have committed : Committed record.id (record.version + 1) i x.notes.userReads record k
      (userReads t.source k) final :=
    run.since preserved (fun s event t _ committed taken => committed.preserved taken) initial member
      fun taken source => commit_begins source.2.1 (labelled ▸ taken) commits heldX noted rfl
  obtain ⟨z, heldZ, holds⟩ := committed.holder
  cases heldY.symm.trans heldZ
  have noted : y.notes.user = some record := by
    rcases holds with more | ⟨-, same⟩
    · exact absurd (unread ▸ more) (Nat.lt_irrefl _)
    · exact same
  have memberY := List.mem_of_getElem? heldY
  exact committed.rejects inv.1 (inv.2.2 y memberY raw record created noted)
    (inv.2.1.read y memberY record noted).1 held refresh same late

end Lossless

section Following

variable {svc : AuthService} {s a before final last : SessionPool} {userId raw : String} {index : Nat}

theorem Commits.followed (commits : Commits userId s index) (followed : NotedCalls.FollowedBy s a) :
    Commits userId a index := by
  obtain ⟨request, n, passwordHash, next, running, known⟩ := commits
  exact ⟨request, n, passwordHash, next, followed.running running, followed.store ▸ known⟩

theorem userReads_followed (followed : NotedCalls.FollowedBy s a) (index : Nat) :
    userReads s index = userReads a index := by
  unfold userReads
  cases held : s.calls[index]? with
  | some x =>
    obtain ⟨y, there, beside⟩ := followed.at held
    rw [there, Option.map_some, Option.map_some, beside.notes]
  | none =>
    have outside : a.calls[index]? = none := by
      rw [List.getElem?_eq_none_iff] at held ⊢
      exact followed.calls.length_eq ▸ held
    rw [outside]

theorem IssuedFromBefore.followed (issued : IssuedFromBefore userId raw before final)
    (earlier : NotedCalls.FollowedBy before s) (later : NotedCalls.FollowedBy final last) :
    IssuedFromBefore userId raw s last := by
  obtain ⟨i, x, y, record, heldX, noted, named, heldY, unread, created⟩ := issued
  obtain ⟨x', heldX', besideX⟩ := earlier.at heldX
  obtain ⟨y', heldY', besideY⟩ := later.at heldY
  refine ⟨i, x', y', record, heldX', besideX.notes ▸ noted, named, heldY', ?_, besideY.notes ▸ created⟩
  rw [← besideX.notes, ← besideY.notes]
  exact unread

/-- A refresh that has succeeded has lost no reply. -/
theorem RejectedAfter.of_followed (rejected : RejectedAfter svc raw s last)
    (earlier : NotedCalls.FollowedBy before s) (later : NotedCalls.FollowedBy final last) :
    RejectedAfter svc raw before final := by
  intro k entry presented held refresh same late ⟨reply, ended⟩
  obtain ⟨y, there, beside⟩ := later.at held
  refine rejected k y presented there (beside.call ▸ refresh) same ?_ ⟨reply, ?_⟩
  · rw [← userReads_followed earlier, ← beside.notes]
    exact late
  · rcases beside.rest with kept | ⟨e, lost⟩
    · rw [← kept, ended]
    · rw [ended] at lost
      cases lost

/-- Every commit revokes, whichever replies get lost. -/
theorem resets_revoke (fresh : FreshTokens svc) {start : SessionPool} {history : List LossySessionTransition}
    (init : (lossySessionMachine svc).init start) (run : (lossySessionMachine svc).Run start history final) :
    ResetsRevoke svc history final := by
  intro t member index labelled userId commits raw issued
  obtain ⟨history', last, run', later, matched⟩ := NotedCalls.lossyRun_followed run
  obtain ⟨t', member', earlier, label⟩ := matched t member
  have rejected := commit_revokes fresh init run' member' (label.trans labelled) (commits.followed earlier)
    (issued.followed earlier later)
  exact rejected.of_followed earlier later

end Following

section Failures

variable {svc : AuthService} {s t : SessionPool} {event : LossyEvent AuthRequest AppError} {i : Nat}
  {request : AuthRequest} {n : SessionNotes} {raw : String}

/-- A state that one without lost replies follows. -/
def Traced (svc : AuthService) (s : SessionPool) : Prop := ∃ a, NotedCalls.FollowedBy s a ∧ SessionState svc a

theorem Traced.preserved (traced : Traced svc s) (taken : (lossySessionMachine svc).step s event t) : Traced svc t := by
  obtain ⟨a, followed, inv⟩ := traced
  obtain ⟨b, stepped, after⟩ := followed.step taken
  exact ⟨b, after, inv.preserved a event.seen b stepped⟩

theorem Traced.known (traced : Traced svc s) {entry : SessionCall} (held : s.calls[i]? = some entry)
    (presented : entry.call.presented = some raw) : NotFuture svc s.store raw := by
  obtain ⟨a, followed, inv⟩ := traced
  obtain ⟨y, there, beside⟩ := followed.at held
  rw [followed.store]
  exact inv.presented y (List.mem_of_getElem? there) raw (beside.call ▸ presented)

/-- What a refresh knows when it deletes its token. -/
theorem Traced.revoking (traced : Traced svc s) {next : Unit → AuthProgram AuthReply} {hash : String}
    (running : s.calls[i]? = some ⟨request, n, .command (.revokeRefreshToken hash) next⟩)
    (refresh : refreshes request = some raw) : hash = svc.tokenHash raw ∧ (n.Rejects ∨ n.Matches) := by
  obtain ⟨a, followed, inv⟩ := traced
  obtain ⟨presented, device, now, shape⟩ := presented_of_refreshes refresh
  obtain ⟨own, reason⟩ := (inv.before (followed.running running)).2 raw presented
  exact ⟨own, reason raw device now shape⟩

/-- With the reply, the deletion was the last command of the refresh. -/
theorem Traced.revoked (traced : Traced svc s) {next : Unit → AuthProgram AuthReply} {hash : String}
    (running : s.calls[i]? = some ⟨request, n, .command (.revokeRefreshToken hash) next⟩) :
    ∃ result, next () = .done result ∧ afterRequest request { n with revoked := true } result := by
  obtain ⟨a, followed, inv⟩ := traced
  have there := followed.running running
  obtain ⟨bound, -⟩ := List.getElem?_eq_some_iff.mp there
  obtain ⟨b, held, stepped⟩ : ∃ b : SessionPool, b.calls[i]? = some ⟨request, { n with revoked := true }, next ()⟩ ∧
      (sessionMachine svc).step a (.advance i) b :=
    ⟨_, List.getElem?_set_self bound, .advance a i request n _ next there⟩
  have after := inv.preserved _ _ _ stepped
  cases left : next () with
  | done result =>
    rw [left] at held
    exact ⟨result, rfl, after.after (List.mem_of_getElem? held) rfl⟩
  | command c rest =>
    rw [left] at held
    exact absurd (after.before held).1 (by simp)

theorem not_rejects_of_matches (matching : n.Matches) : ¬ n.Rejects := by
  obtain ⟨user, stored, read, payload, -, version⟩ := matching
  rintro ⟨other, found, ⟨missing, -⟩ | ⟨user', read', different⟩⟩
  · rw [read] at missing
    cases missing
  · cases read.symm.trans read'
    cases payload.symm.trans found
    exact different version

section Kept

variable {start final : SessionPool} {history : List LossySessionTransition}

theorem Traced.initial (init : (lossySessionMachine svc).init start) : Traced svc start :=
  ⟨start, .refl start, .initial init⟩

/-- A call that a step ends is there in the end. -/
theorem ended_remains (init : (lossySessionMachine svc).init start)
    (run : (lossySessionMachine svc).Run start history final) {t : LossySessionTransition} (member : t ∈ history)
    {result : Except AppError AuthReply}
    (ends : (lossySessionMachine svc).step t.source t.label t.target →
      t.target.calls[i]? = some ⟨request, n, .done result⟩) :
    final.calls[i]? = some ⟨request, n, .done result⟩ := by
  have kept : ∀ s event t, Traced svc s → s.calls[i]? = some ⟨request, n, .done result⟩ →
      (lossySessionMachine svc).step s event t → t.calls[i]? = some ⟨request, n, .done result⟩ :=
    fun s event t _ held taken => taken.done_remains held
  exact run.since (fun _ _ _ traced taken => traced.preserved taken) kept (Traced.initial init) member
    fun taken _ => ends taken

/-- A call that has run is the same call in the end. -/
theorem call_remains (init : (lossySessionMachine svc).init start)
    (run : (lossySessionMachine svc).Run start history final) {t : LossySessionTransition} (member : t ∈ history)
    {x : SessionCall} (held : t.source.calls[i]? = some x) : ∃ y, final.calls[i]? = some y ∧ y.call = x.call := by
  have kept : ∀ s event t, Traced svc s → (∃ y, s.calls[i]? = some y ∧ y.call = x.call) →
      (lossySessionMachine svc).step s event t → ∃ y, t.calls[i]? = some y ∧ y.call = x.call := by
    intro s event t _ ⟨y, before, same⟩ taken
    obtain ⟨z, after, kept⟩ := taken.remains before
    exact ⟨z, after, kept.trans same⟩
  exact run.since (fun _ _ _ traced taken => traced.preserved taken) kept (Traced.initial init) member
    fun taken _ => taken.remains held

/-- A lost deletion is a failure that does not keep its token. -/
theorem not_loses_of_keeps (init : (lossySessionMachine svc).init start)
    (run : (lossySessionMachine svc).Run start history final) (keeps : FailuresKeepToken svc history final)
    {t : LossySessionTransition} (member : t ∈ history) : losesRevocation t = false := by
  apply Bool.eq_false_iff.mpr
  intro loses
  unfold losesRevocation at loses
  split at loses
  · rename_i index e labelled
    split at loses
    · rename_i raw device now n hash next running
      obtain ⟨matching, stored⟩ := (Bool.and_eq_true _ _).mp loses
      have seen : t.label.seen = .advance index := by rw [labelled]; rfl
      obtain ⟨taken, traced⟩ := run.recorded (I := Traced svc) (fun _ _ _ traced taken => traced.preserved taken)
        (Traced.initial init) t member
      obtain ⟨rfl, -⟩ := traced.revoking running rfl
      obtain ⟨request', n', β, c, next', running', executed, ⟨other, -⟩ | ⟨e', same, after⟩⟩ := taken.executed seen
      · cases labelled.symm.trans other
      cases running.symm.trans running'
      cases labelled.symm.trans same
      have ended : final.calls[index]? = some ⟨.refresh raw device now, { n with revoked := true }, .done (.error e)⟩ :=
        ended_remains init run member fun _ => after
      have kept := keeps index _ raw e ended rfl rfl
        (fun both => not_rejects_of_matches (of_decide_eq_true matching) both.2) t member seen
      rw [executed] at kept
      have gone : t.source.store.refreshTokens.get (svc.tokenHash raw) = none :=
        kept.symm.trans (Record.get_delete_self _ _)
      rw [gone] at stored
      cases stored
    · cases loses
  · cases loses

/-- A refresh that fails otherwise keeps its token. -/
theorem keeps_of_not_loses (init : (lossySessionMachine svc).init start)
    (run : (lossySessionMachine svc).Run start history final) (answered : ∀ t ∈ history, losesRevocation t = false) :
    FailuresKeepToken svc history final := by
  intro index entry raw e held refresh failed accepted t member seen
  obtain ⟨taken, traced⟩ := run.recorded (I := Traced svc) (fun _ _ _ traced taken => traced.preserved taken)
    (Traced.initial init) t member
  obtain ⟨request, n, β, c, next, running, executed, outcome⟩ := taken.executed seen
  obtain ⟨y, last, called⟩ := call_remains init run member running
  cases held.symm.trans last
  have refresh' : refreshes request = some raw := by rw [← refresh, called]
  obtain ⟨presented, device, now, rfl⟩ := presented_of_refreshes refresh'
  rw [executed]
  rcases exec_presented (traced.known running presented) c with same | ⟨revoking, gone⟩
  · exact same
  · cases c with
    | revokeRefreshToken hash =>
      obtain rfl : hash = svc.tokenHash raw := Option.some.inj revoking
      rcases outcome with ⟨-, after⟩ | ⟨lost, labelled, after⟩
      · -- The reply has come: the refresh has ended with it, and says why it failed.
        obtain ⟨result, left, ends⟩ := traced.revoked running
        have ended : final.calls[index]? = some ⟨.refresh raw device now, { n with revoked := true }, .done result⟩ :=
          ended_remains init run member fun _ => after.trans (by rw [← left]; rfl)
        cases held.symm.trans ended
        cases failed
        exact absurd ⟨rfl, ends rfl⟩ accepted
      · have ended : final.calls[index]? =
            some ⟨.refresh raw device now, { n with revoked := true }, .done (.error lost)⟩ :=
          ended_remains init run member fun _ => after
        cases held.symm.trans ended
        rcases (traced.revoking running refresh').2 with rejects | matching
        · exact absurd ⟨rfl, rejects⟩ accepted
        · -- The token was not there to be deleted.
          have loses := answered t member
          unfold losesRevocation at loses
          rw [labelled] at loses
          dsimp only at loses
          rw [running] at loses
          dsimp only at loses
          rw [decide_eq_true matching, Bool.true_and, Option.isSome_eq_false_iff, Option.isNone_iff_eq_none] at loses
          exact gone.trans loses.symm
    | _ => cases revoking

end Kept

end Failures

/-- A reset revokes the tokens of every older record, and a refresh that fails for another reason keeps its
token exactly when no refresh loses the reply of the deletion of its token. -/
theorem password_reset_revokes_iff (svc : AuthService) (fresh : FreshTokens svc) {start final : SessionPool}
    {history : List LossySessionTransition} (init : (lossySessionMachine svc).init start)
    (run : (lossySessionMachine svc).Run start history final) :
    ResetsRevoke svc history final ∧
      (FailuresKeepToken svc history final ↔ ∀ t ∈ history, losesRevocation t = false) :=
  ⟨resets_revoke fresh init run, fun keeps _ member => not_loses_of_keeps init run keeps member,
    keeps_of_not_loses init run⟩

section Runs

open Sample

theorem lossyNext_sound : ∀ s event t, (sessionCalls service).lossyNext drawnBefore s event = some t →
    (lossySessionMachine service).step s event t :=
  (sessionCalls service).lossyNext_step drawnBefore_sound fun _ => trivial

/-- The call at `index` is about to commit a new password. -/
def commitsFor (userId : String) (s : SessionPool) (index : Nat) : Bool :=
  match s.calls[index]? with
  | some ⟨_, _, .command (.setUserPasswordAndBumpVersion id _) _⟩ =>
      decide (id = userId) && s.store.users.any fun user => user.id = userId
  | _ => false

theorem commitsFor_sound {userId : String} {s : SessionPool} {index : Nat} (commits : commitsFor userId s index = true) :
    Commits userId s index := by
  unfold commitsFor at commits
  split at commits
  · rename_i request n id passwordHash next running
    obtain ⟨same, known⟩ := (Bool.and_eq_true _ _).mp commits
    obtain ⟨user, member, named⟩ := List.any_eq_true.mp known
    obtain rfl := of_decide_eq_true same
    exact ⟨request, n, passwordHash, next, running, user, member, of_decide_eq_true named⟩
  · cases commits

/-- The call at `index` issues the token in the end, from the record that it held before. -/
def issuedFromBefore (userId raw : String) (index : Nat) (before final : SessionPool) : Bool :=
  before.calls[index]?.any fun x => final.calls[index]?.any fun y =>
    x.notes.user.any (fun record => record.id = userId) &&
      decide (y.notes.userReads = x.notes.userReads ∧ y.notes.issued = some raw)

theorem issuedFromBefore_sound {userId raw : String} {index : Nat} {before final : SessionPool}
    (issued : issuedFromBefore userId raw index before final = true) : IssuedFromBefore userId raw before final := by
  obtain ⟨x, heldX, issued⟩ := (Option.any_eq_true _ _).mp issued
  obtain ⟨y, heldY, issued⟩ := (Option.any_eq_true _ _).mp issued
  obtain ⟨held, both⟩ := (Bool.and_eq_true _ _).mp issued
  obtain ⟨record, noted, named⟩ := (Option.any_eq_true _ _).mp held
  obtain ⟨unread, created⟩ := of_decide_eq_true both
  exact ⟨index, x, y, record, heldX, noted, of_decide_eq_true named, heldY, unread, created⟩

def failed (entry : SessionCall) : Bool :=
  match entry.rest with
  | .done (.error _) => true
  | _ => false

def connectionClosed : AppError := ⟨"INTERNAL_ERROR", 500, "Connection is closed."⟩

/-- The call at `index` has its command executed and loses the reply. -/
def losesReply (index : Nat) : LossyEvent AuthRequest AppError → Bool
  | .lose i _ => decide (i = index)
  | .kept _ => false

theorem seen_of_losesReply {index : Nat} {event : LossyEvent AuthRequest AppError}
    (lost : losesReply index event = true) : event.seen = .advance index := by
  cases event with
  | kept event => cases lost
  | lose i e => exact congrArg _ (of_decide_eq_true lost)

/-- A sign-in reads `alice` before a reset commits, whose reply is lost, and writes its token after. One refresh of it
loses the reply of its user, the next one is rejected. -/
def lateToken : List (LossyEvent AuthRequest AppError) :=
  [.kept (.takeUp (.login "alice@example.org" "secret" .undefined 0)), .kept (.advance 0),
    .kept (.takeUp (.resetPassword "reset.token" "changed" 0)), .kept (.advance 1), .lose 1 connectionClosed,
    .kept (.advance 0), .kept refresh, .kept (.advance 2), .lose 2 connectionClosed, .kept refresh] ++
  List.replicate 3 (.kept (.advance 3))

theorem password_reset_revokes_iff_late_token :
    ∃ history final t, (lossySessionMachine service).Run signedOut history final ∧ t ∈ history ∧
      losesReply 1 t.label = true ∧ Commits "alice" t.source 1 ∧ IssuedFromBefore "alice" (token 0) t.source final ∧
      RejectedAfter service (token 0) t.source final ∧ final.calls.map failed = [false, true, true, true] ∧
      FailuresKeepToken service history final := by
  have checked : (Machine.trace ((sessionCalls service).lossyNext drawnBefore) signedOut lateToken).any
      (fun executed => executed.1[4]?.any (fun t => losesReply 1 t.label && commitsFor "alice" t.source 1 &&
          issuedFromBefore "alice" (token 0) 0 t.source executed.2) &&
        decide (executed.2.calls.map failed = [false, true, true, true]) &&
        executed.1.all fun t => !losesRevocation t) = true := by
    decide
  obtain ⟨⟨history, final⟩, executed, holds⟩ := (Option.any_eq_true _ _).mp checked
  simp only [Bool.and_eq_true, Option.any_eq_true, decide_eq_true_eq, List.all_eq_true, Bool.not_eq_true'] at holds
  obtain ⟨⟨⟨t, fourth, ⟨lost, commits⟩, issued⟩, ended⟩, answered⟩ := holds
  have run : (lossySessionMachine service).Run signedOut history final := Machine.trace_run _ lossyNext_sound executed
  obtain ⟨revokes, keeps⟩ := password_reset_revokes_iff service service_fresh signedOut_init run
  have member := List.mem_of_getElem? fourth
  have before := issuedFromBefore_sound issued
  have rejected := revokes t member 1 (seen_of_losesReply lost) "alice" (commitsFor_sound commits) (token 0) before
  exact ⟨history, final, t, run, member, lost, commitsFor_sound commits, before, rejected, ended, keeps.mpr answered⟩

/-- The reply of the last command of a refresh is lost: the client is told of a failure, and its token is gone. -/
theorem refresh_failure_loses_token :
    ¬ ∀ (svc : AuthService) (start final : SessionPool) (history : List LossySessionTransition), FreshTokens svc →
      (lossySessionMachine svc).init start → (lossySessionMachine svc).Run start history final →
      ResetsRevoke svc history final ∧ FailuresKeepToken svc history final := by
  intro claim
  let events : List (LossyEvent AuthRequest AppError) :=
    (signIn ++ [refresh] ++ List.replicate 4 (PoolEvent.advance 1)).map .kept ++ [.lose 1 connectionClosed]
  have checked : (Machine.trace ((sessionCalls service).lossyNext drawnBefore) signedOut events).any
      (fun executed => executed.1.getLast?.any losesRevocation) = true := by decide
  obtain ⟨⟨history, final⟩, executed, holds⟩ := (Option.any_eq_true _ _).mp checked
  obtain ⟨t, last, loses⟩ := (Option.any_eq_true _ _).mp holds
  have run : (lossySessionMachine service).Run signedOut history final := Machine.trace_run _ lossyNext_sound executed
  have keeps := (claim service signedOut final history service_fresh signedOut_init run).2
  have answered := not_loses_of_keeps signedOut_init run keeps (List.mem_of_getLast? last)
  rw [loses] at answered
  cases answered

end Runs

end MessagingSystem.Guarantees.ResetRevokes
