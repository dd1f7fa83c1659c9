import MessagingSystem.Protocol.Sessions

/-!
# Single use of refresh tokens

Refreshes and sign-outs that present one token, interleaved command by command
with every other request. A refresh reads its token, creates the successor and
only then revokes the token, so two of them can pass between the read and the
revocation. A token is used once as long as every refresh that finds it is the
only one under way. A sign-out is final in every run.
-/
namespace MessagingSystem.Guarantees.RefreshOnce
open Foundation Source.Server Protocol

def inFlight (entry : SessionCall) : Bool :=
  match entry.rest with
  | .command .. => true
  | .done _ => false

/-- The next command reads the payload of the presented token. -/
def readsPayload (entry : SessionCall) : Bool :=
  match entry.rest with
  | .command (.getRefreshPayload _) _ => true
  | _ => false

/-- A refresh has found the token and is under way, or has created a successor. -/
def claims (raw : String) (entry : SessionCall) : Bool :=
  decide (refreshes entry.call = some raw) &&
    (entry.notes.payload.isSome && inFlight entry || entry.notes.issued.isSome)

/-- A refresh that finds its token in Redis finds no other one claiming it. -/
def readsAlone (svc : AuthService) (t : SessionTransition) : Bool :=
  match t.label with
  | .advance index =>
      (t.source.calls[index]?.filter readsPayload).all fun entry =>
        (refreshes entry.call).all fun raw =>
          (t.source.store.refreshTokens.get (svc.tokenHash raw)).isNone ||
            t.source.calls.all fun other => !claims raw other
  | _ => true

/-- A refresh of `raw` has created `token`, which is in Redis. -/
def LiveSuccessor (svc : AuthService) (s : SessionPool) (raw token : String) : Prop :=
  ∃ entry ∈ s.calls, refreshes entry.call = some raw ∧ entry.notes.issued = some token ∧
    (s.store.refreshTokens.get (svc.tokenHash token)).isSome = true

/-- At most one refresh of a token succeeds, and a token has at most one live successor. -/
structure SingleUse (svc : AuthService) (s : SessionPool) : Prop where
  succeeds : ∀ (raw : String) (i j : Nat) (x y : SessionCall), s.calls[i]? = some x →
    s.calls[j]? = some y → refreshes x.call = some raw → refreshes y.call = some raw →
    Succeeded x → Succeeded y → i = j
  successor : ∀ raw token other, LiveSuccessor svc s raw token → LiveSuccessor svc s raw other →
    token = other

/-- A refresh taken up when a sign-out of its token has been completed does not succeed. -/
def LogoutsFinal (history : List SessionTransition) (final : SessionPool) : Prop :=
  ∀ t ∈ history, ∀ raw device now, t.label = .takeUp (.refresh raw device now) →
    (∃ entry ∈ t.source.calls, entry.call = .logout raw ∧ Succeeded entry) →
    ∀ entry, final.calls[t.source.calls.length]? = some entry → ¬ Succeeded entry

section Claims

variable {svc : AuthService} {s t : SessionPool} {event : SessionEvent} {raw : String}

theorem claims_iff {entry : SessionCall} : claims raw entry = true ↔
    refreshes entry.call = some raw ∧
      (entry.notes.payload.isSome = true ∧ inFlight entry = true ∨
        entry.notes.issued.isSome = true) := by
  simp [claims]

/-- A refresh comes to claim a token only by finding it. -/
theorem claim_comes (inv : SessionState svc s) (taken : (sessionMachine svc).step s event t) {i : Nat}
    {y : SessionCall} (held : t.calls[i]? = some y) (claimed : claims raw y = true) :
    (∃ x, s.calls[i]? = some x ∧ claims raw x = true) ∨
      event = .advance i ∧ (∃ x, s.calls[i]? = some x ∧ readsPayload x = true ∧
        refreshes x.call = some raw) ∧
        (s.store.refreshTokens.get (svc.tokenHash raw)).isSome = true := by
  obtain ⟨refresh, claimed⟩ := claims_iff.mp claimed
  rcases taken.entry held with old | ⟨call, -, -, -, rfl⟩ |
    ⟨call, n, β, c, next, rfl, running, rfl⟩ | ⟨call, n, β, c, next, e, rfl, running, rfl⟩
  · exact .inl ⟨y, old, claims_iff.mpr ⟨refresh, claimed⟩⟩
  · rcases claimed with ⟨found, -⟩ | created
    · cases found
    · cases created
  · have before := inv.before running
    have flight : n.payload.isSome = true ∨ n.issued.isSome = true →
        ∃ x, s.calls[i]? = some x ∧ claims raw x = true := fun some =>
      ⟨_, running, claims_iff.mpr ⟨refresh, some.imp (fun found => ⟨found, rfl⟩) id⟩⟩
    have claimed := claimed.imp And.left id
    cases c with
    | getRefreshPayload hash =>
      obtain ⟨-, -, own, named, rfl⟩ := before
      rw [(presented_of_refreshes refresh).1] at named
      cases named
      rcases claimed with found | created
      · exact .inr ⟨rfl, ⟨_, running, rfl, refresh⟩, found⟩
      · exact .inl (flight (.inr created))
    | createRefreshToken payload ttl =>
      obtain ⟨-, -, -, known⟩ := before
      obtain ⟨-, device, now, same⟩ := presented_of_refreshes refresh
      exact .inl (flight (.inl (known raw device now same)))
    | _ => exact .inl (flight claimed)
  · rcases claimed with ⟨-, ended⟩ | created
    · cases ended
    · exact .inl ⟨_, running, claims_iff.mpr ⟨refresh, .inr created⟩⟩

/-- A token is claimed once. -/
def OneClaim (s : SessionPool) : Prop :=
  ∀ (raw : String) (i j : Nat) (x y : SessionCall), s.calls[i]? = some x → s.calls[j]? = some y →
    claims raw x = true → claims raw y = true → i = j

theorem unclaimed_of_readsAlone {i : Nat} {x : SessionCall}
    (alone : readsAlone svc ⟨s, .advance i, t⟩ = true) (held : s.calls[i]? = some x)
    (reads : readsPayload x = true) (refresh : refreshes x.call = some raw)
    (found : (s.store.refreshTokens.get (svc.tokenHash raw)).isSome = true) :
    ∀ other ∈ s.calls, claims raw other = false := by
  intro other member
  simp only [readsAlone, held, Option.filter_some, reads, if_true, Option.all_some, refresh,
    Bool.or_eq_true, Option.isNone_iff_eq_none, List.all_eq_true, Bool.not_eq_true'] at alone
  rcases alone with absent | unclaimed
  · rw [absent] at found
    cases found
  · exact unclaimed other member

theorem OneClaim.preserved (one : OneClaim s) (inv : SessionState svc s)
    (taken : (sessionMachine svc).step s event t) (alone : readsAlone svc ⟨s, event, t⟩ = true) :
    OneClaim t := by
  intro raw i j x y heldX heldY claimX claimY
  rcases claim_comes inv taken heldX claimX with ⟨x', oldX, earlierX⟩ | ⟨rfl, ⟨x', oldX, readX, refreshX⟩, found⟩ <;>
    rcases claim_comes inv taken heldY claimY with ⟨y', oldY, earlierY⟩ | ⟨same, ⟨y', oldY, readY, refreshY⟩, found'⟩
  · exact one raw i j x' y' oldX oldY earlierX earlierY
  · subst same
    have free := unclaimed_of_readsAlone alone oldY readY refreshY found' x' (List.mem_of_getElem? oldX)
    rw [earlierX] at free
    cases free
  · have free := unclaimed_of_readsAlone alone oldX readX refreshX found y' (List.mem_of_getElem? oldY)
    rw [earlierY] at free
    cases free
  · cases same
    rfl

theorem claims_of_succeeded (inv : SessionState svc s) {entry : SessionCall} (member : entry ∈ s.calls)
    (refresh : refreshes entry.call = some raw) (succeeded : Succeeded entry) :
    claims raw entry = true := by
  obtain ⟨reply, ended⟩ := succeeded
  have after := inv.after member ended
  obtain ⟨-, device, now, same⟩ := presented_of_refreshes refresh
  rw [same] at after
  exact claims_iff.mpr ⟨refresh, .inr after.2.1⟩

theorem OneClaim.singleUse (one : OneClaim s) (inv : SessionState svc s) : SingleUse svc s := by
  refine ⟨fun raw i j x y heldX heldY refreshX refreshY okX okY => ?_, ?_⟩
  · exact one raw i j x y heldX heldY (claims_of_succeeded inv (List.mem_of_getElem? heldX) refreshX okX)
      (claims_of_succeeded inv (List.mem_of_getElem? heldY) refreshY okY)
  · rintro raw token other ⟨x, memberX, refreshX, createdX, -⟩ ⟨y, memberY, refreshY, createdY, -⟩
    obtain ⟨i, heldX⟩ := List.getElem?_of_mem memberX
    obtain ⟨j, heldY⟩ := List.getElem?_of_mem memberY
    have claimX : claims raw x = true := claims_iff.mpr ⟨refreshX, .inr (by rw [createdX]; rfl)⟩
    have claimY : claims raw y = true := claims_iff.mpr ⟨refreshY, .inr (by rw [createdY]; rfl)⟩
    obtain rfl := one raw i j x y heldX heldY claimX claimY
    rw [heldX] at heldY
    cases heldY
    rw [createdX] at createdY
    exact Option.some.inj createdY

end Claims

section Logouts

variable {svc : AuthService} {s t : SessionPool} {event : SessionEvent} {raw : String} {index : Nat}

/-- The refresh at `index` has not found its token, which is gone. -/
structure ShutOut (svc : AuthService) (raw : String) (index : Nat) (s : SessionPool) : Prop where
  past : NotFuture svc s.store raw
  gone : s.store.refreshTokens.get (svc.tokenHash raw) = none
  entry : ∃ x, s.calls[index]? = some x ∧ refreshes x.call = some raw ∧ x.notes.payload = none

theorem ShutOut.preserved (out : ShutOut svc raw index s) (inv : SessionState svc s)
    (taken : (sessionMachine svc).step s event t) : ShutOut svc raw index t := by
  refine ⟨?_, ?_, ?_⟩
  · rcases taken.store with same | ⟨_, _, _, _, c, _, -, -, same⟩
    · rw [same]
      exact out.past
    · rw [same]
      exact out.past.exec c
  · rcases taken.store with same | ⟨_, _, _, _, c, _, -, -, same⟩
    · rw [same]
      exact out.gone
    · rw [same]
      exact exec_absent out.past out.gone c
  · obtain ⟨x, held, refresh, unread⟩ := out.entry
    obtain ⟨y, after, same⟩ := taken.remains held
    refine ⟨y, after, same ▸ refresh, ?_⟩
    rcases taken.entry after with old | ⟨call, -, -, -, rfl⟩ |
      ⟨call, n, β, c, next, rfl, running, rfl⟩ | ⟨call, n, β, c, next, e, rfl, running, rfl⟩
    · rw [held] at old
      cases old
      exact unread
    · rfl
    · rw [held] at running
      cases running
      cases c with
      | getRefreshPayload hash =>
        obtain ⟨-, -, own, named, rfl⟩ := inv.before held
        rw [(presented_of_refreshes refresh).1] at named
        cases named
        exact out.gone
      | _ => exact unread
    · rw [held] at running
      cases running
      exact unread

theorem ShutOut.fails (out : ShutOut svc raw index s) (inv : SessionState svc s) {entry : SessionCall}
    (held : s.calls[index]? = some entry) : ¬ Succeeded entry := by
  rintro ⟨reply, ended⟩
  obtain ⟨x, same, refresh, unread⟩ := out.entry
  rw [held] at same
  cases same
  have after := inv.after (List.mem_of_getElem? held) ended
  obtain ⟨-, device, now, same⟩ := presented_of_refreshes refresh
  rw [same] at after
  obtain ⟨-, -, user, stored, -, found, -⟩ := after
  rw [unread] at found
  cases found

/-- The token of a completed sign-out is gone. -/
theorem logged_out (inv : SessionState svc s) {entry : SessionCall} (member : entry ∈ s.calls)
    (logout : entry.call = .logout raw) (succeeded : Succeeded entry) :
    s.store.refreshTokens.get (svc.tokenHash raw) = none := by
  obtain ⟨reply, ended⟩ := succeeded
  have after := inv.after member ended
  rw [logout] at after
  exact inv.revoked entry member (after reply rfl) raw (by rw [logout]; rfl)

theorem logouts_final {start final : SessionPool} {history : List SessionTransition}
    (init : (sessionMachine svc).init start) (run : (sessionMachine svc).Run start history final) :
    LogoutsFinal history final := by
  intro t member raw device now label out entry held
  have inv : SessionState svc final := run.invariant SessionState.preserved (.initial init)
  have out : ShutOut svc raw t.source.calls.length final := by
    refine run.since SessionState.preserved (fun s event t inv out taken => out.preserved inv taken)
      (.initial init) member fun taken inv => ?_
    obtain ⟨source, event, target⟩ := t
    obtain rfl : event = _ := label
    obtain ⟨logout, called, same, succeeded⟩ := out
    have gone := logged_out inv called same succeeded
    dsimp only at taken
    cases taken with
    | takeUp call admitted =>
      exact ⟨admitted raw rfl, gone, _, List.getElem?_concat_length, rfl, rfl⟩
  exact out.fails inv held

end Logouts

/-- A refresh token is used once when every refresh that finds it is the only
one, and never after its sign-out. -/
theorem refresh_token_used_once (svc : AuthService) {start final : SessionPool}
    {history : List SessionTransition} (init : (sessionMachine svc).init start)
    (run : (sessionMachine svc).Run start history final)
    (alone : ∀ t ∈ history, readsAlone svc t = true) :
    SingleUse svc final ∧ LogoutsFinal history final := by
  have inv : SessionState svc final ∧ OneClaim final :=
    run.invariant_of_forall (I := fun s => SessionState svc s ∧ OneClaim s)
      (fun s event t inv taken alone =>
        ⟨inv.1.preserved s event t taken, inv.2.preserved inv.1 taken alone⟩)
      ⟨.initial init, fun raw i j x y held => by simp [init.1] at held⟩ alone
  exact ⟨inv.2.singleUse inv.1, logouts_final init run⟩

section Runs

open Sample

/-- Two refreshes and a sign-out, one after the other: only the first refresh succeeds. -/
theorem refresh_token_used_once_in_turn :
    ∃ history final, (sessionMachine service).Run signedOut history final ∧
      final.calls.map succeeded = [true, true, false, true] ∧
      SingleUse service final ∧ LogoutsFinal history final := by
  let events : List SessionEvent := signIn ++ [refresh] ++ List.replicate 5 (.advance 1) ++
    [refresh, .advance 2, .takeUp (.logout (token 0)), .advance 3]
  have checked : (Machine.trace ((sessionCalls service).next drawnBefore) signedOut events).any
      (fun executed => decide (executed.2.calls.map succeeded = [true, true, false, true]) &&
        executed.1.all (readsAlone service)) = true := by decide
  obtain ⟨⟨history, final⟩, executed, holds⟩ := (Option.any_eq_true _ _).mp checked
  obtain ⟨ended, alone⟩ := (Bool.and_eq_true _ _).mp holds
  have run : (sessionMachine service).Run signedOut history final :=
    Machine.trace_run _ ((sessionCalls service).next_step drawnBefore_sound) executed
  exact ⟨history, final, run, of_decide_eq_true ended,
    refresh_token_used_once service signedOut_init run (List.all_eq_true.mp alone)⟩

/-- Two refreshes read the token before either revokes it: both succeed. -/
theorem refresh_token_used_twice :
    ¬ ∀ (svc : AuthService) (start final : SessionPool) (history : List SessionTransition),
      (sessionMachine svc).init start → (sessionMachine svc).Run start history final →
      SingleUse svc final ∧ LogoutsFinal history final := by
  intro claim
  let events : List SessionEvent := signIn ++ [refresh, refresh, .advance 1, .advance 2] ++
    List.replicate 4 (.advance 1) ++ List.replicate 4 (.advance 2)
  have checked : (Machine.trace ((sessionCalls service).next drawnBefore) signedOut events).bind
      (fun executed => executed.2.calls[1]?.bind fun x => executed.2.calls[2]?.map fun y =>
        (succeeded x && succeeded y, refreshes x.call, refreshes y.call)) =
      some (true, some (token 0), some (token 0)) := by decide
  obtain ⟨⟨history, final⟩, executed, found⟩ := Option.bind_eq_some_iff.mp checked
  obtain ⟨x, heldX, found⟩ := Option.bind_eq_some_iff.mp found
  obtain ⟨y, heldY, same⟩ := Option.map_eq_some_iff.mp found
  obtain ⟨both, refreshX, refreshY⟩ : (succeeded x && succeeded y) = true ∧
      refreshes x.call = some (token 0) ∧ refreshes y.call = some (token 0) := by simpa using same
  have ok := (Bool.and_eq_true _ _).mp both
  have run : (sessionMachine service).Run signedOut history final :=
    Machine.trace_run _ ((sessionCalls service).next_step drawnBefore_sound) executed
  have once := (claim service signedOut final history signedOut_init run).1.succeeds (token 0) 1 2 x y
    heldX heldY refreshX refreshY (succeeded_sound ok.1) (succeeded_sound ok.2)
  exact absurd once (by decide)

end Runs

end MessagingSystem.Guarantees.RefreshOnce
