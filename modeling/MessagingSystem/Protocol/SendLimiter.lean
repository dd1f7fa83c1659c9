import MessagingSystem.Foundation.NotedCalls
import MessagingSystem.Source.Server.RateLimit

/-!
# Interleaved rate-limited sends

Calls of `isMessageSendRateLimited` run interleaved over one Redis, one command a
step. A command may fail before Redis has executed it or with its reply lost, and
time passes between the commands. A call notes each counter it has charged.
-/
namespace MessagingSystem.Protocol
open Foundation Source.Server Source.Server.RateLimit Program

def userLimit (env : MessageSendEnv) (opts : SendAttempt) : String × Nat :=
  (if opts.isGuest then "ratelimit:message-send:guest-user:" ++ opts.userId
    else "ratelimit:message-send:user:" ++ opts.userId,
  if opts.isGuest then env.GUEST_MESSAGE_SEND_RATE_LIMIT_MAX_PER_USER
    else env.MESSAGE_SEND_RATE_LIMIT_MAX_PER_USER)

def ipLimit (env : MessageSendEnv) (opts : SendAttempt) : String × Nat :=
  ("ratelimit:message-send:ip:" ++ opts.ip, env.MESSAGE_SEND_RATE_LIMIT_MAX_PER_IP)

def socketLimit (env : MessageSendEnv) (socketId : String) : String × Nat :=
  ("ratelimit:message-send:socket:" ++ socketId, env.MESSAGE_SEND_RATE_LIMIT_MAX_PER_SOCKET)

/-- The limits of an attempt: the key of each counter it charges, and its cap. -/
def limits (env : MessageSendEnv) (opts : SendAttempt) : List (String × Nat) :=
  userLimit env opts :: ipLimit env opts :: (opts.socketId.map (socketLimit env)).toList

/-- What a call has been answered, and the counter it has created and not yet given an expiry. -/
structure LimiterNotes where
  replies : List (String × Nat) := []
  opened : Option String := none

def LimiterNotes.note : {β : Type} → LimiterNotes → CounterCommand β → β → LimiterNotes
  | _, n, .incr key, reply => ⟨n.replies ++ [(key, reply)], if reply = 1 then some key else none⟩
  | _, n, .expire _ _, _ => { n with opened := none }

/-- A call gives a counter it has created its expiry before it goes on. -/
def OpensOne (env : MessageSendEnv) {β : Type} (n : LimiterNotes) : CounterCommand β → Prop
  | .incr _ => n.opened = none
  | .expire key seconds => n.opened = some key ∧ seconds = env.MESSAGE_SEND_RATE_LIMIT_WINDOW_SEC

/-- A call is admitted when every reply is within its cap, and limited when one is not. -/
def Decided (env : MessageSendEnv) (opts : SendAttempt) (n : LimiterNotes) : Except AppError Bool → Prop
  | .ok false => n.opened = none ∧
      List.Forall₂ (fun reply limit => reply.1 = limit.1 ∧ reply.2 ≤ limit.2) n.replies (limits env opts)
  | .ok true => n.opened = none ∧
      ∃ reply ∈ n.replies, ∃ limit ∈ limits env opts, reply.1 = limit.1 ∧ limit.2 < reply.2
  | .error _ => False

/-- What a call has still to do, given its notes. -/
abbrev Follows (env : MessageSendEnv) (opts : SendAttempt) (n : LimiterNotes) (rest : CounterProgram Bool) : Prop :=
  Along LimiterNotes.note (fun _ _ => True) (OpensOne env) (Decided env opts) n rest

section Program

variable {env : MessageSendEnv} {opts : SendAttempt} {n : LimiterNotes}

theorem follows_exceeded {key : String} {max : Nat} {f : Bool → CounterProgram Bool} (idle : n.opened = none)
    (rest : ∀ reply, Follows env opts ⟨n.replies ++ [(key, reply)], none⟩ (f (decide (max < reply)))) :
    Follows env opts n (rateLimitExceeded key env.MESSAGE_SEND_RATE_LIMIT_WINDOW_SEC max >>= f) := by
  unfold rateLimitExceeded fixedWindowIncrement
  rw [perform_bind, command_bind, command_bind]
  refine along_command.mpr ⟨idle, fun reply _ => ?_⟩
  by_cases first : reply = 1
  · rw [if_pos first, perform_bind, command_bind, command_bind]
    refine along_command.mpr ⟨⟨if_pos first, rfl⟩, fun _ _ => ?_⟩
    exact rest reply
  · rw [if_neg first]
    have unopened : (if reply = 1 then some key else none) = none := if_neg first
    have noted : LimiterNotes.note n (.incr key) reply = ⟨n.replies ++ [(key, reply)], none⟩ := by
      simp only [LimiterNotes.note, unopened]
    rw [noted]
    exact rest reply

/-- A whole call charges its limits one after the other. -/
theorem follows_limited (env : MessageSendEnv) (opts : SendAttempt) :
    Follows env opts {} (isMessageSendRateLimited env opts) := by
  have refused : ∀ (n : LimiterNotes) (limit : String × Nat) (reply : Nat), limit ∈ limits env opts →
      limit.2 < reply → Follows env opts ⟨n.replies ++ [(limit.1, reply)], none⟩ (pure true) :=
    fun n limit reply listed exceeds => along_pure
      ⟨rfl, (limit.1, reply), List.mem_append_right _ (List.mem_singleton_self _), limit, listed, rfl, exceeds⟩
  have user : userLimit env opts ∈ limits env opts := List.mem_cons_self ..
  have ip : ipLimit env opts ∈ limits env opts := List.mem_cons_of_mem _ (List.mem_cons_self ..)
  unfold isMessageSendRateLimited
  refine @follows_exceeded _ _ _ (userLimit env opts).1 (userLimit env opts).2 _ rfl fun first => ?_
  by_cases tooMany : (userLimit env opts).2 < first
  · rw [decide_eq_true tooMany, if_pos rfl]
    exact refused {} _ first user tooMany
  rw [decide_eq_false tooMany, if_neg Bool.false_ne_true]
  refine @follows_exceeded _ _ _ (ipLimit env opts).1 (ipLimit env opts).2 _ rfl fun second => ?_
  by_cases tooManyIp : (ipLimit env opts).2 < second
  · rw [decide_eq_true tooManyIp, if_pos rfl]
    exact refused _ _ second ip tooManyIp
  rw [decide_eq_false tooManyIp, if_neg Bool.false_ne_true]
  have userFits := Nat.le_of_not_lt tooMany
  have ipFits := Nat.le_of_not_lt tooManyIp
  cases given : opts.socketId with
  | none =>
    refine along_pure ⟨rfl, ?_⟩
    unfold limits
    rw [given]
    exact .cons ⟨rfl, userFits⟩ (.cons ⟨rfl, ipFits⟩ .nil)
  | some socketId =>
    refine @follows_exceeded _ _ _ (socketLimit env socketId).1 (socketLimit env socketId).2 _ rfl
      fun third => ?_
    by_cases tooManySocket : (socketLimit env socketId).2 < third
    · rw [decide_eq_true tooManySocket, if_pos rfl]
      refine refused _ _ third ?_ tooManySocket
      unfold limits
      rw [given]
      exact List.mem_cons_of_mem _ (List.mem_cons_of_mem _ (List.mem_cons_self ..))
    · rw [decide_eq_false tooManySocket, if_neg Bool.false_ne_true]
      refine along_pure ⟨rfl, ?_⟩
      unfold limits
      rw [given]
      exact .cons ⟨rfl, userFits⟩ (.cons ⟨rfl, ipFits⟩ (.cons ⟨rfl, Nat.le_of_not_lt tooManySocket⟩ .nil))

end Program

/-- A counter that a call has charged, with the reply. `quiet` notes that no command on the
key had been executed for one window. -/
structure Charge where
  key : String
  number : Nat
  reply : Nat
  quiet : Bool
  deriving DecidableEq

structure LimiterCall where
  opts : SendAttempt
  charges : List Charge := []
  opened : Option String := none
  rest : CounterProgram Bool

/-- Redis, the calls taken up, and the time of the last command on each key. -/
structure SendLimiter where
  redis : RedisCounters := {}
  calls : List LimiterCall := []
  touched : Record Nat := ∅

inductive LimiterEvent where
  | takeUp (opts : SendAttempt)
  | advance (index : Nat)
  /-- The next command of a call fails unexecuted, or the call ends before it. -/
  | abort (index : Nat) (e : AppError)
  /-- The next command is executed, and its reply is lost. -/
  | lose (index : Nat) (e : AppError)
  | pass (milliseconds : Nat)

namespace LimiterCall

def isRunning (call : LimiterCall) : Bool :=
  match call.rest with
  | .command _ _ => true
  | .done _ => false

/-- The call has created the counter and has still to give it an expiry. -/
def opening (call : LimiterCall) (key : String) : Bool := call.isRunning && call.opened = some key

def admitted (call : LimiterCall) : Bool :=
  match call.rest with
  | .done (.ok false) => true
  | _ => false

def limited (call : LimiterCall) : Bool :=
  match call.rest with
  | .done (.ok true) => true
  | _ => false

def crashed (call : LimiterCall) : Bool :=
  match call.rest with
  | .done (.error _) => true
  | _ => false

def notes (call : LimiterCall) : LimiterNotes := ⟨call.charges.map fun c => (c.key, c.reply), call.opened⟩

end LimiterCall

namespace SendLimiter

variable (env : MessageSendEnv) (s : SendLimiter)

/-- No command on the key has been executed for one window. -/
def quiet (key : String) : Bool :=
  (s.touched.get key).all fun t => t + 1000 * env.MESSAGE_SEND_RATE_LIMIT_WINDOW_SEC ≤ s.redis.now

def charge (key : String) : Charge where
  key := key
  number := match s.redis.live key with
    | some c => c.number
    | none => s.redis.created
  reply := (CounterCommand.exec (.incr key) s.redis).1
  quiet := s.quiet env key

/-- A call that has seen its command executed. -/
def noted {β : Type} (call : LimiterCall) : CounterCommand β → LimiterCall
  | .incr key => { call with
      charges := call.charges ++ [s.charge env key]
      opened := if (CounterCommand.exec (.incr key) s.redis).1 = 1 then some key else none }
  | .expire _ _ => { call with opened := none }

/-- A command is executed, and its call has this left to do. -/
def executed {β : Type} (index : Nat) (call : LimiterCall) (c : CounterCommand β) (rest : CounterProgram Bool) :
    SendLimiter where
  redis := (c.exec s.redis).2
  calls := s.calls.set index { s.noted env call c with rest := rest }
  touched := s.touched.set (match c with
    | .incr key => key
    | .expire key _ => key) s.redis.now

inductive Step : SendLimiter → LimiterEvent → SendLimiter → Prop where
  | takeUp (s : SendLimiter) (opts : SendAttempt) :
      Step s (.takeUp opts)
        { s with calls := s.calls ++ [{ opts := opts, rest := isMessageSendRateLimited env opts }] }
  | advance (s : SendLimiter) (index : Nat) (call : LimiterCall) {β : Type} (c : CounterCommand β)
      (next : β → CounterProgram Bool) (held : s.calls[index]? = some call) (running : call.rest = .command c next) :
      Step s (.advance index) (s.executed env index call c (next (c.exec s.redis).1))
  | abort (s : SendLimiter) (index : Nat) (e : AppError) (call : LimiterCall) {β : Type} (c : CounterCommand β)
      (next : β → CounterProgram Bool) (held : s.calls[index]? = some call) (running : call.rest = .command c next) :
      Step s (.abort index e) { s with calls := s.calls.set index { call with rest := .done (.error e) } }
  | lose (s : SendLimiter) (index : Nat) (e : AppError) (call : LimiterCall) {β : Type} (c : CounterCommand β)
      (next : β → CounterProgram Bool) (held : s.calls[index]? = some call) (running : call.rest = .command c next) :
      Step s (.lose index e) (s.executed env index call c (.done (.error e)))
  | pass (s : SendLimiter) (milliseconds : Nat) :
      Step s (.pass milliseconds) { s with redis := { s.redis with now := s.redis.now + milliseconds } }

end SendLimiter

/-- Runs from a Redis without counters of the limiter. -/
def limiterMachine (env : MessageSendEnv) : Machine SendLimiter LimiterEvent where
  init s := s.redis.counters = ∅ ∧ s.calls = [] ∧ s.touched = ∅
  step := SendLimiter.Step env

/-- The replies of a counter are counted from 1 on, and no two calls get the same. -/
structure Numbered (s : SendLimiter) : Prop where
  created : ∀ key c, s.redis.counters.get key = some c → c.number < s.redis.created
  charged : ∀ call ∈ s.calls, ∀ ch ∈ call.charges, ch.number < s.redis.created ∧ 1 ≤ ch.reply ∧
    ∀ c, s.redis.counters.get ch.key = some c → c.number = ch.number → ch.reply ≤ c.value
  distinct : ∀ (i j : Nat) (x y : LimiterCall), s.calls[i]? = some x → s.calls[j]? = some y → i ≠ j →
    ∀ a ∈ x.charges, ∀ b ∈ y.charges, a.key = b.key → a.number = b.number → a.reply ≠ b.reply

/-- Each call that has not crashed follows its notes. -/
def AllFollow (env : MessageSendEnv) (s : SendLimiter) : Prop :=
  ∀ call ∈ s.calls, call.crashed = false → Follows env call.opts call.notes call.rest

section Steps

variable {env : MessageSendEnv} {s t : SendLimiter} {event : LimiterEvent}

/-- What `INCR` answers and leaves. -/
theorem incr_exec (key : String) :
    (∃ c, s.redis.live key = some c ∧ s.redis.counters.get key = some c ∧
      (CounterCommand.exec (.incr key) s.redis) = (c.value + 1,
        { s.redis with counters := s.redis.counters.set key { c with value := c.value + 1 } })) ∨
    (s.redis.live key = none ∧ (CounterCommand.exec (.incr key) s.redis) = (1,
      { s.redis with
        counters := s.redis.counters.set key { value := 1, number := s.redis.created }
        created := s.redis.created + 1 })) := by
  cases alive : s.redis.live key with
  | some c =>
    refine .inl ⟨c, rfl, (Option.filter_eq_some_iff.mp alive).1, ?_⟩
    simp only [CounterCommand.exec, alive]
  | none =>
    refine .inr ⟨rfl, ?_⟩
    simp only [CounterCommand.exec, alive]

/-- What `EXPIRE` leaves. -/
theorem expire_exec (key : String) (seconds : Nat) :
    (∃ c, s.redis.live key = some c ∧ s.redis.counters.get key = some c ∧
      (CounterCommand.exec (.expire key seconds) s.redis).2 =
        { s.redis with
          counters := s.redis.counters.set key
            { c with expiresAt := some (s.redis.now + 1000 * seconds) } }) ∨
    (s.redis.live key = none ∧ (CounterCommand.exec (.expire key seconds) s.redis).2 = s.redis) := by
  cases alive : s.redis.live key with
  | some c =>
    refine .inl ⟨c, rfl, (Option.filter_eq_some_iff.mp alive).1, ?_⟩
    simp only [CounterCommand.exec, alive]
  | none =>
    refine .inr ⟨rfl, ?_⟩
    simp only [CounterCommand.exec, alive]

/-- Only the counter that is charged changes. -/
theorem incr_found (key other : String) {c : Counter}
    (found : (CounterCommand.exec (.incr key) s.redis).2.counters.get other = some c) :
    (other ≠ key ∧ s.redis.counters.get other = some c) ∨
    (other = key ∧ ∃ old, s.redis.live key = some old ∧ s.redis.counters.get key = some old ∧
      c = { old with value := old.value + 1 }) ∨
    (other = key ∧ s.redis.live key = none ∧ c = { value := 1, number := s.redis.created }) := by
  rcases @incr_exec s key with ⟨old, alive, stored, executed⟩ | ⟨dead, executed⟩
  · rw [executed] at found
    have found : (s.redis.counters.set key _).get other = some c := found
    rw [Record.get_set] at found
    by_cases same : other = key
    · rw [if_pos same] at found
      exact .inr (.inl ⟨same, old, alive, stored, (Option.some.inj found).symm⟩)
    · rw [if_neg same] at found
      exact .inl ⟨same, found⟩
  · rw [executed] at found
    have found : (s.redis.counters.set key _).get other = some c := found
    rw [Record.get_set] at found
    by_cases same : other = key
    · rw [if_pos same] at found
      exact .inr (.inr ⟨same, dead, (Option.some.inj found).symm⟩)
    · rw [if_neg same] at found
      exact .inl ⟨same, found⟩

/-- Only the expiry of a live counter changes. -/
theorem expire_found (key other : String) (seconds : Nat) {c : Counter}
    (found : (CounterCommand.exec (.expire key seconds) s.redis).2.counters.get other = some c) :
    (s.redis.counters.get other = some c ∧ (other = key → s.redis.live key = none)) ∨
    (other = key ∧ ∃ old, s.redis.counters.get key = some old ∧
      c = { old with expiresAt := some (s.redis.now + 1000 * seconds) }) := by
  rcases @expire_exec s key seconds with ⟨old, -, stored, executed⟩ | ⟨dead, executed⟩
  · rw [executed] at found
    have found : (s.redis.counters.set key _).get other = some c := found
    rw [Record.get_set] at found
    by_cases same : other = key
    · rw [if_pos same] at found
      exact .inr ⟨same, old, stored, (Option.some.inj found).symm⟩
    · rw [if_neg same] at found
      exact .inl ⟨found, fun here => absurd here same⟩
  · rw [executed] at found
    exact .inl ⟨found, fun _ => dead⟩

theorem noted_notes {β : Type} (call : LimiterCall) (c : CounterCommand β) (rest : CounterProgram Bool) :
    LimiterCall.notes { s.noted env call c with rest := rest } = call.notes.note c (c.exec s.redis).1 := by
  cases c with
  | incr key =>
    simp only [LimiterCall.notes, SendLimiter.noted, LimiterNotes.note, List.map_append, List.map_cons, List.map_nil]
    rfl
  | expire key seconds => rfl

theorem exec_now {β : Type} (c : CounterCommand β) : (c.exec s.redis).2.now = s.redis.now := by
  cases c with
  | incr key => rcases @incr_exec s key with ⟨c, -, -, executed⟩ | ⟨-, executed⟩ <;> rw [executed]
  | expire key seconds =>
    rcases @expire_exec s key seconds with ⟨c, -, -, executed⟩ | ⟨-, executed⟩ <;> rw [executed]

theorem AllFollow.step (follow : AllFollow env s) (taken : SendLimiter.Step env s event t) : AllFollow env t := by
  cases taken with
  | takeUp opts =>
    intro call listed _
    rcases List.mem_append.mp listed with old | new
    · exact follow call old ‹_›
    · obtain rfl := List.mem_singleton.mp new
      exact follows_limited env opts
  | advance index call c next held running =>
    intro entry listed _
    rcases List.mem_or_eq_of_mem_set listed with old | rfl
    · exact follow entry old ‹_›
    · have here := follow call (List.mem_of_getElem? held) (by simp only [LimiterCall.crashed, running])
      rw [running] at here
      rw [noted_notes]
      have opts : ({ s.noted env call c with rest := next (c.exec s.redis).1 } : LimiterCall).opts = call.opts := by
        cases c <;> rfl
      rw [opts]
      exact (along_command.mp here).2 _ trivial
  | abort index e call c next held running =>
    intro entry listed sound
    rcases List.mem_or_eq_of_mem_set listed with old | rfl
    · exact follow entry old sound
    · cases sound
  | lose index e call c next held running =>
    intro entry listed sound
    rcases List.mem_or_eq_of_mem_set listed with old | rfl
    · exact follow entry old sound
    · cases sound
  | pass milliseconds => exact follow

/-- A step that charges no counter leaves the replies numbered. -/
theorem Numbered.of_same (num : Numbered s) (created : t.redis.created = s.redis.created)
    (counters : ∀ key c, t.redis.counters.get key = some c → ∃ c', s.redis.counters.get key = some c' ∧
      c'.number = c.number ∧ c'.value ≤ c.value)
    (calls : ∀ (i : Nat) (y : LimiterCall), t.calls[i]? = some y →
      y.charges = [] ∨ ∃ x, s.calls[i]? = some x ∧ x.charges = y.charges) : Numbered t := by
  have charges : ∀ (i : Nat) (y : LimiterCall), t.calls[i]? = some y → ∀ a ∈ y.charges,
      ∃ x, s.calls[i]? = some x ∧ a ∈ x.charges := by
    intro i y held a listed
    rcases calls i y held with none | ⟨x, before, same⟩
    · rw [none] at listed
      cases listed
    · exact ⟨x, before, same ▸ listed⟩
  refine ⟨?_, ?_, ?_⟩
  · intro key c found
    obtain ⟨c', before, number, -⟩ := counters key c found
    rw [created, ← number]
    exact num.created key c' before
  · intro call listed ch charged
    obtain ⟨i, held⟩ := List.mem_iff_getElem?.mp listed
    obtain ⟨x, before, old⟩ := charges i call held ch charged
    obtain ⟨number, positive, bounded⟩ := num.charged x (List.mem_of_getElem? before) ch old
    refine ⟨created ▸ number, positive, fun c found same => ?_⟩
    obtain ⟨c', earlier, number, value⟩ := counters ch.key c found
    exact Nat.le_trans (bounded c' earlier (number.trans same)) value
  · intro i j x y first second apart a inFirst b inSecond
    obtain ⟨x', before, old⟩ := charges i x first a inFirst
    obtain ⟨y', before', old'⟩ := charges j y second b inSecond
    exact num.distinct i j x' y' before before' apart a old b old'

/-- A charge of a counter has a reply that no earlier charge of it has. -/
theorem Numbered.fresh (num : Numbered s) (env : MessageSendEnv) (key : String) :
    ∀ call ∈ s.calls, ∀ a ∈ call.charges, a.key = key →
    a.number = (s.charge env key).number → a.reply < (s.charge env key).reply := by
  intro call listed a charged same number
  obtain ⟨old, -, bounded⟩ := num.charged call listed a charged
  unfold SendLimiter.charge at number ⊢
  rcases @incr_exec s key with ⟨c, alive, found, executed⟩ | ⟨dead, executed⟩
  · rw [alive] at number
    have within := bounded c (same ▸ found) number.symm
    rw [executed]
    exact Nat.lt_succ_of_le within
  · rw [dead] at number
    exact absurd number (Nat.ne_of_lt old)

/-- The counter that is charged is created, or its value rises. -/
theorem Numbered.counter (num : Numbered s) (env : MessageSendEnv) (key other : String) {c : Counter}
    (found : (CounterCommand.exec (.incr key) s.redis).2.counters.get other = some c) :
    (other ≠ key ∧ s.redis.counters.get other = some c) ∨
    (other = key ∧ c.number = (s.charge env key).number ∧ c.value = (s.charge env key).reply ∧
      ∀ c', s.redis.counters.get key = some c' → c'.number = c.number → c'.value ≤ c.value) := by
  unfold SendLimiter.charge
  rcases incr_found key other found with old | ⟨same, old, alive, stored, rfl⟩ | ⟨same, dead, rfl⟩
  · exact .inl old
  · refine .inr ⟨same, by rw [alive], by simp only [CounterCommand.exec, alive], fun c' before _ => ?_⟩
    obtain rfl := Option.some.inj (stored.symm.trans before)
    exact Nat.le_succ _
  · refine .inr ⟨same, by rw [dead], by simp only [CounterCommand.exec, dead], fun c' before number => ?_⟩
    exact absurd number (Nat.ne_of_lt (num.created key c' before))

theorem Numbered.incr (num : Numbered s) {index : Nat} {call : LimiterCall} (held : s.calls[index]? = some call)
    (key : String) (rest : CounterProgram Bool) : Numbered (s.executed env index call (.incr key) rest) := by
  have fresh := num.fresh env key
  have entries : ∀ (i : Nat) (y : LimiterCall), (s.executed env index call (.incr key) rest).calls[i]? = some y →
      (i ≠ index ∧ s.calls[i]? = some y) ∨ (i = index ∧ y.charges = call.charges ++ [s.charge env key]) := by
    intro i y found
    by_cases here : index = i
    · subst here
      obtain ⟨bound, -⟩ := List.getElem?_eq_some_iff.mp held
      have set := List.getElem?_set_self (a := ({ s.noted env call (.incr key) with rest := rest } : LimiterCall)) bound
      obtain rfl := Option.some.inj (set.symm.trans found)
      exact .inr ⟨rfl, rfl⟩
    · have same := List.getElem?_set_ne here
        (a := ({ s.noted env call (.incr key) with rest := rest } : LimiterCall)) (l := s.calls)
      exact .inl ⟨Ne.symm here, same.symm.trans found⟩
  have grows : s.redis.created ≤ (CounterCommand.exec (.incr key) s.redis).2.created := by
    rcases @incr_exec s key with ⟨c, -, -, executed⟩ | ⟨-, executed⟩ <;> rw [executed]
    exact Nat.le_succ _
  have below : (s.charge env key).number < (CounterCommand.exec (.incr key) s.redis).2.created ∧
      1 ≤ (s.charge env key).reply := by
    unfold SendLimiter.charge
    rcases @incr_exec s key with ⟨c, alive, stored, executed⟩ | ⟨dead, executed⟩
    · rw [alive, executed]
      exact ⟨num.created key c stored, Nat.succ_pos _⟩
    · rw [dead, executed]
      exact ⟨Nat.lt_succ_self _, Nat.le_refl _⟩
  have member : ∀ (i : Nat) (y : LimiterCall), (s.executed env index call (.incr key) rest).calls[i]? = some y →
      ∀ a ∈ y.charges, (∃ x, s.calls[i]? = some x ∧ a ∈ x.charges) ∨ (i = index ∧ a = s.charge env key) := by
    intro i y found a charged
    rcases entries i y found with ⟨-, old⟩ | ⟨rfl, charges⟩
    · exact .inl ⟨y, old, charged⟩
    · rw [charges] at charged
      rcases List.mem_append.mp charged with old | new
      · exact .inl ⟨call, held, old⟩
      · exact .inr ⟨rfl, List.mem_singleton.mp new⟩
  refine ⟨?_, ?_, ?_⟩
  · intro other c found
    rcases num.counter env key other found with ⟨-, before⟩ | ⟨-, number, -⟩
    · exact Nat.lt_of_lt_of_le (num.created other c before) grows
    · rw [number]
      exact below.1
  · intro entry listed ch charged
    obtain ⟨i, found⟩ := List.mem_iff_getElem?.mp listed
    rcases member i entry found ch charged with ⟨x, before, old⟩ | ⟨-, rfl⟩
    · obtain ⟨number, positive, bounded⟩ := num.charged x (List.mem_of_getElem? before) ch old
      refine ⟨Nat.lt_of_lt_of_le number grows, positive, fun c stored same => ?_⟩
      rcases num.counter env key ch.key stored with ⟨-, was⟩ | ⟨here, ofCharge, value, -⟩
      · exact bounded c was same
      · rw [value]
        exact Nat.le_of_lt (num.fresh env key x (List.mem_of_getElem? before) ch old here (same.symm.trans ofCharge))
    · refine ⟨below.1, below.2, fun c stored _ => ?_⟩
      rcases num.counter env key key stored with ⟨other, -⟩ | ⟨-, -, value, -⟩
      · exact absurd rfl other
      · exact Nat.le_of_eq value.symm
  · intro i j x y first second apart a inFirst b inSecond sameKey sameNumber
    rcases member i x first a inFirst with ⟨x', before, old⟩ | ⟨here, rfl⟩
    · rcases member j y second b inSecond with ⟨y', before', old'⟩ | ⟨-, rfl⟩
      · exact num.distinct i j x' y' before before' apart a old b old' sameKey sameNumber
      · exact Nat.ne_of_lt (num.fresh env key x' (List.mem_of_getElem? before) a old sameKey sameNumber)
    · rcases member j y second b inSecond with ⟨y', before', old'⟩ | ⟨there, -⟩
      · exact Ne.symm (Nat.ne_of_lt (num.fresh env key y' (List.mem_of_getElem? before') b old' sameKey.symm
          sameNumber.symm))
      · exact absurd (here.trans there.symm) apart

theorem Numbered.expire (num : Numbered s) {index : Nat} {call : LimiterCall} (held : s.calls[index]? = some call)
    (key : String) (seconds : Nat) (rest : CounterProgram Bool) :
    Numbered (s.executed env index call (.expire key seconds) rest) := by
  refine num.of_same ?_ ?_ ?_
  · show (CounterCommand.exec (.expire key seconds) s.redis).2.created = s.redis.created
    rcases @expire_exec s key seconds with ⟨c, -, -, executed⟩ | ⟨-, executed⟩ <;> rw [executed]
  · intro other c found
    rcases expire_found key other seconds found with ⟨old, -⟩ | ⟨same, old, stored, rfl⟩
    · exact ⟨c, old, rfl, Nat.le_refl _⟩
    · exact ⟨old, same ▸ stored, rfl, Nat.le_refl _⟩
  · intro i y found
    have found : (s.calls.set index _)[i]? = some y := found
    by_cases here : index = i
    · subst here
      obtain ⟨bound, -⟩ := List.getElem?_eq_some_iff.mp held
      rw [List.getElem?_set_self bound] at found
      obtain rfl := Option.some.inj found
      exact .inr ⟨call, held, rfl⟩
    · rw [List.getElem?_set_ne here] at found
      exact .inr ⟨y, found, rfl⟩

theorem Numbered.step (num : Numbered s) (taken : SendLimiter.Step env s event t) : Numbered t := by
  have same : ∀ key c, s.redis.counters.get key = some c → ∃ c', s.redis.counters.get key = some c' ∧
      c'.number = c.number ∧ c'.value ≤ c.value := fun key c found => ⟨c, found, rfl, Nat.le_refl _⟩
  have executes : ∀ {β : Type} (index : Nat) (call : LimiterCall) (c : CounterCommand β)
      (rest : CounterProgram Bool), s.calls[index]? = some call → Numbered (s.executed env index call c rest) := by
    intro β index call c rest held
    cases c with
    | incr key => exact num.incr held key rest
    | expire key seconds => exact num.expire held key seconds rest
  cases taken with
  | takeUp opts =>
    refine num.of_same rfl same fun i y found => ?_
    rw [List.getElem?_append] at found
    split at found
    · exact .inr ⟨y, found, rfl⟩
    · obtain rfl := List.mem_singleton.mp (List.mem_of_getElem? found)
      exact .inl rfl
  | advance index call c next held running => exact executes index call c _ held
  | abort index e call c next held running =>
    refine num.of_same rfl same fun i y found => ?_
    by_cases here : index = i
    · subst here
      obtain ⟨bound, -⟩ := List.getElem?_eq_some_iff.mp held
      rw [List.getElem?_set_self bound] at found
      obtain rfl := Option.some.inj found
      exact .inr ⟨call, held, rfl⟩
    · rw [List.getElem?_set_ne here] at found
      exact .inr ⟨y, found, rfl⟩
  | lose index e call c next held running => exact executes index call c _ held
  | pass milliseconds => exact num.of_same rfl same fun i y found => .inr ⟨y, found, rfl⟩

end Steps

end MessagingSystem.Protocol
