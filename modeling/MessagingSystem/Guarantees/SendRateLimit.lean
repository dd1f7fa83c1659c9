import MessagingSystem.Protocol.SendLimiter
import Mathlib.Data.List.Count
import Mathlib.Data.Finset.Card
import Mathlib.Order.Interval.Finset.Nat

/-!
# Rate-limited sends

However the calls interleave and fail, a counter admits no more calls than its
cap. A caller whose keys have seen no command for one window is admitted, unless
a call has ended between the `INCR` that created a counter and its `EXPIRE`, or is
late with the `EXPIRE`: until then the counter does not expire.
-/
namespace MessagingSystem.Guarantees.SendRateLimit
open Foundation Source.Server Source.Server.RateLimit Protocol Program

/-- The dimensions of the limits. -/
inductive LimitDimension where
  | user | guestUser | ip | socket

def LimitDimension.label : LimitDimension → String
  | .user => "ratelimit:message-send:user:"
  | .guestUser => "ratelimit:message-send:guest-user:"
  | .ip => "ratelimit:message-send:ip:"
  | .socket => "ratelimit:message-send:socket:"

def LimitDimension.key (d : LimitDimension) (id : String) : String := d.label ++ id

def LimitDimension.cap (env : MessageSendEnv) : LimitDimension → Nat
  | .user => env.MESSAGE_SEND_RATE_LIMIT_MAX_PER_USER
  | .guestUser => env.GUEST_MESSAGE_SEND_RATE_LIMIT_MAX_PER_USER
  | .ip => env.MESSAGE_SEND_RATE_LIMIT_MAX_PER_IP
  | .socket => env.MESSAGE_SEND_RATE_LIMIT_MAX_PER_SOCKET

/-- The call has charged the counter with that number under that key. -/
def chargedTo (key : String) (number : Nat) (call : LimiterCall) : Bool :=
  call.charges.any fun ch => ch.key = key && ch.number = number

/-- Between its creation and its expiry a counter is charged by no more admitted calls than its cap. -/
def AdmissionsBounded (env : MessageSendEnv) (s : SendLimiter) : Prop :=
  ∀ (dimension : LimitDimension) (id : String) (number : Nat),
    s.calls.countP (fun call => call.admitted && chargedTo (dimension.key id) number call) ≤ dimension.cap env

/-- A call is limited only when one of its keys had received a call within the window. -/
def CallersRecover (s : SendLimiter) : Prop :=
  ∀ call ∈ s.calls, call.limited = true → ∃ ch ∈ call.charges, ch.quiet = false

abbrev LimiterTransition := Transition SendLimiter LimiterEvent

/-- The next command of the call creates a counter. -/
def creates (redis : RedisCounters) (call : LimiterCall) : Bool :=
  match call.rest with
  | .command (.incr key) _ => (redis.live key).isNone
  | _ => false

/-- The next command of the call charges a key on which no command has been executed for one
window, while a call has still to give its counter the expiry. -/
def overtakesExpiry (env : MessageSendEnv) (s : SendLimiter) (call : LimiterCall) : Bool :=
  match call.rest with
  | .command (.incr key) _ => s.quiet env key && s.calls.any fun other => other.opening key
  | _ => false

/-- No call ends between the `INCR` that creates a counter and its `EXPIRE`, and none comes to the
key in a later window before the `EXPIRE` does. -/
def ExpiryGiven (env : MessageSendEnv) (t : LimiterTransition) : Prop :=
  match t.label with
  | .advance index => ∀ call, t.source.calls[index]? = some call → overtakesExpiry env t.source call = false
  | .abort index _ => ∀ call, t.source.calls[index]? = some call → call.opened = none
  | .lose index _ => ∀ call, t.source.calls[index]? = some call → creates t.source.redis call = false
  | _ => True

section Keys

variable {env : MessageSendEnv}

/-- The letter that tells the keys of the dimensions apart. -/
def LimitDimension.letter : LimitDimension → Char
  | .user => 'u'
  | .guestUser => 'g'
  | .ip => 'i'
  | .socket => 's'

theorem key_letter (d : LimitDimension) (id : String) : (d.key id).toList[23]? = some d.letter := by
  have label : d.label.toList[23]? = some d.letter := by cases d <;> decide
  obtain ⟨bound, -⟩ := List.getElem?_eq_some_iff.mp label
  rw [LimitDimension.key, String.toList_append, List.getElem?_append_left bound]
  exact label

theorem key_inj {d d' : LimitDimension} {id id' : String} (same : d.key id = d'.key id') : d = d' := by
  have letters : d.letter = d'.letter := by
    have first := key_letter d id
    rw [same, key_letter d' id'] at first
    exact (Option.some.inj first).symm
  clear same
  cases d <;> cases d' <;> first | rfl | exact absurd letters (by decide)

/-- Each limit of an attempt is the cap of its dimension. -/
theorem mem_limits {opts : SendAttempt} {limit : String × Nat} (listed : limit ∈ limits env opts) :
    ∃ (d : LimitDimension) (id : String), limit.1 = d.key id ∧ limit.2 = d.cap env := by
  rcases List.mem_cons.mp listed with rfl | listed
  · cases guest : opts.isGuest with
    | true => exact ⟨.guestUser, opts.userId, if_pos guest, if_pos guest⟩
    | false =>
      have registered : ¬ opts.isGuest = true := by rw [guest]; exact Bool.false_ne_true
      exact ⟨.user, opts.userId, if_neg registered, if_neg registered⟩
  · rcases List.mem_cons.mp listed with rfl | listed
    · exact ⟨.ip, opts.ip, rfl, rfl⟩
    · obtain ⟨socketId, -, rfl⟩ := Option.map_eq_some_iff.mp (Option.mem_toList.mp listed)
      exact ⟨.socket, socketId, rfl, rfl⟩

theorem cap_positive (env : MessageSendEnv) (d : LimitDimension) : 1 ≤ d.cap env := by
  cases d with
  | user => exact env.userPositive
  | guestUser => exact env.guestPositive
  | ip => exact env.ipPositive
  | socket => exact env.socketPositive

end Keys

/-- As many entries as have distinct numbers from 1 to a bound. -/
theorem countP_le_of_numbered {α : Type*} {l : List α} {p : α → Bool} {f : α → Nat} {cap : Nat}
    (distinct : l.Pairwise fun a b => p a = true → p b = true → f a ≠ f b)
    (within : ∀ a ∈ l, p a = true → 1 ≤ f a ∧ f a ≤ cap) : l.countP p ≤ cap := by
  have numbers : ((l.filter p).map f).Nodup := by
    rw [List.Nodup, List.pairwise_map]
    have kept := distinct.sublist (List.filter_sublist (p := p))
    exact kept.imp_of_mem fun inFirst inSecond apart =>
      apart (List.mem_filter.mp inFirst).2 (List.mem_filter.mp inSecond).2
  have subset : ((l.filter p).map f).toFinset ⊆ Finset.Icc 1 cap := by
    intro n member
    obtain ⟨a, listed, rfl⟩ := List.mem_map.mp (List.mem_toFinset.mp member)
    obtain ⟨inList, holds⟩ := List.mem_filter.mp listed
    exact Finset.mem_Icc.mpr (within a inList holds)
  have card := Finset.card_le_card subset
  rw [List.toFinset_card_of_nodup numbers, List.length_map, Nat.card_Icc, Nat.add_sub_cancel] at card
  rw [List.countP_eq_length_filter]
  exact card

section Bound

variable {env : MessageSendEnv} {s : SendLimiter}

/-- The reply of the first charge on a counter. -/
def replyOf (key : String) (number : Nat) (call : LimiterCall) : Nat :=
  ((call.charges.find? fun ch => ch.key = key && ch.number = number).map Charge.reply).getD 0

theorem replyOf_charge {key : String} {number : Nat} {call : LimiterCall} (charged : chargedTo key number call = true) :
    ∃ ch ∈ call.charges, ch.key = key ∧ ch.number = number ∧ replyOf key number call = ch.reply := by
  unfold replyOf
  cases found : call.charges.find? fun ch => ch.key = key && ch.number = number with
  | none =>
    obtain ⟨ch, listed, holds⟩ := List.any_eq_true.mp charged
    exact absurd holds (List.find?_eq_none.mp found ch listed)
  | some ch =>
    have matched := List.find?_some (p := fun ch : Charge => ch.key = key && ch.number = number) found
    obtain ⟨sameKey, sameNumber⟩ := Bool.and_eq_true_iff.mp matched
    exact ⟨ch, List.mem_of_find?_eq_some found, of_decide_eq_true sameKey, of_decide_eq_true sameNumber, rfl⟩

/-- An admitted call has a reply within the cap for each counter it has charged. -/
theorem admitted_within (follow : AllFollow env s) {call : LimiterCall} (listed : call ∈ s.calls)
    (admitted : call.admitted = true) {d : LimitDimension} {id : String} {ch : Charge} (charged : ch ∈ call.charges)
    (key : ch.key = d.key id) : ch.reply ≤ d.cap env := by
  unfold LimiterCall.admitted at admitted
  split at admitted
  · rename_i rest
    have here := follow call listed (by simp only [LimiterCall.crashed, rest])
    rw [rest] at here
    obtain ⟨-, replies⟩ := along_done.mp here
    have noted : (ch.key, ch.reply) ∈ call.notes.replies := List.mem_map.mpr ⟨ch, charged, rfl⟩
    obtain ⟨i, found⟩ := List.mem_iff_getElem?.mp noted
    obtain ⟨bound, same⟩ := List.getElem?_eq_some_iff.mp found
    have longer : i < (limits env call.opts).length := replies.length_eq ▸ bound
    obtain ⟨sameKey, fits⟩ := replies.get bound longer
    obtain ⟨d', id', limitKey, limitCap⟩ := mem_limits (List.get_mem (limits env call.opts) ⟨i, longer⟩)
    have pair : call.notes.replies.get ⟨i, bound⟩ = (ch.key, ch.reply) := same
    rw [pair] at sameKey fits
    have dimension : d = d' := key_inj (key.symm.trans (sameKey.trans limitKey))
    rw [dimension, ← limitCap]
    exact fits
  · cases admitted

theorem admissions_bounded (num : Numbered s) (follow : AllFollow env s) : AdmissionsBounded env s := by
  intro d id number
  refine countP_le_of_numbered (f := replyOf (d.key id) number) ?_ ?_
  · refine List.pairwise_iff_getElem.mpr fun i j first second before inFirst inSecond => ?_
    obtain ⟨-, chargedFirst⟩ := Bool.and_eq_true_iff.mp inFirst
    obtain ⟨-, chargedSecond⟩ := Bool.and_eq_true_iff.mp inSecond
    obtain ⟨a, listed, key, count, reply⟩ := replyOf_charge chargedFirst
    obtain ⟨b, listed', key', count', reply'⟩ := replyOf_charge chargedSecond
    rw [reply, reply']
    exact num.distinct i j _ _ (List.getElem?_eq_getElem first) (List.getElem?_eq_getElem second)
      (Nat.ne_of_lt before) a listed b listed' (key.trans key'.symm) (count.trans count'.symm)
  · intro call listed holds
    obtain ⟨admitted, charged⟩ := Bool.and_eq_true_iff.mp holds
    obtain ⟨ch, member, key, -, reply⟩ := replyOf_charge charged
    rw [reply]
    exact ⟨(num.charged call listed ch member).2.1, admitted_within follow listed admitted member key⟩

end Bound

/-- A call has still to give the counter of the key its expiry. -/
def Opening (s : SendLimiter) (key : String) : Prop :=
  ∃ (i : Nat) (call : LimiterCall), s.calls[i]? = some call ∧ call.opening key = true

/-- Every counter has an expiry, or a call that has still to give it one; and a key that
was quiet when a call that has not crashed charged it had no counter. -/
structure Expiring (env : MessageSendEnv) (s : SendLimiter) : Prop where
  past : ∀ key at', s.touched.get key = some at' → at' ≤ s.redis.now
  dated : ∀ key c at', s.redis.counters.get key = some c → c.expiresAt = some at' →
    ∃ t, s.touched.get key = some t ∧ at' ≤ t + 1000 * env.MESSAGE_SEND_RATE_LIMIT_WINDOW_SEC
  pending : ∀ key c, s.redis.counters.get key = some c → c.expiresAt = none → Opening s key
  charges : ∀ call ∈ s.calls, call.crashed = false → ∀ ch ∈ call.charges, ch.quiet = true → ch.reply = 1

section Expiry

variable {env : MessageSendEnv} {s t : SendLimiter} {event : LimiterEvent}

theorem live_of_undated {key : String} {c : Counter} (found : s.redis.counters.get key = some c)
    (undated : c.expiresAt = none) : s.redis.live key = some c :=
  Option.filter_eq_some_iff.mpr ⟨found, by rw [undated]; rfl⟩

/-- A quiet key that no call is opening has no live counter. -/
theorem Expiring.quiet_dead (inv : Expiring env s) {key : String} (quiet : s.quiet env key = true)
    (idle : (s.calls.any fun call => call.opening key) = false) : s.redis.live key = none := by
  have elapsed := quiet
  unfold SendLimiter.quiet at elapsed
  by_contra alive
  obtain ⟨c, found⟩ := Option.ne_none_iff_exists'.mp alive
  obtain ⟨stored, unexpired⟩ := Option.filter_eq_some_iff.mp found
  cases date : c.expiresAt with
  | none =>
    obtain ⟨i, call, held, opening⟩ := inv.pending key c stored date
    have some : (s.calls.any fun call => call.opening key) = true :=
      List.any_eq_true.mpr ⟨call, List.mem_of_getElem? held, opening⟩
    rw [some] at idle
    cases idle
  | some at' =>
    obtain ⟨last, touched, due⟩ := inv.dated key c at' stored date
    rw [touched] at elapsed
    rw [date] at unexpired
    have passed : last + 1000 * env.MESSAGE_SEND_RATE_LIMIT_WINDOW_SEC ≤ s.redis.now := of_decide_eq_true elapsed
    have before : s.redis.now < at' := of_decide_eq_true unexpired
    omega

theorem Expiring.quiet_first (inv : Expiring env s) {key : String} (quiet : s.quiet env key = true)
    (idle : (s.calls.any fun call => call.opening key) = false) : (s.charge env key).reply = 1 := by
  unfold SendLimiter.charge
  rcases @incr_exec s key with ⟨c, alive, -⟩ | ⟨-, executed⟩
  · rw [inv.quiet_dead quiet idle] at alive
    cases alive
  · rw [executed]

/-- The calls after one of them has executed its command. -/
theorem executed_calls (env : MessageSendEnv) {index : Nat} {call : LimiterCall}
    (held : s.calls[index]? = some call) {β : Type} (c : CounterCommand β) (rest : CounterProgram Bool) :
    (s.executed env index call c rest).calls[index]? = some { s.noted env call c with rest := rest } ∧
      ∀ i, i ≠ index → (s.executed env index call c rest).calls[i]? = s.calls[i]? := by
  obtain ⟨bound, -⟩ := List.getElem?_eq_some_iff.mp held
  exact ⟨List.getElem?_set_self bound, fun i other => List.getElem?_set_ne (Ne.symm other)⟩

/-- The calls opening a key are others than one whose opened key is another. -/
theorem opening_of_ne {call : LimiterCall} {key : String} (other : call.opened ≠ some key) :
    call.opening key = false := by
  unfold LimiterCall.opening
  rw [decide_eq_false other, Bool.and_false]

/-- The times of the last commands, once one more has been executed. -/
theorem Expiring.touched_set (inv : Expiring env s) (key : String) :
    (∀ other at', (s.touched.set key s.redis.now).get other = some at' → at' ≤ s.redis.now) ∧
    (∀ other last, s.touched.get other = some last →
      ∃ t, (s.touched.set key s.redis.now).get other = some t ∧ last ≤ t) := by
  constructor
  · intro other at' found
    rw [Record.get_set] at found
    split at found
    · exact Nat.le_of_eq (Option.some.inj found).symm
    · exact inv.past other at' found
  · intro other last before
    rw [Record.get_set]
    split
    · exact ⟨s.redis.now, rfl, inv.past other last before⟩
    · exact ⟨last, before, Nat.le_refl _⟩

/-- The calls opening a key that the moving call does not open. -/
theorem Opening.executed {index : Nat} {call : LimiterCall} (held : s.calls[index]? = some call) {key : String}
    (other : call.opened ≠ some key) (opening : Opening s key) {β : Type} (c : CounterCommand β)
    (rest : CounterProgram Bool) : Opening (s.executed env index call c rest) key := by
  obtain ⟨i, x, found, opens⟩ := opening
  have apart : i ≠ index := by
    rintro rfl
    obtain rfl := Option.some.inj (held.symm.trans found)
    rw [opening_of_ne other] at opens
    cases opens
  exact ⟨i, x, ((executed_calls env held c rest).2 i apart).trans found, opens⟩

theorem Expiring.incr (inv : Expiring env s) {index : Nat} {call : LimiterCall} (held : s.calls[index]? = some call)
    (key : String) (rest : CounterProgram Bool) (idle : call.opened = none)
    (goes : s.redis.live key = none →
      LimiterCall.opening { s.noted env call (.incr key) with rest := rest } key = true)
    (intact : call.crashed = false)
    (inTime : LimiterCall.crashed { s.noted env call (.incr key) with rest := rest } = false →
      s.quiet env key = true → (s.calls.any fun other => other.opening key) = false) :
    Expiring env (s.executed env index call (.incr key) rest) := by
  obtain ⟨moved, others⟩ := executed_calls env held (.incr key) rest
  obtain ⟨past, later⟩ := inv.touched_set key
  have unopened : ∀ other, call.opened ≠ some other := by
    intro other
    rw [idle]
    exact (Option.some_ne_none other).symm
  have dated : ∀ (last at' : Nat) other, s.touched.get other = some last →
      at' ≤ last + 1000 * env.MESSAGE_SEND_RATE_LIMIT_WINDOW_SEC →
      ∃ t, (s.touched.set key s.redis.now).get other = some t ∧
        at' ≤ t + 1000 * env.MESSAGE_SEND_RATE_LIMIT_WINDOW_SEC := by
    intro last at' other before due
    obtain ⟨t, touched, after⟩ := later other last before
    exact ⟨t, touched, by omega⟩
  refine ⟨?_, ?_, ?_, ?_⟩
  · intro other at' found
    rw [show (s.executed env index call (.incr key) rest).redis.now = s.redis.now from exec_now _]
    exact past other at' found
  · intro other c at' found date
    rcases incr_found key other found with ⟨-, old⟩ | ⟨same, old, -, stored, rfl⟩ | ⟨-, -, rfl⟩
    · obtain ⟨last, before, due⟩ := inv.dated other c at' old date
      exact dated last at' other before due
    · obtain ⟨last, before, due⟩ := inv.dated key old at' stored date
      exact same ▸ dated last at' key before due
    · cases date
  · intro other c found undated
    rcases incr_found key other found with ⟨-, old⟩ | ⟨same, old, -, stored, rfl⟩ | ⟨same, dead, -⟩
    · exact (inv.pending other c old undated).executed held (unopened other) _ rest
    · rw [same]
      exact (inv.pending key old stored undated).executed held (unopened key) _ rest
    · exact ⟨index, _, moved, same ▸ goes dead⟩
  · intro entry listed sound ch charged quiet
    obtain ⟨i, found⟩ := List.mem_iff_getElem?.mp listed
    by_cases here : i = index
    · rw [here, moved] at found
      obtain rfl := Option.some.inj found
      rcases List.mem_append.mp charged with old | new
      · exact inv.charges call (List.mem_of_getElem? held) intact ch old quiet
      · obtain rfl := List.mem_singleton.mp new
        exact inv.quiet_first quiet (inTime sound quiet)
    · rw [others i here] at found
      exact inv.charges entry (List.mem_of_getElem? found) sound ch charged quiet

theorem Expiring.expire (inv : Expiring env s) {index : Nat} {call : LimiterCall} (held : s.calls[index]? = some call)
    (key : String) (rest : CounterProgram Bool) (opened : call.opened = some key) (intact : call.crashed = false) :
    Expiring env (s.executed env index call (.expire key env.MESSAGE_SEND_RATE_LIMIT_WINDOW_SEC) rest) := by
  obtain ⟨moved, others⟩ := executed_calls env held
    (.expire key env.MESSAGE_SEND_RATE_LIMIT_WINDOW_SEC) rest
  obtain ⟨past, later⟩ := inv.touched_set key
  refine ⟨?_, ?_, ?_, ?_⟩
  · intro other at' found
    rw [show (s.executed env index call (.expire key env.MESSAGE_SEND_RATE_LIMIT_WINDOW_SEC) rest).redis.now =
      s.redis.now from exec_now _]
    exact past other at' found
  · intro other c at' found date
    rcases expire_found key other _ found with ⟨old, -⟩ | ⟨same, old, -, rfl⟩
    · obtain ⟨last, before, due⟩ := inv.dated other c at' old date
      obtain ⟨t, touched, after⟩ := later other last before
      exact ⟨t, touched, by omega⟩
    · obtain rfl := Option.some.inj date
      refine ⟨s.redis.now, ?_, Nat.le_refl _⟩
      rw [same]
      exact Record.get_set_self _ _ _
  · intro other c found undated
    rcases expire_found key other _ found with ⟨old, dead⟩ | ⟨-, old, -, rfl⟩
    · by_cases same : other = key
      · have alive := live_of_undated old undated
        rw [same, dead same] at alive
        cases alive
      · have different : call.opened ≠ some other := by
          rw [opened]
          exact fun here => same (Option.some.inj here).symm
        exact (inv.pending other c old undated).executed held different _ rest
    · cases undated
  · intro entry listed sound ch charged quiet
    obtain ⟨i, found⟩ := List.mem_iff_getElem?.mp listed
    by_cases here : i = index
    · rw [here, moved] at found
      obtain rfl := Option.some.inj found
      exact inv.charges call (List.mem_of_getElem? held) intact ch charged quiet
    · rw [others i here] at found
      exact inv.charges entry (List.mem_of_getElem? found) sound ch charged quiet

/-- A call that follows its notes and has just created a counter is still running. -/
theorem running_of_opened {opts : SendAttempt} {n : LimiterNotes} {rest : CounterProgram Bool} {key : String}
    (follows : Follows env opts n rest) (opened : n.opened = some key) :
    ∃ (β : Type) (c : CounterCommand β) (next : β → CounterProgram Bool), rest = .command c next := by
  cases rest with
  | command c next => exact ⟨_, c, next, rfl⟩
  | done result =>
    have ends := along_done.mp follows
    cases result with
    | error e => exact ends.elim
    | ok limited =>
      have none : n.opened = none := by
        cases limited with
        | true => exact ends.1
        | false => exact ends.1
      rw [opened] at none
      cases none

theorem Expiring.step (follow : AllFollow env s) (inv : Expiring env s) (taken : SendLimiter.Step env s event t)
    (given : ExpiryGiven env ⟨s, event, t⟩) : Expiring env t := by
  cases taken with
  | takeUp opts =>
    refine ⟨inv.past, inv.dated, fun key c found undated => ?_, fun call listed => ?_⟩
    · obtain ⟨i, x, held, opening⟩ := inv.pending key c found undated
      obtain ⟨bound, -⟩ := List.getElem?_eq_some_iff.mp held
      exact ⟨i, x, by rw [List.getElem?_append_left bound]; exact held, opening⟩
    · rcases List.mem_append.mp listed with old | new
      · exact inv.charges call old
      · obtain rfl := List.mem_singleton.mp new
        exact fun _ ch charged => by cases charged
  | @advance index call β c next held running =>
    have intact : call.crashed = false := by simp only [LimiterCall.crashed, running]
    have here := follow call (List.mem_of_getElem? held) intact
    rw [running] at here
    obtain ⟨opens, following⟩ := along_command.mp here
    cases c with
    | incr key =>
      refine inv.incr held key _ opens (fun dead => ?_) intact fun _ quiet => ?_
      · have first : (CounterCommand.exec (.incr key) s.redis).1 = 1 := by
          rcases @incr_exec s key with ⟨c, alive, -⟩ | ⟨-, executed⟩
          · rw [dead] at alive
            cases alive
          · rw [executed]
        have opened : (LimiterNotes.note call.notes (.incr key)
            (CounterCommand.exec (.incr key) s.redis).1).opened = some key := if_pos first
        obtain ⟨γ, c', next', same⟩ := running_of_opened (following _ trivial) opened
        have noted : (s.noted env call (.incr key)).opened = some key := if_pos first
        simp only [LimiterCall.opening, LimiterCall.isRunning, same, noted, decide_true, Bool.and_self]
      · have late := given call held
        simpa only [overtakesExpiry, running, quiet, Bool.true_and] using late
    | expire key seconds =>
      obtain ⟨opened, rfl⟩ := opens
      exact inv.expire held key _ opened intact
  | @abort index e call β c next held running =>
    have idle : call.opened = none := given call held
    refine ⟨inv.past, inv.dated, fun key c found undated => ?_, fun entry listed => ?_⟩
    · obtain ⟨i, x, before, opening⟩ := inv.pending key c found undated
      have apart : index ≠ i := by
        rintro rfl
        obtain rfl := Option.some.inj (held.symm.trans before)
        rw [opening_of_ne (by rw [idle]; exact (Option.some_ne_none key).symm)] at opening
        cases opening
      exact ⟨i, x, (List.getElem?_set_ne apart).trans before, opening⟩
    · rcases List.mem_or_eq_of_mem_set listed with old | rfl
      · exact inv.charges entry old
      · exact fun sound => by cases sound
  | @lose index e call β c next held running =>
    have intact : call.crashed = false := by simp only [LimiterCall.crashed, running]
    have here := follow call (List.mem_of_getElem? held) intact
    rw [running] at here
    obtain ⟨opens, -⟩ := along_command.mp here
    cases c with
    | incr key =>
      refine inv.incr held key _ opens (fun dead => ?_) intact fun sound => by cases sound
      have none := given call held
      simp only [creates, running, dead, Option.isNone_none] at none
      cases none
    | expire key seconds =>
      obtain ⟨opened, rfl⟩ := opens
      exact inv.expire held key _ opened intact
  | pass milliseconds =>
    exact ⟨fun key at' found => Nat.le_trans (inv.past key at' found) (Nat.le_add_right _ _), inv.dated,
      inv.pending, inv.charges⟩

/-- A call is limited when a reply is above its cap, and no first reply is. -/
theorem callers_recover (follow : AllFollow env s) (inv : Expiring env s) : CallersRecover s := by
  intro call listed limited
  unfold LimiterCall.limited at limited
  split at limited
  · rename_i rest
    have here := follow call listed (by simp only [LimiterCall.crashed, rest])
    rw [rest] at here
    obtain ⟨-, reply, noted, limit, limitListed, -, exceeded⟩ := along_done.mp here
    obtain ⟨ch, charged, rfl⟩ := List.mem_map.mp noted
    refine ⟨ch, charged, ?_⟩
    obtain ⟨d, id, -, cap⟩ := mem_limits limitListed
    have positive := cap_positive env d
    rw [← cap] at positive
    by_contra quiet
    have first := inv.charges call listed (by simp only [LimiterCall.crashed, rest]) ch charged (by simpa using quiet)
    have exceeded : limit.2 < ch.reply := exceeded
    omega
  · cases limited

end Expiry

/-- In every run of interleaved and failing calls the admissions are bounded; and when each
counter is given its expiry, and in time, every caller recovers. -/
theorem limiter_bounds_and_recovers (env : MessageSendEnv) (start final : SendLimiter)
    (history : List LimiterTransition) (begins : (limiterMachine env).init start)
    (run : (limiterMachine env).Run start history final) :
    AdmissionsBounded env final ∧ ((∀ t ∈ history, ExpiryGiven env t) → CallersRecover final) := by
  obtain ⟨counters, calls, touched⟩ := begins
  have noCounter : ∀ key c, start.redis.counters.get key ≠ some c := by
    intro key c
    rw [counters, Record.get_empty]
    exact (Option.some_ne_none c).symm
  have noCall : ∀ call, call ∉ start.calls := by
    rw [calls]
    exact fun call => List.not_mem_nil
  have numbered : Numbered start :=
    ⟨fun key c found => absurd found (noCounter key c), fun call listed => absurd listed (noCall call),
      fun i j x y held => absurd (List.mem_of_getElem? held) (noCall x)⟩
  have follow : AllFollow env start := fun call listed => absurd listed (noCall call)
  have expiring : Expiring env start := by
    refine ⟨fun key at' found => ?_, fun key c at' found => absurd found (noCounter key c),
      fun key c found => absurd found (noCounter key c), fun call listed => absurd listed (noCall call)⟩
    rw [touched, Record.get_empty] at found
    cases found
  have sound := run.invariant (I := fun s => Numbered s ∧ AllFollow env s)
    (fun s event t inv step => ⟨inv.1.step step, inv.2.step step⟩) ⟨numbered, follow⟩
  refine ⟨admissions_bounded sound.1 sound.2, fun given => ?_⟩
  have recovering := run.invariant_of_forall (I := fun s => AllFollow env s ∧ Expiring env s) (C := ExpiryGiven env)
    (fun s event t inv step here => ⟨inv.1.step step, inv.2.step inv.1 step here⟩) ⟨follow, expiring⟩ given
  exact callers_recover recovering.1 recovering.2

section Runs

theorem limit_positive : 0 < 1 := by decide

/-- A deployment that admits one send a minute. -/
def strict : MessageSendEnv where
  MESSAGE_SEND_RATE_LIMIT_WINDOW_SEC := 60
  MESSAGE_SEND_RATE_LIMIT_MAX_PER_USER := 1
  GUEST_MESSAGE_SEND_RATE_LIMIT_MAX_PER_USER := 1
  MESSAGE_SEND_RATE_LIMIT_MAX_PER_IP := 1
  MESSAGE_SEND_RATE_LIMIT_MAX_PER_SOCKET := 1
  userPositive := limit_positive
  guestPositive := limit_positive
  ipPositive := limit_positive
  socketPositive := limit_positive

def fromAlice : SendAttempt := { userId := "alice", ip := "10.0.0.1" }

def redisLost : AppError := ⟨"INTERNAL_ERROR", 500, "Connection is closed."⟩

/-- The step of an event, when it is enabled. -/
def next (env : MessageSendEnv) (s : SendLimiter) : LimiterEvent → Option SendLimiter
  | .takeUp opts => some { s with calls := s.calls ++ [{ opts := opts, rest := isMessageSendRateLimited env opts }] }
  | .advance index => s.calls[index]?.bind fun call =>
      match call.rest with
      | .command c rest => some (s.executed env index call c (rest (c.exec s.redis).1))
      | .done _ => none
  | .abort index e => s.calls[index]?.bind fun call =>
      match call.rest with
      | .command _ _ => some { s with calls := s.calls.set index { call with rest := .done (.error e) } }
      | .done _ => none
  | .lose .. => none
  | .pass milliseconds => some { s with redis := { s.redis with now := s.redis.now + milliseconds } }

theorem next_step (env : MessageSendEnv) (s : SendLimiter) (event : LimiterEvent) (t : SendLimiter)
    (stepped : next env s event = some t) : (limiterMachine env).step s event t := by
  cases event with
  | takeUp opts =>
    cases stepped
    exact .takeUp s opts
  | advance index =>
    obtain ⟨call, held, stepped⟩ := Option.bind_eq_some_iff.mp stepped
    split at stepped
    · rename_i β c rest running
      cases stepped
      exact .advance s index call c rest held running
    · cases stepped
  | abort index e =>
    obtain ⟨call, held, stepped⟩ := Option.bind_eq_some_iff.mp stepped
    split at stepped
    · rename_i β c rest running
      cases stepped
      exact .abort s index e call c rest held running
    · cases stepped
  | lose index e => cases stepped
  | pass milliseconds =>
    cases stepped
    exact .pass s milliseconds

theorem empty_init : (limiterMachine strict).init {} := ⟨rfl, rfl, rfl⟩

def ran (events : List LimiterEvent) : Option (List LimiterTransition × SendLimiter) :=
  Machine.trace (next strict) {} events

theorem ran_run {events : List LimiterEvent} {history : List LimiterTransition} {final : SendLimiter}
    (executed : ran events = some (history, final)) : (limiterMachine strict).Run {} history final :=
  Machine.trace_run _ (next_step strict) executed

/-- The step is no failure, and overtakes no expiry. -/
def timely (t : LimiterTransition) : Bool :=
  match t.label with
  | .advance index => (t.source.calls[index]?).all fun call => !overtakesExpiry strict t.source call
  | .abort .. => false
  | .lose .. => false
  | _ => true

theorem timely_given {t : LimiterTransition} (timed : timely t = true) : ExpiryGiven strict t := by
  obtain ⟨source, event, target⟩ := t
  cases event with
  | advance index =>
    intro call held
    simpa [timely, held] using timed
  | abort index e => cases timed
  | lose index e => cases timed
  | _ => trivial

/-- A second send within the window is limited; after a window without a send one is admitted. -/
theorem limiter_bounds_and_recovers_after_a_window :
    ∃ history final, (limiterMachine strict).Run {} history final ∧
      final.calls.map LimiterCall.admitted = [true, false, true] ∧
      AdmissionsBounded strict final ∧ CallersRecover final := by
  have checked : (ran ([.takeUp fromAlice] ++ List.replicate 4 (.advance 0) ++ [.takeUp fromAlice, .advance 1,
      .pass 60000, .takeUp fromAlice] ++ List.replicate 4 (.advance 2))).bind (fun executed =>
        if executed.1.all timely then
          some (executed.2.calls.map LimiterCall.admitted) else none) = some [true, false, true] := by decide
  obtain ⟨⟨history, final⟩, executed, admitted⟩ := Option.bind_eq_some_iff.mp checked
  split at admitted
  · rename_i all
    have settled := limiter_bounds_and_recovers strict {} final history empty_init (ran_run executed)
    exact ⟨history, final, ran_run executed, Option.some.inj admitted, settled.1,
      settled.2 fun t taken => timely_given (List.all_eq_true.mp all t taken)⟩
  · cases admitted

/-- The service stops between `INCR` and `EXPIRE`: the user is never admitted again. -/
theorem counter_without_expiry :
    ¬ ∀ (env : MessageSendEnv) (start final : SendLimiter) (history : List LimiterTransition),
      (limiterMachine env).init start → (limiterMachine env).Run start history final →
      AdmissionsBounded env final ∧ CallersRecover final := by
  intro claim
  have checked : (ran [.takeUp fromAlice, .advance 0, .abort 0 redisLost, .pass 60000, .takeUp fromAlice,
      .advance 1]).bind (fun executed => executed.2.calls[1]?.map fun call =>
        (call.limited, call.charges.map Charge.quiet)) = some (true, [true]) := by decide
  obtain ⟨⟨history, final⟩, executed, second⟩ := Option.bind_eq_some_iff.mp checked
  obtain ⟨call, held, same⟩ := Option.map_eq_some_iff.mp second
  obtain ⟨limited, quiet⟩ := Prod.mk.inj same
  obtain ⟨ch, charged, busy⟩ := (claim strict {} final history empty_init (ran_run executed)).2 call
    (List.mem_of_getElem? held) limited
  have listed : ch.quiet ∈ call.charges.map Charge.quiet := List.mem_map.mpr ⟨ch, charged, rfl⟩
  rw [quiet, busy] at listed
  simp at listed

end Runs

end MessagingSystem.Guarantees.SendRateLimit
