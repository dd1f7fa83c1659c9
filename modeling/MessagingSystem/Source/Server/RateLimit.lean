import MessagingSystem.Source.Server.Database

/-!
# Rate limits of message sends

`rateLimitRedis.ts` and `messageSendRateLimit.ts` over the counters of Redis,
one command for each `INCR` and `EXPIRE`. Times are in milliseconds. A counter
carries a number of its own, so that a key that has expired and one created
again under its name are told apart.
-/
namespace MessagingSystem.Source.Server.RateLimit
open Foundation

structure Counter where
  value : Nat
  expiresAt : Option Nat := none
  number : Nat
  deriving DecidableEq

structure RedisCounters where
  counters : Record Counter := ∅
  created : Nat := 0
  now : Nat := 0

/-- The counter of a key that has not expired. -/
def RedisCounters.live (s : RedisCounters) (key : String) : Option Counter :=
  (s.counters.get key).filter fun c => c.expiresAt.all fun at' => s.now < at'

inductive CounterCommand : Type → Type where
  | incr (key : String) : CounterCommand Nat
  | expire (key : String) (seconds : Nat) : CounterCommand Unit

/-- `INCR` keeps the expiry of a key; `EXPIRE` does nothing to a key that is not there. -/
def CounterCommand.exec : {β : Type} → CounterCommand β → RedisCounters → β × RedisCounters
  | _, .incr key, s =>
      match s.live key with
      | some c => (c.value + 1, { s with counters := s.counters.set key { c with value := c.value + 1 } })
      | none => (1, { s with
          counters := s.counters.set key { value := 1, number := s.created }
          created := s.created + 1 })
  | _, .expire key seconds, s =>
      match s.live key with
      | some c => ((), { s with
          counters := s.counters.set key { c with expiresAt := some (s.now + 1000 * seconds) } })
      | none => ((), s)

abbrev CounterProgram (α : Type) := Program CounterCommand AppError α

def fixedWindowIncrement (key : String) (windowSeconds : Nat) : CounterProgram Nat := do
  let n ← .perform (.incr key)
  if n = 1 then do
    .perform (.expire key windowSeconds)
    pure n
  else pure n

def rateLimitExceeded (key : String) (windowSeconds max : Nat) : CounterProgram Bool := do
  let n ← fixedWindowIncrement key windowSeconds
  pure (decide (max < n))

/-- The settings of the limits; each is positive. -/
structure MessageSendEnv where
  MESSAGE_SEND_RATE_LIMIT_WINDOW_SEC : Nat
  MESSAGE_SEND_RATE_LIMIT_MAX_PER_USER : Nat
  GUEST_MESSAGE_SEND_RATE_LIMIT_MAX_PER_USER : Nat
  MESSAGE_SEND_RATE_LIMIT_MAX_PER_IP : Nat
  MESSAGE_SEND_RATE_LIMIT_MAX_PER_SOCKET : Nat
  userPositive : 0 < MESSAGE_SEND_RATE_LIMIT_MAX_PER_USER
  guestPositive : 0 < GUEST_MESSAGE_SEND_RATE_LIMIT_MAX_PER_USER
  ipPositive : 0 < MESSAGE_SEND_RATE_LIMIT_MAX_PER_IP
  socketPositive : 0 < MESSAGE_SEND_RATE_LIMIT_MAX_PER_SOCKET

structure SendAttempt where
  userId : String
  ip : String
  socketId : Option String := none
  isGuest : Bool := false
  deriving DecidableEq

def isMessageSendRateLimited (env : MessageSendEnv) (opts : SendAttempt) : CounterProgram Bool := do
  let w := env.MESSAGE_SEND_RATE_LIMIT_WINDOW_SEC
  let maxUser := if opts.isGuest then env.GUEST_MESSAGE_SEND_RATE_LIMIT_MAX_PER_USER
    else env.MESSAGE_SEND_RATE_LIMIT_MAX_PER_USER
  let userKey := if opts.isGuest then "ratelimit:message-send:guest-user:" ++ opts.userId
    else "ratelimit:message-send:user:" ++ opts.userId
  let maxIp := env.MESSAGE_SEND_RATE_LIMIT_MAX_PER_IP
  let maxSocket := env.MESSAGE_SEND_RATE_LIMIT_MAX_PER_SOCKET
  if ← rateLimitExceeded userKey w maxUser then pure true
  else if ← rateLimitExceeded ("ratelimit:message-send:ip:" ++ opts.ip) w maxIp then pure true
  else match opts.socketId with
    | some socketId => do
        if ← rateLimitExceeded ("ratelimit:message-send:socket:" ++ socketId) w maxSocket then pure true
        else pure false
    | none => pure false

end MessagingSystem.Source.Server.RateLimit
