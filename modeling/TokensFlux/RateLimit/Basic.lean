import Mathlib.Data.Int.Notation
import Mathlib.Data.Nat.Notation
import Mathlib.Logic.Function.Basic

/-!
# Rate limiters

Times are in seconds, and all statements of one request see the same time.
-/

namespace TokensFlux

/-! ### In memory -/

/-- The times of accepted requests, oldest first. `expirationDuration` is in seconds. -/
structure InMemoryRateLimiter where
  store : String → Option (List ℤ) := fun _ => none
  expirationDuration : ℤ

namespace InMemoryRateLimiter

variable (l : InMemoryRateLimiter)

def put (key : String) (queue : List ℤ) : InMemoryRateLimiter :=
  { l with store := Function.update l.store key (some queue) }

/-- No queue in the store is empty, so `(*queue)[0]` is there. -/
def request (key : String) (maxRequestNum : ℕ) (duration now : ℤ) : InMemoryRateLimiter × Bool :=
  match l.store key with
  | some queue =>
    if queue.length < maxRequestNum then (l.put key (queue ++ [now]), true)
    else if now - queue.headD 0 ≥ duration then (l.put key (queue.tail ++ [now]), true)
    else (l, false)
  | none => (l.put key [now], true)

/-- `Init` starts it only for a positive duration. -/
def clearExpiredItems (now : ℤ) : InMemoryRateLimiter :=
  if l.expirationDuration > 0 then
    { l with store := fun key => (l.store key).filter fun queue =>
        ¬(queue.length = 0 ∨ now - queue.getLastD 0 > l.expirationDuration) }
  else l

end InMemoryRateLimiter

def rateLimitKeyExpirationDuration : ℤ := 20 * 60

/-- Without a total limit. A separate key is asked before the request is handled. -/
def memoryRateLimitHandler (duration : ℤ) (successMaxCount : ℕ) (userId : String)
    (now : ℤ) (succeeds : Bool) (l : InMemoryRateLimiter) : InMemoryRateLimiter × Bool :=
  let successKey := "MRRLS" ++ userId
  let (l, allowed) := l.request (successKey ++ "_check") successMaxCount duration now
  if allowed then
    (if succeeds then (l.request successKey successMaxCount duration now).1 else l, true)
  else (l, false)

/-! ### In Redis -/

structure RedisList where
  values : List ℤ
  expireAt : ℤ
deriving DecidableEq, Repr

def redisValues (key : Option RedisList) (now : ℤ) : List ℤ :=
  match key with
  | some list => if now < list.expireAt then list.values else []
  | none => []

/-- `duration` is `ModelRequestRateLimitDurationMinutes` in seconds. -/
def checkRedisRateLimit (maxCount : ℕ) (duration now : ℤ) (key : Option RedisList) :
    Option RedisList × Bool :=
  if maxCount = 0 then (key, true)
  else if (redisValues key now).length < maxCount then (key, true)
  else if now - (redisValues key now).getLastD 0 < duration then
    (some ⟨redisValues key now, now + duration⟩, false)
  else (key, true)

def recordRedisRequest (maxCount : ℕ) (duration now : ℤ) (key : Option RedisList) :
    Option RedisList :=
  if maxCount = 0 then key
  else some ⟨(now :: redisValues key now).take maxCount, now + duration⟩

/-- Without a total limit. -/
def redisRateLimitHandler (duration : ℤ) (successMaxCount : ℕ) (now : ℤ) (succeeds : Bool)
    (key : Option RedisList) : Option RedisList × Bool :=
  let (key, allowed) := checkRedisRateLimit successMaxCount duration now key
  if allowed then (if succeeds then recordRedisRequest successMaxCount duration now key else key,
    true)
  else (key, false)

/-! ### The script of the total limit -/

/-- The hash under the key of the limiter. -/
structure TokenBucket where
  tokens : ℤ
  lastTime : ℤ
deriving DecidableEq, Repr

/-- Without a hash the bucket is full. -/
def availableTokens (rate capacity nowInSeconds : ℤ) (bucket : Option TokenBucket) : ℤ :=
  match bucket with
  | none => capacity
  | some bucket => min capacity (bucket.tokens + (nowInSeconds - bucket.lastTime) * rate)

def rateLimitScript (requested rate capacity nowInSeconds : ℤ) (bucket : Option TokenBucket) :
    TokenBucket × Bool :=
  let tokens := availableTokens rate capacity nowInSeconds bucket
  if tokens ≥ requested then (⟨tokens - requested, nowInSeconds⟩, true)
  else (⟨tokens, nowInSeconds⟩, false)

/-- With the options that `redisRateLimitHandler` passes. -/
def allowTotal (totalMaxCount duration now : ℤ) (bucket : Option TokenBucket) :
    TokenBucket × Bool :=
  rateLimitScript duration totalMaxCount (totalMaxCount * duration) now bucket

end TokensFlux
