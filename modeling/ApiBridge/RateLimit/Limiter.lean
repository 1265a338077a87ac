import ApiBridge.Http.Date
import ApiBridge.Http.Header
import ApiBridge.RateLimit.Spec

namespace ApiBridge.RateLimit

structure Advice where
  limit : Option Nat
  remaining : Option Nat
  resetAt : Option Instant
  retryAfter : Option Duration
  deriving DecidableEq, Repr

namespace Advice

def isEmpty (advice : Advice) : Bool :=
  advice.limit.isNone && advice.remaining.isNone && advice.resetAt.isNone &&
    advice.retryAfter.isNone

/-- The number in the first of some headers whose value is a number; infinities, NaN and negative
numbers there count as none. -/
def firstNumber? (headers : Http.Headers) (names : List String) : Option Binary64 :=
  ((names.filterMap (Http.Header.text? headers)).findSome? Numeral.binary64?).filter fun x =>
    x.isFinite && Binary64.le (.zero false) x

def headerNames (name : String) : List String :=
  ["x-ratelimit-" ++ name, "x-rate-limit-" ++ name, "ratelimit-" ++ name]

def count (x : Binary64) : Nat := (x.clamp 0 (UInt32.size - 1)).toNat

/-- Numbers of seconds from here on are counted from 1970 and not from now. -/
def epochThreshold : Binary64 := .ofNat 1000000000

def resetInstant (seconds : Binary64) (now : Instant) : Except Fault (Option Instant) :=
  let millis := (seconds.mul (.ofNat 1000)).clamp Int64.minValue.toInt Int64.maxValue.toInt
  if epochThreshold.le seconds then .ok (Instant.ofMillis? millis)
  else (now.plus (.ofMillis millis.toNat)).map some

/-- The time that a `Retry-After` header asks to wait: a number of seconds, or until a date. -/
def retryTime? (value : String) (now : Instant) : Option Duration :=
  match Numeral.natural? UInt64.size value with
  | some seconds => some (.ofSeconds seconds)
  | none => (Http.Date.parse? value).bind fun date => date.since? now

def parse (headers : Http.Headers) (now : Instant) : Except Fault Advice := do
  let resetAt ← match firstNumber? headers (headerNames "reset") with
    | some seconds => resetInstant seconds now
    | none => pure none
  pure {
    limit := (firstNumber? headers (headerNames "limit")).map count
    remaining := (firstNumber? headers (headerNames "remaining")).map count
    resetAt
    retryAfter := (Http.Header.text? headers "retry-after").bind fun value =>
      retryTime? value now }

end Advice

structure Hints where
  remaining : Option Nat
  limit : Option Nat
  resetAt : Option Instant
  blockedUntil : Option Instant
  deriving DecidableEq, Repr

namespace Hints

def none : Hints :=
  { remaining := .none, limit := .none, resetAt := .none, blockedUntil := .none }

def maxWait : Duration := .ofSeconds 3600

/-- How long to wait at an instant for what the server said: for the reset of a spent budget, for
the end of a block, or for the later of both. -/
def wait? (hints : Hints) (now : Instant) : Option Duration :=
  let exhausted :=
    if hints.remaining = some 0 then hints.resetAt.bind fun reset => reset.after? now else .none
  let blocked := hints.blockedUntil.bind fun until' => until'.after? now
  let wait := match exhausted, blocked with
    | some reset, some block => some (reset.longer block)
    | some reset, .none => some reset
    | .none, block => block
  wait.map fun wait => wait.shorter maxWait

def served (hints : Hints) : Hints :=
  { hints with
    blockedUntil := .none
    remaining := if hints.remaining = some 0 then .none else hints.remaining }

/-- The longest `Retry-After` time that a block can hold; longer ones block nothing. -/
def maxBlockSeconds : Nat := 9223372036854775

def update (hints : Hints) (advice : Advice) (now : Instant) : Except Fault Hints := do
  let blockedUntil ← match advice.retryAfter with
    | some wait =>
        if wait.seconds ≤ maxBlockSeconds then (now.plus wait).map some else pure .none
    | .none => pure hints.blockedUntil
  pure {
    remaining := advice.remaining <|> hints.remaining
    limit := advice.limit <|> hints.limit
    resetAt := advice.resetAt <|> hints.resetAt
    blockedUntil }

end Hints

structure Limiter where
  spec : Spec
  bucket : Bucket
  hints : Hints
  acquired : Nat
  headerUpdates : Nat
  deriving DecidableEq, Repr

namespace Limiter

def create (spec : Spec) (start : Instant) : Except Fault (Except Error Limiter) := do
  match ← spec.bucket start with
  | .error error => pure (.error error)
  | .ok bucket => pure (.ok { spec, bucket, hints := .none, acquired := 0, headerUpdates := 0 })

def acquireHints (limiter : Limiter) (now : Instant) : List Duration × Limiter :=
  match limiter.hints.wait? now with
  | some wait => ([wait], { limiter with hints := limiter.hints.served })
  | none => ([], limiter)

/-- Takes a token from the bucket, or waits until one is due. The wait is served elsewhere, on a
clock that stands still here, so the token that falls due in it is left in the bucket. There is no
second look at the bucket after the wait either: at the same instant a bucket refuses again what it
has refused. `Limiter.await` looks again on a clock that goes on, and by `await_standing` the two are
the same on one that stands still. -/
def acquireBucket (limiter : Limiter) (now : Instant) : Except Fault (List Duration × Limiter) := do
  match ← limiter.bucket.take now with
  | .ok bucket => pure ([], { limiter with bucket })
  | .error wait => pure ([wait], limiter)

def count (limiter : Limiter) : Limiter :=
  { limiter with
    acquired := limiter.acquired + 1
    hints := { limiter.hints with remaining := limiter.hints.remaining.map (· - 1) } }

/-- Lets one request through at an instant, after the waits that are given back. -/
def acquire (limiter : Limiter) (now : Instant) : Except Fault (List Duration × Limiter) := do
  let (hintWaits, limiter) := limiter.acquireHints now
  let (bucketWaits, limiter) ← limiter.acquireBucket now
  pure (hintWaits ++ bucketWaits, limiter.count)

def tryAcquire (limiter : Limiter) (now : Instant) : Except Fault (Bool × Limiter) := do
  if (limiter.hints.wait? now).isSome then pure (false, limiter)
  else
    match ← limiter.bucket.take now with
    | .ok bucket => pure (true, { limiter with bucket })
    | .error _ => pure (false, limiter)

def update (limiter : Limiter) (headers : Http.Headers) (now : Instant) : Except Fault Limiter := do
  let advice ← Advice.parse headers now
  let hints ← if advice.isEmpty then pure limiter.hints else limiter.hints.update advice now
  pure { limiter with headerUpdates := limiter.headerUpdates + 1, hints }

end Limiter

abbrev Limiters := Table Limiter

namespace Limiters

def create (limiters : Limiters) (endpoint : String) (spec : Spec) (start : Instant) :
    Except Fault (Except Error Limiters) := do
  match ← Limiter.create spec start with
  | .error error => pure (.error error)
  | .ok limiter => pure (.ok (limiters.put endpoint limiter))

/-- Lets one request to an endpoint through; an endpoint without a limiter never waits. -/
def acquire (limiters : Limiters) (endpoint : String) (now : Instant) :
    Except Fault (List Duration × Limiters) :=
  match limiters.find? endpoint with
  | some limiter =>
      (limiter.acquire now).map fun (waits, limiter) => (waits, limiters.put endpoint limiter)
  | none => .ok ([], limiters)

def update (limiters : Limiters) (endpoint : String) (headers : Http.Headers) (now : Instant) :
    Except Fault Limiters :=
  match limiters.find? endpoint with
  | some limiter => (limiter.update headers now).map fun limiter => limiters.put endpoint limiter
  | none => .ok limiters

end Limiters

end ApiBridge.RateLimit
