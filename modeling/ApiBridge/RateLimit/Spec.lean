import ApiBridge.Decimal.Layout
import ApiBridge.Error
import ApiBridge.Instant

namespace ApiBridge.RateLimit

inductive Strategy where
  | tokenBucket
  | leakyBucket
  deriving DecidableEq, Repr

namespace Strategy

def name : Strategy → String
  | .tokenBucket => "token_bucket"
  | .leakyBucket => "leaky_bucket"

def choices : List (String × Strategy) :=
  [("token_bucket", .tokenBucket), ("TOKEN_BUCKET", .tokenBucket),
    ("leaky_bucket", .leakyBucket), ("LEAKY_BUCKET", .leakyBucket)]

end Strategy

structure Spec where
  strategy : Strategy
  rate : Binary64
  burst : Option Nat
  deriving DecidableEq, Repr

/-- A bucket that gains a token each `period` nanoseconds and holds `capacity` of them. It keeps the
instant at which it would be full again, in nanoseconds after its start, once a token has been
taken. -/
structure Bucket where
  period : Nat
  capacity : Nat
  start : Instant
  fullAt : Option Nat
  deriving DecidableEq, Repr

namespace Spec

def tokenBucket (rate : Binary64) (burst : Nat) : Spec :=
  { strategy := .tokenBucket, rate, burst := some burst }

def leakyBucket (rate : Binary64) : Spec := { strategy := .leakyBucket, rate, burst := none }

def decode? {ν : Type} {m : Type → Type} [Monad m] [MonadExceptOf Unit m] [Document ν m]
    (node : ν) : m Spec := do
  match ← Document.fields? [["strategy"], ["rate"], ["burst"]] node with
  | [strategy, rate, burst] =>
      pure {
        strategy := ← Document.withDefault .tokenBucket (Document.oneOf? Strategy.choices) strategy
        rate := ← Document.required Document.number? rate
        burst := ← Document.optional (Document.below? UInt32.size) burst }
  | _ => throw ()

def encode (spec : Spec) : Json :=
  .ofPairs [
    ("strategy", .string spec.strategy.name), ("rate", .ofBinary64 spec.rate),
    ("burst", .ofOption .ofNat spec.burst)]

def period? (spec : Spec) : Option Duration :=
  Duration.ofSeconds? ((Binary64.ofNat 1).div spec.rate)

def invalidRate (text : String) : Error := .invalidValue "rate_limit.rate" text

def emptyBurst : Error := .invalidValue "rate_limit.burst" "must be > 0"

/-- Refuses rates that are not positive numbers, rates too low to tell the time between tokens, and
a burst of zero. -/
def validate (spec : Spec) : Except Error Unit :=
  let rateText := Decimal.messageLayout.render spec.rate
  if !spec.rate.isFinite || spec.rate.le (.zero false) then
    .error (invalidRate ("must be a positive number, got " ++ rateText))
  else if spec.period?.isNone then .error (invalidRate ("rate " ++ rateText ++ " is too low"))
  else if spec.burst = some 0 then .error emptyBurst
  else .ok ()

/-- The whole number of tokens that cover a second, brought into 32 bits; zero for NaN. -/
def wholeRate (rate : Binary64) : Nat :=
  if rate.isNaN then 0
  else if !rate.isFinite then if rate.negative then 0 else UInt32.size - 1
  else min rate.ceil.toNat (UInt32.size - 1)

/-- How many tokens the bucket holds: one for a leaky bucket, and else the burst or enough for a
second. -/
def capacity (spec : Spec) : Nat :=
  match spec.strategy with
  | .leakyBucket => 1
  | .tokenBucket => spec.burst.getD (max (wholeRate spec.rate) 1)

/-- The bucket of a spec, started at an instant. A bucket counts its time in 64 bits. -/
def bucket (spec : Spec) (start : Instant) : Except Fault (Except Error Bucket) :=
  match spec.validate with
  | .error error => .ok (.error error)
  | .ok () =>
      match spec.period? with
      | none => .ok (.error (invalidRate "rate is too low"))
      | some period =>
          if spec.capacity = 0 then .ok (.error emptyBurst)
          else if period.nanoseconds = 0 then .ok (.error (invalidRate "rate is too high"))
          else if UInt64.size ≤ period.nanoseconds * spec.capacity then .error .bucketOverflow
          else
            .ok (.ok {
              period := period.nanoseconds, capacity := spec.capacity, start, fullAt := none })

end Spec

namespace Bucket

/-- Takes a token at an instant, or tells how long it is until the next one is due. -/
def take (bucket : Bucket) (now : Instant) : Except Fault (Except Duration Bucket) :=
  let elapsed := (now.nanoseconds - bucket.start.nanoseconds).toNat
  let full := bucket.fullAt.getD (elapsed + bucket.period)
  let due := full - bucket.period * bucket.capacity
  let later := max full elapsed + bucket.period
  if elapsed < due then .ok (.error ⟨due - elapsed⟩)
  else if UInt64.size ≤ later then .error .bucketOverflow
  else .ok (.ok { bucket with fullAt := some later })

end Bucket

end ApiBridge.RateLimit
