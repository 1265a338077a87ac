import ApiBridge.Binary64

namespace ApiBridge

/-- The ways in which a run of the program can end without an answer. -/
inductive Fault where
  | durationOverflow
  | instantOverflow
  | bucketOverflow
  | bufferOverflow
  | neverEnds
  deriving DecidableEq, Repr

structure Duration where
  nanoseconds : Nat
  deriving DecidableEq, Repr, Inhabited

namespace Duration

def nanosPerSecond : Nat := 1000000000

def zero : Duration := ⟨0⟩

/-- The longest time, one nanosecond short of `2 ^ 64` seconds. -/
def max : Duration := ⟨UInt64.size * nanosPerSecond - 1⟩

def ofSeconds (seconds : Nat) : Duration := ⟨seconds * nanosPerSecond⟩

def ofMillis (millis : Nat) : Duration := ⟨millis * 1000000⟩

def seconds (d : Duration) : Nat := d.nanoseconds / nanosPerSecond

def subsecondNanos (d : Duration) : Nat := d.nanoseconds % nanosPerSecond

def millis (d : Duration) : Nat := d.nanoseconds / 1000000 % UInt64.size

/-- A number of seconds rounded to the nearest nanosecond, ties to even; `none` for a negative one,
for NaN and from `2 ^ 64` on. Minus zero is no time. -/
def ofSeconds? (seconds : Binary64) : Option Duration :=
  if !seconds.isFinite || (seconds.negative && !seconds.isZero) then none
  else
    let nanos := roundHalfEven (seconds.units * nanosPerSecond) Binary64.unitsPerOne
    if seconds.units / Binary64.unitsPerOne < UInt64.size then some ⟨nanos⟩ else none

/-- A number of seconds brought into range: no time for negative numbers and NaN, and the longest
time for what is too long. -/
def saturating (seconds : Binary64) : Duration :=
  if seconds.isNaN || seconds.le (.zero false) then zero else (ofSeconds? seconds).getD max

/-- The seconds as a binary64 number: the whole ones and the fraction are rounded on their own and
then added. -/
def toSeconds (d : Duration) : Binary64 :=
  (Binary64.ofNat d.seconds).add
    ((Binary64.ofNat d.subsecondNanos).div (.ofNat nanosPerSecond))

def times (d : Duration) (count : Nat) : Except Fault Duration :=
  if d.nanoseconds * count ≤ max.nanoseconds then .ok ⟨d.nanoseconds * count⟩
  else .error .durationOverflow

def add (d e : Duration) : Duration := ⟨d.nanoseconds + e.nanoseconds⟩

def longer (d e : Duration) : Duration := ⟨Nat.max d.nanoseconds e.nanoseconds⟩

def shorter (d e : Duration) : Duration := ⟨Nat.min d.nanoseconds e.nanoseconds⟩

end Duration

end ApiBridge
