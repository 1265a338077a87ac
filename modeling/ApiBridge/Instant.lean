import ApiBridge.Duration

namespace ApiBridge

/-- An instant of Universal Time by the nanoseconds since the start of 1970, from the year -262144 to
the year 262142. -/
structure Instant where
  nanoseconds : Int
  deriving DecidableEq, Repr, Inhabited

namespace Instant

def last : Instant := ⟨8210266876799999999999⟩

def first : Instant := ⟨-8334601228800000000000⟩

def ofMillis (millis : Int) : Instant := ⟨millis * 1000000⟩

/-- The instant of a number of milliseconds since 1970, if it is in range. -/
def ofMillis? (millis : Int) : Option Instant :=
  let instant := ofMillis millis
  if first.nanoseconds ≤ instant.nanoseconds ∧ instant.nanoseconds ≤ last.nanoseconds then
    some instant
  else none

def millis (instant : Instant) : Int := instant.nanoseconds.fdiv 1000000

def plus (instant : Instant) (d : Duration) : Except Fault Instant :=
  if instant.nanoseconds + d.nanoseconds ≤ last.nanoseconds then
    .ok ⟨instant.nanoseconds + d.nanoseconds⟩
  else .error .instantOverflow

def after? (instant now : Instant) : Option Duration :=
  if now.nanoseconds < instant.nanoseconds then
    some ⟨(instant.nanoseconds - now.nanoseconds).toNat⟩
  else none

end Instant

namespace Calendar

def isLeapYear (year : Int) : Bool :=
  (year % 4 == 0 && year % 100 != 0) || year % 400 == 0

def daysInMonth (year : Int) (month : Nat) : Nat :=
  if month = 2 then if isLeapYear year then 29 else 28
  else if month = 4 ∨ month = 6 ∨ month = 9 ∨ month = 11 then 30
  else 31

def daysToYear (year : Int) : Int :=
  let before := year - 1
  365 * (year - 1970) + (before.fdiv 4 - 492) - (before.fdiv 100 - 19) + (before.fdiv 400 - 4)

def daysToDate (year : Int) (month day : Nat) : Int :=
  let before := (List.range (month - 1)).foldl
    (fun days index => days + daysInMonth year (index + 1)) 0
  daysToYear year + (before : Int) + (day - 1 : Int)

def weekday (days : Int) : Nat := ((days + 3) % 7).toNat

end Calendar

end ApiBridge
