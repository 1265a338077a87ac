import ApiBridge.Decimal.Numeral
import ApiBridge.Instant
import ApiBridge.Text.Blank

/-!
Dates of mail and HTTP headers, such as `Wed, 21 Oct 2026 07:28:00 GMT`. The day of the week may be
left out but not be wrong; any blanks may stand between the parts; the zone is an offset or one of
the old names; comments in parentheses may follow.
-/

namespace ApiBridge.Http

/-- An instant by its day since 1970-01-01 and the second of that day, which may be a leap second
after the given one. -/
structure Date where
  day : Int
  second : Nat
  isLeap : Bool
  deriving DecidableEq, Repr

namespace Date

/-- The time to a date from now on. A leap second counts as one more second, except when the time
of day that it follows is before the time of day now. -/
def since? (date : Date) (now : Instant) : Option Duration :=
  let nanosPerSecond : Int := Duration.nanosPerSecond
  let secondNow := now.nanoseconds.fdiv nanosPerSecond % 86400
  let leap : Int := if date.isLeap ∧ secondNow ≤ date.second then 1 else 0
  let span := (date.day * 86400 + date.second + leap) * nanosPerSecond - now.nanoseconds
  if span < 0 then none else some ⟨span.toNat⟩

def blanks? (text : List Char) : Option (List Char) :=
  match text with
  | c :: rest => if Text.isBlank c then some (Text.trimStart rest) else none
  | [] => none

/-- Reads a number of at least `least` and at most `most` digits. -/
def number? (least most : Nat) (text : List Char) : Option (Nat × List Char) :=
  let digits := (text.take most).takeWhile Char.isDigit
  if digits.length < least then none
  else some (Numeral.digitsValue digits, text.drop digits.length)

/-- Reads one of some three-letter names in any case, by its place among them. -/
def name? (names : List String) (text : List Char) : Option (Nat × List Char) :=
  (names.findIdx? fun name => name.toList == (text.take 3).map Char.toLower).map fun index =>
    (index, text.drop 3)

def weekdays : List String := ["mon", "tue", "wed", "thu", "fri", "sat", "sun"]

def months : List String :=
  ["jan", "feb", "mar", "apr", "may", "jun", "jul", "aug", "sep", "oct", "nov", "dec"]

def zones : List (String × Int) :=
  [("gmt", 0), ("ut", 0), ("z", 0), ("edt", -4), ("est", -5), ("cdt", -5), ("cst", -6),
    ("mdt", -6), ("mst", -7), ("pdt", -7), ("pst", -8)]

/-- Reads a zone as seconds from Universal Time: a name, a letter other than J, or a sign and four
digits. -/
def zone? (text : List Char) : Option (Int × List Char) :=
  let name := (text.takeWhile Char.isAlpha).map Char.toLower
  let rest := text.dropWhile Char.isAlpha
  if name.isEmpty then
    match text with
    | sign :: h :: i :: m :: n :: rest =>
        if (sign = '+' ∨ sign = '-') ∧ [h, i, m, n].all Char.isDigit ∧ m ≤ '5' then
          let offset : Int :=
            Numeral.digitsValue [h, i] * 3600 + Numeral.digitsValue [m, n] * 60
          some (if sign = '-' then -offset else offset, rest)
        else none
    | _ => none
  else
    match zones.lookup (String.ofList name) with
    | some hours => some (hours * 3600, rest)
    | none => if name.length = 1 ∧ name ≠ ['j'] then some (0, rest) else none

/-- Reads the rest of a comment that is `depth` parentheses deep. -/
def comment? : Nat → List Char → Option (List Char)
  | _, [] => none
  | depth, '\\' :: rest =>
      match rest with
      | [] => none
      | _ :: rest => comment? depth rest
  | depth, c :: rest =>
      if c = '(' then comment? (depth + 1) rest
      else if c = ')' then if depth ≤ 1 then some rest else comment? (depth - 1) rest
      else comment? depth rest

def skipComments : Nat → List Char → List Char
  | 0, text => text
  | fuel + 1, text =>
      match Text.trimStart text with
      | '(' :: rest =>
          match comment? 1 rest with
          | some rest => skipComments fuel rest
          | none => text
      | _ => text

/-- The year that a numeral of a given length stands for: two digits are of this century below 50
and of the last one from 50 on, and three count from 1900. -/
def fullYear (length value : Nat) : Nat :=
  if length = 2 then if value < 50 then value + 2000 else value + 1900
  else if length = 3 then value + 1900
  else value

def parse? (text : String) : Option Date := do
  let chars := Text.trimStart text.toList
  let (weekday?, chars) ← match name? weekdays chars with
    | some (weekday, ',' :: rest) => some (some weekday, rest)
    | some _ => none
    | none => some (none, chars)
  let (day, chars) ← number? 1 2 (Text.trimStart chars)
  let (monthIndex, chars) ← name? months (← blanks? chars)
  let beforeYear ← blanks? chars
  let (shortYear, chars) ← number? 2 beforeYear.length beforeYear
  let year := fullYear (beforeYear.length - chars.length) shortYear
  let (hour, chars) ← number? 2 2 (← blanks? chars)
  let (minute, chars) ← match Text.trimStart chars with
    | ':' :: rest => number? 2 2 (Text.trimStart rest)
    | _ => none
  let (second, chars) ← match Text.trimStart chars with
    | ':' :: rest => number? 2 2 rest
    | _ => some (0, chars)
  let (offset, chars) ← zone? (← blanks? chars)
  if !(skipComments (chars.length + 1) chars).isEmpty then none
  let month := monthIndex + 1
  if 262142 < year ∨ day = 0 ∨ Calendar.daysInMonth year month < day then none
  let date := Calendar.daysToDate year month day
  if 23 < hour ∨ 59 < minute ∨ 60 < second then none
  if weekday?.any (· != Calendar.weekday date) then none
  if 86400 ≤ offset.natAbs then none
  let isLeap := second == 60
  let secondOfDay : Int := hour * 3600 + minute * 60 + (if isLeap then 59 else second) - offset
  some { day := date + secondOfDay.fdiv 86400, second := (secondOfDay % 86400).toNat, isLeap }

end Date

end ApiBridge.Http
