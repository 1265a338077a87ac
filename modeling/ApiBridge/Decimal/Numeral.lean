import ApiBridge.Binary64

namespace ApiBridge.Numeral

def digitsValue (digits : List Char) : Nat :=
  digits.foldl (fun value digit => value * 10 + (digit.toNat - '0'.toNat)) 0

/-- Splits off an optional sign; true means negative. -/
def takeSign : List Char → Bool × List Char
  | '-' :: rest => (true, rest)
  | '+' :: rest => (false, rest)
  | text => (false, text)

/-- Reads a power of ten after its mark: an optional sign and at least one digit, to the end. -/
def exponent? (text : List Char) : Option Int :=
  let (negative, digits) := takeSign text
  if digits.isEmpty || !digits.all Char.isDigit then none
  else
    let value : Int := digitsValue digits
    some (if negative then -value else value)

def lower (text : List Char) : List Char := text.map Char.toLower

/-- Reads the names of the infinities and of NaN in any case, without the sign. -/
def special? (negative : Bool) (text : List Char) : Option Binary64 :=
  let name := lower text
  if name = "inf".toList ∨ name = "infinity".toList then some (.infinity negative)
  else if name = "nan".toList then
    some (if negative then Binary64.nan.neg else Binary64.nan)
  else none

/-- Reads a decimal fraction: digits on at least one side of an optional point, then an optional
power of ten. The result is the nearest binary64 number. -/
def decimal? (negative : Bool) (text : List Char) : Option Binary64 :=
  let whole := text.takeWhile Char.isDigit
  let afterWhole := text.dropWhile Char.isDigit
  let (places, rest) := match afterWhole with
    | '.' :: more => (more.takeWhile Char.isDigit, more.dropWhile Char.isDigit)
    | more => ([], more)
  if whole.isEmpty && places.isEmpty then none
  else
    let power? : Option Int := match rest with
      | [] => some 0
      | mark :: more => if mark = 'e' ∨ mark = 'E' then exponent? more else none
    power?.map fun power =>
      Binary64.ofDecimal negative (digitsValue (whole ++ places)) (power - places.length)

/-- Reads a binary64 number: a sign, then a decimal fraction or the name of a special value. -/
def binary64? (text : String) : Option Binary64 :=
  let (negative, rest) := takeSign text.toList
  match decimal? negative rest with
  | some value => some value
  | none => special? negative rest

/-- Reads an unsigned integer below `bound`: decimal digits after an optional plus sign. -/
def natural? (bound : Nat) (text : String) : Option Nat :=
  let digits := match text.toList with
    | '+' :: rest => rest
    | digits => digits
  if digits.isEmpty || !digits.all Char.isDigit then none
  else
    let value := digitsValue digits
    if value < bound then some value else none

end ApiBridge.Numeral
