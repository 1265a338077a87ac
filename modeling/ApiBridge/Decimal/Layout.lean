import ApiBridge.Decimal.Shortest

namespace ApiBridge.Decimal

structure Layout where
  /-- Whether a number whose leading digit stands for `10 ^ exponent` is written without a power
  of ten. -/
  positional : Int → Bool
  wholeMark : String
  infinity : String
  nan : String

/-- Numbers in documents: positional while the leading digit stands for `10 ^ -5` to `10 ^ 15`,
and whole numbers keep a zero after the point. -/
def documentLayout : Layout where
  positional exponent := decide (-5 ≤ exponent ∧ exponent ≤ 15)
  wholeMark := ".0"
  infinity := "null"
  nan := "null"

/-- Numbers in messages are never written with a power of ten. -/
def messageLayout : Layout where
  positional _ := true
  wholeMark := ""
  infinity := "inf"
  nan := "NaN"

def zeros (count : Nat) : List Char := List.replicate count '0'

namespace Layout

/-- The digits with a point put where `exponent`, the weight of the last digit, says. -/
def positionalText (layout : Layout) (digits : List Char) (exponent : Int) : String :=
  if 0 ≤ exponent then String.ofList (digits ++ zeros exponent.toNat) ++ layout.wholeMark
  else
    let places := (-exponent).toNat
    let padded := zeros (places + 1 - digits.length) ++ digits
    let whole := padded.length - places
    String.ofList (padded.take whole ++ '.' :: padded.drop whole)

/-- One digit, the others after a point, and a power of ten that always has a sign. -/
def scientificText (digits : List Char) (leading : Int) : String :=
  let mantissa := match digits with
    | first :: second :: rest => first :: '.' :: second :: rest
    | short => short
  String.ofList mantissa ++ (if 0 ≤ leading then "e+" else "e-") ++ toString leading.natAbs

def render (layout : Layout) (x : Binary64) : String :=
  if x.isNaN then layout.nan
  else
    let sign := if x.negative then "-" else ""
    if !x.isFinite then sign ++ layout.infinity
    else
      let decimal := shortest x
      let digits := Nat.toDigits 10 decimal.digits
      let leading := decimal.exponent + digits.length - 1
      sign ++ if layout.positional leading then layout.positionalText digits decimal.exponent
        else scientificText digits leading

end Layout

end ApiBridge.Decimal
