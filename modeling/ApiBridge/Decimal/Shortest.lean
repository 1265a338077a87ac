import ApiBridge.Binary64

/-!
The shortest decimal that reads back as a given binary64 number. Of the decimals with that many
digits the nearest one is taken, and of two equally near ones the even one.
-/

namespace ApiBridge

structure Decimal where
  digits : Nat
  exponent : Int
  deriving DecidableEq, Repr, Inhabited

namespace Decimal

def powerOfTen (exponent : Int) : Nat × Nat :=
  if 0 ≤ exponent then (Nat.pow 10 exponent.toNat, 1) else (1, Nat.pow 10 (-exponent).toNat)

structure Interval where
  low : Nat
  high : Nat
  closed : Bool

/-- Half a spacing to either side, a quarter below a power of two, with the ends included when the
significand is even. -/
def roundingInterval (x : Binary64) : Interval :=
  let spacing := Nat.pow 2 x.shift
  let below := if x.significand = Binary64.hiddenBit ∧ 0 < x.shift then spacing else 2 * spacing
  { low := 4 * x.units - below, high := 4 * x.units + 2 * spacing,
    closed := x.significand % 2 == 0 }

/-- Whether `digits * 10 ^ exponent` lies in the interval. -/
def Interval.contains (range : Interval) (digits : Nat) (exponent : Int) : Bool :=
  let (up, down) := powerOfTen exponent
  let point := digits * up * (4 * Binary64.unitsPerOne)
  if range.closed then range.low * down ≤ point && point ≤ range.high * down
  else range.low * down < point && point < range.high * down

/-- The exponent of the leading decimal digit of a positive `units`, searched from an estimate that
is at most one too small. -/
def leadingExponent (units : Nat) : Int :=
  let estimate : Int := (((units.log2 : Int) - 1074) * 30103).fdiv 100000 - 1
  let reaches (exponent : Int) : Bool :=
    let (up, down) := powerOfTen exponent
    up * Binary64.unitsPerOne ≤ units * down
  if reaches (estimate + 2) then estimate + 2
  else if reaches (estimate + 1) then estimate + 1
  else estimate

/-- The neighbours of the number on the grid of multiples of `10 ^ exponent`: the one of them that
reads back and is nearer, if any. -/
def onGrid? (x : Binary64) (range : Interval) (exponent : Int) : Option Decimal :=
  let (up, down) := powerOfTen exponent
  let step := up * Binary64.unitsPerOne
  let scaled := x.units * down
  let floor := scaled / step
  let rest := scaled % step
  let lowFits := floor != 0 && range.contains floor exponent
  let highFits := range.contains (floor + 1) exponent
  if lowFits && highFits then
    let high := step < 2 * rest || (step == 2 * rest && floor % 2 == 1)
    some ⟨if high then floor + 1 else floor, exponent⟩
  else if lowFits then some ⟨floor, exponent⟩
  else if highFits then some ⟨floor + 1, exponent⟩
  else none

/-- The first of the grids with one digit more each on which the number is found. -/
def search (x : Binary64) (range : Interval) : Nat → Int → Decimal
  | 0, exponent => ⟨x.units * (powerOfTen exponent).2 / Binary64.unitsPerOne, exponent⟩
  | more + 1, exponent =>
      match onGrid? x range exponent with
      | some decimal => decimal
      | none => search x range more (exponent - 1)

def trim (decimal : Decimal) : Nat → Decimal
  | 0 => decimal
  | fuel + 1 =>
      if decimal.digits ≠ 0 ∧ decimal.digits % 10 = 0 then
        trim ⟨decimal.digits / 10, decimal.exponent + 1⟩ fuel
      else decimal

/-- The shortest decimal that reads back as the size of a finite number; seventeen digits always
suffice. -/
def shortest (x : Binary64) : Decimal :=
  if x.units = 0 then ⟨0, 0⟩
  else (search x (roundingInterval x) 17 (leadingExponent x.units)).trim 20

end Decimal

end ApiBridge
