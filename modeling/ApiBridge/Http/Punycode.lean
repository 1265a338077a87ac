/-!
Punycode: the characters of a label outside ASCII are written as their distances, in order of their
codes, in numerals to a base of 36 whose digits have thresholds that adapt.
-/

namespace ApiBridge.Http.Punycode

def digit (value : Nat) : Char :=
  if value < 26 then Char.ofNat ('a'.toNat + value) else Char.ofNat ('0'.toNat + value - 26)

/-- The threshold of the digit at a position `k`, a multiple of 36. -/
def threshold (k bias : Nat) : Nat :=
  if k ≤ bias then 1 else if bias + 26 ≤ k then 26 else k - bias

def numeral (bias : Nat) : Nat → Nat → Nat → List Char
  | 0, _, _ => []
  | fuel + 1, k, value =>
      let t := threshold k bias
      if value < t then [digit value]
      else
        digit (t + (value - t) % (36 - t)) :: numeral bias fuel (k + 36) ((value - t) / (36 - t))

/-- Divides a distance by 35 until it is small, counting the steps in units of 36. -/
def settle : Nat → Nat → Nat → Nat
  | 0, _, k => k
  | fuel + 1, delta, k =>
      if 455 < delta then settle fuel (delta / 35) (k + 36) else k + 36 * delta / (delta + 38)

/-- The bias after a distance, with the number of characters placed so far. -/
def adapt (delta placed : Nat) (isFirst : Bool) : Nat :=
  let scaled := if isFirst then delta / 700 else delta / 2
  settle 32 (scaled + scaled / placed) 0

/-- The state of the encoding: the next code to look at, the distance so far, the bias, and how many
characters are placed. -/
structure State where
  code : Nat
  delta : Nat
  bias : Nat
  placed : Nat
  output : List Char

/-- Passes over the label once, writing each occurrence of the code of the state. -/
def pass (basic : Nat) (label : List Nat) (state : State) : State :=
  label.foldl (fun state c =>
    if c < state.code then { state with delta := state.delta + 1 }
    else if c = state.code then
      { state with
        output := state.output ++ numeral state.bias 40 36 state.delta
        bias := adapt state.delta (state.placed + 1) (state.placed = basic)
        delta := 0
        placed := state.placed + 1 }
    else state) state

def passes (basic : Nat) (label : List Nat) : Nat → State → State
  | 0, state => state
  | fuel + 1, state =>
      match (label.filter fun c => state.code ≤ c).min? with
      | none => state
      | some next =>
          let jumped := { state with
            delta := state.delta + (next - state.code) * (state.placed + 1), code := next }
          let passed := pass basic label jumped
          passes basic label fuel
            { passed with delta := passed.delta + 1, code := passed.code + 1 }

def encode (label : List Char) : List Char :=
  let codes := label.map Char.toNat
  let plain := label.filter fun c => c.toNat < 0x80
  let start : State := {
    code := 0x80, delta := 0, bias := 72, placed := plain.length
    output := if plain.isEmpty then [] else plain ++ ['-'] }
  (passes plain.length codes (codes.length + 1) start).output

def digitValue? (c : Char) : Option Nat :=
  if 'a' ≤ c ∧ c ≤ 'z' then some (c.toNat - 'a'.toNat)
  else if c.isDigit then some (c.toNat - '0'.toNat + 26)
  else none

def weightLimit : Nat := UInt32.size

/-- Reads a numeral: a distance, and the text after it. `weight` is what a digit counts for at the
position `k`. -/
def readNumeral (bias weight k value : Nat) : List Char → Option (Nat × List Char)
  | [] => none
  | c :: rest => do
      let d ← digitValue? c
      let value := value + d * weight
      let t := threshold k bias
      if d < t then some (value, rest)
      else if weightLimit ≤ weight * (36 - t) then none
      else readNumeral bias (weight * (36 - t)) (k + 36) value rest

/-- Puts the characters of the distances in a text into `placed`, from a place and a code on. -/
def insertAll (placed : List Char) (place code bias : Nat) (isFirst : Bool) (text : List Char) :
    Nat → Option (List Char)
  | 0 => none
  | fuel + 1 =>
      if text.isEmpty then some placed
      else do
        let (delta, rest) ← readNumeral bias 1 36 0 text
        let count := placed.length + 1
        let next := code + (place + delta) / count
        let index := (place + delta) % count
        if h : next.isValidChar then
          insertAll (placed.take index ++ Char.ofNatAux next h :: placed.drop index) (index + 1)
            next (adapt delta count isFirst) false rest fuel
        else none

/-- The label that a text in lower case stands for. Plain characters stand before the last
hyphen. -/
def decode? (text : List Char) : Option (List Char) :=
  let back := text.reverse.takeWhile (· != '-')
  let front := text.take (text.length - back.length - 1)
  insertAll front 0 0x80 72 true back.reverse (text.length + 1)

end ApiBridge.Http.Punycode
