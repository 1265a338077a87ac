import ApiBridge.Json.Basic
import ApiBridge.Decimal.Numeral
import ApiBridge.Text.Utf8

/-!
Reading JSON texts. Objects and arrays may be nested 127 deep. A numeral with a fraction or a power
of ten, or too long for 64 bits, is read from its leading digits that fit in 64 bits, which are
rounded to binary64 and then multiplied or divided by a power of ten.
-/

namespace ApiBridge.Json

def maxDepth : Nat := 127

def isSpace (c : Char) : Bool := c == ' ' || c == '\n' || c == '\t' || c == '\r'

def skipSpace (text : List Char) : List Char := text.dropWhile isSpace

/-- Digits put together for as long as they stay below `2 ^ 64`, with the digits that are left. -/
def gather (value : Nat) : List Char → Nat × List Char
  | [] => (value, [])
  | c :: rest =>
      if c.isDigit then
        let next := value * 10 + (c.toNat - '0'.toNat)
        if next < UInt64.size then gather next rest else (value, c :: rest)
      else (value, c :: rest)

/-- Scales by a power of ten, in steps of at most `10 ^ 308`; `none` past the largest number. -/
def scale (x : Binary64) (exponent : Int) : Nat → Option Binary64
  | 0 => some x
  | fuel + 1 =>
      if exponent.natAbs ≤ 308 then
        let power := Binary64.ofDecimal false 1 exponent.natAbs
        if 0 ≤ exponent then
          let scaled := x.mul power
          if scaled.isFinite then some scaled else none
        else some (x.div power)
      else if x.isZero then some x
      else if 0 ≤ exponent then none
      else scale (x.div (Binary64.ofDecimal false 1 308)) (exponent + 308) fuel

/-- The binary64 number of a sign, leading digits and a power of ten; `none` past the largest. -/
def scaled? (negative : Bool) (digits : Nat) (exponent : Int) : Option Binary64 :=
  -- Six steps reach zero from any 64-bit number, and further ones keep it.
  (scale (.ofNat digits) exponent (exponent.natAbs / 308 + 8)).map fun value =>
    if negative then value.neg else value

/-- The largest power of ten that is read; larger ones are zero or out of range. -/
def exponentBound : Nat := 2147483648

def readPower (negative : Bool) (digits : Nat) (exponent : Int) (text : List Char) :
    Option (Binary64 × List Char) :=
  match text with
  | mark :: rest =>
      if mark = 'e' ∨ mark = 'E' then
        let (below, rest) := Numeral.takeSign rest
        let power := rest.takeWhile Char.isDigit
        let left := rest.dropWhile Char.isDigit
        if power.isEmpty then none
        else
          let size := Numeral.digitsValue power
          if exponentBound ≤ size then
            if digits ≠ 0 ∧ !below then none else some (.zero negative, left)
          else
            (scaled? negative digits (if below then exponent - size else exponent + size)).map
              fun value => (value, left)
      else (scaled? negative digits exponent).map fun value => (value, text)
  | [] => (scaled? negative digits exponent).map fun value => (value, [])

/-- Reads the digits after a point, of which those past 64 bits count for nothing. -/
def readFraction (negative : Bool) (digits : Nat) (exponent : Int) (text : List Char) :
    Option (Binary64 × List Char) :=
  match text with
  | first :: _ =>
      if first.isDigit then
        let (value, rest) := gather digits text
        let used : Nat := text.length - rest.length
        readPower negative value (exponent - used) (rest.dropWhile Char.isDigit)
      else none
  | [] => none

def readNumber (negative : Bool) (text : List Char) : Option (Number × List Char) :=
  let float (result : Option (Binary64 × List Char)) : Option (Number × List Char) :=
    result.map fun (value, rest) => (.float value, rest)
  match text with
  | [] => none
  | first :: afterFirst =>
      if !first.isDigit then none
      else
        let (digits, rest) := if first = '0' then (0, afterFirst) else gather 0 text
        let dropped := rest.takeWhile Char.isDigit
        let left := rest.dropWhile Char.isDigit
        if first = '0' ∧ !dropped.isEmpty then none
        else
          match left with
          | '.' :: more => float (readFraction negative digits dropped.length more)
          | _ =>
              let whole := dropped.isEmpty &&
                !(left.head? == some 'e' || left.head? == some 'E')
              if whole && !negative then some (.int digits, left)
              else if whole && 0 < digits && digits ≤ UInt64.size / 2 then
                some (.int (-digits), left)
              else float (readPower negative digits dropped.length left)

def hexUnit? (text : List Char) : Option (Nat × List Char) :=
  match text with
  | a :: b :: c :: d :: rest =>
      let digit? (x : Char) : Option Nat :=
        if x.isDigit then some (x.toNat - '0'.toNat)
        else if 'a' ≤ x ∧ x ≤ 'f' then some (x.toNat - 'a'.toNat + 10)
        else if 'A' ≤ x ∧ x ≤ 'F' then some (x.toNat - 'A'.toNat + 10)
        else none
      match digit? a, digit? b, digit? c, digit? d with
      | some a, some b, some c, some d => some (((a * 16 + b) * 16 + c) * 16 + d, rest)
      | _, _, _, _ => none
  | _ => none

/-- Reads the character of an escape, of which `\u` has been read. Code points past 16 bits come as
two units, and a unit of such a pair may not stand alone. -/
def readUnit (text : List Char) : Option (Char × List Char) :=
  match hexUnit? text with
  | none => none
  | some (unit, rest) =>
      if unit < 0xD800 ∨ 0xDFFF < unit then some (Char.ofNat unit, rest)
      else if 0xDBFF < unit then none
      else
        match rest with
        | '\\' :: 'u' :: more =>
            match hexUnit? more with
            | some (second, rest) =>
                if 0xDC00 ≤ second ∧ second ≤ 0xDFFF then
                  some (Char.ofNat (0x10000 + (unit - 0xD800) * 0x400 + (second - 0xDC00)), rest)
                else none
            | none => none
        | _ => none

/-- Reads one character of a quoted text, or none at the closing quote. -/
def readChar (text : List Char) : Option (Option Char × List Char) :=
  match text with
  | [] => none
  | '"' :: rest => some (none, rest)
  | '\\' :: 'u' :: rest => (readUnit rest).map fun (c, rest) => (some c, rest)
  | '\\' :: c :: rest =>
      let plain (c : Char) : Option (Option Char × List Char) := some (some c, rest)
      if c = '"' ∨ c = '\\' ∨ c = '/' then plain c
      else if c = 'b' then plain '\x08'
      else if c = 'f' then plain '\x0c'
      else if c = 'n' then plain '\n'
      else if c = 'r' then plain '\r'
      else if c = 't' then plain '\t'
      else none
  | c :: rest => if c = '\\' ∨ c.toNat < 0x20 then none else some (some c, rest)

/-- Reads the rest of a quoted text; `done` holds its characters so far, in reverse. -/
def readString (done : List Char) (text : List Char) : Nat → Option (String × List Char)
  | 0 => none
  | fuel + 1 =>
      match readChar text with
      | none => none
      | some (none, rest) => some (String.ofList done.reverse, rest)
      | some (some c, rest) => readString (c :: done) rest fuel

def readWord (word : String) (value : Json) (text : List Char) : Option (Json × List Char) :=
  if word.toList.isPrefixOf text then some (value, text.drop word.length) else none

mutual

/-- Reads a value at the front of a text. `depth` levels may still be opened. The fuel is spent by
one for each value, item and member, so the length of the text suffices. -/
def readValue (depth : Nat) (text : List Char) : Nat → Option (Json × List Char)
  | 0 => none
  | fuel + 1 =>
      match skipSpace text with
      | [] => none
      | c :: rest =>
          if c = '"' then
            (readString [] rest (rest.length + 1)).map fun (text, rest) => (.string text, rest)
          else if c = '[' then
            match depth with
            | 0 => none
            | depth + 1 =>
                match skipSpace rest with
                | ']' :: rest => some (.array [], rest)
                | rest => readItems depth [] rest fuel
          else if c = '\x7b' then
            match depth with
            | 0 => none
            | depth + 1 =>
                match skipSpace rest with
                | '\x7d' :: rest => some (.object [], rest)
                | rest => readMembers depth [] rest fuel
          else if c = 'n' then readWord "null" .null (c :: rest)
          else if c = 't' then readWord "true" (.bool true) (c :: rest)
          else if c = 'f' then readWord "false" (.bool false) (c :: rest)
          else if c = '-' then (readNumber true rest).map fun (n, rest) => (.number n, rest)
          else (readNumber false (c :: rest)).map fun (n, rest) => (.number n, rest)

/-- Reads the items of an array up to its end; `done` holds the earlier ones, in reverse. -/
def readItems (depth : Nat) (done : List Json) (text : List Char) :
    Nat → Option (Json × List Char)
  | 0 => none
  | fuel + 1 =>
      match readValue depth text fuel with
      | none => none
      | some (item, rest) =>
          match skipSpace rest with
          | ',' :: rest => readItems depth (item :: done) rest fuel
          | ']' :: rest => some (.array (item :: done).reverse, rest)
          | _ => none

/-- Reads the members of an object up to its end; `done` holds the earlier ones, in reverse. -/
def readMembers (depth : Nat) (done : List (String × Json)) (text : List Char) :
    Nat → Option (Json × List Char)
  | 0 => none
  | fuel + 1 =>
      match skipSpace text with
      | '"' :: rest =>
          match readString [] rest (rest.length + 1) with
          | none => none
          | some (key, rest) =>
              match skipSpace rest with
              | ':' :: rest =>
                  match readValue depth rest fuel with
                  | none => none
                  | some (value, rest) =>
                      match skipSpace rest with
                      | ',' :: rest => readMembers depth ((key, value) :: done) rest fuel
                      | '\x7d' :: rest => some (.ofPairs ((key, value) :: done).reverse, rest)
                      | _ => none
              | _ => none
      | _ => none

end

def parse? (text : String) : Option Json :=
  let chars := text.toList
  match readValue maxDepth chars (2 * chars.length + 2) with
  | some (value, rest) => if (skipSpace rest).isEmpty then some value else none
  | none => none

def parseBytes? (bytes : List UInt8) : Option Json := (Utf8.decode? bytes).bind parse?

end ApiBridge.Json
