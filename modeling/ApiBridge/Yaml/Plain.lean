import ApiBridge.Content
import ApiBridge.Decimal.Numeral
import ApiBridge.Yaml.Node

namespace ApiBridge.Yaml.Plain

def isNullWord (text : String) : Bool := ["null", "Null", "NULL", "~"].contains text

def flag? (text : String) : Option Bool :=
  if ["true", "True", "TRUE"].contains text then some true
  else if ["false", "False", "FALSE"].contains text then some false
  else none

def bases : List (Char × Nat) := [('x', 16), ('o', 8), ('b', 2)]

def digits? (base : Nat) (text : List Char) : Option Nat := do
  let values ← text.mapM Scalar.hexDigit?
  if values.isEmpty || !values.all (· < base) then none
  else some (values.foldl (fun value digit => value * base + digit) 0)

/-- Whether a text is made of digits with a zero in front, which keeps it from being a number. -/
def isPadded (text : List Char) : Bool :=
  let body := match text with
    | '-' :: rest | '+' :: rest => rest
    | body => body
  match body with
  | '0' :: rest => !rest.isEmpty && rest.all Char.isDigit
  | _ => false

/-- Reads the digits of an integer without its sign, with the mark of their base or in base ten. -/
def magnitude? (text : List Char) : Option Nat :=
  match text with
  | '0' :: mark :: rest =>
      match bases.lookup mark with
      | some base => digits? base rest
      | none => if isPadded text then none else digits? 10 text
  | _ => digits? 10 text

def natural? (bound : Nat) (text : String) : Option Nat :=
  let body := match text.toList with
    | '+' :: rest => rest
    | body => body
  (magnitude? body).filter (· < bound)

def negative? (bound : Nat) (text : String) : Option Int :=
  match text.toList with
  | '-' :: rest => ((magnitude? rest).filter (· ≤ bound)).map fun value => -(value : Int)
  | _ => none

/-- Reads a binary64 number: the names of the special ones begin with a point. -/
def number? (text : String) : Option Binary64 :=
  let (signed, body) := match text.toList with
    | '+' :: rest => (true, rest)
    | body => (false, body)
  let isSigned (body : List Char) : Bool := body.head?.any fun c => c == '+' || c == '-'
  if signed && isSigned body then none
  else if [".inf", ".Inf", ".INF"].contains (String.ofList body) then some (.infinity false)
  else if ["-.inf", "-.Inf", "-.INF"].contains text then some (.infinity true)
  else if [".nan", ".NaN", ".NAN"].contains text then some .nan
  else (Numeral.binary64? (String.ofList body)).filter Binary64.isFinite

/-- Reads an integer. What does not fit into 128 bits is none, and there is no content for what does
not fit into 64 bits. -/
def integer? (text : String) : Option (Option Content) :=
  match natural? (UInt64.size * UInt64.size) text,
      negative? (UInt64.size * UInt64.size / 2) text with
  | some n, _ => some (if n < UInt64.size then some (.integer n) else none)
  | none, some n => some (if Int64.minValue.toInt ≤ n then some (.integer n) else none)
  | none, none => none

def content? (text : String) : Option Content :=
  if text.isEmpty || isNullWord text then some .null
  else
    match flag? text, integer? text with
    | some value, _ => some (.flag value)
    | none, some value => value
    | none, none =>
        if isPadded text.toList then some (.text text)
        else some (((number? text).map Content.float).getD (.text text))

end ApiBridge.Yaml.Plain
