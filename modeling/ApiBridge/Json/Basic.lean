import ApiBridge.Binary64
import ApiBridge.Table

/-!
JSON values. A number is an integer or a binary64 number, and the two stay apart even when they are
numerically equal. Objects keep their members in the order of the keys, each key once.
-/

namespace ApiBridge

/-- A JSON number: an integer of at most 64 bits, or a finite binary64 number. -/
inductive Number where
  | int (value : Int)
  | float (value : Binary64)
  deriving DecidableEq, Repr

namespace Number

def toBinary64 : Number → Binary64
  | .int value => .ofInt value
  | .float value => value

/-- Equality of documents: integers by value, binary64 numbers numerically, and never across. -/
def same : Number → Number → Bool
  | .int left, .int right => left == right
  | .float left, .float right => left.same right
  | _, _ => false

end Number

inductive Json where
  | null
  | bool (value : Bool)
  | number (value : Number)
  | string (value : String)
  | array (items : List Json)
  | object (members : List (String × Json))
  deriving Repr, Inhabited

namespace Json

def ofInt (value : Int) : Json := .number (.int value)

def ofNat (value : Nat) : Json := .number (.int value)

/-- A binary64 number as a JSON value; JSON has no infinities and no NaN, which become null. -/
def ofBinary64 (value : Binary64) : Json :=
  if value.isFinite then .number (.float value) else .null

/-- An object from its members; of two members with one key the later one holds. -/
def ofPairs (members : List (String × Json)) : Json := .object (Table.ofPairs members)

def ofTexts (texts : Table String) : Json :=
  .object (texts.map fun (key, text) => (key, .string text))

def ofOption {α : Type} (encode : α → Json) : Option α → Json
  | some value => encode value
  | none => .null

def member {α : Type} (key : String) (encode : α → Json) : Option α → List (String × Json)
  | some value => [(key, encode value)]
  | none => []

def string? : Json → Option String
  | .string text => some text
  | _ => none

def array? : Json → Option (List Json)
  | .array items => some items
  | _ => none

def object? : Json → Option (Table Json)
  | .object members => some members
  | _ => none

def number? : Json → Option Number
  | .number value => some value
  | _ => none

def isNull : Json → Bool
  | .null => true
  | _ => false

mutual

/-- Equality of documents; numbers are compared by `Number.same`. -/
def same : Json → Json → Bool
  | .null, .null => true
  | .bool left, .bool right => left == right
  | .number left, .number right => left.same right
  | .string left, .string right => left == right
  | .array left, .array right => sameItems left right
  | .object left, .object right => sameMembers left right
  | _, _ => false

def sameItems : List Json → List Json → Bool
  | [], [] => true
  | left :: lefts, right :: rights => same left right && sameItems lefts rights
  | _, _ => false

def sameMembers : List (String × Json) → List (String × Json) → Bool
  | [], [] => true
  | (leftKey, left) :: lefts, (rightKey, right) :: rights =>
      leftKey == rightKey && same left right && sameMembers lefts rights
  | _, _ => false

end

end Json

end ApiBridge
