import ApiBridge.Json.Basic

namespace ApiBridge.Schema

inductive Kind where
  | string
  | number
  | integer
  | boolean
  | object
  | array
  | null
  deriving DecidableEq, Repr

namespace Kind

def name : Kind → String
  | .string => "string"
  | .number => "number"
  | .integer => "integer"
  | .boolean => "boolean"
  | .object => "object"
  | .array => "array"
  | .null => "null"

def all : List Kind := [.string, .number, .integer, .boolean, .object, .array, .null]

def ofName? (name : String) : Option Kind := all.find? fun kind => kind.name == name

/-- The kind of a value; whole binary64 numbers are still of the kind `number`. -/
def ofValue : Json → Kind
  | .null => .null
  | .bool _ => .boolean
  | .number (.int _) => .integer
  | .number (.float _) => .number
  | .string _ => .string
  | .array _ => .array
  | .object _ => .object

/-- Whether a value may stand where a kind is asked for: numbers include the integers, and integers
the binary64 numbers without a fraction. -/
def accepts (kind : Kind) (value : Json) : Bool :=
  match kind, value with
  | .number, .number _ => true
  | .integer, .number (.float x) => x.isFinite && !x.hasFraction
  | _, _ => kind == ofValue value

end Kind

end ApiBridge.Schema
