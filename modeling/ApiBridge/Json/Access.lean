import ApiBridge.Json.Printer

namespace ApiBridge.Json

def splitAt (mark : Char) (text : String) : List String :=
  (text.toList.splitOn mark).map String.ofList

/-- The value at a list of keys, each looked up in the object under the one before. -/
def follow : Json → List String → Option Json
  | value, [] => some value
  | .object members, key :: keys => (Table.find? key members).bind fun value => follow value keys
  | _, _ :: _ => none

def atPath? (value : Json) (path : String) : Option Json := follow value (splitAt '.' path)

/-- An object's own members; any other value under the key `value`. -/
def toMapping : Json → Table Json
  | .object members => members
  | other => [("value", other)]

/-- The text of a query parameter: a string as it is, other values as compact JSON, null not at
all. -/
def queryText? : Json → Option String
  | .null => none
  | .string text => some text
  | other => some other.compact

end ApiBridge.Json
