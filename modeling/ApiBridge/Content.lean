import ApiBridge.Json.Basic

namespace ApiBridge

/-- What is written in a document before it is known what it is for. Unlike those of JSON objects,
the keys of mappings are contents themselves, and numbers may be infinite. -/
inductive Content where
  | null
  | flag (value : Bool)
  | integer (value : Int)
  | float (value : Binary64)
  | text (value : String)
  | list (items : List Content)
  | mapping (members : List (Content × Content))
  deriving Repr, Inhabited

namespace Content

def text? : Content → Option String
  | .text value => some value
  | _ => none

def isEmpty : Content → Bool
  | .null | .mapping [] => true
  | _ => false

def scalarJson? : Content → Option Json
  | .null => some .null
  | .flag value => some (.bool value)
  | .integer value => some (.ofInt value)
  | .float value => some (.ofBinary64 value)
  | .text value => some (.string value)
  | .list _ | .mapping _ => none

end Content

namespace Json

mutual

def content : Json → Content
  | .null => .null
  | .bool value => .flag value
  | .number (.int value) => .integer value
  | .number (.float value) => .float value
  | .string value => .text value
  | .array items => .list (contents items)
  | .object members => .mapping (memberContents members)

def contents : List Json → List Content
  | [] => []
  | item :: items => content item :: contents items

def memberContents : List (String × Json) → List (Content × Content)
  | [] => []
  | (key, value) :: members => (.text key, content value) :: memberContents members

end

end Json

end ApiBridge
