import ApiBridge.Json.Access

namespace ApiBridge

inductive Payload where
  | list (items : List Json)
  | mapping (members : Table Json)
  deriving Repr

namespace Payload

def ofJson : Json → Payload
  | .array items => .list items
  | other => .mapping other.toMapping

def toJson : Payload → Json
  | .list items => .array items
  | .mapping members => .object members

def list? : Payload → Option (List Json)
  | .list items => some items
  | .mapping _ => none

def mapping? : Payload → Option (Table Json)
  | .list _ => none
  | .mapping members => some members

end Payload

end ApiBridge
