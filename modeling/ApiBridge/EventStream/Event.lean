import ApiBridge.Document
import ApiBridge.Json.Printer

namespace ApiBridge.EventStream

def defaultName : String := "message"

/-- An event of a stream: its data as a value and as the text it came from. -/
structure Event where
  id : Option String
  name : String
  data : Json
  retry : Option Nat
  raw : String
  deriving Repr

namespace Event

def message (data : Json) : Event :=
  { id := none, name := defaultName, data, retry := none,
    raw := match data with
      | .string text => text
      | other => other.compact }

def withId (event : Event) (id : String) : Event := { event with id := some id }

def withName (event : Event) (name : String) : Event := { event with name }

def encode (event : Event) : Json :=
  .ofPairs [
    ("id", .ofOption .string event.id), ("event", .string event.name), ("data", event.data),
    ("retry", .ofOption .ofNat event.retry), ("raw_data", .string event.raw)]

end Event

end ApiBridge.EventStream
