import ApiBridge.Connector.Basic
import ApiBridge.Connector.Payload
import ApiBridge.Json.Reader
import ApiBridge.Pagination.Walk

namespace ApiBridge.Connector

def isAsciiBlank (byte : UInt8) : Bool :=
  byte == 0x09 || byte == 0x0A || byte == 0x0C || byte == 0x0D || byte == 0x20

def jsonOf (body : List UInt8) : Except Error Json :=
  match Json.parseBytes? body with
  | some value => .ok value
  | none => .error .invalidJson

/-- The JSON value of a response's body; a blank body means null. -/
def bodyValue (body : List UInt8) : Except Error Json :=
  if body.all isAsciiBlank then .ok .null else jsonOf body

/-- The part of a value at a path, or the whole value if that is no object, has nothing there, or no
path is set. -/
def atResponsePath (path : Option String) (value : Json) : Json :=
  match path.filter fun path => !path.isEmpty with
  | some path => (value.atPath? path).getD value
  | none => value

def checkStatus (response : Http.Response) : Except Error Unit :=
  if response.isSuccess then .ok () else .error (.ofStatus response.status response.text)

/-- The data of a response. The limiter takes note of the headers first. That the data does not
satisfy the schema for responses has no consequences. -/
def process (connector : Connector) (name : String) (response : Http.Response) :
    Activity Payload := do
  let endpoint ← Activity.ofResult (connector.endpoint name)
  Run.noteHeaders name response.headers
  Activity.ofResult (checkStatus response)
  let value ← Activity.ofResult (bodyValue response.body)
  let value := atResponsePath endpoint.responsePath value
  if let (some schema, some validator) := (endpoint.responseSchema, connector.validator) then
    let _ ← (Run.validate validator value schema : Run _)
  return .ofJson value

def fetchPage (connector : Connector) (name : String) (params : Table Json) : Activity Json := do
  let request ← Activity.ofResult (connector.prepare name params)
  Run.acquire name
  let response ← connector.exchange request
  Run.noteHeaders name response.headers
  Activity.ofResult (checkStatus response)
  Activity.ofResult (bodyValue response.body)

def pages (connector : Connector) (name : String) : Pagination.Source Traffic := fun params => do
  match ← (connector.fetchPage name params).run with
  | .ok body => return some body
  | .error _ => return none

/-- All items of a paged endpoint from its first page on. Each further page takes a reaction of the
other side, so that there can be only one more of them than reactions. -/
def walkPages (connector : Connector) (name : String) (params : Table Json)
    (spec : Pagination.Spec) (first : Json) : Run (List (Table Json)) := do
  let fuel := (← get).peer.reactions.length + 1
  Pagination.walk spec params (connector.pages name) fuel first

def fetchOnce (connector : Connector) (name : String) (endpoint : Endpoint)
    (request : Http.Request) (params : Table Json) : Activity Payload := do
  Run.acquire name
  let response ← connector.exchange request
  let data ← connector.process name response
  match endpoint.pagination with
  | none => return data
  | some spec =>
      let items ← (connector.walkPages name params spec data.toJson : Run _)
      return .list (items.map .object)

/-- Fetches the data of an endpoint. The report of a failure holds the parameters of the call, or
null for a call without any. -/
def fetch (connector : Connector) (name : String) (params : Option (Table Json)) :
    Activity Payload := do
  let endpoint ← Activity.ofResult (connector.endpoint name)
  let given := params.getD []
  let request ← Activity.ofResult (connector.prepare name given)
  let report (error : Error) : ApiError :=
    (requestReport ("Failed to fetch data from " ++ name) name request error).withContext "params"
      (.ofOption .object params)
  reporting (connector.withRetries (connector.fetchOnce name endpoint request given)) report

end ApiBridge.Connector
