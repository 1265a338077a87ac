import ApiBridge.Connector.Basic

namespace ApiBridge

structure Health where
  healthy : Bool
  component : String
  message : String
  details : Table Json
  deriving Repr

namespace Health

def status (health : Health) : String := if health.healthy then "healthy" else "unhealthy"

def members (health : Health) : List (String × Json) :=
  [("status", .string health.status), ("component", .string health.component),
    ("message", .string health.message), ("details", .object health.details)]

end Health

namespace Connector

/-- Asks for the root with no more than basic credentials. Every answer but that of a server in
trouble is good, and its body does not matter. -/
def checkHealth (connector : Connector) : Run Health := do
  let component := "connector:" ++ connector.definition.baseUrl
  let failure (message : String) (details : Table Json) : Health :=
    { healthy := false, component, message, details }
  match ← Run.openAnswer (.get (connector.trimmedBase ++ "/")) connector.definition.auth with
  | .failed error => return failure error.message []
  | .silent url => return failure (TransportError.noAnswer url true).message []
  | .opened answer =>
      let details := [("status_code", Json.ofNat answer.status)]
      if 500 ≤ answer.status then
        return failure ("Server returned " ++ toString answer.status) details
      else
        return {
          healthy := true, component
          message := "Connected to " ++ connector.definition.baseUrl, details }

end Connector

end ApiBridge
