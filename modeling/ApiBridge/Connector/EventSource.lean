import ApiBridge.Connector.Stream

namespace ApiBridge

structure EventSource where
  connector : Connector
  defaultEndpoint : String

namespace EventSource

def endpointName : String := "events"

def endpointPath : String := "/events"

/-- The definition of an event source about which nothing but the base URL is known. -/
def defaultDefinition (baseUrl : String) : Definition :=
  (((Definition.new "sse" baseUrl).withHeader "Accept" "text/event-stream").withHeader
    "Cache-Control" "no-cache").withEndpoint endpointName
      { Endpoint.new endpointPath with stream := some .empty }

/-- The event source of a connector. Its endpoint is the preferred one if there is that, and else
the first by name. -/
def ofConnector (connector : Connector) : Except Error EventSource :=
  if (connector.definition.endpoint? endpointName).isSome then
    .ok { connector, defaultEndpoint := endpointName }
  else
    match connector.endpointNames with
    | name :: _ => .ok { connector, defaultEndpoint := name }
    | [] => .error (.config "SSE connector needs at least one endpoint")

def endpointOf (source : EventSource) (name : Option String) : String :=
  name.getD source.defaultEndpoint

end EventSource

end ApiBridge
