import ApiBridge.Decimal.Layout
import ApiBridge.Definition.Basic
import ApiBridge.Yaml.Value

/-!
Checking definitions, and loading them from YAML texts. Of several faults the first one counts:
those of the connector come before those of its endpoints, which are checked in the order of their
names.
-/

namespace ApiBridge.Definition

/-- Refuses what is no length of time in seconds, and where it must be positive also zero. -/
def checkSeconds (field : String) (seconds : Binary64) (positive : Bool) : Except Error Unit :=
  let text := Decimal.messageLayout.render seconds
  if (Duration.ofSeconds? seconds).isNone then
    .error (.invalidValue field
      ("must be a non-negative number of seconds in range, got " ++ text))
  else if positive && seconds.le (.zero false) then
    .error (.invalidValue field ("must be > 0, got " ++ text))
  else .ok ()

def endpointError (name text : String) : Error :=
  .config ("Endpoint '" ++ name ++ "'" ++ text)

def ofEndpoint {α : Type} (name : String) : Except Error α → Except Error Unit
  | .ok _ => .ok ()
  | .error error => .error (endpointError name (": " ++ error.message))

def checkStream (name : String) (settings : EventStream.Settings) : Except Error Unit := do
  if settings.chunkSize = some 0 then throw (endpointError name " sse.chunk_size must be > 0")
  if settings.bufferSize = some 0 then
    throw (endpointError name " sse.backpressure_buffer_size must be > 0")
  if let some policy := settings.dropPolicy then
    ofEndpoint name (EventStream.DropPolicy.parse policy)
  if let some seconds := settings.reconnectDelay then
    checkSeconds (name ++ ".sse.reconnect_delay") seconds false
  if let some seconds := settings.readTimeout then
    checkSeconds (name ++ ".sse.read_timeout") seconds true

def checkEndpoint (name : String) (endpoint : Endpoint) : Except Error Unit := do
  if Text.isAllBlank endpoint.path then throw (endpointError name " path cannot be empty")
  if let some spec := endpoint.rateLimit then ofEndpoint name spec.validate
  if endpoint.pagination.any fun spec => spec.pageParam.isEmpty then
    throw (endpointError name " pagination page_param cannot be empty")
  if let some settings := endpoint.stream then checkStream name settings

def check (definition : Definition) : Except Error Unit := do
  if Text.isAllBlank definition.baseUrl then throw (.config "Connector base_url cannot be empty")
  if definition.endpoints.isEmpty then
    throw (.config "Connector must have at least one endpoint")
  checkSeconds "timeout" definition.timeoutSeconds true
  checkSeconds "retry_delay" definition.retryDelaySeconds false
  definition.endpoints.forM fun (name, endpoint) => checkEndpoint name endpoint

def load (text : String) : Except Error Definition := do
  match Yaml.Node.read? decode? text with
  | some definition =>
      definition.check
      pure definition
  | none => throw (.config ("Failed to parse connector YAML: " ++ malformed))

end ApiBridge.Definition
