import ApiBridge.Definition.Check
import ApiBridge.Traffic

namespace ApiBridge

structure Connector where
  definition : Definition
  /-- What checks values against the schemas of endpoints, if anything does. -/
  validator : Option Schema.Validator

namespace Connector

/-- The limiters of the endpoints that declare a rate, started at an instant. -/
def limiters (now : Instant) (limiters : RateLimit.Limiters) :
    List (String × Endpoint) → Except Fault (Except Error RateLimit.Limiters)
  | [] => pure (.ok limiters)
  | (name, endpoint) :: rest =>
      match endpoint.rateLimit with
      | none => Connector.limiters now limiters rest
      | some spec => do
          match ← limiters.create name spec now with
          | .ok limiters => Connector.limiters now limiters rest
          | .error error => pure (.error error)

/-- Opens a definition whose base URL is a URL, with a limiter for each endpoint that declares a
rate. -/
def create (definition : Definition) (validator : Option Schema.Validator) (now : Instant) :
    Except Fault (Except Error (Connector × RateLimit.Limiters)) :=
  match Http.Url.parse definition.baseUrl with
  | .error reason => pure (.error (.invalidUrl reason))
  | .ok _ => do
      let limiters ← Connector.limiters now [] definition.endpoints
      pure (limiters.map fun limiters => ({ definition, validator }, limiters))

def endpoint (connector : Connector) (name : String) : Except Error Endpoint :=
  match connector.definition.endpoint? name with
  | some endpoint => .ok endpoint
  | none => .error (.endpointNotFound name)

def endpointNames (connector : Connector) : List String := connector.definition.endpoints.keys

def trimmedBase (connector : Connector) : String :=
  String.ofList (connector.definition.baseUrl.toList.reverse.dropWhile (· == '/')).reverse

/-- The URL of a path: there is one slash between the base URL and the path. -/
def urlOf (connector : Connector) (path : String) : String :=
  connector.trimmedBase ++ "/" ++ String.ofList (path.toList.dropWhile (· == '/'))

/-- The request for a call. The connector's headers give way to those of the endpoint, and these to
those of the credentials; the endpoint's parameters to those of the call, and these to those of the
credentials. -/
def prepare (connector : Connector) (name : String) (params : Table Json) :
    Except Error Http.Request := do
  let endpoint ← connector.endpoint name
  let auth := connector.definition.auth
  let headers := Http.Header.merge (Http.Header.merge connector.definition.headers endpoint.headers)
    auth.headers
  pure {
    url := connector.urlOf endpoint.path
    method := endpoint.method
    headers
    params := (endpoint.params.overlay params).overlay auth.queryParams
    body := endpoint.body }

def lastEventHeader : String := "Last-Event-ID"

/-- The request that opens an event stream, from after an event if its id is given. -/
def prepareStream (connector : Connector) (name : String) (params : Table Json)
    (lastEventId : Option String) : Except Error Http.Request := do
  let request ← connector.prepare name params
  let headers := Http.Header.putIfAbsent request.headers "Accept" "text/event-stream"
  let headers := Http.Header.putIfAbsent headers "Cache-Control" "no-cache"
  let headers := match lastEventId.filter fun id => !id.isEmpty with
    | some id => headers.put lastEventHeader id
    | none => headers
  pure { request with headers }

def exchange (connector : Connector) (request : Http.Request) : Activity Http.Response := do
  match ← (Run.exchange request connector.definition.auth : Run _) with
  | .ok response => return response
  | .error error => throw (.transport error)

/-- Does something again until it succeeds, with growing waits in between: `left` more times, the
next one being the given attempt. Faults of the configuration are final. -/
def retry {α : Type} (delay : Duration) (action : Activity α) : Nat → Nat → Activity α
  | 0, _ => action
  | left + 1, attempt => do
      match ← action.attempt with
      | .ok value => return value
      | .error error =>
          if error.isConfig then throw error
          else
            let wait ← (liftM (delay.times attempt) : Run _)
            Run.pause wait
            retry delay action left (attempt + 1)

/-- Does something as often as the definition says, and at least once. -/
def withRetries {α : Type} (connector : Connector) (action : Activity α) : Activity α :=
  retry connector.definition.retryDelay action (connector.definition.retryCount - 1) 1

/-- Fails with a report in the place of an error, unless the configuration is at fault. -/
def reporting {α : Type} (activity : Activity α) (report : Error → ApiError) : Activity α := do
  match ← activity.attempt with
  | .ok value => return value
  | .error error => throw (if error.isConfig then error else .api (report error))

def requestReport (message endpoint : String) (request : Http.Request) (error : Error) : ApiError :=
  ((ApiError.ofError (message ++ ": " ++ error.message) error).withRequest request.url
    request.method.name).withContext "endpoint" (.string endpoint)

end Connector

end ApiBridge
