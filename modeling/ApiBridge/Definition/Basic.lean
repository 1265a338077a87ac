import ApiBridge.Auth
import ApiBridge.Definition.Endpoint

namespace ApiBridge

structure Definition where
  kind : String
  baseUrl : String
  auth : Auth
  endpoints : Table Endpoint
  timeoutSeconds : Binary64
  retryCount : Nat
  retryDelaySeconds : Binary64
  headers : Table String
  deriving Repr

namespace Definition

def defaultKind : String := "rest"

def defaultTimeout : Binary64 := .ofNat 30

def defaultRetryCount : Nat := 3

def defaultRetryDelay : Binary64 := .ofNat 1

/-- A definition with nothing but a kind and a base URL. -/
def new (kind baseUrl : String) : Definition :=
  { kind, baseUrl, auth := .none, endpoints := [], timeoutSeconds := defaultTimeout,
    retryCount := defaultRetryCount, retryDelaySeconds := defaultRetryDelay, headers := [] }

def timeout (definition : Definition) : Duration := .saturating definition.timeoutSeconds

def retryDelay (definition : Definition) : Duration := .saturating definition.retryDelaySeconds

def endpoint? (definition : Definition) (name : String) : Option Endpoint :=
  definition.endpoints.find? name

def withEndpoint (definition : Definition) (name : String) (endpoint : Endpoint) : Definition :=
  { definition with endpoints := definition.endpoints.put name endpoint }

def withHeader (definition : Definition) (name value : String) : Definition :=
  { definition with headers := definition.headers.put name value }

def withTimeout (definition : Definition) (timeout : Duration) : Definition :=
  { definition with timeoutSeconds := timeout.toSeconds }

def withRetryDelay (definition : Definition) (delay : Duration) : Definition :=
  { definition with retryDelaySeconds := delay.toSeconds }

variable {ν : Type} {m : Type → Type} [Monad m] [MonadExceptOf Unit m] [Document ν m]

def decode? (node : ν) : m Definition := do
  let fields ← Document.fields?
    [["type", "connector_type"], ["base_url"], ["auth"], ["endpoints"],
      ["timeout_secs", "timeout"], ["retry_count"], ["retry_delay_secs", "retry_delay"],
      ["default_headers", "headers"]] node
  match fields with
  | [kind, baseUrl, auth, endpoints, timeout, retryCount, retryDelay, headers] =>
      pure {
        kind := ← Document.withDefault defaultKind Document.text? kind
        baseUrl := ← Document.required Document.text? baseUrl
        auth := ← Document.withDefault .none Auth.decode? auth
        endpoints := ← Document.withDefault [] (Document.table? Endpoint.decode?) endpoints
        timeoutSeconds := ← Document.withDefault defaultTimeout Document.number? timeout
        retryCount := ← Document.withDefault defaultRetryCount (Document.below? UInt32.size)
          retryCount
        retryDelaySeconds := ← Document.withDefault defaultRetryDelay Document.number? retryDelay
        headers := ← Document.withDefault [] (Document.table? Document.text?) headers }
  | _ => throw ()

def encode (definition : Definition) : Json :=
  .ofPairs [
    ("type", .string definition.kind), ("base_url", .string definition.baseUrl),
    ("auth", definition.auth.encode),
    ("endpoints", .object (definition.endpoints.map fun (name, endpoint) =>
      (name, endpoint.encode))),
    ("timeout_secs", .ofBinary64 definition.timeoutSeconds),
    ("retry_count", .ofNat definition.retryCount),
    ("retry_delay_secs", .ofBinary64 definition.retryDelaySeconds),
    ("default_headers", .ofTexts definition.headers)]

end Definition

end ApiBridge
