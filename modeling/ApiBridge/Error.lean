import ApiBridge.Document
import ApiBridge.Http.UrlError

/-!
What can go wrong, as causes. Each cause has one text (`Error.message`) and one label with a status
(`Error.categorize`); `ApiError` is the structured report of a failure once retries and reconnects
are used up.
-/

namespace ApiBridge

inductive Category where
  | timeout
  | network
  | authentication
  | validation
  | rateLimit
  | server
  | client
  | unknown
  deriving DecidableEq, Repr

namespace Category

def name : Category → String
  | .timeout => "TIMEOUT"
  | .network => "NETWORK"
  | .authentication => "AUTHENTICATION"
  | .validation => "VALIDATION"
  | .rateLimit => "RATE_LIMIT"
  | .server => "SERVER"
  | .client => "CLIENT"
  | .unknown => "UNKNOWN"

def all : List Category :=
  [.timeout, .network, .authentication, .validation, .rateLimit, .server, .client, .unknown]

def ofStatus (status : Nat) : Category :=
  if status = 401 ∨ status = 403 then .authentication
  else if status = 400 ∨ status = 422 then .validation
  else if status = 429 then .rateLimit
  else if 500 ≤ status then .server
  else if 400 ≤ status then .client
  else .unknown

def decode? (node : Json) : Option Category :=
  Document.oneOf? (all.map fun category => (category.name, category)) node

end Category

def maxBodyChars : Nat := 1000

def truncateBody (body : String) : String := String.ofList (body.toList.take maxBodyChars)

structure ApiError where
  message : String
  category : Category
  status : Option Nat
  responseBody : Option String
  requestUrl : Option String
  requestMethod : Option String
  context : Table Json
  deriving Repr

namespace ApiError

def new (message : String) (category : Category) : ApiError :=
  { message, category, status := none, responseBody := none, requestUrl := none,
    requestMethod := none, context := [] }

def withStatus (error : ApiError) (status : Nat) : ApiError := { error with status := some status }

def withRequest (error : ApiError) (url method : String) : ApiError :=
  { error with requestUrl := some url, requestMethod := some method }

def withContext (error : ApiError) (key : String) (value : Json) : ApiError :=
  { error with context := error.context.put key value }

def text (error : ApiError) : String :=
  "[" ++ error.category.name ++ "] " ++ error.message ++
    match error.status with
    | some status => " (status " ++ toString status ++ ")"
    | none => ""

/-- A report as a JSON value; what is not known is left out. -/
def encode (error : ApiError) : Json :=
  .ofPairs <|
    [("message", .string error.message), ("category", .string error.category.name)] ++
      Json.member "status_code" Json.ofNat error.status ++
      Json.member "response_body" Json.string error.responseBody ++
      Json.member "request_url" Json.string error.requestUrl ++
      Json.member "request_method" Json.string error.requestMethod ++
      [("additional_context", .object error.context)]

/-- Reads a report. As a list it must have all fields up to the request method. -/
def decode? (node : Json) : Option ApiError := do
  let fields ← Document.fields?
    [["message"], ["category"], ["status_code"], ["response_body"], ["request_url"],
      ["request_method"], ["additional_context"]] node
  match fields with
  | [message, category, status, body, url, method, context] =>
      if node.array?.isSome && method.isNone then none
      else
        some {
          message := ← message.bind Document.text?
          category := ← category.bind Category.decode?
          status := ← Document.optional (Document.below? UInt16.size) status
          responseBody := ← Document.optional Document.text? body
          requestUrl := ← Document.optional Document.text? url
          requestMethod := ← Document.optional Document.text? method
          context := ← Document.withDefault [] (Document.table? Document.json?) context }
  | _ => none

def same (left right : ApiError) : Bool :=
  left.message == right.message && left.category == right.category &&
    left.status == right.status && left.responseBody == right.responseBody &&
    left.requestUrl == right.requestUrl && left.requestMethod == right.requestMethod &&
    Json.same (.object left.context) (.object right.context)

end ApiError

inductive TransportError where
  /-- The request cannot be built; with the URL where that is what is wrong. -/
  | unusable (url : Option String)
  | noAnswer (url : String) (timedOut : Bool)
  | brokenBody (timedOut : Bool)
  | errorStatus (status : Nat)
  deriving DecidableEq, Repr

namespace TransportError

def message : TransportError → String
  | .unusable none => "builder error"
  | .unusable (some url) => "builder error for url (" ++ url ++ ")"
  | .noAnswer url _ => "error sending request for url (" ++ url ++ ")"
  | .brokenBody _ => "error decoding response body"
  | .errorStatus status =>
      (if 500 ≤ status then "HTTP status server error (" else "HTTP status client error (") ++
        toString status ++ ")"

def categorize : TransportError → Category × Option Nat
  | .noAnswer _ true => (.timeout, some 0)
  | .noAnswer _ false => (.network, some 0)
  | .brokenBody true => (.timeout, some 0)
  | .brokenBody false => (.unknown, none)
  | .errorStatus status => (.ofStatus status, some status)
  | .unusable _ => (.unknown, none)

end TransportError

inductive Error where
  | config (text : String)
  | endpointNotFound (endpoint : String)
  | invalidValue (field text : String)
  | invalidYaml
  | invalidJson
  | invalidUrl (reason : Http.UrlError)
  | transport (error : TransportError)
  | httpStatus (status : Nat) (body : String)
  | timeout (millis : Nat)
  | lineOverflow (size limit : Nat)
  | api (report : ApiError)
  | io (text : String)
  | other (text : String)
  deriving Repr

def malformed : String := "the text is not well formed"

namespace Error

def message : Error → String
  | .config text => "Configuration error: " ++ text
  | .endpointNotFound endpoint => "Endpoint '" ++ endpoint ++ "' not found in configuration"
  | .invalidValue field text => "Invalid config value for '" ++ field ++ "': " ++ text
  | .invalidYaml => "Failed to parse YAML: " ++ malformed
  | .invalidJson => "Failed to parse JSON: " ++ malformed
  | .invalidUrl reason => "Invalid URL: " ++ reason.message
  | .transport error => "HTTP request failed: " ++ error.message
  | .httpStatus status body => "HTTP " ++ toString status ++ ": " ++ body
  | .timeout millis => "Read timed out after " ++ toString millis ++ "ms"
  | .lineOverflow size limit =>
      "SSE line of " ++ toString size ++ " bytes exceeds the " ++ toString limit ++ " byte limit"
  | .api report => report.text
  | .io text => "IO error: " ++ text
  | .other text => text

/-- The error of a response whose status is not a success, with the start of its body. -/
def ofStatus (status : Nat) (body : String) : Error := .httpStatus status (truncateBody body)

/-- Whether the configuration is at fault; such errors are neither retried nor wrapped. -/
def isConfig : Error → Bool
  | .config _ | .endpointNotFound _ | .invalidValue _ _ | .invalidYaml | .invalidUrl _ => true
  | _ => false

def responseBody? : Error → Option String
  | .httpStatus _ body => some body
  | .api report => report.responseBody
  | _ => none

def categorize : Error → Category × Option Nat
  | .timeout _ => (.timeout, some 0)
  | .transport error => error.categorize
  | .httpStatus status _ => (.ofStatus status, some status)
  | .api report => (report.category, report.status)
  | _ => (.unknown, none)

end Error

def ApiError.ofError (message : String) (source : Error) : ApiError :=
  let (category, status) := source.categorize
  { ApiError.new message category with
    status, responseBody := source.responseBody?.map truncateBody }

end ApiBridge
