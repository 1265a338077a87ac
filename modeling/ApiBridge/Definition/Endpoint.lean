import ApiBridge.EventStream.Settings
import ApiBridge.Http.Method
import ApiBridge.Pagination.Spec
import ApiBridge.RateLimit.Spec

namespace ApiBridge

structure Endpoint where
  path : String
  method : Http.Method
  params : Table Json
  headers : Table String
  body : Option Json
  pagination : Option Pagination.Spec
  responsePath : Option String
  requestSchema : Option Json
  responseSchema : Option Json
  rateLimit : Option RateLimit.Spec
  stream : Option EventStream.Settings
  deriving Repr, Inhabited

namespace Endpoint

def new (path : String) : Endpoint :=
  { path, method := .get, params := [], headers := [], body := none, pagination := none,
    responsePath := none, requestSchema := none, responseSchema := none, rateLimit := none,
    stream := none }

def withParam (endpoint : Endpoint) (key : String) (value : Json) : Endpoint :=
  { endpoint with params := endpoint.params.put key value }

def withHeader (endpoint : Endpoint) (name value : String) : Endpoint :=
  { endpoint with headers := endpoint.headers.put name value }

/-- What the endpoint declares about its stream; nothing if it says nothing. -/
def streamSettings (endpoint : Endpoint) : EventStream.Settings := endpoint.stream.getD .empty

variable {ν : Type} {m : Type → Type} [Monad m] [MonadExceptOf Unit m] [Document ν m]

def decode? (node : ν) : m Endpoint := do
  let fields ← Document.fields?
    [["path"], ["method"], ["params"], ["headers"], ["body_template"], ["pagination"],
      ["response_path"], ["request_schema"], ["response_schema"], ["rate_limit"], ["sse"]] node
  match fields with
  | [path, method, params, headers, body, pagination, responsePath, requestSchema, responseSchema,
      rateLimit, stream] =>
      pure {
        path := ← Document.required Document.text? path
        method := ← Document.withDefault .get Http.Method.decode? method
        params := ← Document.withDefault [] (Document.table? Document.json?) params
        headers := ← Document.withDefault [] (Document.table? Document.text?) headers
        body := ← Document.optional Document.json? body
        pagination := ← Document.optional Pagination.Spec.decode? pagination
        responsePath := ← Document.optional Document.text? responsePath
        requestSchema := ← Document.optional Document.json? requestSchema
        responseSchema := ← Document.optional Document.json? responseSchema
        rateLimit := ← Document.optional RateLimit.Spec.decode? rateLimit
        stream := ← Document.optional EventStream.Settings.decode? stream }
  | _ => throw ()

def encode (endpoint : Endpoint) : Json :=
  .ofPairs <|
    [("path", .string endpoint.path), ("method", .string endpoint.method.name),
      ("params", .object endpoint.params), ("headers", .ofTexts endpoint.headers)] ++
      Json.member "body_template" id endpoint.body ++
      Json.member "pagination" Pagination.Spec.encode endpoint.pagination ++
      Json.member "response_path" Json.string endpoint.responsePath ++
      Json.member "request_schema" id endpoint.requestSchema ++
      Json.member "response_schema" id endpoint.responseSchema ++
      Json.member "rate_limit" RateLimit.Spec.encode endpoint.rateLimit ++
      Json.member "sse" EventStream.Settings.encode endpoint.stream

end Endpoint

end ApiBridge
