import ApiBridge.Auth
import ApiBridge.Error
import ApiBridge.Http.Header
import ApiBridge.Http.Method
import ApiBridge.Http.Url
import ApiBridge.Json.Access

namespace ApiBridge.Http

structure Request where
  url : String
  method : Method
  headers : Table String
  params : Table Json
  body : Option Json
  deriving Repr

namespace Request

def get (url : String) : Request :=
  { url, method := .get, headers := [], params := [], body := none }

def decode? (node : Json) : Option Request := do
  match ← Document.fields? [["url"], ["method"], ["headers"], ["params"], ["json"]] node with
  | [url, method, headers, params, body] =>
      some {
        url := ← url.bind Document.text?
        method := ← method.bind Method.decode?
        headers := ← headers.bind (Document.table? Document.text?)
        params := ← params.bind (Document.table? Document.json?)
        body := ← Document.optional Document.json? body }
  | _ => none

def encode (request : Request) : Json :=
  .ofPairs <|
    [("url", .string request.url), ("method", .string request.method.name),
      ("headers", .ofTexts request.headers), ("params", .object request.params)] ++
      Json.member "json" id request.body

end Request

structure Outgoing where
  method : Method
  url : Url
  headers : List (String × String)
  body : Option String
  deriving Repr

namespace Outgoing

def lowerName (name : String) : String := String.ofList (name.toList.map Char.toLower)

def orElse (headers : List (String × String)) (name value : String) : List (String × String) :=
  if headers.any fun header => header.1 == name then headers else headers ++ [(name, value)]

def userAgent : String := "apilinker/0.1.0"

/-- The message for a request, with the credentials that go out beside its headers. Who asks may
also stand in the URL, and goes out as basic credentials before all others. -/
def ofRequest (request : Request) (auth : Auth) : Except TransportError Outgoing := do
  let url ← match Url.parse request.url with
    | .ok url => pure url
    | .error _ => throw (.unusable none)
  if !url.hasHost then throw (.unusable (some url.render))
  if !request.headers.all fun header => Header.isLegal header.1 header.2 then
    throw (.unusable none)
  let target := url.withoutUser.addQuery
    (request.params.filterMap fun (key, value) => value.queryText?.map fun text => (key, text))
  if !target.isSendable then throw (.unusable (some target.render))
  let fromUrl := match url.user? with
    | some (username, password) =>
        [("authorization", Auth.basicValue username (password.getD ""))]
    | none => []
  let fromAuth := auth.basicHeader?.toList.map fun value => ("authorization", value)
  let own := request.headers.map fun (name, value) => (lowerName name, value)
  let headers := orElse (fromUrl ++ own ++ fromAuth) "accept" "*/*"
  let headers := orElse headers "user-agent" userAgent
  let headers :=
    if request.body.isSome then orElse headers "content-type" "application/json" else headers
  pure { method := request.method, url := target, headers, body := request.body.map Json.compact }

/-- The message as it is read on the other side: the URL without who asks and its fragment, and the
headers by name, with their values less the blanks and tabs around them. -/
def encode (outgoing : Outgoing) : Json :=
  let sorted := outgoing.headers.mergeSort fun left right => left.1 ≤ right.1
  let url := { outgoing.url with username := "", password := none, fragment := none }
  .ofPairs [
    ("method", .string outgoing.method.name),
    ("url", .string url.render),
    ("headers", .array (sorted.map fun (name, value) =>
      .array [.string name, .string (Text.trimBy (fun c => c == ' ' || c == '\t') value)])),
    ("body", .ofOption .string outgoing.body)]

end Outgoing

end ApiBridge.Http
