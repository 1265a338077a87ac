import ApiBridge.Document
import ApiBridge.Http.Base64
import ApiBridge.Text.Utf8

namespace ApiBridge

inductive KeyLocation where
  | header
  | query
  deriving DecidableEq, Repr

namespace KeyLocation

def name : KeyLocation → String
  | .header => "header"
  | .query => "query"

def choices : List (String × KeyLocation) :=
  [KeyLocation.header, .query].map fun location => (location.name, location)

end KeyLocation

inductive Auth where
  | none
  | basic (username password : String)
  | bearer (token : String)
  | apiKey (key : String) (location : KeyLocation) (headerName queryParam : String)
  deriving DecidableEq, Repr

namespace Auth

def defaultHeaderName : String := "X-API-Key"

def defaultQueryParam : String := "api_key"

def apiKeyHeader (key : String) : Auth := .apiKey key .header defaultHeaderName defaultQueryParam

def apiKeyQuery (key queryParam : String) : Auth := .apiKey key .query defaultHeaderName queryParam

def typeName : Auth → String
  | .none => "none"
  | .basic _ _ => "basic"
  | .bearer _ => "bearer"
  | .apiKey _ _ _ _ => "api_key"

def isNone : Auth → Bool
  | .none => true
  | _ => false

def headers : Auth → Table String
  | .bearer token => [("Authorization", "Bearer " ++ token)]
  | .apiKey key .header headerName _ => [(headerName, key)]
  | _ => []

def queryParams : Auth → Table Json
  | .apiKey key .query _ queryParam => [(queryParam, .string key)]
  | _ => []

def basicValue (username password : String) : String :=
  "Basic " ++ String.ofList (Http.Base64.encode (Utf8.encode (username ++ ":" ++ password)))

def basicHeader? : Auth → Option String
  | .basic username password => some (basicValue username password)
  | _ => Option.none

def encode (auth : Auth) : Json :=
  .ofPairs <| ("type", .string auth.typeName) ::
    match auth with
    | .none => []
    | .basic username password => [("username", .string username), ("password", .string password)]
    | .bearer token => [("token", .string token)]
    | .apiKey key location headerName queryParam =>
        [("key", .string key), ("location", .string location.name),
          ("header_name", .string headerName), ("query_param", .string queryParam)]

inductive FieldKey where
  | name (text : String)
  | position (index : Nat)
  deriving DecidableEq, Repr

def FieldKey.ofContent? : Content → Option FieldKey
  | .text text => some (.name text)
  | .integer index => if 0 ≤ index then some (.position index.toNat) else Option.none
  | _ => Option.none

/-- The fields given besides the type, with their values. The type comes first in reading: it says
which fields belong to the credentials, and those are given by name, by their number among the
fields, or all together in order. `none` stands for a key that names no field of anything. -/
structure Given where
  type : String
  entries : List (Option FieldKey × Content)
  isList : Bool

namespace Given

def read? {ν : Type} {m : Type → Type} [Monad m] [MonadExceptOf Unit m] [Document ν m]
    (node : ν) : m Given := do
  match ← Document.variant? node with
  | .list [] => throw ()
  | .list (type :: values) =>
      let type ← Document.text? type
      let values ← values.mapM Document.content?
      let entries := values.zipIdx.map fun (value, index) => (some (.position index), value)
      pure { type, entries, isList := true }
  | .mapping members =>
      let keyed ← members.mapM fun (key, value) => do return (← Document.content? key, value)
      match keyed.partition fun member => member.1.text? == some "type" with
      | ([(_, type)], others) =>
          let type ← Document.text? type
          let entries ← others.mapM fun (key, value) => do
            return (FieldKey.ofContent? key, ← Document.content? value)
          pure { type, entries, isList := false }
      | _ => throw ()

/-- The values of named fields, each given at most once; unknown names are ignored, but a list may
not be longer than the fields. -/
def fields? (given : Given) (names : List String) : Option (List (Option Content)) :=
  if given.entries.any (fun entry => entry.1.isNone) ||
      (given.isList && names.length < given.entries.length) then Option.none
  else
    names.zipIdx.mapM fun (name, index) =>
      match given.entries.filter fun entry =>
        entry.1 == some (.name name) || entry.1 == some (.position index) with
      | [] => some Option.none
      | [(_, value)] => some (some value)
      | _ => Option.none

def text? (default : Option String) : Option Content → Option String
  | some value => value.text?
  | Option.none => default

/-- Where a key goes: by its name, or as the one key of a mapping that holds nothing. -/
def location? : Option Content → Option KeyLocation
  | Option.none => some .header
  | some (.text name) => KeyLocation.choices.lookup name
  | some (.mapping [(key, value)]) =>
      if value.isEmpty then
        match FieldKey.ofContent? key with
        | some (.name name) => KeyLocation.choices.lookup name
        | some (.position index) => KeyLocation.choices[index]?.map Prod.snd
        | Option.none => Option.none
      else Option.none
  | _ => Option.none

/-- The credentials of the fields. Those of a mapping without fields of their own may hold
anything. -/
def auth? (given : Given) : Option Auth :=
  match given.type with
  | "none" => if given.isList && !given.entries.isEmpty then Option.none else some .none
  | "basic" => do
      match ← given.fields? ["username", "password"] with
      | [username, password] =>
          some (.basic (← text? Option.none username) (← text? (some "") password))
      | _ => Option.none
  | "bearer" => do
      match ← given.fields? ["token"] with
      | [token] => some (.bearer (← text? Option.none token))
      | _ => Option.none
  | "api_key" => do
      match ← given.fields? ["key", "location", "header_name", "query_param"] with
      | [key, location, headerName, queryParam] =>
          some (.apiKey (← text? Option.none key) (← location? location)
            (← text? (some defaultHeaderName) headerName)
            (← text? (some defaultQueryParam) queryParam))
      | _ => Option.none
  | _ => Option.none

end Given

def decode? {ν : Type} {m : Type → Type} [Monad m] [MonadExceptOf Unit m] [Document ν m]
    (node : ν) : m Auth := do
  match (← Given.read? node).auth? with
  | some auth => pure auth
  | Option.none => throw ()

end Auth

end ApiBridge
