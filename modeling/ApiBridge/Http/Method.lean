import ApiBridge.Document

namespace ApiBridge.Http

inductive Method where
  | get
  | post
  | put
  | patch
  | delete
  deriving DecidableEq, Repr, Inhabited

namespace Method

def name : Method → String
  | .get => "GET"
  | .post => "POST"
  | .put => "PUT"
  | .patch => "PATCH"
  | .delete => "DELETE"

def all : List Method := [.get, .post, .put, .patch, .delete]

/-- The spellings of the methods: all letters in upper case, or all in lower case. -/
def spellings : List (String × Method) :=
  all.flatMap fun method =>
    [(method.name, method), (String.ofList (method.name.toList.map Char.toLower), method)]

def decode? {ν : Type} {m : Type → Type} [Monad m] [MonadExceptOf Unit m] [Document ν m]
    (node : ν) : m Method :=
  Document.oneOf? spellings node

end Method

end ApiBridge.Http
