import ApiBridge.Document
import ApiBridge.Json.Access

namespace ApiBridge.Pagination

structure Spec where
  dataPath : Option String
  /-- The path to the token of the next page; without it pages are counted. -/
  nextPagePath : Option String
  pageParam : String
  maxPages : Nat
  deriving DecidableEq, Repr

namespace Spec

def default : Spec :=
  { dataPath := none, nextPagePath := none, pageParam := "page", maxPages := 10 }

def byToken (dataPath nextPagePath : String) : Spec :=
  { default with dataPath := some dataPath, nextPagePath := some nextPagePath }

def byCount (dataPath : String) (maxPages : Nat) : Spec :=
  { default with dataPath := some dataPath, maxPages }

def decode? {ν : Type} {m : Type → Type} [Monad m] [MonadExceptOf Unit m] [Document ν m]
    (node : ν) : m Spec := do
  let fields ← Document.fields?
    [["data_path"], ["next_page_path"], ["page_param"], ["max_pages"]] node
  match fields with
  | [dataPath, nextPagePath, pageParam, maxPages] =>
      pure {
        dataPath := ← Document.optional Document.text? dataPath
        nextPagePath := ← Document.optional Document.text? nextPagePath
        pageParam := ← Document.withDefault default.pageParam Document.text? pageParam
        maxPages := ← Document.withDefault default.maxPages (Document.below? UInt32.size) maxPages }
  | _ => throw ()

def encode (spec : Spec) : Json :=
  .ofPairs <|
    Json.member "data_path" Json.string spec.dataPath ++
      Json.member "next_page_path" Json.string spec.nextPagePath ++
      [("page_param", .string spec.pageParam), ("max_pages", .ofNat spec.maxPages)]

end Spec

end ApiBridge.Pagination
