import ApiBridge.Duration
import ApiBridge.Pagination.Spec

namespace ApiBridge.Pagination

inductive Token where
  | text (value : String)
  | number (value : Int)
  deriving DecidableEq, Repr

namespace Token

def ofValue? : Json → Option Token
  | .string value => some (.text value)
  | .number (.int value) =>
      if Int64.minValue.toInt ≤ value ∧ value ≤ Int64.maxValue.toInt then some (.number value)
      else none
  | _ => none

def isTerminal : Token → Bool
  | .text value => value.isEmpty
  | .number value => value == 0

def toValue : Token → Json
  | .text value => .string value
  | .number value => .ofInt value

def display : Token → String
  | .text value => value
  | .number value => toString value

end Token

structure Progress where
  pagesFetched : Nat
  itemsFetched : Nat
  page : Nat
  deriving DecidableEq, Repr

namespace Progress

def afterFirstPage (items : Nat) : Progress :=
  { pagesFetched := 1, itemsFetched := items, page := 1 }

def addPage (progress : Progress) (items : Nat) : Progress :=
  { progress with
    pagesFetched := progress.pagesFetched + 1
    itemsFetched := progress.itemsFetched + items }

end Progress

/-- The items of a list as mappings; any other value is the one item. -/
def normalizeItems : Json → List (Table Json)
  | .array items => items.map Json.toMapping
  | other => [other.toMapping]

namespace Spec

/-- The items of a page; none if there is nothing at the path to them. -/
def items? (spec : Spec) (body : Json) : Option (List (Table Json)) :=
  match spec.dataPath.filter fun path => !path.isEmpty with
  | some path => (body.atPath? path).map normalizeItems
  | none => some (normalizeItems body)

def nextToken? (spec : Spec) (body : Json) : Option Token :=
  ((spec.nextPagePath.filter fun path => !path.isEmpty).bind fun path =>
    (body.atPath? path).bind Token.ofValue?).filter fun token => !token.isTerminal

/-- What asks for the page after one with the given body and number of items, if there is one. -/
def nextPage (spec : Spec) (body : Json) (items : Nat) (progress : Progress) :
    Option Token × Progress :=
  if spec.nextPagePath.isSome then (spec.nextToken? body, progress)
  else if items = 0 then (none, progress)
  else
    let progress := { progress with page := progress.page + 1 }
    if spec.maxPages < progress.page then (none, progress)
    else (some (.number progress.page), progress)

def pageParams (spec : Spec) (params : Table Json) (token : Token) : Table Json :=
  params.put spec.pageParam token.toValue

end Spec

/-- A source of pages: a step that fetches the page for some parameters, or fails to. -/
abbrev Source (σ : Type) := Table Json → StateT σ (Except Fault) (Option Json)

/-- Fetches pages from a source while there is one to ask for, and puts their items after `items`.
The walk ends at the first page that cannot be fetched. -/
def follow {σ : Type} (spec : Spec) (params : Table Json) (fetch : Source σ) :
    Nat → Option Token → Progress → List (Table Json) →
      StateT σ (Except Fault) (List (Table Json))
  | _, none, _, items => pure items
  | 0, some _, _, _ => throw .neverEnds
  | fuel + 1, some token, progress, items => do
      match ← fetch (spec.pageParams params token) with
      | none => pure items
      | some body =>
          let more := (spec.items? body).getD []
          let (next, progress) := spec.nextPage body more.length (progress.addPage more.length)
          follow spec params fetch fuel next progress (items ++ more)

/-- All items of a paged resource, of which the first page is given. A first page that is no object
is the only one, and so is one without the path to its items. `fuel` bounds the further pages. -/
def walk {σ : Type} (spec : Spec) (params : Table Json) (fetch : Source σ) (fuel : Nat)
    (initial : Json) : StateT σ (Except Fault) (List (Table Json)) :=
  match initial with
  | .object _ =>
      match spec.items? initial with
      | none => pure [initial.toMapping]
      | some items =>
          let (next, progress) := spec.nextPage initial items.length (.afterFirstPage items.length)
          follow spec params fetch fuel next progress items
  | _ => pure (normalizeItems initial)

end ApiBridge.Pagination
