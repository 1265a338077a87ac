/-!
Finite maps from texts, kept as lists in the order of their keys. The order of texts is that of
their code points, which is also the order of their UTF-8 bytes.
-/

namespace ApiBridge

abbrev Table (α : Type) := List (String × α)

namespace Table

variable {α : Type}

def put (key : String) (value : α) : Table α → Table α
  | [] => [(key, value)]
  | (otherKey, other) :: rest =>
      if key < otherKey then (key, value) :: (otherKey, other) :: rest
      else if key = otherKey then (key, value) :: rest
      else (otherKey, other) :: put key value rest

def find? (key : String) : Table α → Option α
  | [] => none
  | (otherKey, value) :: rest => if key = otherKey then some value else find? key rest

def has (key : String) (table : Table α) : Bool := (table.find? key).isSome

def keys (table : Table α) : List String := table.map Prod.fst

/-- The table of a list of bindings; of two bindings of a key the later one holds. -/
def ofPairs (pairs : List (String × α)) : Table α :=
  pairs.foldl (fun table pair => table.put pair.1 pair.2) []

/-- All bindings of both tables; where both bind a key, those of the second hold. -/
def overlay (table changes : Table α) : Table α :=
  changes.foldl (fun table pair => table.put pair.1 pair.2) table

end Table

end ApiBridge
