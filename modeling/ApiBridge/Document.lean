import ApiBridge.Content

/-!
Records are read from trees of values: JSON values and the nodes of YAML documents. A record is
written as a mapping from the names of its fields or, where the kind of tree has that, as the list
of its fields in order.
-/

namespace ApiBridge

inductive Record (ν : Type) where
  | list (values : List ν)
  | mapping (members : List (ν × ν))

/-- A kind of tree from which records are read, with what reading does besides: it may fail, and may
be bounded. Each reading says what the node stands for where a value of that kind is expected. -/
class Document (ν : Type) (m : outParam (Type → Type)) where
  text? : ν → m String
  number? : ν → m Binary64
  natural? : ν → m Nat
  flag? : ν → m Bool
  choice? : ν → m String
  present? : ν → m (Option ν)
  members? : ν → m (List (ν × ν))
  record? : ν → m (Record ν)
  variant? : ν → m (Record ν)
  content? : ν → m Content
  json? : ν → m Json

namespace Json

/-- The name of a choice: a text, or an object whose one member has that key and is null. -/
def choice? : Json → Option String
  | .string name => some name
  | .object [(name, .null)] => some name
  | _ => none

def members? : Json → Option (List (Json × Json))
  | .object members => some (members.map fun (key, value) => (.string key, value))
  | _ => none

def record? : Json → Option (Record Json)
  | .array values => some (.list values)
  | other => (members? other).map .mapping

instance : Document Json Option where
  text? := string?
  number? value := value.number?.map Number.toBinary64
  natural?
    | .number (.int value) => if 0 ≤ value then some value.toNat else none
    | _ => none
  flag?
    | .bool value => some value
    | _ => none
  choice? := choice?
  present? value := some (if value.isNull then none else some value)
  members? := members?
  record? := record?
  variant? := record?
  content? value := some value.content
  json? := some

def list? {α : Type} (read : Json → Option α) (value : Json) : Option (List α) :=
  value.array?.bind fun items => items.mapM read

end Json

namespace Document

variable {ν : Type} {m : Type → Type} [Monad m] [MonadExceptOf Unit m] [Document ν m] {α : Type}

def below? (bound : Nat) (node : ν) : m Nat := do
  let value ← natural? node
  if value < bound then pure value else throw ()

def entries? (members : List (ν × ν)) : m (List (String × ν)) :=
  members.mapM fun (key, value) => do return (← text? key, value)

/-- A table of which every value can be read; of two entries with one key the later one holds. -/
def table? (read : ν → m α) (node : ν) : m (Table α) := do
  let entries ← entries? (← members? node)
  Table.ofPairs <$> entries.mapM fun (key, value) => do return (key, ← read value)

def oneOf? (choices : List (String × α)) (node : ν) : m α := do
  match choices.lookup (← choice? node) with
  | some value => pure value
  | none => throw ()

/-- The value of a field under one of its names: none if it is absent, and a failure if it is given
more than once. -/
def slot? (names : List String) (entries : List (String × ν)) : Option (Option ν) :=
  match entries.filter (fun entry => names.contains entry.1) with
  | [] => some none
  | [(_, value)] => some (some value)
  | _ => none

/-- The values of the fields of a record, each field by its names: from a mapping, of which unknown
keys are ignored, or from a list of at most as many values. -/
def fields? (layout : List (List String)) (node : ν) : m (List (Option ν)) := do
  match ← record? node with
  | .list values =>
      if values.length ≤ layout.length then
        pure (values.map some ++ List.replicate (layout.length - values.length) none)
      else throw ()
  | .mapping members =>
      let entries ← entries? members
      match layout.mapM fun names => slot? names entries with
      | some fields => pure fields
      | none => throw ()

def required (read : ν → m α) : Option ν → m α
  | none => throw ()
  | some node => read node

def withDefault (value : α) (read : ν → m α) : Option ν → m α
  | none => pure value
  | some node => read node

def optional (read : ν → m α) : Option ν → m (Option α)
  | none => pure none
  | some node => do
      match ← present? node with
      | some node => some <$> read node
      | none => pure none

end Document

end ApiBridge
