import ApiBridge.Document
import ApiBridge.Yaml.Plain

/-!
Reading records from the nodes of YAML documents. Aliases are followed as they are met, and the
whole reading of a document follows only so many of them.
-/

namespace ApiBridge.Yaml

structure Node where
  tree : Tree
  depth : Nat
  targets : List (Nat × Tree)

/-- What may fail, and may follow only so many aliases. -/
abbrev Patience := StateT Nat Option

namespace Node

def maxDepth : Nat := 128

def ofTree (tree : Tree) : Node :=
  let targets := tree.nodes.reverse.filterMap fun node =>
    node.anchor?.map fun number => (number, node)
  { tree, depth := 0, targets }

def patience (tree : Tree) : Nat :=
  100 * tree.nodes.foldl (fun count node => count + node.marks) 0

def read? {α : Type} (read : Node → Patience α) (text : String) : Option α := do
  let tree ← Tree.ofText? text
  (read (ofTree tree)).run' (patience tree)

/-- The node that an alias refers to; any other node itself. -/
def target (node : Node) : Patience Node := do
  match node.tree with
  | .alias anchor =>
      match ← get with
      | 0 => failure
      | patience + 1 =>
          set patience
          return { node with tree := (node.targets.lookup anchor).getD (.empty .none) }
  | _ => return node

def child (node : Node) (tree : Tree) : Node := { node with tree, depth := node.depth + 1 }

def coreTag (name : String) : List UInt8 := Utf8.encode ("tag:yaml.org,2002:" ++ name)

def isOwn (tag : List UInt8) : Bool := TagText.bare.isPrefixOf tag

def ownTag? (properties : Properties) : Option String :=
  properties.tag.bind fun tag =>
    if !isOwn tag then none
    else Utf8.decode? (if tag = TagText.bare then tag else tag.drop TagText.bare.length)

def ofScalar? {α : Type} (read : Properties → Scalar → Option α) (node : Node) : Patience α := do
  match (← node.target).tree with
  | .scalar properties scalar => liftM (read properties scalar)
  | _ => failure

def text? : Node → Patience String := ofScalar? fun _ scalar => some scalar.text

/-- A scalar's text where a kind of value is expected that has names of its own: it is plain, or a
literal block with the tag of that kind. -/
def wordFor? (kind : String) (properties : Properties) (scalar : Scalar) : Option String :=
  match scalar.style with
  | .plain => some scalar.text
  | .literal => if properties.tag = some (coreTag kind) then some scalar.text else none
  | .other => none

/-- Reads a scalar where a kind of value is expected that has names of its own. -/
def ofWord? {α : Type} (kind : String) (read : String → Option α) : Node → Patience α :=
  ofScalar? fun properties scalar => (wordFor? kind properties scalar).bind read

def isEmptyScalar (scalar : Scalar) : Bool := scalar.style == .plain && scalar.text.isEmpty

/-- The name of a choice: the text of a scalar, or a tag of the document's own on nothing. -/
def choice? : Node → Patience String :=
  ofScalar? fun properties scalar =>
    match ownTag? properties with
    | none => some scalar.text
    | some name =>
        if scalar.style == .plain && (scalar.text.isEmpty || Plain.isNullWord scalar.text) then
          some name
        else none

/-- Whether a scalar is null where it may be: it is plain and says so. One with the tag of null has
to say so, and one with another tag never does. -/
def isNull? (properties : Properties) (scalar : Scalar) : Option Bool :=
  if scalar.style != .plain then some false
  else
    match properties.tag with
    | none => some (scalar.text.isEmpty || Plain.isNullWord scalar.text)
    | some tag =>
        if tag != coreTag "null" then some false
        else if Plain.isNullWord scalar.text then some true
        else none

def present? (node : Node) : Patience (Option Node) := do
  let node ← node.target
  match node.tree with
  | .scalar properties scalar =>
      match isNull? properties scalar with
      | some true => return none
      | some false => return some node
      | none => failure
  | _ => return some node

def pairs (node : Node) (entries : List (Tree × Tree)) : List (Node × Node) :=
  entries.map fun (key, value) => (node.child key, node.child value)

def members? (node : Node) : Patience (List (Node × Node)) := do
  let node ← node.target
  match node.tree with
  | .mapping _ entries => if node.depth < maxDepth then return node.pairs entries else failure
  | .scalar _ scalar => if isEmptyScalar scalar then return [] else failure
  | _ => failure

/-- A record that tells its type itself, which may be a list, but has no tag of the document's
own. -/
def variant? (node : Node) : Patience (Record Node) := do
  let node ← node.target
  match node.tree with
  | .sequence properties items =>
      if (ownTag? properties).isNone && node.depth < maxDepth then
        return .list (items.map node.child)
      else failure
  | .mapping properties entries =>
      if (ownTag? properties).isNone && node.depth < maxDepth then
        return .mapping (node.pairs entries)
      else failure
  | _ => failure

/-- The content of a scalar, by its tag or else by its text. Tags of the document's own have
none. -/
def scalarContent? (properties : Properties) (scalar : Scalar) : Option Content :=
  let plain :=
    if scalar.style == .plain then Plain.content? scalar.text else some (.text scalar.text)
  match properties.tag with
  | none => plain
  | some tag =>
      if (ownTag? properties).isSome then none
      else if tag == coreTag "bool" then (Plain.flag? scalar.text).map .flag
      else if tag == coreTag "int" then (Plain.integer? scalar.text).join
      else if tag == coreTag "float" then (Plain.number? scalar.text).map .float
      else if tag == coreTag "null" then
        if Plain.isNullWord scalar.text then some .null else none
      else if isOwn tag then plain
      else some (.text scalar.text)

/-- The content of a node with at most so many collections nested in it. -/
def content : Nat → Node → Patience Content
  | levels, node => do
      let node ← node.target
      match node.tree, levels with
      | .scalar properties scalar, _ => liftM (scalarContent? properties scalar)
      | .sequence properties items, levels + 1 =>
          if (ownTag? properties).isSome then failure
          else return .list (← items.mapM fun item => content levels (node.child item))
      | .mapping properties entries, levels + 1 =>
          if (ownTag? properties).isSome then failure
          else
            return .mapping (← entries.mapM fun (key, value) => do
              return (← content levels (node.child key), ← content levels (node.child value)))
      | _, _ => failure

def content? (node : Node) : Patience Content := content (maxDepth - node.depth) node

/-- The value of a node as JSON, with at most so many collections nested in it. -/
def json : Nat → Node → Patience Json
  | levels, node => do
      let node ← node.target
      match node.tree, levels with
      | .scalar properties scalar, _ =>
          liftM ((scalarContent? properties scalar).bind Content.scalarJson?)
      | .sequence properties items, levels + 1 =>
          if (ownTag? properties).isSome then failure
          else return .array (← items.mapM fun item => json levels (node.child item))
      | .mapping properties entries, levels + 1 =>
          if (ownTag? properties).isSome then failure
          else
            return .ofPairs (← entries.mapM fun (key, value) => do
              return (← (node.child key).text?, ← json levels (node.child value)))
      | _, _ => failure

def json? (node : Node) : Patience Json := json (maxDepth - node.depth) node

instance : Document Node Patience where
  text? := text?
  number? := ofWord? "float" Plain.number?
  natural? := ofWord? "int" (Plain.natural? UInt64.size)
  flag? := ofWord? "bool" Plain.flag?
  choice? := choice?
  present? := present?
  members? := members?
  record? node := Record.mapping <$> node.members?
  variant? := variant?
  content? := content?
  json? := json?

end Node

end ApiBridge.Yaml
