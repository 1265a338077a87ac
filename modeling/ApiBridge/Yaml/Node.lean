import ApiBridge.Yaml.Token

/-!
The nodes of YAML texts, put together from tokens. An alias stays a reference to an anchor, so that
a node may refer to one that holds it.
-/

namespace ApiBridge.Yaml

structure Properties where
  anchor : Option Nat
  tag : Option (List UInt8)
  deriving DecidableEq, Repr

namespace Properties

def none : Properties := { anchor := .none, tag := .none }

end Properties

inductive Tree where
  | alias (anchor : Nat)
  | scalar (properties : Properties) (scalar : Scalar)
  | sequence (properties : Properties) (items : List Tree)
  | mapping (properties : Properties) (entries : List (Tree × Tree))
  deriving Repr

namespace Tree

def empty (properties : Properties) : Tree := .scalar properties { text := "", style := .plain }

def marks : Tree → Nat
  | .sequence _ _ | .mapping _ _ => 2
  | .alias _ | .scalar _ _ => 1

def nodes : Tree → List Tree
  | .alias anchor => [.alias anchor]
  | .scalar properties written => [.scalar properties written]
  | .sequence properties items =>
      .sequence properties items :: items.attach.flatMap fun ⟨item, _⟩ => nodes item
  | .mapping properties entries =>
      .mapping properties entries :: entries.attach.flatMap fun ⟨(key, value), _⟩ =>
        nodes key ++ nodes value
termination_by tree => sizeOf tree
decreasing_by
  · have := List.sizeOf_lt_of_mem ‹item ∈ items›
    simp only [Tree.sequence.sizeOf_spec]
    omega
  · have := List.sizeOf_lt_of_mem ‹(key, value) ∈ entries›
    simp only [Tree.mapping.sizeOf_spec, Prod.mk.sizeOf_spec] at *
    omega
  · have := List.sizeOf_lt_of_mem ‹(key, value) ∈ entries›
    simp only [Tree.mapping.sizeOf_spec, Prod.mk.sizeOf_spec] at *
    omega

def anchor? : Tree → Option Nat
  | .alias _ => none
  | .scalar properties _ | .sequence properties _ | .mapping properties _ => properties.anchor

end Tree

/-- What is left of the tokens, and the numbers of the anchors so far. A new anchor gets the count
of names before it as its number. -/
structure Composer where
  tokens : List Token
  anchors : List (String × Nat)

namespace Composer

abbrev Reading := StateT Composer Option

def peek : Reading (Option Token) := do return (← get).tokens.head?

def advance : Reading Unit := modify fun state => { state with tokens := state.tokens.tail }

/-- Goes past the next token if it is the given one, and tells whether it is. -/
def accept (token : Token) : Reading Bool := do
  if (← peek) = some token then advance; return true else return false

/-- Whether the next token is none of the given ones. -/
def isOther (tokens : List Token) : Reading Bool := do
  return (← peek).all fun token => !tokens.contains token

def number (name : String) : Reading Nat := do
  let state ← get
  let number := state.anchors.length
  let others := state.anchors.filter fun anchor => anchor.1 != name
  set { state with anchors := (name, number) :: others }
  return number

def anchor : Reading (Option Nat) := do
  match ← peek with
  | some (.anchor name) => advance; return some (← number name)
  | _ => return none

def tag (handles : List (String × List UInt8)) : Reading (Option (List UInt8)) := do
  match ← peek with
  | some (.tag tag) => advance; return some (← tag.resolve? handles)
  | _ => return none

def properties (handles : List (String × List UInt8)) : Reading Properties := do
  match ← anchor with
  | some number => return { anchor := some number, tag := ← tag handles }
  | none =>
      let tag ← tag handles
      return { tag, anchor := ← if tag.isSome then anchor else pure none }

/-- Where a node stands: inside a flow collection, in a block, or as the value of a block mapping,
where a sequence may go without an indentation of its own. -/
inductive Place where
  | flow
  | block
  | blockValue
  deriving DecidableEq

mutual

def node (handles : List (String × List UInt8)) (place : Place) : Nat → Reading Tree
  | 0 => failure
  | fuel + 1 => do
      match ← peek with
      | some (.alias name) =>
          advance
          return .alias (← (← get).anchors.lookup name)
      | _ =>
          let properties ← properties handles
          match ← peek with
          | some (.scalar scalar) => advance; return .scalar properties scalar
          | some .flowSequenceStart =>
              advance; return .sequence properties (← flowItems handles true fuel)
          | some .flowMappingStart =>
              advance; return .mapping properties (← flowEntries handles true fuel)
          | token =>
              if token = some .blockEntry && place = .blockValue then
                return .sequence properties (← looseItems handles fuel)
              else if token = some .blockSequenceStart && place != .flow then
                advance; return .sequence properties (← blockItems handles fuel)
              else if token = some .blockMappingStart && place != .flow then
                advance; return .mapping properties (← blockEntries handles fuel)
              else if properties != .none then return .empty properties
              else failure

/-- Reads a node, unless one of the given tokens comes instead. -/
def nodeUnless (handles : List (String × List UInt8)) (place : Place) (ends : List Token) :
    Nat → Reading Tree
  | 0 => failure
  | fuel + 1 => do
      if ← isOther ends then node handles place fuel else return .empty .none

def blockItems (handles : List (String × List UInt8)) : Nat → Reading (List Tree)
  | 0 => failure
  | fuel + 1 => do
      if ← accept .blockEnd then return []
      else if ← accept .blockEntry then
        let item ← nodeUnless handles .block [.blockEntry, .blockEnd] fuel
        return item :: (← blockItems handles fuel)
      else failure

def looseItems (handles : List (String × List UInt8)) : Nat → Reading (List Tree)
  | 0 => failure
  | fuel + 1 => do
      if ← accept .blockEntry then
        let item ← nodeUnless handles .block [.blockEntry, .key, .value, .blockEnd] fuel
        return item :: (← looseItems handles fuel)
      else return []

def blockEntries (handles : List (String × List UInt8)) : Nat → Reading (List (Tree × Tree))
  | 0 => failure
  | fuel + 1 => do
      let ends := [Token.key, .value, .blockEnd]
      if ← accept .blockEnd then return []
      else if !(← accept .key) then failure
      else
        let key ← nodeUnless handles .blockValue ends fuel
        let value ←
          if ← accept .value then nodeUnless handles .blockValue ends fuel
          else pure (.empty .none)
        return (key, value) :: (← blockEntries handles fuel)

/-- Reads the items of a flow sequence to its end. A key makes an item a mapping of one entry. -/
def flowItems (handles : List (String × List UInt8)) (first : Bool) : Nat → Reading (List Tree)
  | 0 => failure
  | fuel + 1 => do
      if ← accept .flowSequenceEnd then return []
      else if !first && !(← accept .flowEntry) then failure
      else if ← accept .flowSequenceEnd then return []
      else
        let item ←
          if ← accept .key then
            let ends := [Token.flowEntry, .flowSequenceEnd]
            let key ←
              if ← isOther (.value :: ends) then node handles .flow fuel
              else do advance; pure (.empty .none)
            let value ←
              if ← accept .value then nodeUnless handles .flow ends fuel else pure (.empty .none)
            pure (Tree.mapping .none [(key, value)])
          else node handles .flow fuel
        return item :: (← flowItems handles false fuel)

/-- Reads the entries of a flow mapping to its end. A node without a value may stand for an
entry. -/
def flowEntries (handles : List (String × List UInt8)) (first : Bool) :
    Nat → Reading (List (Tree × Tree))
  | 0 => failure
  | fuel + 1 => do
      if ← accept .flowMappingEnd then return []
      else if !first && !(← accept .flowEntry) then failure
      else if ← accept .flowMappingEnd then return []
      else
        let ends := [Token.flowEntry, .flowMappingEnd]
        let entry ←
          if ← accept .key then
            let key ← nodeUnless handles .flow (.value :: ends) fuel
            let value ←
              if ← accept .value then nodeUnless handles .flow ends fuel else pure (.empty .none)
            pure (key, value)
          else pure (← node handles .flow fuel, .empty .none)
        return entry :: (← flowEntries handles false fuel)

end

/-- Reads the directives of a document, and gives back what the handles of tags stand for. Each
handle and the version may be set only once. -/
def directives (versionSeen : Bool) (handles : List (String × List UInt8)) :
    List Token → Option (List (String × List UInt8) × List Token)
  | .directive (.version major minor) :: rest =>
      if versionSeen || major != 1 || (minor != 1 && minor != 2) then none
      else directives true handles rest
  | .directive (.handle handle fullPrefix) :: rest =>
      if (handles.lookup handle).isSome then none
      else directives versionSeen (handles ++ [(handle, fullPrefix)]) rest
  | rest => some (handles ++ TagText.defaultHandles, rest)

def document? (tokens : List Token) : Option Tree := do
  let isExplicit := match tokens with
    | .directive _ :: _ | .documentStart :: _ => true
    | _ => false
  let (handles, rest) ← directives false [] tokens
  let content (tokens : List Token) : Option (Tree × Composer) :=
    (node handles .block (4 * tokens.length + 4)).run { tokens, anchors := [] }
  if tokens.isEmpty then some (.empty .none)
  else
    let (tree, state) ←
      if !isExplicit then content rest
      else
        match rest with
        | .documentStart :: [] => some (.empty .none, { tokens := [], anchors := [] })
        | .documentStart :: .documentEnd :: rest =>
            some (.empty .none, { tokens := rest, anchors := [] })
        | .documentStart :: rest => content rest
        | _ => none
    if state.tokens.all (· == .documentEnd) then some tree else none

end Composer

def Tree.ofText? (text : String) : Option Tree := (Token.ofText? text).bind Composer.document?

end ApiBridge.Yaml
