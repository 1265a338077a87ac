import ApiBridge.Connector.Health
import ApiBridge.Connector.Opening
import ApiBridge.Connector.Send

namespace ApiBridge

inductive PluginKind where
  | transformer
  | connector
  | auth
  deriving DecidableEq, Repr

namespace PluginKind

def name : PluginKind → String
  | .transformer => "transformer"
  | .connector => "connector"
  | .auth => "auth"

/-- What a plugin of a kind is called in messages. -/
def noun : PluginKind → String
  | .transformer => "a transformer"
  | .connector => "a connector"
  | .auth => "an auth provider"

def all : List PluginKind := [.transformer, .connector, .auth]

def decode? (node : Json) : Option PluginKind :=
  Document.oneOf? (all.map fun kind => (kind.name, kind)) node

/-- The place of a kind in the order of kinds. -/
def rank : PluginKind → Nat
  | .transformer => 0
  | .connector => 1
  | .auth => 2

instance : LT PluginKind := ⟨fun kind other => kind.rank < other.rank⟩

instance : DecidableLT PluginKind := fun kind other =>
  inferInstanceAs (Decidable (kind.rank < other.rank))

end PluginKind

abbrev Transformer := Json → Table Json → Except Error Json

abbrev AuthProvider := Table Json → Except Error Auth

def staticAuth : AuthProvider := fun params =>
  match Auth.decode? (Json.object params) with
  | some auth => .ok auth
  | none => .error .invalidJson

/-- What makes a plugin. -/
inductive PluginFactory where
  | transformer (make : Table Json → Except Error Transformer)
  | connector (make : Definition → Activity Connector)
  | auth (make : Table Json → Except Error AuthProvider)

namespace PluginFactory

def kind : PluginFactory → PluginKind
  | .transformer _ => .transformer
  | .connector _ => .connector
  | .auth _ => .auth

def transformer? : PluginFactory → Option (Table Json → Except Error Transformer)
  | .transformer make => some make
  | _ => none

def connector? : PluginFactory → Option (Definition → Activity Connector)
  | .connector make => some make
  | _ => none

def provider? : PluginFactory → Option (Table Json → Except Error AuthProvider)
  | .auth make => some make
  | _ => none

end PluginFactory

/-- What a plugin is registered under. Keys come in the order of kinds, those of a kind in the order
of names (`Prod.lexLt`). -/
abbrev PluginKey := PluginKind × String

structure PluginRegistry where
  plugins : List (PluginKey × PluginFactory)

namespace PluginRegistry

def empty : PluginRegistry := { plugins := [] }

/-- Registers a factory under its kind and a name, between the keys before and those behind, so that
it takes the place of one with that key. -/
def insert (registry : PluginRegistry) (name : String) (factory : PluginFactory) :
    PluginRegistry :=
  let key := (factory.kind, name)
  { plugins := registry.plugins.filter (fun plugin => Prod.lexLt plugin.1 key) ++
      (key, factory) :: registry.plugins.filter fun plugin => Prod.lexLt key plugin.1 }

def addTransformer (registry : PluginRegistry) (name : String)
    (make : Table Json → Except Error Transformer) : PluginRegistry :=
  registry.insert name (.transformer make)

def addConnector (registry : PluginRegistry) (name : String)
    (make : Definition → Activity Connector) : PluginRegistry :=
  registry.insert name (.connector make)

def addProvider (registry : PluginRegistry) (name : String)
    (make : Table Json → Except Error AuthProvider) : PluginRegistry :=
  registry.insert name (.auth make)

def builtin : PluginRegistry :=
  ((empty.addConnector "rest" Activity.openConnector).addConnector "sse" fun definition =>
    EventSource.connector <$> Activity.openEventSource definition).addProvider "static" fun _ =>
      .ok staticAuth

def keys (registry : PluginRegistry) : List PluginKey := registry.plugins.map Prod.fst

def contains (registry : PluginRegistry) (kind : PluginKind) (name : String) : Bool :=
  registry.keys.contains (kind, name)

/-- What is registered, or what of a kind is. -/
def list (registry : PluginRegistry) (kind : Option PluginKind) : List PluginKey :=
  registry.keys.filter fun key => kind.all fun wanted => key.1 == wanted

def find? (registry : PluginRegistry) (key : PluginKey) : Option PluginFactory :=
  (registry.plugins.find? fun plugin => plugin.1 = key).map Prod.snd

def missing (kind : PluginKind) (name : String) : Error :=
  .config ("Plugin not found: " ++ kind.name ++ "." ++ name)

def factory (registry : PluginRegistry) (kind : PluginKind) (name : String) :
    Except Error PluginFactory :=
  match registry.find? (kind, name) with
  | some factory => .ok factory
  | none => .error (missing kind name)

/-- Finds what makes the plugins of a kind and a name, of which `select` tells what it is. -/
def maker {α : Type} (registry : PluginRegistry) (kind : PluginKind)
    (select : PluginFactory → Option α) (name : String) : Except Error α := do
  match select (← registry.factory kind name) with
  | some make => .ok make
  | none => .error (.config ("Plugin " ++ name ++ " is not " ++ kind.noun))

def transformer (registry : PluginRegistry) (name : String) (params : Table Json) :
    Except Error Transformer := do
  (← registry.maker .transformer PluginFactory.transformer? name) params

def connector (registry : PluginRegistry) (name : String) (definition : Definition) :
    Activity Connector := do
  (← Activity.ofResult (registry.maker .connector PluginFactory.connector? name)) definition

def provider (registry : PluginRegistry) (name : String) (params : Table Json) :
    Except Error AuthProvider := do
  (← registry.maker .auth PluginFactory.provider? name) params

end PluginRegistry

end ApiBridge
