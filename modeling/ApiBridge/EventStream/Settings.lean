import ApiBridge.Duration
import ApiBridge.Error
import ApiBridge.Text.Blank

/-!
The settings of a stream: what an endpoint declares, what a call asks for, and what follows from
both. A call's wish goes before the endpoint's setting, and that before the default.
-/

namespace ApiBridge.EventStream

inductive DropPolicy where
  | block
  | dropOldest
  deriving DecidableEq, Repr

namespace DropPolicy

def name : DropPolicy → String
  | .block => "block"
  | .dropOldest => "drop_oldest"

/-- The lower case of a letter, as far as it is an ASCII letter: the Kelvin sign is the one letter
outside ASCII with that property. -/
def lowerChar (c : Char) : Char := if c = '\u212A' then 'k' else c.toLower

def parse (text : String) : Except Error DropPolicy :=
  let folded := String.ofList ((Text.trim text).toList.map lowerChar)
  if folded = DropPolicy.block.name then .ok .block
  else if folded = DropPolicy.dropOldest.name then .ok .dropOldest
  else .error (.invalidValue "drop_policy"
    ("must be either 'block' or 'drop_oldest', got '" ++ text ++ "'"))

end DropPolicy

structure Settings where
  maxEvents : Option Nat
  reconnect : Option Bool
  reconnectDelay : Option Binary64
  maxReconnectAttempts : Option Nat
  readTimeout : Option Binary64
  decodeJson : Option Bool
  chunkSize : Option Nat
  bufferSize : Option Nat
  dropPolicy : Option String
  deriving DecidableEq, Repr, Inhabited

namespace Settings

def empty : Settings :=
  { maxEvents := none, reconnect := none, reconnectDelay := none, maxReconnectAttempts := none,
    readTimeout := none, decodeJson := none, chunkSize := none, bufferSize := none,
    dropPolicy := none }

def decode? {ν : Type} {m : Type → Type} [Monad m] [MonadExceptOf Unit m] [Document ν m]
    (node : ν) : m Settings := do
  let fields ← Document.fields?
    [["max_events"], ["reconnect"], ["reconnect_delay"], ["max_reconnect_attempts"],
      ["read_timeout"], ["decode_json"], ["chunk_size"], ["backpressure_buffer_size"],
      ["drop_policy"]] node
  match fields with
  | [maxEvents, reconnect, delay, attempts, timeout, decodeJson, chunk, buffer, policy] =>
      pure {
        maxEvents := ← Document.optional Document.natural? maxEvents
        reconnect := ← Document.optional Document.flag? reconnect
        reconnectDelay := ← Document.optional Document.number? delay
        maxReconnectAttempts := ← Document.optional (Document.below? UInt32.size) attempts
        readTimeout := ← Document.optional Document.number? timeout
        decodeJson := ← Document.optional Document.flag? decodeJson
        chunkSize := ← Document.optional Document.natural? chunk
        bufferSize := ← Document.optional Document.natural? buffer
        dropPolicy := ← Document.optional Document.text? policy }
  | _ => throw ()

def encode (settings : Settings) : Json :=
  .ofPairs <|
    Json.member "max_events" Json.ofNat settings.maxEvents ++
      Json.member "reconnect" Json.bool settings.reconnect ++
      Json.member "reconnect_delay" Json.ofBinary64 settings.reconnectDelay ++
      Json.member "max_reconnect_attempts" Json.ofNat settings.maxReconnectAttempts ++
      Json.member "read_timeout" Json.ofBinary64 settings.readTimeout ++
      Json.member "decode_json" Json.bool settings.decodeJson ++
      Json.member "chunk_size" Json.ofNat settings.chunkSize ++
      Json.member "backpressure_buffer_size" Json.ofNat settings.bufferSize ++
      Json.member "drop_policy" Json.string settings.dropPolicy

end Settings

structure StreamRequest where
  maxEvents : Option Nat
  reconnect : Option Bool
  reconnectDelay : Option Duration
  maxReconnectAttempts : Option Nat
  readTimeout : Option Duration
  decodeJson : Option Bool
  deriving DecidableEq, Repr

def StreamRequest.empty : StreamRequest :=
  { maxEvents := none, reconnect := none, reconnectDelay := none, maxReconnectAttempts := none,
    readTimeout := none, decodeJson := none }

structure StreamOptions where
  maxEvents : Option Nat
  reconnect : Bool
  reconnectDelay : Duration
  maxReconnectAttempts : Option Nat
  readTimeout : Duration
  decodeJson : Bool
  deriving DecidableEq, Repr

def defaultReconnectDelay : Duration := .ofSeconds 1

def StreamRequest.resolve (request : StreamRequest) (settings : Settings)
    (defaultTimeout : Duration) : StreamOptions where
  maxEvents := request.maxEvents <|> settings.maxEvents
  reconnect := (request.reconnect <|> settings.reconnect).getD true
  reconnectDelay := (request.reconnectDelay <|>
    settings.reconnectDelay.map Duration.saturating).getD defaultReconnectDelay
  maxReconnectAttempts := request.maxReconnectAttempts <|> settings.maxReconnectAttempts
  readTimeout := (request.readTimeout <|>
    settings.readTimeout.map Duration.saturating).getD defaultTimeout
  decodeJson := (request.decodeJson <|> settings.decodeJson).getD true

structure ConsumeRequest where
  stream : StreamRequest
  chunkSize : Option Nat
  bufferSize : Option Nat
  dropPolicy : Option String
  deriving DecidableEq, Repr

def ConsumeRequest.empty : ConsumeRequest :=
  { stream := .empty, chunkSize := none, bufferSize := none, dropPolicy := none }

structure ConsumeLimits where
  chunkSize : Nat
  capacity : Nat
  policy : DropPolicy
  chunkSize_pos : 0 < chunkSize
  capacity_pos : 0 < capacity

def ConsumeLimits.of (chunkSize capacity : Nat) (policy : DropPolicy) :
    Except Error ConsumeLimits :=
  if chunkSize_pos : 0 < chunkSize then
    if capacity_pos : 0 < capacity then
      .ok { chunkSize, capacity, policy, chunkSize_pos, capacity_pos }
    else .error (.invalidValue "backpressure_buffer_size" "must be > 0")
  else .error (.invalidValue "chunk_size" "must be > 0")

/-- The sizes for a call on an endpoint with the given settings; an unknown policy is found before a
size of zero. -/
def ConsumeRequest.resolve (request : ConsumeRequest) (settings : Settings) :
    Except Error ConsumeLimits := do
  let policy ← match request.dropPolicy <|> settings.dropPolicy with
    | some text => DropPolicy.parse text
    | none => pure .block
  ConsumeLimits.of ((request.chunkSize <|> settings.chunkSize).getD 50)
    ((request.bufferSize <|> settings.bufferSize).getD 500) policy

end ApiBridge.EventStream
