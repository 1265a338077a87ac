import ApiBridge.CommandLine.Arguments
import ApiBridge.EventStream.Settings

namespace ApiBridge.CommandLine

inductive Format where
  | json
  | pretty
  deriving DecidableEq, Repr

inductive Source where
  | text (text : String)
  | file (name : String)
  | nothing
  deriving DecidableEq, Repr

inductive Command where
  | endpoints
  | check
  | fetch (endpoint : String) (params : Option String)
  | send (endpoint : String) (source : Source)
  | stream (endpoint : String) (params : Option String) (request : EventStream.StreamRequest)
  | consume (endpoint : String) (params : Option String) (request : EventStream.ConsumeRequest)
  deriving Repr

structure Invocation where
  connector : Option String
  format : Format
  verbose : Bool
  command : Command
  deriving Repr

namespace Command

def names : List String := ["endpoints", "check", "fetch", "send", "stream", "consume"]

def helpName : String := "help"

def ownChoices : String → List Choice
  | "fetch" => [.params]
  | "send" => [.data, .dataFile]
  | "stream" => Choice.ofStream
  | "consume" => Choice.ofStream ++ [.chunkSize, .bufferSize, .dropPolicy]
  | _ => []

def hasEndpoint (name : String) : Bool := name != "endpoints" && name != "check"

def grammar (name : String) : Grammar :=
  { choices := Choice.general ++ ownChoices name
    positionals := if hasEndpoint name then 1 else 0
    commands := [] }

def size? (arguments : Arguments) (choice : Choice) : Option Nat :=
  (arguments.value? choice).bind (Numeral.natural? UInt64.size)

def seconds? (arguments : Arguments) (choice : Choice) : Option Duration :=
  ((arguments.value? choice).bind Numeral.binary64?).map Duration.saturating

def streamRequest (arguments : Arguments) : EventStream.StreamRequest where
  maxEvents := size? arguments .maxEvents
  reconnect := if arguments.has .noReconnect then some false else none
  reconnectDelay := seconds? arguments .reconnectDelay
  maxReconnectAttempts := (arguments.value? .maxReconnectAttempts).bind count?
  readTimeout := seconds? arguments .readTimeout
  decodeJson := if arguments.has .raw then some false else none

def consumeRequest (arguments : Arguments) : EventStream.ConsumeRequest where
  stream := streamRequest arguments
  chunkSize := size? arguments .chunkSize
  bufferSize := size? arguments .bufferSize
  dropPolicy := arguments.value? .dropPolicy

def source (arguments : Arguments) : Source :=
  match arguments.value? .data, arguments.value? .dataFile with
  | some text, _ => .text text
  | none, some name => .file name
  | none, none => .nothing

def ofArguments (name : String) (arguments : Arguments) : Except Usage Command := do
  if arguments.has .data && arguments.has .dataFile then throw .conflict
  if hasEndpoint name && arguments.positionals.isEmpty then throw .missingArgument
  let endpoint := arguments.positionals.headD ""
  let params := arguments.value? .params
  match name with
  | "endpoints" => pure .endpoints
  | "check" => pure .check
  | "fetch" => pure (.fetch endpoint params)
  | "send" => pure (.send endpoint (source arguments))
  | "stream" => pure (.stream endpoint params (streamRequest arguments))
  | _ => pure (.consume endpoint params (consumeRequest arguments))

def helpUsage : List String → Usage
  | [] => .help
  | [name] => if (helpName :: names).contains name then .help else .unknownCommand
  | _ => .unknownCommand

end Command

namespace Invocation

def grammar : Grammar :=
  { choices := Choice.general ++ [.version]
    positionals := 0
    commands := Command.names ++ [Command.helpName] }

/-- Reads the arguments of the command line. General options after the name of the command go before
those in front of it. -/
def parse (texts : List String) : Except Usage Invocation := do
  let (general, found) ← Arguments.none.read grammar texts
  match found with
  | none =>
      let general ← general.settle
      throw (if general.given.isEmpty then .nothingGiven else .missingCommand)
  | some (name, rest) =>
      if name = Command.helpName then throw (Command.helpUsage rest)
      let (own, _) ← Arguments.none.read (Command.grammar name) rest
      let own ← own.settle
      let command ← Command.ofArguments name own
      let general ← general.settle
      let value? (choice : Choice) : Option String := own.value? choice <|> general.value? choice
      pure {
        connector := value? .connector
        format := if value? .format = some "pretty" then .pretty else .json
        verbose := (value? .verbose).isSome
        command }

end Invocation

end ApiBridge.CommandLine
