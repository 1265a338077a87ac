import ApiBridge.Decimal.Numeral

namespace ApiBridge.CommandLine

inductive Usage where
  | help
  | version
  | nothingGiven
  | missingCommand
  | unknownCommand
  | unknownArgument
  | missingArgument
  /-- Two arguments that do not go together, or one that may be given once only. -/
  | conflict
  /-- A value that is none of the choices, or no value at all. -/
  | invalidValue
  | unreadableValue
  | unneededValue
  deriving DecidableEq, Repr

def Usage.exitCode : Usage → Nat
  | .help | .version => 0
  | _ => 2

inductive Choice where
  | connector
  | format
  | verbose
  | help
  | version
  | params
  | data
  | dataFile
  | maxEvents
  | noReconnect
  | reconnectDelay
  | maxReconnectAttempts
  | readTimeout
  | raw
  | chunkSize
  | bufferSize
  | dropPolicy
  deriving DecidableEq, Repr

inductive ValueKind where
  | text
  | file
  | format
  | size
  | count
  | seconds
  deriving DecidableEq, Repr

/-- Reads an integer of 32 bits; a sign may stand before it, so that minus zero is zero. -/
def count? (text : String) : Option Nat :=
  match text.toList with
  | '-' :: digits =>
      if digits.isEmpty || !digits.all (· == '0') then none else some 0
  | _ => Numeral.natural? UInt32.size text

def ValueKind.check (value : String) : ValueKind → Except Usage Unit
  | .text => .ok ()
  | .file => if value.isEmpty then .error .invalidValue else .ok ()
  | .format => if value = "json" ∨ value = "pretty" then .ok () else .error .invalidValue
  | .size => if (Numeral.natural? UInt64.size value).isSome then .ok () else .error .unreadableValue
  | .count => if (count? value).isSome then .ok () else .error .unreadableValue
  | .seconds => if (Numeral.binary64? value).isSome then .ok () else .error .unreadableValue

namespace Choice

def long : Choice → String
  | .connector => "connector"
  | .format => "format"
  | .verbose => "verbose"
  | .help => "help"
  | .version => "version"
  | .params => "params"
  | .data => "data"
  | .dataFile => "data-file"
  | .maxEvents => "max-events"
  | .noReconnect => "no-reconnect"
  | .reconnectDelay => "reconnect-delay"
  | .maxReconnectAttempts => "max-reconnect-attempts"
  | .readTimeout => "read-timeout"
  | .raw => "raw"
  | .chunkSize => "chunk-size"
  | .bufferSize => "buffer-size"
  | .dropPolicy => "drop-policy"

def short? : Choice → Option Char
  | .connector => some 'c'
  | .format => some 'f'
  | .verbose => some 'v'
  | .help => some 'h'
  | .version => some 'V'
  | _ => none

def value? : Choice → Option ValueKind
  | .connector | .dataFile => some .file
  | .format => some .format
  | .params | .data | .dropPolicy => some .text
  | .maxEvents | .chunkSize | .bufferSize => some .size
  | .maxReconnectAttempts => some .count
  | .reconnectDelay | .readTimeout => some .seconds
  | .verbose | .help | .version | .noReconnect | .raw => none

def general : List Choice := [.connector, .format, .verbose, .help]

def ofStream : List Choice :=
  [.params, .maxEvents, .noReconnect, .reconnectDelay, .maxReconnectAttempts, .readTimeout, .raw]

end Choice

/-- What can be given at one place: options, positional arguments, and names of commands. -/
structure Grammar where
  choices : List Choice
  positionals : Nat
  commands : List String

structure Arguments where
  given : List (Choice × String)
  positionals : List String
  /-- The last option, and its value if that has come; it is checked when the next one comes. -/
  pending : Option (Choice × Option String)
  isClosed : Bool
  deriving Repr

namespace Arguments

def none : Arguments := { given := [], positionals := [], pending := .none, isClosed := false }

def value? (arguments : Arguments) (choice : Choice) : Option String :=
  arguments.given.lookup choice

def has (arguments : Arguments) (choice : Choice) : Bool := (arguments.value? choice).isSome

def take (arguments : Arguments) (choice : Choice) (value : String) : Except Usage Arguments := do
  if choice = .help then throw .help
  if choice = .version then throw .version
  if arguments.has choice then throw .conflict
  if let some kind := choice.value? then kind.check value
  pure { arguments with given := arguments.given ++ [(choice, value)] }

def settle (arguments : Arguments) : Except Usage Arguments :=
  let settled := { arguments with pending := .none }
  match arguments.pending with
  | .none => .ok settled
  | some (_, .none) => .error .invalidValue
  | some (choice, some value) => settled.take choice value

def begin (arguments : Arguments) (choice : Choice) : Except Usage Arguments := do
  let arguments ← arguments.settle
  if choice.value?.isSome then pure { arguments with pending := some (choice, .none) }
  else arguments.take choice ""

def attach (arguments : Arguments) (choice : Choice) (value : String) :
    Except Usage Arguments := do
  (← arguments.settle).take choice value

def readLong (grammar : Grammar) (arguments : Arguments) (text : List Char) :
    Except Usage Arguments :=
  let name := String.ofList (text.takeWhile (· != '='))
  match grammar.choices.find? fun choice => choice.long == name, text.dropWhile (· != '=') with
  | .none, _ => .error .unknownArgument
  | some choice, [] => arguments.begin choice
  | some choice, _ :: value =>
      if choice.value?.isNone then .error .unneededValue
      else arguments.attach choice (String.ofList value)

/-- Reads options in their short spellings, the last of which may have its value attached. -/
def readShort (grammar : Grammar) (arguments : Arguments) : List Char → Except Usage Arguments
  | [] => .ok arguments
  | c :: rest =>
      match grammar.choices.find? fun choice => choice.short? == some c with
      | .none => .error .unknownArgument
      | some choice =>
          if choice.value?.isNone then do readShort grammar (← arguments.begin choice) rest
          else
            match rest with
            | [] => arguments.begin choice
            | '=' :: value => arguments.attach choice (String.ofList value)
            | value => arguments.attach choice (String.ofList value)

def position (grammar : Grammar) (arguments : Arguments) (text : String) :
    Except Usage Arguments :=
  if arguments.positionals.length < grammar.positionals then do
    let arguments ← arguments.settle
    pure { arguments with positionals := arguments.positionals ++ [text] }
  else if grammar.commands.isEmpty ||
      (arguments.isClosed && grammar.commands.contains text) then .error .unknownArgument
  else .error .unknownCommand

def isExpecting (arguments : Arguments) : Bool :=
  arguments.pending.any fun last => last.2.isNone

/-- Reads arguments up to the name of a command, which is given back with the arguments after it. -/
def read (grammar : Grammar) (arguments : Arguments) :
    List String → Except Usage (Arguments × Option (String × List String))
  | [] => .ok (arguments, .none)
  | text :: rest =>
      if arguments.isClosed then do read grammar (← arguments.position grammar text) rest
      else if !arguments.isExpecting && grammar.commands.contains text then
        .ok (arguments, some (text, rest))
      else
        match text.toList with
        | ['-', '-'] => read grammar { arguments with isClosed := true } rest
        | '-' :: '-' :: long => do read grammar (← arguments.readLong grammar long) rest
        | '-' :: c :: short => do read grammar (← arguments.readShort grammar (c :: short)) rest
        | _ =>
            match arguments.pending with
            | some (choice, .none) =>
                read grammar { arguments with pending := some (choice, some text) } rest
            | _ => do read grammar (← arguments.position grammar text) rest

end Arguments

end ApiBridge.CommandLine
