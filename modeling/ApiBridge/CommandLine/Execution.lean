import ApiBridge.CommandLine.Command
import ApiBridge.CommandLine.Files
import ApiBridge.Plugin

namespace ApiBridge.CommandLine

abbrev Writing := ExceptT Error (StateT (List Json) Run)

namespace Writing

def say (message : Json) : Writing Unit := modify fun messages => messages ++ [message]

def quietly {α : Type} (activity : Activity α) : Writing α :=
  ExceptT.mk (StateT.lift activity.run)

def ofResult {α : Type} : Except Error α → Writing α
  | .ok value => pure value
  | .error error => throw error

end Writing

def typed (type : String) (members : List (String × Json)) : Json :=
  .ofPairs (("type", .string type) :: members)

def jsonArgument (what text : String) : Except Error Json :=
  match Json.parse? text with
  | some value => .ok value
  | none => .error (.config ("Invalid " ++ what ++ " JSON: " ++ malformed))

def paramsArgument (text : String) : Except Error (Table Json) := do
  match ← jsonArgument "params" text with
  | .object params => pure params
  | other => throw (.config ("params must be a JSON object, got " ++ other.compact))

namespace Invocation

def definition (invocation : Invocation) (files : Files) : Except Error Definition := do
  match invocation.connector with
  | none => throw (.config "Connector file not specified (use -c flag)")
  | some name =>
      match files.text name with
      | .ok text => Definition.load text
      | .error fault =>
          throw (.config ("Failed to read connector file '" ++ name ++ "': " ++ fault.message))

def pluggedIn (invocation : Invocation) (files : Files) : Writing Connector := do
  let definition ← Writing.ofResult (invocation.definition files)
  Writing.quietly (PluginRegistry.builtin.connector definition.kind definition)

def opened (invocation : Invocation) (files : Files) : Writing Connector := do
  let definition ← Writing.ofResult (invocation.definition files)
  Writing.quietly (Activity.openConnector definition)

def endpointMessage (name : String) (endpoint : Endpoint) : Json :=
  typed "ENDPOINT" [("endpoint", .ofPairs [
    ("name", .string name), ("method", .string endpoint.method.name),
    ("path", .string endpoint.path), ("paginated", .bool endpoint.pagination.isSome),
    ("streaming", .bool endpoint.stream.isSome)])]

/-- The message of a check. The clock stands still, so that no time has passed. -/
def healthMessage (health : Health) : Json :=
  typed "CONNECTION_STATUS" [("connectionStatus",
    .ofPairs (health.members ++ [("latency_ms", .ofBinary64 (.zero false))]))]

def payload (files : Files) : Source → Except Error Json
  | .text text => jsonArgument "data" text
  | .file name =>
      match files.text name with
      | .ok text => jsonArgument "data" text
      | .error fault => .error (.config ("Failed to read data file: " ++ fault.message))
  | .nothing => .error (.config "Provide --data or --data-file")

/-- Writes the events of a stream, and fails with its error if there is one. -/
def sayEvents : List (Except Error EventStream.Event) → Writing Unit
  | [] => return
  | .ok event :: rest => do
      Writing.say (typed "EVENT" [("event", event.encode)])
      sayEvents rest
  | .error error :: _ => throw error

def execute (invocation : Invocation) (files : Files) : Writing Unit := do
  let paramsOf (text : Option String) : Writing (Option (Table Json)) :=
    Writing.ofResult (text.mapM paramsArgument)
  match invocation.command with
  | .endpoints =>
      let definition ← Writing.ofResult (invocation.definition files)
      definition.endpoints.forM fun (name, endpoint) =>
        Writing.say (endpointMessage name endpoint)
  | .check =>
      let connector ← invocation.pluggedIn files
      let health ← Writing.quietly (ExceptT.lift connector.checkHealth)
      Writing.say (healthMessage health)
  | .fetch endpoint params =>
      let params ← paramsOf params
      let connector ← invocation.pluggedIn files
      let data ← Writing.quietly (connector.fetch endpoint params)
      Writing.say (typed "DATA" [("endpoint", .string endpoint), ("data", data.toJson)])
  | .send endpoint source =>
      let payload ← Writing.ofResult (payload files source)
      let connector ← invocation.pluggedIn files
      let delivery ← Writing.quietly (connector.send endpoint payload)
      Writing.say (typed "SEND_RESULT"
        [("endpoint", .string endpoint), ("result", delivery.encode)])
  | .stream endpoint params request =>
      let params ← paramsOf params
      let connector ← invocation.opened files
      let session ← Writing.ofResult (connector.stream endpoint (params.getD []) request)
      sayEvents (← Writing.quietly (ExceptT.lift (session.drain connector)))
  | .consume endpoint params request =>
      let params ← paramsOf params
      let connector ← invocation.opened files
      let summary ← Writing.quietly (connector.consume endpoint (params.getD []) request)
      let result := summary.encode fun chunk => .ofNat chunk.length
      Writing.say (typed "CONSUME_SUMMARY" [("summary", result)])

end Invocation

/-- What comes of a command: the text that it writes, and the error that it fails with. -/
structure Outcome where
  output : String
  failure : Option Error
  deriving Repr

namespace Outcome

def failureText (outcome : Outcome) : Option String :=
  outcome.failure.map fun error => "Error: " ++ error.message

def exitCode (outcome : Outcome) : Nat := if outcome.failure.isSome then 1 else 0

end Outcome

namespace Invocation

def render (invocation : Invocation) (message : Json) : String :=
  (match invocation.format with
    | .json => message.compact
    | .pretty => message.pretty) ++ "\n"

/-- Does what a command asks for, and writes a message about the report of a failure. -/
def run (invocation : Invocation) (files : Files) : Run Outcome := do
  let (result, messages) ← (invocation.execute files).run.run []
  let failure := match result with
    | .ok () => none
    | .error error => some error
  let report := match failure with
    | some (.api report) => [typed "ERROR" [("error", report.encode)]]
    | _ => []
  return { output := String.join ((messages ++ report).map invocation.render), failure }

end Invocation

end ApiBridge.CommandLine
