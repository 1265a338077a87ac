import ApiBridge.Http.Peer
import ApiBridge.RateLimit.Limiter
import ApiBridge.Schema.Validate

/-!
The traffic of a connector: the other side, the limiters of the endpoints, and a log of what was
done and in which order. The clock stands still: waits are logged and not served.
-/

namespace ApiBridge

structure Validation where
  payload : Json
  outcome : Schema.Outcome
  deriving Repr

/-- Something that was done. -/
inductive Act where
  /-- Got a turn from the limiter of an endpoint, after some waits. -/
  | turn (endpoint : String) (waits : List Duration)
  | pause (d : Duration)
  | attempt (request : Http.Request)
  /-- Got a message through to the other side. -/
  | sent (message : Http.Outgoing)
  | noted (endpoint : String)
  | checked (validation : Validation)
  deriving Repr

namespace Act

def waits : Act → List Duration
  | .turn _ waits => waits
  | .pause d => [d]
  | _ => []

def sent? : Act → Option Http.Outgoing
  | .sent message => some message
  | _ => none

def validation? : Act → Option Validation
  | .checked validation => some validation
  | _ => none

end Act

structure Traffic where
  peer : Http.Peer
  limiters : RateLimit.Limiters
  now : Instant
  log : List Act
  deriving Repr

namespace Traffic

def start (peer : Http.Peer) (limiters : RateLimit.Limiters) (now : Instant) : Traffic :=
  { peer, limiters, now, log := [] }

def forget (traffic : Traffic) : Traffic := { traffic with log := [] }

def add (traffic : Traffic) (act : Act) : Traffic := { traffic with log := traffic.log ++ [act] }

def sent (traffic : Traffic) : List Http.Outgoing := traffic.log.filterMap Act.sent?

def waits (traffic : Traffic) : List Duration := traffic.log.flatMap Act.waits

def validations (traffic : Traffic) : List Validation := traffic.log.filterMap Act.validation?

end Traffic

abbrev Run := StateT Traffic (Except Fault)

abbrev Activity := ExceptT Error Run

namespace Run

def pause (d : Duration) : Run Unit := modify fun traffic => traffic.add (.pause d)

def acquire (endpoint : String) : Run Unit := do
  let traffic ← get
  let (waits, limiters) ← liftM (traffic.limiters.acquire endpoint traffic.now)
  set ({ traffic with limiters }.add (.turn endpoint waits))

def noteHeaders (endpoint : String) (headers : Http.Headers) : Run Unit := do
  let traffic ← get
  let limiters ← liftM (traffic.limiters.update endpoint headers traffic.now)
  set ({ traffic with limiters }.add (.noted endpoint))

def validate (validator : Schema.Validator) (payload schema : Json) : Run Schema.Outcome := do
  let outcome := validator payload schema
  modify fun traffic => traffic.add (.checked { payload, outcome })
  return outcome

/-- What came of sending a message: no message, no answer, or the head of an answer. -/
inductive Opening where
  | failed (error : TransportError)
  | silent (url : String)
  | opened (answer : Http.Opened)

def hasBody (status : Nat) : Bool := status != 204 && status != 304

/-- One attempt to send the message for a request. It takes one reaction, which is what the HTTP
client finally comes to with the message, redirects that it follows included; the message is the one
that is handed to the client, and its URL stands for that of the answer. -/
def openAnswer (request : Http.Request) (auth : Auth) : Run Opening := do
  modify fun traffic => traffic.add (.attempt request)
  match Http.Outgoing.ofRequest request auth with
  | .error error => return .failed error
  | .ok outgoing =>
      let traffic ← get
      let url := outgoing.url.render
      match traffic.peer.react with
      | none => return .failed (.noAnswer url false)
      | some (reaction, peer) =>
          set ({ traffic with peer }.add (.sent outgoing))
          match reaction with
          | .hangUp => return .failed (.noAnswer url false)
          | .silence => return .silent url
          | .answer answer =>
              return .opened {
                status := answer.status, headers := answer.headers, url
                incoming := {
                  chunks := if hasBody answer.status then answer.chunks else []
                  ending := if hasBody answer.status then answer.ending else .complete } }

def exchange (request : Http.Request) (auth : Auth) :
    Run (Except TransportError Http.Response) := do
  match ← openAnswer request auth with
  | .failed error => return .error error
  | .silent url => return .error (.noAnswer url true)
  | .opened answer =>
      return answer.incoming.all.map fun body =>
        { status := answer.status, headers := answer.headers, body, url := answer.url }

end Run

namespace Activity

variable {α : Type}

def attempt (activity : Activity α) : Activity (Except Error α) := ExceptT.lift activity.run

def ofResult : Except Error α → Activity α
  | .ok value => pure value
  | .error error => throw error

end Activity

end ApiBridge
