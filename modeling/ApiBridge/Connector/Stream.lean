import ApiBridge.Connector.Basic
import ApiBridge.EventStream.Block
import ApiBridge.EventStream.Consumption
import ApiBridge.EventStream.Lines

/-!
Streams: event streams across reconnects. A session is pulled one event at a time. Between two
events it may connect, read on, and after failures and ends of the stream wait and connect again,
from after the last event that it has seen.
-/

namespace ApiBridge

structure Connection where
  incoming : Http.Incoming
  lines : EventStream.LineBuffer
  pending : List String
  deriving Repr

inductive Phase where
  | connecting
  | streaming (connection : Connection)
  | done
  deriving Repr

/-- An event stream in the course of being read. -/
structure Session where
  endpoint : String
  params : Table Json
  options : EventStream.StreamOptions
  phase : Phase
  /-- The events that have been read and not pulled. -/
  ready : List EventStream.Event
  request : Option Http.Request
  /-- The last id of a block, if there was one that is not empty. -/
  lastEventId : Option String
  delay : Duration
  /-- How often it had to connect again; this is never forgotten. -/
  attempts : Nat
  received : Nat
  deriving Repr

inductive Pull where
  | event (event : EventStream.Event)
  | failed (error : Error)
  | ended
  deriving Repr

namespace Session

def start (endpoint : String) (params : Table Json) (options : EventStream.StreamOptions) :
    Session :=
  { endpoint, params, options
    phase := if options.maxEvents = some 0 then .done else .connecting
    ready := [], request := none, lastEventId := none, delay := options.reconnectDelay,
    attempts := 0, received := 0 }

def isFull (session : Session) : Bool :=
  session.options.maxEvents.any fun limit => limit ≤ session.received

def isExhausted (session : Session) : Bool :=
  session.options.maxReconnectAttempts.any fun limit => limit < session.attempts

/-- Takes a block in: its retry time, its id unless that is empty, and its event. -/
def takeBlock (session : Session) (lines : List String) : Session :=
  match EventStream.Block.ofLines? lines with
  | none => session
  | some block =>
      let event := block.event? session.options.decodeJson
      { session with
        delay := (block.retry.map Duration.ofMillis).getD session.delay
        lastEventId := (block.id.filter fun id => !id.isEmpty) <|> session.lastEventId
        received := session.received + event.toList.length
        ready := session.ready ++ event.toList }

/-- Takes lines in, a block at each empty one. Once all events have been read that are asked for,
the lines after them do not matter; the last part tells whether there are more to read. -/
def takeLines (session : Session) (pending : List String) :
    List String → Session × List String × Bool
  | [] => (session, pending, true)
  | line :: rest =>
      if line.isEmpty then
        let session := session.takeBlock pending
        if session.isFull then (session, [], false) else takeLines session [] rest
      else takeLines session (pending ++ [line]) rest

def report (session : Session) (error : Error) : ApiError :=
  let message := "Failed to stream SSE from " ++ session.endpoint ++ ": " ++ error.message
  let report := (ApiError.ofError message error).withContext "endpoint" (.string session.endpoint)
  match session.request with
  | some request => report.withRequest request.url request.method.name
  | none => report

def reconnect (session : Session) : Run Session := do
  Run.pause session.delay
  return { session with phase := .connecting }

/-- Goes on after an error: the session fails, or connects again if it may. -/
def recover (session : Session) (error : Error) : Run (Session × Option Pull) := do
  if !session.options.reconnect then return (session, some (.failed (.api (session.report error))))
  else
    let session := { session with attempts := session.attempts + 1 }
    if session.isExhausted then return (session, some (.failed (.api (session.report error))))
    else return (← session.reconnect, none)

/-- Goes on after the end of a stream: the session is done, or connects again if it may. -/
def reopen (session : Session) : Run Session := do
  if !session.options.reconnect then return session
  else
    let session := { session with attempts := session.attempts + 1 }
    if session.isExhausted then return session else session.reconnect

def timeoutError (session : Session) : Error := .timeout session.options.readTimeout.millis

def errorBody (incoming : Http.Incoming) : String :=
  match incoming.all with
  | .ok bytes => Utf8.lossy bytes
  | .error _ => ""

def openConnection (connector : Connector) (session : Session) (request : Http.Request) :
    Activity Connection := do
  Run.acquire session.endpoint
  match ← (Run.openAnswer request connector.definition.auth : Run _) with
  | .failed error => throw (.transport error)
  | .silent _ => throw session.timeoutError
  | .opened answer =>
      Run.noteHeaders session.endpoint answer.headers
      if 200 ≤ answer.status ∧ answer.status < 300 then
        return { incoming := answer.incoming, lines := .new, pending := [] }
      else throw (.ofStatus answer.status (errorBody answer.incoming))

def connect (connector : Connector) (session : Session) : Run (Session × Option Pull) := do
  let session := { session with phase := .done }
  match connector.prepareStream session.endpoint session.params session.lastEventId with
  | .error error =>
      if error.isConfig then return (session, some (.failed error)) else session.recover error
  | .ok request =>
      let session := { session with request := some request }
      match ← (openConnection connector session request).run with
      | .ok connection => return ({ session with phase := .streaming connection }, none)
      | .error error =>
          if error.isConfig then return (session, some (.failed error)) else session.recover error

def takeChunk (session : Session) (connection : Connection) (chunk : List UInt8) :
    Run (Session × Option Pull) := do
  let (lines, buffer) := connection.lines.push chunk
  match lines with
  | .error error => session.recover error
  | .ok lines =>
      let (session, pending, goesOn) := session.takeLines connection.pending lines
      if goesOn then
        let connection := { connection with lines := buffer, pending }
        return ({ session with phase := .streaming connection }, none)
      else return (session, none)

def takeEnd (session : Session) (connection : Connection) : Run Session := do
  let pending := connection.pending ++ connection.lines.finish.1.toList
  let session := session.takeBlock pending
  if session.isFull then return session else session.reopen

def read (session : Session) (connection : Connection) : Run (Session × Option Pull) := do
  let session := { session with phase := .done }
  match connection.incoming.next with
  | .chunk bytes rest => session.takeChunk { connection with incoming := rest } bytes
  | .finished => return (← session.takeEnd connection, none)
  | .broken => session.recover (.transport (.brokenBody false))
  | .nothing => session.recover session.timeoutError

/-- Does one step: hands an event over that is ready, or connects, or reads on. -/
def step (connector : Connector) (session : Session) : Run (Session × Option Pull) := do
  match session.ready with
  | event :: rest => return ({ session with ready := rest }, some (.event event))
  | [] =>
      match session.phase with
      | .done => return (session, some .ended)
      | .connecting => session.connect connector
      | .streaming connection => session.read connection

def pullWithin (connector : Connector) (session : Session) : Nat → Run (Session × Pull)
  | 0 => throw .neverEnds
  | fuel + 1 => do
      match ← session.step connector with
      | (session, some pull) => return (session, pull)
      | (session, none) => session.pullWithin connector fuel

/-- How many steps the reading of a body takes, and the handing over of its events. -/
def bodySteps (incoming : Http.Incoming) : Nat :=
  incoming.chunks.foldl (fun steps chunk => steps + chunk.length + 1) 2

def reactionSteps : Http.Reaction → Nat
  | .answer answer => bodySteps { chunks := answer.chunks, ending := answer.ending } + 1
  | _ => 1

/-- How many steps a session can take before it has ended, if it ends at all: every step hands an
event over, reads on, or takes a reaction of the other side; and once no reactions are left, every
step is an attempt to connect again, of which a limit leaves only so many. -/
def stepsLeft (session : Session) (peer : Http.Peer) : Nat :=
  let inConnection := match session.phase with
    | .streaming connection =>
        bodySteps connection.incoming + connection.lines.bytes.length + connection.pending.length
    | _ => 0
  let inReactions := peer.reactions.foldl (fun steps reaction => steps + reactionSteps reaction) 0
  session.ready.length + inConnection + inReactions +
    (session.options.maxReconnectAttempts.getD 0 + 1 - session.attempts) + 2

def pull (connector : Connector) (session : Session) : Run (Session × Pull) := do
  session.pullWithin connector (session.stepsLeft (← get).peer)

/-- Pulls up to a number of times, and no more after the end. Each pull comes with the session that
it leaves. -/
def pulls (connector : Connector) (session : Session) : Nat → Run (List (Session × Pull))
  | 0 => return []
  | count + 1 => do
      match ← session.pull connector with
      | (session, .ended) => return [(session, .ended)]
      | (session, pull) => return (session, pull) :: (← session.pulls connector count)

def drainWithin (connector : Connector) (session : Session) :
    Nat → Run (List (Except Error EventStream.Event))
  | 0 => throw .neverEnds
  | fuel + 1 => do
      match ← session.step connector with
      | (session, none) => session.drainWithin connector fuel
      | (session, some (.event event)) =>
          return .ok event :: (← session.drainWithin connector fuel)
      | (_, some (.failed error)) => return [.error error]
      | (_, some .ended) => return []

def drain (connector : Connector) (session : Session) :
    Run (List (Except Error EventStream.Event)) := do
  session.drainWithin connector (session.stepsLeft (← get).peer)

end Session

namespace Connector

def stream (connector : Connector) (name : String) (params : Table Json)
    (request : EventStream.StreamRequest) : Except Error Session := do
  let endpoint ← connector.endpoint name
  pure (.start name params
    (request.resolve endpoint.streamSettings connector.definition.timeout))

/-- Consumes a stream in chunks. Sizes and the policy are checked before anything is sent. -/
def consume (connector : Connector) (name : String) (params : Table Json)
    (request : EventStream.ConsumeRequest) :
    Activity (EventStream.Summary (List EventStream.Event)) := do
  let endpoint ← Activity.ofResult (connector.endpoint name)
  let limits ← Activity.ofResult (request.resolve endpoint.streamSettings)
  let consumption ← (liftM (EventStream.Consumption.start limits) : Run _)
  let session ← Activity.ofResult (connector.stream name params request.stream)
  let events ← (session.drain connector : Run _)
  match consumption.run events with
  | .ok summary => return summary
  | .error (error, _) => throw error

end Connector

end ApiBridge
