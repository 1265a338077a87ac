import ApiBridge.Http.Request

namespace ApiBridge.Http

inductive Ending where
  | complete
  | cut
  | stalled
  deriving DecidableEq, Repr

structure Answer where
  status : Nat
  headers : Headers
  chunks : List (List UInt8)
  ending : Ending
  deriving DecidableEq, Repr

/-- What sending one message with the HTTP client finally comes to. The client follows redirects by
itself, so an answer is the one at the end of them, and hanging up or silence may have befallen any
message on the way. -/
inductive Reaction where
  | hangUp
  | silence
  | answer (answer : Answer)
  deriving DecidableEq, Repr

/-- The reactions to the messages that are sent, in turn; none of them is a redirect that the client
still follows. -/
inductive Peer where
  | unreachable
  | scripted (reactions : List Reaction)
  deriving DecidableEq, Repr

namespace Peer

/-- The reaction to a request that has reached the other side, and the other side after it. -/
def react : Peer → Option (Reaction × Peer)
  | .unreachable => none
  | .scripted [] => some (.hangUp, .scripted [])
  | .scripted (reaction :: rest) => some (reaction, .scripted rest)

def reactions : Peer → List Reaction
  | .unreachable => []
  | .scripted reactions => reactions

end Peer

structure Incoming where
  chunks : List (List UInt8)
  ending : Ending
  deriving DecidableEq, Repr

inductive Arrival where
  | chunk (bytes : List UInt8) (rest : Incoming)
  | finished
  | broken
  | nothing
  deriving DecidableEq, Repr

namespace Incoming

def next (incoming : Incoming) : Arrival :=
  match incoming.chunks, incoming.ending with
  | chunk :: rest, _ => .chunk chunk { incoming with chunks := rest }
  | [], .complete => .finished
  | [], .cut => .broken
  | [], .stalled => .nothing

def all (incoming : Incoming) : Except TransportError (List UInt8) :=
  match incoming.ending with
  | .complete => .ok incoming.chunks.flatten
  | .cut => .error (.brokenBody false)
  | .stalled => .error (.brokenBody true)

end Incoming

structure Opened where
  status : Nat
  headers : Headers
  url : String
  incoming : Incoming
  deriving DecidableEq, Repr

structure Response where
  status : Nat
  headers : Headers
  body : List UInt8
  url : String
  deriving DecidableEq, Repr

namespace Response

def isSuccess (response : Response) : Bool := 200 ≤ response.status && response.status < 300

def text (response : Response) : String := Utf8.lossy response.body

end Response

end ApiBridge.Http
