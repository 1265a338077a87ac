import ApiBridge.Connector.Stream
import ApiBridge.Proofs.Connector.Mark

namespace ApiBridge

namespace Http

/-- The body that a reaction opens to a stream, if it is a successful answer. -/
def Reaction.incoming? : Reaction → Option Incoming
  | .answer head =>
      if 200 ≤ head.status ∧ head.status < 300 then
        some {
          chunks := if Run.hasBody head.status then head.chunks else []
          ending := if Run.hasBody head.status then head.ending else .complete }
      else none
  | _ => none

/-- What a request gets from the other side: the body that it opens, if it opens one, and the other
side after it. -/
def Peer.meet (auth : Auth) (request : Request) (peer : Peer) : Option Incoming × Peer :=
  match Outgoing.ofRequest request auth with
  | .error _ => (none, peer)
  | .ok _ =>
      match peer.react with
      | none => (none, peer)
      | some (reaction, rest) => (reaction.incoming?, rest)

theorem Peer.meet_reactions (auth : Auth) (request : Request) (peer : Peer) :
    ∃ used, peer.reactions = used ++ (peer.meet auth request).2.reactions ∧
      used.filterMap Reaction.incoming? = (peer.meet auth request).1.toList := by
  unfold meet
  split
  · exact ⟨[], rfl, rfl⟩
  · cases peer with
    | unreachable => exact ⟨[], rfl, rfl⟩
    | scripted reactions =>
        cases reactions with
        | nil => exact ⟨[], rfl, rfl⟩
        | cons reaction rest =>
            refine ⟨[reaction], rfl, ?_⟩
            cases hincoming : reaction.incoming? <;> simp [react, hincoming]

end Http

/-- What an attempt leaves in the traffic, given the body that it opens if it succeeds. -/
structure Attempt (connector : Connector) (endpoint : String) (request : Http.Request)
    (before : Traffic) (incoming : Option Http.Incoming) (after : Traffic) : Prop where
  /-- One turn and one request are logged, and nothing else that shows. -/
  log_eq : ∃ waits rest,
    after.log = before.log ++ .turn endpoint waits :: .attempt request :: rest ∧
      (∀ act ∈ rest, act.marks = []) ∧ (before.limiters.find? endpoint = none → waits = [])
  limiters_eq : before.limiters.find? endpoint = none → after.limiters = before.limiters
  meet_eq : before.peer.meet connector.definition.auth request = (incoming, after.peer)

def Run.Opening.incoming? : Run.Opening → Option Http.Incoming
  | .opened answer =>
      if 200 ≤ answer.status ∧ answer.status < 300 then some answer.incoming else none
  | _ => none

theorem Http.Reaction.incoming?_opening (url : String) (reaction : Reaction) :
    (reaction.opening url).incoming? = reaction.incoming? := by
  cases reaction <;> rfl

theorem Http.Peer.meet_eq (auth : Auth) (request : Request) (peer : Peer) :
    peer.meet auth request =
      ((peer.opening auth request).1.incoming?, (peer.opening auth request).2) := by
  unfold meet opening
  cases Outgoing.ofRequest request auth with
  | error error => rfl
  | ok outgoing =>
      cases peer.react with
      | none => rfl
      | some state => exact Prod.ext (state.1.incoming?_opening outgoing.url.render).symm rfl

theorem Attempt.of_serve {connector : Connector} {endpoint : String} {request : Http.Request}
    {whole : Bool} {before : Traffic} {served : List Duration × RateLimit.Limiters}
    (hserve : before.limiters.serve endpoint
      ((before.peer.opening connector.definition.auth request).1.headers? whole) before.now =
        .ok served) :
    Attempt connector endpoint request before
      (before.peer.opening connector.definition.auth request).1.incoming?
      (before.passed connector.definition.auth endpoint request whole served) := by
  have hunlimited : before.limiters.find? endpoint = none → served = ([], before.limiters) := by
    intro hlimiter
    rw [RateLimit.Limiters.serve_of_none hlimiter] at hserve
    exact (Except.ok.inj hserve).symm
  obtain ⟨rest, hlog, hrest⟩ :=
    before.passed_log connector.definition.auth endpoint request whole served
  refine ⟨⟨served.1, rest, hlog, fun act hact => (hrest act hact).1, ?_⟩, ?_,
    Http.Peer.meet_eq _ _ _⟩
  · intro hlimiter
    rw [hunlimited hlimiter]
  · intro hlimiter
    exact congrArg Prod.snd (hunlimited hlimiter)

/-- What a session makes of an answer. -/
def Session.connection (session : Session) : Run.Opening → Except Error Connection
  | .failed error => .error (.transport error)
  | .silent _ => .error session.timeoutError
  | .opened answer =>
      if 200 ≤ answer.status ∧ answer.status < 300 then
        .ok { incoming := answer.incoming, lines := .new, pending := [] }
      else .error (.ofStatus answer.status (errorBody answer.incoming))

theorem Session.openConnection_run (connector : Connector) (session : Session)
    (request : Http.Request) :
    (openConnection connector session request).run = do
      let opening ← Run.pass connector.definition.auth session.endpoint request false
      return session.connection opening := by
  unfold openConnection Run.pass
  rw [Activity.liftM_bind_run, bind_assoc]
  congr 1
  funext _
  rw [Activity.liftM_bind_run, bind_assoc]
  congr 1
  funext opening
  cases opening with
  | failed error => rfl
  | silent url => rfl
  | opened answer =>
      unfold connection
      change (liftM (Run.noteHeaders session.endpoint answer.headers) >>= _ : Activity _).run = _
      rw [Activity.liftM_bind_run]
      change _ = (Run.noteHeaders session.endpoint answer.headers >>= _) >>= _
      rw [bind_assoc]
      congr 1
      funext _
      rw [pure_bind]
      dsimp only
      split <;> rfl

namespace Session

variable {connector : Connector} {session : Session} {request : Http.Request}
  {before after : Traffic}

theorem connection_cases (session : Session) (opening : Run.Opening) :
    (∃ incoming, opening.incoming? = some incoming ∧
        session.connection opening = .ok { incoming, lines := .new, pending := [] }) ∨
      ∃ error, opening.incoming? = none ∧ session.connection opening = .error error ∧
        error.isConfig = false := by
  cases opening with
  | failed error => exact .inr ⟨_, rfl, rfl, rfl⟩
  | silent url => exact .inr ⟨_, rfl, rfl, rfl⟩
  | opened answer =>
      unfold connection Run.Opening.incoming?
      dsimp only
      split
      · exact .inl ⟨_, rfl, rfl⟩
      · exact .inr ⟨_, rfl, rfl, rfl⟩

theorem openConnection_eq_ok {result : Except Error Connection}
    (hrun : (openConnection connector session request).run before = .ok (result, after)) :
    (∃ incoming, result = .ok { incoming, lines := .new, pending := [] } ∧
        Attempt connector session.endpoint request before (some incoming) after) ∨
      ∃ error, result = .error error ∧ error.isConfig = false ∧
        Attempt connector session.endpoint request before none after := by
  rw [openConnection_run] at hrun
  obtain ⟨opening, middle, hpass, hresult⟩ := Run.bind_eq_ok.1 hrun
  obtain ⟨served, hserve, rfl, rfl⟩ := Run.pass_eq_ok.1 hpass
  obtain ⟨rfl, rfl⟩ := Run.pure_eq_ok.1 hresult
  have hattempt := Attempt.of_serve hserve
  rcases session.connection_cases (before.peer.opening connector.definition.auth request).1 with
    ⟨incoming, hincoming, hconnection⟩ | ⟨error, hincoming, hconnection, hconfig⟩
  · rw [hincoming] at hattempt
    exact .inl ⟨incoming, hconnection, hattempt⟩
  · rw [hincoming] at hattempt
    exact .inr ⟨error, hconnection, hconfig, hattempt⟩

end Session

end ApiBridge
