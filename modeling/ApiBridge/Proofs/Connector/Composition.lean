import ApiBridge.Proofs.Connector.Retry

namespace ApiBridge.Run

variable {holds : (α : Type) → Run α → Prop} {connector : Connector} {name : String}

namespace Compositional

theorem follow (h : Compositional holds) {spec : Pagination.Spec} {params : Table Json}
    {fetch : Pagination.Source Traffic} (hfetch : ∀ params, holds _ (fetch params)) (fuel : Nat)
    (next : Option Pagination.Token) (progress : Pagination.Progress) (items : List (Table Json)) :
    holds _ (Pagination.follow spec params fetch fuel next progress items) := by
  induction fuel generalizing next progress items with
  | zero =>
      cases next with
      | none => exact h.pure _
      | some token => exact h.lift (.error .neverEnds)
  | succ fuel ih =>
      cases next with
      | none => exact h.pure _
      | some token =>
          apply h.bind (hfetch _)
          intro body
          cases body with
          | none => exact h.pure _
          | some body => exact ih _ _ _

theorem walk (h : Compositional holds) {fetch : Pagination.Source Traffic}
    (hfetch : ∀ params, holds _ (fetch params)) (spec : Pagination.Spec) (params : Table Json)
    (fuel : Nat) (initial : Json) : holds _ (Pagination.walk spec params fetch fuel initial) := by
  unfold Pagination.walk
  split
  · split
    · exact h.pure _
    · exact h.follow hfetch _ _ _ _
  · exact h.pure _

theorem pages (h : Compositional holds)
    (hpass : ∀ params request, connector.prepare name params = .ok request →
      holds _ (Run.pass connector.definition.auth name request true)) (params : Table Json) :
    holds _ (connector.pages name params) := by
  apply h.bind
  · show holds _ (connector.fetchPage name params).run
    cases hrequest : connector.prepare name params with
    | error error =>
        rw [Connector.fetchPage, hrequest]
        exact h.pure _
    | ok request =>
        rw [Connector.fetchPage_run hrequest]
        exact h.bind (hpass params request hrequest) fun opening => h.pure _
  · intro outcome
    cases outcome <;> exact h.pure _

end Compositional

/-- A property of runs that they also have where they look at the traffic, and where they check a
value. -/
structure Pervasive (holds : (α : Type) → Run α → Prop) : Prop extends Compositional holds where
  get : holds Traffic MonadState.get
  validate : ∀ (validator : Schema.Validator) payload schema,
    holds _ (Run.validate validator payload schema)

namespace Pervasive

theorem responseData (h : Pervasive holds) (endpoint : Endpoint) (response : Http.Response) :
    holds _ (connector.responseData endpoint response).run := by
  apply h.activity_bind (h.ofResult _)
  intro _
  apply h.activity_bind (h.ofResult _)
  intro value
  dsimp only
  split
  · exact h.liftM_bind (h.validate _ _ _) fun outcome => h.pure _
  · exact h.pure _

theorem pagesData (h : Pervasive holds)
    (hpass : ∀ params request, connector.prepare name params = .ok request →
      holds _ (Run.pass connector.definition.auth name request true))
    (endpoint : Endpoint) (params : Table Json) (data : Payload) :
    holds _ (connector.pagesData name endpoint params data).run := by
  unfold Connector.pagesData
  split
  · exact h.pure _
  · apply h.liftM_bind
    · exact h.bind h.get fun traffic => h.walk (h.pages hpass) _ _ _ _
    · intro items
      exact h.pure _

theorem fetch (h : Pervasive holds)
    (hpass : ∀ params request, connector.prepare name params = .ok request →
      holds _ (Run.pass connector.definition.auth name request true))
    (params : Option (Table Json)) : holds _ (connector.fetch name params).run := by
  cases hendpoint : connector.endpoint name with
  | error error =>
      rw [Connector.fetch_eq_throw hendpoint]
      exact h.pure _
  | ok endpoint =>
      obtain ⟨request, hrequest⟩ := Connector.prepare_eq_ok hendpoint (params.getD [])
      have honce : holds _ (connector.fetchOnce name endpoint request (params.getD [])).run := by
        rw [Connector.fetchOnce_run hendpoint]
        apply h.bind (hpass _ request hrequest)
        intro opening
        cases opening.response with
        | error error => exact h.pure _
        | ok response =>
            exact h.activity_bind (h.responseData _ _) fun data => h.pagesData hpass _ _ _
      rw [Connector.fetch_eq hendpoint hrequest]
      exact h.reporting (h.retry honce _ _ _) _

theorem checkRequests (h : Pervasive holds) (validator : Schema.Validator) (schema : Json)
    (values : List Json) :
    holds _ (Connector.checkRequests validator name schema values).run := by
  induction values with
  | nil => exact h.pure _
  | cons value rest ih =>
      apply h.liftM_bind (h.validate _ _ _)
      intro outcome
      split
      · exact ih
      · exact h.pure _

theorem send (h : Pervasive holds)
    (hpass : ∀ request body, connector.prepare name [] = .ok request →
      holds _ (Run.pass connector.definition.auth name { request with body } true))
    (value : Json) : holds _ (connector.send name value).run := by
  cases hendpoint : connector.endpoint name with
  | error error =>
      rw [Connector.send_eq_throw hendpoint]
      exact h.pure _
  | ok endpoint =>
      obtain ⟨request, hrequest⟩ := Connector.prepare_eq_ok hendpoint []
      rw [Connector.send_eq_deliver hendpoint hrequest]
      apply h.activity_bind
      · unfold Connector.checkPayload
        split
        · exact h.checkRequests _ _ _
        · exact h.pure _
      · intro _
        exact h.deliver (fun body => hpass request body hrequest) value

end Pervasive

namespace Compositional

variable {session : Session}

theorem recover (h : Compositional holds) (session : Session) (error : Error) :
    holds _ (session.recover error) := by
  unfold Session.recover
  split
  · exact h.pure _
  · dsimp only
    split
    · exact h.pure _
    · exact h.bind (h.bind (h.pause _) fun _ => h.pure _) fun _ => h.pure _

theorem reopen (h : Compositional holds) (session : Session) : holds _ session.reopen := by
  unfold Session.reopen
  split
  · exact h.pure _
  · dsimp only
    split
    · exact h.pure _
    · exact h.bind (h.pause _) fun _ => h.pure _

theorem connect (h : Compositional holds)
    (hpass : ∀ request,
      connector.prepareStream session.endpoint session.params session.lastEventId = .ok request →
        holds _ (Run.pass connector.definition.auth session.endpoint request false)) :
    holds _ (session.connect connector) := by
  unfold Session.connect
  dsimp only
  cases hrequest :
      connector.prepareStream session.endpoint session.params session.lastEventId with
  | error error =>
      dsimp only
      split
      · exact h.pure _
      · exact h.recover _ _
  | ok request =>
      dsimp only
      rw [Session.openConnection_run, bind_assoc]
      apply h.bind (hpass request hrequest)
      intro opening
      rw [pure_bind]
      split
      · exact h.pure _
      · split
        · exact h.pure _
        · exact h.recover _ _

theorem takeChunk (h : Compositional holds) (session : Session) (connection : Connection)
    (chunk : List UInt8) : holds _ (session.takeChunk connection chunk) := by
  unfold Session.takeChunk
  cases connection.lines.push chunk with
  | mk outcome buffer =>
      cases outcome with
      | error error => exact h.recover _ _
      | ok lines =>
          dsimp only
          split <;> exact h.pure _

theorem takeEnd (h : Compositional holds) (session : Session) (connection : Connection) :
    holds _ (session.takeEnd connection) := by
  unfold Session.takeEnd
  dsimp only
  split
  · exact h.pure _
  · exact h.reopen _

theorem read (h : Compositional holds) (session : Session) (connection : Connection) :
    holds _ (session.read connection) := by
  unfold Session.read
  cases connection.incoming.next with
  | chunk chunk rest => exact h.takeChunk _ _ _
  | finished => exact h.bind (h.takeEnd _ _) fun last => h.pure _
  | broken => exact h.recover _ _
  | nothing => exact h.recover _ _

theorem step (h : Compositional holds)
    (hpass : ∀ request,
      connector.prepareStream session.endpoint session.params session.lastEventId = .ok request →
        holds _ (Run.pass connector.definition.auth session.endpoint request false)) :
    holds _ (session.step connector) := by
  unfold Session.step
  split
  · exact h.pure _
  · split
    · exact h.pure _
    · exact h.connect hpass
    · exact h.read _ _

end Compositional

end ApiBridge.Run
