import ApiBridge.Proofs.Auth
import ApiBridge.Proofs.Connector.Composition
import ApiBridge.Proofs.Http.Message

namespace ApiBridge

open Http Header

/-- Whether all messages that a run gets through have some property. -/
def Run.Sends {α : Type} (holds : Outgoing → Prop) (run : Run α) : Prop :=
  ∀ before result after, run before = .ok (result, after) →
    ∃ messages, after.sent = before.sent ++ messages ∧ ∀ message ∈ messages, holds message

namespace Run.Sends

variable {α β : Type} {holds : Outgoing → Prop}

theorem of_log {before after : Traffic} {acts : List Act} (hlog : after.log = before.log ++ acts)
    (hacts : ∀ message, .sent message ∈ acts → holds message) :
    ∃ messages, after.sent = before.sent ++ messages ∧ ∀ message ∈ messages, holds message := by
  refine ⟨acts.filterMap Act.sent?, ?_, ?_⟩
  · rw [Traffic.sent, hlog, List.filterMap_append]
    rfl
  · intro message hmessage
    obtain ⟨act, hact, hsent⟩ := List.mem_filterMap.1 hmessage
    cases act with
    | sent given =>
        obtain rfl := Option.some.inj hsent
        exact hacts given hact
    | _ => cases hsent

theorem of_silent {before after : Traffic} (hlog : after.log = before.log) :
    ∃ messages, after.sent = before.sent ++ messages ∧ ∀ message ∈ messages, holds message :=
  of_log (hlog.trans (List.append_nil _).symm) (by simp)

theorem pure (value : α) : (Pure.pure value : Run α).Sends holds := by
  intro before result after hrun
  obtain ⟨-, rfl⟩ := Run.pure_eq_ok.1 hrun
  exact of_silent rfl

theorem bind {first : Run α} {second : α → Run β} (hfirst : first.Sends holds)
    (hsecond : ∀ value, (second value).Sends holds) : (first >>= second).Sends holds := by
  intro before result after hrun
  obtain ⟨value, middle, hvalue, hrest⟩ := Run.bind_eq_ok.1 hrun
  obtain ⟨messages, hsent, hmessages⟩ := hfirst before value middle hvalue
  obtain ⟨more, hmoreSent, hmore⟩ := hsecond value middle result after hrest
  exact ⟨messages ++ more, by rw [hmoreSent, hsent, List.append_assoc],
    List.forall_mem_append.2 ⟨hmessages, hmore⟩⟩

theorem lift (outcome : Except Fault α) : (liftM outcome : Run α).Sends holds := by
  intro before result after hrun
  obtain ⟨-, rfl⟩ := Run.liftM_eq_ok.1 hrun
  exact of_silent rfl

theorem pause (d : Duration) : (Run.pause d).Sends holds := by
  intro before result after hrun
  obtain rfl := Run.modify_eq_ok.1 hrun
  exact of_log rfl (by simp)

theorem get : (MonadState.get : Run Traffic).Sends holds := by
  intro before result after hrun
  obtain ⟨-, rfl⟩ := Run.get_eq_ok.1 hrun
  exact of_silent rfl

theorem validate (validator : Schema.Validator) (payload schema : Json) :
    (Run.validate validator payload schema).Sends holds := by
  intro before result after hrun
  obtain ⟨_, middle, hmodify, hpure⟩ := Run.bind_eq_ok.1 hrun
  obtain rfl := Run.modify_eq_ok.1 hmodify
  obtain ⟨-, rfl⟩ := Run.pure_eq_ok.1 hpure
  exact of_log rfl (by simp)

theorem pervasive (holds : Outgoing → Prop) : Pervasive fun _ run => run.Sends holds :=
  { pure, bind, lift, pause, get, validate }

theorem pass {auth : Auth} {request : Request}
    (hmessage : ∀ message, Outgoing.ofRequest request auth = .ok message → holds message)
    (endpoint : String) (whole : Bool) : (Run.pass auth endpoint request whole).Sends holds := by
  intro before opening after hrun
  obtain ⟨served, -, -, rfl⟩ := Run.pass_eq_ok.1 hrun
  apply of_log rfl
  intro message hsent
  simp only [List.mem_cons, reduceCtorEq, false_or, List.mem_append, List.mem_map, Act.sent.injEq,
    exists_eq_right, and_false, exists_false, or_false, Option.mem_toList] at hsent
  unfold Peer.heard? at hsent
  split at hsent
  · cases houtgoing : Outgoing.ofRequest request auth with
    | error error => simp [houtgoing, Except.toOption] at hsent
    | ok given =>
        rw [houtgoing] at hsent
        obtain rfl := Option.some.inj hsent
        exact hmessage given houtgoing
  · cases hsent

end Run.Sends

namespace Connector

/-- What is configured for the headers of a name: by the credentials, or else by the endpoint, or
else by the connector. -/
inductive Configures (connector : Connector) (endpoint : Endpoint) (name : String) :
    List (String × String) → Prop
  | auth {header value : String} (hauth : connector.definition.auth.SuppliesHeader header value)
      (hname : Text.equalFold header name = true) :
      Configures connector endpoint name [(header, value)]
  | endpoint (hauth : connector.definition.auth.LeavesHeader name)
      (hown : entries endpoint.headers name ≠ []) :
      Configures connector endpoint name (entries endpoint.headers name)
  | connector (hauth : connector.definition.auth.LeavesHeader name)
      (hown : entries endpoint.headers name = []) :
      Configures connector endpoint name (entries connector.definition.headers name)

def configured (connector : Connector) (endpoint : Endpoint) (name : String) :
    List (String × String) :=
  if entries connector.definition.auth.headers name ≠ [] then
    entries connector.definition.auth.headers name
  else if entries endpoint.headers name ≠ [] then entries endpoint.headers name
  else entries connector.definition.headers name

/-- Whether a name is not the one that a resumed stream tells its last event with. -/
def IsOrdinary (resumed : Option String) (name : String) : Prop :=
  resumed ≠ none → Text.equalFold lastEventHeader name = false

/-- What the headers of a request to an endpoint are, of a stream that is resumed from an event if
the id of one is given. -/
structure Heads (connector : Connector) (endpoint : Endpoint) (resumed : Option String)
    (request : Request) : Prop where
  url_eq : request.url = connector.urlOf endpoint.path
  once : ∀ name, IsOrdinary resumed name → (entries request.headers name).length ≤ 1
  kept : ∀ name, IsOrdinary resumed name → connector.configured endpoint name ≠ [] →
    entries request.headers name = connector.configured endpoint name
  authorization_eq : entries request.headers "Authorization" =
    connector.configured endpoint "Authorization"
  resumed_perm : ∀ id, resumed = some id →
    (entries request.headers lastEventHeader).Perm
      ((lastEventHeader, id) :: (connector.configured endpoint lastEventHeader).filter
        fun header => !header.1 == lastEventHeader)

variable {connector : Connector} {name : String} {endpoint : Endpoint} {request : Request}
  {params : Table Json}

theorem prepare_headers (hendpoint : connector.endpoint name = .ok endpoint)
    (hrequest : connector.prepare name params = .ok request) :
    request.url = connector.urlOf endpoint.path ∧
      request.headers = merge (merge connector.definition.headers endpoint.headers)
        connector.definition.auth.headers := by
  rw [prepare, hendpoint] at hrequest
  obtain rfl := Except.ok.inj hrequest
  exact ⟨rfl, rfl⟩

theorem entries_prepare (hendpoint : connector.endpoint name = .ok endpoint)
    (hown : IsUnique endpoint.headers) (hrequest : connector.prepare name params = .ok request)
    (header : String) :
    entries request.headers header = connector.configured endpoint header := by
  rw [(prepare_headers hendpoint hrequest).2, entries_merge _ (Auth.isUnique_headers _),
    entries_merge _ hown, configured, ite_not, ite_not]

theorem configured_of_auth (endpoint : Endpoint) {header value : String}
    (hauth : connector.definition.auth.SuppliesHeader header value)
    (hname : Text.equalFold header name = true) :
    connector.configured endpoint name = [(header, value)] := by
  rw [configured, Auth.entries_headers hauth hname, if_pos (List.cons_ne_nil _ _)]

theorem configures_configured (connector : Connector) (endpoint : Endpoint) (name : String) :
    connector.Configures endpoint name (connector.configured endpoint name) := by
  unfold configured
  split
  · next hsome =>
      rcases connector.definition.auth.headers_cases with hheaders | ⟨header, value, hheaders⟩
      · simp [hheaders, entries] at hsome
      · rw [hheaders, entries_cons] at hsome ⊢
        split at hsome
        · next hname =>
            rw [if_pos hname]
            exact .auth (Auth.headers_eq_singleton_iff.1 hheaders) hname
        · simp [entries] at hsome
  · next hnone =>
      have hleaves := Auth.entries_headers_eq_nil_iff.1 (Classical.not_not.1 hnone)
      split
      · next hown => exact .endpoint hleaves hown
      · next hown => exact .connector hleaves (Classical.not_not.1 hown)

theorem length_configured_le_one (hdefaults : IsUnique connector.definition.headers)
    (hown : IsUnique endpoint.headers) (header : String) :
    (connector.configured endpoint header).length ≤ 1 := by
  unfold configured
  split
  · exact length_entries_le_one (Auth.isUnique_headers _) header
  · split
    · exact length_entries_le_one hown header
    · exact length_entries_le_one hdefaults header

theorem heads_of_prepare (hendpoint : connector.endpoint name = .ok endpoint)
    (hdefaults : IsUnique connector.definition.headers) (hown : IsUnique endpoint.headers)
    (hrequest : connector.prepare name params = .ok request) (body : Option Json) :
    connector.Heads endpoint none { request with body } where
  url_eq := (prepare_headers hendpoint hrequest).1
  once header _ := by
    rw [entries_prepare hendpoint hown hrequest]
    exact length_configured_le_one hdefaults hown header
  kept header _ _ := entries_prepare hendpoint hown hrequest header
  authorization_eq := entries_prepare hendpoint hown hrequest "Authorization"
  resumed_perm id hid := by cases hid

/-- The headers of a stream's request before the one that tells the last event. -/
def streamHeaders (plain : Request) : Table String :=
  putIfAbsent (putIfAbsent plain.headers "Accept" "text/event-stream") "Cache-Control" "no-cache"

theorem prepareStream_headers {lastEventId : Option String}
    (hrequest : connector.prepareStream name params lastEventId = .ok request) :
    ∃ plain, connector.prepare name params = .ok plain ∧ request.url = plain.url ∧
      request.headers = match lastEventId.filter fun id => !id.isEmpty with
        | some id => (streamHeaders plain).put lastEventHeader id
        | none => streamHeaders plain := by
  unfold prepareStream at hrequest
  cases hplain : connector.prepare name params with
  | error error =>
      rw [hplain] at hrequest
      cases hrequest
  | ok plain =>
      rw [hplain] at hrequest
      obtain rfl := Except.ok.inj hrequest
      exact ⟨plain, rfl, rfl, rfl⟩

theorem entries_streamHeaders {plain : Request} {header : String}
    (hkeep : entries plain.headers header ≠ [] ∨ Text.equalFold "Accept" header = false ∧
      Text.equalFold "Cache-Control" header = false) :
    entries (streamHeaders plain) header = entries plain.headers header := by
  unfold streamHeaders
  rw [entries_putIfAbsent, entries_putIfAbsent]
  rcases hkeep with hkeep | ⟨haccept, hcontrol⟩
  · simp [hkeep]
  · simp [haccept, hcontrol]

theorem heads_of_prepareStream {lastEventId : Option String}
    (hendpoint : connector.endpoint name = .ok endpoint)
    (hordered : connector.definition.headers.IsOrdered)
    (hdefaults : IsUnique connector.definition.headers) (hown : IsUnique endpoint.headers)
    (hrequest : connector.prepareStream name params lastEventId = .ok request) :
    connector.Heads endpoint (lastEventId.filter fun id => !id.isEmpty) request := by
  obtain ⟨plain, hplain, hurl, hheaders⟩ := prepareStream_headers hrequest
  have hentries := entries_prepare hendpoint hown hplain
  have hkept : ∀ header, connector.configured endpoint header ≠ [] ∨
      (Text.equalFold "Accept" header = false ∧ Text.equalFold "Cache-Control" header = false) →
      entries (streamHeaders plain) header = connector.configured endpoint header := by
    intro header hkeep
    rw [← hentries] at hkeep ⊢
    exact entries_streamHeaders hkeep
  have hstream : ∀ header, IsOrdinary (lastEventId.filter fun id => !id.isEmpty) header →
      entries request.headers header = entries (streamHeaders plain) header := by
    intro header hordinary
    rw [hheaders]
    cases hresumed : lastEventId.filter fun id => !id.isEmpty with
    | none => rfl
    | some id =>
        rw [hresumed] at hordinary
        exact Table.filter_put_of_not (fun key => Text.equalFold key header) lastEventHeader
          (hordinary (by simp)) id _
  constructor
  · rw [hurl, (prepare_headers hendpoint hplain).1]
  · intro header hordinary
    rw [hstream header hordinary]
    apply length_entries_putIfAbsent
    apply length_entries_putIfAbsent
    rw [hentries]
    exact length_configured_le_one hdefaults hown header
  · intro header hordinary hconfigured
    rw [hstream header hordinary, hkept header (.inl hconfigured)]
  · have hordinary : IsOrdinary (lastEventId.filter fun id => !id.isEmpty) "Authorization" :=
      fun _ => by decide +kernel
    rw [hstream _ hordinary]
    exact hkept _ (.inr (by decide +kernel))
  · intro id hid
    rw [hid] at hheaders
    have hplainOrdered : plain.headers.IsOrdered := by
      rw [(prepare_headers hendpoint hplain).2]
      exact isOrdered_merge (isOrdered_merge hordered _) _
    have hput := entries_tablePut_perm (isOrdered_putIfAbsent (isOrdered_putIfAbsent hplainOrdered
      "Accept" "text/event-stream") "Cache-Control" "no-cache")
      (Text.equalFold_refl lastEventHeader) id
    rw [hheaders, ← hkept lastEventHeader (.inr (by decide +kernel))]
    exact hput

/-- Credentials that stand in the URL of an endpoint. -/
def userValues (connector : Connector) (endpoint : Endpoint) : List String :=
  (Request.userValue? (.get (connector.urlOf endpoint.path))).toList

/-- What the headers of a message to an endpoint are, of a stream that is resumed from an event if
the id of one is given. -/
structure Carries (connector : Connector) (endpoint : Endpoint) (resumed : Option String)
    (message : Outgoing) : Prop where
  /-- No other header than that of the credentials occurs twice. -/
  once : ∀ name, IsOrdinary resumed name → Text.equalFold "Authorization" name = false →
    (values message.headers name).length ≤ 1
  /-- What is configured stands beside the credentials in the URL. -/
  authorization_eq : (∀ username password, connector.definition.auth ≠ .basic username password) →
    ∃ headers, connector.Configures endpoint "Authorization" headers ∧
      values message.headers "Authorization" =
        connector.userValues endpoint ++ headers.map Prod.snd
  /-- Basic credentials stand beside the others of their name. -/
  basic_eq : ∀ username password, connector.definition.auth = .basic username password →
    ∃ headers, connector.Configures endpoint "Authorization" headers ∧
      values message.headers "Authorization" =
        connector.userValues endpoint ++ headers.map Prod.snd ++
          [Auth.basicValue username password]
  /-- A token or a key is the one value of its header, unless there are credentials in the URL. -/
  credential_eq : ∀ header value, connector.definition.auth.SuppliesHeader header value →
    IsOrdinary resumed header → values message.headers header =
      (if Text.equalFold "Authorization" header then connector.userValues endpoint else []) ++
        [value]
  /-- The last event stands beside what is configured under another spelling. -/
  resumed_perm : ∀ id, resumed = some id →
    ∃ headers, connector.Configures endpoint lastEventHeader headers ∧
      (values message.headers lastEventHeader).Perm
        (id :: (headers.filter fun header => !header.1 == lastEventHeader).map Prod.snd)

theorem userValues_eq (hurl : request.url = connector.urlOf endpoint.path) :
    request.userValue?.toList = connector.userValues endpoint := by
  rw [userValues, Request.userValue?, hurl]
  rfl

theorem Heads.values_asked {resumed : Option String} (h : connector.Heads endpoint resumed request)
    (header : String) :
    values (Outgoing.asked request connector.definition.auth) header =
      (if Text.equalFold "Authorization" header then connector.userValues endpoint else []) ++
        values request.headers header ++
        if Text.equalFold "Authorization" header then connector.definition.auth.basicHeader?.toList
        else [] := by
  have hname : Text.equalFold "authorization" header = Text.equalFold "Authorization" header :=
    Text.equalFold_congr (by decide +kernel) header
  rw [Outgoing.values_asked, hname, userValues_eq h.url_eq]

theorem Heads.values_authorization {resumed : Option String}
    (h : connector.Heads endpoint resumed request) {message : Outgoing}
    (hmessage : Outgoing.ofRequest request connector.definition.auth = .ok message) :
    values message.headers "Authorization" = connector.userValues endpoint ++
      (connector.configured endpoint "Authorization").map Prod.snd ++
      connector.definition.auth.basicHeader?.toList := by
  have hdefault : values request.defaults "Authorization" = [] := by
    unfold Request.defaults
    split <;> decide +kernel
  rw [Outgoing.values_of_asked hmessage (.inr hdefault), h.values_asked, values, h.authorization_eq]
  rfl

theorem Heads.values_resumed {resumed : Option String}
    (h : connector.Heads endpoint resumed request) {message : Outgoing}
    (hmessage : Outgoing.ofRequest request connector.definition.auth = .ok message) {id : String}
    (hid : resumed = some id) :
    (values message.headers lastEventHeader).Perm
      (id :: ((connector.configured endpoint lastEventHeader).filter fun header =>
        !header.1 == lastEventHeader).map Prod.snd) := by
  have hname : Text.equalFold "Authorization" lastEventHeader = false := by decide +kernel
  have hperm := (h.resumed_perm id hid).map Prod.snd
  have hasked : values (Outgoing.asked request connector.definition.auth) lastEventHeader =
      values request.headers lastEventHeader := by
    simp [h.values_asked, hname]
  have hsome : values (Outgoing.asked request connector.definition.auth) lastEventHeader ≠ [] := by
    intro hnone
    rw [← values, ← hasked, hnone] at hperm
    exact List.cons_ne_nil _ _ hperm.nil_eq.symm
  rw [Outgoing.values_of_asked hmessage (.inl hsome), hasked]
  exact hperm

theorem Heads.carries {resumed : Option String} (h : connector.Heads endpoint resumed request)
    {message : Outgoing}
    (hmessage : Outgoing.ofRequest request connector.definition.auth = .ok message) :
    connector.Carries endpoint resumed message := by
  have hauthorization := h.values_authorization hmessage
  constructor
  · intro header hordinary hname
    apply Outgoing.length_values_le_one hmessage
    rw [h.values_asked, hname]
    simpa [values] using h.once header hordinary
  · intro hbasic
    refine ⟨_, connector.configures_configured endpoint "Authorization", ?_⟩
    rw [hauthorization, Auth.basicHeader?_eq_none_iff.2 hbasic, Option.toList_none, List.append_nil]
  · intro username password hbasic
    refine ⟨_, connector.configures_configured endpoint "Authorization", ?_⟩
    rw [hauthorization, hbasic]
    rfl
  · intro header value hsupplies hordinary
    have hbasic : connector.definition.auth.basicHeader? = none :=
      Auth.basicHeader?_eq_none_iff.2 hsupplies.ne_basic
    have hconfigured := configured_of_auth endpoint hsupplies (Text.equalFold_refl header)
    have hown : values request.headers header = [value] := by
      rw [values, h.kept header hordinary (by simp [hconfigured]), hconfigured]
      rfl
    have hvalues := h.values_asked header
    rw [hown, hbasic, Option.toList_none, ite_self, List.append_nil] at hvalues
    rw [Outgoing.values_of_asked hmessage (.inl (by simp [hvalues])), hvalues]
  · intro id hid
    exact ⟨_, connector.configures_configured endpoint lastEventHeader,
      h.values_resumed hmessage hid⟩

/-- The headers of all messages of a connector whose tables of headers hold each name once. In the
messages for a fetch and the pages after it, for sending, and for streams, no header occurs twice
but that of the credentials, and that of the last event where another spelling of it is
configured. -/
theorem carries_of_calls (hendpoint : connector.endpoint name = .ok endpoint)
    (hordered : connector.definition.headers.IsOrdered)
    (hdefaults : IsUnique connector.definition.headers) (hown : IsUnique endpoint.headers) :
    (∀ params, (connector.fetch name params).run.Sends (connector.Carries endpoint none)) ∧
      (∀ value, (connector.send name value).run.Sends (connector.Carries endpoint none)) ∧
      ∀ session : Session, session.endpoint = name →
        (session.step connector).Sends
          (connector.Carries endpoint (session.lastEventId.filter fun id => !id.isEmpty)) := by
  have hpervasive : ∀ holds, Run.Pervasive fun _ run => run.Sends holds := Run.Sends.pervasive
  refine ⟨fun params => ?_, fun value => ?_, fun session hsession => ?_⟩
  · apply (hpervasive _).fetch
    intro params request hrequest
    have hheads := heads_of_prepare hendpoint hdefaults hown hrequest request.body
    exact .pass (fun message hmessage => hheads.carries hmessage) _ _
  · apply (hpervasive _).send
    intro request body hrequest
    have hheads := heads_of_prepare hendpoint hdefaults hown hrequest body
    exact .pass (fun message hmessage => hheads.carries hmessage) _ _
  · subst hsession
    apply (hpervasive _).step
    intro request hrequest
    have hheads := heads_of_prepareStream hendpoint hordered hdefaults hown hrequest
    exact .pass (fun message hmessage => hheads.carries hmessage) _ _

/-- A connector with some credentials, a header of its own, and an endpoint without any. -/
def withHeader (auth : Auth) (name value : String) : Connector where
  definition :=
    { ((Definition.new "rest" "http://h").withEndpoint "events" (.new "/")).withHeader name value
      with auth }
  validator := none

theorem exists_message {α : Type} {run : Run α} {before : Traffic} {test : Outgoing → Bool}
    (htest : (run before).toOption.any (fun state => state.2.sent.map test == [true]) = true) :
    ∃ result after message, run before = .ok (result, after) ∧ after.sent = [message] ∧
      test message = true := by
  obtain ⟨result, after, hrun, hsent⟩ := Run.exists_of_any htest
  obtain ⟨message, hmessage, hmessageTest⟩ := List.map_eq_singleton_iff.1 (eq_of_beq hsent)
  exact ⟨result, after, message, hrun, hmessage, hmessageTest⟩

/-- A stream that is resumed with a token, which takes the place of what is configured. -/
theorem carries_of_calls_sample :
    let connector := withHeader (.bearer "t") "authorization" "x"
    let session := { Session.start "events" [] .sample with lastEventId := some "5" }
    ∃ result after message,
      session.step connector (Traffic.sample [.hangUp]) = .ok (result, after) ∧
      after.sent = [message] ∧ connector.Carries (.new "/") (some "5") message ∧
      values message.headers "AUTHORIZATION" = ["Bearer t"] ∧
      values message.headers "last-event-id" = ["5"] := by
  intro connector session
  have htest : (session.step connector (Traffic.sample [.hangUp])).toOption.any (fun state =>
      state.2.sent.map (fun message => values message.headers "AUTHORIZATION" == ["Bearer t"] &&
        values message.headers "last-event-id" == ["5"]) == [true]) = true := by decide +kernel
  obtain ⟨result, after, message, hrun, hmessage, hvalues⟩ := exists_message htest
  obtain ⟨messages, hsent, hcarries⟩ :=
    (carries_of_calls (show connector.endpoint "events" = .ok (.new "/") from rfl)
      (by decide +kernel) (by decide +kernel) (by decide +kernel)).2.2 session rfl _ _ _ hrun
  obtain rfl : [message] = messages := hmessage.symm.trans hsent
  rw [Bool.and_eq_true] at hvalues
  exact ⟨result, after, message, hrun, hmessage, hcarries message List.mem_cons_self,
    eq_of_beq hvalues.1, eq_of_beq hvalues.2⟩

/-- Two requests with a header that occurs twice, although every table holds each name once: basic
credentials go out beside what is configured in their place, and the last event beside another
spelling of its name. -/
theorem repeated_headers :
    let keyed := withHeader (.basic "u" "p") "Authorization" "x"
    let resumed := withHeader .none "last-event-id" "0"
    let session := { Session.start "events" [] .sample with lastEventId := some "5" }
    (IsUnique keyed.definition.headers ∧ IsUnique resumed.definition.headers) ∧
      (∃ result after message,
        (keyed.fetch "events" none).run (Traffic.sample [.sample [] .complete]) =
          .ok (result, after) ∧
        after.sent = [message] ∧ values message.headers "authorization" = ["x", "Basic dTpw"]) ∧
      ∃ result after message,
        session.step resumed (Traffic.sample [.hangUp]) = .ok (result, after) ∧
        after.sent = [message] ∧ values message.headers "last-event-id" = ["5", "0"] := by
  intro keyed resumed session
  have hkeyed : ((keyed.fetch "events" none).run
      (Traffic.sample [.sample [] .complete])).toOption.any
      (fun state => state.2.sent.map (fun message =>
        values message.headers "authorization" == ["x", "Basic dTpw"]) == [true]) = true := by
    decide +kernel
  have hresumed : (session.step resumed (Traffic.sample [.hangUp])).toOption.any
      (fun state => state.2.sent.map (fun message =>
        values message.headers "last-event-id" == ["5", "0"]) == [true]) = true := by
    decide +kernel
  obtain ⟨result, after, message, hrun, hmessage, hvalues⟩ := exists_message hkeyed
  obtain ⟨next, met, told, hstep, htold, htwice⟩ := exists_message hresumed
  exact ⟨by decide +kernel, ⟨result, after, message, hrun, hmessage, eq_of_beq hvalues⟩,
    next, met, told, hstep, htold, eq_of_beq htwice⟩

end Connector

end ApiBridge
