import ApiBridge.Proofs.Connector.Failure
import ApiBridge.Proofs.Connector.Reconnect

namespace ApiBridge

open EventStream

namespace Session

variable {connector : Connector} {session next : Session} {before after : Traffic}
  {error cause : Error}

/-- How a session loses a body that it is reading. -/
inductive Loses (session : Session) (connection : Connection) : Error → Prop
  | overlong {chunk : List UInt8} {incoming : Http.Incoming} {error : Error} {buffer : LineBuffer}
      (hnext : connection.incoming.next = .chunk chunk incoming)
      (hpush : connection.lines.push chunk = (.error error, buffer)) :
      Loses session connection error
  | broken (hnext : connection.incoming.next = .broken) :
      Loses session connection (.transport (.brokenBody false))
  | stalled (hnext : connection.incoming.next = .nothing) :
      Loses session connection session.timeoutError

/-- How a step of a session fails: there is no endpoint, or its request does not open a body, or the
body is lost. -/
inductive Fails (connector : Connector) (session : Session) (before : Traffic) : Error → Prop
  | unknown {error : Error} (hphase : session.phase = .connecting)
      (herror : connector.IsUnknown session.endpoint error) : Fails connector session before error
  | refused {request : Http.Request} {cause : Error} (hphase : session.phase = .connecting)
      (hrequest : connector.prepareStream session.endpoint session.params session.lastEventId =
        .ok request)
      (hcause : session.connection (before.peer.opening connector.definition.auth request).1 =
        .error cause) :
      Fails connector session before (.api (report { session with request := some request } cause))
  | lost {connection : Connection} {cause : Error} (hphase : session.phase = .streaming connection)
      (hloses : session.Loses connection cause) :
      Fails connector session before (.api (session.report cause))

theorem eq_of_recover
    (hrun : session.recover cause before = .ok ((next, some (.failed error)), after)) :
    error = .api (session.report cause) := by
  have hdeparture := recover_departure hrun
  generalize hpull : some (Pull.failed error) = pull at hdeparture
  cases hdeparture with
  | again hallows => cases hpull
  | stop hallows => exact Pull.failed.inj (Option.some.inj hpull)

theorem fails_of_connect (hphase : session.phase = .connecting)
    (hrun : session.connect connector before = .ok ((next, some (.failed error)), after)) :
    session.Fails connector before error := by
  unfold connect at hrun
  cases hrequest :
      connector.prepareStream session.endpoint session.params session.lastEventId with
  | error unknown =>
      obtain ⟨hendpoint, hconfig⟩ := Connector.prepareStream_eq_error hrequest
      simp only [hrequest, hconfig, if_true] at hrun
      obtain ⟨-, hpull, -⟩ := Run.pure_pair_eq_ok.1 hrun
      obtain rfl := Pull.failed.inj (Option.some.inj hpull)
      exact .unknown hphase ⟨hconfig, hendpoint⟩
  | ok request =>
      simp only [hrequest, openConnection_run] at hrun
      obtain ⟨result, passed, hopen, hrun⟩ := Run.bind_eq_ok.1 hrun
      obtain ⟨opening, middle, hpass, hresult⟩ := Run.bind_eq_ok.1 hopen
      obtain ⟨served, -, rfl, -⟩ := Run.pass_eq_ok.1 hpass
      obtain ⟨hresult, -⟩ := Run.pure_eq_ok.1 hresult
      cases result with
      | ok connection => cases (Run.pure_pair_eq_ok.1 hrun).2.1
      | error cause =>
          rcases session.connection_cases
              (before.peer.opening connector.definition.auth request).1 with
            ⟨incoming, -, hopened⟩ | ⟨refusal, -, hrefused, hconfig⟩
          · cases hopened.symm.trans hresult
          · obtain rfl := Except.error.inj (hrefused.symm.trans hresult)
            simp only [hconfig] at hrun
            obtain rfl := eq_of_recover hrun
            exact .refused hphase hrequest hrefused

theorem fails_of_read {connection : Connection} (hphase : session.phase = .streaming connection)
    (hrun : session.read connection before = .ok ((next, some (.failed error)), after)) :
    session.Fails connector before error := by
  unfold read at hrun
  cases hnext : connection.incoming.next with
  | chunk chunk incoming =>
      simp only [hnext] at hrun
      unfold takeChunk at hrun
      cases hpush : connection.lines.push chunk with
      | mk outcome buffer =>
          simp only [hpush] at hrun
          cases outcome with
          | error cause =>
              obtain rfl := eq_of_recover hrun
              exact .lost hphase (.overlong hnext hpush)
          | ok lines =>
              dsimp only at hrun
              split at hrun <;> cases (Run.pure_pair_eq_ok.1 hrun).2.1
  | finished =>
      simp only [hnext] at hrun
      obtain ⟨_, _, -, hpure⟩ := Run.bind_eq_ok.1 hrun
      cases (Run.pure_pair_eq_ok.1 hpure).2.1
  | broken =>
      simp only [hnext] at hrun
      obtain rfl := eq_of_recover hrun
      exact .lost hphase (.broken hnext)
  | nothing =>
      simp only [hnext] at hrun
      obtain rfl := eq_of_recover hrun
      exact .lost hphase (.stalled hnext)

theorem fails_of_step
    (hrun : session.step connector before = .ok ((next, some (.failed error)), after)) :
    session.ready = [] ∧ session.Fails connector before error := by
  unfold step at hrun
  cases hready : session.ready with
  | cons event rest =>
      rw [hready] at hrun
      cases (Run.pure_pair_eq_ok.1 hrun).2.1
  | nil =>
      rw [hready] at hrun
      refine ⟨rfl, ?_⟩
      cases hphase : session.phase with
      | done =>
          rw [hphase] at hrun
          cases (Run.pure_pair_eq_ok.1 hrun).2.1
      | connecting =>
          rw [hphase] at hrun
          exact fails_of_connect hphase hrun
      | streaming connection =>
          rw [hphase] at hrun
          exact fails_of_read hphase hrun

end Session

theorem Session.errorBody_eq (incoming : Http.Incoming) :
    errorBody incoming =
      if incoming.ending = .complete then Utf8.lossy incoming.chunks.flatten else "" := by
  unfold errorBody Http.Incoming.all
  cases incoming.ending <;> rfl

namespace Run.Opening

/-- How a contact of a stream fails, given what its request opens: with its cause, and the text that
the request has been refused with, as far as that came whole and in time. -/
inductive FailsStream (options : StreamOptions) : Opening → Error → Option String → Prop
  | failed (error : TransportError) : FailsStream options (.failed error) (.transport error) none
  | silent (url : String) :
      FailsStream options (.silent url) (.timeout options.readTimeout.millis) none
  | refused {answer : Http.Opened} {text : String}
      (hstatus : ¬ (200 ≤ answer.status ∧ answer.status < 300))
      (htext : text = if answer.incoming.ending = .complete then
        Utf8.lossy answer.incoming.chunks.flatten else "") :
      FailsStream options (.opened answer) (.ofStatus answer.status text) (some text)
  | overlong {answer : Http.Opened} {size : Nat}
      (hstatus : 200 ≤ answer.status ∧ answer.status < 300)
      (hheard : answer.incoming.isHeard = false) (hsize : maxLineBytes < size) :
      FailsStream options (.opened answer) (.lineOverflow size maxLineBytes) none
  | broken {answer : Http.Opened} (hstatus : 200 ≤ answer.status ∧ answer.status < 300)
      (hheard : answer.incoming.isHeard = true) (hending : answer.incoming.ending = .cut) :
      FailsStream options (.opened answer) (.transport (.brokenBody false)) none
  | stalled {answer : Http.Opened} (hstatus : 200 ≤ answer.status ∧ answer.status < 300)
      (hheard : answer.incoming.isHeard = true) (hending : answer.incoming.ending = .stalled) :
      FailsStream options (.opened answer) (.timeout options.readTimeout.millis) none

variable {options : StreamOptions} {opening : Opening} {cause : Error} {refusal : Option String}

theorem FailsStream.responseBody?_eq (h : FailsStream options opening cause refusal) :
    cause.responseBody? = refusal.map truncateBody := by
  cases h <;> rfl

theorem failsStream_of_connection {session : Session}
    (hcause : session.connection opening = .error cause) :
    ∃ refusal, FailsStream session.options opening cause refusal := by
  cases opening with
  | failed error =>
      obtain rfl := Except.error.inj hcause
      exact ⟨none, .failed error⟩
  | silent url =>
      obtain rfl := Except.error.inj hcause
      exact ⟨none, .silent url⟩
  | opened answer =>
      unfold Session.connection at hcause
      dsimp only at hcause
      split at hcause
      · cases hcause
      · next hstatus =>
          obtain rfl := Except.error.inj hcause
          exact ⟨_, .refused hstatus (Session.errorBody_eq answer.incoming)⟩

theorem failsStream_of_loses {session : Session} {connection : Connection} {seen : List UInt8}
    {incoming : Http.Incoming} (hincoming : opening.incoming? = some incoming)
    (hreading : Reading incoming seen connection) (hloses : session.Loses connection cause) :
    FailsStream session.options opening cause none := by
  obtain ⟨answer, rfl, hstatus, rfl⟩ : ∃ answer, opening = .opened answer ∧
      (200 ≤ answer.status ∧ answer.status < 300) ∧ answer.incoming = incoming := by
    cases opening with
    | opened answer =>
        obtain ⟨hstatus, hbody⟩ := Option.ite_none_right_eq_some.1 hincoming
        exact ⟨answer, rfl, hstatus, Option.some.inj hbody⟩
    | _ => cases hincoming
  cases hloses with
  | overlong hnext hpush =>
      obtain ⟨hlong, rfl⟩ := hreading.overlong_of_error hpush
      exact .overlong hstatus (hreading.isHeard_of_error hnext hpush) hlong
  | broken hnext =>
      obtain ⟨hchunks, hending⟩ := Http.Incoming.next_eq_broken hnext
      exact .broken hstatus (hreading.isHeard hchunks) (hreading.ending_eq.trans hending)
  | stalled hnext =>
      obtain ⟨hchunks, hending⟩ := Http.Incoming.next_eq_nothing hnext
      exact .stalled hstatus (hreading.isHeard hchunks) (hreading.ending_eq.trans hending)

end Run.Opening

namespace Session

variable {connector : Connector} {session next : Session} {before after : Traffic}
  {pull : Option Pull} {more : List Contact}

theorem Departure.request_eq {failure : Option Error}
    (h : Departure session before failure next pull after) : next.request = session.request := by
  cases h <;> rfl

theorem Transition.request_eq (h : Transition connector session before next pull more after) :
    next.request = (more.getLast?.map Contact.request).or session.request := by
  cases h with
  | give hready => rfl
  | ended hready hphase => rfl
  | misconfigured hready hphase hrequest => rfl
  | opened hready hphase hrequest hattempt => rfl
  | refused hready hphase hrequest hattempt hdeparture => exact hdeparture.request_eq
  | read hready hphase hnext hpush htake =>
      obtain ⟨blocks, rfl, -⟩ := takeLines_eq htake
      rfl
  | filled hready hphase hnext hpush htake =>
      obtain ⟨blocks, rfl, -⟩ := takeLines_eq htake
      rfl
  | lost hready hphase hlost hdeparture => exact hdeparture.request_eq
  | completed hready hphase hnext hlast hfull =>
      rw [hlast, takeBlock_eq]
      rfl
  | closed hready hphase hnext hlast hfull hdeparture =>
      rw [hdeparture.request_eq, hlast, takeBlock_eq]
      rfl

theorem Transition.contacts_of_request
    (h : Transition connector session before next pull more after) (hready : session.ready = [])
    (hphase : session.phase = .connecting) {request : Http.Request}
    (hrequest : connector.prepareStream session.endpoint session.params session.lastEventId =
      .ok request) : ∃ incoming, more = [{ request, incoming }] := by
  cases h with
  | give hgiven => cases hgiven.symm.trans hready
  | misconfigured _ _ herror => cases herror.symm.trans hrequest
  | opened _ _ hmade =>
      obtain rfl := Except.ok.inj (hmade.symm.trans hrequest)
      exact ⟨_, rfl⟩
  | refused _ _ hmade =>
      obtain rfl := Except.ok.inj (hmade.symm.trans hrequest)
      exact ⟨_, rfl⟩
  | ended _ hother => cases hother.symm.trans hphase
  | read _ hother => cases hother.symm.trans hphase
  | filled _ hother => cases hother.symm.trans hphase
  | lost _ hother => cases hother.symm.trans hphase
  | completed _ hother => cases hother.symm.trans hphase
  | closed _ hother => cases hother.symm.trans hphase

end Session

/-- The report of a stream on what has become of a request. -/
def streamReport (name : String) (request : Http.Request) (cause : Error) : ApiError :=
  ((ApiError.ofError ("Failed to stream SSE from " ++ name ++ ": " ++ cause.message)
    cause).withContext "endpoint" (.string name)).withRequest request.url request.method.name

theorem Session.report_eq {session : Session} {request : Http.Request}
    (hrequest : session.request = some request) (cause : Error) :
    session.report cause = streamReport session.endpoint request cause := by
  unfold report
  rw [hrequest]
  rfl

theorem describes_streamReport {name : String} {request : Http.Request} {cause : Error}
    {refusal : Option String} (hbody : cause.responseBody? = refusal.map truncateBody) :
    (streamReport name request cause).Describes name request cause refusal where
  category_eq := rfl
  url_eq := rfl
  method_eq := rfl
  body_eq := ApiError.responseBody_ofError hbody
    ("Failed to stream SSE from " ++ name ++ ": " ++ cause.message)
  endpoint_eq := Table.find?_put _ _ _

/-- How a stream fails after some contacts with the other side: because of an endpoint that there is
not, or with the report on its last contact. -/
inductive FailedStream (connector : Connector) (name : String) (params : Table Json)
    (options : StreamOptions) (peer : Http.Peer) : List Contact → Error → Prop
  | unknown {error : Error} (herror : connector.IsUnknown name error) :
      FailedStream connector name params options peer [] error
  | contact {past : List Contact} {request : Http.Request} {incoming : Option Http.Incoming}
      {cause : Error} {refusal : Option String}
      (hrequest : connector.prepareStream name params
        (Block.lastId? (past.flatMap Contact.heardBlocks)) = .ok request)
      (hfails : Run.Opening.FailsStream options
        ((peer.afterContacts connector.definition.auth past).opening
          connector.definition.auth request).1 cause refusal)
      (hreport : (streamReport name request cause).Describes name request cause refusal) :
      FailedStream connector name params options peer (past ++ [Contact.mk request incoming])
        (.api (streamReport name request cause))

theorem FailedStream.isStructured {connector : Connector} {name : String} {params : Table Json}
    {options : StreamOptions} {peer : Http.Peer} {contacts : List Contact} {error : Error}
    (h : FailedStream connector name params options peer contacts error) : error.IsStructured := by
  cases h with
  | unknown herror => exact .inl herror.1
  | contact => exact .inr ⟨_, rfl⟩

variable {connector : Connector} {name : String} {params : Table Json} {options : StreamOptions}
  {start traffic after : Traffic} {contacts : List Contact} {taken : List Block}
  {pulls : List Pull} {session next : Session} {error : Error}

theorem Course.request_eq
    (h : Course connector (.start name params options) start contacts pulls session traffic) :
    session.request = contacts.getLast?.map Contact.request := by
  induction h with
  | nil => rfl
  | step hcourse hstep ih =>
      rw [(Session.step_transition hstep).request_eq, ih, List.getLast?_append]
      cases (Session.newContacts _ _ _).getLast? <;> rfl

theorem Progress.failedStream_of_loses {connection : Connection} {cause : Error}
    (h : Progress connector (.start name params options) start contacts taken pulls session traffic)
    (hrequest : session.request = contacts.getLast?.map Contact.request)
    (hphase : session.phase = .streaming connection) (hloses : session.Loses connection cause) :
    FailedStream connector name params options start.peer contacts
      (.api (session.report cause)) := by
  obtain ⟨past, request, incoming, seen, rfl, -, -, -, hreading⟩ := h.of_streaming hphase
  obtain ⟨-, hprepared, hincoming⟩ := h.history.of_append_cons
  rw [Http.Peer.meet_eq] at hincoming
  have hfails := Run.Opening.failsStream_of_loses hincoming.symm hreading hloses
  rw [List.getLast?_append, List.getLast?_singleton] at hrequest
  rw [h.tally.options_eq] at hfails
  rw [Session.report_eq hrequest, h.tally.endpoint_eq]
  exact .contact hprepared hfails (describes_streamReport hfails.responseBody?_eq)

theorem Progress.failedStream_of_fails {pull : Option Pull} {more : List Contact}
    (h : Progress connector (.start name params options) start contacts taken pulls session traffic)
    (hrequest : session.request = contacts.getLast?.map Contact.request)
    (hready : session.ready = []) (hfails : session.Fails connector traffic error)
    (htransition : session.Transition connector traffic next pull more after) :
    FailedStream connector name params options start.peer (contacts ++ more) error := by
  cases hfails with
  | unknown hphase herror =>
      obtain ⟨read, hafter⟩ := h.step htransition
      rw [h.tally.endpoint_eq] at herror
      rw [hafter.history.eq_nil_of_endpoint herror.2]
      exact .unknown herror
  | @refused request cause hphase hprepared hcause =>
      obtain ⟨incoming, rfl⟩ := htransition.contacts_of_request hready hphase hprepared
      rw [h.peer_eq] at hcause
      obtain ⟨refusal, hfails⟩ := Run.Opening.failsStream_of_connection hcause
      rw [h.tally.options_eq] at hfails
      rw [h.tally.endpoint_eq, h.tally.params_eq, h.tally.lastEventId_eq,
        (h.of_connecting hphase).1] at hprepared
      rw [Session.report_eq (rfl : Session.request { session with request := some request } = _)]
      change FailedStream _ _ _ _ _ _ (.api (streamReport session.endpoint request cause))
      rw [h.tally.endpoint_eq]
      exact .contact hprepared hfails (describes_streamReport hfails.responseBody?_eq)
  | lost hphase hloses =>
      have hnone : more = [] := by
        rcases htransition.contacts_cases with hnone | ⟨contact, -, -, hconnecting⟩
        · exact hnone
        · cases hphase.symm.trans hconnecting
      rw [hnone, List.append_nil]
      exact h.failedStream_of_loses hrequest hphase hloses

/-- Every failure that a stream gives is that of its last contact. -/
theorem Course.failedStream
    (h : Course connector (.start name params options) start contacts pulls session traffic)
    (herror : .failed error ∈ pulls) :
    FailedStream connector name params options start.peer contacts error := by
  induction h with
  | nil => cases herror
  | step hcourse hstep ih =>
      rcases List.mem_append.1 herror with hearlier | hnow
      · have hdone := hcourse.phase_of_last ⟨_, hearlier, rfl⟩
        have hnone := (of_done (Course.nil.step hstep) hdone).2.1
        rw [List.nil_append] at hnone
        rw [hnone, List.append_nil]
        exact ih hearlier
      · rw [Option.mem_toList] at hnow
        obtain rfl := hnow
        obtain ⟨taken, hprogress⟩ := hcourse.progress
        obtain ⟨hready, hfails⟩ := Session.fails_of_step hstep
        exact hprogress.failedStream_of_fails hcourse.request_eq hready hfails
          (Session.step_transition hstep)

namespace Connector

/-- How calls and streams fail. Every error is the fault of the configuration, which has no such
endpoint, or it is a report. One that comes from requests is the report on the last of them. It has
the category and the status of what has gone wrong with that one, its URL and its method, the name
of the endpoint, and the first thousand characters of the text that the other side has refused it
with, if it has; nothing else that has happened before is in it. Each failure in the report of a
batch tells the same of the one request for its item. -/
theorem failures_told (connector : Connector) (name : String) (before : Traffic) :
    (∀ params error after, (connector.fetch name params).run before = .ok (.error error, after) →
      error.IsStructured ∧
        ((connector.IsUnknown name error ∧ after = before) ∨
          ∃ request, connector.prepare name (params.getD []) = .ok request ∧
            connector.Failed name request bodyValue (fetchReport name params request) before error
              after)) ∧
      (∀ value result after, (connector.send name value).run before = .ok (result, after) →
        (∀ error, result = .error error →
          error.IsStructured ∧ connector.Unsent name value before error after) ∧
        ∀ report, result = .ok (.batch report) →
          connector.IsBatch name value before report after) ∧
      ∀ params options contacts pulls session after,
        Course connector (.start name params options) before contacts pulls session after →
        ∀ error, .failed error ∈ pulls →
          error.IsStructured ∧
            FailedStream connector name params options before.peer contacts error := by
  refine ⟨?_, ?_, ?_⟩
  · intro params error after hrun
    have hcases := fetch_eq_error hrun
    refine ⟨?_, hcases⟩
    rcases hcases with ⟨hunknown, -⟩ | ⟨request, -, hfailed⟩
    · exact .inl hunknown.1
    · exact hfailed.isStructured
  · intro value result after hrun
    obtain ⟨herrors, hbatches⟩ := send_ends hrun
    refine ⟨?_, hbatches⟩
    intro error herror
    exact ⟨(herrors error herror).isStructured, herrors error herror⟩
  · intro params options contacts pulls session after hcourse error herror
    have hfailed := hcourse.failedStream herror
    exact ⟨hfailed.isStructured, hfailed⟩

/-- Fetching from a server that fails, hangs up, and then has nothing there. -/
theorem failures_told_sample :
    let start := Traffic.sample [
      .answer { status := 500, headers := [], chunks := [Utf8.encode "a"], ending := .complete },
      .hangUp,
      .answer { status := 404, headers := [], chunks := [Utf8.encode "b"], ending := .complete }]
    ∃ error after request,
      (Connector.sample.fetch "events" none).run start = .ok (.error error, after) ∧
      Connector.sample.Failed "events" request bodyValue (fetchReport "events" none request) start
        error after ∧
      error.categorize = (.client, some 404) ∧ error.responseBody? = some "b" := by
  intro start
  have htest : ((Connector.sample.fetch "events" none).run start).toOption.any (fun state =>
      match state.1 with
      | .error error => error.categorize == (.client, some 404) && error.responseBody? == some "b"
      | .ok _ => false) = true := by decide +kernel
  obtain ⟨result, after, hrun, htold⟩ := Run.exists_of_any htest
  cases result with
  | ok data => cases htold
  | error error =>
      obtain ⟨-, ⟨⟨-, hunknown⟩, -⟩ | ⟨request, -, hfailed⟩⟩ :=
        (failures_told .sample "events" start).1 none error after hrun
      · cases hunknown
      · rw [Bool.and_eq_true, beq_iff_eq, beq_iff_eq] at htold
        exact ⟨error, after, request, hrun, hfailed, htold⟩

end Connector

end ApiBridge
