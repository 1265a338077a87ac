import ApiBridge.Proofs.Connector.Attempt

/-!
Everything that a step of a session can do. Later modules take steps apart by their kind and never
open the functions of a session.
-/

namespace ApiBridge

/-- Whether a stream makes one more contact with the other side after some number of them: the
first one always, and others as far as it may connect again. -/
def EventStream.StreamOptions.allows (options : EventStream.StreamOptions) (contacts : Nat) :
    Bool :=
  contacts == 0 ||
    (options.reconnect && !options.maxReconnectAttempts.any fun limit => limit < contacts)

/-- A contact with the other side: a request, and the body that it opened if it did. -/
structure Contact where
  request : Http.Request
  incoming : Option Http.Incoming
  deriving Repr

theorem Connector.isConfig_of_endpoint {connector : Connector} {name : String} {error : Error}
    (hendpoint : connector.endpoint name = .error error) : error.isConfig = true := by
  unfold endpoint at hendpoint
  split at hendpoint
  · cases hendpoint
  · obtain rfl := Except.error.inj hendpoint
    rfl

theorem Connector.prepareStream_eq_error {connector : Connector} {name : String}
    {params : Table Json} {lastEventId : Option String} {error : Error}
    (hrequest : connector.prepareStream name params lastEventId = .error error) :
    connector.endpoint name = .error error ∧ error.isConfig = true := by
  unfold prepareStream prepare at hrequest
  cases hendpoint : connector.endpoint name with
  | ok endpoint =>
      rw [hendpoint] at hrequest
      simp [bind, Except.bind, pure, Except.pure] at hrequest
  | error fault =>
      rw [hendpoint] at hrequest
      obtain rfl : fault = error := Except.error.inj hrequest
      exact ⟨rfl, isConfig_of_endpoint hendpoint⟩

def Pull.event? : Pull → Option EventStream.Event
  | .event given => some given
  | _ => none

namespace Session

def incoming? (session : Session) : Option Http.Incoming :=
  match session.phase with
  | .streaming connection => some connection.incoming
  | _ => none

/-- The contacts that the log shows since an earlier state of the traffic, of a session that has
just made them. -/
def newContacts (session : Session) (before after : Traffic) : List Contact :=
  ((after.log.drop before.log.length).filterMap Act.request?).map fun request =>
    { request, incoming := session.incoming? }

/-- How a session goes on without a connection: it connects again after a wait, or it stops, with a
failure if there was one. -/
inductive Departure (session : Session) (traffic : Traffic) (failure : Option Error) :
    Session → Option Pull → Traffic → Prop
  | again (hallows : session.options.allows (session.attempts + 1) = true) :
      Departure session traffic failure
        { session with attempts := session.attempts + 1, phase := .connecting } none
        (traffic.add (.pause session.delay))
  | stop (hallows : session.options.allows (session.attempts + 1) = false) :
      Departure session traffic failure
        { session with attempts := session.attempts + session.options.reconnect.toNat }
        (failure.map .failed) traffic

/-- What a step can do: from a session and its traffic, to the session after it, what it gives, the
contacts that it makes, and the traffic after it. -/
inductive Transition (connector : Connector) (session : Session) (traffic : Traffic) :
    Session → Option Pull → List Contact → Traffic → Prop
  | give {event : EventStream.Event} {rest : List EventStream.Event}
      (hready : session.ready = event :: rest) :
      Transition connector session traffic { session with ready := rest } (some (.event event)) []
        traffic
  | ended (hready : session.ready = []) (hphase : session.phase = .done) :
      Transition connector session traffic session (some .ended) [] traffic
  | misconfigured {error : Error} (hready : session.ready = [])
      (hphase : session.phase = .connecting)
      (hrequest : connector.prepareStream session.endpoint session.params session.lastEventId =
        .error error) :
      Transition connector session traffic { session with phase := .done } (some (.failed error)) []
        traffic
  | opened {request : Http.Request} {incoming : Http.Incoming} {after : Traffic}
      (hready : session.ready = []) (hphase : session.phase = .connecting)
      (hrequest : connector.prepareStream session.endpoint session.params session.lastEventId =
        .ok request)
      (hattempt : Attempt connector session.endpoint request traffic (some incoming) after) :
      Transition connector session traffic
        { session with
          phase := .streaming { incoming, lines := .new, pending := [] }, request := some request }
        none [{ request, incoming := some incoming }] after
  /-- It tries to open a connection and gets none. -/
  | refused {request : Http.Request} {middle after : Traffic} {next : Session} {pull : Option Pull}
      {failure : Error} (hready : session.ready = []) (hphase : session.phase = .connecting)
      (hrequest : connector.prepareStream session.endpoint session.params session.lastEventId =
        .ok request)
      (hattempt : Attempt connector session.endpoint request traffic none middle)
      (hdeparture : Departure { session with phase := .done, request := some request } middle
        (some failure) next pull after) :
      Transition connector session traffic next pull [{ request, incoming := none }] after
  | read {connection : Connection} {chunk : List UInt8} {incoming : Http.Incoming}
      {lines pending : List String} {buffer : EventStream.LineBuffer} {taken : Session}
      (hready : session.ready = []) (hphase : session.phase = .streaming connection)
      (hnext : connection.incoming.next = .chunk chunk incoming)
      (hpush : connection.lines.push chunk = (.ok lines, buffer))
      (htake : Session.takeLines { session with phase := .done } connection.pending lines =
        (taken, pending, true)) :
      Transition connector session traffic
        { taken with phase := .streaming { incoming, lines := buffer, pending } } none [] traffic
  /-- It takes a chunk in with the last event that is asked for. -/
  | filled {connection : Connection} {chunk : List UInt8} {incoming : Http.Incoming}
      {lines pending : List String} {buffer : EventStream.LineBuffer} {taken : Session}
      (hready : session.ready = []) (hphase : session.phase = .streaming connection)
      (hnext : connection.incoming.next = .chunk chunk incoming)
      (hpush : connection.lines.push chunk = (.ok lines, buffer))
      (htake : Session.takeLines { session with phase := .done } connection.pending lines =
        (taken, pending, false)) :
      Transition connector session traffic taken none [] traffic
  /-- It gives a connection up: a chunk fails the line buffer, or the body breaks off or stalls. -/
  | lost {connection : Connection} {next : Session} {pull : Option Pull} {after : Traffic}
      {failure : Error} (hready : session.ready = [])
      (hphase : session.phase = .streaming connection)
      (hlost : (∃ chunk incoming error buffer, connection.incoming.next = .chunk chunk incoming ∧
          connection.lines.push chunk = (.error error, buffer)) ∨
        connection.incoming.next = .broken ∨ connection.incoming.next = .nothing)
      (hdeparture : Departure { session with phase := .done } traffic (some failure) next pull
        after) :
      Transition connector session traffic next pull [] after
  /-- It takes in the end of a body with the last event that is asked for. -/
  | completed {connection : Connection} {last : Session} (hready : session.ready = [])
      (hphase : session.phase = .streaming connection)
      (hnext : connection.incoming.next = .finished)
      (hlast : last = Session.takeBlock { session with phase := .done }
        (connection.pending ++ connection.lines.finish.1.toList))
      (hfull : last.isFull = true) :
      Transition connector session traffic last none [] traffic
  | closed {connection : Connection} {last next : Session} {pull : Option Pull} {after : Traffic}
      (hready : session.ready = []) (hphase : session.phase = .streaming connection)
      (hnext : connection.incoming.next = .finished)
      (hlast : last = Session.takeBlock { session with phase := .done }
        (connection.pending ++ connection.lines.finish.1.toList))
      (hfull : last.isFull = false) (hdeparture : Departure last traffic none next pull after) :
      Transition connector session traffic next pull [] after

variable {connector : Connector} {session next : Session} {before after : Traffic}
  {pull : Option Pull}

theorem allows_succ (session : Session) :
    session.options.allows (session.attempts + 1) =
      (session.options.reconnect &&
        !isExhausted { session with attempts := session.attempts + 1 }) := rfl

theorem departure_of_not_reconnect (before : Traffic)
    (hreconnect : session.options.reconnect = false) (failure : Option Error) :
    Departure session before failure session (failure.map .failed) before := by
  have hallows := allows_succ session
  rw [hreconnect, Bool.false_and] at hallows
  have hstop : Departure session before failure _ _ _ := .stop hallows
  rw [hreconnect] at hstop
  exact hstop

theorem departure_of_reconnect (before : Traffic)
    (hreconnect : session.options.reconnect = true) (failure : Option Error) :
    if isExhausted { session with attempts := session.attempts + 1 } then
      Departure session before failure { session with attempts := session.attempts + 1 }
        (failure.map .failed) before
    else
      Departure session before failure
        { session with attempts := session.attempts + 1, phase := .connecting } none
        (before.add (.pause session.delay)) := by
  have hallows := allows_succ session
  rw [hreconnect, Bool.true_and] at hallows
  split
  · next hexhausted =>
      rw [hexhausted, Bool.not_true] at hallows
      have hstop : Departure session before failure _ _ _ := .stop hallows
      rw [hreconnect] at hstop
      exact hstop
  · next hleft =>
      rw [Bool.eq_false_iff.2 hleft, Bool.not_false] at hallows
      exact .again hallows

theorem recover_departure {error : Error}
    (hrun : session.recover error before = .ok ((next, pull), after)) :
    Departure session before (some (.api (session.report error))) next pull after := by
  unfold recover at hrun
  cases hreconnect : session.options.reconnect with
  | false =>
      rw [hreconnect, Bool.not_false, if_pos rfl] at hrun
      obtain ⟨rfl, rfl, rfl⟩ := Run.pure_pair_eq_ok.1 hrun
      exact departure_of_not_reconnect _ hreconnect _
  | true =>
      rw [hreconnect, Bool.not_true, if_neg Bool.false_ne_true] at hrun
      have hdeparture := departure_of_reconnect before hreconnect
        (some (.api (session.report error)))
      split at hdeparture
      · next hexhausted =>
          rw [if_pos hexhausted] at hrun
          obtain ⟨rfl, rfl, rfl⟩ := Run.pure_pair_eq_ok.1 hrun
          exact hdeparture
      · next hleft =>
          rw [if_neg hleft] at hrun
          obtain ⟨rfl, rfl, rfl⟩ := Run.pure_pair_eq_ok.1 hrun
          exact hdeparture

theorem reopen_departure (hrun : session.reopen before = .ok (next, after)) :
    Departure session before none next none after := by
  unfold reopen at hrun
  cases hreconnect : session.options.reconnect with
  | false =>
      rw [hreconnect, Bool.not_false, if_pos rfl] at hrun
      obtain ⟨rfl, rfl⟩ := Run.pure_eq_ok.1 hrun
      exact departure_of_not_reconnect _ hreconnect none
  | true =>
      rw [hreconnect, Bool.not_true, if_neg Bool.false_ne_true] at hrun
      have hdeparture := departure_of_reconnect before hreconnect none
      split at hdeparture
      · next hexhausted =>
          rw [if_pos hexhausted] at hrun
          obtain ⟨rfl, rfl⟩ := Run.pure_eq_ok.1 hrun
          exact hdeparture
      · next hleft =>
          rw [if_neg hleft] at hrun
          obtain ⟨rfl, rfl⟩ := Run.pure_eq_ok.1 hrun
          exact hdeparture

theorem newContacts_of_log {session : Session} {more : List Act}
    (hlog : after.log = before.log ++ more) :
    session.newContacts before after =
      (more.filterMap Act.request?).map fun request =>
        { request, incoming := session.incoming? } := by
  rw [newContacts, hlog, List.drop_left]

theorem newContacts_self (session : Session) (traffic : Traffic) :
    session.newContacts traffic traffic = [] :=
  newContacts_of_log (List.append_nil _).symm

theorem Departure.log_eq {failure : Option Error}
    (h : Departure session before failure next pull after) :
    ∃ more, after.log = before.log ++ more ∧ more.filterMap Act.request? = [] := by
  cases h with
  | again hallows => exact ⟨[.pause session.delay], rfl, rfl⟩
  | stop hallows => exact ⟨[], (List.append_nil _).symm, rfl⟩

theorem Departure.newContacts_eq {failure : Option Error}
    (h : Departure session before failure next pull after) :
    next.newContacts before after = [] := by
  obtain ⟨more, hlog, hmore⟩ := h.log_eq
  rw [newContacts_of_log hlog, hmore, List.map_nil]

theorem Departure.incoming?_eq {failure : Option Error} (hphase : session.phase = .done)
    (h : Departure session before failure next pull after) : next.incoming? = none := by
  cases h with
  | again hallows => rfl
  | stop hallows => simp only [incoming?, hphase]

theorem newContacts_of_attempt {endpoint : String} {request : Http.Request}
    {incoming : Option Http.Incoming} {middle : Traffic} {more : List Act}
    (hattempt : Attempt connector endpoint request before incoming middle)
    (hlog : after.log = middle.log ++ more) (hmore : more.filterMap Act.request? = []) :
    next.newContacts before after = [{ request, incoming := next.incoming? }] := by
  obtain ⟨waits, rest, hattempt, hrest, -⟩ := hattempt.log_eq
  have hnone : rest.filterMap Act.request? = [] :=
    List.filterMap_eq_nil_iff.2 fun act hact => Act.request?_of_marks (hrest act hact)
  have hrequest : (Act.turn endpoint waits :: Act.attempt request :: rest).filterMap Act.request? =
      request :: rest.filterMap Act.request? := rfl
  rw [hattempt, List.append_assoc] at hlog
  rw [newContacts_of_log hlog, List.filterMap_append, hmore, hrequest, hnone]
  rfl

theorem connect_transition (hready : session.ready = []) (hphase : session.phase = .connecting)
    (hrun : session.connect connector before = .ok ((next, pull), after)) :
    Transition connector session before next pull (next.newContacts before after) after := by
  unfold connect at hrun
  cases hrequest :
      connector.prepareStream session.endpoint session.params session.lastEventId with
  | error error =>
      simp only [hrequest, (Connector.prepareStream_eq_error hrequest).2, if_true] at hrun
      obtain ⟨rfl, rfl, rfl⟩ := Run.pure_pair_eq_ok.1 hrun
      rw [newContacts_self]
      exact .misconfigured hready hphase hrequest
  | ok request =>
      simp only [hrequest] at hrun
      obtain ⟨result, middle, hopen, hrun⟩ := Run.bind_eq_ok.1 hrun
      rcases openConnection_eq_ok hopen with ⟨incoming, rfl, hattempt⟩ |
        ⟨error, rfl, hconfig, hattempt⟩
      · obtain ⟨rfl, rfl, rfl⟩ := Run.pure_pair_eq_ok.1 hrun
        rw [newContacts_of_attempt hattempt (List.append_nil _).symm rfl]
        exact .opened hready hphase hrequest hattempt
      · simp only [hconfig] at hrun
        have hdeparture := recover_departure hrun
        obtain ⟨more, hlog, hmore⟩ := hdeparture.log_eq
        rw [newContacts_of_attempt hattempt hlog hmore, hdeparture.incoming?_eq rfl]
        exact .refused hready hphase hrequest hattempt hdeparture

theorem takeChunk_transition {connection : Connection} {chunk : List UInt8}
    {incoming : Http.Incoming} (hready : session.ready = [])
    (hphase : session.phase = .streaming connection)
    (hnext : connection.incoming.next = .chunk chunk incoming)
    (hrun : takeChunk { session with phase := .done } { connection with incoming } chunk before =
      .ok ((next, pull), after)) :
    Transition connector session before next pull (next.newContacts before after) after := by
  unfold takeChunk at hrun
  cases hpush : connection.lines.push chunk with
  | mk outcome buffer =>
      simp only [hpush] at hrun
      cases outcome with
      | error error =>
          have hdeparture := recover_departure hrun
          rw [hdeparture.newContacts_eq]
          exact .lost hready hphase (.inl ⟨_, _, _, _, hnext, hpush⟩) hdeparture
      | ok lines =>
          cases htake : takeLines { session with phase := .done } connection.pending lines with
          | mk taken rest =>
              rcases rest with ⟨pending, goesOn⟩
              simp only [htake] at hrun
              cases goesOn with
              | true =>
                  obtain ⟨rfl, rfl, rfl⟩ := Run.pure_pair_eq_ok.1 hrun
                  rw [newContacts_self]
                  exact .read hready hphase hnext hpush htake
              | false =>
                  obtain ⟨rfl, rfl, rfl⟩ := Run.pure_pair_eq_ok.1 hrun
                  rw [newContacts_self]
                  exact .filled hready hphase hnext hpush htake

theorem takeEnd_transition {connection : Connection} (hready : session.ready = [])
    (hphase : session.phase = .streaming connection)
    (hnext : connection.incoming.next = .finished)
    (hrun : takeEnd { session with phase := .done } connection before = .ok (next, after)) :
    Transition connector session before next none (next.newContacts before after) after := by
  unfold takeEnd at hrun
  cases hfull : isFull (takeBlock { session with phase := .done }
      (connection.pending ++ connection.lines.finish.1.toList)) with
  | true =>
      simp only [hfull, if_true] at hrun
      obtain ⟨rfl, rfl⟩ := Run.pure_eq_ok.1 hrun
      rw [newContacts_self]
      exact .completed hready hphase hnext rfl hfull
  | false =>
      simp only [hfull] at hrun
      have hdeparture := reopen_departure hrun
      rw [hdeparture.newContacts_eq]
      exact .closed hready hphase hnext rfl hfull hdeparture

theorem read_transition {connection : Connection} (hready : session.ready = [])
    (hphase : session.phase = .streaming connection)
    (hrun : session.read connection before = .ok ((next, pull), after)) :
    Transition connector session before next pull (next.newContacts before after) after := by
  unfold read at hrun
  cases hnext : connection.incoming.next with
  | chunk chunk incoming =>
      simp only [hnext] at hrun
      exact takeChunk_transition hready hphase hnext hrun
  | finished =>
      simp only [hnext] at hrun
      obtain ⟨reopened, _, hend, hpure⟩ := Run.bind_eq_ok.1 hrun
      obtain ⟨rfl, rfl, rfl⟩ := Run.pure_pair_eq_ok.1 hpure
      exact takeEnd_transition hready hphase hnext hend
  | broken =>
      simp only [hnext] at hrun
      have hdeparture := recover_departure hrun
      rw [hdeparture.newContacts_eq]
      exact .lost hready hphase (.inr (.inl hnext)) hdeparture
  | nothing =>
      simp only [hnext] at hrun
      have hdeparture := recover_departure hrun
      rw [hdeparture.newContacts_eq]
      exact .lost hready hphase (.inr (.inr hnext)) hdeparture

/-- Every step is one of the transitions. -/
theorem step_transition (hrun : session.step connector before = .ok ((next, pull), after)) :
    Transition connector session before next pull (next.newContacts before after) after := by
  unfold step at hrun
  cases hready : session.ready with
  | cons event rest =>
      rw [hready] at hrun
      obtain ⟨rfl, rfl, rfl⟩ := Run.pure_pair_eq_ok.1 hrun
      rw [newContacts_self]
      exact .give hready
  | nil =>
      rw [hready] at hrun
      cases hphase : session.phase with
      | done =>
          rw [hphase] at hrun
          obtain ⟨rfl, rfl, rfl⟩ := Run.pure_pair_eq_ok.1 hrun
          rw [newContacts_self]
          exact .ended hready hphase
      | connecting =>
          rw [hphase] at hrun
          exact connect_transition hready hphase hrun
      | streaming connection =>
          rw [hphase] at hrun
          exact read_transition hready hphase hrun

theorem Transition.contacts_cases {more : List Contact}
    (h : Transition connector session before next pull more after) :
    more = [] ∨ ∃ contact, more = [contact] ∧ session.ready = [] ∧ session.phase = .connecting := by
  cases h with
  | opened hready hphase => exact .inr ⟨_, rfl, hready, hphase⟩
  | refused hready hphase => exact .inr ⟨_, rfl, hready, hphase⟩
  | _ => exact .inl rfl

theorem Transition.rest_of_pull {more : List Contact} {last : Pull}
    (h : Transition connector session before next (some last) more after)
    (hlast : last.event? = none) : next.phase = .done ∧ next.ready = [] := by
  generalize hpull : some last = pull at h
  cases h with
  | give hready =>
      obtain rfl := Option.some.inj hpull
      simp [Pull.event?] at hlast
  | ended hready hphase => exact ⟨hphase, hready⟩
  | misconfigured hready hphase hrequest => exact ⟨rfl, hready⟩
  | refused hready hphase hrequest hattempt hdeparture =>
      cases hdeparture with
      | again hallows => simp at hpull
      | stop hallows => exact ⟨rfl, hready⟩
  | lost hready hphase hlost hdeparture =>
      cases hdeparture with
      | again hallows => simp at hpull
      | stop hallows => exact ⟨rfl, hready⟩
  | closed hready hphase hnext hlast hfull hdeparture => cases hdeparture <;> simp at hpull
  | _ => simp at hpull

end Session

end ApiBridge
