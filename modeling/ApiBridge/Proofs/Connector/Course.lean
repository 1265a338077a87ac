import ApiBridge.Proofs.Connector.History

/-!
The course of a session, step after step, and what holds at every point of it: which blocks the
session has taken in and given, which contacts it has made, and why it goes on or has stopped.
-/

namespace ApiBridge

open EventStream

/-- A course of steps: the contacts that they make, what they give, and where they lead. -/
inductive Course (connector : Connector) (first : Session) (start : Traffic) :
    List Contact → List Pull → Session → Traffic → Prop
  | nil : Course connector first start [] [] first start
  | step {contacts : List Contact} {pulls : List Pull} {session next : Session}
      {traffic after : Traffic} {pull : Option Pull}
      (hcourse : Course connector first start contacts pulls session traffic)
      (hstep : session.step connector traffic = .ok ((next, pull), after)) :
      Course connector first start (contacts ++ next.newContacts traffic after)
        (pulls ++ pull.toList) next after

/-- A session that has taken some blocks in and given some of their events. -/
structure Tally (first : Session) (taken : List Block) (pulls : List Pull) (session : Session) :
    Prop where
  endpoint_eq : session.endpoint = first.endpoint
  params_eq : session.params = first.params
  options_eq : session.options = first.options
  delay_eq : session.delay = Block.lastDelay first.delay taken
  lastEventId_eq : session.lastEventId = Block.lastId? taken
  received_eq : session.received = (Block.events first.options.decodeJson taken).length
  ready_eq : pulls.filterMap Pull.event? ++ session.ready =
    Block.events first.options.decodeJson taken
  isWithin : session.IsWithin

/-- What a session is doing after some contacts, and how many of their blocks it has taken in. -/
inductive Situation (connector : Connector) (first : Session) (contacts : List Contact) :
    List Block → Phase → Nat → Bool → Prop
  | connecting (hallows : first.options.allows contacts.length = true) :
      Situation connector first contacts (contacts.flatMap Contact.heardBlocks) .connecting
        contacts.length false
  | streaming {past : List Contact} {request : Http.Request} {incoming : Http.Incoming}
      {seen : List UInt8} {connection : Connection}
      (hcontacts : contacts = past ++ [{ request, incoming := some incoming }])
      (hreading : Reading incoming seen connection) :
      Situation connector first contacts
        (past.flatMap Contact.heardBlocks ++ blocks false seen) (.streaming connection)
        past.length false
  | filled {taken : List Block} {attempts : Nat}
      (htaken : taken <+: contacts.flatMap Contact.heardBlocks) :
      Situation connector first contacts taken .done attempts true
  | stopped {attempts : Nat} (hstop : first.options.allows contacts.length = false ∨
        ∃ error, connector.endpoint first.endpoint = .error error) :
      Situation connector first contacts (contacts.flatMap Contact.heardBlocks) .done attempts false

/-- What holds at every point of a course. -/
structure Progress (connector : Connector) (first : Session) (start : Traffic)
    (contacts : List Contact) (taken : List Block) (pulls : List Pull) (session : Session)
    (traffic : Traffic) : Prop where
  history : IsHistory connector first start.peer contacts
  peer_eq : traffic.peer = start.peer.afterContacts connector.definition.auth contacts
  tally : Tally first taken pulls session
  situation : Situation connector first contacts taken session.phase session.attempts
    session.isFull

namespace Tally

variable {first session : Session} {taken : List Block} {pulls : List Pull}

theorem start (endpoint : String) (params : Table Json) (options : StreamOptions) :
    Tally (.start endpoint params options) [] [] (.start endpoint params options) :=
  ⟨rfl, rfl, rfl, rfl, rfl, rfl, rfl, fun _ _ => Nat.zero_le _⟩

theorem of_phase (h : Tally first taken pulls session) (phase : Phase) (attempts : Nat)
    (request : Option Http.Request) :
    Tally first taken pulls { session with phase, attempts, request } :=
  ⟨h.endpoint_eq, h.params_eq, h.options_eq, h.delay_eq, h.lastEventId_eq, h.received_eq,
    h.ready_eq, h.isWithin⟩

theorem takeBlocks (h : Tally first taken pulls session) (more : List Block)
    (hwithin : (session.takeBlocks more).IsWithin) :
    Tally first (taken ++ more) pulls (session.takeBlocks more) where
  endpoint_eq := h.endpoint_eq
  params_eq := h.params_eq
  options_eq := h.options_eq
  delay_eq := by rw [Block.lastDelay_append, ← h.delay_eq]; rfl
  lastEventId_eq := by rw [Block.lastId?_append, ← h.lastEventId_eq]; rfl
  received_eq := by
    rw [Block.events_append, List.length_append, ← h.received_eq, ← h.options_eq]
    rfl
  ready_eq := by
    rw [Block.events_append, ← h.ready_eq, List.append_assoc, ← h.options_eq]
    rfl
  isWithin := hwithin

theorem takeBlock (h : Tally first taken pulls session) (hfull : session.isFull = false)
    (lines : List String) :
    Tally first (taken ++ (Block.ofLines? lines).toList) pulls (session.takeBlock lines) := by
  have hwithin := Session.isWithin_takeBlock hfull lines
  rw [Session.takeBlock_eq] at hwithin ⊢
  exact h.takeBlocks _ hwithin

theorem of_pull (h : Tally first taken pulls session) {pull : Option Pull}
    (hpull : pull.bind Pull.event? = none) : Tally first taken (pulls ++ pull.toList) session := by
  have hnone : pull.toList.filterMap Pull.event? = [] := by
    cases pull with
    | none => rfl
    | some pull => simpa using hpull
  refine { h with ready_eq := ?_ }
  rw [List.filterMap_append, hnone, List.append_nil]
  exact h.ready_eq

theorem give (h : Tally first taken pulls session) {event : Event} {rest : List Event}
    (hready : session.ready = event :: rest) :
    Tally first taken (pulls ++ [.event event]) { session with ready := rest } where
  endpoint_eq := h.endpoint_eq
  params_eq := h.params_eq
  options_eq := h.options_eq
  delay_eq := h.delay_eq
  lastEventId_eq := h.lastEventId_eq
  received_eq := h.received_eq
  ready_eq := by
    rw [← h.ready_eq, hready, List.filterMap_append, List.append_assoc]
    rfl
  isWithin := h.isWithin

end Tally

variable {connector : Connector} {first session next : Session} {start traffic after : Traffic}
  {contacts : List Contact} {taken : List Block} {pulls : List Pull} {pull : Option Pull}

theorem Tally.depart {failure : Option Error}
    (h : Tally first (contacts.flatMap Contact.heardBlocks) pulls session)
    (hfull : session.isFull = false) (hphase : session.phase = .done)
    (hattempts : session.attempts + 1 = contacts.length)
    (hdeparture : session.Departure traffic failure next pull after) :
    Tally first (contacts.flatMap Contact.heardBlocks) (pulls ++ pull.toList) next ∧
      Situation connector first contacts (contacts.flatMap Contact.heardBlocks) next.phase
        next.attempts next.isFull ∧
      after.peer = traffic.peer := by
  cases hdeparture with
  | again hallows =>
      refine ⟨(h.of_phase _ _ _).of_pull rfl, ?_, rfl⟩
      rw [h.options_eq, hattempts] at hallows
      have hsituation : Situation connector first contacts _ .connecting _ false :=
        .connecting hallows
      rw [← hattempts, ← hfull] at hsituation
      exact hsituation
  | stop hallows =>
      have hpull : (failure.map Pull.failed).bind Pull.event? = none := by cases failure <;> rfl
      refine ⟨(h.of_phase _ _ _).of_pull hpull, ?_, rfl⟩
      rw [h.options_eq, hattempts] at hallows
      have hsituation : Situation connector first contacts _ .done
          (session.attempts + session.options.reconnect.toNat) false :=
        .stopped (.inl hallows)
      rw [← hfull, ← hphase] at hsituation
      exact hsituation

namespace Progress

theorem initial (connector : Connector) (endpoint : String) (params : Table Json)
    (options : StreamOptions) (start : Traffic) :
    Progress connector (.start endpoint params options) start [] [] []
      (.start endpoint params options) start where
  history := .nil
  peer_eq := rfl
  tally := .start endpoint params options
  situation := by
    have hopen : Situation connector (.start endpoint params options) [] [] .connecting 0 false :=
      .connecting rfl
    have hfull : Situation connector (.start endpoint params options) [] [] .done 0 true :=
      .filled List.prefix_rfl
    cases hlimit : options.maxEvents with
    | none => simpa [Session.start, Session.isFull, hlimit] using hopen
    | some limit =>
        cases limit with
        | zero => simpa [Session.start, Session.isFull, hlimit] using hfull
        | succ limit => simpa [Session.start, Session.isFull, hlimit] using hopen

theorem of_connecting (h : Progress connector first start contacts taken pulls session traffic)
    (hphase : session.phase = .connecting) :
    taken = contacts.flatMap Contact.heardBlocks ∧ session.attempts = contacts.length ∧
      session.isFull = false ∧ first.options.allows contacts.length = true := by
  have hsituation := h.situation
  generalize session.attempts = attempts, session.isFull = full at hsituation ⊢
  rw [hphase] at hsituation
  cases hsituation with
  | connecting hallows => exact ⟨rfl, rfl, rfl, hallows⟩

theorem of_streaming (h : Progress connector first start contacts taken pulls session traffic)
    {connection : Connection} (hphase : session.phase = .streaming connection) :
    ∃ past request incoming seen, contacts = past ++ [{ request, incoming := some incoming }] ∧
      taken = past.flatMap Contact.heardBlocks ++ blocks false seen ∧
      session.attempts = past.length ∧ session.isFull = false ∧
      Reading incoming seen connection := by
  have hsituation := h.situation
  generalize session.attempts = attempts, session.isFull = full at hsituation ⊢
  rw [hphase] at hsituation
  cases hsituation with
  | streaming hcontacts hreading => exact ⟨_, _, _, _, hcontacts, rfl, rfl, rfl, hreading⟩

theorem of_done (h : Progress connector first start contacts taken pulls session traffic)
    (hphase : session.phase = .done) :
    (session.isFull = true ∧ taken <+: contacts.flatMap Contact.heardBlocks) ∨
      (session.isFull = false ∧ taken = contacts.flatMap Contact.heardBlocks ∧
        (first.options.allows contacts.length = false ∨
          ∃ error, connector.endpoint first.endpoint = .error error)) := by
  have hsituation := h.situation
  generalize session.attempts = attempts, session.isFull = full at hsituation ⊢
  rw [hphase] at hsituation
  cases hsituation with
  | filled htaken => exact .inl ⟨rfl, htaken⟩
  | stopped hstop => exact .inr ⟨rfl, rfl, hstop⟩

theorem phase_of_isFull (h : Progress connector first start contacts taken pulls session traffic)
    (hfull : session.isFull = true) : session.phase = .done := by
  have hsituation := h.situation
  generalize session.phase = phase, session.attempts = attempts at hsituation ⊢
  rw [hfull] at hsituation
  cases hsituation with
  | filled htaken => rfl

theorem snoc_history (h : Progress connector first start contacts taken pulls session traffic)
    (hphase : session.phase = .connecting) {request : Http.Request}
    {incoming : Option Http.Incoming} {middle : Traffic}
    (hrequest : connector.prepareStream session.endpoint session.params session.lastEventId =
      .ok request)
    (hattempt : Attempt connector session.endpoint request traffic incoming middle) :
    IsHistory connector first start.peer (contacts ++ [Contact.mk request incoming]) ∧
      middle.peer = start.peer.afterContacts connector.definition.auth
        (contacts ++ [Contact.mk request incoming]) := by
  obtain ⟨htaken, -, -, hallows⟩ := h.of_connecting hphase
  have hmeet := hattempt.meet_eq
  rw [h.peer_eq] at hmeet
  rw [h.tally.endpoint_eq, h.tally.params_eq, h.tally.lastEventId_eq, htaken] at hrequest
  refine ⟨IsHistory.snoc h.history hallows hrequest ?_, ?_⟩
  · rw [hmeet]
  · rw [Http.Peer.afterContacts, List.foldl_append]
    exact (congrArg Prod.snd hmeet).symm

theorem takeEnd (h : Progress connector first start contacts taken pulls session traffic)
    {connection : Connection} {last : Session} (hphase : session.phase = .streaming connection)
    (hnext : connection.incoming.next = .finished)
    (hlast : last = Session.takeBlock { session with phase := .done }
      (connection.pending ++ connection.lines.finish.1.toList)) :
    Tally first (contacts.flatMap Contact.heardBlocks) pulls last ∧ last.phase = .done ∧
      last.attempts + 1 = contacts.length := by
  obtain ⟨past, request, incoming, seen, hcontacts, htaken, hattempts, hfull, hreading⟩ :=
    h.of_streaming hphase
  rw [← hreading.openBlock_eq] at hlast
  have htally := (h.tally.of_phase .done session.attempts session.request).takeBlock hfull
    (openBlock seen)
  rw [htaken, List.append_assoc, ← blocks_true, ← hreading.heardBlocks_of_finished hnext,
    ← hlast] at htally
  rw [hcontacts, flatMap_heardBlocks_snoc, List.length_append, ← hattempts]
  rw [Session.takeBlock_eq] at hlast
  rw [hlast] at htally ⊢
  exact ⟨htally, rfl, rfl⟩

theorem refused (h : Progress connector first start contacts taken pulls session traffic)
    {request : Http.Request} {middle : Traffic} {failure : Error}
    (hphase : session.phase = .connecting)
    (hrequest : connector.prepareStream session.endpoint session.params session.lastEventId =
      .ok request)
    (hattempt : Attempt connector session.endpoint request traffic none middle)
    (hdeparture : Session.Departure { session with phase := .done, request := some request } middle
      (some failure) next pull after) :
    Progress connector first start (contacts ++ [Contact.mk request none]) taken
      (pulls ++ pull.toList) next after := by
  obtain ⟨htaken, hattempts, hfull, -⟩ := h.of_connecting hphase
  obtain ⟨hhistory, hpeer⟩ := h.snoc_history hphase hrequest hattempt
  have hheard : taken = (contacts ++ [Contact.mk request none]).flatMap Contact.heardBlocks := by
    rw [htaken, flatMap_heardBlocks_snoc]
    exact (List.append_nil _).symm
  have hcount : session.attempts + 1 = (contacts ++ [Contact.mk request none]).length := by
    rw [List.length_append, ← hattempts]
    rfl
  have htally := h.tally.of_phase .done session.attempts (some request)
  rw [hheard] at htally ⊢
  obtain ⟨htally, hsituation, hsame⟩ := htally.depart hfull rfl hcount hdeparture
  exact ⟨hhistory, hsame.trans hpeer, htally, hsituation⟩

theorem read (h : Progress connector first start contacts taken pulls session traffic)
    {connection : Connection} {chunk : List UInt8} {incoming : Http.Incoming}
    {lines pending : List String} {buffer : LineBuffer}
    (hphase : session.phase = .streaming connection)
    (hnext : connection.incoming.next = .chunk chunk incoming)
    (hpush : connection.lines.push chunk = (.ok lines, buffer))
    (htake : Session.takeLines { session with phase := .done } connection.pending lines =
      (next, pending, true)) :
    ∃ more, Progress connector first start contacts (taken ++ more) pulls
      { next with phase := .streaming { incoming, lines := buffer, pending } } traffic := by
  obtain ⟨past, request, body, seen, hcontacts, htaken, hattempts, hfull, hreading⟩ :=
    h.of_streaming hphase
  have hdone : Session.isFull { session with phase := .done } = false := hfull
  obtain ⟨more, ⟨htake', hopen, hblocks⟩ | ⟨htake', -⟩⟩ :=
    hreading.takeLines_cases hnext hpush hdone
  · obtain ⟨rfl, hpending⟩ := Prod.mk.inj (htake.symm.trans htake')
    obtain ⟨rfl, -⟩ := Prod.mk.inj hpending
    have htally := (h.tally.of_phase .done session.attempts session.request).takeBlocks more
      (Session.isWithin_of_isFull hopen)
    refine ⟨more, h.history, h.peer_eq, htally.of_phase _ _ _, ?_⟩
    change Situation connector first contacts _ (.streaming _) session.attempts
      (Session.isFull (Session.takeBlocks { session with phase := .done } more))
    rw [hopen, hattempts, htaken, List.append_assoc, ← hblocks]
    exact .streaming hcontacts (hreading.push_eq_ok hnext hpush).2
  · rw [htake] at htake'
    simp at htake'

theorem filled (h : Progress connector first start contacts taken pulls session traffic)
    {connection : Connection} {chunk : List UInt8} {incoming : Http.Incoming}
    {lines pending : List String} {buffer : LineBuffer}
    (hphase : session.phase = .streaming connection)
    (hnext : connection.incoming.next = .chunk chunk incoming)
    (hpush : connection.lines.push chunk = (.ok lines, buffer))
    (htake : Session.takeLines { session with phase := .done } connection.pending lines =
      (next, pending, false)) :
    ∃ more, Progress connector first start contacts (taken ++ more) pulls next traffic := by
  obtain ⟨past, request, body, seen, hcontacts, htaken, hattempts, hfull, hreading⟩ :=
    h.of_streaming hphase
  have hdone : Session.isFull { session with phase := .done } = false := hfull
  obtain ⟨more, ⟨htake', -⟩ | ⟨htake', hend, hwithin, hblocks⟩⟩ :=
    hreading.takeLines_cases hnext hpush hdone
  · rw [htake] at htake'
    simp at htake'
  · obtain ⟨rfl, -⟩ := Prod.mk.inj (htake.symm.trans htake')
    refine ⟨more, h.history, h.peer_eq,
      (h.tally.of_phase .done session.attempts session.request).takeBlocks more hwithin, ?_⟩
    change Situation connector first contacts _ .done session.attempts
      (Session.isFull (Session.takeBlocks { session with phase := .done } more))
    rw [hend, htaken, List.append_assoc]
    refine .filled ?_
    rw [hcontacts, flatMap_heardBlocks_snoc]
    -- What the rest of the body would still have told comes after what has been taken in.
    exact (List.prefix_append_right_inj _).2
      (hblocks.trans (hreading.push_eq_ok hnext hpush).2.prefix_heardBlocks)

theorem lost (h : Progress connector first start contacts taken pulls session traffic)
    {connection : Connection} {failure : Error} (hphase : session.phase = .streaming connection)
    (hlost : (∃ chunk incoming error buffer, connection.incoming.next = .chunk chunk incoming ∧
        connection.lines.push chunk = (.error error, buffer)) ∨
      connection.incoming.next = .broken ∨ connection.incoming.next = .nothing)
    (hdeparture : Session.Departure { session with phase := .done } traffic (some failure) next pull
      after) :
    Progress connector first start contacts taken (pulls ++ pull.toList) next after := by
  obtain ⟨past, request, incoming, seen, hcontacts, htaken, hattempts, hfull, hreading⟩ :=
    h.of_streaming hphase
  have hheard : incoming.heardBlocks = blocks false seen := by
    rcases hlost with ⟨chunk, rest, error, buffer, hnext, hpush⟩ | hnext
    · exact hreading.heardBlocks_of_error hnext hpush
    · exact hreading.heardBlocks_of_lost hnext
  have hall : taken = contacts.flatMap Contact.heardBlocks := by
    rw [htaken, hcontacts, flatMap_heardBlocks_snoc, ← hheard]
    rfl
  have hcount : session.attempts + 1 = contacts.length := by
    rw [hcontacts, List.length_append, ← hattempts]
    rfl
  have htally := h.tally.of_phase .done session.attempts session.request
  rw [hall] at htally ⊢
  obtain ⟨htally, hsituation, hsame⟩ := htally.depart hfull rfl hcount hdeparture
  exact ⟨h.history, hsame.trans h.peer_eq, htally, hsituation⟩

theorem closed (h : Progress connector first start contacts taken pulls session traffic)
    {connection : Connection} {last : Session} (hphase : session.phase = .streaming connection)
    (hnext : connection.incoming.next = .finished)
    (hlast : last = Session.takeBlock { session with phase := .done }
      (connection.pending ++ connection.lines.finish.1.toList))
    (hfull : last.isFull = false)
    (hdeparture : last.Departure traffic none next pull after) :
    Progress connector first start contacts (contacts.flatMap Contact.heardBlocks)
      (pulls ++ pull.toList) next after := by
  obtain ⟨htally, hdone, hattempts⟩ := h.takeEnd hphase hnext hlast
  obtain ⟨htally, hsituation, hsame⟩ := htally.depart hfull hdone hattempts hdeparture
  exact ⟨h.history, hsame.trans h.peer_eq, htally, hsituation⟩

theorem completed (h : Progress connector first start contacts taken pulls session traffic)
    {connection : Connection} {last : Session} (hphase : session.phase = .streaming connection)
    (hnext : connection.incoming.next = .finished)
    (hlast : last = Session.takeBlock { session with phase := .done }
      (connection.pending ++ connection.lines.finish.1.toList))
    (hfull : last.isFull = true) :
    Progress connector first start contacts (contacts.flatMap Contact.heardBlocks) pulls last
      traffic := by
  obtain ⟨htally, hdone, -⟩ := h.takeEnd hphase hnext hlast
  refine ⟨h.history, h.peer_eq, htally, ?_⟩
  rw [hdone, hfull]
  exact .filled List.prefix_rfl

theorem step (h : Progress connector first start contacts taken pulls session traffic)
    {more : List Contact}
    (hstep : session.Transition connector traffic next pull more after) :
    ∃ taken, Progress connector first start (contacts ++ more) taken (pulls ++ pull.toList) next
      after := by
  cases hstep with
  | give hready =>
      refine ⟨taken, ?_⟩
      rw [List.append_nil]
      exact ⟨h.history, h.peer_eq, h.tally.give hready, h.situation⟩
  | ended hready hphase =>
      refine ⟨taken, ?_⟩
      rw [List.append_nil]
      exact ⟨h.history, h.peer_eq, h.tally.of_pull rfl, h.situation⟩
  | misconfigured hready hphase hrequest =>
      obtain ⟨htaken, -, hfull, -⟩ := h.of_connecting hphase
      rw [h.tally.endpoint_eq] at hrequest
      refine ⟨taken, ?_⟩
      rw [List.append_nil]
      refine ⟨h.history, h.peer_eq, (h.tally.of_phase _ _ _).of_pull rfl, ?_⟩
      change Situation connector first contacts taken .done session.attempts session.isFull
      rw [htaken, hfull]
      exact .stopped (.inr ⟨_, (Connector.prepareStream_eq_error hrequest).1⟩)
  | opened hready hphase hrequest hattempt =>
      obtain ⟨htaken, hattempts, hfull, -⟩ := h.of_connecting hphase
      obtain ⟨hhistory, hpeer⟩ := h.snoc_history hphase hrequest hattempt
      refine ⟨taken, hhistory, hpeer, (h.tally.of_phase _ _ _).of_pull rfl, ?_⟩
      change Situation connector first _ taken (.streaming _) session.attempts session.isFull
      rw [htaken, hattempts, hfull, ← List.append_nil (contacts.flatMap Contact.heardBlocks)]
      exact .streaming rfl (Reading.start _)
  | refused hready hphase hrequest hattempt hdeparture =>
      exact ⟨taken, h.refused hphase hrequest hattempt hdeparture⟩
  | read hready hphase hnext hpush htake =>
      obtain ⟨more, hread⟩ := h.read hphase hnext hpush htake
      rw [List.append_nil, Option.toList_none, List.append_nil]
      exact ⟨taken ++ more, hread⟩
  | filled hready hphase hnext hpush htake =>
      obtain ⟨more, hfilled⟩ := h.filled hphase hnext hpush htake
      rw [List.append_nil, Option.toList_none, List.append_nil]
      exact ⟨taken ++ more, hfilled⟩
  | lost hready hphase hlost hdeparture =>
      rw [List.append_nil]
      exact ⟨taken, h.lost hphase hlost hdeparture⟩
  | completed hready hphase hnext hlast hfull =>
      rw [List.append_nil, Option.toList_none, List.append_nil]
      exact ⟨_, h.completed hphase hnext hlast hfull⟩
  | closed hready hphase hnext hlast hfull hdeparture =>
      rw [List.append_nil]
      exact ⟨_, h.closed hphase hnext hlast hfull hdeparture⟩

end Progress

theorem Course.progress {endpoint : String} {params : Table Json} {options : StreamOptions}
    (h : Course connector (.start endpoint params options) start contacts pulls session traffic) :
    ∃ taken, Progress connector (.start endpoint params options) start contacts taken pulls session
      traffic := by
  induction h with
  | nil => exact ⟨[], .initial connector endpoint params options start⟩
  | step hcourse hstep ih =>
      obtain ⟨taken, hprogress⟩ := ih
      exact hprogress.step (Session.step_transition hstep)

namespace Session

/-- Draining a session to the end is a course that comes to rest. -/
theorem course_of_drainWithin {fuel : Nat} {results : List (Except Error Event)}
    (hdrain : session.drainWithin connector fuel traffic = .ok (results, after))
    (hcourse : Course connector first start contacts pulls session traffic) :
    ∃ contacts' pulls' last, Course connector first start contacts' pulls' last after ∧
      last.phase = .done ∧ last.ready = [] ∧
      pulls'.filterMap Pull.event? =
        pulls.filterMap Pull.event? ++ results.filterMap Except.toOption := by
  induction fuel generalizing session traffic contacts pulls results with
  | zero =>
      change Except.error Fault.neverEnds = _ at hdrain
      simp at hdrain
  | succ fuel ih =>
      unfold drainWithin at hdrain
      obtain ⟨⟨next, pull⟩, middle, hstep, hdrain⟩ := Run.bind_eq_ok.1 hdrain
      have hmore := hcourse.step hstep
      cases pull with
      | none =>
          obtain ⟨contacts', pulls', last, hlast, hphase, hready, hevents⟩ := ih hdrain hmore
          refine ⟨contacts', pulls', last, hlast, hphase, hready, ?_⟩
          rw [hevents, Option.toList_none, List.append_nil]
      | some pull =>
          cases pull with
          | event event =>
              obtain ⟨rest, _, hrest, hresults⟩ := Run.bind_eq_ok.1 hdrain
              obtain ⟨rfl, rfl⟩ := Run.pure_eq_ok.1 hresults
              obtain ⟨contacts', pulls', last, hlast, hphase, hready, hevents⟩ := ih hrest hmore
              refine ⟨contacts', pulls', last, hlast, hphase, hready, ?_⟩
              rw [hevents, List.filterMap_append, List.append_assoc]
              rfl
          | failed error =>
              obtain ⟨rfl, rfl⟩ := Run.pure_eq_ok.1 hdrain
              obtain ⟨hphase, hready⟩ := (step_transition hstep).rest_of_pull rfl
              refine ⟨_, _, next, hmore, hphase, hready, ?_⟩
              rw [List.filterMap_append]
              rfl
          | ended =>
              obtain ⟨rfl, rfl⟩ := Run.pure_eq_ok.1 hdrain
              obtain ⟨hphase, hready⟩ := (step_transition hstep).rest_of_pull rfl
              refine ⟨_, _, next, hmore, hphase, hready, ?_⟩
              rw [List.filterMap_append]
              rfl

end Session

namespace Course

/-- Every contact of a course is made at a point at which the session is about to connect, with the
contacts before it made and all that it has read given. -/
theorem of_append_cons (h : Course connector first start contacts pulls session traffic)
    {past later : List Contact} {contact : Contact}
    (hcontacts : contacts = past ++ contact :: later) :
    ∃ given earlier before, Course connector first start past given earlier before ∧
      earlier.phase = .connecting ∧ earlier.ready = [] ∧ given <+: pulls := by
  induction h generalizing later with
  | nil => simp at hcontacts
  | @step contacts pulls session next traffic after pull hcourse hstep ih =>
      have htransition := Session.step_transition hstep
      rcases htransition.contacts_cases with hnone | ⟨made, hone, hready, hphase⟩
      · rw [hnone, List.append_nil] at hcontacts
        obtain ⟨given, earlier, before, hbefore, hphase, hready, hfront⟩ := ih hcontacts
        exact ⟨given, earlier, before, hbefore, hphase, hready,
          hfront.trans (List.prefix_append _ _)⟩
      · rw [hone] at hcontacts
        rcases List.eq_nil_or_concat later with rfl | ⟨rest, last, rfl⟩
        · obtain ⟨rfl, -⟩ := List.append_inj' hcontacts rfl
          exact ⟨pulls, session, traffic, hcourse, hphase, hready, List.prefix_append _ _⟩
        · rw [List.concat_eq_append, ← List.cons_append, ← List.append_assoc] at hcontacts
          obtain ⟨given, earlier, before, hbefore, hphase, hready, hfront⟩ :=
            ih (List.append_inj' hcontacts rfl).1
          exact ⟨given, earlier, before, hbefore, hphase, hready,
            hfront.trans (List.prefix_append _ _)⟩

end Course

theorem Progress.taken_isPrefix
    (h : Progress connector first start contacts taken pulls session traffic) :
    taken <+: contacts.flatMap Contact.heardBlocks := by
  cases hphase : session.phase with
  | connecting =>
      have htaken := (h.of_connecting hphase).1
      exact htaken ▸ List.prefix_rfl
  | streaming connection =>
      obtain ⟨past, request, incoming, seen, rfl, rfl, -, -, hreading⟩ := h.of_streaming hphase
      rw [flatMap_heardBlocks_snoc]
      exact (List.prefix_append_right_inj _).2 hreading.prefix_heardBlocks
  | done =>
      rcases h.of_done hphase with ⟨-, hfront⟩ | ⟨-, htaken, -⟩
      · exact hfront
      · exact htaken ▸ List.prefix_rfl

/-- The contacts and pulls of a number of steps, or of fewer where one of them fails, and where they
lead. -/
def Session.walk (connector : Connector) (session : Session) (traffic : Traffic) :
    Nat → List Contact × List Pull × Session × Traffic
  | 0 => ([], [], session, traffic)
  | count + 1 =>
      let (contacts, pulls, session, traffic) := walk connector session traffic count
      match session.step connector traffic with
      | .ok ((next, pull), after) =>
          (contacts ++ next.newContacts traffic after, pulls ++ pull.toList, next, after)
      | .error _ => (contacts, pulls, session, traffic)

theorem Course.walk (connector : Connector) (session : Session) (traffic : Traffic) (count : Nat) :
    let parts := session.walk connector traffic count
    Course connector session traffic parts.1 parts.2.1 parts.2.2.1 parts.2.2.2 := by
  induction count with
  | zero => exact .nil
  | succ count ih =>
      simp only [Session.walk]
      split
      · next next pull after hstep => exact ih.step hstep
      · exact ih

/-- A connector with one endpoint. -/
def Connector.sample : Connector where
  definition := (Definition.new "sse" "http://h").withEndpoint "events" (.new "/")
  validator := none

def EventStream.StreamOptions.sample : StreamOptions :=
  StreamRequest.empty.resolve .empty (.ofSeconds 30)

def Traffic.sample (reactions : List Http.Reaction) : Traffic :=
  .start (.scripted reactions) [] ⟨0⟩

/-- A successful answer whose body comes in chunks and ends in some way. -/
def Http.Reaction.sample (chunks : List (List UInt8)) (ending : Http.Ending) : Http.Reaction :=
  .answer { status := 200, headers := [], chunks, ending }

end ApiBridge
