import ApiBridge.Proofs.Connector.Course
import ApiBridge.Proofs.Http.Header

namespace ApiBridge

open EventStream

/-- The values of the headers of a request that tell the last event. -/
def Http.Request.lastEventIds (request : Http.Request) : List String :=
  (request.headers.filter fun header =>
    Text.equalFold header.1 Connector.lastEventHeader).map Prod.snd

theorem EventStream.Block.filter_lastId? (blocks : List Block) :
    (lastId? blocks).filter (fun id => !id.isEmpty) = lastId? blocks := by
  cases hlast : lastId? blocks with
  | none => rfl
  | some id =>
      obtain ⟨block, -, hid⟩ := List.mem_filterMap.1 (List.mem_of_getLast? hlast)
      rw [Option.filter_eq_some_iff] at hid
      rw [Option.filter_some, if_pos hid.2]

theorem Connector.lastEventIds_prepareStream {connector : Connector} {name : String}
    {params : Table Json} {blocks : List Block} {request : Http.Request}
    (hplain : ∀ plain, connector.prepare name params = .ok plain → plain.lastEventIds = [])
    (hrequest : connector.prepareStream name params (Block.lastId? blocks) = .ok request) :
    request.lastEventIds = (Block.lastId? blocks).toList := by
  unfold prepareStream at hrequest
  rw [Block.filter_lastId?] at hrequest
  cases hprepare : connector.prepare name params with
  | error error => simp [hprepare, bind, Except.bind] at hrequest
  | ok plain =>
      have hnone := hplain plain hprepare
      rw [Http.Request.lastEventIds, List.map_eq_nil_iff] at hnone
      rw [hprepare] at hrequest
      obtain rfl := Except.ok.inj hrequest
      have haccept := Http.Header.filter_putIfAbsent
        (fun name => Text.equalFold name lastEventHeader) "Accept" (by decide +kernel)
        plain.headers "text/event-stream"
      have hcontrol := Http.Header.filter_putIfAbsent
        (fun name => Text.equalFold name lastEventHeader) "Cache-Control" (by decide +kernel)
        (Http.Header.putIfAbsent plain.headers "Accept" "text/event-stream") "no-cache"
      rw [haccept, hnone] at hcontrol
      rw [Http.Request.lastEventIds]
      cases Block.lastId? blocks with
      | none => exact congrArg (List.map Prod.snd) hcontrol
      | some id =>
          have hput := Table.filter_put_of_absent
            (fun name => Text.equalFold name lastEventHeader) lastEventHeader (by decide +kernel) id
            fun header hheader =>
              Bool.eq_false_iff.2 (List.filter_eq_nil_iff.1 hcontrol header hheader)
          exact congrArg (List.map Prod.snd) hput

theorem Connector.lastEventIds_sample {plain : Http.Request}
    (hprepare : Connector.sample.prepare "events" [] = .ok plain) : plain.lastEventIds = [] := by
  have hnone : (Connector.sample.prepare "events" []).toOption.all
      (fun plain => plain.lastEventIds.isEmpty) = true := by decide +kernel
  rw [hprepare] at hnone
  exact List.isEmpty_iff.1 hnone

/-- The requests of contacts, each with the wait after it: the last retry time of all blocks up to
then, or the delay that is set where there was none. -/
def ledger (delay : Duration) (past : List Contact) : List Contact → List Mark
  | [] => []
  | contact :: rest =>
      .request contact.request ::
        .wait (Block.lastDelay delay ((past ++ [contact]).flatMap Contact.heardBlocks)) ::
        ledger delay (past ++ [contact]) rest

theorem ledger_snoc (delay : Duration) (past contacts : List Contact) (contact : Contact) :
    ledger delay past (contacts ++ [contact]) =
      ledger delay past contacts ++ [.request contact.request] ++
        [.wait (Block.lastDelay delay
          ((past ++ contacts ++ [contact]).flatMap Contact.heardBlocks))] := by
  induction contacts generalizing past with
  | nil => simp [ledger]
  | cons first rest ih => simp [ledger, ih]

theorem Traffic.marks_add (traffic : Traffic) (act : Act) :
    (traffic.add act).marks = traffic.marks ++ act.marks := by
  simp [marks, add]

theorem Attempt.marks_eq {connector : Connector} {endpoint : String} {request : Http.Request}
    {incoming : Option Http.Incoming} {before after : Traffic}
    (h : Attempt connector endpoint request before incoming after)
    (hlimiter : before.limiters.find? endpoint = none) :
    after.marks = before.marks ++ [.request request] := by
  obtain ⟨waits, rest, hlog, hrest, hwaits⟩ := h.log_eq
  have hsilent : rest.flatMap Act.marks = [] := List.flatMap_eq_nil_iff.2 hrest
  rw [Traffic.marks, hlog, List.flatMap_append, hwaits hlimiter, List.flatMap_cons,
    List.flatMap_cons, hsilent]
  rfl

def Session.isConnecting (session : Session) : Bool :=
  match session.phase with
  | .connecting => true
  | _ => false

namespace Course

variable {connector : Connector} {endpoint : String} {params : Table Json}
  {options : StreamOptions} {start traffic after : Traffic} {session next : Session}
  {contacts : List Contact} {taken : List Block} {pulls : List Pull} {pull : Option Pull}

theorem marks_of_departure {first : Session} {past : List Contact} {contact : Contact}
    {failure : Option Error} {marks : List Mark} (hphase : session.phase = .done)
    (hdeparture : session.Departure traffic failure next pull after)
    (hprogress : Progress connector first start (past ++ [contact]) taken pulls next after)
    (hmarks : traffic.marks = marks ++ (ledger first.delay [] (past ++ [contact])).dropLast) :
    after.marks = marks ++ if next.isConnecting then ledger first.delay [] (past ++ [contact])
      else (ledger first.delay [] (past ++ [contact])).dropLast := by
  cases hdeparture with
  | again hallows =>
      have hdelay := hprogress.tally.delay_eq
      rw [(hprogress.of_connecting rfl).1] at hdelay
      change session.delay = _ at hdelay
      rw [ledger_snoc, List.dropLast_concat] at hmarks
      rw [Traffic.marks_add, hmarks, hdelay, List.append_assoc, ledger_snoc]
      rfl
  | stop hallows =>
      simp only [Session.isConnecting, hphase]
      exact hmarks

theorem marks_step {first : Session} {more : List Contact} {marks : List Mark} {read : List Block}
    (h : Progress connector first start contacts taken pulls session traffic)
    (hafter : Progress connector first start (contacts ++ more) read (pulls ++ pull.toList) next
      after)
    (hlimiter : traffic.limiters.find? first.endpoint = none)
    (hmarks : traffic.marks = marks ++ if session.isConnecting then ledger first.delay [] contacts
      else (ledger first.delay [] contacts).dropLast)
    (hstep : session.Transition connector traffic next pull more after) :
    after.limiters.find? first.endpoint = none ∧
      after.marks = marks ++ if next.isConnecting then ledger first.delay [] (contacts ++ more)
        else (ledger first.delay [] (contacts ++ more)).dropLast := by
  cases hstep with
  | give hready =>
      rw [List.append_nil]
      exact ⟨hlimiter, hmarks⟩
  | ended hready hphase =>
      rw [List.append_nil]
      exact ⟨hlimiter, hmarks⟩
  | misconfigured hready hphase hrequest =>
      rw [h.tally.endpoint_eq] at hrequest
      have hnone := h.history.eq_nil_of_endpoint (Connector.prepareStream_eq_error hrequest).1
      refine ⟨hlimiter, ?_⟩
      simpa [hnone, ledger] using hmarks
  | opened hready hphase hrequest hattempt =>
      rw [h.tally.endpoint_eq] at hattempt
      simp only [Session.isConnecting, hphase, if_true] at hmarks
      refine ⟨by rw [hattempt.limiters_eq hlimiter]; exact hlimiter, ?_⟩
      rw [hattempt.marks_eq hlimiter, hmarks, ledger_snoc, List.dropLast_concat, List.append_assoc]
      rfl
  | @refused request middle _ _ _ _ hready hphase hrequest hattempt hdeparture =>
      rw [h.tally.endpoint_eq] at hattempt
      simp only [Session.isConnecting, hphase, if_true] at hmarks
      have hlimiters : middle.limiters.find? first.endpoint = none := by
        rw [hattempt.limiters_eq hlimiter]
        exact hlimiter
      refine ⟨by cases hdeparture <;> exact hlimiters, ?_⟩
      refine marks_of_departure rfl hdeparture hafter ?_
      rw [hattempt.marks_eq hlimiter, hmarks, ledger_snoc, List.dropLast_concat, List.append_assoc]
  | read hready hphase hnext hpush htake =>
      rw [List.append_nil]
      simp only [Session.isConnecting, hphase] at hmarks
      exact ⟨hlimiter, hmarks⟩
  | filled hready hphase hnext hpush htake =>
      rw [List.append_nil]
      simp only [Session.isConnecting, hphase] at hmarks
      simp only [Session.isConnecting,
        hafter.phase_of_isFull (Session.isFull_of_takeLines htake)]
      exact ⟨hlimiter, hmarks⟩
  | lost hready hphase hlost hdeparture =>
      simp only [Session.isConnecting, hphase] at hmarks
      obtain ⟨past, request, incoming, -, rfl, -⟩ := h.of_streaming hphase
      rw [List.append_nil] at hafter ⊢
      exact ⟨by cases hdeparture <;> exact hlimiter,
        marks_of_departure rfl hdeparture hafter hmarks⟩
  | completed hready hphase hnext hlast hfull =>
      rw [List.append_nil]
      simp only [Session.isConnecting, hphase] at hmarks
      simp only [Session.isConnecting, hafter.phase_of_isFull hfull]
      exact ⟨hlimiter, hmarks⟩
  | closed hready hphase hnext hlast hfull hdeparture =>
      simp only [Session.isConnecting, hphase] at hmarks
      have hdone := (h.takeEnd hphase hnext hlast).2.1
      obtain ⟨past, request, incoming, -, rfl, -⟩ := h.of_streaming hphase
      rw [List.append_nil] at hafter ⊢
      exact ⟨by cases hdeparture <;> exact hlimiter,
        marks_of_departure hdone hdeparture hafter hmarks⟩

theorem marks_eq
    (h : Course connector (.start endpoint params options) start contacts pulls session traffic)
    (hlimiter : start.limiters.find? endpoint = none) :
    traffic.limiters.find? endpoint = none ∧
      traffic.marks = start.marks ++
        if session.isConnecting then ledger options.reconnectDelay [] contacts
        else (ledger options.reconnectDelay [] contacts).dropLast := by
  induction h with
  | nil =>
      refine ⟨hlimiter, ?_⟩
      rw [ledger, List.dropLast_nil, ite_self, List.append_nil]
  | step hcourse hstep ih =>
      obtain ⟨taken, hprogress⟩ := hcourse.progress
      obtain ⟨read, hafter⟩ := (hcourse.step hstep).progress
      exact marks_step hprogress hafter ih.1 ih.2 (Session.step_transition hstep)

theorem of_done (h : Course connector session traffic contacts pulls next after)
    (hphase : session.phase = .done) : next.phase = .done ∧ contacts = [] ∧ after = traffic := by
  induction h with
  | nil => exact ⟨hphase, rfl, rfl⟩
  | step hcourse hstep ih =>
      obtain ⟨hdone, rfl, rfl⟩ := ih
      generalize hmore : Session.newContacts _ _ _ = more
      have htransition := Session.step_transition hstep
      rw [hmore] at htransition
      cases htransition with
      | give hready => exact ⟨hdone, rfl, rfl⟩
      | ended hready hphase => exact ⟨hdone, rfl, rfl⟩
      | misconfigured hready hphase => simp [hdone] at hphase
      | opened hready hphase => simp [hdone] at hphase
      | refused hready hphase => simp [hdone] at hphase
      | read hready hphase => simp [hdone] at hphase
      | filled hready hphase => simp [hdone] at hphase
      | lost hready hphase => simp [hdone] at hphase
      | completed hready hphase => simp [hdone] at hphase
      | closed hready hphase => simp [hdone] at hphase

theorem phase_of_last {first : Session}
    (h : Course connector first start contacts pulls session traffic)
    (hlast : ∃ last ∈ pulls, last.event? = none) : session.phase = .done := by
  induction h with
  | nil => simp at hlast
  | step hcourse hstep ih =>
      obtain ⟨last, hmem, hnone⟩ := hlast
      rcases List.mem_append.1 hmem with hearlier | hnow
      · exact (of_done (Course.nil.step hstep) (ih ⟨last, hearlier, hnone⟩)).1
      · rw [Option.mem_toList] at hnow
        obtain rfl := hnow
        exact ((Session.step_transition hstep).rest_of_pull hnone).1

theorem allows_of_length
    (h : Course connector (.start endpoint params options) start contacts pulls session traffic)
    {count : Nat} (hlength : contacts.length = count + 1) : options.allows count = true := by
  obtain ⟨taken, hprogress⟩ := h.progress
  rcases List.eq_nil_or_concat contacts with rfl | ⟨past, last, rfl⟩
  · simp at hlength
  · rw [List.concat_eq_append, List.length_append, List.length_singleton,
      Nat.add_right_cancel_iff] at hlength
    have hhistory := hprogress.history
    rw [List.concat_eq_append] at hhistory
    rw [← hlength]
    exact hhistory.of_append_cons.1

theorem wait_notMem_ledger (hlength : contacts.length ≤ 1) (delay wait : Duration) :
    Mark.wait wait ∉ (ledger delay [] contacts).dropLast := by
  cases contacts with
  | nil => simp [ledger]
  | cons contact rest =>
      obtain rfl : rest = [] := List.eq_nil_of_length_eq_zero (by simpa using hlength)
      simp [ledger]

/-- What holds of the reconnects of a stream at any time. Its requests and waits take turns, and
each wait is the last retry time of the blocks so far. Each request tells the last id of the blocks
before it, and no other. There are no more contacts than are allowed, and no waits where there is
only one. Nothing shows any more once all events have been read that are asked for, or a pull has
given something else than an event. -/
theorem bookkeeping (hlimiter : start.limiters.find? endpoint = none)
    (hplain : ∀ plain, connector.prepare endpoint params = .ok plain → plain.lastEventIds = [])
    (h : Course connector (.start endpoint params options) start contacts pulls session traffic) :
    (∃ marks, traffic.marks = start.marks ++ marks ∧
      (marks = if session.isConnecting then ledger options.reconnectDelay [] contacts
        else (ledger options.reconnectDelay [] contacts).dropLast) ∧
      (options.reconnect = false → ∀ wait, .wait wait ∉ marks)) ∧
    (∀ past contact later, contacts = past ++ contact :: later →
      contact.request.lastEventIds =
        (Block.lastId? (past.flatMap Contact.heardBlocks)).toList) ∧
    (options.reconnect = false → contacts.length ≤ 1) ∧
    (∀ limit, options.maxReconnectAttempts = some limit → contacts.length ≤ limit + 1) ∧
    (session.isFull = true ∨ (∃ last ∈ pulls, last.event? = none) →
      ∀ {more given later final}, Course connector session traffic more given later final →
        more = [] ∧ final = traffic) := by
  obtain ⟨taken, hprogress⟩ := h.progress
  have hallows : ∀ count, contacts.length = count + 1 → options.allows count = true :=
    fun count hlength => h.allows_of_length hlength
  have honce : options.reconnect = false → contacts.length ≤ 1 := by
    intro hreconnect
    rcases Nat.lt_or_ge 1 contacts.length with hmany | hfew
    · have hallow := hallows (contacts.length - 1) (by omega)
      rw [StreamOptions.allows, hreconnect, Bool.false_and, Bool.or_false, beq_iff_eq] at hallow
      omega
    · exact hfew
  refine ⟨⟨_, (h.marks_eq hlimiter).2, rfl, ?_⟩, ?_, honce, ?_, ?_⟩
  · intro hreconnect wait
    cases hphase : session.phase with
    | connecting =>
        obtain ⟨-, -, -, hallow⟩ := hprogress.of_connecting hphase
        change options.allows contacts.length = true at hallow
        rw [StreamOptions.allows, hreconnect, Bool.false_and, Bool.or_false, beq_iff_eq,
          List.length_eq_zero_iff] at hallow
        simp [hallow, ledger]
    | _ =>
        simp only [Session.isConnecting, hphase]
        exact wait_notMem_ledger (honce hreconnect) _ wait
  · rintro past contact later rfl
    exact Connector.lastEventIds_prepareStream hplain hprogress.history.of_append_cons.2.1
  · intro limit hlimit
    rcases Nat.lt_or_ge (limit + 1) contacts.length with hmany | hfew
    · have hallow := hallows (contacts.length - 1) (by omega)
      rw [StreamOptions.allows, hlimit, Option.any_some, Bool.or_eq_true, beq_iff_eq,
        Bool.and_eq_true, Bool.not_eq_true', decide_eq_false_iff_not] at hallow
      omega
    · exact hfew
  · intro hover more given later final hlater
    have hdone : session.phase = .done := by
      rcases hover with hfull | hlast
      · exact hprogress.phase_of_isFull hfull
      · exact h.phase_of_last hlast
    exact (of_done hlater hdone).2

/-- A stream that is refused once, reads a retry time and an id on a second connection that breaks
off, and may connect again once more. -/
theorem bookkeeping_sample :
    let options := { StreamOptions.sample with maxReconnectAttempts := some 2 }
    let start := Traffic.sample
      [.hangUp, .sample [Utf8.encode "id: 7\nretry: 5\ndata: a\n\nid: 8\n"] .cut]
    ∃ results after contacts pulls session,
      (Session.start "events" [] options).drainWithin .sample 20 start = .ok (results, after) ∧
      Course .sample (.start "events" [] options) start contacts pulls session after ∧
      (∃ marks, after.marks = start.marks ++ marks ∧
        (marks = if session.isConnecting then ledger options.reconnectDelay [] contacts
          else (ledger options.reconnectDelay [] contacts).dropLast) ∧
        (options.reconnect = false → ∀ wait, .wait wait ∉ marks)) ∧
      (∀ past contact later, contacts = past ++ contact :: later →
        contact.request.lastEventIds =
          (Block.lastId? (past.flatMap Contact.heardBlocks)).toList) ∧
      contacts.length ≤ 2 + 1 := by
  intro options start
  obtain ⟨results, after, hdrain⟩ : ∃ results after,
      (Session.start "events" [] options).drainWithin .sample 20 start = .ok (results, after) :=
    Run.exists_of_isOk (by decide +kernel)
  obtain ⟨contacts, pulls, session, hcourse, -⟩ := Session.course_of_drainWithin hdrain .nil
  obtain ⟨hmarks, hids, -, hlimit, -⟩ :=
    bookkeeping (by decide +kernel) (fun _ => Connector.lastEventIds_sample) hcourse
  exact ⟨results, after, contacts, pulls, session, hdrain, hcourse, hmarks, hids, hlimit 2 rfl⟩

end Course

end ApiBridge
