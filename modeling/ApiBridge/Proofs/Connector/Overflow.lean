import ApiBridge.Proofs.Connector.Termination

/-!
What a session has made of a connection when it leaves it: it has taken in the blocks that have come
in whole, except those that end in a chunk that fails the line buffer.
-/

namespace ApiBridge

open EventStream

/-- The bytes that come in when a body is read on. -/
def Http.Arrival.bytes : Http.Arrival → List UInt8
  | .chunk bytes _ => bytes
  | _ => []

theorem Session.exists_connection {session : Session} (h : session.incoming?.isSome = true) :
    ∃ connection, session.phase = .streaming connection := by
  cases hphase : session.phase with
  | streaming connection => exact ⟨connection, rfl⟩
  | _ => simp [incoming?, hphase] at h

/-- Having taken blocks in is having taken in more of them just if these have no effect. -/
theorem Tally.append_iff {first session : Session} {taken : List Block} {pulls : List Pull}
    (h : Tally first taken pulls session) (more : List Block) :
    Tally first (taken ++ more) pulls session ↔ session.takeBlocks more = session := by
  constructor
  · intro hmore
    have hdelay := hmore.delay_eq
    have hid := hmore.lastEventId_eq
    have hready := hmore.ready_eq
    rw [Block.lastDelay_append, ← h.delay_eq] at hdelay
    rw [Block.lastId?_append, ← h.lastEventId_eq] at hid
    rw [Block.events_append, ← h.ready_eq, List.self_eq_append_right, ← h.options_eq] at hready
    rw [Session.takeBlocks, ← hdelay, ← hid, hready, List.append_nil]
    rfl
  · intro hsame
    have hmore := h.takeBlocks more (by rw [hsame]; exact h.isWithin)
    rwa [hsame] at hmore

theorem Reading.lost_of_error {incoming : Http.Incoming} {seen chunk : List UInt8}
    {connection : Connection} (h : Reading incoming seen connection) {error : Error}
    {buffer : LineBuffer} (hpush : connection.lines.push chunk = (.error error, buffer)) :
    ∃ lost, blocks false (seen ++ chunk) = blocks false seen ++ lost ∧
      maxLineBytes < (splitLines (seen ++ chunk)).2.length := by
  obtain ⟨lost, hlost⟩ := blocks_false_isPrefix (List.prefix_append seen chunk) false
  exact ⟨lost, hlost.symm, (h.overlong_of_error hpush).1⟩

variable {connector : Connector} {endpoint : String} {params : Table Json}
  {options : StreamOptions} {first session next : Session} {start traffic after : Traffic}
  {contacts more : List Contact} {taken : List Block} {pulls : List Pull} {pull : Option Pull}

theorem Progress.leave (h : Progress connector first start contacts taken pulls session traffic)
    {past : List Contact} {request : Http.Request} {incoming : Http.Incoming} {seen : List UInt8}
    {connection : Connection} (hphase : session.phase = .streaming connection)
    (hcontacts : contacts = past ++ [{ request, incoming := some incoming }])
    (htaken : taken = past.flatMap Contact.heardBlocks ++ blocks false seen)
    (hreading : Reading incoming seen connection)
    (hstep : session.Transition connector traffic next pull more after)
    (hleft : next.incoming? = none) (hopen : next.isFull = false) :
    session.ready = [] ∧ ∃ lost,
      let arrival := connection.incoming.next
      let received := seen ++ arrival.bytes
      blocks (arrival == .finished) received = blocks (arrival == .finished) seen ++ lost ∧
      (lost ≠ [] → maxLineBytes < (splitLines received).2.length) ∧
      Tally first (past.flatMap Contact.heardBlocks ++ blocks (arrival == .finished) seen)
        (pulls ++ pull.toList) next := by
  cases hstep with
  | give hready => simp [Session.incoming?, hphase] at hleft
  | ended hready hdone => simp [hdone] at hphase
  | misconfigured hready hconnecting => simp [hconnecting] at hphase
  | opened hready hconnecting => simp [hconnecting] at hphase
  | refused hready hconnecting => simp [hconnecting] at hphase
  | read hready hstreaming hnext hpush htake => simp [Session.incoming?] at hleft
  | filled hready hstreaming hnext hpush htake =>
      rw [Session.isFull_of_takeLines htake] at hopen
      simp at hopen
  | completed hready hstreaming hnext hlast hfull => simp [hfull] at hopen
  | lost hready hstreaming hlost hdeparture =>
      obtain rfl := Phase.streaming.inj (hphase.symm.trans hstreaming)
      have htally := (h.lost hphase hlost hdeparture).tally
      rw [htaken] at htally
      refine ⟨hready, ?_⟩
      rcases hlost with ⟨chunk, rest, error, buffer, hnext, hpush⟩ | hnext | hnext
      · obtain ⟨lost, hblocks, hlong⟩ := hreading.lost_of_error hpush
        rw [hnext]
        exact ⟨lost, hblocks, fun _ => hlong, htally⟩
      · rw [hnext]
        exact ⟨[], by simp [Http.Arrival.bytes], by simp, htally⟩
      · rw [hnext]
        exact ⟨[], by simp [Http.Arrival.bytes], by simp, htally⟩
  | closed hready hstreaming hnext hlast hfull hdeparture =>
      obtain rfl := Phase.streaming.inj (hphase.symm.trans hstreaming)
      have htally := (h.closed hphase hnext hlast hfull hdeparture).tally
      rw [hcontacts, flatMap_heardBlocks_snoc, Option.elim_some,
        hreading.heardBlocks_of_finished hnext] at htally
      rw [hnext]
      exact ⟨hready, [], by simp [Http.Arrival.bytes], by simp, htally⟩

/-- When a session leaves a connection, to connect again or for good, it has given all events of the
blocks that it has taken in before. It has taken in the blocks of all bytes that it has received on
this connection just if those are without effect that were ended by a chunk which has failed the
line buffer. -/
theorem Course.taken_of_departure {connection : Connection}
    (h : Course connector (.start endpoint params options) start contacts pulls session traffic)
    (hphase : session.phase = .streaming connection)
    (hstep : session.step connector traffic = .ok ((next, pull), after))
    (hleft : next.incoming? = none) (hopen : next.isFull = false) :
    ∃ past request incoming seen lost,
      contacts = past ++ [{ request, incoming := some incoming }] ∧
      incoming.chunks.flatten = seen ++ connection.incoming.chunks.flatten ∧
      let arrival := connection.incoming.next
      let received := seen ++ arrival.bytes
      let earlier := past.flatMap Contact.heardBlocks
      let first := Session.start endpoint params options
      blocks (arrival == .finished) received = blocks (arrival == .finished) seen ++ lost ∧
      (lost ≠ [] → maxLineBytes < (splitLines received).2.length) ∧
      pulls.filterMap Pull.event? =
        Block.events options.decodeJson (earlier ++ blocks false seen) ∧
      Tally first (earlier ++ blocks (arrival == .finished) seen) (pulls ++ pull.toList) next ∧
      (Tally first (earlier ++ blocks (arrival == .finished) received) (pulls ++ pull.toList)
          next ↔ next.takeBlocks lost = next) := by
  obtain ⟨taken, hprogress⟩ := h.progress
  obtain ⟨past, request, incoming, seen, hcontacts, htaken, -, -, hreading⟩ :=
    hprogress.of_streaming hphase
  obtain ⟨hready, lost, hblocks, hlong, htally⟩ := hprogress.leave hphase hcontacts htaken hreading
    (Session.step_transition hstep) hleft hopen
  have hgiven := hprogress.tally.ready_eq
  rw [hready, List.append_nil, htaken] at hgiven
  refine ⟨past, request, incoming, seen, lost, hcontacts, hreading.flatten_eq, hblocks, hlong,
    hgiven, htally, ?_⟩
  rw [hblocks, ← List.append_assoc]
  exact htally.append_iff lost

/-- A stream that breaks off in the middle of its second block. -/
theorem Course.taken_of_departure_cut :
    let options := StreamOptions.sample
    let first := Session.start "events" [] options
    let start := Traffic.sample [.sample [Utf8.encode "id: 7\ndata: a\n\nid: 8\n"] .cut]
    ∃ contacts pulls session traffic next pull after connection seen, ∃ past : List Contact,
      Course .sample first start contacts pulls session traffic ∧
      session.phase = .streaming connection ∧
      session.step .sample traffic = .ok ((next, pull), after) ∧
      next.incoming? = none ∧ next.isFull = false ∧ next.lastEventId = some "7" ∧
      Tally first (past.flatMap Contact.heardBlocks ++
        blocks (connection.incoming.next == .finished) seen) (pulls ++ pull.toList) next := by
  intro options first start
  have hcourse := Course.walk .sample first start 3
  generalize hparts : first.walk .sample start 3 = parts at hcourse
  have hreading : parts.2.2.1.incoming?.isSome = true := by
    subst hparts
    decide +kernel
  have hleaving : (parts.2.2.1.step .sample parts.2.2.2).toOption.any (fun result =>
      result.1.1.incoming?.isNone && !result.1.1.isFull &&
        result.1.1.lastEventId == some "7") = true := by
    subst hparts
    decide +kernel
  obtain ⟨connection, hphase⟩ := Session.exists_connection hreading
  obtain ⟨⟨next, pull⟩, after, hstep, htest⟩ := Run.exists_of_any hleaving
  simp only [Bool.and_eq_true, Option.isNone_iff_eq_none, Bool.not_eq_true', beq_iff_eq] at htest
  obtain ⟨⟨hleft, hopen⟩, hid⟩ := htest
  obtain ⟨past, _, _, seen, _, -, -, -, -, -, htally, -⟩ :=
    hcourse.taken_of_departure hphase hstep hleft hopen
  exact ⟨_, _, _, _, next, pull, after, connection, seen, past, hcourse, hphase, hstep, hleft,
    hopen, hid, htally⟩

theorem Http.Incoming.heardBlocks_of_overlong {body tail : List UInt8}
    (hbody : endsInReturn false body = false) (hended : (splitLines body).2 = [])
    (htail : ∀ byte ∈ tail, isLineEnd byte = false) (hlong : maxLineBytes < tail.length)
    (ending : Http.Ending) :
    heardBlocks { chunks := [body, tail], ending } = EventStream.blocks false body ∧
      heardBlocks { chunks := [body ++ tail], ending } = [] := by
  have hsplit : (splitLines (body ++ tail)).2 = tail := by
    rw [splitLines_append, hended, hbody, List.nil_append, dropFeeds_of_forall htail,
      cut_of_forall htail]
  have hover : maxLineBytes < (splitLines (body ++ tail)).2.length := by rwa [hsplit]
  have hshort : ¬ maxLineBytes < (splitLines ([] ++ body)).2.length := by
    rw [List.nil_append, hended]
    exact Nat.not_lt_zero _
  have happart : heard maxLineBytes [] [body, tail] = (body, false) := by
    rw [heard_cons_of_not_lt hshort, List.nil_append, heard_cons_of_lt hover]
  have htogether : heard maxLineBytes [] [body ++ tail] = ([], false) := heard_cons_of_lt hover
  constructor
  · rw [heardBlocks, isHeard, happart, Bool.false_and]
  · rw [heardBlocks, isHeard, htogether, Bool.false_and]
    rfl

theorem Connector.meet_sample {request : Http.Request} {reaction : Http.Reaction}
    (hrequest : Connector.sample.prepareStream "events" [] none = .ok request) :
    ((Http.Peer.scripted [reaction]).meet Connector.sample.definition.auth request).1 =
      reaction.incoming? := by
  have hgoesOut : (Connector.sample.prepareStream "events" [] none).toOption.all fun request =>
      (Http.Outgoing.ofRequest request Connector.sample.definition.auth).isOk := by decide +kernel
  rw [hrequest, Except.toOption, Option.all_some] at hgoesOut
  rw [Http.Peer.meet]
  cases houtgoing : Http.Outgoing.ofRequest request Connector.sample.definition.auth with
  | error error => simp [houtgoing, Except.isOk, Except.toBool] at hgoesOut
  | ok outgoing => rfl

theorem Session.events_of_one_answer {reaction : Http.Reaction} {incoming : Http.Incoming}
    {results : List (Except Error Event)} (hreconnect : options.reconnect = false)
    (hall : options.maxEvents = none) (hincoming : reaction.incoming? = some incoming)
    (hdrain : (Session.start "events" [] options).drain .sample (Traffic.sample [reaction]) =
      .ok (results, after)) :
    results.filterMap Except.toOption =
      Block.events options.decodeJson incoming.heardBlocks := by
  obtain ⟨_, _, hget, hdrain⟩ := Run.bind_eq_ok.1 hdrain
  obtain ⟨rfl, rfl⟩ := Run.get_eq_ok.1 hget
  obtain ⟨contacts, pulls, last, hcourse, hphase, hready, hevents⟩ :=
    course_of_drainWithin hdrain .nil
  obtain ⟨taken, hprogress⟩ := hcourse.progress
  have hgiven := hprogress.tally.ready_eq
  rw [hready, List.append_nil, hevents, List.filterMap_nil, List.nil_append] at hgiven
  rw [hgiven]
  rcases hprogress.of_done hphase with ⟨hfull, -⟩ | ⟨-, htaken, hstop | ⟨error, herror⟩⟩
  · rw [isFull, hprogress.tally.options_eq] at hfull
    change options.maxEvents.any _ = true at hfull
    simp [hall] at hfull
  · change options.allows contacts.length = false at hstop
    cases contacts with
    | nil => simp [StreamOptions.allows] at hstop
    | cons contact rest =>
        have hallows : options.allows rest.length = true := hcourse.allows_of_length rfl
        obtain rfl : rest = [] := by simpa [StreamOptions.allows, hreconnect] using hallows
        have hone : IsHistory _ _ _ ([] ++ contact :: []) := hprogress.history
        obtain ⟨-, hrequest, hmeet⟩ := hone.of_append_cons
        have hbody : contact.incoming = some incoming :=
          hmeet.trans ((Connector.meet_sample hrequest).trans hincoming)
        rw [htaken, List.flatMap_singleton, Contact.heardBlocks, hbody]
        rfl
  · have hendpoint : Connector.sample.endpoint "events" = .ok (.new "/") := rfl
    change Connector.sample.endpoint "events" = .error error at herror
    simp [hendpoint] at herror

/-- Two bodies of the same bytes, an event and a line that is too long. The event is given where the
line comes in a chunk of its own, and lost where both come in one chunk. -/
theorem Session.overflow_drops_event :
    let options := { StreamOptions.sample with reconnect := false }
    let event := Utf8.encode "data: a\n\n"
    let tail := List.replicate (maxLineBytes + 1) 0x78
    let apart := Traffic.sample [.sample [event, tail] .complete]
    let together := Traffic.sample [.sample [event ++ tail] .complete]
    ∃ results after answers last,
      (Session.start "events" [] options).drain .sample apart = .ok (results, after) ∧
      (Session.start "events" [] options).drain .sample together = .ok (answers, last) ∧
      (results.filterMap Except.toOption).length = 1 ∧
      answers.filterMap Except.toOption = [] := by
  intro options event tail apart together
  have hdrain : ∀ start, start.limiters = [] → ∃ results after,
      (Session.start "events" [] options).drain .sample start = .ok (results, after) := by
    intro start hlimiters
    exact exists_drain (by rw [hlimiters]; rfl) (by simp [options]) .sample []
  obtain ⟨results, after, hapart⟩ := hdrain apart rfl
  obtain ⟨answers, last, htogether⟩ := hdrain together rfl
  -- The tail is too long to run the stream on it, but its bytes are all the same.
  have hclean : ∀ byte ∈ tail, isLineEnd byte = false := by
    intro byte hbyte
    rw [List.eq_of_mem_replicate hbyte]
    rfl
  have hlong : maxLineBytes < tail.length := by
    rw [List.length_replicate]
    exact Nat.lt_succ_self _
  have hbody : endsInReturn false event = false := by decide +kernel
  have hended : (splitLines event).2 = [] := by decide +kernel
  obtain ⟨hheard, hlost⟩ :=
    Http.Incoming.heardBlocks_of_overlong hbody hended hclean hlong .complete
  refine ⟨results, after, answers, last, hapart, htogether, ?_, ?_⟩
  · rw [events_of_one_answer rfl rfl rfl hapart]
    change (Block.events _ (Http.Incoming.heardBlocks ⟨[event, tail], .complete⟩)).length = 1
    rw [hheard]
    decide +kernel
  · rw [events_of_one_answer rfl rfl rfl htogether]
    change Block.events _ (Http.Incoming.heardBlocks ⟨[event ++ tail], .complete⟩) = []
    rw [hlost]
    rfl

end ApiBridge
