import ApiBridge.Proofs.Connector.Refinement

namespace ApiBridge

open EventStream

def Act.pause? : Act → Option Duration
  | .pause d => some d
  | _ => none

theorem Act.pause?_of_marks {act : Act} (hmarks : act.marks = []) : act.pause? = none := by
  cases act with
  | pause d => simp [marks] at hmarks
  | _ => rfl

/-- The waits before a new connection that the log shows since an earlier state of the traffic. -/
def Traffic.pausesSince (before after : Traffic) : List Duration :=
  (after.log.drop before.log.length).filterMap Act.pause?

theorem Traffic.pausesSince_of_log {before after : Traffic} {more : List Act}
    (hlog : after.log = before.log ++ more) :
    before.pausesSince after = more.filterMap Act.pause? := by
  rw [pausesSince, hlog, List.drop_left]

@[simp] theorem Traffic.pausesSince_self (traffic : Traffic) : traffic.pausesSince traffic = [] :=
  pausesSince_of_log (List.append_nil _).symm

variable {connector : Connector} {session next : Session} {before middle after : Traffic}
  {pull : Option Pull} {failure : Option Error}

theorem Attempt.pausesSince_eq {endpoint : String} {request : Http.Request}
    {incoming : Option Http.Incoming} {more : List Act}
    (h : Attempt connector endpoint request before incoming middle)
    (hlog : after.log = middle.log ++ more) :
    before.pausesSince after = middle.pausesSince after := by
  obtain ⟨waits, rest, hattempt, hrest, -⟩ := h.log_eq
  have hsilent : rest.filterMap Act.pause? = [] :=
    List.filterMap_eq_nil_iff.2 fun act hact => Act.pause?_of_marks (hrest act hact)
  have hall : after.log = before.log ++
      (.turn endpoint waits :: .attempt request :: rest ++ more) := by
    rw [hlog, hattempt, List.append_assoc]
  have hfront : (Act.turn endpoint waits :: .attempt request :: rest).filterMap Act.pause? =
      rest.filterMap Act.pause? := rfl
  rw [Traffic.pausesSince_of_log hlog, Traffic.pausesSince_of_log hall, List.filterMap_append,
    hfront, hsilent, List.nil_append]

theorem Session.Departure.of_pause (h : session.Departure before failure next pull after)
    (hpause : before.pausesSince after ≠ []) :
    pull = none ∧ next.phase = .connecting ∧ next.ready = session.ready ∧
      after.log = before.log ++ [.pause next.delay] := by
  cases h with
  | again hallows => exact ⟨rfl, rfl, rfl, rfl⟩
  | stop hallows => simp at hpause

/-- The event that only the end of a body ends: that of its last block, if no blank line comes
behind it and it has data. -/
def Http.Incoming.trailing (decodeJson : Bool) (incoming : Http.Incoming) : List Event :=
  if incoming.isHeard && incoming.ending == .complete then
    Block.events decodeJson (Block.ofLines? (openBlock incoming.chunks.flatten)).toList
  else []

def Contact.trailing (decodeJson : Bool) (contact : Contact) : List Event :=
  contact.incoming.elim [] (Http.Incoming.trailing decodeJson)

theorem Contact.length_trailing_le (decodeJson : Bool) (contact : Contact) :
    (contact.trailing decodeJson).length ≤ 1 := by
  unfold trailing
  cases contact.incoming with
  | none => simp
  | some incoming =>
      rw [Option.elim_some, Http.Incoming.trailing]
      split
      · exact Nat.le_trans (List.length_filterMap_le _ _) (Session.length_ofLines?_le _)
      · simp

namespace Reading

variable {incoming : Http.Incoming} {seen : List UInt8} {connection : Connection}

theorem trailing_of_lost (h : Reading incoming seen connection)
    (hlost : (∃ chunk rest error buffer, connection.incoming.next = .chunk chunk rest ∧
        connection.lines.push chunk = (.error error, buffer)) ∨
      connection.incoming.next = .broken ∨ connection.incoming.next = .nothing)
    (decodeJson : Bool) : incoming.trailing decodeJson = [] := by
  rcases hlost with ⟨chunk, rest, error, buffer, hnext, hpush⟩ | hnext
  · rw [Http.Incoming.trailing, h.isHeard_of_error hnext hpush, Bool.false_and]
    rfl
  · rw [Http.Incoming.trailing, h.ending_eq, (Http.Incoming.next_eq_lost hnext).2, Bool.and_false]
    rfl

theorem trailing_of_finished (h : Reading incoming seen connection)
    (hnext : connection.incoming.next = .finished) (decodeJson : Bool) :
    incoming.trailing decodeJson = Block.events decodeJson
      (Block.ofLines? (connection.pending ++ connection.lines.finish.1.toList)).toList := by
  obtain ⟨hchunks, hending⟩ := Http.Incoming.next_eq_finished hnext
  have hall := h.flatten_eq
  rw [hchunks, List.flatten_nil, List.append_nil] at hall
  rw [Http.Incoming.trailing, h.isHeard hchunks, h.ending_eq, hending, hall, h.openBlock_eq]
  rfl

end Reading

variable {endpoint : String} {params : Table Json} {options : StreamOptions}
  {start traffic : Traffic} {contacts : List Contact} {pulls : List Pull}

/-- What is ready when a session waits is what the end of its last body has ended. -/
theorem Progress.waiting_of_pause {first : Session} {taken : List Block} {more : List Contact}
    (h : Progress connector first start contacts taken pulls session traffic)
    (hstep : session.Transition connector traffic next pull more after)
    (hpause : traffic.pausesSince after ≠ []) :
    session.ready = [] ∧ pull = none ∧ next.phase = .connecting ∧
      (∃ earlier, after.log = earlier ++ [.pause next.delay]) ∧
      ∃ past contact, contacts ++ more = past ++ [contact] ∧
        next.ready = contact.trailing first.options.decodeJson := by
  cases hstep with
  | give hready => simp at hpause
  | ended hready hphase => simp at hpause
  | misconfigured hready hphase hrequest => simp at hpause
  | opened hready hphase hrequest hattempt =>
      simp [hattempt.pausesSince_eq (List.append_nil _).symm] at hpause
  | refused hready hphase hrequest hattempt hdeparture =>
      obtain ⟨acts, hlog, -⟩ := hdeparture.log_eq
      rw [hattempt.pausesSince_eq hlog] at hpause
      obtain ⟨rfl, hconnecting, hsame, hlog⟩ := hdeparture.of_pause hpause
      exact ⟨hready, rfl, hconnecting, ⟨_, hlog⟩, contacts, _, rfl, hsame.trans hready⟩
  | read hready hphase hnext hpush htake => simp at hpause
  | filled hready hphase hnext hpush htake => simp at hpause
  | lost hready hphase hlost hdeparture =>
      obtain ⟨rfl, hconnecting, hsame, hlog⟩ := hdeparture.of_pause hpause
      obtain ⟨past, request, incoming, seen, rfl, -, -, -, hreading⟩ := h.of_streaming hphase
      refine ⟨hready, rfl, hconnecting, ⟨_, hlog⟩, past, _, List.append_nil _, ?_⟩
      exact (hsame.trans hready).trans (hreading.trailing_of_lost hlost _).symm
  | completed hready hphase hnext hlast hfull => simp at hpause
  | closed hready hphase hnext hlast hfull hdeparture =>
      obtain ⟨rfl, hconnecting, hsame, hlog⟩ := hdeparture.of_pause hpause
      obtain ⟨past, request, incoming, seen, rfl, -, -, -, hreading⟩ := h.of_streaming hphase
      refine ⟨hready, rfl, hconnecting, ⟨_, hlog⟩, past, _, List.append_nil _, ?_⟩
      rw [hsame, hlast, Session.takeBlock_eq, Session.takeBlocks]
      change session.ready ++ Block.events session.options.decodeJson _ = incoming.trailing _
      rw [hready, List.nil_append, h.tally.options_eq, hreading.trailing_of_finished hnext]

/-- Whenever a stream waits before it connects again, which is the last thing that a step does, all
events that it has received up to then have been given, except the one, if there is one, that only
the end of the last body has ended. A contact that has failed leaves none. The event is given as
soon as the wait is over, before the stream connects. -/
theorem Course.ready_of_pause
    (h : Course connector (.start endpoint params options) start contacts pulls session traffic)
    (hstep : session.step connector traffic = .ok ((next, pull), after))
    (hpause : traffic.pausesSince after ≠ []) :
    pull = none ∧ next.phase = .connecting ∧
      (∃ earlier, after.log = earlier ++ [.pause next.delay]) ∧
      ∃ past contact, contacts ++ next.newContacts traffic after = past ++ [contact] ∧
        pulls.filterMap Pull.event? ++ contact.trailing options.decodeJson =
          Block.events options.decodeJson ((past ++ [contact]).flatMap Contact.heardBlocks) ∧
        session.ready = [] ∧ next.ready = contact.trailing options.decodeJson ∧
        next.ready.length ≤ 1 ∧
        ∀ event, next.ready = [event] → ∀ later, next.step connector later =
          .ok (({ next with ready := [] }, some (.event event)), later) := by
  have htransition := Session.step_transition hstep
  obtain ⟨taken, hprogress⟩ := h.progress
  obtain ⟨read, hafter⟩ := hprogress.step htransition
  obtain ⟨hready, rfl, hphase, hlog, past, contact, hcontacts, hwaiting⟩ :=
    hprogress.waiting_of_pause htransition hpause
  have hwaiting : next.ready = contact.trailing options.decodeJson := hwaiting
  refine ⟨rfl, hphase, hlog, past, contact, hcontacts, ?_, hready, hwaiting, ?_, ?_⟩
  · have hgiven := hafter.tally.ready_eq
    rw [(hafter.of_connecting hphase).1, hcontacts, hwaiting, Option.toList_none,
      List.append_nil] at hgiven
    exact hgiven
  · rw [hwaiting]
    exact contact.length_trailing_le _
  · intro event hone later
    unfold Session.step
    rw [hone]
    rfl

/-- A body of two events of which no blank line ends the second one: the first one is given before
the wait, and the second one waits. -/
theorem Course.ready_of_pause_trailing :
    let first := Session.start "events" [] .sample
    let start := Traffic.sample [.sample [Utf8.encode "data: a\n\ndata: b"] .complete]
    ∃ contacts pulls session traffic next pull after past contact,
      Course .sample first start contacts pulls session traffic ∧
      session.step .sample traffic = .ok ((next, pull), after) ∧
      traffic.pausesSince after ≠ [] ∧ pulls.length = 1 ∧
      contacts ++ next.newContacts traffic after = past ++ [contact] ∧
      pulls.filterMap Pull.event? ++ contact.trailing true =
        Block.events true ((past ++ [contact]).flatMap Contact.heardBlocks) ∧
      next.ready = contact.trailing true ∧ next.ready.length = 1 := by
  intro first start
  have hcourse := Course.walk .sample first start 3
  generalize hparts : first.walk .sample start 3 = parts at hcourse
  have hpulls : parts.2.1.length = 1 := by
    subst hparts
    decide +kernel
  have hwaits : (parts.2.2.1.step .sample parts.2.2.2).toOption.any (fun result =>
      !(parts.2.2.2.pausesSince result.2).isEmpty && result.1.1.ready.length == 1) = true := by
    subst hparts
    decide +kernel
  obtain ⟨⟨next, pull⟩, after, hstep, htest⟩ := Run.exists_of_any hwaits
  simp only [Bool.and_eq_true, Bool.not_eq_true', beq_iff_eq, List.isEmpty_eq_false_iff] at htest
  obtain ⟨hpause, hlength⟩ := htest
  obtain ⟨-, -, -, past, contact, hcontacts, hgiven, -, hwaiting, -⟩ :=
    hcourse.ready_of_pause hstep hpause
  exact ⟨_, _, _, _, next, pull, after, past, contact, hcourse, hstep, hpause, hpulls, hcontacts,
    hgiven, hwaiting, hlength⟩

/-- An event that sets the retry time to an hour, and which only the end of the body ends: the
stream has received the event and waits for that hour before it gives it. -/
theorem Session.event_waits_behind_pause :
    let first := Session.start "events" [] .sample
    let start := Traffic.sample [.sample [Utf8.encode "retry: 3600000\ndata: a"] .complete]
    ∃ contacts session traffic next after,
      Course .sample first start contacts [] session traffic ∧
      session.step .sample traffic = .ok ((next, none), after) ∧
      traffic.pausesSince after = [.ofSeconds 3600] ∧ next.ready.map Event.raw = ["a"] := by
  intro first start
  have hcourse := Course.walk .sample first start 2
  generalize hparts : first.walk .sample start 2 = parts at hcourse
  have hpulls : parts.2.1.isEmpty = true := by
    subst hparts
    decide +kernel
  have hwaits : (parts.2.2.1.step .sample parts.2.2.2).toOption.any (fun result =>
      result.1.2.isNone && parts.2.2.2.pausesSince result.2 == [.ofSeconds 3600] &&
        result.1.1.ready.map Event.raw == ["a"]) = true := by
    subst hparts
    decide +kernel
  rw [List.isEmpty_iff] at hpulls
  dsimp only at hcourse
  rw [hpulls] at hcourse
  obtain ⟨⟨next, pull⟩, after, hstep, htest⟩ := Run.exists_of_any hwaits
  simp only [Bool.and_eq_true, Option.isNone_iff_eq_none, beq_iff_eq] at htest
  obtain ⟨⟨rfl, hpause⟩, hready⟩ := htest
  exact ⟨_, _, _, next, after, hcourse, hstep, hpause, hready⟩

end ApiBridge
