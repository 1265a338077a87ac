import ApiBridge.Proofs.Connector.Course
import ApiBridge.Proofs.Connector.Headers

namespace ApiBridge

open EventStream Http Header

theorem EventStream.Block.mem_of_lastId? {blocks : List Block} {id : String}
    (hid : Block.lastId? blocks = some id) :
    id ≠ "" ∧ ∃ block ∈ blocks, block.id = some id := by
  obtain ⟨block, hblock, hfilter⟩ := List.mem_filterMap.1 (List.mem_of_getLast? hid)
  obtain ⟨hsome, hnonempty⟩ := Option.filter_eq_some_iff.1 hfilter
  refine ⟨?_, block, hblock, hsome⟩
  rintro rfl
  simp at hnonempty

theorem Contact.id_of_mem_heardBlocks {contacts : List Contact} {block : Block}
    (hblock : block ∈ contacts.flatMap Contact.heardBlocks) {id : String}
    (hid : block.id = some id) : '\x00' ∉ id.toList ∧ IsInLine id := by
  obtain ⟨contact, -, hheard⟩ := List.mem_flatMap.1 hblock
  unfold Contact.heardBlocks at hheard
  cases hincoming : contact.incoming with
  | none =>
      rw [hincoming] at hheard
      cases hheard
  | some incoming =>
      rw [hincoming] at hheard
      exact id_of_mem_blocks hheard hid

namespace Connector

variable {connector : Connector} {name id : String} {params : Table Json} {plain request : Request}

theorem prepareStream_resumed (hid : id ≠ "")
    (hplain : connector.prepareStream name params none = .ok plain) :
    connector.prepareStream name params (some id) =
      .ok { plain with headers := plain.headers.put lastEventHeader id } := by
  have hkeep : (some id).filter (fun id => !id.isEmpty) = some id := by simp [hid]
  unfold prepareStream at hplain ⊢
  rw [hkeep]
  cases hrequest : connector.prepare name params with
  | error error =>
      rw [hrequest] at hplain
      cases hplain
  | ok request =>
      rw [hrequest] at hplain
      obtain rfl := Except.ok.inj hplain
      rfl

theorem exists_prepareStream_none {lastEventId : Option String}
    (hrequest : connector.prepareStream name params lastEventId = .ok request) :
    ∃ plain, connector.prepareStream name params none = .ok plain := by
  unfold prepareStream at hrequest ⊢
  cases hprepare : connector.prepare name params with
  | error error =>
      rw [hprepare] at hrequest
      cases hrequest
  | ok request => exact ⟨_, rfl⟩

/-- Where the request without the id can go out, the one with it can if and only if the id may be a
header value. -/
theorem exists_message_resumed {auth : Auth} {outgoing : Outgoing}
    (houtgoing : Outgoing.ofRequest plain auth = .ok outgoing) :
    (∃ message, Outgoing.ofRequest
        { plain with headers := plain.headers.put lastEventHeader id } auth = .ok message) ↔
      isLegalValue (Utf8.encode id) = true := by
  have hname : isLegalName lastEventHeader = true := by decide +kernel
  constructor
  · rintro ⟨message, hmessage⟩
    have hheader := Request.isLegal_of_isLegal_put (Outgoing.ofRequest_eq_ok.1 hmessage).1
    exact (Bool.and_eq_true_iff.1 hheader).2
  · intro hvalue
    obtain ⟨hlegal, target, htarget, -⟩ := Outgoing.ofRequest_eq_ok.1 houtgoing
    exact ⟨_, Outgoing.ofRequest_eq_ok.2
      ⟨Request.isLegal_put hlegal (Bool.and_eq_true_iff.2 ⟨hname, hvalue⟩), target, htarget, rfl⟩⟩

end Connector

namespace Session

variable {connector : Connector} {session next : Session} {traffic after : Traffic}
  {pull : Option Pull}

/-- Whether a session is without a connection and has a last id that may not be a header value. -/
structure IsStuck (session : Session) : Prop where
  incoming?_eq : session.incoming? = none
  untold : ∃ id, session.lastEventId = some id ∧ id ≠ "" ∧ isLegalValue (Utf8.encode id) = false

theorem IsStuck.ofRequest_ne_ok (h : session.IsStuck) {request : Request}
    (hrequest : connector.prepareStream session.endpoint session.params session.lastEventId =
      .ok request) (message : Outgoing) :
    Outgoing.ofRequest request connector.definition.auth ≠ .ok message := by
  intro hmessage
  obtain ⟨id, hid, hnonempty, hillegal⟩ := h.untold
  obtain ⟨plain, hplain⟩ := Connector.exists_prepareStream_none hrequest
  rw [hid, Connector.prepareStream_resumed hnonempty hplain] at hrequest
  obtain rfl := Except.ok.inj hrequest
  have hheader := Request.isLegal_of_isLegal_put (Outgoing.ofRequest_eq_ok.1 hmessage).1
  rw [(Bool.and_eq_true_iff.1 hheader).2] at hillegal
  cases hillegal

theorem IsStuck.sends_nothing (h : session.IsStuck)
    (hstep : session.step connector traffic = .ok ((next, pull), after)) :
    after.sent = traffic.sent := by
  have hsends : (session.step connector).Sends fun _ => False :=
    (Run.Sends.pervasive _).step fun request hrequest =>
      .pass (fun message hmessage => h.ofRequest_ne_ok hrequest message hmessage) _ _
  obtain ⟨messages, hsent, hnone⟩ := hsends _ _ _ hstep
  rw [hsent, List.eq_nil_iff_forall_not_mem.2 hnone, List.append_nil]

theorem Departure.keeps {failure : Option Error}
    (h : Departure session traffic failure next pull after) :
    next.lastEventId = session.lastEventId ∧
      pull.toList.filterMap Pull.event? ++ next.ready = session.ready := by
  cases h with
  | again hallows => exact ⟨rfl, rfl⟩
  | stop hallows => cases failure <;> exact ⟨rfl, rfl⟩

theorem IsStuck.step (h : session.IsStuck) {more : List Contact}
    (hstep : session.Transition connector traffic next pull more after) :
    next.IsStuck ∧ next.lastEventId = session.lastEventId ∧
      pull.toList.filterMap Pull.event? ++ next.ready = session.ready := by
  have hstuck : ∀ {next : Session}, next.incoming? = none →
      next.lastEventId = session.lastEventId → next.IsStuck := by
    intro next hincoming hid
    exact ⟨hincoming, hid ▸ h.untold⟩
  have hidle : ∀ {connection : Connection}, session.phase ≠ .streaming connection := by
    intro connection hphase
    have hincoming := h.incoming?_eq
    rw [incoming?, hphase] at hincoming
    cases hincoming
  cases hstep with
  | give hready => exact ⟨hstuck h.incoming?_eq rfl, rfl, hready.symm⟩
  | ended hready hphase => exact ⟨h, rfl, rfl⟩
  | misconfigured hready hphase hrequest => exact ⟨hstuck rfl rfl, rfl, rfl⟩
  | opened hready hphase hrequest hattempt =>
      have hmeet := hattempt.meet_eq
      unfold Peer.meet at hmeet
      split at hmeet
      · cases (Prod.mk.inj hmeet).1
      · next message hmessage => exact absurd hmessage (h.ofRequest_ne_ok hrequest message)
  | refused hready hphase hrequest hattempt hdeparture =>
      obtain ⟨hid, hrest⟩ := hdeparture.keeps
      exact ⟨hstuck (hdeparture.incoming?_eq rfl) hid, hid, hrest⟩
  | read hready hphase => exact absurd hphase hidle
  | filled hready hphase => exact absurd hphase hidle
  | lost hready hphase => exact absurd hphase hidle
  | completed hready hphase => exact absurd hphase hidle
  | closed hready hphase => exact absurd hphase hidle

theorem IsStuck.course (h : session.IsStuck) {contacts : List Contact} {pulls : List Pull}
    (hcourse : Course connector session traffic contacts pulls next after) :
    next.IsStuck ∧ next.lastEventId = session.lastEventId ∧ after.sent = traffic.sent ∧
      pulls.filterMap Pull.event? ++ next.ready = session.ready := by
  induction hcourse with
  | nil => exact ⟨h, rfl, rfl, rfl⟩
  | step hcourse hstep ih =>
      obtain ⟨hstuck, hid, hsent, hready⟩ := ih
      obtain ⟨hstuckNext, hidNext, hreadyNext⟩ :=
        hstuck.step (step_transition hstep)
      refine ⟨hstuckNext, hidNext.trans hid, (hstuck.sends_nothing hstep).trans hsent, ?_⟩
      rw [List.filterMap_append, List.append_assoc, hreadyNext, hready]

end Session

/-- The last id of a stream, at each point of its course. It is a text that is not empty, without
NUL and ends of lines. Where the request of the stream can go out without it, the request that
resumes the stream from it can if and only if each of its characters may stand in a header value.
With an id for which this fails, the stream is over with its connection: whatever it tries from
then on, nothing is sent, and nothing is given but what has been read before. -/
theorem Connector.resumable_of_course {connector : Connector} {endpoint : String}
    {params : Table Json} {options : StreamOptions} {start traffic : Traffic}
    {contacts : List Contact} {pulls : List Pull} {session : Session}
    (hcourse : Course connector (.start endpoint params options) start contacts pulls session
      traffic)
    {id : String} (hid : session.lastEventId = some id) :
    (id ≠ "" ∧ '\x00' ∉ id.toList ∧ IsInLine id) ∧
      (∀ plain outgoing, connector.prepareStream endpoint params none = .ok plain →
        Outgoing.ofRequest plain connector.definition.auth = .ok outgoing →
        ∃ request,
          connector.prepareStream session.endpoint session.params session.lastEventId =
            .ok request ∧
          ((∃ message, Outgoing.ofRequest request connector.definition.auth = .ok message) ↔
            ∀ c ∈ id.toList, isValueChar c = true)) ∧
      ((∃ c ∈ id.toList, isValueChar c = false) → session.incoming? = none →
        ∀ more given later after, Course connector session traffic more given later after →
          later.lastEventId = some id ∧ after.sent = traffic.sent ∧
            given.filterMap Pull.event? ++ later.ready = session.ready) := by
  obtain ⟨taken, hprogress⟩ := hcourse.progress
  have htally := hprogress.tally
  have hlast : Block.lastId? taken = some id := htally.lastEventId_eq ▸ hid
  obtain ⟨hnonempty, block, hblock, hblockId⟩ := Block.mem_of_lastId? hlast
  have htext := Contact.id_of_mem_heardBlocks (hprogress.taken_isPrefix.subset hblock) hblockId
  refine ⟨⟨hnonempty, htext⟩, ?_, ?_⟩
  · intro plain outgoing hplain houtgoing
    rw [htally.endpoint_eq, htally.params_eq, hid]
    refine ⟨_, Connector.prepareStream_resumed hnonempty hplain, ?_⟩
    rw [← isLegalValue_encode]
    exact Connector.exists_message_resumed houtgoing
  · rintro ⟨c, hc, hillegal⟩ hincoming more given later after hlater
    have hvalue : isLegalValue (Utf8.encode id) = false := by
      rw [Bool.eq_false_iff, ne_eq, isLegalValue_encode]
      intro hall
      rw [hall c hc] at hillegal
      cases hillegal
    have hstuck : session.IsStuck := ⟨hincoming, id, hid, hnonempty, hvalue⟩
    obtain ⟨-, hsame, hsent, hready⟩ := hstuck.course hlater
    exact ⟨hsame.trans hid, hsent, hready⟩

theorem Connector.exists_message_sample :
    ∃ plain outgoing, Connector.sample.prepareStream "events" [] none = .ok plain ∧
      Outgoing.ofRequest plain Connector.sample.definition.auth = .ok outgoing := by
  have htest : (Connector.sample.prepareStream "events" [] none).toOption.any (fun plain =>
      (Outgoing.ofRequest plain Connector.sample.definition.auth).toOption.isSome) = true := by
    decide +kernel
  obtain ⟨plain, hplain, hsome⟩ := exists_of_any htest
  rw [Outgoing.toOption_ofRequest] at hsome
  obtain ⟨outgoing, houtgoing⟩ := Option.isSome_iff_exists.1 hsome
  rw [Option.ite_none_right_eq_some, Option.map_eq_some_iff] at houtgoing
  exact ⟨plain, outgoing, hplain, Outgoing.ofRequest_eq_ok.2 houtgoing⟩

/-- A stream that has been told of an event and can be resumed from it. -/
theorem Connector.resumable_of_course_sample :
    let start := Traffic.sample [.sample [Utf8.encode "id: 5\ndata: a\n\n"] .cut]
    ∃ contacts pulls session traffic request message,
      Course .sample (.start "events" [] .sample) start contacts pulls session traffic ∧
      session.lastEventId = some "5" ∧
      Connector.sample.prepareStream session.endpoint session.params session.lastEventId =
        .ok request ∧
      Outgoing.ofRequest request Connector.sample.definition.auth = .ok message := by
  intro start
  obtain ⟨contacts, pulls, session, traffic, hcourse, hid⟩ : ∃ contacts pulls session traffic,
      Course .sample (.start "events" [] .sample) start contacts pulls session traffic ∧
      session.lastEventId = some "5" :=
    ⟨_, _, _, _, Course.walk _ _ _ 2, by decide +kernel⟩
  obtain ⟨plain, outgoing, hplain, houtgoing⟩ := exists_message_sample
  obtain ⟨-, hresumed, -⟩ := resumable_of_course hcourse hid
  obtain ⟨request, hrequest, hmessage⟩ := hresumed plain outgoing hplain houtgoing
  have hchars : "5".toList.all isValueChar = true := by decide +kernel
  obtain ⟨message, hmessage⟩ := hmessage.2 (List.all_eq_true.1 hchars)
  exact ⟨contacts, pulls, session, traffic, request, message, hcourse, hid, hrequest, hmessage⟩

/-- A stream that has been told of an event with a control in its id, and is about to connect again.
The request that has started the stream can go out, and the one that is to resume it cannot. -/
theorem Connector.unresumable_of_control :
    let start := Traffic.sample [.sample [Utf8.encode "id: \x01\ndata: a\n\n"] .cut]
    ∃ contacts pulls session traffic plain outgoing request,
      Course .sample (.start "events" [] .sample) start contacts pulls session traffic ∧
      session.lastEventId = some "\x01" ∧ session.incoming? = none ∧
      Connector.sample.prepareStream "events" [] none = .ok plain ∧
      Outgoing.ofRequest plain Connector.sample.definition.auth = .ok outgoing ∧
      Connector.sample.prepareStream session.endpoint session.params session.lastEventId =
        .ok request ∧
      ∀ message, Outgoing.ofRequest request Connector.sample.definition.auth ≠ .ok message := by
  intro start
  obtain ⟨contacts, pulls, session, traffic, hcourse, hid, hendpoint, hparams, hincoming⟩ :
      ∃ contacts pulls session traffic,
        Course .sample (.start "events" [] .sample) start contacts pulls session traffic ∧
        session.lastEventId = some "\x01" ∧ session.endpoint = "events" ∧ session.params = [] ∧
        session.incoming? = none :=
    ⟨_, _, _, _, Course.walk _ _ _ 4, by decide +kernel⟩
  obtain ⟨plain, outgoing, hplain, houtgoing⟩ := exists_message_sample
  have hrequest := prepareStream_resumed (by decide : "\x01" ≠ "") hplain
  rw [← hid, ← hendpoint, ← hparams] at hrequest
  have hstuck : session.IsStuck := ⟨hincoming, "\x01", hid, by decide, by decide +kernel⟩
  exact ⟨contacts, pulls, session, traffic, plain, outgoing, _, hcourse, hid, hincoming, hplain,
    houtgoing, hrequest, hstuck.ofRequest_ne_ok hrequest⟩

end ApiBridge
