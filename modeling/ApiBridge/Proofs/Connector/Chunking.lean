import ApiBridge.Proofs.Connector.Refinement
import ApiBridge.Proofs.Connector.Termination

namespace ApiBridge

open EventStream

namespace Http

def Incoming.joined (incoming : Incoming) : Incoming :=
  { incoming with chunks := [incoming.chunks.flatten] }

def Reaction.joined : Reaction → Reaction
  | .answer head => .answer { head with chunks := [head.chunks.flatten] }
  | other => other

/-- The other side with every body as one chunk. -/
def Peer.joined : Peer → Peer
  | .unreachable => .unreachable
  | .scripted reactions => .scripted (reactions.map Reaction.joined)

theorem Incoming.blocks_joined (incoming : Incoming) :
    incoming.joined.blocks = incoming.blocks := by
  simp [blocks, joined]

theorem Reaction.incoming?_joined (reaction : Reaction) :
    reaction.joined.incoming?.map Incoming.joined = reaction.incoming?.map Incoming.joined := by
  cases reaction with
  | hangUp => rfl
  | silence => rfl
  | answer head =>
      simp only [joined, incoming?]
      split
      · cases Run.hasBody head.status <;> simp [Incoming.joined]
      · rfl

theorem Peer.meet_joined (auth : Auth) (request : Request) (peer : Peer) :
    (peer.joined.meet auth request).1.map Incoming.joined =
        (peer.meet auth request).1.map Incoming.joined ∧
      (peer.joined.meet auth request).2 = (peer.meet auth request).2.joined := by
  unfold meet
  cases Outgoing.ofRequest request auth with
  | error error => exact ⟨rfl, rfl⟩
  | ok outgoing =>
      cases peer with
      | unreachable => exact ⟨rfl, rfl⟩
      | scripted reactions =>
          cases reactions with
          | nil => exact ⟨rfl, rfl⟩
          | cons reaction rest => exact ⟨reaction.incoming?_joined, rfl⟩

theorem Peer.meet_congr {peer other : Peer} (hpeer : peer.joined = other.joined) (auth : Auth)
    (request : Request) :
    (peer.meet auth request).1.map Incoming.joined =
        (other.meet auth request).1.map Incoming.joined ∧
      (peer.meet auth request).2.joined = (other.meet auth request).2.joined := by
  have hfirst := peer.meet_joined auth request
  rw [hpeer] at hfirst
  have hsecond := other.meet_joined auth request
  exact ⟨hfirst.1.symm.trans hsecond.1, hfirst.2.symm.trans hsecond.2⟩

end Http

namespace Contact

def joined (contact : Contact) : Contact :=
  { contact with incoming := contact.incoming.map Http.Incoming.joined }

theorem blocks_joined (contact : Contact) : contact.joined.blocks = contact.blocks := by
  unfold blocks joined
  cases contact.incoming with
  | none => rfl
  | some incoming => exact incoming.blocks_joined

theorem flatMap_blocks_incoming (contacts : List Contact) :
    (contacts.filterMap incoming).flatMap Http.Incoming.blocks = contacts.flatMap blocks := by
  induction contacts with
  | nil => rfl
  | cons contact contacts ih =>
      rw [List.flatMap_cons, ← ih, blocks]
      cases hincoming : contact.incoming <;> simp [hincoming]

theorem flatMap_blocks_joined (contacts : List Contact) :
    (contacts.map joined).flatMap blocks = contacts.flatMap blocks := by
  rw [List.flatMap_map]
  exact List.flatMap_congr fun contact _ => contact.blocks_joined

end Contact

theorem Http.Peer.afterContacts_congr {peer other : Http.Peer} (auth : Auth)
    (hpeer : peer.joined = other.joined) {contacts others : List Contact}
    (hcontacts : contacts.map Contact.joined = others.map Contact.joined) :
    (peer.afterContacts auth contacts).joined = (other.afterContacts auth others).joined := by
  induction contacts generalizing others peer other with
  | nil =>
      rw [List.map_nil] at hcontacts
      rw [List.map_eq_nil_iff.1 hcontacts.symm]
      exact hpeer
  | cons contact contacts ih =>
      cases others with
      | nil => simp at hcontacts
      | cons another others =>
          rw [List.map_cons, List.map_cons, List.cons.injEq] at hcontacts
          have hrequest : contact.joined.request = another.joined.request :=
            congrArg Contact.request hcontacts.1
          change contact.request = another.request at hrequest
          have hnext := (meet_congr hpeer auth contact.request).2
          rw [hrequest] at hnext
          rw [afterContacts, afterContacts, List.foldl_cons, List.foldl_cons, hrequest]
          exact ih hnext hcontacts.2

variable {connector : Connector} {first : Session} {peer other : Http.Peer}
  {contacts others : List Contact}

/-- Two histories that are met with the same bytes go on in the same way, as long as they go on. -/
theorem IsHistory.map_joined_isPrefix (hpeer : peer.joined = other.joined)
    (h : IsHistory connector first peer contacts)
    (hheard : ∀ contact ∈ contacts.dropLast, contact.isHeard = true)
    (hother : IsHistory connector first other others)
    (hotherHeard : ∀ contact ∈ others.dropLast, contact.isHeard = true)
    (hlength : contacts.length ≤ others.length) :
    contacts.map Contact.joined <+: others.map Contact.joined := by
  induction h with
  | nil => exact List.nil_prefix
  | @snoc past contact hpast hallows hrequest hincoming ih =>
      rw [List.dropLast_concat] at hheard
      rw [List.length_append, List.length_singleton] at hlength
      have hfront := ih (fun earlier hearlier => hheard earlier (List.dropLast_subset _ hearlier))
        (Nat.le_of_lt hlength)
      -- The contact of the other history in the place of the last one.
      obtain ⟨before, another, later, rfl, hbefore⟩ :
          ∃ before another later, others = before ++ another :: later ∧
            before.length = past.length :=
        ⟨others.take past.length, others[past.length], others.drop (past.length + 1),
          by rw [List.getElem_cons_drop, List.take_append_drop],
          List.length_take_of_le (Nat.le_of_lt hlength)⟩
      have hsame : past.map Contact.joined = before.map Contact.joined := by
        have htake := List.prefix_iff_eq_take.1 hfront
        rw [List.map_append, List.length_map, ← hbefore] at htake
        rw [htake]
        simp
      obtain ⟨-, hrequest', hincoming'⟩ := hother.of_append_cons
      have hbeforeHeard : ∀ contact ∈ before, contact.isHeard = true := by
        intro contact hcontact
        rw [List.dropLast_append_of_ne_nil (by simp)] at hotherHeard
        exact hotherHeard contact (List.mem_append_left _ hcontact)
      have hblocks : past.flatMap Contact.heardBlocks = before.flatMap Contact.heardBlocks := by
        rw [flatMap_heardBlocks_of_isHeard hheard, flatMap_heardBlocks_of_isHeard hbeforeHeard,
          ← Contact.flatMap_blocks_joined past, hsame, Contact.flatMap_blocks_joined before]
      rw [hblocks, hrequest'] at hrequest
      have hrequests : another.request = contact.request := Except.ok.inj hrequest
      have hjoined : contact.joined = another.joined := by
        have hmeet := (Http.Peer.meet_congr
          (Http.Peer.afterContacts_congr connector.definition.auth hpeer hsame)
          connector.definition.auth contact.request).1
        rw [hrequests] at hincoming'
        rw [← hincoming, ← hincoming'] at hmeet
        rw [Contact.joined, Contact.joined, hmeet, hrequests]
      refine ⟨later.map Contact.joined, ?_⟩
      rw [List.map_append, List.map_append, hsame, List.map_singleton, hjoined, List.append_assoc,
        List.map_cons, List.singleton_append]

variable {session last : Session} {start traffic alike middle : Traffic} {taken read : List Block}
  {pulls given : List Pull}

theorem Progress.cap_eq_of_length_le (hpeer : start.peer.joined = alike.peer.joined)
    (h : Progress connector first start contacts taken pulls session traffic)
    (hheard : AreHeard contacts session) (hphase : session.phase = .done)
    (hother : Progress connector first alike others read given last middle)
    (hotherHeard : AreHeard others last) (hlength : contacts.length ≤ others.length) :
    first.options.cap
        (Block.events first.options.decodeJson (contacts.flatMap Contact.blocks)) =
      first.options.cap
        (Block.events first.options.decodeJson (others.flatMap Contact.blocks)) := by
  have hjoined := h.history.map_joined_isPrefix hpeer hheard.earlier hother.history
    hotherHeard.earlier hlength
  have hblocks : contacts.flatMap Contact.blocks <+: others.flatMap Contact.blocks := by
    obtain ⟨more, hmore⟩ := hjoined
    rw [← Contact.flatMap_blocks_joined others, ← hmore, List.flatMap_append,
      Contact.flatMap_blocks_joined]
    exact List.prefix_append _ _
  rcases h.of_done hphase with ⟨hfull, htaken⟩ | ⟨-, -, hstop⟩
  · have hfirst := (htaken.trans hheard.flatMap_isPrefix)
    rw [StreamOptions.cap, StreamOptions.cap, h.received_eq_of_isFull hfull, Option.elim_some,
      Option.elim_some, ← List.prefix_iff_eq_take.1 (Block.events_isPrefix hfirst _),
      ← List.prefix_iff_eq_take.1 (Block.events_isPrefix (hfirst.trans hblocks) _)]
  · rcases Nat.eq_or_lt_of_le hlength with hsame | hless
    · have hall := hjoined.eq_of_length (by rw [List.length_map, List.length_map, hsame])
      rw [← Contact.flatMap_blocks_joined contacts, hall, Contact.flatMap_blocks_joined]
    · -- The other session has made a contact that this one could not make.
      obtain ⟨before, another, later, rfl, hbefore⟩ :
          ∃ before another later, others = before ++ another :: later ∧
            before.length = contacts.length :=
        ⟨others.take contacts.length, others[contacts.length], others.drop (contacts.length + 1),
          by rw [List.getElem_cons_drop, List.take_append_drop],
          List.length_take_of_le (Nat.le_of_lt hless)⟩
      obtain ⟨hallows, hrequest, -⟩ := hother.history.of_append_cons
      rw [hbefore] at hallows
      rcases hstop with hstop | ⟨error, herror⟩
      · rw [hstop] at hallows
        simp at hallows
      · rw [Connector.prepareStream_of_endpoint herror] at hrequest
        simp at hrequest

theorem Progress.reactions_eq
    (h : Progress connector first start contacts taken pulls session traffic) :
    ∃ used, start.peer.reactions = used ++ traffic.peer.reactions ∧
      (used.filterMap Http.Reaction.incoming?).flatMap Http.Incoming.blocks =
        contacts.flatMap Contact.blocks := by
  obtain ⟨used, hused, hbodies⟩ := h.history.reactions_eq
  rw [← h.peer_eq] at hused
  exact ⟨used, hused, by rw [hbodies, Contact.flatMap_blocks_incoming]⟩

namespace Session

/-- A stream that is drained to the end gives the first events of its connections, as many as are
asked for: of the blocks of all bytes of each of them, one connection after another. Another side
whose bodies differ only in where they are cut into chunks leaves the same events. A stream without
a limiter can be drained, unless it may connect again without a limit. -/
theorem drained_events_eq {endpoint : String} {params : Table Json} {options : StreamOptions}
    {start : Traffic} (hcalm : NeverOverflows connector (.start endpoint params options) start) :
    (∀ {fuel : Nat} {results : List (Except Error Event)} {after : Traffic},
      (Session.start endpoint params options).drainWithin connector fuel start =
        .ok (results, after) →
      (∃ used, start.peer.reactions = used ++ after.peer.reactions ∧
        results.filterMap Except.toOption = options.cap (Block.events options.decodeJson
          ((used.filterMap Http.Reaction.incoming?).flatMap Http.Incoming.blocks))) ∧
      ∀ {alike : Traffic} {steps : Nat} {answers : List (Except Error Event)} {last : Traffic},
        start.peer.joined = alike.peer.joined →
        NeverOverflows connector (.start endpoint params options) alike →
        (Session.start endpoint params options).drainWithin connector steps alike =
          .ok (answers, last) →
        answers.filterMap Except.toOption = results.filterMap Except.toOption) ∧
    (start.limiters.find? endpoint = none →
      (options.reconnect = true → options.maxReconnectAttempts.isSome) →
      ∃ results after, (Session.start endpoint params options).drain connector start =
        .ok (results, after)) := by
  refine ⟨?_, fun hlimiter hlimited => exists_drain hlimiter hlimited connector params⟩
  intro fuel results after hdrain
  obtain ⟨contacts, pulls, session, hcourse, hphase, hready, hpulls⟩ :=
    course_of_drainWithin hdrain .nil
  obtain ⟨taken, hprogress⟩ := hcourse.progress
  have hheard := hcourse.areHeard hcalm
  have hgiven := hprogress.given_eq hheard hphase hready
  rw [hpulls, List.filterMap_nil, List.nil_append] at hgiven
  obtain ⟨used, hused, hbodies⟩ := hprogress.reactions_eq
  refine ⟨⟨used, hused, by rw [hgiven, hbodies]; rfl⟩, ?_⟩
  intro alike steps answers last hpeer hcalm' hdrain'
  obtain ⟨others, given, rest, hcourse', hphase', hready', hpulls'⟩ :=
    course_of_drainWithin hdrain' .nil
  obtain ⟨read, hprogress'⟩ := hcourse'.progress
  have hheard' := hcourse'.areHeard hcalm'
  have hgiven' := hprogress'.given_eq hheard' hphase' hready'
  rw [hpulls', List.filterMap_nil, List.nil_append] at hgiven'
  rw [hgiven, hgiven']
  rcases Nat.le_total contacts.length others.length with hlength | hlength
  · exact (hprogress.cap_eq_of_length_le hpeer hheard hphase hprogress' hheard' hlength).symm
  · exact hprogress'.cap_eq_of_length_le hpeer.symm hheard' hphase' hprogress hheard hlength

/-- An answer with a line end and a block cut in two leaves what the same answer in one chunk
leaves. -/
theorem drained_events_eq_cut :
    let options := { StreamOptions.sample with reconnect := false }
    let body := Utf8.encode "data: a\r\n\r\ndata: b"
    let cut := Traffic.sample [.sample [body.take 8, [], body.drop 8] .complete]
    let whole := Traffic.sample [.sample [body] .complete]
    ∃ results after answers last,
      (Session.start "events" [] options).drainWithin .sample 9 cut = .ok (results, after) ∧
      (Session.start "events" [] options).drainWithin .sample 9 whole = .ok (answers, last) ∧
      (∃ used, cut.peer.reactions = used ++ after.peer.reactions ∧
        results.filterMap Except.toOption = options.cap (Block.events options.decodeJson
          ((used.filterMap Http.Reaction.incoming?).flatMap Http.Incoming.blocks))) ∧
      answers.filterMap Except.toOption = results.filterMap Except.toOption := by
  intro options body cut whole
  obtain ⟨results, after, hcut⟩ : ∃ results after,
      (Session.start "events" [] options).drainWithin .sample 9 cut = .ok (results, after) :=
    Run.exists_of_isOk (by decide +kernel)
  obtain ⟨answers, last, hwhole⟩ : ∃ answers last,
      (Session.start "events" [] options).drainWithin .sample 9 whole = .ok (answers, last) :=
    Run.exists_of_isOk (by decide +kernel)
  obtain ⟨hevents, hsame⟩ := (drained_events_eq
    (neverOverflows_of_length_le (by decide +kernel))).1 hcut
  exact ⟨results, after, answers, last, hcut, hwhole, hevents,
    hsame (by decide +kernel) (neverOverflows_of_length_le (by decide +kernel)) hwhole⟩

end Session

end ApiBridge
