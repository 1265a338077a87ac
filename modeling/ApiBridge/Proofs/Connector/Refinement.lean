import ApiBridge.Proofs.Connector.Course
import Mathlib.Data.List.Basic

namespace ApiBridge

open EventStream

def Contact.blocks (contact : Contact) : List Block :=
  contact.incoming.elim [] Http.Incoming.blocks

def Contact.isHeard (contact : Contact) : Bool := contact.incoming.all Http.Incoming.isHeard

theorem Contact.heardBlocks_of_isHeard {contact : Contact} (hheard : contact.isHeard = true) :
    contact.heardBlocks = contact.blocks := by
  unfold isHeard at hheard
  unfold heardBlocks blocks
  cases hincoming : contact.incoming with
  | none => rfl
  | some incoming =>
      rw [hincoming] at hheard
      exact Http.Incoming.heardBlocks_of_isHeard hheard

theorem Contact.heardBlocks_isPrefix (contact : Contact) :
    contact.heardBlocks <+: contact.blocks := by
  unfold heardBlocks blocks
  cases contact.incoming with
  | none => exact List.prefix_rfl
  | some incoming => exact incoming.heardBlocks_isPrefix

theorem flatMap_heardBlocks_of_isHeard {contacts : List Contact}
    (hheard : ∀ contact ∈ contacts, contact.isHeard = true) :
    contacts.flatMap Contact.heardBlocks = contacts.flatMap Contact.blocks :=
  List.flatMap_congr fun contact hcontact =>
    Contact.heardBlocks_of_isHeard (hheard contact hcontact)

namespace Session

/-- Whether the next step of a session fails the line buffer with a chunk. -/
def overflows (session : Session) : Bool :=
  match session.ready, session.phase with
  | [], .streaming connection =>
      match connection.incoming.next with
      | .chunk chunk _ => (connection.lines.push chunk).1.toOption.isNone
      | _ => false
  | _, _ => false

/-- Whether a session has read its last connection to the end. -/
def isSettled (session : Session) : Bool :=
  match session.phase with
  | .streaming _ => false
  | _ => !session.isFull

theorem not_isSettled_of_isFull {session : Session} (hfull : session.isFull = true) :
    session.isSettled = false := by
  unfold isSettled
  split
  · rfl
  · rw [hfull, Bool.not_true]

theorem error_of_overflows {session : Session} (h : session.overflows = true) :
    ∃ connection chunk rest error buffer, session.phase = .streaming connection ∧
      connection.incoming.next = .chunk chunk rest ∧
      connection.lines.push chunk = (.error error, buffer) := by
  unfold overflows at h
  split at h
  · next connection _ hphase =>
      split at h
      · next chunk rest hnext =>
          cases hpush : connection.lines.push chunk with
          | mk outcome buffer =>
              rw [hpush] at h
              cases outcome with
              | error error => exact ⟨connection, chunk, rest, error, buffer, hphase, hnext, hpush⟩
              | ok lines => simp [Except.toOption] at h
      · simp at h
  · simp at h

theorem overflows_of_error {session : Session} {connection : Connection} {chunk : List UInt8}
    {rest : Http.Incoming} {error : Error} {buffer : LineBuffer} (hready : session.ready = [])
    (hphase : session.phase = .streaming connection)
    (hnext : connection.incoming.next = .chunk chunk rest)
    (hpush : connection.lines.push chunk = (.error error, buffer)) : session.overflows = true := by
  simp [overflows, hready, hphase, hnext, hpush, Except.toOption]

end Session

/-- The contacts of a session that are behind it are heard to the end. -/
structure AreHeard (contacts : List Contact) (session : Session) : Prop where
  earlier : ∀ contact ∈ contacts.dropLast, contact.isHeard = true
  all : session.isSettled = true → ∀ contact ∈ contacts, contact.isHeard = true

/-- No chunk fails the line buffer at any point of a session. -/
def NeverOverflows (connector : Connector) (first : Session) (start : Traffic) : Prop :=
  ∀ contacts pulls session traffic, Course connector first start contacts pulls session traffic →
    session.overflows = false

variable {connector : Connector} {first session next : Session} {start traffic after : Traffic}
  {contacts : List Contact} {taken : List Block} {pulls : List Pull} {pull : Option Pull}

theorem Progress.isSettled
    (h : Progress connector first start contacts taken pulls session traffic)
    (hphase : session.phase = .connecting) : session.isSettled = true := by
  rw [Session.isSettled, hphase, (h.of_connecting hphase).2.2.1]
  rfl

namespace AreHeard

theorem of_all (hall : ∀ contact ∈ contacts, contact.isHeard = true) (session : Session) :
    AreHeard contacts session :=
  ⟨fun contact hcontact => hall contact (List.dropLast_subset _ hcontact), fun _ => hall⟩

theorem of_streaming {past : List Contact} {request : Http.Request} {incoming : Http.Incoming}
    (h : AreHeard (past ++ [{ request, incoming := some incoming }]) session)
    (hheard : incoming.isHeard = true) :
    ∀ contact ∈ past ++ [Contact.mk request (some incoming)], contact.isHeard = true := by
  intro contact hcontact
  have hpast := h.earlier
  rw [List.dropLast_concat] at hpast
  rcases List.mem_append.1 hcontact with hcontact | hcontact
  · exact hpast contact hcontact
  · rw [List.mem_singleton.1 hcontact]
    exact hheard

theorem step (h : AreHeard contacts session)
    (hprogress : Progress connector first start contacts taken pulls session traffic)
    (hquiet : session.overflows = false) {more : List Contact}
    (hstep : session.Transition connector traffic next pull more after) :
    AreHeard (contacts ++ more) next := by
  cases hstep with
  | give hready =>
      rw [List.append_nil]
      exact ⟨h.earlier, h.all⟩
  | ended hready hphase =>
      rw [List.append_nil]
      exact h
  | misconfigured hready hphase hrequest =>
      rw [List.append_nil]
      exact .of_all (h.all (hprogress.isSettled hphase)) _
  | opened hready hphase hrequest hattempt =>
      refine ⟨?_, fun hsettled => by simp [Session.isSettled] at hsettled⟩
      rw [List.dropLast_concat]
      exact h.all (hprogress.isSettled hphase)
  | refused hready hphase hrequest hattempt hdeparture =>
      refine .of_all (fun contact hcontact => ?_) _
      rcases List.mem_append.1 hcontact with hcontact | hcontact
      · exact h.all (hprogress.isSettled hphase) contact hcontact
      · rw [List.mem_singleton.1 hcontact]
        rfl
  | read hready hphase hnext hpush htake =>
      rw [List.append_nil]
      exact ⟨h.earlier, fun hsettled => by simp [Session.isSettled] at hsettled⟩
  | filled hready hphase hnext hpush htake =>
      rw [List.append_nil]
      have hsettled := Session.not_isSettled_of_isFull (Session.isFull_of_takeLines htake)
      exact ⟨h.earlier, fun htrue => by simp [hsettled] at htrue⟩
  | lost hready hphase hlost hdeparture =>
      rw [List.append_nil]
      obtain ⟨past, request, incoming, seen, rfl, -, -, -, hreading⟩ :=
        hprogress.of_streaming hphase
      rcases hlost with ⟨chunk, rest, error, buffer, hnext, hpush⟩ | hnext
      · rw [Session.overflows_of_error hready hphase hnext hpush] at hquiet
        simp at hquiet
      · exact .of_all (h.of_streaming (hreading.isHeard (Http.Incoming.next_eq_lost hnext).1)) _
  | completed hready hphase hnext hlast hfull =>
      rw [List.append_nil]
      obtain ⟨past, request, incoming, seen, rfl, -, -, -, hreading⟩ :=
        hprogress.of_streaming hphase
      exact .of_all (h.of_streaming (hreading.isHeard (Http.Incoming.next_eq_finished hnext).1)) _
  | closed hready hphase hnext hlast hfull hdeparture =>
      rw [List.append_nil]
      obtain ⟨past, request, incoming, seen, rfl, -, -, -, hreading⟩ :=
        hprogress.of_streaming hphase
      exact .of_all (h.of_streaming (hreading.isHeard (Http.Incoming.next_eq_finished hnext).1)) _

end AreHeard

theorem Course.areHeard {endpoint : String} {params : Table Json} {options : StreamOptions}
    (h : Course connector (.start endpoint params options) start contacts pulls session traffic)
    (hcalm : NeverOverflows connector (.start endpoint params options) start) :
    AreHeard contacts session := by
  induction h with
  | nil => exact .of_all (by simp) _
  | step hcourse hstep ih =>
      obtain ⟨taken, hprogress⟩ := hcourse.progress
      exact ih.step hprogress (hcalm _ _ _ _ hcourse) (Session.step_transition hstep)

theorem neverOverflows_of_length_le {endpoint : String} {params : Table Json}
    {options : StreamOptions}
    (hlength : ∀ incoming ∈ start.peer.reactions.filterMap Http.Reaction.incoming?,
      incoming.chunks.flatten.length ≤ maxLineBytes) :
    NeverOverflows connector (.start endpoint params options) start := by
  intro contacts pulls session traffic hcourse
  obtain ⟨taken, hprogress⟩ := hcourse.progress
  rw [Bool.eq_false_iff]
  intro hoverflows
  obtain ⟨connection, chunk, rest, error, buffer, hphase, hnext, hpush⟩ :=
    Session.error_of_overflows hoverflows
  obtain ⟨past, request, incoming, seen, hcontacts, -, -, -, hreading⟩ :=
    hprogress.of_streaming hphase
  have hlong := (hreading.overlong_of_error hpush).1
  obtain ⟨used, hused, hbodies⟩ := hprogress.history.reactions_eq
  have hmem : incoming ∈ start.peer.reactions.filterMap Http.Reaction.incoming? := by
    rw [hused, List.filterMap_append, hbodies, hcontacts]
    simp
  have hflatten := congrArg List.length hreading.flatten_eq
  rw [(Http.Incoming.next_eq_chunk hnext).1, List.flatten_cons, ← List.append_assoc,
    List.length_append] at hflatten
  have htail := length_splitLines_snd_le (seen ++ chunk)
  have hbody := hlength incoming hmem
  omega

/-- The first events, as many as are asked for. -/
def EventStream.StreamOptions.cap (options : StreamOptions) (events : List Event) : List Event :=
  options.maxEvents.elim events events.take

theorem AreHeard.flatMap_isPrefix (h : AreHeard contacts session) :
    contacts.flatMap Contact.heardBlocks <+: contacts.flatMap Contact.blocks := by
  rcases List.eq_nil_or_concat contacts with rfl | ⟨past, last, rfl⟩
  · exact List.prefix_rfl
  · have hpast := h.earlier
    rw [List.concat_eq_append] at hpast ⊢
    rw [List.dropLast_concat] at hpast
    rw [List.flatMap_append, List.flatMap_append, flatMap_heardBlocks_of_isHeard hpast,
      List.flatMap_singleton, List.flatMap_singleton]
    exact (List.prefix_append_right_inj _).2 last.heardBlocks_isPrefix

namespace Progress

theorem received_eq_of_isFull
    (h : Progress connector first start contacts taken pulls session traffic)
    (hfull : session.isFull = true) :
    first.options.maxEvents = some (Block.events first.options.decodeJson taken).length := by
  rw [← h.tally.received_eq, ← h.tally.options_eq]
  cases hlimit : session.options.maxEvents with
  | none => simp [Session.isFull, hlimit] at hfull
  | some limit =>
      have hle := h.tally.isWithin limit hlimit
      simp only [Session.isFull, hlimit, Option.any_some, decide_eq_true_eq] at hfull
      rw [Nat.le_antisymm hfull hle]

/-- A session that has come to rest has given the first events of all bytes of its contacts. -/
theorem given_eq (h : Progress connector first start contacts taken pulls session traffic)
    (hheard : AreHeard contacts session) (hphase : session.phase = .done)
    (hready : session.ready = []) :
    pulls.filterMap Pull.event? = first.options.cap
      (Block.events first.options.decodeJson (contacts.flatMap Contact.blocks)) := by
  have hgiven := h.tally.ready_eq
  rw [hready, List.append_nil] at hgiven
  rw [hgiven, StreamOptions.cap]
  rcases h.of_done hphase with ⟨hfull, hfront⟩ | ⟨hfull, htaken, -⟩
  · rw [h.received_eq_of_isFull hfull]
    exact List.prefix_iff_eq_take.1
      (Block.events_isPrefix (hfront.trans hheard.flatMap_isPrefix) _)
  · have hall := hheard.all (by rw [Session.isSettled, hphase, hfull]; rfl)
    rw [htaken, flatMap_heardBlocks_of_isHeard hall] at hgiven ⊢
    cases hlimit : first.options.maxEvents with
    | none => rfl
    | some limit =>
        have hlt := Session.lt_of_isFull hfull (h.tally.options_eq ▸ hlimit)
        rw [h.tally.received_eq, htaken, flatMap_heardBlocks_of_isHeard hall] at hlt
        exact (List.take_of_length_le (Nat.le_of_lt hlt)).symm

end Progress

end ApiBridge
