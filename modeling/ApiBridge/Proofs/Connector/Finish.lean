import ApiBridge.Proofs.Connector.Course

namespace ApiBridge

open EventStream

variable {connector : Connector} {first session next : Session} {start traffic after : Traffic}
  {contacts : List Contact} {pulls : List Pull} {given : Pull}

namespace Session

/-- Pulls a number of times, also after the end. -/
def pullTimes (connector : Connector) (session : Session) : Nat → Run (List Pull × Session)
  | 0 => return ([], session)
  | count + 1 => do
      let (next, pull) ← session.pull connector
      let (pulls, last) ← next.pullTimes connector count
      return (pull :: pulls, last)

/-- Whether nothing is left of a session: however often it is pulled, it gives the end, stays as it
is, and leaves the traffic as it is. -/
def IsFinished (connector : Connector) (session : Session) (traffic : Traffic) : Prop :=
  ∀ count, session.pullTimes connector count traffic =
    .ok ((List.replicate count .ended, session), traffic)

theorem step_of_rest (hphase : session.phase = .done) (hready : session.ready = [])
    (connector : Connector) (traffic : Traffic) :
    session.step connector traffic = .ok ((session, some .ended), traffic) := by
  unfold step
  rw [hready, hphase]
  rfl

theorem pull_of_rest (hphase : session.phase = .done) (hready : session.ready = [])
    (connector : Connector) (traffic : Traffic) :
    session.pull connector traffic = .ok ((session, .ended), traffic) := by
  have hfuel : ∃ fuel, session.stepsLeft traffic.peer = fuel + 1 := ⟨_, rfl⟩
  obtain ⟨fuel, hfuel⟩ := hfuel
  unfold pull
  refine Run.bind_eq_ok.2 ⟨traffic, traffic, rfl, ?_⟩
  rw [hfuel, pullWithin]
  exact Run.bind_eq_ok.2 ⟨_, _, step_of_rest hphase hready connector traffic, rfl⟩

theorem isFinished_of_rest (hphase : session.phase = .done) (hready : session.ready = [])
    (connector : Connector) (traffic : Traffic) : session.IsFinished connector traffic := by
  intro count
  induction count with
  | zero => rfl
  | succ count ih =>
      refine Run.bind_eq_ok.2 ⟨_, _, pull_of_rest hphase hready connector traffic, ?_⟩
      exact Run.bind_eq_ok.2 ⟨_, _, ih, rfl⟩

theorem Transition.ready_of_pull {pull : Option Pull} {more : List Contact}
    (h : Transition connector session traffic next pull more after)
    (hpull : pull.bind Pull.event? = none) : session.ready = [] := by
  cases h with
  | give hready => cases hpull
  | _ => assumption

end Session

namespace Course

theorem of_pullWithin {fuel : Nat}
    (h : Course connector first start contacts pulls session traffic)
    (hpull : session.pullWithin connector fuel traffic = .ok ((next, given), after)) :
    (∃ more, Course connector first start (contacts ++ more) (pulls ++ [given]) next after) ∧
      (given.event? = none →
        session.ready = [] ∧ next.phase = .done ∧ next.ready = []) := by
  induction fuel generalizing session traffic contacts with
  | zero => cases hpull
  | succ fuel ih =>
      rw [Session.pullWithin] at hpull
      obtain ⟨⟨middle, pull⟩, between, hstep, hrest⟩ := Run.bind_eq_ok.1 hpull
      have hcourse := h.step hstep
      have htransition := Session.step_transition hstep
      cases pull with
      | none =>
          rw [Option.toList_none, List.append_nil] at hcourse
          obtain ⟨⟨more, hmore⟩, hend⟩ := ih hcourse hrest
          exact ⟨⟨_, List.append_assoc _ _ more ▸ hmore⟩, fun hgiven =>
            ⟨htransition.ready_of_pull rfl, (hend hgiven).2⟩⟩
      | some pull =>
          obtain ⟨rfl, rfl, rfl⟩ := Run.pure_pair_eq_ok.1 hrest
          exact ⟨⟨_, hcourse⟩, fun hgiven =>
            ⟨htransition.ready_of_pull hgiven, htransition.rest_of_pull hgiven⟩⟩

theorem of_pull (h : Course connector first start contacts pulls session traffic)
    (hpull : session.pull connector traffic = .ok ((next, given), after)) :
    (∃ more, Course connector first start (contacts ++ more) (pulls ++ [given]) next after) ∧
      (given.event? = none →
        session.ready = [] ∧ next.phase = .done ∧ next.ready = []) := by
  obtain ⟨_, _, hget, hwithin⟩ := Run.bind_eq_ok.1 hpull
  obtain ⟨rfl, rfl⟩ := Run.get_eq_ok.1 hget
  exact h.of_pullWithin hwithin

theorem rest_of_mem (h : Course connector first start contacts pulls session traffic)
    (hmem : given ∈ pulls) (hgiven : given.event? = none) :
    session.phase = .done ∧ session.ready = [] := by
  induction h with
  | nil => cases hmem
  | @step _ _ session next traffic _ pull _ hstep ih =>
      rcases List.mem_append.1 hmem with hearlier | hnow
      · obtain ⟨hphase, hready⟩ := ih hearlier
        have hrest := hstep.symm.trans (Session.step_of_rest hphase hready connector traffic)
        obtain ⟨hsame, -⟩ := Prod.mk.inj (Except.ok.inj hrest)
        obtain ⟨rfl, -⟩ := Prod.mk.inj hsame
        exact ⟨hphase, hready⟩
      · obtain rfl := Option.mem_toList.1 hnow
        exact (Session.step_transition hstep).rest_of_pull hgiven

/-- The events that a session has given and those that are ready are all that it has received, and
these are not more than are asked for; a failure or the end comes only where none is ready, and it
is the last thing that a session does. -/
theorem stays_finished {endpoint : String} {params : Table Json} {options : StreamOptions}
    (h : Course connector (.start endpoint params options) start contacts pulls session traffic) :
    (pulls.filterMap Pull.event?).length + session.ready.length = session.received ∧
    (∀ limit, options.maxEvents = some limit → session.received ≤ limit) ∧
    (∀ next given after, session.pull connector traffic = .ok ((next, given), after) →
      (∃ more, Course connector (.start endpoint params options) start (contacts ++ more)
        (pulls ++ [given]) next after) ∧
      (given.event? = none → session.ready = [] ∧ next.ready = [] ∧
        next.IsFinished connector after)) ∧
    ((∃ given ∈ pulls, given.event? = none) → session.IsFinished connector traffic) := by
  obtain ⟨taken, hprogress⟩ := h.progress
  have htally := hprogress.tally
  refine ⟨?_, ?_, fun next given after hpull => ?_, ?_⟩
  · rw [← List.length_append, htally.ready_eq, htally.received_eq]
  · intro limit hlimit
    exact htally.isWithin limit (htally.options_eq ▸ hlimit)
  · obtain ⟨hmore, hend⟩ := h.of_pull hpull
    refine ⟨hmore, fun hgiven => ?_⟩
    obtain ⟨hready, hphase, hnone⟩ := hend hgiven
    exact ⟨hready, hnone, Session.isFinished_of_rest hphase hnone connector after⟩
  · rintro ⟨given, hmem, hgiven⟩
    obtain ⟨hphase, hready⟩ := h.rest_of_mem hmem hgiven
    exact Session.isFinished_of_rest hphase hready connector traffic

/-- Two events come in one chunk of a body that then breaks off, and the session does not connect
again: it gives the events, the failure, and nothing more. -/
theorem stays_finished_sample :
    let options := { StreamOptions.sample with reconnect := false, maxEvents := some 5 }
    let start := Traffic.sample [.sample [Utf8.encode "data: a\n\ndata: b\n\ndata: c"] .cut]
    ∃ contacts pulls session traffic,
      Course .sample (.start "events" [] options) start contacts pulls session traffic ∧
      pulls.map (fun given => given.event?.isSome) = [true, true, false] ∧
      session.received = 2 ∧ session.IsFinished .sample traffic := by
  intro options start
  have hcourse := Course.walk .sample (.start "events" [] options) start 5
  have hpulls : ((Session.start "events" [] options).walk .sample start 5).2.1.map
      (fun given => given.event?.isSome) = [true, true, false] := by decide +kernel
  have hreceived :
      ((Session.start "events" [] options).walk .sample start 5).2.2.1.received = 2 := by
    decide +kernel
  have hfailed : false ∈ [true, true, false] := by decide
  rw [← hpulls] at hfailed
  obtain ⟨given, hmem, hgiven⟩ := List.mem_map.1 hfailed
  refine ⟨_, _, _, _, hcourse, hpulls, hreceived, ?_⟩
  exact (stays_finished hcourse).2.2.2 ⟨given, hmem, by simpa using hgiven⟩

end Course

end ApiBridge
