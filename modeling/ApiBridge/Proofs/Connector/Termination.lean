import ApiBridge.Proofs.Connector.Reconnect
import Mathlib.Algebra.GroupWithZero.Nat

/-!
Streams come to an end: no step fails by itself, every step leaves fewer of them, and so the steps
that draining allows are enough wherever the number of reconnects is limited.
-/

namespace ApiBridge

open EventStream

namespace Run

variable {α β : Type} {before : Traffic}

theorem exists_bind {first : Run α} {second : α → Run β}
    (hfirst : ∃ value middle, first before = .ok (value, middle))
    (hsecond : ∀ value middle, first before = .ok (value, middle) →
      ∃ result after, second value middle = .ok (result, after)) :
    ∃ result after, (first >>= second) before = .ok (result, after) := by
  obtain ⟨value, middle, hvalue⟩ := hfirst
  obtain ⟨result, after, hresult⟩ := hsecond value middle hvalue
  exact ⟨result, after, bind_eq_ok.2 ⟨value, middle, hvalue, hresult⟩⟩

end Run

namespace Session

variable {connector : Connector} {session : Session} {before : Traffic}

theorem exists_openConnection (request : Http.Request)
    (hlimiter : before.limiters.find? session.endpoint = none) :
    ∃ result after, (openConnection connector session request).run before =
      .ok (result, after) := by
  obtain ⟨opening, after, hpass, -⟩ := Run.exists_pass (Traffic.tellsTimes_of_none hlimiter)
    connector.definition.auth request false
  rw [openConnection_run, Run.bind_run_of_ok hpass]
  exact ⟨_, _, rfl⟩

theorem exists_recover (session : Session) (error : Error) (before : Traffic) :
    ∃ result after, session.recover error before = .ok (result, after) := by
  unfold recover
  split
  · exact ⟨_, _, rfl⟩
  · dsimp only
    split
    · exact ⟨_, _, rfl⟩
    · exact ⟨_, _, rfl⟩

theorem exists_reopen (session : Session) (before : Traffic) :
    ∃ result after, session.reopen before = .ok (result, after) := by
  unfold reopen
  split
  · exact ⟨_, _, rfl⟩
  · dsimp only
    split
    · exact ⟨_, _, rfl⟩
    · exact ⟨_, _, rfl⟩

theorem exists_connect (hlimiter : before.limiters.find? session.endpoint = none) :
    ∃ result after, session.connect connector before = .ok (result, after) := by
  unfold connect
  cases hrequest :
      connector.prepareStream session.endpoint session.params session.lastEventId with
  | error error =>
      dsimp only
      split
      · exact ⟨_, _, rfl⟩
      · exact exists_recover _ _ _
  | ok request =>
      apply Run.exists_bind (exists_openConnection request hlimiter)
      intro result middle _
      cases result with
      | ok connection => exact ⟨_, _, rfl⟩
      | error error =>
          dsimp only
          split
          · exact ⟨_, _, rfl⟩
          · exact exists_recover _ _ _

theorem exists_takeChunk (session : Session) (connection : Connection) (chunk : List UInt8)
    (before : Traffic) :
    ∃ result after, session.takeChunk connection chunk before = .ok (result, after) := by
  unfold takeChunk
  cases connection.lines.push chunk with
  | mk outcome buffer =>
      cases outcome with
      | error error => exact exists_recover _ _ _
      | ok lines =>
          dsimp only
          split
          · exact ⟨_, _, rfl⟩
          · exact ⟨_, _, rfl⟩

theorem exists_takeEnd (session : Session) (connection : Connection) (before : Traffic) :
    ∃ result after, session.takeEnd connection before = .ok (result, after) := by
  unfold takeEnd
  split
  · exact ⟨_, _, rfl⟩
  · exact exists_reopen _ _

theorem exists_read (session : Session) (connection : Connection) (before : Traffic) :
    ∃ result after, session.read connection before = .ok (result, after) := by
  unfold read
  cases connection.incoming.next with
  | chunk chunk rest => exact exists_takeChunk _ _ _ _
  | finished =>
      apply Run.exists_bind (exists_takeEnd _ _ _)
      intro _ _ _
      exact ⟨_, _, rfl⟩
  | broken => exact exists_recover _ _ _
  | nothing => exact exists_recover _ _ _

theorem exists_step (connector : Connector)
    (hlimiter : before.limiters.find? session.endpoint = none) :
    ∃ result after, session.step connector before = .ok (result, after) := by
  unfold step
  cases session.ready with
  | cons event rest => exact ⟨_, _, rfl⟩
  | nil =>
      cases session.phase with
      | done => exact ⟨_, _, rfl⟩
      | connecting => exact exists_connect hlimiter
      | streaming connection => exact exists_read _ _ _

end Session

theorem EventStream.LineBuffer.length_takeLines_le (buffer : LineBuffer)
    (lines : List (List UInt8)) :
    (buffer.takeLines lines).1.length + (buffer.takeLines lines).2.bytes.length ≤
      lines.length + buffer.bytes.length := by
  induction buffer, lines using takeLines.induct with
  | case1 buffer lines hline =>
      rw [takeLines_of_none hline, List.length_reverse]
      exact Nat.add_le_add_left buffer.skipFeed_length_le _
  | case2 buffer lines line rest hline ih =>
      have hrest := takeLine?_length_lt hline
      have hskip := buffer.skipFeed_length_le
      rw [takeLines_of_some hline]
      rw [List.length_cons] at ih
      omega

theorem EventStream.LineBuffer.length_push_le {buffer rest : LineBuffer} {chunk : List UInt8}
    {lines : List String} (hpush : buffer.push chunk = (.ok lines, rest)) :
    lines.length + rest.bytes.length ≤ buffer.bytes.length + chunk.length := by
  have hlength := length_takeLines_le { buffer with bytes := buffer.bytes ++ chunk } []
  rw [List.length_append, List.length_nil, Nat.zero_add] at hlength
  unfold push at hpush
  dsimp only at hpush
  split at hpush
  · simp at hpush
  · obtain ⟨hlines, rfl⟩ := Prod.mk.inj hpush
    obtain rfl := Except.ok.inj hlines
    rw [List.length_map]
    exact hlength

namespace Session

variable {connector : Connector} {session next : Session} {before after : Traffic}
  {pull : Option Pull} {more : List Contact}

theorem length_takeBlock_le (session : Session) (lines : List String) :
    (session.takeBlock lines).ready.length ≤ session.ready.length + 1 := by
  rw [takeBlock_eq]
  exact Nat.le_trans (session.length_ready_takeBlocks_le _)
    (Nat.add_le_add_left (length_ofLines?_le lines) _)

theorem takeBlock_keeps (session : Session) (lines : List String) :
    (session.takeBlock lines).phase = session.phase ∧
      (session.takeBlock lines).attempts = session.attempts ∧
      (session.takeBlock lines).options = session.options := by
  rw [takeBlock_eq]
  exact ⟨rfl, rfl, rfl⟩

theorem takeLines_length {taken : Session} {pending rest lines : List String} {goesOn : Bool}
    (htake : session.takeLines pending lines = (taken, rest, goesOn)) :
    (taken.phase = session.phase ∧ taken.attempts = session.attempts ∧
        taken.options = session.options) ∧
      taken.ready.length + rest.length ≤
        session.ready.length + pending.length + lines.length := by
  obtain ⟨blocks, rfl, hlength⟩ := takeLines_eq htake
  have hready := session.length_ready_takeBlocks_le blocks
  exact ⟨⟨rfl, rfl, rfl⟩, by omega⟩

end Session

/-- How many steps what a session is doing may still take. -/
def Phase.steps : Phase → Nat
  | .streaming connection => Session.bodySteps connection.incoming +
      connection.lines.bytes.length + connection.pending.length
  | _ => 0

def Http.Peer.steps (peer : Http.Peer) : Nat := (peer.reactions.map Session.reactionSteps).sum

theorem foldl_add_eq {α : Type} (size : α → Nat) (items : List α) (start : Nat) :
    items.foldl (fun count item => count + size item) start = start + (items.map size).sum := by
  induction items generalizing start with
  | nil => rfl
  | cons item items ih => rw [List.foldl_cons, ih, List.map_cons, List.sum_cons, Nat.add_assoc]

theorem Session.bodySteps_eq (incoming : Http.Incoming) :
    Session.bodySteps incoming = 2 + (incoming.chunks.map fun chunk => chunk.length + 1).sum :=
  foldl_add_eq (fun chunk : List UInt8 => chunk.length + 1) incoming.chunks 2

theorem Session.two_le_bodySteps (incoming : Http.Incoming) : 2 ≤ Session.bodySteps incoming := by
  rw [Session.bodySteps_eq]
  exact Nat.le_add_right _ _

theorem Session.bodySteps_chunk {incoming rest : Http.Incoming} {chunk : List UInt8}
    (hnext : incoming.next = .chunk chunk rest) :
    Session.bodySteps incoming = Session.bodySteps rest + chunk.length + 1 := by
  rw [Session.bodySteps_eq, Session.bodySteps_eq, (Http.Incoming.next_eq_chunk hnext).1,
    List.map_cons, List.sum_cons]
  omega

theorem Session.stepsLeft_eq (session : Session) (peer : Http.Peer) :
    session.stepsLeft peer = session.ready.length + session.phase.steps + peer.steps +
      (session.options.maxReconnectAttempts.getD 0 + 1 - session.attempts) + 2 := by
  unfold Session.stepsLeft Phase.steps Http.Peer.steps
  cases session.phase <;> simp only [foldl_add_eq, Nat.zero_add]

theorem Http.Reaction.steps_incoming? (reaction : Http.Reaction) :
    reaction.incoming?.elim 0 (fun incoming => Session.bodySteps incoming + 1) ≤
      Session.reactionSteps reaction := by
  cases reaction with
  | hangUp => exact Nat.zero_le _
  | silence => exact Nat.zero_le _
  | answer head =>
      simp only [incoming?, Session.reactionSteps]
      split
      · rw [Option.elim_some, Session.bodySteps_eq, Session.bodySteps_eq]
        cases Run.hasBody head.status <;> simp
      · exact Nat.zero_le _

theorem Http.Peer.steps_meet (auth : Auth) (request : Http.Request) (peer : Http.Peer) :
    (peer.meet auth request).2.steps +
        (peer.meet auth request).1.elim 0 (fun incoming => Session.bodySteps incoming + 1) ≤
      peer.steps := by
  unfold meet
  cases Outgoing.ofRequest request auth with
  | error error => exact Nat.le_refl _
  | ok outgoing =>
      cases peer with
      | unreachable => exact Nat.le_refl _
      | scripted reactions =>
          cases reactions with
          | nil => exact Nat.le_refl _
          | cons reaction rest =>
              have hsteps := reaction.steps_incoming?
              change (rest.map Session.reactionSteps).sum + reaction.incoming?.elim 0 _ ≤
                Session.reactionSteps reaction + (rest.map Session.reactionSteps).sum
              omega

theorem Attempt.steps_le {connector : Connector} {endpoint : String} {request : Http.Request}
    {incoming : Option Http.Incoming} {before after : Traffic}
    (h : Attempt connector endpoint request before incoming after) :
    after.peer.steps + incoming.elim 0 (fun incoming => Session.bodySteps incoming + 1) ≤
      before.peer.steps := by
  have hmeet := Http.Peer.steps_meet connector.definition.auth request before.peer
  rwa [h.meet_eq] at hmeet

namespace Session

variable {connector : Connector} {session next : Session} {before after : Traffic}
  {pull : Option Pull} {more : List Contact}

theorem Departure.stepsLeft_le {failure : Option Error}
    (h : Departure session before failure next pull after) (hphase : session.phase = .done)
    (hlimited : session.options.reconnect = true → session.options.maxReconnectAttempts.isSome)
    (hpull : ∀ last ∈ pull, last.event? ≠ none) :
    next.stepsLeft after.peer ≤ session.stepsLeft before.peer ∧
      (failure ≠ none → next.stepsLeft after.peer < session.stepsLeft before.peer) := by
  cases h with
  | again hallows =>
      rw [StreamOptions.allows, Bool.or_eq_true, Bool.and_eq_true] at hallows
      obtain ⟨hreconnect, hleft⟩ := hallows.resolve_left (by simp)
      obtain ⟨limit, hlimit⟩ := Option.isSome_iff_exists.1 (hlimited hreconnect)
      rw [hlimit, Option.any_some, Bool.not_eq_true', decide_eq_false_iff_not, Nat.not_lt] at hleft
      have hsteps :
          stepsLeft { session with attempts := session.attempts + 1, phase := .connecting }
            before.peer < session.stepsLeft before.peer := by
        rw [stepsLeft_eq, stepsLeft_eq, hphase, hlimit]
        simp only [Phase.steps, Option.getD_some]
        omega
      exact ⟨Nat.le_of_lt hsteps, fun _ => hsteps⟩
  | stop hallows =>
      cases failure with
      | none =>
          refine ⟨?_, fun hsome => absurd rfl hsome⟩
          rw [stepsLeft_eq, stepsLeft_eq]
          simp only
          omega
      | some error => exact absurd rfl (hpull _ rfl)

theorem stepsLeft_takeEnd {connection : Connection} {last : Session}
    (hphase : session.phase = .streaming connection)
    (hlast : last = takeBlock { session with phase := .done }
      (connection.pending ++ connection.lines.finish.1.toList))
    (peer : Http.Peer) :
    (last.phase = .done ∧ last.attempts = session.attempts ∧ last.options = session.options) ∧
      last.stepsLeft peer < session.stepsLeft peer := by
  have hlength := length_takeBlock_le { session with phase := .done }
    (connection.pending ++ connection.lines.finish.1.toList)
  have hkeeps := takeBlock_keeps { session with phase := .done }
    (connection.pending ++ connection.lines.finish.1.toList)
  have hsteps := two_le_bodySteps connection.incoming
  rw [← hlast] at hlength hkeeps
  refine ⟨hkeeps, ?_⟩
  rw [stepsLeft_eq, stepsLeft_eq, hphase, hkeeps.1, hkeeps.2.1, hkeeps.2.2]
  simp only [Phase.steps] at hlength ⊢
  omega

theorem Transition.stepsLeft_lt
    (hlimited : session.options.reconnect = true → session.options.maxReconnectAttempts.isSome)
    (hpull : ∀ last ∈ pull, last.event? ≠ none)
    (h : Transition connector session before next pull more after) :
    next.stepsLeft after.peer < session.stepsLeft before.peer := by
  cases h with
  | give hready =>
      rw [stepsLeft_eq, stepsLeft_eq, hready]
      simp only [List.length_cons]
      omega
  | ended hready hphase => exact absurd rfl (hpull _ rfl)
  | misconfigured hready hphase hrequest => exact absurd rfl (hpull _ rfl)
  | opened hready hphase hrequest hattempt =>
      have hsteps := hattempt.steps_le
      rw [Option.elim_some] at hsteps
      rw [stepsLeft_eq, stepsLeft_eq, hphase]
      simp only [Phase.steps, LineBuffer.new, LineBuffer.ofLimit, List.length_nil]
      omega
  | refused hready hphase hrequest hattempt hdeparture =>
      have hsteps := hattempt.steps_le
      rw [Option.elim_none, Nat.add_zero] at hsteps
      have hless := (hdeparture.stepsLeft_le rfl hlimited hpull).2 (by simp)
      rw [stepsLeft_eq { session with phase := .done, request := _ }] at hless
      rw [stepsLeft_eq session, hphase]
      simp only [Phase.steps] at hless ⊢
      omega
  | @read connection chunk incoming lines pending buffer taken hready hphase hnext hpush htake =>
      have hchunk := bodySteps_chunk hnext
      have hpushed := LineBuffer.length_push_le hpush
      obtain ⟨⟨-, hattempts, hoptions⟩, hlength⟩ := takeLines_length htake
      rw [stepsLeft_eq, stepsLeft_eq, hphase, hattempts, hoptions]
      simp only [Phase.steps] at hlength ⊢
      omega
  | filled hready hphase hnext hpush htake =>
      have hchunk := bodySteps_chunk hnext
      have hpushed := LineBuffer.length_push_le hpush
      obtain ⟨⟨hdone, hattempts, hoptions⟩, hlength⟩ := takeLines_length htake
      rw [stepsLeft_eq, stepsLeft_eq, hphase, hdone, hattempts, hoptions]
      simp only [Phase.steps] at hlength ⊢
      omega
  | @lost connection _ _ _ _ hready hphase hlost hdeparture =>
      have hless := (hdeparture.stepsLeft_le rfl hlimited hpull).2 (by simp)
      rw [stepsLeft_eq { session with phase := .done }] at hless
      rw [stepsLeft_eq session, hphase]
      simp only [Phase.steps] at hless ⊢
      omega
  | completed hready hphase hnext hlast hfull =>
      exact (stepsLeft_takeEnd hphase hlast before.peer).2
  | closed hready hphase hnext hlast hfull hdeparture =>
      obtain ⟨hkeeps, hless⟩ := stepsLeft_takeEnd hphase hlast before.peer
      have hleft := hdeparture.stepsLeft_le hkeeps.1 (by rw [hkeeps.2.2]; exact hlimited) hpull
      exact Nat.lt_of_le_of_lt hleft.1 hless

theorem exists_drainWithin {endpoint : String} {params : Table Json} {options : StreamOptions}
    {start : Traffic} {contacts : List Contact} {pulls : List Pull} {fuel : Nat}
    (hlimiter : start.limiters.find? endpoint = none)
    (hlimited : options.reconnect = true → options.maxReconnectAttempts.isSome)
    (h : Course connector (.start endpoint params options) start contacts pulls session before)
    (hfuel : session.stepsLeft before.peer ≤ fuel) :
    ∃ results after, session.drainWithin connector fuel before = .ok (results, after) := by
  -- Every step that goes on leaves fewer steps, so the fuel outlasts them.
  induction fuel generalizing session before contacts pulls with
  | zero =>
      rw [stepsLeft_eq] at hfuel
      omega
  | succ fuel ih =>
      obtain ⟨taken, hprogress⟩ := h.progress
      have habsent : before.limiters.find? session.endpoint = none := by
        rw [hprogress.tally.endpoint_eq]
        exact (h.marks_eq hlimiter).1
      have hoptions : session.options = options := hprogress.tally.options_eq
      obtain ⟨⟨next, pull⟩, after, hstep⟩ := exists_step connector habsent
      have hgoesOn : (∀ last ∈ pull, last.event? ≠ none) →
          ∃ results last, next.drainWithin connector fuel after = .ok (results, last) := by
        intro hpull
        apply ih (h.step hstep)
        have hless := (step_transition hstep).stepsLeft_lt (by rw [hoptions]; exact hlimited) hpull
        omega
      apply Run.exists_bind ⟨_, _, hstep⟩
      intro value middle hvalue
      obtain ⟨rfl, rfl⟩ := Prod.mk.inj (Except.ok.inj (hstep.symm.trans hvalue))
      cases pull with
      | none => exact hgoesOn (by simp)
      | some pull =>
          cases pull with
          | event event =>
              apply Run.exists_bind (hgoesOn (by simp [Pull.event?]))
              intro _ _ _
              exact ⟨_, _, rfl⟩
          | failed error => exact ⟨_, _, rfl⟩
          | ended => exact ⟨_, _, rfl⟩

/-- A stream without a limiter can be drained, unless it may connect again without a limit. -/
theorem exists_drain {endpoint : String} {options : StreamOptions} {start : Traffic}
    (hlimiter : start.limiters.find? endpoint = none)
    (hlimited : options.reconnect = true → options.maxReconnectAttempts.isSome)
    (connector : Connector) (params : Table Json) :
    ∃ results after, (Session.start endpoint params options).drain connector start =
      .ok (results, after) := by
  apply Run.exists_bind ⟨start, start, rfl⟩
  intro traffic middle hget
  obtain ⟨rfl, rfl⟩ := Run.get_eq_ok.1 hget
  exact exists_drainWithin hlimiter hlimited .nil (Nat.le_refl _)

end Session

end ApiBridge
