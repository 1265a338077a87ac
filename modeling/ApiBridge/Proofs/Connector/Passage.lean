import ApiBridge.Proofs.RateLimit.Limiter
import ApiBridge.Proofs.Traffic

/-!
Passages: a request waits for its turn, goes to the other side, and the limiter takes note of the
headers of the answer. What comes back depends on the other side alone.
-/

namespace ApiBridge

open RateLimit

namespace Http

def Reaction.opening (url : String) : Reaction → Run.Opening
  | .hangUp => .failed (.noAnswer url false)
  | .silence => .silent url
  | .answer head =>
      .opened {
        status := head.status, headers := head.headers, url
        incoming := {
          chunks := if Run.hasBody head.status then head.chunks else []
          ending := if Run.hasBody head.status then head.ending else .complete } }

namespace Peer

/-- What a request opens, and the other side after it. -/
def opening (auth : Auth) (request : Request) (peer : Peer) : Run.Opening × Peer :=
  match Outgoing.ofRequest request auth with
  | .error error => (.failed error, peer)
  | .ok outgoing =>
      match peer.react with
      | none => (.failed (.noAnswer outgoing.url.render false), peer)
      | some (reaction, rest) => (reaction.opening outgoing.url.render, rest)

/-- The message of a request, if it gets through. -/
def heard? (auth : Auth) (request : Request) (peer : Peer) : Option Outgoing :=
  if peer.react.isSome then (Outgoing.ofRequest request auth).toOption else none

def afterRequests (auth : Auth) (peer : Peer) (requests : List Request) : Peer :=
  requests.foldl (fun peer request => (peer.opening auth request).2) peer

/-- What requests open one after another. -/
def openings (auth : Auth) : Peer → List Request → List Run.Opening
  | _, [] => []
  | peer, request :: rest =>
      (peer.opening auth request).1 :: openings auth (peer.opening auth request).2 rest

theorem openings_append (auth : Auth) (peer : Peer) (requests more : List Request) :
    peer.openings auth (requests ++ more) =
      peer.openings auth requests ++ (peer.afterRequests auth requests).openings auth more := by
  induction requests generalizing peer with
  | nil => rfl
  | cons request rest ih =>
      rw [List.cons_append, openings, openings, List.cons_append, ih]
      rfl

theorem length_openings (auth : Auth) (peer : Peer) (requests : List Request) :
    (peer.openings auth requests).length = requests.length := by
  induction requests generalizing peer with
  | nil => rfl
  | cons request rest ih => rw [openings, List.length_cons, List.length_cons, ih]

theorem opening_reactions_subset (auth : Auth) (request : Request) (peer : Peer) :
    (peer.opening auth request).2.reactions ⊆ peer.reactions := by
  unfold opening
  split
  · exact List.Subset.refl _
  · cases peer with
    | unreachable => exact List.Subset.refl _
    | scripted reactions =>
        cases reactions with
        | nil => exact List.Subset.refl _
        | cons reaction rest => exact List.subset_cons_self reaction rest

end Peer

end Http

namespace Run

namespace Opening

/-- The whole response, if there is one. -/
def response : Opening → Except TransportError Http.Response
  | .failed error => .error error
  | .silent url => .error (.noAnswer url true)
  | .opened answer => answer.incoming.all.map fun body =>
      { status := answer.status, headers := answer.headers, body, url := answer.url }

/-- The headers of the answer, if one comes; its body may have to be received before it counts. -/
def headers? (whole : Bool) (opening : Opening) : Option Http.Headers :=
  match whole, opening with
  | true, opening => opening.response.toOption.map (·.headers)
  | false, .opened answer => some answer.headers
  | false, _ => none

end Opening

theorem exists_answer_of_headers? {auth : Auth} {request : Http.Request} {peer : Http.Peer}
    {whole : Bool} {headers : Http.Headers}
    (hheaders : (peer.opening auth request).1.headers? whole = some headers) :
    ∃ answer, Http.Reaction.answer answer ∈ peer.reactions ∧ answer.headers = headers := by
  have hopened : ∃ answer, (peer.opening auth request).1 = .opened answer ∧
      answer.headers = headers := by
    cases hopening : (peer.opening auth request).1 with
    | opened answer =>
        refine ⟨answer, rfl, ?_⟩
        rw [hopening] at hheaders
        cases whole with
        | false => exact Option.some.inj hheaders
        | true =>
            unfold Opening.headers? Opening.response at hheaders
            dsimp only at hheaders
            cases hbody : answer.incoming.all with
            | error error => simp [hbody, Except.map, Except.toOption] at hheaders
            | ok body =>
                rw [hbody] at hheaders
                exact Option.some.inj hheaders
    | _ => cases whole <;> simp [hopening, Opening.headers?, Opening.response, Except.toOption]
        at hheaders
  obtain ⟨answer, hopening, rfl⟩ := hopened
  unfold Http.Peer.opening at hopening
  split at hopening
  · simp at hopening
  · split at hopening
    · simp at hopening
    · next reaction rest hreact =>
        cases reaction with
        | answer head =>
            refine ⟨head, ?_, ?_⟩
            · cases peer with
              | unreachable => simp [Http.Peer.react] at hreact
              | scripted reactions =>
                  cases reactions with
                  | nil => simp [Http.Peer.react] at hreact
                  | cons first more =>
                      obtain ⟨rfl, -⟩ := Prod.mk.inj (Option.some.inj hreact)
                      exact List.mem_cons_self
            · obtain rfl := Opening.opened.inj hopening
              rfl
        | _ => simp [Http.Reaction.opening] at hopening

theorem acquire_run (endpoint : String) (before : Traffic) :
    acquire endpoint before =
      (before.limiters.acquire endpoint before.now).map fun served =>
        ((), { before with limiters := served.2 }.add (.turn endpoint served.1)) := by
  have hlift := liftM_run (before.limiters.acquire endpoint before.now) before
  unfold acquire
  rw [bind_run_of_ok (rfl : (get : Run Traffic) before = .ok (before, before))]
  cases hserved : before.limiters.acquire endpoint before.now with
  | error fault =>
      rw [hserved] at hlift
      exact bind_run_of_error hlift _
  | ok served =>
      rw [hserved] at hlift
      exact bind_run_of_ok hlift _

theorem noteHeaders_run (endpoint : String) (headers : Http.Headers) (before : Traffic) :
    noteHeaders endpoint headers before =
      (before.limiters.update endpoint headers before.now).map fun limiters =>
        ((), { before with limiters }.add (.noted endpoint)) := by
  have hlift := liftM_run (before.limiters.update endpoint headers before.now) before
  unfold noteHeaders
  rw [bind_run_of_ok (rfl : (get : Run Traffic) before = .ok (before, before))]
  cases hupdated : before.limiters.update endpoint headers before.now with
  | error fault =>
      rw [hupdated] at hlift
      exact bind_run_of_error hlift _
  | ok limiters =>
      rw [hupdated] at hlift
      exact bind_run_of_ok hlift _

theorem openAnswer_run (request : Http.Request) (auth : Auth) (before : Traffic) :
    openAnswer request auth before =
      .ok ((before.peer.opening auth request).1,
        { before with
          peer := (before.peer.opening auth request).2
          log := before.log ++ .attempt request ::
            (before.peer.heard? auth request).toList.map .sent }) := by
  unfold openAnswer Http.Peer.opening Http.Peer.heard?
  rw [bind_run_of_ok (rfl : (modify fun traffic => traffic.add (.attempt request) : Run Unit)
    before = .ok ((), before.add (.attempt request)))]
  cases houtgoing : Http.Outgoing.ofRequest request auth with
  | error error => cases before.peer.react <;> rfl
  | ok outgoing =>
      dsimp only
      rw [bind_run_of_ok (rfl : (get : Run Traffic) (before.add (.attempt request)) = .ok (_, _))]
      dsimp only [Traffic.add]
      cases hreact : before.peer.react with
      | none => rfl
      | some state =>
          rcases state with ⟨reaction, rest⟩
          have hlog : before.log ++ [.attempt request] ++ [.sent outgoing] =
              before.log ++ .attempt request :: [.sent outgoing] := by simp
          cases reaction with
          | hangUp => exact congrArg (fun log => Except.ok (_, Traffic.mk _ _ _ log)) hlog
          | silence => exact congrArg (fun log => Except.ok (_, Traffic.mk _ _ _ log)) hlog
          | answer head => exact congrArg (fun log => Except.ok (_, Traffic.mk _ _ _ log)) hlog

/-- A passage. -/
def pass (auth : Auth) (endpoint : String) (request : Http.Request) (whole : Bool) :
    Run Opening := do
  acquire endpoint
  let opening ← openAnswer request auth
  match opening.headers? whole with
  | none => return opening
  | some headers =>
      noteHeaders endpoint headers
      return opening

end Run

/-- Traffic after a passage, from what the limiters of the endpoints give for it. -/
def Traffic.passed (traffic : Traffic) (auth : Auth) (endpoint : String) (request : Http.Request)
    (whole : Bool) (served : List Duration × Limiters) : Traffic where
  peer := (traffic.peer.opening auth request).2
  limiters := served.2
  now := traffic.now
  log := traffic.log ++ .turn endpoint served.1 :: .attempt request ::
    ((traffic.peer.heard? auth request).toList.map .sent ++
      ((traffic.peer.opening auth request).1.headers? whole).toList.map fun _ => .noted endpoint)

namespace Run

/-- A passage gives what its request opens at the other side, and fails only where a limiter does. -/
theorem pass_run (auth : Auth) (endpoint : String) (request : Http.Request) (whole : Bool)
    (before : Traffic) :
    pass auth endpoint request whole before =
      (before.limiters.serve endpoint ((before.peer.opening auth request).1.headers? whole)
        before.now).map fun served =>
          ((before.peer.opening auth request).1,
            before.passed auth endpoint request whole served) := by
  unfold pass Limiters.serve
  -- Only the limiter can fail, at the turn or at the note, and the cases follow these two.
  have hturn := acquire_run endpoint before
  cases hserved : before.limiters.acquire endpoint before.now with
  | error fault =>
      rw [hserved] at hturn
      exact bind_run_of_error hturn _
  | ok served =>
      rw [hserved] at hturn
      rw [bind_run_of_ok hturn, bind_run_of_ok (openAnswer_run request auth _)]
      unfold Traffic.passed
      dsimp only [Traffic.add]
      cases hheaders : (before.peer.opening auth request).1.headers? whole with
      | none =>
          rw [List.append_assoc, Option.toList_none, List.map_nil, List.append_nil]
          rfl
      | some headers =>
          have hnote := noteHeaders_run endpoint headers
            { peer := (before.peer.opening auth request).2, limiters := served.2, now := before.now,
              log := before.log ++ [.turn endpoint served.1] ++ .attempt request ::
                (before.peer.heard? auth request).toList.map .sent }
          dsimp only
          change _ = Except.map _ (served.2.update endpoint headers before.now >>= fun limiters =>
            Except.ok (served.1, limiters))
          cases hupdated : served.2.update endpoint headers before.now with
          | error fault =>
              rw [hupdated] at hnote
              exact bind_run_of_error hnote _
          | ok limiters =>
              rw [hupdated] at hnote
              rw [bind_run_of_ok hnote]
              dsimp only [Traffic.add]
              rw [List.append_assoc, List.append_assoc]
              rfl

theorem pass_eq_ok {auth : Auth} {endpoint : String} {request : Http.Request} {whole : Bool}
    {before after : Traffic} {opening : Opening} :
    pass auth endpoint request whole before = .ok (opening, after) ↔
      ∃ served,
        before.limiters.serve endpoint ((before.peer.opening auth request).1.headers? whole)
          before.now = .ok served ∧
        opening = (before.peer.opening auth request).1 ∧
        after = before.passed auth endpoint request whole served := by
  rw [pass_run, Fault.map_eq_ok]
  simp only [Prod.mk.injEq, eq_comm]

end Run

/-- Whether the limiter of an endpoint, where there is one, can reckon with all the times that the
other side may make it come to. -/
def Traffic.TellsTimes (traffic : Traffic) (endpoint : String) : Prop :=
  ∀ limiter, traffic.limiters.find? endpoint = some limiter →
    limiter.bucket.Fits traffic.now ∧
      ∀ answer, .answer answer ∈ traffic.peer.reactions → CanNote answer.headers traffic.now

theorem Traffic.tellsTimes_of_none {traffic : Traffic} {endpoint : String}
    (hlimiter : traffic.limiters.find? endpoint = none) : traffic.TellsTimes endpoint := by
  intro limiter hfound
  rw [hlimiter] at hfound
  cases hfound

theorem Traffic.exists_serve {traffic : Traffic} {endpoint : String}
    (htimes : traffic.TellsTimes endpoint) (auth : Auth) (request : Http.Request) (whole : Bool) :
    ∃ served, traffic.limiters.serve endpoint
        ((traffic.peer.opening auth request).1.headers? whole) traffic.now = .ok served ∧
      (traffic.passed auth endpoint request whole served).TellsTimes endpoint := by
  have hfits : ∀ limiter, traffic.limiters.find? endpoint = some limiter →
      limiter.bucket.Fits traffic.now := fun limiter hlimiter => (htimes limiter hlimiter).1
  have hnote : traffic.limiters.find? endpoint ≠ none → ∀ headers,
      (traffic.peer.opening auth request).1.headers? whole = some headers →
        CanNote headers traffic.now := by
    intro hlimited headers hheaders
    obtain ⟨limiter, hlimiter⟩ := Option.ne_none_iff_exists'.1 hlimited
    obtain ⟨answer, hanswer, rfl⟩ := Run.exists_answer_of_headers? hheaders
    exact (htimes limiter hlimiter).2 answer hanswer
  obtain ⟨waits, limiters, hserve, hstill⟩ := Limiters.exists_serve hfits hnote
  refine ⟨(waits, limiters), hserve, ?_⟩
  intro next hnext
  refine ⟨hstill next hnext, ?_⟩
  intro answer hanswer
  cases hlimiter : traffic.limiters.find? endpoint with
  | none =>
      rw [Limiters.serve_of_none hlimiter] at hserve
      obtain rfl := (Prod.mk.inj (Except.ok.inj hserve)).2
      exact absurd (hlimiter.symm.trans hnext) (by simp)
  | some limiter =>
      exact (htimes limiter hlimiter).2 answer
        (traffic.peer.opening_reactions_subset auth request hanswer)

theorem Run.exists_pass {endpoint : String} {before : Traffic}
    (htimes : before.TellsTimes endpoint) (auth : Auth) (request : Http.Request) (whole : Bool) :
    ∃ opening after, Run.pass auth endpoint request whole before = .ok (opening, after) ∧
      after.TellsTimes endpoint := by
  obtain ⟨served, hserve, hstill⟩ := before.exists_serve htimes auth request whole
  exact ⟨_, _, Run.pass_eq_ok.2 ⟨served, hserve, rfl, rfl⟩, hstill⟩

end ApiBridge
