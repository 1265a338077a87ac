import ApiBridge.Proofs.Connector.Retry
import ApiBridge.Proofs.Connector.Validation

namespace ApiBridge

namespace Connector

variable {connector : Connector} {name : String} {request : Http.Request} {before after : Traffic}

theorem sendOnce_eq_ok {outcome : Except Error Json}
    (hrun : (connector.sendOnce name request).run before = .ok (outcome, after)) :
    outcome = answerValue sentValue (before.peer.opening connector.definition.auth request).1 ∧
      after.peer = (before.peer.opening connector.definition.auth request).2 ∧
      after.requests = before.requests ++ [request] := by
  have hmarks := leaves_sendOnce connector name request _ _ _ hrun
  rw [sendOnce_run] at hrun
  obtain ⟨opening, middle, hpass, hpure⟩ := Run.bind_eq_ok.1 hrun
  obtain ⟨served, -, rfl, rfl⟩ := Run.pass_eq_ok.1 hpass
  obtain ⟨rfl, rfl⟩ := Run.pure_eq_ok.1 hpure
  refine ⟨rfl, rfl, ?_⟩
  rw [Traffic.requests_eq, hmarks, List.filterMap_append, ← Traffic.requests_eq]
  rfl

theorem failsBy_sendOnce (connector : Connector) (name : String) (request : Http.Request) :
    (connector.sendOnce name request).FailsBy connector.definition.auth request sentValue := by
  intro before error after hrun
  obtain ⟨houtcome, hpeer, hrequests⟩ := sendOnce_eq_ok hrun
  exact ⟨houtcome.symm, hpeer, hrequests⟩

theorem exists_sendOnce (connector : Connector) (htimes : before.TellsTimes name)
    (request : Http.Request) :
    ∃ outcome after, (connector.sendOnce name request).run before = .ok (outcome, after) ∧
      after.TellsTimes name := by
  obtain ⟨opening, after, hpass, hafter⟩ :=
    Run.exists_pass htimes connector.definition.auth request true
  refine ⟨answerValue sentValue opening, after, ?_, hafter⟩
  rw [sendOnce_run, Run.bind_run_of_ok hpass]
  rfl

/-- Sending a value that is no list does nothing but checks, or comes to what the attempts at its
request come to. -/
theorem send_single_cases (connector : Connector) (name : String) {value : Json}
    (hvalue : value.array? = none) (before : Traffic) :
    (∃ error checked, (connector.send name value).run before = .ok (.error error, checked) ∧
      checked.unchecked = before.unchecked) ∨
    ∃ request checked, request.body = some value ∧ checked.unchecked = before.unchecked ∧
      (connector.send name value).run before =
        (connector.withRetries (connector.sendOnce name request)).run checked >>= fun state =>
          .ok ((state.1.mapError (reported (sendReport name request))).map .single, state.2) := by
  cases hendpoint : connector.endpoint name with
  | error error =>
      refine .inl ⟨error, before, ?_, rfl⟩
      rw [send, hendpoint]
      rfl
  | ok endpoint =>
      obtain ⟨plain, hplain⟩ := prepare_eq_ok hendpoint []
      obtain ⟨checked, hchecked, hrefused, haccepted⟩ := send_run hendpoint hplain hvalue before
      cases haccepts : connector.accepts endpoint value with
      | false =>
          obtain ⟨report, hrun⟩ := hrefused haccepts
          exact .inl ⟨_, checked, hrun, hchecked⟩
      | true => exact .inr ⟨_, checked, rfl, hchecked, haccepted haccepts⟩

theorem last_of_isFinal {α β : Type} {answer : β → Except Error α} {openings later : List β}
    {opening : β} {earlier : List (Except Error α)} {outcome : Except Error α}
    (hfailed : ∀ outcome ∈ earlier, isFinal outcome = false)
    (houtcomes : (openings ++ opening :: later).map answer = earlier ++ [outcome])
    (hfinal : isFinal (answer opening) = true ∨ later = []) :
    later = [] ∧ outcome = answer opening := by
  rcases List.eq_nil_or_concat later with rfl | ⟨init, last, rfl⟩
  · rw [List.map_append] at houtcomes
    obtain ⟨-, hlast⟩ := List.append_inj' houtcomes rfl
    exact ⟨rfl, (List.singleton_inj.1 hlast).symm⟩
  · rw [List.concat_eq_append] at houtcomes hfinal
    -- The last outcome is that of a later one, so this one is among those that are not final.
    rw [← List.cons_append, ← List.append_assoc, List.map_append] at houtcomes
    obtain ⟨hearlier, -⟩ := List.append_inj' houtcomes rfl
    have hmem : answer opening ∈ earlier := by
      rw [← hearlier]
      exact List.mem_map_of_mem (by simp)
    rcases hfinal with hfinal | hnil
    · rw [hfailed _ hmem] at hfinal
      cases hfinal
    · simp at hnil

/-- What the attempts at sending a request come to: as many have been made as it takes for one to be
final, or as are allowed, and the outcome of the last one counts. -/
structure Sent (connector : Connector) (request : Http.Request) (before : Traffic) (attempts : Nat)
    (outcome : Except Error Json) (after : Traffic) : Prop where
  requests_eq : after.requests = before.requests ++ List.replicate attempts request
  attempts_le : attempts ≤ max connector.definition.retryCount 1
  ended : isFinal outcome ∨ attempts = max connector.definition.retryCount 1
  outcomes_eq : ∃ failed, (∀ outcome ∈ failed, isFinal outcome = false) ∧
    (before.peer.openings connector.definition.auth (List.replicate attempts request)).map
      (answerValue sentValue) = failed ++ [outcome]

theorem sent_of_withRetries {outcome : Except Error Json}
    (hrun : (connector.withRetries (connector.sendOnce name request)).run before =
      .ok (outcome, after)) :
    ∃ attempts, connector.Sent request before attempts outcome after := by
  obtain ⟨failed, last, htries, hfailed, hbound, hlast, hend⟩ :=
    tries_of_retry _ .nil (List.forall_mem_nil _) hrun
  obtain ⟨⟨errors, rfl, hopenings⟩, hpeer, hrequests⟩ :=
    htries.failures_eq hfailed (failsBy_sendOnce connector name request)
  obtain ⟨houtcome, -, hmade⟩ := sendOnce_eq_ok hlast
  rw [List.length_nil, Nat.zero_add, List.length_map] at hbound hend
  rw [List.length_map] at hopenings hpeer hrequests
  refine ⟨errors.length + 1, ?_, by omega, hend.imp_right (by omega), _, hfailed, ?_⟩
  · rw [hmade, hrequests, List.append_assoc, List.replicate_succ']
  · rw [List.replicate_succ', Http.Peer.openings_append, List.map_append, hopenings, ← hpeer,
      houtcome]
    rfl

theorem exists_withRetries_sendOnce (connector : Connector) (htimes : before.TellsTimes name)
    (request : Http.Request)
    (hdelay : ∀ attempt < max connector.definition.retryCount 1,
      connector.definition.retryDelay.nanoseconds * attempt ≤ Duration.max.nanoseconds) :
    ∃ outcome after, (connector.withRetries (connector.sendOnce name request)).run before =
      .ok (outcome, after) := by
  apply exists_retry (fun _ _ hholds => hholds)
    (fun _ hholds => exists_sendOnce connector hholds request) _ htimes
  intro number hnumber
  exact hdelay number (by omega)

namespace Sent

variable {attempts : Nat} {outcome : Except Error Json} {earlier later : List Run.Opening}
  {opening : Run.Opening}

theorem eq_of_readable (h : connector.Sent request before attempts outcome after) {json : Json}
    (hopenings : before.peer.openings connector.definition.auth
      (List.replicate attempts request) = earlier ++ opening :: later)
    (hanswer : answerValue sentValue opening = .ok json) : later = [] ∧ outcome = .ok json := by
  obtain ⟨failed, hfailed, houtcomes⟩ := h.outcomes_eq
  rw [hopenings] at houtcomes
  obtain ⟨hlater, houtcome⟩ := last_of_isFinal hfailed houtcomes (.inl (by rw [hanswer]; rfl))
  exact ⟨hlater, houtcome.trans hanswer⟩

theorem eq_of_unreadable (h : connector.Sent request before attempts outcome after) {error : Error}
    (hopenings : before.peer.openings connector.definition.auth
      (List.replicate attempts request) = earlier ++ [opening])
    (hanswer : answerValue sentValue opening = .error error) (hconfig : error.isConfig = false) :
    attempts = max connector.definition.retryCount 1 ∧ outcome = .error error := by
  obtain ⟨failed, hfailed, houtcomes⟩ := h.outcomes_eq
  rw [hopenings] at houtcomes
  obtain ⟨-, houtcome⟩ := last_of_isFinal hfailed houtcomes (.inr rfl)
  rw [hanswer] at houtcome
  have hended := h.ended
  rw [houtcome, isFinal, hconfig] at hended
  exact ⟨hended.resolve_left Bool.false_ne_true, houtcome⟩

end Sent

theorem answerValue_of_isSuccess (read : List UInt8 → Except Error Json) {opening : Run.Opening}
    {response : Http.Response} (hresponse : opening.response = .ok response)
    (hsuccess : response.isSuccess = true) : answerValue read opening = read response.body := by
  unfold answerValue
  rw [hresponse]
  exact if_pos hsuccess

theorem sentValue_of_parse {body : List UInt8} {json : Json}
    (hparse : Json.parseBytes? body = some json) : sentValue body = .ok json := by
  cases body with
  | nil =>
      have hnone : (Json.parseBytes? []).isNone = true := by decide +kernel
      rw [hparse] at hnone
      cases hnone
  | cons byte rest => simp [sentValue, jsonOf, hparse]

theorem sentValue_of_unreadable {body : List UInt8} (hblank : body.all isAsciiBlank = false)
    (hparse : Json.parseBytes? body = none) : sentValue body = .error .invalidJson := by
  cases body with
  | nil => cases hblank
  | cons byte rest => simp [sentValue, jsonOf, hparse]

/-- Sending a value that is no list. It comes to a result as long as the waits between the attempts
and those for the limiter can be told. Once an answer of success has come whole, and is empty or
JSON, nothing is sent any more and the call succeeds. After one that is neither blank nor JSON the
value is sent again, as long as there are attempts left, and the call fails if there are none.
Nothing is promised of a body of blanks alone: fetching reads it as an empty one, sending takes it
for broken JSON, and one of the two is out of step. -/
theorem send_accepted (connector : Connector) (name : String) {value : Json}
    (hvalue : value.array? = none) (before : Traffic) :
    let allowed := max connector.definition.retryCount 1
    let run := (connector.send name value).run before
    ((∀ attempt < allowed, connector.definition.retryDelay.nanoseconds * attempt ≤
        Duration.max.nanoseconds) → before.TellsTimes name →
      ∃ result after, run = .ok (result, after)) ∧
    ∀ result after, run = .ok (result, after) →
      ∃ requests, after.requests = before.requests ++ requests ∧
        (∀ request ∈ requests, request.body = some value) ∧ requests.length ≤ allowed ∧
        ∀ earlier opening later response,
          before.peer.openings connector.definition.auth requests = earlier ++ opening :: later →
          opening.response = .ok response → response.isSuccess = true →
          (response.body = [] → later = [] ∧ result = .ok (.single (.object []))) ∧
          (∀ json, Json.parseBytes? response.body = some json →
            later = [] ∧ result = .ok (.single json)) ∧
          (response.body.all isAsciiBlank = false → Json.parseBytes? response.body = none →
            later = [] → requests.length = allowed ∧
              ∃ report, result = .error (.api report)) := by
  intro allowed run
  rcases send_single_cases connector name hvalue before with
    ⟨error, checked, hrun, hchecked⟩ | ⟨request, checked, hbody, hchecked, hrun⟩
  · refine ⟨fun _ _ => ⟨_, _, hrun⟩, ?_⟩
    intro result after hresult
    obtain ⟨-, rfl⟩ := Prod.mk.inj (Except.ok.inj (hrun.symm.trans hresult))
    refine ⟨[], ?_, List.forall_mem_nil _, Nat.zero_le _, ?_⟩
    · rw [Traffic.requests_of_unchecked hchecked, List.append_nil]
    · intro earlier opening later response hopenings
      simp [Http.Peer.openings] at hopenings
  constructor
  · intro hdelay htimes
    obtain ⟨outcome, after, hretry⟩ :=
      exists_withRetries_sendOnce connector (htimes.of_unchecked hchecked) request hdelay
    rw [hretry] at hrun
    exact ⟨_, after, hrun⟩
  · intro result after hresult
    obtain ⟨⟨outcome, reached⟩, hretry, hpair⟩ := Fault.bind_eq_ok.1 (hrun.symm.trans hresult)
    obtain ⟨rfl, rfl⟩ := Prod.mk.inj (Except.ok.inj hpair)
    obtain ⟨attempts, hsent⟩ := sent_of_withRetries hretry
    refine ⟨List.replicate attempts request, ?_, ?_, ?_, ?_⟩
    · rw [hsent.requests_eq, Traffic.requests_of_unchecked hchecked]
    · intro made hmade
      rw [(List.mem_replicate.1 hmade).2, hbody]
    · rw [List.length_replicate]
      exact hsent.attempts_le
    · intro earlier opening later response hopenings hresponse hsuccess
      rw [← (Traffic.eq_of_unchecked hchecked).1] at hopenings
      have hanswer := answerValue_of_isSuccess sentValue hresponse hsuccess
      have hreadable : ∀ json, sentValue response.body = .ok json →
          later = [] ∧ (outcome.mapError (reported (sendReport name request))).map Delivery.single =
            .ok (.single json) := by
        intro json hjson
        obtain ⟨hlater, rfl⟩ := hsent.eq_of_readable hopenings (hanswer.trans hjson)
        exact ⟨hlater, rfl⟩
      refine ⟨?_, ?_, ?_⟩
      · intro hempty
        exact hreadable (.object []) (by rw [hempty]; rfl)
      · intro json hparse
        exact hreadable json (sentValue_of_parse hparse)
      · rintro hblank hparse rfl
        have hunreadable := hanswer.trans (sentValue_of_unreadable hblank hparse)
        obtain ⟨hattempts, rfl⟩ := hsent.eq_of_unreadable hopenings hunreadable rfl
        rw [List.length_replicate]
        exact ⟨hattempts, _, rfl⟩

/-- A value that is sent to a server that hangs up and then answers. -/
theorem send_accepted_sample :
    let start := Traffic.sample [.hangUp, .sample [Utf8.encode "7"] .complete, .hangUp]
    ∃ result after requests,
      (withObjects.send "items" (.object [])).run start = .ok (result, after) ∧
      after.requests = start.requests ++ requests ∧
      (∀ request ∈ requests, request.body = some (.object [])) ∧
      requests.length = 2 ∧ result.isOk = true := by
  intro start
  have hlimiter : start.TellsTimes "items" := by
    intro limiter hlimiter
    cases hlimiter
  obtain ⟨hreturns, hresults⟩ := send_accepted withObjects "items"
    (show (Json.object []).array? = none from rfl) start
  obtain ⟨result, after, hrun⟩ := hreturns (by decide +kernel) hlimiter
  obtain ⟨requests, hrequests, hbodies, -, -⟩ := hresults result after hrun
  have htest : ((withObjects.send "items" (.object [])).run start).toOption.any fun state =>
      state.2.requests.length == 2 && state.1.isOk := by
    decide +kernel
  rw [hrun] at htest
  have hcounts : (after.requests.length == 2 && result.isOk) = true := htest
  rw [Bool.and_eq_true, beq_iff_eq, hrequests] at hcounts
  exact ⟨result, after, requests, hrun, hrequests, hbodies, hcounts⟩

/-- A server that takes a value in and says so in words gets it three times, and the call fails. -/
theorem send_repeats_accepted :
    let value := Json.ofPairs [("x", .ofNat 1)]
    let start := Traffic.sample (.replicate 3 (.sample [Utf8.encode "OK"] .complete))
    ∃ error after, (withObjects.send "items" value).run start = .ok (.error error, after) ∧
      after.requests.map (fun request => request.body.map Json.compact) =
        .replicate 3 (some value.compact) ∧
      ∀ opening ∈ start.peer.openings withObjects.definition.auth after.requests,
        ∃ response, opening.response = .ok response ∧ response.isSuccess = true := by
  intro value start
  have htest : ((withObjects.send "items" value).run start).toOption.any fun state =>
      state.1.toOption.isNone &&
      state.2.requests.map (fun request => request.body.map Json.compact) ==
        .replicate 3 (some value.compact) &&
      (start.peer.openings withObjects.definition.auth state.2.requests).all fun opening =>
        opening.response.toOption.any Http.Response.isSuccess := by
    decide +kernel
  obtain ⟨result, after, hrun, htest⟩ := Run.exists_of_any htest
  rw [Bool.and_eq_true, Bool.and_eq_true, beq_iff_eq, List.all_eq_true] at htest
  obtain ⟨⟨hfailed, hrequests⟩, hopenings⟩ := htest
  cases result with
  | ok delivery => cases hfailed
  | error error =>
      refine ⟨error, after, hrun, hrequests, ?_⟩
      intro opening hopening
      exact exists_of_any (hopenings opening hopening)

end Connector

end ApiBridge
