import ApiBridge.Proofs.Connector.Calls
import ApiBridge.Proofs.Connector.Mark

namespace ApiBridge

/-- Traffic without the checks in its log. -/
def Traffic.unchecked (traffic : Traffic) : Traffic :=
  { traffic with log := traffic.log.filter fun act => act.validation?.isNone }

/-- Traffic after the check of some values. -/
def Traffic.afterChecks (traffic : Traffic) (validator : Schema.Validator) (schema : Json)
    (values : List Json) : Traffic :=
  { traffic with
    log := traffic.log ++ values.map fun value =>
      .checked { payload := value, outcome := validator value schema } }

namespace Traffic

theorem unchecked_afterChecks (traffic : Traffic) (validator : Schema.Validator) (schema : Json)
    (values : List Json) :
    (traffic.afterChecks validator schema values).unchecked = traffic.unchecked := by
  have hchecks : (values.map fun value =>
      Act.checked { payload := value, outcome := validator value schema }).filter
        (fun act => act.validation?.isNone) = [] :=
    List.filter_eq_nil_iff.2 (by simp [Act.validation?])
  rw [unchecked, afterChecks, List.filter_append, hchecks, List.append_nil]
  rfl

theorem afterChecks_cons (before : Traffic) (validator : Schema.Validator) (schema value : Json)
    (rest : List Json) :
    (before.afterChecks validator schema [value]).afterChecks validator schema rest =
      before.afterChecks validator schema (value :: rest) := by
  simp [afterChecks]

theorem ownMarks_unchecked (traffic : Traffic) :
    traffic.unchecked.ownMarks = traffic.ownMarks := by
  rw [ownMarks, unchecked, List.filterMap_filter]
  unfold ownMarks
  congr 1
  funext act
  cases act <;> rfl

theorem eq_of_unchecked {before other : Traffic} (hsame : before.unchecked = other.unchecked) :
    before.peer = other.peer ∧ before.limiters = other.limiters ∧ before.now = other.now ∧
      before.ownMarks = other.ownMarks := by
  have hmarks := congrArg ownMarks hsame
  rw [ownMarks_unchecked, ownMarks_unchecked] at hmarks
  obtain ⟨hpeer, hlimiters, hnow, -⟩ := Traffic.mk.inj hsame
  exact ⟨hpeer, hlimiters, hnow, hmarks⟩

theorem requests_of_unchecked {before other : Traffic} (hsame : before.unchecked = other.unchecked) :
    before.requests = other.requests := by
  rw [requests_eq, requests_eq, (eq_of_unchecked hsame).2.2.2]

theorem TellsTimes.of_unchecked {before other : Traffic} {endpoint : String}
    (htimes : other.TellsTimes endpoint) (hsame : before.unchecked = other.unchecked) :
    before.TellsTimes endpoint := by
  obtain ⟨hpeer, hlimiters, hnow, -⟩ := eq_of_unchecked hsame
  unfold TellsTimes
  rwa [hpeer, hlimiters, hnow]

end Traffic

namespace Connector

variable {validator : Schema.Validator} {schema : Json}

theorem checkRequests_cons_run (name : String) (value : Json) (rest : List Json)
    (before : Traffic) :
    (checkRequests validator name schema (value :: rest)).run before =
      if (validator value schema).valid then
        (checkRequests validator name schema rest).run (before.afterChecks validator schema [value])
      else
        .ok (.error (.api (validationReport name (validator value schema).diffs)),
          before.afterChecks validator schema [value]) := by
  change (ite _ (checkRequests validator name schema rest) (throw _) : Activity Unit).run _ = _
  split <;> rfl

theorem checkRequests_of_forall (name : String) {values : List Json}
    (hvalid : ∀ value ∈ values, (validator value schema).valid = true) (before : Traffic) :
    (checkRequests validator name schema values).run before =
      .ok (.ok (), before.afterChecks validator schema values) := by
  induction values generalizing before with
  | nil =>
      rw [Traffic.afterChecks, List.map_nil, List.append_nil]
      rfl
  | cons value rest ih =>
      obtain ⟨hvalue, hrest⟩ := List.forall_mem_cons.1 hvalid
      rw [checkRequests_cons_run, if_pos hvalue, ih hrest, Traffic.afterChecks_cons]

theorem checkRequests_of_append (name : String) {passed : List Json} {refused : Json}
    (rest : List Json)
    (hpassed : ∀ value ∈ passed, (validator value schema).valid = true)
    (hrefused : (validator refused schema).valid = false) (before : Traffic) :
    (checkRequests validator name schema (passed ++ refused :: rest)).run before =
      .ok (.error (.api (validationReport name (validator refused schema).diffs)),
        before.afterChecks validator schema (passed ++ [refused])) := by
  induction passed generalizing before with
  | nil =>
      rw [List.nil_append, checkRequests_cons_run, if_neg (by simp [hrefused])]
      rfl
  | cons value passed ih =>
      obtain ⟨hvalue, hmore⟩ := List.forall_mem_cons.1 hpassed
      rw [List.cons_append, checkRequests_cons_run, if_pos hvalue, ih hmore, Traffic.afterChecks_cons]
      rfl

theorem exists_refused {values : List Json}
    (hinvalid : ∃ value ∈ values, (validator value schema).valid = false) :
    ∃ passed refused rest, values = passed ++ refused :: rest ∧
      (∀ value ∈ passed, (validator value schema).valid = true) ∧
      (validator refused schema).valid = false := by
  obtain ⟨value, hvalue, hvalid⟩ := hinvalid
  have hsome : (values.find? fun value => !(validator value schema).valid).isSome :=
    List.find?_isSome.2 ⟨value, hvalue, by rw [hvalid]; rfl⟩
  obtain ⟨refused, hfound⟩ := Option.isSome_iff_exists.1 hsome
  obtain ⟨hrefused, passed, rest, hvalues, hpassed⟩ := List.find?_eq_some_iff_append.1 hfound
  refine ⟨passed, refused, rest, hvalues, ?_, by simpa using hrefused⟩
  intro other hother
  simpa using hpassed other hother

/-- Whether a value satisfies the schema for requests, as far as there is one that is checked. -/
def accepts (connector : Connector) (endpoint : Endpoint) (value : Json) : Bool :=
  match endpoint.requestSchema, connector.validator with
  | some schema, some validator => (validator value schema).valid
  | _, _ => true

theorem checkPayload_run (connector : Connector) (name : String) (endpoint : Endpoint)
    (payload : Json) (before : Traffic) :
    let values := payload.array?.getD [payload]
    let run := (connector.checkPayload name endpoint payload).run before
    ∃ checked, checked.unchecked = before.unchecked ∧
      ((∀ value ∈ values, connector.accepts endpoint value = true) →
        run = .ok (.ok (), checked)) ∧
      ((∃ value ∈ values, connector.accepts endpoint value = false) →
        ∃ report, run = .ok (.error (.api report), checked)) := by
  intro values
  unfold checkPayload accepts
  cases endpoint.requestSchema with
  | none => exact ⟨before, rfl, fun _ => rfl, by simp⟩
  | some schema =>
      cases connector.validator with
      | none => exact ⟨before, rfl, fun _ => rfl, by simp⟩
      | some validator =>
          dsimp only
          by_cases hvalid : ∀ value ∈ values, (validator value schema).valid = true
          · refine ⟨_, before.unchecked_afterChecks validator schema values,
              fun _ => checkRequests_of_forall name hvalid before, ?_⟩
            rintro ⟨value, hvalue, hrefused⟩
            rw [hvalid value hvalue] at hrefused
            cases hrefused
          · obtain ⟨passed, refused, rest, hvalues, hpassed, hrefused⟩ :=
              exists_refused (by simpa using hvalid)
            have hrun := checkRequests_of_append name rest hpassed hrefused before
            rw [← hvalues] at hrun
            exact ⟨_, before.unchecked_afterChecks validator schema (passed ++ [refused]),
              fun haccepted => absurd haccepted hvalid, fun _ => ⟨_, hrun⟩⟩

end Connector

end ApiBridge
