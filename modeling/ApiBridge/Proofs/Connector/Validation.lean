import ApiBridge.Proofs.Connector.Checks
import ApiBridge.Proofs.Connector.Course

namespace ApiBridge

namespace Traffic

theorem unchecked_pause (traffic : Traffic) (d : Duration) :
    (traffic.add (.pause d)).unchecked = traffic.unchecked.add (.pause d) := by
  rw [unchecked, add, List.filter_append]
  rfl

theorem unchecked_passed (traffic : Traffic) (auth : Auth) (endpoint : String)
    (request : Http.Request) (whole : Bool) (served : List Duration × RateLimit.Limiters) :
    (traffic.passed auth endpoint request whole served).unchecked =
      traffic.unchecked.passed auth endpoint request whole served := by
  have hacts : (.turn endpoint served.1 :: .attempt request ::
      ((traffic.peer.heard? auth request).toList.map Act.sent ++
        ((traffic.peer.opening auth request).1.headers? whole).toList.map fun _ =>
          Act.noted endpoint)).filter (fun act => act.validation?.isNone) = _ :=
    List.filter_eq_self.2 (by
      simp only [List.mem_cons, List.mem_append, List.mem_map]
      rintro act (rfl | rfl | ⟨message, -, rfl⟩ | ⟨headers, -, rfl⟩) <;> rfl)
  rw [unchecked, passed, List.filter_append, hacts]
  rfl

end Traffic

namespace Run

variable {α β : Type}

/-- What a run comes to, apart from the checks in the log. -/
def unchecked (run : Run α) (before : Traffic) : Except Fault (α × Traffic) :=
  (run before).map fun state => (state.1, state.2.unchecked)

/-- Whether two runs come to the same, apart from the checks before them and in them. -/
def Agrees (run other : Run α) : Prop :=
  ∀ before met, before.unchecked = met.unchecked → run.unchecked before = other.unchecked met

theorem Agrees.bind {first other : Run α} {second next : α → Run β} (hfirst : first.Agrees other)
    (hsecond : ∀ value, (second value).Agrees (next value)) :
    (first >>= second).Agrees (other >>= next) := by
  intro before met hsame
  have hparts := hfirst before met hsame
  unfold Run.unchecked at hparts ⊢
  cases hbefore : first before with
  | error fault =>
      cases hmet : other met with
      | error failure =>
          rw [hbefore, hmet] at hparts
          rw [bind_run_of_error hbefore, bind_run_of_error hmet]
          exact congrArg Except.error (Except.error.inj hparts)
      | ok state =>
          rw [hbefore, hmet] at hparts
          cases hparts
  | ok state =>
      cases hmet : other met with
      | error failure =>
          rw [hbefore, hmet] at hparts
          cases hparts
      | ok reached =>
          rw [hbefore, hmet] at hparts
          rcases state with ⟨value, middle⟩
          rcases reached with ⟨given, rest⟩
          obtain ⟨rfl, hmiddle⟩ := Prod.mk.inj (Except.ok.inj hparts)
          rw [bind_run_of_ok hbefore, bind_run_of_ok hmet]
          exact hsecond value middle rest hmiddle

/-- Whether a run goes the same way whatever has been checked before it. -/
def IgnoresChecks (run : Run α) : Prop :=
  ∀ before other, before.unchecked = other.unchecked → run.unchecked before = run.unchecked other

namespace IgnoresChecks

theorem pure (value : α) : (Pure.pure value : Run α).IgnoresChecks := by
  intro before other hsame
  exact congrArg (fun traffic => Except.ok (value, traffic)) hsame

theorem bind {first : Run α} {second : α → Run β} (hfirst : first.IgnoresChecks)
    (hsecond : ∀ value, (second value).IgnoresChecks) : (first >>= second).IgnoresChecks :=
  Agrees.bind hfirst hsecond

theorem lift (outcome : Except Fault α) : (liftM outcome : Run α).IgnoresChecks := by
  intro before other hsame
  unfold Run.unchecked
  rw [liftM_run, liftM_run]
  cases outcome with
  | error fault => rfl
  | ok value => exact congrArg (fun traffic => Except.ok (value, traffic)) hsame

theorem pause (d : Duration) : (Run.pause d).IgnoresChecks := by
  intro before other hsame
  change Except.ok (PUnit.unit, (before.add (.pause d)).unchecked) =
    .ok (PUnit.unit, (other.add (.pause d)).unchecked)
  rw [Traffic.unchecked_pause, Traffic.unchecked_pause, hsame]

theorem pass (auth : Auth) (endpoint : String) (request : Http.Request) (whole : Bool) :
    (Run.pass auth endpoint request whole).IgnoresChecks := by
  have hrun : ∀ before, (Run.pass auth endpoint request whole).unchecked before =
      (before.unchecked.limiters.serve endpoint
        ((before.unchecked.peer.opening auth request).1.headers? whole)
        before.unchecked.now).map fun served =>
          ((before.unchecked.peer.opening auth request).1,
            before.unchecked.passed auth endpoint request whole served) := by
    intro before
    unfold Run.unchecked
    rw [pass_run]
    have hserve : before.unchecked.limiters.serve endpoint
        ((before.unchecked.peer.opening auth request).1.headers? whole) before.unchecked.now =
      before.limiters.serve endpoint ((before.peer.opening auth request).1.headers? whole)
        before.now := rfl
    rw [hserve]
    cases before.limiters.serve endpoint _ before.now with
    | error fault => rfl
    | ok served =>
        have hpassed := before.unchecked_passed auth endpoint request whole served
        exact congrArg (fun traffic => Except.ok (_, traffic)) hpassed
  intro before other hsame
  rw [hrun, hrun, hsame]

theorem compositional : Compositional fun _ run => run.IgnoresChecks :=
  ⟨pure, bind, lift, pause⟩

end IgnoresChecks

end Run

namespace Connector

/-- A connector that checks nothing. -/
def withoutValidator (connector : Connector) : Connector := { connector with validator := none }

theorem sendItems_withoutValidator (connector : Connector) (name : String) (request : Http.Request)
    (report : BatchReport) (index : Nat) (items : List Json) :
    connector.withoutValidator.sendItems name request report index items =
      connector.sendItems name request report index items := by
  induction items generalizing request report index with
  | nil => rfl
  | cons item rest ih =>
      rw [sendItems_cons, sendItems_cons]
      exact bind_congr fun opening => ih _ _ _

theorem deliver_withoutValidator (connector : Connector) (name : String) (request : Http.Request)
    (value : Json) :
    connector.withoutValidator.deliver name request value =
      connector.deliver name request value := by
  unfold deliver
  split
  · rw [sendItems_withoutValidator]
  · rfl

variable {validator : Schema.Validator} {schema : Json}

/-- Sending to an endpoint with a schema for what is sent. If a value does not pass the check of it,
all that comes of the call is a report of what is wrong with the first one that does not, and nothing
but checks has been done. If all values pass, the call goes as it does with a connector that checks
nothing. -/
theorem send_checked {connector : Connector} {name : String} {endpoint : Endpoint}
    (hendpoint : connector.endpoint name = .ok endpoint)
    (hschema : endpoint.requestSchema = some schema)
    (hvalidator : connector.validator = some validator) (payload : Json) (before : Traffic) :
    let values := payload.array?.getD [payload]
    ((∃ value ∈ values, (validator value schema).valid = false) →
      ∃ passed refused rest report after, values = passed ++ refused :: rest ∧
        (∀ value ∈ passed, (validator value schema).valid = true) ∧
        (validator refused schema).valid = false ∧
        (connector.send name payload).run before = .ok (.error (.api report), after) ∧
        report.category = .validation ∧
        report.context.find? "diffs" =
          some (.array ((validator refused schema).diffs.map Schema.Diff.encode)) ∧
        after.unchecked = before.unchecked) ∧
    ((∀ value ∈ values, (validator value schema).valid = true) →
      (connector.send name payload).run.unchecked before =
        (connector.withoutValidator.send name payload).run.unchecked before) := by
  intro values
  obtain ⟨request, hrequest⟩ := prepare_eq_ok hendpoint []
  have hsend : connector.send name payload = (do
      checkRequests validator name schema values
      connector.deliver name request payload) := by
    rw [send_eq_deliver hendpoint hrequest, checkPayload, hschema, hvalidator]
  constructor
  · intro hinvalid
    obtain ⟨passed, refused, rest, hvalues, hvalid, hrefused⟩ := exists_refused hinvalid
    have hchecks := checkRequests_of_append name rest hvalid hrefused before
    have hrun := Activity.bind_run_of_error hchecks fun _ => connector.deliver name request payload
    rw [← hvalues, ← hsend] at hrun
    exact ⟨passed, refused, rest, _, _, hvalues, hvalid, hrefused, hrun, rfl,
      Table.find?_put _ _ _, before.unchecked_afterChecks validator schema (passed ++ [refused])⟩
  · intro hvalid
    have hchecks := checkRequests_of_forall name hvalid before
    have hplain : connector.withoutValidator.send name payload =
        connector.deliver name request payload := by
      have hfound : connector.withoutValidator.endpoint name = .ok endpoint := hendpoint
      have hprepared : connector.withoutValidator.prepare name [] = .ok request := hrequest
      rw [send_eq_deliver hfound hprepared, deliver_withoutValidator, checkPayload, hschema]
      rfl
    have hrun : (connector.send name payload).run.unchecked before =
        (connector.deliver name request payload).run.unchecked
          (before.afterChecks validator schema values) := by
      unfold Run.unchecked
      rw [hsend, Activity.bind_run_of_ok hchecks]
    rw [hrun, hplain]
    have hignores : (connector.deliver name request payload).run.IgnoresChecks :=
      Run.IgnoresChecks.compositional.deliver (fun body => .pass _ _ _ _) payload
    exact hignores _ _ (before.unchecked_afterChecks validator schema values)

/-- A connector that sends objects only. -/
def withObjects : Connector where
  definition := (Definition.new "rest" "http://h").withEndpoint "items"
    { Endpoint.new "/" with
      method := .post, requestSchema := some (.ofPairs [("type", .string "object")]) }
  validator := some Schema.validate

/-- A list with two values that are no objects, and one without any. -/
theorem send_checked_sample :
    let schema := Json.ofPairs [("type", .string "object")]
    let start := Traffic.sample [.sample [] .complete, .hangUp]
    (∃ passed refused rest report after,
      [Json.object [], .ofNat 1, .string "x"] = passed ++ refused :: rest ∧
      (∀ value ∈ passed, (Schema.validate value schema).valid = true) ∧
      (Schema.validate refused schema).valid = false ∧
      (withObjects.send "items" (.array [.object [], .ofNat 1, .string "x"])).run start =
        .ok (.error (.api report), after) ∧
      report.category = .validation ∧ after.unchecked = start.unchecked) ∧
    (withObjects.send "items" (.array [.object [], .object []])).run.unchecked start =
      (withObjects.withoutValidator.send "items" (.array [.object [], .object []])).run.unchecked
        start := by
  intro schema start
  constructor
  · obtain ⟨passed, refused, rest, report, after, hvalues, hpassed, hrefused, hrun, hcategory, -,
      hafter⟩ := (send_checked (show withObjects.endpoint "items" = .ok _ from rfl) rfl rfl
        (.array [.object [], .ofNat 1, .string "x"]) start).1
          ⟨.ofNat 1, List.mem_cons_of_mem _ List.mem_cons_self, by decide +kernel⟩
    exact ⟨passed, refused, rest, report, after, hvalues, hpassed, hrefused, hrun, hcategory,
      hafter⟩
  · exact (send_checked (show withObjects.endpoint "items" = .ok _ from rfl) rfl rfl
      (.array [.object [], .object []]) start).2 (by decide +kernel)

end Connector

end ApiBridge
