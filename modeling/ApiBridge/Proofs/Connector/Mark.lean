import ApiBridge.Proofs.Connector.Passage

namespace ApiBridge

/-- What the other side and the clock can tell of a session: a request or a wait. -/
inductive Mark where
  | request (request : Http.Request)
  | wait (d : Duration)
  deriving Repr

namespace Act

def marks : Act → List Mark
  | .turn _ waits => waits.map .wait
  | .pause d => [.wait d]
  | .attempt request => [.request request]
  | _ => []

/-- The request or the wait of an act, apart from the waits for a limiter. -/
def ownMark? : Act → Option Mark
  | .pause d => some (.wait d)
  | .attempt request => some (.request request)
  | _ => none

def request? : Act → Option Http.Request
  | .attempt request => some request
  | _ => none

theorem request?_of_marks {act : Act} (hmarks : act.marks = []) : act.request? = none := by
  cases act with
  | attempt request => simp [marks] at hmarks
  | _ => rfl

end Act

def Mark.request? : Mark → Option Http.Request
  | .request made => some made
  | .wait _ => none

namespace Traffic

def marks (traffic : Traffic) : List Mark := traffic.log.flatMap Act.marks

def ownMarks (traffic : Traffic) : List Mark := traffic.log.filterMap Act.ownMark?

/-- The requests that have been made. -/
def requests (traffic : Traffic) : List Http.Request := traffic.log.filterMap Act.request?

theorem requests_eq (traffic : Traffic) :
    traffic.requests = traffic.ownMarks.filterMap Mark.request? := by
  rw [requests, ownMarks, List.filterMap_filterMap]
  congr 1
  funext act
  cases act <;> rfl

theorem ownMarks_of_log {before after : Traffic} {acts : List Act}
    (hlog : after.log = before.log ++ acts) :
    after.ownMarks = before.ownMarks ++ acts.filterMap Act.ownMark? := by
  rw [ownMarks, hlog, List.filterMap_append]
  rfl

theorem passed_log (before : Traffic) (auth : Auth) (endpoint : String) (request : Http.Request)
    (whole : Bool) (served : List Duration × RateLimit.Limiters) :
    ∃ rest, (before.passed auth endpoint request whole served).log =
        before.log ++ .turn endpoint served.1 :: .attempt request :: rest ∧
      ∀ act ∈ rest, act.marks = [] ∧ act.ownMark? = none := by
  refine ⟨_, rfl, ?_⟩
  simp only [List.mem_append, List.mem_map]
  rintro act (⟨message, -, rfl⟩ | ⟨headers, -, rfl⟩)
  · exact ⟨rfl, rfl⟩
  · exact ⟨rfl, rfl⟩

theorem ownMarks_passed (before : Traffic) (auth : Auth) (endpoint : String)
    (request : Http.Request) (whole : Bool) (served : List Duration × RateLimit.Limiters) :
    (before.passed auth endpoint request whole served).ownMarks =
      before.ownMarks ++ [.request request] := by
  obtain ⟨rest, hlog, hrest⟩ := before.passed_log auth endpoint request whole served
  have hsilent : rest.filterMap Act.ownMark? = [] :=
    List.filterMap_eq_nil_iff.2 fun act hact => (hrest act hact).2
  have hattempt : (Act.attempt request).ownMark? = some (.request request) := rfl
  rw [ownMarks_of_log hlog, List.filterMap_cons_none rfl, List.filterMap_cons_some hattempt,
    hsilent]

end Traffic

/-- Whether an activity leaves given requests and waits of its own, however it ends. -/
def Activity.Leaves {α : Type} (activity : Activity α) (marks : List Mark) : Prop :=
  ∀ before result after, activity.run before = .ok (result, after) →
    after.ownMarks = before.ownMarks ++ marks

namespace Activity.Leaves

variable {α β : Type} {marks : List Mark}

theorem ofResult (outcome : Except Error α) : (Activity.ofResult outcome).Leaves [] := by
  intro before result after hrun
  obtain ⟨-, rfl⟩ := ofResult_eq_ok.1 hrun
  rw [List.append_nil]

theorem ofResult_bind {outcome : Except Error α} {second : α → Activity β}
    (hsecond : ∀ value, (second value).Leaves []) :
    (Activity.ofResult outcome >>= second : Activity β).Leaves [] := by
  cases outcome with
  | error error => exact .ofResult (.error error)
  | ok value => exact hsecond value

theorem validate_bind {validator : Schema.Validator} {payload schema : Json}
    {second : Schema.Outcome → Activity β} (hsecond : ∀ outcome, (second outcome).Leaves marks) :
    (liftM (Run.validate validator payload schema) >>= second : Activity β).Leaves marks := by
  intro before result after hrun
  obtain ⟨outcome, checked, hvalidate, hrest⟩ := liftM_bind_eq_ok.1 hrun
  obtain ⟨_, _, hmodify, hpure⟩ := Run.bind_eq_ok.1 hvalidate
  obtain rfl := Run.modify_eq_ok.1 hmodify
  obtain ⟨-, rfl⟩ := Run.pure_eq_ok.1 hpure
  have hchecked : (before.add (.checked ⟨payload, validator payload schema⟩)).ownMarks =
      before.ownMarks := by
    rw [Traffic.ownMarks_of_log rfl]
    exact List.append_nil _
  rw [hsecond outcome _ _ _ hrest, hchecked]

theorem of_pass {activity : Activity α} {auth : Auth} {endpoint : String} {request : Http.Request}
    {whole : Bool} {value : Run.Opening → Except Error α}
    (hactivity : activity.run = do
      let opening ← Run.pass auth endpoint request whole
      return value opening) : activity.Leaves [.request request] := by
  intro before result after hrun
  rw [hactivity] at hrun
  obtain ⟨opening, middle, hpass, hvalue⟩ := Run.bind_eq_ok.1 hrun
  obtain ⟨served, -, -, rfl⟩ := Run.pass_eq_ok.1 hpass
  obtain ⟨-, rfl⟩ := Run.pure_eq_ok.1 hvalue
  exact before.ownMarks_passed auth endpoint request whole served

end Activity.Leaves

end ApiBridge
