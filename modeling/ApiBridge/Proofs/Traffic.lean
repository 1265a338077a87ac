import ApiBridge.Proofs.Outcome
import ApiBridge.Traffic

namespace ApiBridge

namespace Run

variable {α β : Type} {before after : Traffic}

@[simp] theorem pure_eq_ok {value result : α} :
    (pure value : Run α) before = .ok (result, after) ↔ value = result ∧ before = after := by
  change Except.ok (value, before) = .ok (result, after) ↔ _
  rw [Except.ok.injEq, Prod.mk.injEq]

theorem pure_pair_eq_ok {value result : α} {other rest : β} :
    (pure (value, other) : Run (α × β)) before = .ok ((result, rest), after) ↔
      value = result ∧ other = rest ∧ before = after := by
  rw [pure_eq_ok, Prod.mk.injEq, and_assoc]

theorem bind_eq_ok {first : Run α} {second : α → Run β} {result : β} :
    (first >>= second) before = .ok (result, after) ↔
      ∃ value middle, first before = .ok (value, middle) ∧
        second value middle = .ok (result, after) := by
  change ((first before) >>= fun state => second state.1 state.2) = _ ↔ _
  cases hfirst : first before with
  | error fault => simp [Bind.bind, Except.bind]
  | ok state =>
      rcases state with ⟨value, middle⟩
      simp [Bind.bind, Except.bind, and_assoc]

theorem bind_run_of_ok {middle : Traffic} {first : Run α} {value : α}
    (hfirst : first before = .ok (value, middle)) (second : α → Run β) :
    (first >>= second) before = second value middle := by
  change (first before >>= fun state => second state.1 state.2) = _
  rw [hfirst]
  rfl

theorem bind_run_of_error {first : Run α} {fault : Fault} (hfirst : first before = .error fault)
    (second : α → Run β) : (first >>= second) before = .error fault := by
  change (first before >>= fun state => second state.1 state.2) = _
  rw [hfirst]
  rfl

@[simp] theorem get_eq_ok {result : Traffic} :
    (get : Run Traffic) before = .ok (result, after) ↔ before = result ∧ before = after := by
  change Except.ok (before, before) = .ok (result, after) ↔ _
  rw [Except.ok.injEq, Prod.mk.injEq]

@[simp] theorem modify_eq_ok {change : Traffic → Traffic} {result : PUnit} :
    (modify change : Run PUnit) before = .ok (result, after) ↔ change before = after := by
  change Except.ok (PUnit.unit, change before) = .ok (result, after) ↔ _
  simp

@[simp] theorem liftM_eq_ok {outcome : Except Fault α} {result : α} :
    (liftM outcome : Run α) before = .ok (result, after) ↔
      outcome = .ok result ∧ before = after := by
  cases outcome with
  | error fault =>
      change Except.error fault = .ok (result, after) ↔ _
      simp
  | ok value =>
      change Except.ok (value, before) = .ok (result, after) ↔ _
      simp

theorem liftM_run (outcome : Except Fault α) (before : Traffic) :
    (liftM outcome : Run α) before = outcome.map fun value => (value, before) := by
  cases outcome <;> rfl

theorem exists_of_isOk {run : Run α} (hok : (run before).isOk = true) :
    ∃ result after, run before = .ok (result, after) := by
  cases hrun : run before with
  | error fault => simp [hrun, Except.isOk, Except.toBool] at hok
  | ok state => exact ⟨state.1, state.2, rfl⟩

theorem exists_of_any {run : Run α} {test : α × Traffic → Bool}
    (htest : (run before).toOption.any test = true) :
    ∃ result after, run before = .ok (result, after) ∧ test (result, after) = true := by
  obtain ⟨⟨result, after⟩, hrun, htest⟩ := ApiBridge.exists_of_any htest
  exact ⟨result, after, hrun, htest⟩

end Run

namespace Activity

variable {α β : Type} {before after : Traffic}

@[simp] theorem throw_eq_ok {error : Error} {result : Except Error α} :
    (throw error : Activity α).run before = .ok (result, after) ↔
      .error error = result ∧ before = after :=
  Run.pure_eq_ok

@[simp] theorem pure_eq_ok {value : α} {result : Except Error α} :
    (pure value : Activity α).run before = .ok (result, after) ↔
      .ok value = result ∧ before = after :=
  Run.pure_eq_ok

theorem bind_eq_ok {first : Activity α} {second : α → Activity β} {result : Except Error β} :
    (first >>= second : Activity β).run before = .ok (result, after) ↔
      (∃ error, first.run before = .ok (.error error, after) ∧ result = .error error) ∨
        ∃ value middle, first.run before = .ok (.ok value, middle) ∧
          (second value).run middle = .ok (result, after) := by
  change (first.run >>= ExceptT.bindCont second) before = _ ↔ _
  rw [Run.bind_eq_ok]
  constructor
  · rintro ⟨outcome, middle, hfirst, hsecond⟩
    cases outcome with
    | error error =>
        obtain ⟨rfl, rfl⟩ := Run.pure_eq_ok.1 hsecond
        exact .inl ⟨error, hfirst, rfl⟩
    | ok value => exact .inr ⟨value, middle, hfirst, hsecond⟩
  · rintro (⟨error, hfirst, rfl⟩ | ⟨value, middle, hfirst, hsecond⟩)
    · exact ⟨.error error, after, hfirst, Run.pure_eq_ok.2 ⟨rfl, rfl⟩⟩
    · exact ⟨.ok value, middle, hfirst, hsecond⟩

theorem bind_eq_ok_ok {first : Activity α} {second : α → Activity β} {value : β} :
    (first >>= second : Activity β).run before = .ok (.ok value, after) ↔
      ∃ part middle, first.run before = .ok (.ok part, middle) ∧
        (second part).run middle = .ok (.ok value, after) := by
  rw [bind_eq_ok]
  constructor
  · rintro (⟨error, -, herror⟩ | hparts)
    · simp at herror
    · exact hparts
  · exact .inr

@[simp] theorem ofResult_eq_ok {outcome result : Except Error α} :
    (ofResult outcome).run before = .ok (result, after) ↔ outcome = result ∧ before = after := by
  cases outcome <;> exact Run.pure_eq_ok

theorem ofResult_ok_bind (value : α) (second : α → Activity β) :
    (ofResult (.ok value) >>= second : Activity β) = second value :=
  rfl

theorem bind_run_of_ok {first : Activity α} {value : α}
    (hfirst : first.run before = .ok (.ok value, after)) (second : α → Activity β) :
    (first >>= second : Activity β).run before = (second value).run after := by
  change (first.run before >>= _) = _
  rw [hfirst]
  rfl

theorem bind_run_of_error {first : Activity α} {error : Error}
    (hfirst : first.run before = .ok (.error error, after)) (second : α → Activity β) :
    (first >>= second : Activity β).run before = .ok (.error error, after) := by
  change (first.run before >>= _) = _
  rw [hfirst]
  rfl

theorem liftM_bind_run (run : Run α) (second : α → Activity β) :
    (liftM run >>= second : Activity β).run = run >>= fun value => (second value).run := by
  funext before
  change ((run before >>= fun state => Except.ok (Except.ok state.1, state.2)) >>= _) =
    (run before >>= fun state => (second state.1).run state.2)
  cases run before <;> rfl

theorem liftM_bind_eq_ok {run : Run α} {second : α → Activity β} {result : Except Error β} :
    (liftM run >>= second : Activity β).run before = .ok (result, after) ↔
      ∃ value middle, run before = .ok (value, middle) ∧
        (second value).run middle = .ok (result, after) := by
  change ((run >>= fun value => pure (Except.ok value)) >>= ExceptT.bindCont second) before = _ ↔ _
  simp only [Run.bind_eq_ok, Run.pure_eq_ok]
  constructor
  · rintro ⟨_, _, ⟨value, middle, hrun, rfl, rfl⟩, hsecond⟩
    exact ⟨value, middle, hrun, hsecond⟩
  · rintro ⟨value, middle, hrun, hsecond⟩
    exact ⟨.ok value, middle, ⟨value, middle, hrun, rfl, rfl⟩, hsecond⟩

theorem exists_of_any (activity : Activity α) (before : Traffic) (test : α → Traffic → Bool)
    (htest : (activity.run before).toOption.any fun state =>
      state.1.toOption.any fun value => test value state.2) :
    ∃ value after, activity.run before = .ok (.ok value, after) ∧ test value after := by
  obtain ⟨outcome, after, hrun, htest⟩ := Run.exists_of_any htest
  obtain ⟨value, rfl, htest⟩ := ApiBridge.exists_of_any htest
  exact ⟨value, after, hrun, htest⟩

end Activity

/-- A relation between runs that two runs are in if their parts are. -/
structure Run.Congruence (relates : (α : Type) → Run α → Run α → Prop) : Prop where
  pure : ∀ {α : Type} (value : α), relates α (Pure.pure value) (Pure.pure value)
  bind : ∀ {α β : Type} {first other : Run α} {second next : α → Run β}, relates α first other →
    (∀ value, relates β (second value) (next value)) → relates β (first >>= second) (other >>= next)
  lift : ∀ {α : Type} (outcome : Except Fault α), relates α (liftM outcome) (liftM outcome)
  pause : ∀ d, relates Unit (Run.pause d) (Run.pause d)

namespace Run.Congruence

variable {relates : (α : Type) → Run α → Run α → Prop} {α β : Type}

theorem ofResult (h : Congruence relates) (outcome : Except Error α) :
    relates _ (Activity.ofResult outcome).run (Activity.ofResult outcome).run := by
  cases outcome <;> exact h.pure _

theorem activity_bind (h : Congruence relates) {first other : Activity α}
    {second next : α → Activity β} (hfirst : relates _ first.run other.run)
    (hsecond : ∀ value, relates _ (second value).run (next value).run) :
    relates _ (first >>= second : Activity β).run (other >>= next : Activity β).run := by
  apply h.bind hfirst
  intro outcome
  cases outcome with
  | error error => exact h.pure _
  | ok value => exact hsecond value

theorem liftM_bind (h : Congruence relates) {run other : Run α} {second next : α → Activity β}
    (hrun : relates _ run other)
    (hsecond : ∀ value, relates _ (second value).run (next value).run) :
    relates _ (liftM run >>= second : Activity β).run (liftM other >>= next : Activity β).run := by
  rw [Activity.liftM_bind_run, Activity.liftM_bind_run]
  exact h.bind hrun hsecond

theorem attempt_bind (h : Congruence relates) {activity other : Activity α}
    {second next : Except Error α → Activity β} (hactivity : relates _ activity.run other.run)
    (hsecond : ∀ outcome, relates _ (second outcome).run (next outcome).run) :
    relates _ (activity.attempt >>= second : Activity β).run
      (other.attempt >>= next : Activity β).run :=
  h.liftM_bind hactivity hsecond

end Run.Congruence

/-- A property of runs that a run has if all of its parts do. -/
structure Run.Compositional (holds : (α : Type) → Run α → Prop) : Prop where
  pure : ∀ {α : Type} (value : α), holds α (Pure.pure value)
  bind : ∀ {α β : Type} {first : Run α} {second : α → Run β}, holds α first →
    (∀ value, holds β (second value)) → holds β (first >>= second)
  lift : ∀ {α : Type} (outcome : Except Fault α), holds α (liftM outcome)
  pause : ∀ d, holds Unit (Run.pause d)

namespace Run.Compositional

variable {holds : (α : Type) → Run α → Prop} {α β : Type}

/-- Runs that are the same and have a property are related as runs are. -/
theorem diagonal (h : Compositional holds) :
    Congruence fun α run other => run = other ∧ holds α run where
  pure value := ⟨rfl, h.pure value⟩
  bind hfirst hsecond := by
    obtain ⟨rfl, hfirst⟩ := hfirst
    obtain rfl := funext fun value => (hsecond value).1
    exact ⟨rfl, h.bind hfirst fun value => (hsecond value).2⟩
  lift outcome := ⟨rfl, h.lift outcome⟩
  pause d := ⟨rfl, h.pause d⟩

theorem ofResult (h : Compositional holds) (outcome : Except Error α) :
    holds _ (Activity.ofResult outcome).run :=
  (h.diagonal.ofResult outcome).2

theorem activity_bind (h : Compositional holds) {first : Activity α} {second : α → Activity β}
    (hfirst : holds _ first.run) (hsecond : ∀ value, holds _ (second value).run) :
    holds _ (first >>= second : Activity β).run :=
  (h.diagonal.activity_bind ⟨rfl, hfirst⟩ fun value => ⟨rfl, hsecond value⟩).2

theorem liftM_bind (h : Compositional holds) {run : Run α} {second : α → Activity β}
    (hrun : holds _ run) (hsecond : ∀ value, holds _ (second value).run) :
    holds _ (liftM run >>= second : Activity β).run :=
  (h.diagonal.liftM_bind ⟨rfl, hrun⟩ fun value => ⟨rfl, hsecond value⟩).2

end Run.Compositional

end ApiBridge
