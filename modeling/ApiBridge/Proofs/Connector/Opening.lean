import ApiBridge.Connector.Basic
import ApiBridge.Proofs.Definition.Check
import ApiBridge.Proofs.RateLimit.Spec

/-!
Opening definitions that have passed their check. What the check says about rates is less than what
their buckets ask for: with a rate that is too fast or too slow for a bucket a definition passes the
check, and cannot be opened.
-/

namespace ApiBridge

open EventStream RateLimit

/-- Whether an endpoint declares no rate, or one that there can be a bucket for if it is valid. -/
def Endpoint.FitsBucket (endpoint : Endpoint) : Prop :=
  ∀ spec, endpoint.rateLimit = some spec → ¬ spec.IsTooFast ∧ ¬ spec.IsTooSlow

instance (endpoint : Endpoint) : Decidable endpoint.FitsBucket :=
  inferInstanceAs (Decidable (∀ spec ∈ endpoint.rateLimit, ¬ spec.IsTooFast ∧ ¬ spec.IsTooSlow))

theorem Endpoint.exists_unfit {endpoints : List (String × Endpoint)}
    (hunfit : ¬ ∀ binding ∈ endpoints, binding.2.FitsBucket) :
    ∃ before name endpoint after spec, endpoints = before ++ (name, endpoint) :: after ∧
      (∀ binding ∈ before, binding.2.FitsBucket) ∧ endpoint.rateLimit = some spec ∧
      (spec.IsTooFast ∨ spec.IsTooSlow) := by
  have hsome : (endpoints.find? fun binding => !decide binding.2.FitsBucket).isSome := by
    rw [List.find?_isSome]
    simpa using hunfit
  obtain ⟨⟨name, endpoint⟩, hfound⟩ := Option.isSome_iff_exists.1 hsome
  obtain ⟨hfirst, before, after, hendpoints, hbefore⟩ := List.find?_eq_some_iff_append.1 hfound
  have hfails : ¬ endpoint.FitsBucket := by simpa using hfirst
  cases hspec : endpoint.rateLimit with
  | none => exact absurd (fun _ hsome => by simp [hspec] at hsome) hfails
  | some spec =>
      refine ⟨before, name, endpoint, after, spec, hendpoints, ?_, hspec, ?_⟩
      · intro binding hbinding
        simpa using hbefore binding hbinding
      · refine Decidable.byContradiction fun hneither => hfails ?_
        intro other hother
        rw [hspec] at hother
        obtain rfl := Option.some.inj hother
        exact not_or.1 hneither

/-- Whether the rate of an endpoint, if it declares one, is valid. -/
def Endpoint.HasValidRate (endpoint : Endpoint) : Prop :=
  ∀ spec, endpoint.rateLimit = some spec → spec.validate = .ok ()

namespace Connector

variable {definition : Definition} {now : Instant} {name : String} {endpoint : Endpoint}
  {spec : Spec}

theorem limiters_cons_of_some (hspec : endpoint.rateLimit = some spec) (given : Limiters)
    (rest : List (String × Endpoint)) :
    Connector.limiters now given ((name, endpoint) :: rest) =
      (Limiter.create spec now >>= fun
        | .error error => pure (.error error)
        | .ok limiter => Connector.limiters now (given.put name limiter) rest) := by
  rw [Connector.limiters, hspec]
  change (Limiters.create given name spec now >>= _) = _
  unfold Limiters.create
  cases Limiter.create spec now with
  | error fault => rfl
  | ok created => cases created <;> rfl

theorem limiters_append {endpoints : List (String × Endpoint)}
    (hvalid : ∀ binding ∈ endpoints, binding.2.HasValidRate)
    (hfits : ∀ binding ∈ endpoints, binding.2.FitsBucket) (now : Instant) (given : Limiters) :
    ∃ made, ∀ rest,
      Connector.limiters now given (endpoints ++ rest) = Connector.limiters now made rest := by
  induction endpoints generalizing given with
  | nil => exact ⟨given, fun _ => rfl⟩
  | cons binding endpoints ih =>
      rcases binding with ⟨name, endpoint⟩
      obtain ⟨hvalidFirst, hvalidRest⟩ := List.forall_mem_cons.1 hvalid
      obtain ⟨hfitsFirst, hfitsRest⟩ := List.forall_mem_cons.1 hfits
      cases hspec : endpoint.rateLimit with
      | none =>
          obtain ⟨made, hmade⟩ := ih hvalidRest hfitsRest given
          refine ⟨made, fun rest => ?_⟩
          rw [← hmade rest, List.cons_append, Connector.limiters, hspec]
      | some spec =>
          obtain ⟨hfast, hslow⟩ := hfitsFirst spec hspec
          obtain ⟨limiter, hlimiter, -⟩ :=
            Limiter.exists_create (hvalidFirst spec hspec) hfast hslow now
          obtain ⟨made, hmade⟩ := ih hvalidRest hfitsRest (given.put name limiter)
          refine ⟨made, fun rest => ?_⟩
          rw [← hmade rest, List.cons_append, limiters_cons_of_some hspec, hlimiter]
          rfl

theorem limiters_of_append {before : List (String × Endpoint)}
    (hvalid : ∀ binding ∈ before, binding.2.HasValidRate)
    (hfits : ∀ binding ∈ before, binding.2.FitsBucket) (hspec : endpoint.rateLimit = some spec)
    (now : Instant) (given : Limiters) (name : String) (after : List (String × Endpoint)) :
    ∃ made : Limiters,
      Connector.limiters now given (before ++ (name, endpoint) :: after) =
        (Limiter.create spec now >>= fun
          | .error error => pure (.error error)
          | .ok limiter => Connector.limiters now (made.put name limiter) after) := by
  obtain ⟨made, hmade⟩ := limiters_append hvalid hfits now given
  exact ⟨made, by rw [hmade, limiters_cons_of_some hspec]⟩

theorem create_of_url {url : Http.Url} (hurl : Http.Url.parse definition.baseUrl = .ok url)
    (validator : Option Schema.Validator) (now : Instant) :
    create definition validator now =
      (Connector.limiters now [] definition.endpoints >>= fun limiters =>
        pure (limiters.map fun limiters => ({ definition, validator }, limiters))) := by
  rw [create, hurl]

theorem hasValidRate_of_check (hcheck : definition.check = .ok ()) :
    ∀ binding ∈ definition.endpoints, binding.2.HasValidRate := by
  intro binding hbinding
  obtain ⟨-, -, -, -, hendpoints⟩ := Definition.check_eq_ok.1 hcheck
  exact (Definition.checkEndpoint_eq_ok.1 (hendpoints binding hbinding)).2.1

theorem create_of_fits {url : Http.Url} (hcheck : definition.check = .ok ())
    (hurl : Http.Url.parse definition.baseUrl = .ok url)
    (hfits : ∀ binding ∈ definition.endpoints, binding.2.FitsBucket)
    (validator : Option Schema.Validator) (now : Instant) :
    ∃ limiters,
      create definition validator now = .ok (.ok ({ definition, validator }, limiters)) := by
  obtain ⟨made, hmade⟩ :=
    limiters_append (hasValidRate_of_check hcheck) hfits now []
  have hlimiters := hmade []
  rw [List.append_nil] at hlimiters
  rw [create_of_url hurl, hlimiters]
  exact ⟨made, rfl⟩

/-- The first endpoint without a bucket decides how opening fails. -/
theorem create_of_unfit {url : Http.Url} (hcheck : definition.check = .ok ())
    (hurl : Http.Url.parse definition.baseUrl = .ok url)
    {before after : List (String × Endpoint)}
    (hendpoints : definition.endpoints = before ++ (name, endpoint) :: after)
    (hfits : ∀ binding ∈ before, binding.2.FitsBucket) (hspec : endpoint.rateLimit = some spec)
    (validator : Option Schema.Validator) (now : Instant) :
    (spec.IsTooFast → create definition validator now = .ok (.error Spec.tooFast)) ∧
      (spec.IsTooSlow → create definition validator now = .error .bucketOverflow) := by
  have hvalid := hasValidRate_of_check hcheck
  rw [hendpoints] at hvalid
  have hspecValid : spec.validate = .ok () := hvalid (name, endpoint) (by simp) spec hspec
  obtain ⟨made, hlimiters⟩ := limiters_of_append
    (fun binding hbinding => hvalid binding (List.mem_append_left _ hbinding)) hfits hspec now []
    name after
  rw [create_of_url hurl, hendpoints, hlimiters]
  constructor
  · intro hfast
    rw [Limiter.create_of_isTooFast hspecValid hfast]
    rfl
  · intro hslow
    rw [Limiter.create_of_isTooSlow hspecValid hslow]
    rfl

theorem exists_resolve_of_check (hcheck : definition.check = .ok ()) :
    ∀ binding ∈ definition.endpoints,
      ∃ limits, ConsumeRequest.empty.resolve binding.2.streamSettings = .ok limits := by
  intro binding hbinding
  obtain ⟨-, -, -, -, hendpoints⟩ := Definition.check_eq_ok.1 hcheck
  obtain ⟨-, -, -, hstream⟩ := Definition.checkEndpoint_eq_ok.1 (hendpoints binding hbinding)
  rw [← Definition.checkStream_consumption_iff binding.1]
  unfold Endpoint.streamSettings
  cases hsettings : binding.2.stream with
  | none => rfl
  | some settings => exact Definition.checkStream_consumption (hstream settings hsettings)

/-- Opening a definition that has passed its check and has a URL for its base. It opens just if
each declared rate has a bucket; else the first endpoint whose rate has none decides: a rate that is
too fast is refused, and the time of one that is too slow is no time that a bucket can count. What
the settings of its endpoints say about consumption can be resolved. The other way round, a rate that
the check refuses has no limiter, and what it refuses in the settings cannot be resolved. -/
theorem opens_of_check {url : Http.Url} (hcheck : definition.check = .ok ())
    (hurl : Http.Url.parse definition.baseUrl = .ok url) (validator : Option Schema.Validator)
    (now : Instant) :
    ((∃ limiters,
        create definition validator now = .ok (.ok ({ definition, validator }, limiters))) ↔
      ∀ binding ∈ definition.endpoints, binding.2.FitsBucket) ∧
    (∀ before name endpoint after spec, definition.endpoints = before ++ (name, endpoint) :: after →
      (∀ binding ∈ before, binding.2.FitsBucket) → endpoint.rateLimit = some spec →
      (spec.IsTooFast → create definition validator now = .ok (.error Spec.tooFast)) ∧
        (spec.IsTooSlow → create definition validator now = .error .bucketOverflow)) ∧
    (∀ binding ∈ definition.endpoints,
      ∃ limits, ConsumeRequest.empty.resolve binding.2.streamSettings = .ok limits) ∧
    (∀ spec error, Spec.validate spec = .error error →
      ∀ start, Limiter.create spec start = .ok (.error error)) ∧
    ∀ name settings, Definition.checkStream name settings.consumption = .ok () ↔
      ∃ limits, ConsumeRequest.empty.resolve settings = .ok limits := by
  refine ⟨⟨?_, fun hfits => create_of_fits hcheck hurl hfits validator now⟩, ?_,
    exists_resolve_of_check hcheck, fun _ _ => Limiter.create_of_refused,
    Definition.checkStream_consumption_iff⟩
  · rintro ⟨limiters, hcreate⟩
    refine Decidable.byContradiction fun hunfit => ?_
    obtain ⟨before, name, endpoint, after, spec, hendpoints, hfits, hspec, hfails⟩ :=
      Endpoint.exists_unfit hunfit
    obtain ⟨hfast, hslow⟩ :=
      create_of_unfit hcheck hurl hendpoints hfits hspec validator now
    rcases hfails with h | h
    · rw [hfast h] at hcreate
      cases hcreate
    · rw [hslow h] at hcreate
      cases hcreate
  · intro before name endpoint after spec hendpoints hfits hspec
    exact create_of_unfit hcheck hurl hendpoints hfits hspec validator now

end Connector

/-- A definition with one endpoint, which declares a rate and settings. -/
def Definition.limited (rate : Binary64) : Definition :=
  (Definition.new "rest" "http://h").withEndpoint "a"
    { Endpoint.new "/" with
      rateLimit := some (.leakyBucket rate)
      stream := some { Settings.empty with chunkSize := some 4, dropPolicy := some "drop_oldest" } }

theorem Definition.exists_url_limited (rate : Binary64) :
    ∃ url, Http.Url.parse (Definition.limited rate).baseUrl = .ok url := by
  have hparsed : (Http.Url.parse "http://h").toOption.any (fun _ => true) = true := by
    decide +kernel
  obtain ⟨url, hurl, -⟩ := exists_of_any hparsed
  exact ⟨url, hurl⟩

namespace Connector

/-- Five requests a second. -/
theorem opens_of_check_sample :
    let definition := Definition.limited (.ofNat 5)
    definition.check = .ok () ∧ (∃ url, Http.Url.parse definition.baseUrl = .ok url) ∧
      (∃ limiters,
        create definition none ⟨0⟩ = .ok (.ok ({ definition, validator := none }, limiters))) ∧
      ∀ binding ∈ definition.endpoints,
        ∃ limits, ConsumeRequest.empty.resolve binding.2.streamSettings = .ok limits := by
  intro definition
  have hcheck : definition.check = .ok () := Fault.eq_ok_of_isOk (by decide +kernel)
  obtain ⟨url, hurl⟩ := Definition.exists_url_limited (.ofNat 5)
  obtain ⟨hopens, -, hresolves, -⟩ := opens_of_check hcheck hurl none ⟨0⟩
  exact ⟨hcheck, ⟨url, hurl⟩, hopens.2 (by decide +kernel), hresolves⟩

/-- Three thousand million requests a second are accepted by the check and refused on opening. One
request in `10 ^ 19` seconds is accepted by the check as well, and opening faults. -/
theorem checked_not_opened :
    let fast := Definition.limited (.ofNat 3000000000)
    let slow := Definition.limited (.ofDecimal false 1 (-19))
    fast.check = .ok () ∧ (∃ url, Http.Url.parse fast.baseUrl = .ok url) ∧
      create fast none ⟨0⟩ = .ok (.error Spec.tooFast) ∧
      slow.check = .ok () ∧ (∃ url, Http.Url.parse slow.baseUrl = .ok url) ∧
      create slow none ⟨0⟩ = .error .bucketOverflow := by
  intro fast slow
  have hfast : fast.check = .ok () := Fault.eq_ok_of_isOk (by decide +kernel)
  have hslow : slow.check = .ok () := Fault.eq_ok_of_isOk (by decide +kernel)
  obtain ⟨fastUrl, hfastUrl⟩ := Definition.exists_url_limited (.ofNat 3000000000)
  obtain ⟨slowUrl, hslowUrl⟩ := Definition.exists_url_limited (.ofDecimal false 1 (-19))
  have hbefore : ∀ binding ∈ ([] : List (String × Endpoint)), binding.2.FitsBucket := by simp
  obtain ⟨hrefused, -⟩ := create_of_unfit hfast hfastUrl rfl hbefore rfl none ⟨0⟩
  obtain ⟨-, hfault⟩ := create_of_unfit hslow hslowUrl rfl hbefore rfl none ⟨0⟩
  exact ⟨hfast, ⟨fastUrl, hfastUrl⟩, hrefused (by decide +kernel), hslow, ⟨slowUrl, hslowUrl⟩,
    hfault (by decide +kernel)⟩

end Connector

end ApiBridge
