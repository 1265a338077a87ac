import ApiBridge.Proofs.Pagination.Items
import ApiBridge.Proofs.Table

namespace ApiBridge.Pagination

/-- What leads from a page to the next one: the token at the path to it or, where no such path is
set, the number of the next page, as long as there are items on this one and more pages allowed. -/
inductive Spec.Leads (spec : Spec) (number : Nat) (body : Json) : Token → Prop
  | text {path text : String} (hpath : spec.nextPagePath = some path) (hset : path ≠ "")
      (hfound : body.HoldsAt path (.string text)) (htext : text ≠ "") :
      Leads spec number body (.text text)
  | integer {path : String} {value : Int} (hpath : spec.nextPagePath = some path)
      (hset : path ≠ "") (hfound : body.HoldsAt path (.number (.int value))) (hvalue : value ≠ 0)
      (hmin : Int64.minValue.toInt ≤ value) (hmax : value ≤ Int64.maxValue.toInt) :
      Leads spec number body (.number value)
  | count {items : List (Table Json)} (hcounted : spec.nextPagePath = none)
      (hitems : spec.HasItems body items) (hsome : items ≠ []) (hallowed : number < spec.maxPages) :
      Leads spec number body (.number (number + 1 : Nat))

theorem Token.ofValue?_eq_some_iff {value : Json} {token : Token} :
    ofValue? value = some token ↔
      (∃ text, value = .string text ∧ token = .text text) ∨
        ∃ number, value = .number (.int number) ∧ Int64.minValue.toInt ≤ number ∧
          number ≤ Int64.maxValue.toInt ∧ token = .number number := by
  constructor
  · intro htoken
    unfold ofValue? at htoken
    split at htoken
    · next text => exact .inl ⟨text, rfl, (Option.some.inj htoken).symm⟩
    · next number =>
        split at htoken
        · next hrange =>
            exact .inr ⟨number, rfl, hrange.1, hrange.2, (Option.some.inj htoken).symm⟩
        · simp at htoken
    · simp at htoken
  · rintro (⟨text, rfl, rfl⟩ | ⟨number, rfl, hmin, hmax, rfl⟩)
    · rfl
    · rw [ofValue?, if_pos ⟨hmin, hmax⟩]

namespace Spec

variable {spec : Spec} {number : Nat} {body : Json} {token : Token}

theorem nextToken?_eq_some_iff {path : String} (hpath : spec.nextPagePath = some path) :
    spec.nextToken? body = some token ↔ spec.Leads number body token := by
  simp only [nextToken?, hpath, Option.filter_eq_some_iff, Option.bind_eq_some_iff,
    Option.some.injEq, Json.atPath?_eq_some_iff, Token.ofValue?_eq_some_iff, Bool.not_eq_true']
  constructor
  · rintro ⟨⟨_, ⟨rfl, hset⟩, value, hfound, ⟨text, rfl, rfl⟩ | ⟨given, rfl, hmin, hmax, rfl⟩⟩,
      hgoesOn⟩
    · exact .text hpath (by simpa using hset) hfound (by simpa [Token.isTerminal] using hgoesOn)
    · exact .integer hpath (by simpa using hset) hfound
        (by simpa [Token.isTerminal] using hgoesOn) hmin hmax
  · intro hleads
    cases hleads with
    | text hpath' hset hfound htext =>
        obtain rfl := Option.some.inj (hpath.symm.trans hpath')
        exact ⟨⟨path, ⟨rfl, by simpa using hset⟩, _, hfound, .inl ⟨_, rfl, rfl⟩⟩,
          by simpa [Token.isTerminal] using htext⟩
    | integer hpath' hset hfound hvalue hmin hmax =>
        obtain rfl := Option.some.inj (hpath.symm.trans hpath')
        exact ⟨⟨path, ⟨rfl, by simpa using hset⟩, _, hfound, .inr ⟨_, rfl, hmin, hmax, rfl⟩⟩,
          by simpa [Token.isTerminal] using hvalue⟩
    | count hcounted => simp [hpath] at hcounted

theorem leads_iff_of_counted (hcounted : spec.nextPagePath = none) :
    spec.Leads number body token ↔ (∃ items, spec.HasItems body items ∧ items ≠ []) ∧
      number < spec.maxPages ∧ token = .number (number + 1 : Nat) := by
  constructor
  · intro hleads
    cases hleads with
    | text hpath => simp [hcounted] at hpath
    | integer hpath => simp [hcounted] at hpath
    | count _ hitems hsome hallowed => exact ⟨⟨_, hitems, hsome⟩, hallowed, rfl⟩
  · rintro ⟨⟨items, hitems, hsome⟩, hallowed, rfl⟩
    exact .count hcounted hitems hsome hallowed

theorem Leads.unique {other : Token} (hleads : spec.Leads number body token)
    (hother : spec.Leads number body other) : token = other := by
  cases hpath : spec.nextPagePath with
  | none =>
      rw [leads_iff_of_counted hpath] at hleads hother
      exact hleads.2.2.trans hother.2.2.symm
  | some path =>
      rw [← nextToken?_eq_some_iff hpath] at hleads hother
      exact Option.some.inj (hleads.symm.trans hother)

theorem nextPage_of_path {path : String} (hpath : spec.nextPagePath = some path) (body : Json)
    (items : Nat) (progress : Progress) :
    spec.nextPage body items progress = (spec.nextToken? body, progress) := by
  rw [nextPage, hpath, Option.isSome_some, if_pos rfl]

theorem nextPage_eq (spec : Spec) (body : Json) (progress : Progress) (number : Nat)
    (hpage : spec.nextPagePath = none → progress.page = number) :
    (∀ token, (spec.nextPage body ((spec.items? body).getD []).length progress).1 = some token ↔
        spec.Leads number body token) ∧
      (spec.nextPagePath = none → ∀ token, spec.Leads number body token →
        (spec.nextPage body ((spec.items? body).getD []).length progress).2.page = number + 1) := by
  cases hpath : spec.nextPagePath with
  | some path =>
      refine ⟨fun token => ?_, by simp⟩
      rw [nextPage_of_path hpath]
      exact nextToken?_eq_some_iff hpath
  | none =>
      simp only [nextPage, hpath, leads_iff_of_counted hpath, hpage hpath, ← getD_items?_ne_nil_iff]
      by_cases hitems : (spec.items? body).getD [] = []
      · simp [hitems]
      · have hlength : ((spec.items? body).getD []).length ≠ 0 := by simpa using hitems
        by_cases hallowed : spec.maxPages < number + 1
        · have hlast : ¬ number < spec.maxPages := by omega
          simp [hlength, hallowed, hlast]
        · have hmore : number < spec.maxPages := by omega
          simp [hitems, hlength, hallowed, hmore, eq_comm]

end Spec

/-- A request for a page: the parameters that were asked for, and the body that came if one did. -/
structure Visit where
  params : Table Json
  body : Option Json

def Visit.items (spec : Spec) (visit : Visit) : List (Table Json) :=
  (visit.body.bind spec.items?).getD []

theorem Visit.items_of_none {spec : Spec} {visit : Visit} (hbody : visit.body = none) :
    visit.items spec = [] := by
  rw [items, hbody]
  rfl

/-- What a visit gives: the items of the page that came, and nothing if none came or the page lacks
the items. -/
inductive Visit.Gives (spec : Spec) : Visit → List (Table Json) → Prop
  | items {params : Table Json} {body : Json} {items : List (Table Json)}
      (hitems : spec.HasItems body items) : Gives spec { params, body := some body } items
  | lacking {params : Table Json} {body : Json} (hlacks : spec.LacksItems body) :
      Gives spec { params, body := some body } []
  | failed {params : Table Json} : Gives spec { params, body := none } []

theorem Visit.gives_items (spec : Spec) (visit : Visit) : visit.Gives spec (visit.items spec) := by
  rcases visit with ⟨params, _ | body⟩
  · exact .failed
  · rw [items, Option.bind_some]
    cases hitems : spec.items? body with
    | none => exact .lacking (Spec.items?_eq_none_iff.1 hitems)
    | some found => exact .items (Spec.items?_eq_some_iff.1 hitems)

/-- What a source has been asked for since some state, and what came. -/
inductive Asks {σ : Type} (fetch : Source σ) (start : σ) : List Visit → σ → Prop
  | nil : Asks fetch start [] start
  | snoc {visits : List Visit} {state after : σ} {params : Table Json} {body : Option Json}
      (hasks : Asks fetch start visits state)
      (hfetch : fetch params state = .ok (body, after)) :
      Asks fetch start (visits ++ [{ params := params, body := body }]) after

/-- The last page of a walk from a given first one, unless it could not be fetched. -/
def lastPage (initial : Json) (visits : List Visit) : Option Json :=
  visits.getLast?.elim (some initial) Visit.body

namespace Spec

/-- What leads on from the last page of a walk. -/
def LeadsOn (spec : Spec) (initial : Json) (visits : List Visit) (token : Token) : Prop :=
  ∃ body, lastPage initial visits = some body ∧ spec.Leads (visits.length + 1) body token

/-- Whether each visit of a walk is the one that the pages before it lead to. -/
def IsRoute (spec : Spec) (params : Table Json) (initial : Json) (visits : List Visit) : Prop :=
  ∀ past visit later, visits = past ++ visit :: later →
    ∃ token, spec.LeadsOn initial past token ∧ visit.params = spec.pageParams params token

def IsOver (spec : Spec) (initial : Json) (visits : List Visit) : Prop :=
  ∀ token, ¬ spec.LeadsOn initial visits token

/-- Whether a request is one for the page of a token: the token is the page parameter, a text as a
string and a number as an integer, and all other parameters are as they were given. -/
structure AsksFor (spec : Spec) (params : Table Json) (token : Token) (asked : Table Json) :
    Prop where
  text : ∀ text, token = .text text → asked.find? spec.pageParam = some (.string text)
  number : ∀ number, token = .number number →
    asked.find? spec.pageParam = some (.number (.int number))
  others : ∀ key, key ≠ spec.pageParam → asked.find? key = params.find? key

variable {spec : Spec} {params : Table Json} {initial : Json} {visits : List Visit} {token : Token}

theorem LeadsOn.unique {other : Token} (h : spec.LeadsOn initial visits token)
    (hother : spec.LeadsOn initial visits other) : token = other := by
  obtain ⟨body, hbody, hleads⟩ := h
  obtain ⟨body', hbody', hleads'⟩ := hother
  obtain rfl := Option.some.inj (hbody.symm.trans hbody')
  exact hleads.unique hleads'

theorem LeadsOn.of_counted (hcounted : spec.nextPagePath = none)
    (h : spec.LeadsOn initial visits token) :
    token = .number (visits.length + 2 : Nat) ∧ visits.length + 2 ≤ spec.maxPages := by
  obtain ⟨_, _, hleads⟩ := h
  obtain ⟨_, hallowed, rfl⟩ := (leads_iff_of_counted hcounted).1 hleads
  exact ⟨rfl, hallowed⟩

theorem asksFor_pageParams (spec : Spec) (params : Table Json) (token : Token) :
    spec.AsksFor params token (spec.pageParams params token) where
  text := by
    rintro text rfl
    exact Table.find?_put _ _ _
  number := by
    rintro number rfl
    exact Table.find?_put _ _ _
  others := fun _ hkey => Table.find?_put_of_ne _ hkey _ _

theorem leadsOn_snoc {visit : Visit} :
    spec.LeadsOn initial (visits ++ [visit]) token ↔
      ∃ body, visit.body = some body ∧ spec.Leads (visits.length + 2) body token := by
  rw [LeadsOn, lastPage, List.getLast?_concat, Option.elim_some, List.length_append]
  rfl

theorem isOver_snoc_of_none {visit : Visit} (hbody : visit.body = none) :
    spec.IsOver initial (visits ++ [visit]) := by
  intro token hleads
  simp [leadsOn_snoc, hbody] at hleads

theorem IsRoute.nil (spec : Spec) (params : Table Json) (initial : Json) :
    spec.IsRoute params initial [] := by
  intro past visit later hvisits
  simp at hvisits

theorem IsRoute.of_append {later : List Visit} (h : spec.IsRoute params initial (visits ++ later)) :
    spec.IsRoute params initial visits := by
  intro past visit rest hvisits
  exact h past visit (rest ++ later) (by rw [hvisits, List.append_assoc, List.cons_append])

theorem IsRoute.snoc (h : spec.IsRoute params initial visits)
    (hleads : spec.LeadsOn initial visits token) (body : Option Json) :
    spec.IsRoute params initial (visits ++ [{ params := spec.pageParams params token, body }]) := by
  intro past visit later hvisits
  rcases List.eq_nil_or_concat later with rfl | ⟨rest, last, rfl⟩
  · obtain ⟨rfl, hvisit⟩ := List.append_inj' hvisits rfl
    obtain rfl := List.singleton_inj.1 hvisit
    exact ⟨token, hleads, rfl⟩
  · rw [List.concat_eq_append, ← List.cons_append, ← List.append_assoc] at hvisits
    exact h past visit rest (List.append_inj' hvisits rfl).1

end Spec

namespace Asks

variable {σ : Type} {fetch : Source σ} {start state other : σ}

theorem of_snoc {past : List Visit} {visit : Visit}
    (h : Asks fetch start (past ++ [visit]) state) :
    ∃ before, Asks fetch start past before ∧
      fetch visit.params before = .ok (visit.body, state) := by
  generalize hvisits : past ++ [visit] = visits at h
  cases h with
  | nil => simp at hvisits
  | snoc hasks hfetch =>
      obtain ⟨rfl, hvisit⟩ := List.append_inj' hvisits rfl
      obtain rfl := List.singleton_inj.1 hvisit
      exact ⟨_, hasks, hfetch⟩

theorem of_append {past later : List Visit} (h : Asks fetch start (past ++ later) state) :
    ∃ before, Asks fetch start past before := by
  generalize hvisits : past ++ later = visits at h
  induction h generalizing later with
  | nil =>
      obtain ⟨rfl, rfl⟩ := List.append_eq_nil_iff.1 hvisits
      exact ⟨start, .nil⟩
  | snoc hasks hfetch ih =>
      rcases List.eq_nil_or_concat later with rfl | ⟨rest, last, rfl⟩
      · rw [List.append_nil] at hvisits
        exact ⟨_, hvisits ▸ hasks.snoc hfetch⟩
      · rw [List.concat_eq_append, ← List.append_assoc] at hvisits
        exact ih (List.append_inj' hvisits rfl).1

theorem state_unique {visits : List Visit} (h : Asks fetch start visits state)
    (hother : Asks fetch start visits other) : state = other := by
  induction h generalizing other with
  | nil =>
      generalize hvisits : ([] : List Visit) = visits at hother
      cases hother with
      | nil => rfl
      | snoc => simp at hvisits
  | snoc _ hfetch ih =>
      obtain ⟨before, hbefore, hfetch'⟩ := hother.of_snoc
      obtain rfl := ih hbefore
      exact (Prod.mk.inj (Except.ok.inj (hfetch.symm.trans hfetch'))).2

/-- Two routes through one source are the same as far as both go. -/
theorem isPrefix {spec : Spec} {params : Table Json} {initial : Json} {visits others : List Visit}
    (h : Asks fetch start visits state) (hroute : spec.IsRoute params initial visits)
    (hother : Asks fetch start others other) (hotherRoute : spec.IsRoute params initial others)
    (hlength : others.length ≤ visits.length) : others <+: visits := by
  induction hother with
  | nil => exact List.nil_prefix
  | @snoc others middle after params' body hothers hfetch ih =>
      rw [List.length_append, List.length_singleton] at hlength
      obtain ⟨later, rfl⟩ := ih (hotherRoute.of_append) (by omega)
      cases later with
      | nil =>
          rw [List.append_nil] at hlength
          omega
      | cons visit later =>
          -- The same token leads to the next visits of both, and the source is in the same state.
          obtain ⟨token, hleads, hparams⟩ := hroute others visit later rfl
          obtain ⟨token', hleads', hparams'⟩ := hotherRoute others _ [] rfl
          obtain rfl := hleads.unique hleads'
          rw [← List.singleton_append, ← List.append_assoc] at h
          obtain ⟨_, hasks⟩ := h.of_append
          obtain ⟨before, hbefore, hfetch'⟩ := hasks.of_snoc
          obtain rfl := hbefore.state_unique hothers
          have hsame : visit.params = params' := hparams.trans hparams'.symm
          rw [hsame, hfetch] at hfetch'
          have hbody : body = visit.body := (Prod.mk.inj (Except.ok.inj hfetch')).1
          have hvisit : { params := params', body } = visit := by rw [hbody, ← hsame]
          rw [hvisit]
          exact ⟨later, List.append_assoc others [visit] later⟩

theorem isPrefix_of_isOver {spec : Spec} {params : Table Json} {initial : Json}
    {visits others : List Visit} (h : Asks fetch start visits state)
    (hroute : spec.IsRoute params initial visits) (hover : spec.IsOver initial visits)
    (hother : Asks fetch start others other) (hotherRoute : spec.IsRoute params initial others) :
    others <+: visits := by
  rcases Nat.le_total others.length visits.length with hlength | hlength
  · exact h.isPrefix hroute hother hotherRoute hlength
  · obtain ⟨later, rfl⟩ := hother.isPrefix hotherRoute h hroute hlength
    cases later with
    | nil => exact ⟨[], by simp⟩
    | cons visit later =>
        obtain ⟨token, hleads, _⟩ := hotherRoute visits visit later rfl
        exact absurd hleads (hover token)

end Asks

/-- A walk that is under way: the visits it has made, and what it is about to ask for. -/
structure Underway {σ : Type} (spec : Spec) (params : Table Json) (fetch : Source σ)
    (initial : Json) (start : σ) (visits : List Visit) (next : Option Token) (progress : Progress)
    (state : σ) : Prop where
  route : spec.IsRoute params initial visits
  asks : Asks fetch start visits state
  next_iff : ∀ token, next = some token ↔ spec.LeadsOn initial visits token
  page_eq : spec.nextPagePath = none → next.isSome → progress.page = visits.length + 2

namespace Underway

variable {σ : Type} {spec : Spec} {params : Table Json} {fetch : Source σ} {initial : Json}
  {start state after : σ} {visits : List Visit} {next : Option Token} {token : Token}
  {progress : Progress}

theorem first {items : List (Table Json)} (hitems : spec.items? initial = some items) (start : σ) :
    let step := spec.nextPage initial items.length (.afterFirstPage items.length)
    Underway spec params fetch initial start [] step.1 step.2 start := by
  obtain ⟨hnext, hpage⟩ :=
    spec.nextPage_eq initial (.afterFirstPage items.length) 1 fun _ => rfl
  rw [hitems, Option.getD_some] at hnext hpage
  refine ⟨.nil _ _ _, .nil, fun token => (hnext token).trans ?_, fun hcounted hsome => ?_⟩
  · simp [Spec.LeadsOn, lastPage]
  · obtain ⟨token, htoken⟩ := Option.isSome_iff_exists.1 hsome
    exact hpage hcounted token ((hnext token).1 htoken)

theorem isOver_iff (h : Underway spec params fetch initial start visits next progress state) :
    spec.IsOver initial visits ↔ next = none := by
  simp [Spec.IsOver, ← h.next_iff, Option.eq_none_iff_forall_ne_some]

theorem goOn (h : Underway spec params fetch initial start visits (some token) progress state)
    {body : Json} (hfetch : fetch (spec.pageParams params token) state = .ok (some body, after)) :
    let count := ((spec.items? body).getD []).length
    let step := spec.nextPage body count (progress.addPage count)
    Underway spec params fetch initial start
      (visits ++ [{ params := spec.pageParams params token, body := some body }]) step.1 step.2
      after := by
  have hleads := (h.next_iff token).1 rfl
  obtain ⟨hnext, hpage⟩ := spec.nextPage_eq body
    (progress.addPage ((spec.items? body).getD []).length) (visits.length + 2)
    fun hcounted => h.page_eq hcounted rfl
  refine ⟨h.route.snoc hleads _, h.asks.snoc hfetch, fun token => (hnext token).trans ?_, ?_⟩
  · simp [Spec.leadsOn_snoc]
  · intro hcounted hsome
    obtain ⟨token, htoken⟩ := Option.isSome_iff_exists.1 hsome
    rw [List.length_append]
    exact hpage hcounted token ((hnext token).1 htoken)

theorem follow_of_error {progress : Progress} {given : List (Table Json)} {fault : Fault}
    {fuel : Nat} (hfetch : fetch (spec.pageParams params token) state = .error fault) :
    follow spec params fetch (fuel + 1) (some token) progress given state = .error fault := by
  simp only [follow, bind, StateT.bind, hfetch, Except.bind]

theorem follow_of_none {progress : Progress} {given : List (Table Json)} {fuel : Nat}
    (hfetch : fetch (spec.pageParams params token) state = .ok (none, after)) :
    follow spec params fetch (fuel + 1) (some token) progress given state =
      .ok (given, after) := by
  simp only [follow, bind, StateT.bind, hfetch, Except.bind]
  rfl

theorem follow_of_some {progress : Progress} {given : List (Table Json)} {body : Json} {fuel : Nat}
    (hfetch : fetch (spec.pageParams params token) state = .ok (some body, after)) :
    let items := (spec.items? body).getD []
    let step := spec.nextPage body items.length (progress.addPage items.length)
    follow spec params fetch (fuel + 1) (some token) progress given state =
      follow spec params fetch fuel step.1 step.2 (given ++ items) after := by
  simp only [follow, bind, StateT.bind, hfetch, Except.bind]

/-- Following the pages makes the visits that the pages lead to, until nothing leads on, the visits
that are allowed have been made, or the source breaks down. -/
theorem follow_cases (h : Underway spec params fetch initial start visits next progress state)
    (given : List (Table Json)) (fuel : Nat) :
    ∃ more last, spec.IsRoute params initial (visits ++ more) ∧
      Asks fetch start (visits ++ more) last ∧
      let outcome := follow spec params fetch fuel next progress given state
      (spec.IsOver initial (visits ++ more) ∧ more.length ≤ fuel ∧
          outcome = .ok (given ++ more.flatMap (Visit.items spec), last)) ∨
        (¬ spec.IsOver initial (visits ++ more) ∧ more.length = fuel ∧
          outcome = .error .neverEnds) ∨
        ∃ request fault, fetch request last = .error fault ∧ outcome = .error fault := by
  -- `Underway` holds at every page, and the fuel counts the pages that may still be fetched.
  induction fuel generalizing visits next progress state given with
  | zero =>
      refine ⟨[], state, by simpa using h.route, by simpa using h.asks, ?_⟩
      rw [List.append_nil, List.flatMap_nil, List.append_nil, h.isOver_iff]
      cases next with
      | none => exact .inl ⟨rfl, Nat.zero_le _, rfl⟩
      | some token => exact .inr (.inl ⟨by simp, rfl, rfl⟩)
  | succ fuel ih =>
      cases next with
      | none =>
          refine ⟨[], state, by simpa using h.route, by simpa using h.asks, .inl ?_⟩
          rw [List.append_nil, List.flatMap_nil, List.append_nil, h.isOver_iff]
          exact ⟨rfl, Nat.zero_le _, rfl⟩
      | some token =>
          have hleads := (h.next_iff token).1 rfl
          cases hfetch : fetch (spec.pageParams params token) state with
          | error fault =>
              exact ⟨[], state, by simpa using h.route, by simpa using h.asks,
                .inr (.inr ⟨_, fault, hfetch, follow_of_error hfetch⟩)⟩
          | ok answer =>
              rcases answer with ⟨_ | body, after⟩
              · refine ⟨[{ params := spec.pageParams params token, body := none }], after,
                  h.route.snoc hleads _, h.asks.snoc hfetch,
                  .inl ⟨Spec.isOver_snoc_of_none rfl, by simp, ?_⟩⟩
                rw [follow_of_none hfetch, List.flatMap_singleton, Visit.items_of_none rfl,
                  List.append_nil]
              · obtain ⟨more, last, hroute, hasks, houtcome⟩ :=
                  ih (h.goOn hfetch) (given ++ (spec.items? body).getD [])
                rw [List.append_assoc] at hroute hasks houtcome
                refine ⟨{ params := spec.pageParams params token, body := some body } :: more, last,
                  hroute, hasks, ?_⟩
                rw [follow_of_some hfetch, List.flatMap_cons, ← List.append_assoc, List.length_cons]
                simpa [Visit.items] using houtcome

end Underway

section Walk

variable {σ : Type} {spec : Spec} {params : Table Json} {fetch : Source σ} {fuel : Nat}
  {initial : Json} {start last : σ} {first items : List (Table Json)}

theorem walk_of_not_object (hobject : initial.object? = none) :
    walk spec params fetch fuel initial start = .ok (normalizeItems initial, start) := by
  cases initial with
  | object => simp [Json.object?] at hobject
  | _ => rfl

theorem walk_of_lacksItems (hobject : initial.object? ≠ none) (hitems : spec.LacksItems initial) :
    walk spec params fetch fuel initial start = .ok ([initial.toMapping], start) := by
  rw [← Spec.items?_eq_none_iff] at hitems
  cases initial with
  | object =>
      simp only [walk, hitems]
      rfl
  | _ => simp [Json.object?] at hobject

theorem walk_of_items (hobject : initial.object? ≠ none)
    (hitems : spec.items? initial = some first) :
    walk spec params fetch fuel initial start =
      let step := spec.nextPage initial first.length (.afterFirstPage first.length)
      follow spec params fetch fuel step.1 step.2 first start := by
  cases initial with
  | object => simp only [walk, hitems]
  | _ => simp [Json.object?] at hobject

theorem walk_cases (hobject : initial.object? ≠ none) (hitems : spec.items? initial = some first)
    (params : Table Json) (fetch : Source σ) (fuel : Nat) (start : σ) :
    ∃ visits last, spec.IsRoute params initial visits ∧ Asks fetch start visits last ∧
      let outcome := walk spec params fetch fuel initial start
      (spec.IsOver initial visits ∧ visits.length ≤ fuel ∧
          outcome = .ok (first ++ visits.flatMap (Visit.items spec), last)) ∨
        (¬ spec.IsOver initial visits ∧ visits.length = fuel ∧ outcome = .error .neverEnds) ∨
        ∃ request fault, fetch request last = .error fault ∧ outcome = .error fault := by
  rw [walk_of_items hobject hitems]
  have hunderway : Underway spec params fetch initial start [] _ _ start :=
    Underway.first hitems start
  obtain ⟨visits, last, hroute, hasks, hcases⟩ := hunderway.follow_cases first fuel
  exact ⟨visits, last, hroute, hasks, hcases⟩

theorem exists_asks_of_walk
    (hwalk : walk spec params fetch fuel initial start = .ok (items, last)) :
    ∃ visits, Asks fetch start visits last ∧
      ∀ first, initial.object? ≠ none → spec.items? initial = some first →
        spec.IsRoute params initial visits ∧ spec.IsOver initial visits ∧
          items = first ++ visits.flatMap (Visit.items spec) := by
  by_cases hobject : initial.object? = none
  · rw [walk_of_not_object hobject] at hwalk
    obtain ⟨rfl, rfl⟩ := Prod.mk.inj (Except.ok.inj hwalk)
    exact ⟨[], .nil, fun _ hsome => absurd hobject hsome⟩
  · cases hitems : spec.items? initial with
    | none =>
        rw [walk_of_lacksItems hobject (Spec.items?_eq_none_iff.1 hitems)] at hwalk
        obtain ⟨rfl, rfl⟩ := Prod.mk.inj (Except.ok.inj hwalk)
        exact ⟨[], .nil, fun _ _ hsome => by simp at hsome⟩
    | some found =>
        obtain ⟨visits, reached, hroute, hasks, hcases⟩ :=
          walk_cases hobject hitems params fetch fuel start
        rw [hwalk] at hcases
        rcases hcases with ⟨hover, -, hresult⟩ | ⟨-, -, hresult⟩ | ⟨_, _, -, hresult⟩
        · obtain ⟨rfl, rfl⟩ := Prod.mk.inj (Except.ok.inj hresult)
          refine ⟨visits, hasks, fun first _ hfirst => ⟨hroute, hover, ?_⟩⟩
          rw [Option.some.inj hfirst]
        · simp at hresult
        · simp at hresult

end Walk

/-- A source that answers every request: with a page or, where it fails, without one. -/
def Source.answering {σ : Type} (respond : Table Json → σ → Option Json × σ) : Source σ :=
  fun params state => .ok (respond params state)

section Answering

variable {σ : Type} {spec : Spec} {params : Table Json} {initial : Json} {visits : List Visit}

theorem forall₂_gives (spec : Spec) (visits : List Visit) :
    List.Forall₂ (Visit.Gives spec) visits (visits.map (Visit.items spec)) :=
  List.forall₂_map_right_iff.2 (List.forall₂_same.2 fun visit _ => visit.gives_items spec)

theorem Spec.IsRoute.exists_token (h : spec.IsRoute params initial visits)
    {past later : List Visit} {visit : Visit} (hvisits : visits = past ++ visit :: later) :
    ∃ token, spec.LeadsOn initial past token ∧ spec.AsksFor params token visit.params ∧
      (spec.nextPagePath = none →
        token = .number (past.length + 2 : Nat) ∧ past.length + 2 ≤ spec.maxPages) := by
  obtain ⟨token, hleads, hparams⟩ := h past visit later hvisits
  rw [hparams]
  exact ⟨token, hleads, spec.asksFor_pageParams params token,
    fun hcounted => hleads.of_counted hcounted⟩

theorem walk_answering_cases {first : List (Table Json)} (hobject : initial.object? ≠ none)
    (hitems : spec.items? initial = some first) (params : Table Json)
    (respond : Table Json → σ → Option Json × σ) (fuel : Nat) (start : σ) :
    ∃ visits last, spec.IsRoute params initial visits ∧
      Asks (.answering respond) start visits last ∧
      let outcome := walk spec params (.answering respond) fuel initial start
      (spec.IsOver initial visits ∧ visits.length ≤ fuel ∧
          outcome = .ok (first ++ visits.flatMap (Visit.items spec), last)) ∨
        (¬ spec.IsOver initial visits ∧ visits.length = fuel ∧ outcome = .error .neverEnds) := by
  obtain ⟨visits, last, hroute, hasks, hcases⟩ :=
    walk_cases hobject hitems params (.answering respond) fuel start
  refine ⟨visits, last, hroute, hasks, hcases.imp_right fun hrest => hrest.resolve_right ?_⟩
  rintro ⟨request, fault, hfault, -⟩
  simp [Source.answering] at hfault

/-- A walk through a source that answers every request does not fail. From a first page that is no
object, or lacks the items, nothing is fetched. From any other one, the pages that are fetched are
those that the pages before them lead to, until nothing leads on, and the walk gives the items of
the first page and then those of all fetched ones. Only where the pages lead on beyond all the
visits that `fuel` allows is there no result, which does not happen where pages are counted. -/
theorem walk_answering (spec : Spec) (params : Table Json)
    (respond : Table Json → σ → Option Json × σ) (fuel : Nat) (initial : Json) (start : σ) :
    let fetch := Source.answering respond
    let outcome := walk spec params fetch fuel initial start
    ((∀ members, initial ≠ .object members) →
        ∃ items, IsItems initial items ∧ outcome = .ok (items, start)) ∧
      (∀ members, initial = .object members → spec.LacksItems initial →
        outcome = .ok ([members], start)) ∧
      (∀ members, initial = .object members → ¬ spec.LacksItems initial →
        ∃ first visits given last, spec.HasItems initial first ∧
          List.Forall₂ (Visit.Gives spec) visits given ∧ spec.IsRoute params initial visits ∧
          (∀ past visit later, visits = past ++ visit :: later →
            ∃ token, spec.LeadsOn initial past token ∧ spec.AsksFor params token visit.params ∧
              (spec.nextPagePath = none →
                token = .number (past.length + 2 : Nat) ∧ past.length + 2 ≤ spec.maxPages)) ∧
          Asks fetch start visits last ∧
          (∀ others other, spec.IsRoute params initial others → Asks fetch start others other →
            others.length ≤ fuel → others <+: visits) ∧
          ((spec.IsOver initial visits ∧ visits.length ≤ fuel ∧
              outcome = .ok (first ++ given.flatten, last)) ∨
            (¬ spec.IsOver initial visits ∧ visits.length = fuel ∧
              outcome = .error .neverEnds))) ∧
      (spec.nextPagePath = none → spec.maxPages ≤ fuel + 1 → outcome.isOk) := by
  intro fetch outcome
  cases hinitial : initial with
  | object members =>
      have hobject : initial.object? ≠ none := by simp [hinitial, Json.object?]
      rw [← hinitial]
      refine ⟨fun hnone => absurd hinitial (hnone members), ?_⟩
      by_cases hlacks : spec.LacksItems initial
      · have houtcome : outcome = .ok ([initial.toMapping], start) :=
          walk_of_lacksItems hobject hlacks
        refine ⟨?_, fun _ _ hnone => absurd hlacks hnone, fun _ _ => by rw [houtcome]; rfl⟩
        rintro given rfl -
        exact houtcome
      · obtain ⟨first, hfirst⟩ :=
          Option.ne_none_iff_exists'.1 (mt Spec.items?_eq_none_iff.1 hlacks)
        obtain ⟨visits, last, hroute, hasks, hends⟩ :=
          walk_answering_cases hobject hfirst params respond fuel start
        refine ⟨fun _ _ hnone => absurd hnone hlacks, fun _ _ _ => ⟨first, visits, _, last,
          Spec.items?_eq_some_iff.1 hfirst, forall₂_gives spec visits, hroute,
          fun _ _ _ hvisits => hroute.exists_token hvisits, hasks, ?_,
          by rwa [← List.flatMap_def]⟩, ?_⟩
        · intro others other hotherRoute hother hothers
          rcases hends with ⟨hover, -, -⟩ | ⟨-, hlength, -⟩
          · exact hasks.isPrefix_of_isOver hroute hover hother hotherRoute
          · exact hasks.isPrefix hroute hother hotherRoute (hlength ▸ hothers)
        · intro hcounted hallowed
          rcases hends with ⟨-, -, hresult⟩ | ⟨hmore, hlength, -⟩
          · change outcome = _ at hresult
            rw [hresult]
            rfl
          · refine absurd (fun token hleads => ?_) hmore
            have hcount := (hleads.of_counted hcounted).2
            omega
  | _ =>
      have houtcome : outcome = .ok (normalizeItems initial, start) :=
        walk_of_not_object (by simp [hinitial, Json.object?])
      rw [hinitial] at houtcome
      exact ⟨fun _ => ⟨_, isItems_iff.2 rfl, houtcome⟩, by simp, by simp,
        fun _ _ => by rw [houtcome]; rfl⟩

end Answering

end ApiBridge.Pagination
