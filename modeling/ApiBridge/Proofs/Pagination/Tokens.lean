import ApiBridge.Proofs.Pagination.Walk
import Mathlib.Data.Finset.Card

/-!
Walks by token through a source that answers the same token in the same way each time: such a walk
ends just when no token comes back, since nothing but the last page decides which one is next.
-/

namespace ApiBridge.Pagination

/-- Whether what a source answers depends on the token alone. -/
def Source.AnswersBy {σ : Type} (fetch : Source σ) (spec : Spec) (params : Table Json)
    (answer : Token → Option Json) : Prop :=
  ∀ token state, ∃ after, fetch (spec.pageParams params token) state = .ok (answer token, after)

namespace Spec

/-- The token that a walk asks for first. A page that is no object, or lacks the items, leads
nowhere. -/
def firstToken? (spec : Spec) (initial : Json) : Option Token :=
  if initial.object?.isSome && (spec.items? initial).isSome then spec.nextToken? initial else none

/-- The token that a walk asks for after the given number of other ones, as long as each of them is
answered in its own way. -/
def tokenAt? (spec : Spec) (answer : Token → Option Json) (initial : Json) : Nat → Option Token
  | 0 => spec.firstToken? initial
  | count + 1 =>
      (spec.tokenAt? answer initial count).bind fun token => (answer token).bind spec.nextToken?

/-- The first tokens that a walk asks for, which are fewer than `count` if it ends before that. -/
def tokens (spec : Spec) (answer : Token → Option Json) (initial : Json) (count : Nat) :
    List Token :=
  (List.range count).filterMap (spec.tokenAt? answer initial)

/-- Whether a walk asks for some token a second time. -/
def ComesBack (spec : Spec) (answer : Token → Option Json) (initial : Json) : Prop :=
  ∃ earlier later token, earlier < later ∧ spec.tokenAt? answer initial earlier = some token ∧
    spec.tokenAt? answer initial later = some token

def visit (spec : Spec) (params : Table Json) (answer : Token → Option Json) (token : Token) :
    Visit :=
  { params := spec.pageParams params token, body := answer token }

variable {spec : Spec} {answer : Token → Option Json} {initial : Json} {earlier later count : Nat}

theorem tokenAt?_eq_none_of_le (hnone : spec.tokenAt? answer initial earlier = none)
    (hle : earlier ≤ later) : spec.tokenAt? answer initial later = none := by
  induction hle with
  | refl => exact hnone
  | step _ ih => rw [tokenAt?, ih, Option.bind_none]

theorem tokens_eq_of_le (hnone : spec.tokenAt? answer initial earlier = none)
    (hle : earlier ≤ later) :
    spec.tokens answer initial later = spec.tokens answer initial earlier := by
  induction hle with
  | refl => rfl
  | @step later hle ih =>
      have hlater := tokenAt?_eq_none_of_le hnone hle
      rw [← ih, tokens, List.range_succ, List.filterMap_append]
      simp [tokens, hlater]

theorem tokens_succ {token : Token} (htoken : spec.tokenAt? answer initial count = some token) :
    spec.tokens answer initial (count + 1) = spec.tokens answer initial count ++ [token] := by
  rw [tokens, List.range_succ, List.filterMap_append, tokens]
  simp [htoken]

theorem tokenAt?_periodic
    (hsame : spec.tokenAt? answer initial earlier = spec.tokenAt? answer initial later)
    (hle : earlier ≤ later) (hcount : earlier ≤ count) :
    spec.tokenAt? answer initial (count + (later - earlier)) =
      spec.tokenAt? answer initial count := by
  obtain ⟨more, rfl⟩ := Nat.exists_eq_add_of_le hcount
  have hshift : earlier + more + (later - earlier) = later + more := by omega
  rw [hshift]
  induction more with
  | zero => exact hsame.symm
  | succ more ih =>
      have hprevious := ih (by omega) (by omega)
      rw [← Nat.add_assoc, ← Nat.add_assoc, tokenAt?, tokenAt?, hprevious]

theorem ComesBack.tokenAt?_ne_none (h : spec.ComesBack answer initial) (count : Nat) :
    spec.tokenAt? answer initial count ≠ none := by
  obtain ⟨earlier, later, token, hlt, hearlier, hlater⟩ := h
  have hsame := hearlier.trans hlater.symm
  induction count using Nat.strongRecOn with
  | ind count ih =>
      rcases Nat.le_total count later with hle | hle
      · intro hnone
        rw [tokenAt?_eq_none_of_le hnone hle] at hlater
        simp at hlater
      · -- The token of one turn before is the same one.
        have hturn : count - (later - earlier) + (later - earlier) = count := by omega
        rw [← hturn, tokenAt?_periodic hsame (by omega) (by omega)]
        exact ih _ (by omega)

theorem nodup_tokens (h : ¬ spec.ComesBack answer initial) (count : Nat) :
    (spec.tokens answer initial count).Nodup := by
  apply List.Nodup.filterMap _ List.nodup_range
  intro index other token htoken hother
  rcases Nat.lt_trichotomy index other with hlt | heq | hlt
  · exact absurd ⟨index, other, token, hlt, htoken, hother⟩ h
  · exact heq
  · exact absurd ⟨other, index, token, hlt, hother, htoken⟩ h

/-- Among finitely many tokens, one comes back unless the walk is over by the time that each can
have been asked for. -/
theorem comesBack_of_finite {known : List Token}
    (hknown : ∀ count token, spec.tokenAt? answer initial count = some token → token ∈ known)
    (hmore : spec.tokenAt? answer initial known.length ≠ none) :
    spec.ComesBack answer initial := by
  have hmaps : ∀ count ∈ Finset.range (known.length + 1),
      spec.tokenAt? answer initial count ∈ (known.map some).toFinset := by
    intro count hcount
    have hle : count ≤ known.length := by simpa [Nat.lt_succ_iff] using hcount
    obtain ⟨token, htoken⟩ :=
      Option.ne_none_iff_exists'.1 fun hnone => hmore (tokenAt?_eq_none_of_le hnone hle)
    simpa [htoken] using hknown count token htoken
  have hfewer : (known.map some).toFinset.card < (Finset.range (known.length + 1)).card := by
    have hcard := List.toFinset_card_le (known.map some)
    rw [List.length_map] at hcard
    rw [Finset.card_range]
    omega
  obtain ⟨index, hindex, other, hother, hne, hsame⟩ :=
    Finset.exists_ne_map_eq_of_card_lt_of_maps_to hfewer hmaps
  obtain ⟨token, -, htoken⟩ := List.mem_map.1 (List.mem_toFinset.1 (hmaps index hindex))
  rcases Nat.lt_or_gt_of_ne hne with hlt | hlt
  · exact ⟨index, other, token, hlt, htoken.symm, hsame.symm.trans htoken.symm⟩
  · exact ⟨other, index, token, hlt, hsame.symm.trans htoken.symm, htoken.symm⟩

variable {params : Table Json} {path : String} {σ : Type} {fetch : Source σ} {start last : σ}
  {visits : List Visit} {token : Token}

theorem leadsOn_iff (hpath : spec.nextPagePath = some path) :
    spec.LeadsOn initial visits token ↔
      ∃ body, lastPage initial visits = some body ∧ spec.nextToken? body = some token := by
  simp only [LeadsOn, ← nextToken?_eq_some_iff hpath]

end Spec

section Walk

variable {σ : Type} {spec : Spec} {params : Table Json} {fetch : Source σ} {initial : Json}
  {answer : Token → Option Json} {path : String}

theorem walk_requests (hpath : spec.nextPagePath = some path) (params : Table Json)
    (fetch : Source σ) (fuel : Nat) (initial : Json) (start : σ) :
    let outcome := walk spec params fetch fuel initial start
    ∃ visits last, Asks fetch start visits last ∧
      (∀ past visit later, visits = past ++ visit :: later →
        ∃ body token, lastPage initial past = some body ∧ spec.nextToken? body = some token ∧
          visit.params = spec.pageParams params token) ∧
      ((∃ items, outcome = .ok (items, last)) ∨
        (visits.length = fuel ∧ outcome = .error .neverEnds) ∨
        ∃ request fault, fetch request last = .error fault ∧ outcome = .error fault) := by
  intro outcome
  by_cases hobject : initial.object? = none
  · exact ⟨[], start, .nil, by simp, .inl ⟨_, walk_of_not_object hobject⟩⟩
  · cases hitems : spec.items? initial with
    | none =>
        have hlacks := Spec.items?_eq_none_iff.1 hitems
        exact ⟨[], start, .nil, by simp, .inl ⟨_, walk_of_lacksItems hobject hlacks⟩⟩
    | some first =>
        obtain ⟨visits, last, hroute, hasks, hcases⟩ :=
          walk_cases hobject hitems params fetch fuel start
        refine ⟨visits, last, hasks, ?_, ?_⟩
        · intro past visit later hvisits
          obtain ⟨token, hleads, hparams⟩ := hroute past visit later hvisits
          obtain ⟨body, hbody, htoken⟩ := (Spec.leadsOn_iff hpath).1 hleads
          exact ⟨body, token, hbody, htoken, hparams⟩
        · rcases hcases with ⟨-, -, hresult⟩ | ⟨-, hlength, hresult⟩ | hfault
          · exact .inl ⟨_, hresult⟩
          · exact .inr (.inl ⟨hlength, hresult⟩)
          · exact .inr (.inr hfault)

theorem follow_answersBy {start state : σ} (hpath : spec.nextPagePath = some path)
    (hanswer : fetch.AnswersBy spec params answer) (fuel : Nat) {count : Nat}
    (hasks : Asks fetch start ((spec.tokens answer initial count).map (spec.visit params answer))
      state) (progress : Progress) (given : List (Table Json)) :
    let outcome :=
      follow spec params fetch fuel (spec.tokenAt? answer initial count) progress given state
    ∃ last, Asks fetch start
        ((spec.tokens answer initial (count + fuel)).map (spec.visit params answer)) last ∧
      ((spec.tokenAt? answer initial (count + fuel) = none ∧ ∃ items, outcome = .ok (items, last)) ∨
        (spec.tokenAt? answer initial (count + fuel) ≠ none ∧ outcome = .error .neverEnds)) := by
  -- The fuel counts the tokens that may still be asked for.
  induction fuel generalizing count state progress given with
  | zero =>
      refine ⟨state, hasks, ?_⟩
      rw [Nat.add_zero]
      cases spec.tokenAt? answer initial count with
      | none => exact .inl ⟨rfl, given, rfl⟩
      | some token => exact .inr ⟨by simp, rfl⟩
  | succ fuel ih =>
      cases htoken : spec.tokenAt? answer initial count with
      | none =>
          rw [Spec.tokens_eq_of_le htoken (Nat.le_add_right _ _)]
          exact ⟨state, hasks,
            .inl ⟨Spec.tokenAt?_eq_none_of_le htoken (Nat.le_add_right _ _), given, rfl⟩⟩
      | some token =>
          obtain ⟨after, hfetch⟩ := hanswer token state
          have hnext : spec.tokenAt? answer initial (count + 1) =
              (answer token).bind spec.nextToken? := by
            rw [Spec.tokenAt?, htoken, Option.bind_some]
          have hafter : Asks fetch start
              ((spec.tokens answer initial (count + 1)).map (spec.visit params answer)) after := by
            rw [Spec.tokens_succ htoken, List.map_append]
            exact hasks.snoc hfetch
          have hcount : count + (fuel + 1) = count + 1 + fuel := by omega
          rw [hcount]
          cases hbody : answer token with
          | none =>
              rw [hbody] at hfetch hnext
              rw [Spec.tokens_eq_of_le hnext (Nat.le_add_right _ _)]
              exact ⟨after, hafter, .inl ⟨Spec.tokenAt?_eq_none_of_le hnext (Nat.le_add_right _ _),
                given, Underway.follow_of_none hfetch⟩⟩
          | some body =>
              rw [hbody] at hfetch hnext
              dsimp only
              rw [Underway.follow_of_some hfetch, Spec.nextPage_of_path hpath]
              have hbound : spec.nextToken? body = spec.tokenAt? answer initial (count + 1) :=
                hnext.symm
              rw [hbound]
              exact ih hafter _ _

theorem follow_none (params : Table Json) (fetch : Source σ) (fuel : Nat) (progress : Progress)
    (given : List (Table Json)) (state : σ) :
    follow spec params fetch fuel none progress given state = .ok (given, state) := by
  cases fuel <;> rfl

theorem walk_eq_follow (hpath : spec.nextPagePath = some path) (params : Table Json)
    (fetch : Source σ) (fuel : Nat) (initial : Json) (start : σ) :
    ∃ progress first, walk spec params fetch fuel initial start =
      follow spec params fetch fuel (spec.firstToken? initial) progress first start := by
  by_cases hobject : initial.object? = none
  · have hfirst : spec.firstToken? initial = none := by simp [Spec.firstToken?, hobject]
    rw [walk_of_not_object hobject, hfirst]
    exact ⟨.afterFirstPage 0, _, (follow_none _ _ _ _ _ _).symm⟩
  · cases hitems : spec.items? initial with
    | none =>
        have hfirst : spec.firstToken? initial = none := by simp [Spec.firstToken?, hitems]
        rw [walk_of_lacksItems hobject (Spec.items?_eq_none_iff.1 hitems), hfirst]
        exact ⟨.afterFirstPage 0, _, (follow_none _ _ _ _ _ _).symm⟩
    | some first =>
        have hfirst : spec.firstToken? initial = spec.nextToken? initial := by
          simp [Spec.firstToken?, hitems, Option.isSome_iff_ne_none, hobject]
        rw [walk_of_items hobject hitems, Spec.nextPage_of_path hpath, hfirst]
        exact ⟨_, _, rfl⟩

theorem walk_answersBy (hpath : spec.nextPagePath = some path)
    (hanswer : fetch.AnswersBy spec params answer) (fuel : Nat) (initial : Json) (start : σ) :
    let outcome := walk spec params fetch fuel initial start
    ∃ last,
      Asks fetch start ((spec.tokens answer initial fuel).map (spec.visit params answer)) last ∧
      ((spec.tokenAt? answer initial fuel = none ∧ ∃ items, outcome = .ok (items, last)) ∨
        (spec.tokenAt? answer initial fuel ≠ none ∧ outcome = .error .neverEnds)) := by
  intro outcome
  obtain ⟨progress, first, hwalk⟩ := walk_eq_follow hpath params fetch fuel initial start
  have hnothing : Asks fetch start
      ((spec.tokens answer initial 0).map (spec.visit params answer)) start := .nil
  have hfollow := follow_answersBy hpath hanswer fuel hnothing progress first
  rw [Nat.zero_add] at hfollow
  simp only [outcome, hwalk]
  exact hfollow

theorem walk_of_comesBack (hpath : spec.nextPagePath = some path)
    (hanswer : fetch.AnswersBy spec params answer) (hback : spec.ComesBack answer initial)
    (fuel : Nat) (start : σ) : walk spec params fetch fuel initial start = .error .neverEnds := by
  obtain ⟨last, -, ⟨hnone, -⟩ | ⟨-, hresult⟩⟩ :=
    walk_answersBy hpath hanswer fuel initial start
  · exact absurd hnone (hback.tokenAt?_ne_none fuel)
  · exact hresult

/-- A walk by token asks each time for the token that the page before gives, whatever has been asked
for before. Through a source that answers each token in its own way, a walk that ends has asked for
no token twice; where there are finitely many tokens and none comes back, it ends after at most as
many requests. A walk to which a token comes back never ends, however much fuel it has, and asks for
the same tokens in turn. -/
theorem walk_byToken (hpath : spec.nextPagePath = some path) (params : Table Json)
    (fetch : Source σ) (initial : Json) (start : σ) :
    (∀ fuel, ∃ visits last, Asks fetch start visits last ∧
      (∀ past visit later, visits = past ++ visit :: later →
        ∃ body token, lastPage initial past = some body ∧ spec.nextToken? body = some token ∧
          visit.params = spec.pageParams params token) ∧
      ((∃ items, walk spec params fetch fuel initial start = .ok (items, last)) ∨
        (visits.length = fuel ∧ walk spec params fetch fuel initial start = .error .neverEnds) ∨
        ∃ request fault, fetch request last = .error fault ∧
          walk spec params fetch fuel initial start = .error fault)) ∧
      ∀ answer, fetch.AnswersBy spec params answer →
        (∀ fuel items last, walk spec params fetch fuel initial start = .ok (items, last) →
          Asks fetch start ((spec.tokens answer initial fuel).map (spec.visit params answer)) last ∧
            (spec.tokens answer initial fuel).Nodup) ∧
        (∀ known : List Token,
          (∀ count token, spec.tokenAt? answer initial count = some token → token ∈ known) →
            ¬ spec.ComesBack answer initial → ∀ fuel, known.length ≤ fuel →
              (walk spec params fetch fuel initial start).isOk) ∧
        (spec.ComesBack answer initial →
          ∀ fuel, walk spec params fetch fuel initial start = .error .neverEnds) ∧
        ∀ earlier later, earlier ≤ later →
          spec.tokenAt? answer initial earlier = spec.tokenAt? answer initial later →
            ∀ count, earlier ≤ count →
              spec.tokenAt? answer initial (count + (later - earlier)) =
                spec.tokenAt? answer initial count := by
  refine ⟨fun fuel => walk_requests hpath params fetch fuel initial start, fun answer hanswer =>
    ⟨?_, ?_, ?_, fun earlier later hle hsame count => Spec.tokenAt?_periodic hsame hle⟩⟩
  · intro fuel items last hwalk
    obtain ⟨reached, hasks, ⟨hnone, given, hresult⟩ | ⟨-, hresult⟩⟩ :=
      walk_answersBy hpath hanswer fuel initial start
    · obtain ⟨rfl, rfl⟩ := Prod.mk.inj (Except.ok.inj (hwalk.symm.trans hresult))
      exact ⟨hasks, Spec.nodup_tokens (fun hback => hback.tokenAt?_ne_none fuel hnone) fuel⟩
    · rw [hwalk] at hresult
      simp at hresult
  · intro known hknown hnever fuel hfuel
    have hover : spec.tokenAt? answer initial known.length = none :=
      Classical.not_not.1 (mt (Spec.comesBack_of_finite hknown) hnever)
    obtain ⟨last, -, ⟨-, items, hresult⟩ | ⟨hmore, -⟩⟩ :=
      walk_answersBy hpath hanswer fuel initial start
    · rw [hresult]
      rfl
    · exact absurd (Spec.tokenAt?_eq_none_of_le hover hfuel) hmore
  · intro hback fuel
    exact walk_of_comesBack hpath hanswer hback fuel start

end Walk

def Spec.sample : Spec :=
  { Spec.default with nextPagePath := some "next" }

/-- A page that gives the token for the next one. -/
def pageBefore (token : String) : Json :=
  .object [("next", .string token)]

/-- A source that answers the same request in the same way each time. -/
def Source.replying (reply : Table Json → Option Json) : Source Unit :=
  .answering fun params state => (reply params, state)

theorem Source.replying_answersBy (reply : Table Json → Option Json) (spec : Spec)
    (params : Table Json) :
    (replying reply).AnswersBy spec params fun token => reply (spec.pageParams params token) :=
  fun _ state => ⟨state, rfl⟩

/-- Two pages behind the first one, of which the second leads nowhere. -/
theorem walk_byToken_two :
    let reply : Table Json → Option Json := fun params =>
      match params.find? "page" with
      | some (.string "a") => some (pageBefore "b")
      | _ => some (.object [])
    Spec.sample.nextPagePath = some "next" ∧
      ∀ fuel, 2 ≤ fuel → (walk .sample [] (.replying reply) fuel (pageBefore "a") ()).isOk := by
  intro reply
  have hanswer := Source.replying_answersBy reply .sample []
  generalize hdef : (fun token => reply (Spec.sample.pageParams [] token)) = answer at hanswer
  have hfirst : Spec.sample.tokenAt? answer (pageBefore "a") 0 = some (.text "a") := by
    subst hdef
    decide +kernel
  have hsecond : Spec.sample.tokenAt? answer (pageBefore "a") 1 = some (.text "b") := by
    subst hdef
    decide +kernel
  have hover : Spec.sample.tokenAt? answer (pageBefore "a") 2 = none := by
    subst hdef
    decide +kernel
  have hknown : ∀ count token, Spec.sample.tokenAt? answer (pageBefore "a") count = some token →
      token ∈ [Token.text "a", .text "b"] := by
    intro count token htoken
    match count with
    | 0 => simp [← Option.some.inj (hfirst.symm.trans htoken)]
    | 1 => simp [← Option.some.inj (hsecond.symm.trans htoken)]
    | count + 2 =>
        rw [Spec.tokenAt?_eq_none_of_le hover (Nat.le_add_left 2 count)] at htoken
        simp at htoken
  have hwalk := walk_byToken (by rfl : Spec.sample.nextPagePath = some "next") []
    (.replying reply) (pageBefore "a") ()
  exact ⟨rfl, (hwalk.2 answer hanswer).2.1 _ hknown fun hback => hback.tokenAt?_ne_none 2 hover⟩

/-- Pages that give the token by which they have been asked for: the walk asks for the token again
as long as the source gives it, and never ends if the source always does. -/
theorem walk_asks_again :
    let respond : Table Json → List (Table Json) → Option Json × List (Table Json) :=
      fun params log => (if log.length < 2 then some (pageBefore "a") else none, log ++ [params])
    walk .sample [] (.answering respond) 3 (pageBefore "a") [] =
        .ok ([[("next", .string "a")], [("next", .string "a")], [("next", .string "a")]],
          [[("page", .string "a")], [("page", .string "a")], [("page", .string "a")]]) ∧
      ∀ fuel, walk .sample [] (.replying fun _ => some (pageBefore "a")) fuel (pageBefore "a") () =
        .error .neverEnds := by
  refine ⟨by rfl, fun fuel => ?_⟩
  apply walk_of_comesBack rfl (Source.replying_answersBy _ .sample [])
  exact ⟨0, 1, .text "a", Nat.one_pos, by decide +kernel, by decide +kernel⟩

end ApiBridge.Pagination
