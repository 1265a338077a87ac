import ApiBridge.Proofs.Connector.Retry
import ApiBridge.Proofs.Table

namespace ApiBridge

namespace Pagination

theorem Token.toValue_injective {token other : Token} (h : token.toValue = other.toValue) :
    token = other := by
  cases token <;> cases other <;> simp_all [toValue, Json.ofInt]

/-- A visit whose body is read in another way. -/
def Visit.read (view : Json → Json) (visit : Visit) : Visit :=
  { visit with body := visit.body.map view }

namespace Spec

variable {spec : Spec} {params : Table Json} {initial : Json} {visits : List Visit}
  {view : Json → Json}

theorem pageParams_injective {token other : Token}
    (h : spec.pageParams params token = spec.pageParams params other) : token = other := by
  have hfound := congrArg (Table.find? spec.pageParam) h
  rw [pageParams, pageParams, Table.find?_put, Table.find?_put] at hfound
  exact Token.toValue_injective (Option.some.inj hfound)

/-- Whether the pages of some visits lead on to the same pages when they are read in another way. -/
def LeadsAlike (spec : Spec) (view : Json → Json) (visits : List Visit) : Prop :=
  ∀ past visit later body, visits = past ++ visit :: later → visit.body = some body →
    ∀ token, spec.Leads (past.length + 2) (view body) token ↔
      spec.Leads (past.length + 2) body token

theorem LeadsAlike.leadsOn_iff (h : spec.LeadsAlike view visits) {past later : List Visit}
    (hvisits : visits = past ++ later) {token : Token} :
    spec.LeadsOn initial (past.map (Visit.read view)) token ↔ spec.LeadsOn initial past token := by
  rcases List.eq_nil_or_concat past with rfl | ⟨earlier, visit, rfl⟩
  · rfl
  · rw [List.concat_eq_append] at hvisits ⊢
    rw [List.append_assoc, List.singleton_append] at hvisits
    rw [List.map_append, List.map_singleton, leadsOn_snoc, leadsOn_snoc, List.length_map]
    cases hbody : visit.body with
    | none => simp [Visit.read, hbody]
    | some body =>
        have halike := h earlier visit later body hvisits hbody token
        simp [Visit.read, hbody, halike]

theorem isRoute_read_iff (hroute : spec.IsRoute params initial visits)
    (hover : spec.IsOver initial visits) :
    (spec.IsRoute params initial (visits.map (Visit.read view)) ∧
        spec.IsOver initial (visits.map (Visit.read view))) ↔
      spec.LeadsAlike view visits := by
  constructor
  · rintro ⟨hread, hend⟩ past visit later body rfl hbody token
    have hraw : spec.LeadsOn initial (past ++ [visit]) token ↔
        spec.Leads (past.length + 2) body token := by
      simp [leadsOn_snoc, hbody]
    have hview : spec.LeadsOn initial ((past ++ [visit]).map (Visit.read view)) token ↔
        spec.Leads (past.length + 2) (view body) token := by
      rw [List.map_append, List.map_singleton, leadsOn_snoc, List.length_map]
      simp [Visit.read, hbody]
    rw [← hraw, ← hview]
    -- Behind the last page both routes are over; otherwise the next request tells the token.
    cases later with
    | nil => exact iff_of_false (hend token) (hover token)
    | cons next later =>
        obtain ⟨given, hgiven, hparams⟩ := hroute (past ++ [visit]) next later (by simp)
        obtain ⟨found, hfound, hparams'⟩ := hread ((past ++ [visit]).map (Visit.read view))
          (next.read view) (later.map (Visit.read view)) (by simp)
        have hsame : given = found := pageParams_injective (hparams.symm.trans hparams')
        constructor
        · intro hleads
          rw [hleads.unique hfound, ← hsame]
          exact hgiven
        · intro hleads
          rw [hleads.unique hgiven, hsame]
          exact hfound
  · intro halike
    constructor
    · intro past visit later hvisits
      obtain ⟨earlier, rest, rfl, rfl, hrest⟩ := List.map_eq_append_iff.1 hvisits
      obtain ⟨given, following, rfl, rfl, rfl⟩ := List.map_eq_cons_iff.1 hrest
      obtain ⟨token, hleads, hparams⟩ := hroute earlier given following rfl
      exact ⟨token, (halike.leadsOn_iff rfl).2 hleads, hparams⟩
    · intro token hleads
      exact hover token ((halike.leadsOn_iff (List.append_nil _).symm).1 hleads)

/-- What a walk comes to: it visits the pages that lead on from the first one, to the end, and it
gives the items of all of them. -/
structure Gives (spec : Spec) (params : Table Json) (initial : Json) (visits : List Visit)
    (items : List (Table Json)) : Prop where
  route : spec.IsRoute params initial visits
  isOver : spec.IsOver initial visits
  items_eq : items = (spec.items? initial).getD [] ++ visits.flatMap (Visit.items spec)

/-- A walk comes to what it would if its pages were read in another way, exactly if they lead on to
the same pages that way, and together hold the same items. -/
theorem Gives.read_iff {items : List (Table Json)} (h : spec.Gives params initial visits items) :
    spec.Gives params initial (visits.map (Visit.read view)) items ↔
      spec.LeadsAlike view visits ∧
        (visits.map (Visit.read view)).flatMap (Visit.items spec) =
          visits.flatMap (Visit.items spec) := by
  have hitems : items = (spec.items? initial).getD [] ++
      (visits.map (Visit.read view)).flatMap (Visit.items spec) ↔
      (visits.map (Visit.read view)).flatMap (Visit.items spec) =
        visits.flatMap (Visit.items spec) := by
    rw [h.items_eq, List.append_cancel_left_eq, eq_comm]
  rw [← isRoute_read_iff h.route h.isOver, ← hitems, and_assoc]
  exact ⟨fun hread => ⟨hread.route, hread.isOver, hread.items_eq⟩,
    fun ⟨hroute, hover, heq⟩ => ⟨hroute, hover, heq⟩⟩

end Spec

end Pagination

namespace Connector

variable {connector : Connector} {name : String} {endpoint : Endpoint} {before after : Traffic}

theorem exists_run_of_fetch {params : Option (Table Json)} {data : Payload}
    (hendpoint : connector.endpoint name = .ok endpoint)
    (hrun : (connector.fetch name params).run before = .ok (.ok data, after)) :
    ∃ request met, connector.prepare name (params.getD []) = .ok request ∧
      (connector.fetchOnce name endpoint request (params.getD [])).run met =
        .ok (.ok data, after) := by
  obtain ⟨request, hrequest⟩ := prepare_eq_ok hendpoint (params.getD [])
  rw [fetch_eq hendpoint hrequest, reporting_eq_ok] at hrun
  obtain ⟨_, met, -, -, -, haction, -⟩ := tries_of_retry _ .nil (List.forall_mem_nil _) hrun
  exact ⟨request, met, hrequest, haction⟩

/-- The body of a page the way that the first page of an endpoint is read. -/
def pageView (endpoint : Endpoint) (raw : Json) : Json :=
  (Payload.ofJson (atResponsePath endpoint.responsePath raw)).toJson

theorem process_eq_ok {response : Http.Response} {data : Payload}
    (hendpoint : connector.endpoint name = .ok endpoint)
    (hrun : (connector.process name response).run before = .ok (.ok data, after)) :
    ∃ raw, response.isSuccess ∧ bodyValue response.body = .ok raw ∧
      data.toJson = pageView endpoint raw := by
  rw [process, hendpoint, Activity.ofResult_ok_bind] at hrun
  obtain ⟨_, noted, -, hrun⟩ := Activity.liftM_bind_eq_ok.1 hrun
  obtain ⟨_, _, hstatus, hrun⟩ := Activity.bind_eq_ok_ok.1 hrun
  obtain ⟨raw, _, hraw, hrun⟩ := Activity.bind_eq_ok_ok.1 hrun
  have hsuccess : response.isSuccess := by
    have hcheck := (Activity.ofResult_eq_ok.1 hstatus).1
    by_contra hfailure
    simp [checkStatus, hfailure] at hcheck
  refine ⟨raw, hsuccess, (Activity.ofResult_eq_ok.1 hraw).1, ?_⟩
  split at hrun
  · obtain ⟨_, _, -, hrun⟩ := Activity.liftM_bind_eq_ok.1 hrun
    obtain ⟨hdata, rfl⟩ := Activity.pure_eq_ok.1 hrun
    rw [← Except.ok.inj hdata]
    rfl
  · obtain ⟨hdata, rfl⟩ := Activity.pure_eq_ok.1 hrun
    rw [← Except.ok.inj hdata]
    rfl

/-- What a fetch from a paged endpoint gives: the items of its first page, read at the path to the
data, and then those of the pages that this one leads to, each read without that path. That comes to
the same as reading all pages at the path, exactly if these lead on to the same pages that way, and
together hold the same items. -/
theorem gives_of_fetch {params : Option (Table Json)} {spec : Pagination.Spec} {data : Payload}
    (hendpoint : connector.endpoint name = .ok endpoint)
    (hpagination : endpoint.pagination = some spec)
    (hrun : (connector.fetch name params).run before = .ok (.ok data, after)) :
    ∃ request met response answered raw start visits items,
      connector.prepare name (params.getD []) = .ok request ∧
      (connector.exchange request).run met = .ok (.ok response, answered) ∧
      response.isSuccess ∧ bodyValue response.body = .ok raw ∧
      Pagination.Asks (connector.pages name) start visits after ∧
      data = .list (items.map .object) ∧
      ((pageView endpoint raw).object? ≠ none → spec.items? (pageView endpoint raw) ≠ none →
        spec.Gives (params.getD []) (pageView endpoint raw) visits items ∧
        let alike := visits.map (Pagination.Visit.read (pageView endpoint))
        (spec.Gives (params.getD []) (pageView endpoint raw) alike items ↔
          spec.LeadsAlike (pageView endpoint) visits ∧
            alike.flatMap (Pagination.Visit.items spec) =
              visits.flatMap (Pagination.Visit.items spec))) := by
  obtain ⟨request, met, hrequest, hrun⟩ := exists_run_of_fetch hendpoint hrun
  obtain ⟨_, turned, -, hrun⟩ := Activity.liftM_bind_eq_ok.1 hrun
  obtain ⟨response, answered, hexchange, hrun⟩ := Activity.bind_eq_ok_ok.1 hrun
  obtain ⟨first, start, hprocess, hrun⟩ := Activity.bind_eq_ok_ok.1 hrun
  obtain ⟨raw, hsuccess, hraw, hview⟩ := process_eq_ok hendpoint hprocess
  rw [hpagination] at hrun
  obtain ⟨items, walked, hwalk, hrun⟩ := Activity.liftM_bind_eq_ok.1 hrun
  obtain ⟨hdata, rfl⟩ := Activity.pure_eq_ok.1 hrun
  obtain ⟨_, _, hget, hwalk⟩ := Run.bind_eq_ok.1 hwalk
  obtain ⟨rfl, rfl⟩ := Run.get_eq_ok.1 hget
  rw [hview] at hwalk
  obtain ⟨visits, hasks, hcomes⟩ := Pagination.exists_asks_of_walk hwalk
  refine ⟨request, turned, response, answered, raw, _, visits, items, hrequest, hexchange, hsuccess,
    hraw, hasks, (Except.ok.inj hdata).symm, fun hobject hitems => ?_⟩
  obtain ⟨found, hfound⟩ := Option.ne_none_iff_exists'.1 hitems
  obtain ⟨hroute, hover, hgiven⟩ := hcomes found hobject hfound
  have hgives : spec.Gives (params.getD []) (pageView endpoint raw) visits items :=
    ⟨hroute, hover, by rw [hgiven, hfound, Option.getD_some]⟩
  exact ⟨hgives, hgives.read_iff⟩

/-- A paged endpoint whose data is one level down. -/
def pagedSample : Endpoint :=
  { Endpoint.new "/" with
    pagination := some (.byToken "items" "next"), responsePath := some "data" }

def withPages : Connector where
  definition := (Definition.new "rest" "http://h").withEndpoint "items" pagedSample
  validator := none

/-- Two pages of which the second one has its items at the top. -/
theorem gives_of_fetch_at_top :
    let spec := Pagination.Spec.byToken "items" "next"
    let pages : List Json := [
      .ofPairs [("data", .ofPairs [("items", .array [.ofNat 1]), ("next", .string "b")])],
      .ofPairs [("items", .array [.ofNat 2])]]
    let start := Traffic.sample (pages.map fun page => .sample [Utf8.encode page.compact] .complete)
    ∃ data after raw middle visits items,
      (withPages.fetch "items" none).run start = .ok (.ok data, after) ∧
      data.toJson.compact =
        (Json.array [.ofPairs [("value", .ofNat 1)], .ofPairs [("value", .ofNat 2)]]).compact ∧
      Pagination.Asks (withPages.pages "items") middle visits after ∧
      data = .list (items.map .object) ∧
      ((pageView pagedSample raw).object? ≠ none → spec.items? (pageView pagedSample raw) ≠ none →
        spec.Gives [] (pageView pagedSample raw) visits items) := by
  intro spec pages start
  obtain ⟨data, after, hrun, htest⟩ := Activity.exists_of_any (withPages.fetch "items" none) start
    (fun data _ => data.toJson.compact ==
      (Json.array [.ofPairs [("value", .ofNat 1)], .ofPairs [("value", .ofNat 2)]]).compact)
    (by decide +kernel)
  obtain ⟨_, _, _, _, raw, middle, visits, items, -, -, -, -, hasks, hdata, hgives⟩ :=
    gives_of_fetch (show withPages.endpoint "items" = .ok pagedSample from rfl) rfl hrun
  exact ⟨data, after, raw, middle, visits, items, hrun, eq_of_beq htest, hasks, hdata,
    fun hobject hitems => (hgives hobject hitems).1⟩

/-- Two pages of one shape. Only the items of the first one are given, although both have been
fetched and both hold an item where the first one has its own. -/
theorem fetch_drops_items :
    let spec := Pagination.Spec.byToken "items" "next"
    let pages : List Json := [
      .ofPairs [("data", .ofPairs [("items", .array [.ofNat 1]), ("next", .string "b")])],
      .ofPairs [("data", .ofPairs [("items", .array [.ofNat 2])])]]
    let start := Traffic.sample (pages.map fun page => .sample [Utf8.encode page.compact] .complete)
    ∃ data after, (withPages.fetch "items" none).run start = .ok (.ok data, after) ∧
      after.peer.reactions = [] ∧
      data.toJson.compact = (Json.array [.ofPairs [("value", .ofNat 1)]]).compact ∧
      data.toJson.compact ≠ (Json.array ((pages.flatMap fun page =>
        (spec.items? (pageView pagedSample page)).getD []).map .object)).compact := by
  intro spec pages start
  obtain ⟨data, after, hrun, htest⟩ := Activity.exists_of_any (withPages.fetch "items" none) start
    (fun data after => after.peer.reactions.isEmpty &&
      data.toJson.compact == (Json.array [.ofPairs [("value", .ofNat 1)]]).compact)
    (by decide +kernel)
  simp only [Bool.and_eq_true, List.isEmpty_iff, beq_iff_eq] at htest
  refine ⟨data, after, hrun, htest.1, htest.2, ?_⟩
  rw [htest.2]
  decide +kernel

end Connector

end ApiBridge
