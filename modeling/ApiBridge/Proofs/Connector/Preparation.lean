import ApiBridge.Proofs.Connector.Headers

namespace ApiBridge

open Http Header

def slashes (count : Nat) : String := String.ofList (List.replicate count '/')

theorem eq_replicate_append_dropWhile (chars : List Char) :
    ∃ count, chars = List.replicate count '/' ++ chars.dropWhile (· == '/') ∧
      (chars.dropWhile (· == '/')).head? ≠ some '/' := by
  have hfront : chars.takeWhile (· == '/') =
      List.replicate (chars.takeWhile (· == '/')).length '/' :=
    List.eq_replicate_of_mem fun c hc => beq_iff_eq.1 (List.all_eq_true.1 List.all_takeWhile c hc)
  refine ⟨_, hfront ▸ List.takeWhile_append_dropWhile.symm, fun hhead => ?_⟩
  have hfirst := List.head?_dropWhile_not (· == '/') chars
  rw [hhead] at hfirst
  exact absurd hfirst (by decide)

namespace Connector

/-- How a request puts together what there is for a call: the credentials come before the call and
the endpoint, and these before the connector. -/
structure Merges (connector : Connector) (endpoint : Endpoint) (params : Table Json)
    (request : Request) : Prop where
  /-- There is one slash between the base URL, less the slashes behind it, and the path, less the
  slashes before it. -/
  url_eq : ∃ base path back front,
    connector.definition.baseUrl = base ++ slashes back ∧ base.toList.getLast? ≠ some '/' ∧
      endpoint.path = slashes front ++ path ∧ path.toList.head? ≠ some '/' ∧
      request.url = base ++ "/" ++ path
  method_eq : request.method = endpoint.method
  body_eq : request.body = endpoint.body
  params_isOrdered : request.params.IsOrdered
  param_of_auth : ∀ key value, connector.definition.auth.SuppliesParam key value →
    request.params.find? key = some value
  param_of_call : ∀ key, (∀ value, ¬ connector.definition.auth.SuppliesParam key value) →
    request.params.find? key = (params.find? key).or (endpoint.params.find? key)
  of_auth : ∀ name header value, connector.definition.auth.SuppliesHeader header value →
    Text.equalFold header name = true → entries request.headers name = [(header, value)]
  /-- Of the spellings that an endpoint has of a name, the one whose bytes come last holds. -/
  of_endpoint : ∀ name, connector.definition.auth.LeavesHeader name →
    entries endpoint.headers name ≠ [] →
    ∃ chosen ∈ entries endpoint.headers name,
      (∀ other ∈ entries endpoint.headers name,
        other = chosen ∨ Utf8.encode other.1 < Utf8.encode chosen.1) ∧
      entries request.headers name = [chosen]
  of_connector : ∀ name, connector.definition.auth.LeavesHeader name →
    entries endpoint.headers name = [] →
    entries request.headers name = entries connector.definition.headers name

variable {connector : Connector} {name : String} {endpoint : Endpoint} {params : Table Json}

theorem urlOf_eq (connector : Connector) (path : String) :
    ∃ base rest back front,
      connector.definition.baseUrl = base ++ slashes back ∧ base.toList.getLast? ≠ some '/' ∧
        path = slashes front ++ rest ∧ rest.toList.head? ≠ some '/' ∧
        connector.urlOf path = base ++ "/" ++ rest := by
  obtain ⟨back, hback, hlast⟩ :=
    eq_replicate_append_dropWhile connector.definition.baseUrl.toList.reverse
  obtain ⟨front, hfront, hfirst⟩ := eq_replicate_append_dropWhile path.toList
  refine ⟨connector.trimmedBase, String.ofList (path.toList.dropWhile (· == '/')), back, front,
    ?_, ?_, ?_, ?_, rfl⟩
  · have hbase := congrArg List.reverse hback
    rw [List.reverse_reverse, List.reverse_append, List.reverse_replicate] at hbase
    rw [← String.toList_inj, String.toList_append, trimmedBase, slashes, String.toList_ofList,
      String.toList_ofList]
    exact hbase
  · rwa [trimmedBase, String.toList_ofList, List.getLast?_reverse]
  · rwa [← String.toList_inj, String.toList_append, slashes, String.toList_ofList,
      String.toList_ofList]
  · rwa [String.toList_ofList]

theorem entries_prepared (connector : Connector) (endpoint : Endpoint) (name : String) :
    entries (merge (merge connector.definition.headers endpoint.headers)
        connector.definition.auth.headers) name =
      if entries connector.definition.auth.headers name = [] then
        ((entries endpoint.headers name).getLast?.map fun last => [last]).getD
          (entries connector.definition.headers name)
      else entries connector.definition.auth.headers name := by
  rw [entries_merge _ (Auth.isUnique_headers _), entries_merge_last]

theorem merges_prepared (connector : Connector) {endpoint : Endpoint} {params : Table Json}
    (hheaders : endpoint.headers.IsOrdered) (hown : endpoint.params.IsOrdered)
    (hparams : params.IsOrdered) :
    connector.Merges endpoint params
      { url := connector.urlOf endpoint.path, method := endpoint.method,
        headers := merge (merge connector.definition.headers endpoint.headers)
          connector.definition.auth.headers,
        params := (endpoint.params.overlay params).overlay connector.definition.auth.queryParams,
        body := endpoint.body } where
  url_eq := urlOf_eq connector endpoint.path
  method_eq := rfl
  body_eq := rfl
  params_isOrdered := (hown.overlay params).overlay _
  param_of_auth key value hsupplies := by
    rw [Table.find?_overlay (Auth.isOrdered_queryParams _),
      Auth.find?_queryParams_iff.2 hsupplies, Option.some_or]
  param_of_call key hleaves := by
    have hnone : connector.definition.auth.queryParams.find? key = none := by
      rw [Option.eq_none_iff_forall_ne_some]
      exact fun value hfound => hleaves value (Auth.find?_queryParams_iff.1 hfound)
    rw [Table.find?_overlay (Auth.isOrdered_queryParams _), Table.find?_overlay hparams, hnone,
      Option.none_or]
  of_auth name header value hsupplies hname := by
    rw [entries_prepared, Auth.entries_headers hsupplies hname, if_neg (List.cons_ne_nil _ _)]
  of_endpoint name hauth hendpoint := by
    obtain ⟨chosen, hchosen⟩ :=
      Option.ne_none_iff_exists'.1 (List.getLast?_eq_none_iff.not.2 hendpoint)
    refine ⟨chosen, List.mem_of_getLast? hchosen, fun other hother => ?_, ?_⟩
    · exact (Table.IsOrdered.lt_getLast (hheaders.filter _) hchosen other hother).imp_right
        Utf8.encode_lt_encode
    · rw [entries_prepared, if_pos (Auth.entries_headers_eq_nil_iff.2 hauth), hchosen]
      rfl
  of_connector name hauth hendpoint := by
    rw [entries_prepared, if_pos (Auth.entries_headers_eq_nil_iff.2 hauth), hendpoint]
    rfl

/-- A call has a request if and only if there is an endpoint of its name, and the request merges
what there is for it. -/
theorem prepare_merges (connector : Connector) (name : String) (params : Table Json)
    (hparams : params.IsOrdered) :
    (∀ error, connector.prepare name params = .error error ↔
      name ∉ connector.endpointNames ∧ error = .endpointNotFound name) ∧
    ∀ endpoint, connector.definition.endpoint? name = some endpoint →
      endpoint.headers.IsOrdered → endpoint.params.IsOrdered →
      ∃ request, connector.prepare name params = .ok request ∧
        connector.Merges endpoint params request := by
  have hnames : name ∈ connector.endpointNames ↔
      (connector.definition.endpoint? name).isSome = true := Table.has_iff.symm
  unfold prepare Connector.endpoint
  rw [hnames]
  cases hendpoint : connector.definition.endpoint? name with
  | none =>
      refine ⟨fun error => ⟨fun herror => ⟨by simp, ?_⟩, ?_⟩, fun endpoint hsome => ?_⟩
      · exact (Except.error.inj herror).symm
      · rintro ⟨-, rfl⟩
        rfl
      · cases hsome
  | some endpoint =>
      refine ⟨fun error => ⟨fun herror => ?_, fun h => absurd rfl h.1⟩, ?_⟩
      · cases herror
      · rintro _ ⟨rfl⟩ hheaders hown
        exact ⟨_, rfl, merges_prepared connector hheaders hown hparams⟩

/-- An endpoint with three spellings of one name, under an API key that stands in the query. -/
theorem prepare_merges_sample :
    let endpoint : Endpoint :=
      { Endpoint.new "//items" with
        headers := [("X-A", "1"), ("X-a", "2"), ("x-A", "3")], params := [("page", .null)] }
    let definition : Definition :=
      { Definition.new "rest" "https://host/api//" with
        auth := .apiKeyQuery "secret" "key", endpoints := [("items", endpoint)],
        headers := [("X-A", "0")] }
    let connector : Connector := ⟨definition, none⟩
    let params : Table Json := [("key", .null), ("page", .bool true)]
    ∃ request, connector.prepare "items" params = .ok request ∧
      connector.Merges endpoint params request ∧
      entries request.headers "x-a" = [("x-A", "3")] := by
  intro endpoint definition connector params
  obtain ⟨request, hrequest, hmerges⟩ :=
    (prepare_merges connector "items" params (by decide)).2 endpoint rfl (by decide) (by decide)
  refine ⟨request, hrequest, hmerges, ?_⟩
  have hentries : entries endpoint.headers "x-a" = endpoint.headers := by decide
  have hown := hmerges.of_endpoint "x-a" (Auth.entries_headers_eq_nil_iff.1 rfl)
  rw [hentries] at hown
  obtain ⟨chosen, hchosen, hlast, heq⟩ := hown (by decide)
  have hgreatest : chosen = ("x-A", "3") := by
    have hnone : ∀ header ∈ endpoint.headers, ¬ Utf8.encode "x-A" < Utf8.encode header.1 := by
      decide
    exact ((hlast ("x-A", "3") (by decide)).resolve_right (hnone chosen hchosen)).symm
  rw [heq, hgreatest]

end Connector

end ApiBridge
