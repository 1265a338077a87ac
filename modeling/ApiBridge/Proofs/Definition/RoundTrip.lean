import ApiBridge.Definition.Check
import ApiBridge.Proofs.Document

namespace ApiBridge

open Document

namespace Auth

/-- The members that credentials are written with, in the order of their keys. -/
def texts : Auth → Table String
  | .none => [("type", "none")]
  | .basic username password =>
      [("password", password), ("type", "basic"), ("username", username)]
  | .bearer token => [("token", token), ("type", "bearer")]
  | .apiKey key location headerName queryParam =>
      [("header_name", headerName), ("key", key), ("location", location.name),
        ("query_param", queryParam), ("type", "api_key")]

theorem encode_eq (auth : Auth) : auth.encode = Json.ofTexts auth.texts := by
  cases auth <;>
    simp (disch := decide) only [encode, typeName, texts, Json.ofTexts, Json.ofPairs,
      Table.ofPairs, List.foldl_cons, List.foldl_nil, Table.put_nil, Table.put_of_lt,
      Table.put_of_gt, List.map_cons, List.map_nil]

theorem decode?_encode (auth : Auth) : decode? auth.encode = some auth := by
  rw [encode_eq]
  cases auth with
  | apiKey key location headerName queryParam => cases location <;> rfl
  | _ => rfl

theorem readsBack : ReadsBack decode? encode := by
  refine ⟨fun {_ auth} _ _ => auth.decode?_encode, fun {_ auth} _ _ => ?_, fun _ _ _ => rfl⟩
  rw [encode_eq]
  exact Json.isRegular_ofTexts auth.texts

end Auth

namespace Http.Method

theorem readsBack : ReadsBack decode? fun method => .string method.name :=
  .oneOf fun method => by cases method <;> rfl

end Http.Method

namespace Pagination.Spec

def fields (spec : Spec) : List (String × Option Json) :=
  [("data_path", spec.dataPath.map .string), ("next_page_path", spec.nextPagePath.map .string),
    ("page_param", some (.string spec.pageParam)), ("max_pages", some (.ofNat spec.maxPages))]

theorem encode_eq : encode = fun spec => Json.ofFields spec.fields := by
  funext spec
  simp [encode, Json.ofFields, fields]

theorem readsBack : ReadsBack decode? encode := by
  rw [encode_eq]
  unfold decode?
  apply ReadsBack.record
  · intro spec
    change Fits _ ["data_path", "next_page_path", "page_param", "max_pages"]
    decide
  · intro values spec hvalues hread
    split at hread
    · simp only [Option.bind_eq_bind, Option.bind_eq_some_iff, Option.pure_def,
        Option.some.injEq] at hread
      simp only [List.forall_mem_cons] at hvalues
      obtain ⟨_, hdata, _, hnext, _, hparam, _, hmax, rfl⟩ := hread
      obtain ⟨hdataField, hnextField, hparamField, hmaxField, -⟩ := hvalues
      obtain ⟨hdata, hdataField⟩ := ReadsBack.text.optional hdataField hdata
      obtain ⟨hnext, hnextField⟩ := ReadsBack.text.optional hnextField hnext
      obtain ⟨hparam, hparamField⟩ := ReadsBack.text_withDefault _ hparamField hparam
      obtain ⟨hmax, hmaxField⟩ :=
        ReadsBack.below_withDefault (by decide) (by decide) hmaxField hmax
      constructor
      · simp only [fields, List.map_cons, List.map_nil, hdata, hnext, hparam, hmax,
          Option.bind_eq_bind, Option.bind_some, Option.pure_def]
      · simp only [fields, List.forall_mem_cons]
        exact ⟨hdataField, hnextField, hparamField, hmaxField, fun _ hfield => nomatch hfield⟩
    · exact nomatch hread

end Pagination.Spec

namespace RateLimit

theorem Strategy.lookup_name (strategy : Strategy) :
    Strategy.choices.lookup strategy.name = some strategy := by
  cases strategy <;> rfl

namespace Spec

def fields (spec : Spec) : List (String × Option Json) :=
  [("strategy", some (.string spec.strategy.name)), ("rate", some (.ofBinary64 spec.rate)),
    ("burst", some (.ofOption .ofNat spec.burst))]

theorem encode_eq : encode = fun spec => Json.ofFields spec.fields := by
  funext spec
  simp [encode, Json.ofFields, fields]

theorem readsBack : ReadsBack decode? encode := by
  rw [encode_eq]
  unfold decode?
  apply ReadsBack.record
  · intro spec
    change Fits _ ["strategy", "rate", "burst"]
    decide
  · intro values spec hvalues hread
    split at hread
    · simp only [Option.bind_eq_bind, Option.bind_eq_some_iff, Option.pure_def,
        Option.some.injEq] at hread
      simp only [List.forall_mem_cons] at hvalues
      obtain ⟨_, hstrategy, _, hrate, _, hburst, rfl⟩ := hread
      obtain ⟨hstrategyField, hrateField, hburstField, -⟩ := hvalues
      obtain ⟨hstrategy, hstrategyField⟩ :=
        (ReadsBack.oneOf Strategy.lookup_name).withDefault (.string _) rfl hstrategyField hstrategy
      obtain ⟨hrate, hrateField⟩ := ReadsBack.number.required hrateField hrate
      obtain ⟨hburst, hburstField⟩ := (ReadsBack.below _).nullable hburstField hburst
      constructor
      · simp only [fields, List.map_cons, List.map_nil, hstrategy, hrate, hburst,
          Option.bind_eq_bind, Option.bind_some, Option.pure_def]
      · simp only [fields, List.forall_mem_cons]
        exact ⟨hstrategyField, hrateField, hburstField, fun _ hfield => nomatch hfield⟩
    · exact nomatch hread

end Spec

end RateLimit

namespace EventStream.Settings

def fields (settings : Settings) : List (String × Option Json) :=
  [("max_events", settings.maxEvents.map .ofNat), ("reconnect", settings.reconnect.map .bool),
    ("reconnect_delay", settings.reconnectDelay.map .ofBinary64),
    ("max_reconnect_attempts", settings.maxReconnectAttempts.map .ofNat),
    ("read_timeout", settings.readTimeout.map .ofBinary64),
    ("decode_json", settings.decodeJson.map .bool), ("chunk_size", settings.chunkSize.map .ofNat),
    ("backpressure_buffer_size", settings.bufferSize.map .ofNat),
    ("drop_policy", settings.dropPolicy.map .string)]

theorem encode_eq : encode = fun settings => Json.ofFields settings.fields := by
  funext settings
  simp [encode, Json.ofFields, fields]

theorem readsBack : ReadsBack decode? encode := by
  rw [encode_eq]
  unfold decode?
  apply ReadsBack.record
  · intro settings
    change Fits _ ["max_events", "reconnect", "reconnect_delay", "max_reconnect_attempts",
      "read_timeout", "decode_json", "chunk_size", "backpressure_buffer_size", "drop_policy"]
    decide
  · intro values settings hvalues hread
    split at hread
    · simp only [Option.bind_eq_bind, Option.bind_eq_some_iff, Option.pure_def,
        Option.some.injEq] at hread
      simp only [List.forall_mem_cons] at hvalues
      obtain ⟨_, hmax, _, hreconnect, _, hdelay, _, hattempts, _, htimeout, _, hdecode, _, hchunk,
        _, hbuffer, _, hpolicy, rfl⟩ := hread
      obtain ⟨hmaxField, hreconnectField, hdelayField, hattemptsField, htimeoutField,
        hdecodeField, hchunkField, hbufferField, hpolicyField, -⟩ := hvalues
      obtain ⟨hmax, hmaxField⟩ := ReadsBack.natural.optional hmaxField hmax
      obtain ⟨hreconnect, hreconnectField⟩ := ReadsBack.flag.optional hreconnectField hreconnect
      obtain ⟨hdelay, hdelayField⟩ := ReadsBack.number.optional hdelayField hdelay
      obtain ⟨hattempts, hattemptsField⟩ :=
        (ReadsBack.below _).optional hattemptsField hattempts
      obtain ⟨htimeout, htimeoutField⟩ := ReadsBack.number.optional htimeoutField htimeout
      obtain ⟨hdecode, hdecodeField⟩ := ReadsBack.flag.optional hdecodeField hdecode
      obtain ⟨hchunk, hchunkField⟩ := ReadsBack.natural.optional hchunkField hchunk
      obtain ⟨hbuffer, hbufferField⟩ := ReadsBack.natural.optional hbufferField hbuffer
      obtain ⟨hpolicy, hpolicyField⟩ := ReadsBack.text.optional hpolicyField hpolicy
      constructor
      · simp only [fields, List.map_cons, List.map_nil, hmax, hreconnect, hdelay, hattempts,
          htimeout, hdecode, hchunk, hbuffer, hpolicy, Option.bind_eq_bind, Option.bind_some,
          Option.pure_def]
      · simp only [fields, List.forall_mem_cons]
        exact ⟨hmaxField, hreconnectField, hdelayField, hattemptsField, htimeoutField,
          hdecodeField, hchunkField, hbufferField, hpolicyField, fun _ hfield => nomatch hfield⟩
    · exact nomatch hread

end EventStream.Settings

namespace Endpoint

def fields (endpoint : Endpoint) : List (String × Option Json) :=
  [("path", some (.string endpoint.path)), ("method", some (.string endpoint.method.name)),
    ("params", some (.object (endpoint.params.map fun (key, value) => (key, id value)))),
    ("headers", some (.ofTexts endpoint.headers)), ("body_template", endpoint.body.map id),
    ("pagination", endpoint.pagination.map Pagination.Spec.encode),
    ("response_path", endpoint.responsePath.map .string),
    ("request_schema", endpoint.requestSchema.map id),
    ("response_schema", endpoint.responseSchema.map id),
    ("rate_limit", endpoint.rateLimit.map RateLimit.Spec.encode),
    ("sse", endpoint.stream.map EventStream.Settings.encode)]

theorem encode_eq : encode = fun endpoint => Json.ofFields endpoint.fields := by
  funext endpoint
  simp [encode, Json.ofFields, fields]

theorem readsBack : ReadsBack decode? encode := by
  rw [encode_eq]
  unfold decode?
  apply ReadsBack.record
  · intro endpoint
    change Fits _ ["path", "method", "params", "headers", "body_template", "pagination",
      "response_path", "request_schema", "response_schema", "rate_limit", "sse"]
    decide
  · intro values endpoint hvalues hread
    split at hread
    · simp only [Option.bind_eq_bind, Option.bind_eq_some_iff, Option.pure_def,
        Option.some.injEq] at hread
      simp only [List.forall_mem_cons] at hvalues
      obtain ⟨_, hpath, _, hmethod, _, hparams, _, hheaders, _, hbody, _, hpages, _, hresponse, _,
        hrequested, _, hanswered, _, hrate, _, hstream, rfl⟩ := hread
      obtain ⟨hpathField, hmethodField, hparamsField, hheadersField, hbodyField, hpagesField,
        hresponseField, hrequestedField, hansweredField, hrateField, hstreamField, -⟩ := hvalues
      obtain ⟨hpath, hpathField⟩ := ReadsBack.text.required hpathField hpath
      obtain ⟨hmethod, hmethodField⟩ :=
        Http.Method.readsBack.withDefault (.string _) rfl hmethodField hmethod
      obtain ⟨hparams, hparamsField⟩ := ReadsBack.json.table_withDefault hparamsField hparams
      obtain ⟨hheaders, hheadersField⟩ := ReadsBack.text.table_withDefault hheadersField hheaders
      obtain ⟨hbody, hbodyField⟩ := ReadsBack.json.optional hbodyField hbody
      obtain ⟨hpages, hpagesField⟩ := Pagination.Spec.readsBack.optional hpagesField hpages
      obtain ⟨hresponse, hresponseField⟩ := ReadsBack.text.optional hresponseField hresponse
      obtain ⟨hrequested, hrequestedField⟩ := ReadsBack.json.optional hrequestedField hrequested
      obtain ⟨hanswered, hansweredField⟩ := ReadsBack.json.optional hansweredField hanswered
      obtain ⟨hrate, hrateField⟩ := RateLimit.Spec.readsBack.optional hrateField hrate
      obtain ⟨hstream, hstreamField⟩ :=
        EventStream.Settings.readsBack.optional hstreamField hstream
      constructor
      · simp only [fields, List.map_cons, List.map_nil, Json.ofTexts, hpath, hmethod, hparams,
          hheaders, hbody, hpages, hresponse, hrequested, hanswered, hrate, hstream,
          Option.bind_eq_bind, Option.bind_some, Option.pure_def]
      · simp only [fields, List.forall_mem_cons]
        exact ⟨hpathField, hmethodField, hparamsField, hheadersField, hbodyField, hpagesField,
          hresponseField, hrequestedField, hansweredField, hrateField, hstreamField,
          fun _ hfield => nomatch hfield⟩
    · exact nomatch hread

end Endpoint

namespace Definition

def fields (definition : Definition) : List (String × Option Json) :=
  [("type", some (.string definition.kind)), ("base_url", some (.string definition.baseUrl)),
    ("auth", some definition.auth.encode),
    ("endpoints", some (.object (definition.endpoints.map fun (name, endpoint) =>
      (name, endpoint.encode)))),
    ("timeout_secs", some (.ofBinary64 definition.timeoutSeconds)),
    ("retry_count", some (.ofNat definition.retryCount)),
    ("retry_delay_secs", some (.ofBinary64 definition.retryDelaySeconds)),
    ("default_headers", some (.ofTexts definition.headers))]

theorem encode_eq : encode = fun definition => Json.ofFields definition.fields := by
  funext definition
  simp [encode, Json.ofFields, fields]

theorem readsBack : ReadsBack decode? encode := by
  rw [encode_eq]
  unfold decode?
  apply ReadsBack.record
  · intro definition
    change Fits _ ["type", "base_url", "auth", "endpoints", "timeout_secs", "retry_count",
      "retry_delay_secs", "default_headers"]
    decide
  · intro values definition hvalues hread
    split at hread
    · simp only [Option.bind_eq_bind, Option.bind_eq_some_iff, Option.pure_def,
        Option.some.injEq] at hread
      simp only [List.forall_mem_cons] at hvalues
      obtain ⟨_, hkind, _, hurl, _, hauth, _, hendpoints, _, htimeout, _, hcount, _, hdelay, _,
        hheaders, rfl⟩ := hread
      obtain ⟨hkindField, hurlField, hauthField, hendpointsField, htimeoutField, hcountField,
        hdelayField, hheadersField, -⟩ := hvalues
      obtain ⟨hkind, hkindField⟩ := ReadsBack.text_withDefault _ hkindField hkind
      obtain ⟨hurl, hurlField⟩ := ReadsBack.text.required hurlField hurl
      obtain ⟨hauth, hauthField⟩ := Auth.readsBack.withDefault
        (Auth.encode_eq .none ▸ Json.isRegular_ofTexts _) (Auth.decode?_encode _) hauthField hauth
      obtain ⟨hendpoints, hendpointsField⟩ :=
        Endpoint.readsBack.table_withDefault hendpointsField hendpoints
      obtain ⟨htimeout, htimeoutField⟩ :=
        ReadsBack.number_withDefault (by decide +kernel) htimeoutField htimeout
      obtain ⟨hcount, hcountField⟩ :=
        ReadsBack.below_withDefault (by decide) (by decide) hcountField hcount
      obtain ⟨hdelay, hdelayField⟩ :=
        ReadsBack.number_withDefault (by decide +kernel) hdelayField hdelay
      obtain ⟨hheaders, hheadersField⟩ := ReadsBack.text.table_withDefault hheadersField hheaders
      constructor
      · simp only [fields, List.map_cons, List.map_nil, Json.ofTexts, hkind, hurl, hauth,
          hendpoints, htimeout, hcount, hdelay, hheaders, Option.bind_eq_bind, Option.bind_some,
          Option.pure_def]
      · simp only [fields, List.forall_mem_cons]
        exact ⟨hkindField, hurlField, hauthField, hendpointsField, htimeoutField, hcountField,
          hdelayField, hheadersField, fun _ hfield => nomatch hfield⟩
    · exact nomatch hread

theorem read_write_of_parse? {text : String} {node : Json} {definition : Definition}
    (hparse : Json.parse? text = some node) (hdecode : decode? node = some definition) :
    decode? definition.encode = some definition :=
  readsBack.read_write (Json.isRegular_of_parse? hparse) hdecode

/-- A definition that has been read from a value is read again, as it is, from the value that it is
written as. So writing it once more changes nothing, and the check says the same of both. -/
theorem decode?_encode_of_decode? {node : Json} {definition : Definition} (hnode : node.IsRegular)
    (hdecode : decode? node = some definition) :
    definition.encode.IsRegular ∧ decode? definition.encode = some definition ∧
      (decode? definition.encode).map encode = some definition.encode ∧
      (decode? definition.encode).map check = some definition.check := by
  have hagain := readsBack.read_write hnode hdecode
  refine ⟨readsBack.isRegular hnode hdecode, hagain, ?_, ?_⟩
  · rw [hagain]
    rfl
  · rw [hagain]
    rfl

/-- Other names and spellings, a default left out, an explicit null and an unknown field. -/
theorem decode?_encode_aliases :
    let endpoint : Json := .object [("body_template", .null), ("method", .string "post"),
      ("path", .string "/x"), ("rate_limit", .object [("rate", .ofNat 2)])]
    let node : Json := .object [("base_url", .string "http://api.test"),
      ("connector_type", .string "rest"), ("endpoints", .object [("a", endpoint)]),
      ("headers", .object [("x-trace", .string "1")]), ("timeout", .ofNat 5),
      ("unknown", .array [])]
    ∃ definition, node.IsRegular ∧ decode? node = some definition ∧
      definition.headers = [("x-trace", "1")] ∧ definition.retryCount = 3 ∧
      decode? definition.encode = some definition := by
  intro endpoint node
  have hnode : node.IsRegular := by
    simp [node, endpoint, Json.isRegular_ofNat, UInt64.size]
  have hdecode : (decode? node).any (fun definition =>
      definition.headers == [("x-trace", "1")] && definition.retryCount == 3) = true := by
    decide +kernel
  obtain ⟨definition, hdefinition, htest⟩ := (Option.any_eq_true _ _).1 hdecode
  simp only [Bool.and_eq_true, beq_iff_eq] at htest
  obtain ⟨hheaders, hcount⟩ := htest
  exact ⟨definition, hnode, hdefinition, hheaders, hcount,
    (decode?_encode_of_decode? hnode hdefinition).2.1⟩

end Definition

end ApiBridge
