import ApiBridge.Http.Request
import ApiBridge.Proofs.Http.Header

namespace ApiBridge.Http

namespace Request

/-- The credentials in the URL of a request. -/
def userValue? (request : Request) : Option String :=
  ((Url.parse request.url).toOption.bind Url.user?).map fun user =>
    Auth.basicValue user.1 (user.2.getD "")

/-- The headers of a message about which its request says nothing. -/
def defaults (request : Request) : List (String × String) :=
  ("accept", "*/*") :: ("user-agent", Outgoing.userAgent) ::
    if request.body.isSome then [("content-type", "application/json")] else []

/-- Where the message for a request goes, given the URL of the request. -/
def target (request : Request) (url : Url) : Url :=
  url.withoutUser.addQuery
    (request.params.filterMap fun (key, value) => value.queryText?.map fun text => (key, text))

/-- Where the message for a request goes, if it can be sent there. -/
def target? (request : Request) : Option Url :=
  match Url.parse request.url with
  | .ok url =>
      if url.hasHost && (request.target url).isSendable then some (request.target url) else none
  | .error _ => none

def isLegal (request : Request) : Bool :=
  request.headers.all fun header => Header.isLegal header.1 header.2

theorem isLegal_put {request : Request} {name value : String} (h : request.isLegal = true)
    (hheader : Header.isLegal name value = true) :
    isLegal { request with headers := request.headers.put name value } = true := by
  refine List.all_eq_true.2 fun header hmem => ?_
  rcases Table.mem_put hmem with rfl | hold
  · exact hheader
  · exact List.all_eq_true.1 h header hold

theorem isLegal_of_isLegal_put {request : Request} {name value : String}
    (h : isLegal { request with headers := request.headers.put name value } = true) :
    Header.isLegal name value = true :=
  List.all_eq_true.1 h (name, value) (Table.self_mem_put name value request.headers)

end Request

namespace Outgoing

open Header

/-- The headers of a message that its request and the credentials ask for. -/
def asked (request : Request) (auth : Auth) : List (String × String) :=
  (request.userValue?.toList.map fun value => ("authorization", value)) ++
    (request.headers.map fun header => (lowerName header.1, header.2)) ++
    auth.basicHeader?.toList.map fun value => ("authorization", value)

/-- The message for a request, with the headers that are asked for and defaults for the others. -/
def message (request : Request) (auth : Auth) (target : Url) : Outgoing where
  method := request.method
  url := target
  headers := request.defaults.foldl (fun headers header => orElse headers header.1 header.2)
    (asked request auth)
  body := request.body.map Json.compact

theorem toOption_ofRequest (request : Request) (auth : Auth) :
    (ofRequest request auth).toOption =
      if request.isLegal then request.target?.map (message request auth) else none := by
  unfold ofRequest Request.target?
  cases hparse : Url.parse request.url with
  | error reason =>
      rw [Option.map_none, ite_self]
      rfl
  | ok url =>
      change Except.toOption (if (!url.hasHost) = true then _
        else if (!request.isLegal) = true then _
        else if (!(request.target url).isSendable) = true then _ else _) = _
      by_cases hhost : url.hasHost = true
      · by_cases hlegal : request.isLegal = true
        · by_cases hsendable : (request.target url).isSendable = true
          · simp only [hhost, hlegal, hsendable, Bool.not_true, Bool.false_eq_true, if_false,
              if_true, Bool.and_self, Option.map_some]
            unfold message asked Request.defaults Request.userValue?
            rw [hparse]
            change some _ = some _
            cases hbody : request.body <;> cases huser : url.user? <;>
              simp only [Except.toOption, Option.bind_some, huser] <;> rfl
          · simp [hhost, hlegal, hsendable]
            rfl
        · simp [hhost, hlegal]
          rfl
      · simp [hhost]
        rfl

theorem ofRequest_eq_ok {request : Request} {auth : Auth} {outgoing : Outgoing} :
    ofRequest request auth = .ok outgoing ↔
      request.isLegal = true ∧ ∃ target, request.target? = some target ∧
        message request auth target = outgoing := by
  have hmessage : ofRequest request auth = .ok outgoing ↔
      (ofRequest request auth).toOption = some outgoing := by
    cases ofRequest request auth <;> simp [Except.toOption]
  rw [hmessage, toOption_ofRequest, Option.ite_none_right_eq_some, Option.map_eq_some_iff]

theorem toList_lowerName (name : String) :
    (lowerName name).toList = name.toList.map Char.toLower :=
  String.toList_ofList

theorem toLower_toLower (c : Char) : c.toLower.toLower = c.toLower := by
  unfold Char.toLower
  grind

theorem lowerName_lowerName (name : String) : lowerName (lowerName name) = lowerName name := by
  rw [lowerName, toList_lowerName, List.map_map]
  exact congrArg String.ofList (List.map_congr_left fun c _ => toLower_toLower c)

theorem equalFold_lowerName (name other : String) :
    Text.equalFold (lowerName name) other = Text.equalFold name other := by
  refine Text.equalFold_congr (Text.equalFold_iff.2 ?_) other
  rw [← toList_lowerName, lowerName_lowerName, toList_lowerName]

theorem eq_of_equalFold {name other : String} (hname : lowerName name = name)
    (hother : lowerName other = other) (hsame : Text.equalFold name other = true) :
    name = other := by
  rw [← hname, ← hother]
  exact congrArg String.ofList (Text.equalFold_iff.1 hsame)

theorem entries_orElse {headers : List (String × String)}
    (hlower : ∀ header ∈ headers, lowerName header.1 = header.1) {name : String}
    (hname : lowerName name = name) (value other : String) :
    entries (orElse headers name value) other =
      if Text.equalFold name other ∧ entries headers other = [] then [(name, value)]
      else entries headers other := by
  have hany : headers.any (fun header => header.1 == name) = true ↔ entries headers name ≠ [] := by
    rw [← any_equalFold, List.any_eq_true, List.any_eq_true]
    refine exists_congr fun header => and_congr_right fun hheader => ?_
    rw [beq_iff_eq]
    exact ⟨fun hsame => hsame ▸ Text.equalFold_refl _,
      eq_of_equalFold (hlower header hheader) hname⟩
  have hadded : entries (headers ++ [(name, value)]) other =
      entries headers other ++ if Text.equalFold name other then [(name, value)] else [] := by
    rw [entries_append, entries_cons]
    rfl
  by_cases hsame : Text.equalFold name other = true
  · rw [entries_congr hsame] at hany
    unfold orElse
    by_cases hnone : entries headers other = []
    · rw [if_neg (fun hthere => hany.1 hthere hnone), hadded, if_pos hsame, hnone,
        if_pos ⟨hsame, rfl⟩]
      rfl
    · rw [if_pos (hany.2 hnone), if_neg fun hboth => hnone hboth.2]
  · rw [if_neg fun hboth => hsame hboth.1]
    unfold orElse
    split
    · rfl
    · rw [hadded, if_neg hsame, List.append_nil]

theorem lower_orElse {headers : List (String × String)}
    (hlower : ∀ header ∈ headers, lowerName header.1 = header.1) {name : String}
    (hname : lowerName name = name) (value : String) :
    ∀ header ∈ orElse headers name value, lowerName header.1 = header.1 := by
  unfold orElse
  split
  · exact hlower
  · exact List.forall_mem_append.2 ⟨hlower, List.forall_mem_singleton.2 hname⟩

theorem entries_defaults {headers defaults : List (String × String)}
    (hlower : ∀ header ∈ headers, lowerName header.1 = header.1)
    (hdefaults : ∀ header ∈ defaults, lowerName header.1 = header.1) (hunique : IsUnique defaults)
    (name : String) :
    entries (defaults.foldl (fun headers header => orElse headers header.1 header.2) headers) name =
      if entries headers name = [] then entries defaults name else entries headers name := by
  induction defaults generalizing headers with
  | nil =>
      split
      · next hnone => exact hnone
      · rfl
  | cons header rest ih =>
      obtain ⟨hheader, hrest⟩ := List.forall_mem_cons.1 hdefaults
      have hfirst := entries_orElse hlower hheader header.2 name
      rw [List.foldl_cons,
        ih (lower_orElse hlower hheader _) hrest (List.pairwise_cons.1 hunique).2, hfirst, entries_cons]
      by_cases hname : Text.equalFold header.1 name = true
      · rw [if_pos hname, entries_of_isUnique hunique hname]
        by_cases hnone : entries headers name = []
        · simp only [hname, hnone, and_self, if_true, List.cons_ne_nil, if_false]
        · simp only [hnone, and_false, if_false]
      · simp only [hname, Bool.false_eq_true, false_and, if_false]

theorem lower_asked (request : Request) (auth : Auth) :
    ∀ header ∈ asked request auth, lowerName header.1 = header.1 := by
  have hauthorization : lowerName "authorization" = "authorization" := by decide +kernel
  intro header hheader
  rcases List.mem_append.1 hheader with hheader | hheader
  · rcases List.mem_append.1 hheader with hheader | hheader
    · obtain ⟨value, -, rfl⟩ := List.mem_map.1 hheader
      exact hauthorization
    · obtain ⟨own, -, rfl⟩ := List.mem_map.1 hheader
      exact lowerName_lowerName _
  · obtain ⟨value, -, rfl⟩ := List.mem_map.1 hheader
    exact hauthorization

theorem values_own (headers : List (String × String)) (name : String) :
    values (headers.map fun header => (lowerName header.1, header.2)) name =
      values headers name := by
  have hsame : ((fun header : String × String => Text.equalFold header.1 name) ∘
      fun header : String × String => (lowerName header.1, header.2)) =
        fun header => Text.equalFold header.1 name :=
    funext fun header => equalFold_lowerName header.1 name
  rw [values, entries, List.filter_map, hsame, List.map_map]
  rfl

theorem values_authorization (value : Option String) (name : String) :
    values (value.toList.map fun value => ("authorization", value)) name =
      if Text.equalFold "authorization" name then value.toList else [] := by
  cases value with
  | none =>
      rw [Option.toList_none, ite_self]
      rfl
  | some value =>
      rw [values, Option.toList_some, List.map_singleton, entries_cons]
      split <;> rfl

/-- The values that are asked for under a name: those in the request, and under the name for
credentials also those of the URL before them, and basic credentials after them. -/
theorem values_asked (request : Request) (auth : Auth) (name : String) :
    values (asked request auth) name =
      (if Text.equalFold "authorization" name then request.userValue?.toList else []) ++
        values request.headers name ++
        if Text.equalFold "authorization" name then auth.basicHeader?.toList else [] := by
  rw [asked, values_append, values_append, values_authorization, values_own, values_authorization]

theorem isUnique_defaults (request : Request) : IsUnique request.defaults := by
  unfold Request.defaults
  split <;> decide +kernel

theorem values_of_ofRequest {request : Request} {auth : Auth} {outgoing : Outgoing}
    (houtgoing : ofRequest request auth = .ok outgoing) (name : String) :
    values outgoing.headers name =
      if values (asked request auth) name = [] then values request.defaults name
      else values (asked request auth) name := by
  obtain ⟨-, target, -, rfl⟩ := ofRequest_eq_ok.1 houtgoing
  have hlower : ∀ header ∈ request.defaults, lowerName header.1 = header.1 := by
    unfold Request.defaults
    split <;> decide +kernel
  have hentries := entries_defaults (lower_asked request auth) hlower
    (isUnique_defaults request) name
  unfold values message
  rw [hentries]
  by_cases hnone : entries (asked request auth) name = []
  · rw [if_pos hnone, if_pos (List.map_eq_nil_iff.2 hnone)]
  · rw [if_neg hnone, if_neg (mt List.map_eq_nil_iff.1 hnone)]

theorem values_of_asked {request : Request} {auth : Auth} {outgoing : Outgoing}
    (houtgoing : ofRequest request auth = .ok outgoing) {name : String}
    (hname : values (asked request auth) name ≠ [] ∨ values request.defaults name = []) :
    values outgoing.headers name = values (asked request auth) name := by
  rw [values_of_ofRequest houtgoing]
  split
  · next hnone =>
      rcases hname with hasked | hdefault
      · exact absurd hnone hasked
      · rw [hdefault, hnone]
  · rfl

theorem length_values_le_one {request : Request} {auth : Auth} {outgoing : Outgoing}
    (houtgoing : ofRequest request auth = .ok outgoing) {name : String}
    (hasked : (values (asked request auth) name).length ≤ 1) :
    (values outgoing.headers name).length ≤ 1 := by
  rw [values_of_ofRequest houtgoing]
  split
  · rw [values, List.length_map]
    exact length_entries_le_one (isUnique_defaults request) name
  · exact hasked

end Outgoing

end ApiBridge.Http
