import ApiBridge.Auth
import ApiBridge.Proofs.Http.Header

namespace ApiBridge.Auth

open Http Header

/-- The header that credentials supply to a request, with its value: a token stands behind the word
`Bearer`, and a key is the value itself. -/
inductive SuppliesHeader : Auth → String → String → Prop
  | bearer (token : String) : SuppliesHeader (.bearer token) "Authorization" ("Bearer " ++ token)
  | apiKey (key headerName queryParam : String) :
      SuppliesHeader (.apiKey key .header headerName queryParam) headerName key

/-- The query parameter that credentials supply to a request, with its value. -/
inductive SuppliesParam : Auth → String → Json → Prop
  | apiKey (key headerName queryParam : String) :
      SuppliesParam (.apiKey key .query headerName queryParam) queryParam (.string key)

/-- Whether credentials supply no header of a name. -/
def LeavesHeader (auth : Auth) (name : String) : Prop :=
  ∀ header value, auth.SuppliesHeader header value → Text.equalFold header name = false

variable {auth : Auth} {header value name key : String}

theorem headers_eq_singleton_iff :
    auth.headers = [(header, value)] ↔ auth.SuppliesHeader header value := by
  constructor
  · intro hheaders
    unfold headers at hheaders
    split at hheaders
    · obtain ⟨rfl, rfl⟩ := Prod.mk.inj (List.singleton_inj.1 hheaders)
      exact .bearer _
    · obtain ⟨rfl, rfl⟩ := Prod.mk.inj (List.singleton_inj.1 hheaders)
      exact .apiKey _ _ _
    · simp at hheaders
  · rintro (token | ⟨key, headerName, queryParam⟩) <;> rfl

theorem SuppliesHeader.ne_basic (h : auth.SuppliesHeader header value)
    (username password : String) : auth ≠ .basic username password := by
  cases h <;> simp

theorem basicHeader?_eq_none_iff :
    auth.basicHeader? = Option.none ↔ ∀ username password, auth ≠ .basic username password := by
  cases auth <;> simp [basicHeader?]

theorem headers_cases (auth : Auth) :
    auth.headers = [] ∨ ∃ header value, auth.headers = [(header, value)] := by
  unfold headers
  split <;> simp

theorem isUnique_headers (auth : Auth) : IsUnique auth.headers := by
  rcases auth.headers_cases with hheaders | ⟨header, value, hheaders⟩ <;>
    simp [hheaders, IsUnique]

theorem entries_headers (hsupplies : auth.SuppliesHeader header value)
    (hname : Text.equalFold header name = true) :
    entries auth.headers name = [(header, value)] := by
  rw [headers_eq_singleton_iff.2 hsupplies, entries_cons, if_pos hname]
  rfl

theorem entries_headers_eq_nil_iff : entries auth.headers name = [] ↔ auth.LeavesHeader name := by
  constructor
  · intro hnone header value hsupplies
    refine Bool.eq_false_iff.2 fun hname => ?_
    rw [entries_headers hsupplies hname] at hnone
    exact List.cons_ne_nil _ _ hnone
  · intro hleaves
    rcases auth.headers_cases with hheaders | ⟨header, value, hheaders⟩
    · rw [hheaders]
      rfl
    · rw [hheaders, entries_cons, hleaves _ _ (headers_eq_singleton_iff.1 hheaders)]
      rfl

theorem find?_queryParams_iff {given : Json} :
    auth.queryParams.find? key = some given ↔ auth.SuppliesParam key given := by
  constructor
  · intro hfound
    unfold queryParams at hfound
    split at hfound
    · rw [Table.find?] at hfound
      split at hfound
      · next hkey =>
          obtain rfl := Option.some.inj hfound
          exact hkey ▸ .apiKey _ _ _
      · simp [Table.find?] at hfound
    · simp [Table.find?] at hfound
  · rintro ⟨key, headerName, queryParam⟩
    exact if_pos rfl

theorem isOrdered_queryParams (auth : Auth) : auth.queryParams.IsOrdered := by
  unfold queryParams
  split <;> simp [Table.IsOrdered]

end ApiBridge.Auth
