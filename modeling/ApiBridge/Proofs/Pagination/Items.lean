import ApiBridge.Pagination.Walk
import ApiBridge.Proofs.Json.Access
import Mathlib.Data.List.Forall2

/-!
The items of a page, told apart from how a walk extracts them: what is found at the path to the
data, taken element by element if it is an array, and as the one item if it is none.
-/

namespace ApiBridge.Pagination

/-- The mappings that a value stands for: one for each element of an array, in their order, and
otherwise the one of the value itself. -/
inductive IsItems : Json → List (Table Json) → Prop
  | array {values : List Json} {items : List (Table Json)}
      (hitems : List.Forall₂ Json.IsMapping values items) : IsItems (.array values) items
  | single {value : Json} {item : Table Json} (harray : ∀ values, value ≠ .array values)
      (hitem : value.IsMapping item) : IsItems value [item]

theorem isItems_iff {value : Json} {items : List (Table Json)} :
    IsItems value items ↔ normalizeItems value = items := by
  constructor
  · rintro (hitems | ⟨harray, hitem⟩)
    · induction hitems with
      | nil => rfl
      | cons hitem _ ih => exact congrArg₂ List.cons (Json.isMapping_iff.1 hitem) ih
    · rw [← Json.isMapping_iff.1 hitem]
      cases value with
      | array values => exact absurd rfl (harray values)
      | _ => rfl
  · rintro rfl
    cases value with
    | array values =>
        refine .array (List.forall₂_map_right_iff.2 (List.forall₂_same.2 fun value _ => ?_))
        exact Json.isMapping_iff.2 rfl
    | _ => exact .single (fun _ => by simp) (Json.isMapping_iff.2 rfl)

namespace Spec

/-- The items of a page: those of the whole body or, where a path to the data is set, those of what
the body holds at it. -/
inductive HasItems (spec : Spec) (body : Json) : List (Table Json) → Prop
  | whole {items : List (Table Json)} (hpath : ∀ path, spec.dataPath = some path → path = "")
      (hitems : IsItems body items) : HasItems spec body items
  | inside {path : String} {found : Json} {items : List (Table Json)}
      (hpath : spec.dataPath = some path) (hset : path ≠ "") (hfound : body.HoldsAt path found)
      (hitems : IsItems found items) : HasItems spec body items

/-- Whether a path to the data is set and leads nowhere in a body. -/
def LacksItems (spec : Spec) (body : Json) : Prop :=
  ∃ path, spec.dataPath = some path ∧ path ≠ "" ∧ ∀ found, ¬ body.HoldsAt path found

variable {spec : Spec} {body : Json} {items : List (Table Json)}

theorem filter_dataPath_eq_none_iff :
    (spec.dataPath.filter fun path => !path.isEmpty) = none ↔
      ∀ path, spec.dataPath = some path → path = "" := by
  simp [Option.filter_eq_none_iff]

theorem filter_dataPath_eq_some_iff {path : String} :
    (spec.dataPath.filter fun path => !path.isEmpty) = some path ↔
      spec.dataPath = some path ∧ path ≠ "" := by
  simp [Option.filter_eq_some_iff]

theorem items?_eq_some_iff : spec.items? body = some items ↔ spec.HasItems body items := by
  constructor
  · intro hitems
    unfold items? at hitems
    split at hitems
    · next path hpath =>
        obtain ⟨hpath, hset⟩ := filter_dataPath_eq_some_iff.1 hpath
        obtain ⟨found, hfound, hitems⟩ := Option.map_eq_some_iff.1 hitems
        exact .inside hpath hset (Json.atPath?_eq_some_iff.1 hfound) (isItems_iff.2 hitems)
    · next hpath =>
        exact .whole (filter_dataPath_eq_none_iff.1 hpath) (isItems_iff.2 (Option.some.inj hitems))
  · rintro (⟨hpath, hitems⟩ | ⟨hpath, hset, hfound, hitems⟩)
    · simp only [items?, filter_dataPath_eq_none_iff.2 hpath, isItems_iff.1 hitems]
    · simp only [items?, filter_dataPath_eq_some_iff.2 ⟨hpath, hset⟩,
        Json.atPath?_eq_some_iff.2 hfound, Option.map_some, isItems_iff.1 hitems]

theorem items?_eq_none_iff : spec.items? body = none ↔ spec.LacksItems body := by
  constructor
  · intro hitems
    unfold items? at hitems
    split at hitems
    · next path hpath =>
        obtain ⟨hpath, hset⟩ := filter_dataPath_eq_some_iff.1 hpath
        exact ⟨path, hpath, hset, Json.atPath?_eq_none_iff.1 (Option.map_eq_none_iff.1 hitems)⟩
    · simp at hitems
  · rintro ⟨path, hpath, hset, hlacks⟩
    simp only [items?, filter_dataPath_eq_some_iff.2 ⟨hpath, hset⟩,
      Json.atPath?_eq_none_iff.2 hlacks, Option.map_none]

theorem getD_items?_ne_nil_iff :
    (spec.items? body).getD [] ≠ [] ↔ ∃ items, spec.HasItems body items ∧ items ≠ [] := by
  simp only [← items?_eq_some_iff]
  cases spec.items? body with
  | none => simp
  | some items => simp

end Spec

end ApiBridge.Pagination
