import ApiBridge.Json.Access

namespace ApiBridge

theorem mem_of_mem_splitOn {α : Type} [DecidableEq α] {sep : α} {items run : List α}
    (hrun : run ∈ items.splitOn sep) : ∀ item ∈ run, item ∈ items ∧ item ≠ sep := by
  induction items generalizing run with
  | nil =>
      rw [List.splitOn_nil, List.mem_singleton] at hrun
      simp [hrun]
  | cons first items ih =>
      have hrest : ∀ run ∈ items.splitOn sep, ∀ item ∈ run, item ∈ first :: items ∧ item ≠ sep :=
        fun run hrun item hitem => (ih hrun item hitem).imp_left (List.mem_cons_of_mem _)
      rw [List.splitOn_cons_eq_if_modifyHead] at hrun
      split at hrun
      · rcases List.mem_cons.1 hrun with rfl | hlater
        · simp
        · exact hrest run hlater
      · next hfirst =>
          cases hsplit : items.splitOn sep with
          | nil => exact absurd hsplit (List.splitOn_ne_nil _ _)
          | cons head runs =>
              rw [hsplit] at hrun hrest
              rcases List.mem_cons.1 hrun with rfl | hlater
              · intro item hitem
                rcases List.mem_cons.1 hitem with rfl | hitem
                · exact ⟨List.mem_cons_self, by simpa using hfirst⟩
                · exact hrest head List.mem_cons_self item hitem
              · exact hrest run (List.mem_cons_of_mem _ hlater)

namespace Json

/-- A value inside another one, under a list of keys: each key is a member's of the object that is
found under the keys before it. -/
inductive Holds : Json → List String → Json → Prop
  | whole (value : Json) : Holds value [] value
  | member {members : Table Json} {key : String} {keys : List String} {value found : Json}
      (hmember : members.find? key = some value) (hrest : Holds value keys found) :
      Holds (.object members) (key :: keys) found

/-- A value at a path, which is the keys to it with a dot between them. -/
def HoldsAt (value : Json) (path : String) (found : Json) : Prop :=
  ∃ keys, keys ≠ [] ∧ (∀ key ∈ keys, '.' ∉ key.toList) ∧ path = ".".intercalate keys ∧
    Holds value keys found

/-- A mapping for any value: the members of an object, and `value` with a value that is none. -/
inductive IsMapping : Json → Table Json → Prop
  | members (members : Table Json) : IsMapping (.object members) members
  | value {value : Json} (hobject : ∀ members, value ≠ .object members) :
      IsMapping value [("value", value)]

variable {value found : Json} {keys : List String} {path : String}

theorem follow_eq_some_iff : follow value keys = some found ↔ value.Holds keys found := by
  constructor
  · intro hfollow
    induction keys generalizing value with
    | nil =>
        obtain rfl := Option.some.inj hfollow
        exact .whole _
    | cons key keys ih =>
        cases value with
        | object members =>
            obtain ⟨inner, hmember, hrest⟩ := Option.bind_eq_some_iff.1 hfollow
            exact .member hmember (ih hrest)
        | _ => simp [follow] at hfollow
  · intro hholds
    induction hholds with
    | whole => rfl
    | member hmember _ ih => rw [follow, hmember, Option.bind_some, ih]

theorem splitAt_eq_iff {mark : Char} {text : String} :
    splitAt mark text = keys ↔ keys ≠ [] ∧ (∀ key ∈ keys, mark ∉ key.toList) ∧
      text = (String.singleton mark).intercalate keys := by
  have hback : String.toList ∘ String.ofList = id := funext fun _ => String.toList_ofList
  have hforth : String.ofList ∘ String.toList = id := funext fun _ => String.ofList_toList
  rw [← String.toList_inj, String.toList_intercalate, String.toList_singleton, splitAt]
  constructor
  · rintro rfl
    refine ⟨by simp [List.splitOn_ne_nil], ?_, ?_⟩
    · intro key hkey
      obtain ⟨run, hrun, rfl⟩ := List.mem_map.1 hkey
      rw [String.toList_ofList]
      exact fun hmark => (mem_of_mem_splitOn hrun mark hmark).2 rfl
    · rw [List.map_map, hback, List.map_id]
      exact (List.intercalate_splitOn mark).symm
  · rintro ⟨hkeys, hmark, htext⟩
    have hruns : ∀ run ∈ keys.map String.toList, mark ∉ run := by simpa using hmark
    rw [htext, List.splitOn_intercalate mark hruns (by simpa using hkeys), List.map_map, hforth,
      List.map_id]

theorem atPath?_eq_some_iff : value.atPath? path = some found ↔ value.HoldsAt path found := by
  rw [atPath?, follow_eq_some_iff]
  constructor
  · intro hholds
    obtain ⟨hkeys, hdots, hpath⟩ := splitAt_eq_iff.1 (rfl : splitAt '.' path = _)
    exact ⟨_, hkeys, hdots, hpath, hholds⟩
  · rintro ⟨keys, hkeys, hdots, hpath, hholds⟩
    rwa [splitAt_eq_iff.2 ⟨hkeys, hdots, hpath⟩]

theorem atPath?_eq_none_iff : value.atPath? path = none ↔ ∀ found, ¬ value.HoldsAt path found := by
  simp [Option.eq_none_iff_forall_ne_some, atPath?_eq_some_iff]

theorem isMapping_iff {mapping : Table Json} :
    value.IsMapping mapping ↔ value.toMapping = mapping := by
  constructor
  · rintro (members | hobject)
    · rfl
    · cases value with
      | object members => exact absurd rfl (hobject members)
      | _ => rfl
  · rintro rfl
    cases value with
    | object members => exact .members members
    | _ => exact .value fun _ => by simp

end Json

end ApiBridge
