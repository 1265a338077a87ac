import ApiBridge.Table

namespace ApiBridge.Table

variable {α : Type} (test : String → Bool) (key : String)

theorem filter_put_of_not (hkey : test key = false) (value : α) (table : Table α) :
    (put key value table).filter (fun binding => test binding.1) =
      table.filter fun binding => test binding.1 := by
  induction table with
  | nil => simp [put, hkey]
  | cons binding rest ih =>
      rcases binding with ⟨otherKey, other⟩
      rw [put]
      split
      · rw [List.filter_cons_of_neg (by simp [hkey])]
      · split
        · next hsame =>
            subst hsame
            rw [List.filter_cons_of_neg (by simp [hkey]), List.filter_cons_of_neg (by simp [hkey])]
        · rw [List.filter_cons, List.filter_cons, ih]

theorem filter_put_of_absent (hkey : test key = true) (value : α) {table : Table α}
    (habsent : ∀ binding ∈ table, test binding.1 = false) :
    (put key value table).filter (fun binding => test binding.1) = [(key, value)] := by
  induction table with
  | nil => simp [put, hkey]
  | cons binding rest ih =>
      rcases binding with ⟨otherKey, other⟩
      have hother : test otherKey = false := habsent (otherKey, other) List.mem_cons_self
      have hrest : ∀ binding ∈ rest, test binding.1 = false :=
        fun binding hbinding => habsent binding (List.mem_cons_of_mem _ hbinding)
      have hnone : rest.filter (fun binding => test binding.1) = [] :=
        List.filter_eq_nil_iff.2 fun binding hbinding => by simp [hrest binding hbinding]
      rw [put]
      split
      · rw [List.filter_cons_of_pos (by simp [hkey]), List.filter_cons_of_neg (by simp [hother]),
          hnone]
      · split
        · next hsame => simp [← hsame, hkey] at hother
        · rw [List.filter_cons_of_neg (by simp [hother]), ih hrest]

theorem find?_put (value : α) (table : Table α) : find? key (put key value table) = some value := by
  induction table with
  | nil => simp [put, find?]
  | cons binding rest ih =>
      rcases binding with ⟨otherKey, other⟩
      rw [put]
      split
      · simp [find?]
      · split
        · simp [find?]
        · next hdifferent => rw [find?, if_neg hdifferent, ih]

theorem find?_put_of_ne {other : String} (hother : other ≠ key) (value : α) (table : Table α) :
    find? other (put key value table) = find? other table := by
  induction table with
  | nil => simp [put, find?, hother]
  | cons binding rest ih =>
      rcases binding with ⟨otherKey, bound⟩
      rw [put]
      split
      · rw [find?, if_neg hother]
      · split
        · next hsame => rw [find?, find?, if_neg hother, if_neg (hsame ▸ hother)]
        · rw [find?, find?, ih]

theorem isSome_find?_put (other : String) (value : α) (table : Table α) :
    (find? other (put key value table)).isSome ↔ other = key ∨ (find? other table).isSome := by
  by_cases hother : other = key
  · subst hother
    simp [find?_put]
  · rw [find?_put_of_ne key hother]
    simp [hother]

theorem has_iff {key : String} {table : Table α} : table.has key = true ↔ key ∈ table.keys := by
  induction table with
  | nil => simp [has, find?, keys]
  | cons binding rest ih =>
      rcases binding with ⟨otherKey, value⟩
      rw [has, find?]
      by_cases hsame : key = otherKey
      · simp [hsame, keys]
      · rw [if_neg hsame, keys, List.map_cons, List.mem_cons, or_iff_right hsame]
        exact ih

theorem mem_of_find? {key : String} {value : α} {table : Table α}
    (hfind : table.find? key = some value) : (key, value) ∈ table := by
  induction table with
  | nil => cases hfind
  | cons binding rest ih =>
      rcases binding with ⟨otherKey, other⟩
      rw [find?] at hfind
      split at hfind
      · next hsame =>
          obtain rfl := Option.some.inj hfind
          exact hsame ▸ List.mem_cons_self
      · exact List.mem_cons_of_mem _ (ih hfind)

/-- Whether the keys of a table are in their order, so that each of them is bound once. -/
def IsOrdered (table : Table α) : Prop := table.Pairwise fun binding other => binding.1 < other.1

instance (table : Table α) : Decidable table.IsOrdered :=
  inferInstanceAs (Decidable (table.Pairwise fun binding other => binding.1 < other.1))

theorem IsOrdered.find?_of_mem {key : String} {value : α} {table : Table α} (h : table.IsOrdered)
    (hbinding : (key, value) ∈ table) : table.find? key = some value := by
  induction table with
  | nil => cases hbinding
  | cons first rest ih =>
      rcases first with ⟨otherKey, other⟩
      obtain ⟨hfirst, hrest⟩ := List.pairwise_cons.1 h
      rcases List.mem_cons.1 hbinding with heq | hbinding
      · obtain ⟨rfl, rfl⟩ := Prod.mk.inj heq
        exact if_pos rfl
      · rw [find?, if_neg (String.ne_of_lt (hfirst _ hbinding)).symm]
        exact ih hrest hbinding

theorem put_nil (key : String) (value : α) : put key value [] = [(key, value)] := rfl

theorem put_of_lt {key otherKey : String} (hbefore : key < otherKey) (value other : α)
    (rest : Table α) :
    put key value ((otherKey, other) :: rest) = (key, value) :: (otherKey, other) :: rest :=
  if_pos hbefore

theorem put_of_gt {key otherKey : String} (hbehind : otherKey < key) (value other : α)
    (rest : Table α) :
    put key value ((otherKey, other) :: rest) = (otherKey, other) :: put key value rest := by
  rw [put, if_neg (String.lt_asymm hbehind), if_neg (String.ne_of_lt hbehind).symm]

theorem mem_put {key : String} {value : α} {table : Table α} {binding : String × α}
    (hbinding : binding ∈ table.put key value) : binding = (key, value) ∨ binding ∈ table := by
  induction table with
  | nil => exact .inl (List.mem_singleton.1 hbinding)
  | cons first rest ih =>
      rw [put] at hbinding
      split at hbinding
      · exact List.mem_cons.1 hbinding
      · split at hbinding
        · exact (List.mem_cons.1 hbinding).imp_right (List.mem_cons_of_mem _)
        · rcases List.mem_cons.1 hbinding with rfl | hrest
          · exact .inr List.mem_cons_self
          · exact (ih hrest).imp_right (List.mem_cons_of_mem _)

theorem self_mem_put (key : String) (value : α) (table : Table α) :
    (key, value) ∈ table.put key value := by
  induction table with
  | nil => exact List.mem_singleton_self _
  | cons first rest ih =>
      rw [put]
      split
      · exact List.mem_cons_self
      · split
        · exact List.mem_cons_self
        · exact List.mem_cons_of_mem _ ih

theorem IsOrdered.put {table : Table α} (h : table.IsOrdered) (key : String) (value : α) :
    (table.put key value).IsOrdered := by
  induction table with
  | nil => exact List.pairwise_singleton _ _
  | cons binding rest ih =>
      obtain ⟨hbinding, hrest⟩ := List.pairwise_cons.1 h
      rw [Table.put]
      split
      · next hbefore =>
          refine List.pairwise_cons.2 ⟨?_, h⟩
          intro other hother
          rcases List.mem_cons.1 hother with rfl | hother
          · exact hbefore
          · exact String.lt_trans hbefore (hbinding other hother)
      · next hnotBefore =>
          split
          · next hsame => exact List.pairwise_cons.2 ⟨hsame ▸ hbinding, hrest⟩
          · next hdifferent =>
              refine List.pairwise_cons.2 ⟨?_, ih hrest⟩
              intro other hother
              rcases mem_put hother with rfl | hother
              · exact Std.lt_of_le_of_ne (String.not_lt.1 hnotBefore) (Ne.symm hdifferent)
              · exact hbinding other hother

theorem IsOrdered.overlay {table : Table α} (h : table.IsOrdered) (changes : Table α) :
    (table.overlay changes).IsOrdered := by
  induction changes generalizing table with
  | nil => exact h
  | cons change changes ih => exact ih (h.put change.1 change.2)

theorem mem_overlay {table changes : Table α} {binding : String × α}
    (hbinding : binding ∈ table.overlay changes) : binding ∈ changes ∨ binding ∈ table := by
  induction changes generalizing table with
  | nil => exact .inr hbinding
  | cons change changes ih =>
      rcases ih hbinding with hchanges | hput
      · exact .inl (List.mem_cons_of_mem _ hchanges)
      · rcases mem_put hput with rfl | htable
        · exact .inl List.mem_cons_self
        · exact .inr htable

theorem isOrdered_ofPairs (pairs : List (String × α)) : (ofPairs pairs).IsOrdered :=
  IsOrdered.overlay List.Pairwise.nil pairs

theorem mem_of_mem_ofPairs {pairs : List (String × α)} {binding : String × α}
    (hbinding : binding ∈ ofPairs pairs) : binding ∈ pairs :=
  (mem_overlay hbinding).resolve_right List.not_mem_nil

theorem IsOrdered.filter {table : Table α} (h : table.IsOrdered) (test : String × α → Bool) :
    IsOrdered (table.filter test) :=
  List.Pairwise.filter test h

theorem IsOrdered.lt_getLast {table : Table α} (h : table.IsOrdered) {last : String × α}
    (hlast : table.getLast? = some last) :
    ∀ binding ∈ table, binding = last ∨ binding.1 < last.1 := by
  obtain ⟨front, rfl⟩ := List.getLast?_eq_some_iff.1 hlast
  intro binding hbinding
  rcases List.mem_append.1 hbinding with hfront | hbinding
  · exact .inr ((List.pairwise_append.1 h).2.2 binding hfront last (List.mem_singleton_self _))
  · exact .inl (List.mem_singleton.1 hbinding)

theorem find?_overlay {changes : Table α} (h : changes.IsOrdered) (key : String)
    (table : Table α) :
    find? key (table.overlay changes) = (find? key changes).or (find? key table) := by
  induction changes generalizing table with
  | nil => rfl
  | cons change rest ih =>
      rcases change with ⟨changed, value⟩
      obtain ⟨hfirst, hrest⟩ := List.pairwise_cons.1 h
      rw [overlay, List.foldl_cons, ← overlay, ih hrest, find?]
      by_cases hkey : key = changed
      · subst hkey
        have hnone : find? key rest = none :=
          Option.eq_none_iff_forall_ne_some.2 fun _ hbound =>
            String.lt_irrefl key (hfirst _ (mem_of_find? hbound))
        rw [hnone, if_pos rfl, find?_put]
        rfl
      · rw [if_neg hkey, find?_put_of_ne _ hkey]

theorem put_perm {table : Table α} (h : table.IsOrdered) (key : String) (value : α) :
    (table.put key value).Perm
      ((key, value) :: table.filter fun binding => !binding.1 == key) := by
  induction table with
  | nil => rfl
  | cons binding rest ih =>
      obtain ⟨hbinding, hrest⟩ := List.pairwise_cons.1 h
      rw [put]
      split
      · next hbefore =>
          have hkeep : (binding :: rest).filter (fun binding => !binding.1 == key) =
              binding :: rest := by
            rw [List.filter_eq_self]
            intro other hother
            have hlater : key < other.1 := by
              rcases List.mem_cons.1 hother with rfl | hother
              · exact hbefore
              · exact String.lt_trans hbefore (hbinding other hother)
            simpa using (String.ne_of_lt hlater).symm
          rw [hkeep]
      · split
        · next hsame =>
            have hkeep : rest.filter (fun binding => !binding.1 == key) = rest := by
              rw [List.filter_eq_self]
              intro other hother
              simpa [hsame] using (String.ne_of_lt (hbinding other hother)).symm
            rw [List.filter_cons_of_neg (by simp [hsame]), hkeep]
        · next hdifferent =>
            rw [List.filter_cons_of_pos (by simpa using Ne.symm hdifferent)]
            exact ((ih hrest).cons binding).trans (List.Perm.swap _ _ _)

theorem IsOrdered.overlay_perm {table changes : Table α} (h : table.IsOrdered)
    (hkeys : ((changes ++ table).map Prod.fst).Nodup) :
    (table.overlay changes).Perm (changes ++ table) := by
  induction changes generalizing table with
  | nil => exact .refl _
  | cons change changes ih =>
      have hfresh : ∀ binding ∈ table, binding.1 ≠ change.1 := by
        intro binding hbinding heq
        have hmember : change.1 ∈ (changes ++ table).map Prod.fst :=
          heq ▸ List.mem_map_of_mem (List.mem_append_right changes hbinding)
        exact (List.nodup_cons.1 hkeys).1 hmember
      have hkeep : table.filter (fun binding => !binding.1 == change.1) = table :=
        List.filter_eq_self.2 fun binding hbinding => by simpa using hfresh binding hbinding
      have hput := put_perm h change.1 change.2
      rw [hkeep] at hput
      have hmoved : (changes ++ table.put change.1 change.2).Perm (change :: changes ++ table) :=
        (hput.append_left changes).trans List.perm_middle
      exact (ih (h.put change.1 change.2) ((hmoved.map Prod.fst).nodup_iff.2 hkeys)).trans hmoved

theorem ofPairs_perm {pairs : List (String × α)} (hkeys : (pairs.map Prod.fst).Nodup) :
    (ofPairs pairs).Perm pairs := by
  have hnone : IsOrdered ([] : Table α) := List.Pairwise.nil
  have hall : (pairs ++ []).map Prod.fst = pairs.map Prod.fst := by rw [List.append_nil]
  exact (hnone.overlay_perm (hall ▸ hkeys)).trans (by rw [List.append_nil])

theorem IsOrdered.nodup_keys {table : Table α} (h : table.IsOrdered) :
    (table.map Prod.fst).Nodup :=
  List.Pairwise.map _ (fun _ _ hlt => String.ne_of_lt hlt) h

theorem IsOrdered.ofPairs_eq {table : Table α} (h : table.IsOrdered) : ofPairs table = table := by
  refine List.Perm.eq_of_pairwise ?_ (isOrdered_ofPairs table) h (ofPairs_perm h.nodup_keys)
  intro binding other _ _ hlt hgt
  exact absurd (String.lt_trans hlt hgt) (String.lt_irrefl _)

end ApiBridge.Table
