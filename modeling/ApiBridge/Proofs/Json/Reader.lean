import ApiBridge.Json.Reader

namespace ApiBridge.Json

/-- Whether a property of values goes from the parts that are read to the values made of them. -/
structure HoldsOfParts (holds : Json → Prop) : Prop where
  null : holds .null
  bool : ∀ value, holds (.bool value)
  string : ∀ text, holds (.string text)
  number : ∀ {negative text number rest}, readNumber negative text = some (number, rest) →
    holds (.number number)
  array : ∀ {items}, (∀ item ∈ items, holds item) → holds (.array items)
  ofPairs : ∀ {members : List (String × Json)}, (∀ member ∈ members, holds member.2) →
    holds (ofPairs members)

variable {holds : Json → Prop} {value : Json} {text rest : List Char} {depth fuel : Nat}

theorem holds_of_readWord {word : String} {named : Json} (hnamed : holds named)
    (hread : readWord word named text = some (value, rest)) : holds value := by
  unfold readWord at hread
  split at hread
  · obtain ⟨rfl, -⟩ := Prod.mk.inj (Option.some.inj hread)
    exact hnamed
  · cases hread

theorem holds_of_map {α : Type} {read : Option (α × List Char)} {make : α → Json}
    (hmake : ∀ part rest, read = some (part, rest) → holds (make part))
    (hread : read.map (fun (part, rest) => (make part, rest)) = some (value, rest)) :
    holds value := by
  obtain ⟨⟨part, left⟩, hsome, hpart⟩ := Option.map_eq_some_iff.1 hread
  obtain ⟨rfl, -⟩ := Prod.mk.inj hpart
  exact hmake part left hsome

/-- Whether a property holds of all values that are read with some fuel. -/
structure HoldsOfRead (holds : Json → Prop) (fuel : Nat) : Prop where
  value : ∀ {depth text value rest}, readValue depth text fuel = some (value, rest) → holds value
  items : ∀ {depth done text value rest}, (∀ item ∈ done, holds item) →
    readItems depth done text fuel = some (value, rest) → holds value
  members : ∀ {depth done text value rest}, (∀ member ∈ done, holds member.2) →
    readMembers depth done text fuel = some (value, rest) → holds value

namespace HoldsOfRead

theorem zero (holds : Json → Prop) : HoldsOfRead holds 0 := by
  refine ⟨?_, ?_, ?_⟩
  · intro depth text value rest hread
    rw [readValue] at hread
    cases hread
  · intro depth done text value rest _ hread
    rw [readItems] at hread
    cases hread
  · intro depth done text value rest _ hread
    rw [readMembers] at hread
    cases hread

theorem value_succ (hparts : HoldsOfParts holds) (h : HoldsOfRead holds fuel)
    (hread : readValue depth text (fuel + 1) = some (value, rest)) : holds value := by
  rw [readValue] at hread
  split at hread
  · cases hread
  · split at hread
    · exact holds_of_map (fun text _ _ => hparts.string text) hread
    · split at hread
      · -- An array, which may be empty.
        split at hread
        · cases hread
        · split at hread
          · obtain ⟨rfl, -⟩ := Prod.mk.inj (Option.some.inj hread)
            exact hparts.array fun _ hitem => absurd hitem List.not_mem_nil
          · exact h.items (fun _ hitem => absurd hitem List.not_mem_nil) hread
      · split at hread
        · -- An object, which may be empty.
          split at hread
          · cases hread
          · split at hread
            · obtain ⟨rfl, -⟩ := Prod.mk.inj (Option.some.inj hread)
              have hnone : ∀ member ∈ ([] : List (String × Json)), holds member.2 :=
                fun _ hmember => absurd hmember List.not_mem_nil
              exact hparts.ofPairs hnone
            · exact h.members (fun _ hmember => absurd hmember List.not_mem_nil) hread
        · split at hread
          · exact holds_of_readWord hparts.null hread
          · split at hread
            · exact holds_of_readWord (hparts.bool true) hread
            · split at hread
              · exact holds_of_readWord (hparts.bool false) hread
              · split at hread
                · exact holds_of_map (fun _ _ => hparts.number) hread
                · exact holds_of_map (fun _ _ => hparts.number) hread

theorem items_succ (hparts : HoldsOfParts holds) (h : HoldsOfRead holds fuel) {done : List Json}
    (hdone : ∀ item ∈ done, holds item)
    (hread : readItems depth done text (fuel + 1) = some (value, rest)) : holds value := by
  rw [readItems] at hread
  split at hread
  · cases hread
  · next item _ hitem =>
      have hall : ∀ other ∈ item :: done, holds other :=
        List.forall_mem_cons.2 ⟨h.value hitem, hdone⟩
      split at hread
      · exact h.items hall hread
      · obtain ⟨rfl, -⟩ := Prod.mk.inj (Option.some.inj hread)
        exact hparts.array fun other hother => hall other (List.mem_reverse.1 hother)
      · cases hread

theorem members_succ (hparts : HoldsOfParts holds) (h : HoldsOfRead holds fuel)
    {done : List (String × Json)} (hdone : ∀ member ∈ done, holds member.2)
    (hread : readMembers depth done text (fuel + 1) = some (value, rest)) : holds value := by
  rw [readMembers] at hread
  split at hread
  · split at hread
    · cases hread
    · next key _ _ =>
        split at hread
        · split at hread
          · cases hread
          · next member _ hmember =>
              have hall : ∀ other ∈ (key, member) :: done, holds other.2 :=
                List.forall_mem_cons.2 ⟨h.value hmember, hdone⟩
              split at hread
              · exact h.members hall hread
              · obtain ⟨rfl, -⟩ := Prod.mk.inj (Option.some.inj hread)
                exact hparts.ofPairs fun other hother => hall other (List.mem_reverse.1 hother)
              · cases hread
        · cases hread
  · cases hread

theorem all (hparts : HoldsOfParts holds) (fuel : Nat) : HoldsOfRead holds fuel := by
  induction fuel with
  | zero => exact zero holds
  | succ fuel ih => exact ⟨ih.value_succ hparts, ih.items_succ hparts, ih.members_succ hparts⟩

end HoldsOfRead

/-- What goes from parts to values holds of every value that is read from a text. -/
theorem HoldsOfParts.of_parse? (hparts : HoldsOfParts holds) {text : String}
    (hparse : parse? text = some value) : holds value := by
  unfold parse? at hparse
  dsimp only at hparse
  split at hparse
  · next hread =>
      split at hparse
      · obtain rfl := Option.some.inj hparse
        exact (HoldsOfRead.all hparts _).value hread
      · cases hparse
  · cases hparse

end ApiBridge.Json
