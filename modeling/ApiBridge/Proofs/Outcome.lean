import ApiBridge.Duration
import Mathlib.Data.List.Forall2

namespace ApiBridge

theorem exists_of_any {ε α : Type} {outcome : Except ε α} {test : α → Bool}
    (htest : outcome.toOption.any test = true) :
    ∃ value, outcome = .ok value ∧ test value = true := by
  cases outcome with
  | error error => simp [Except.toOption] at htest
  | ok value => exact ⟨value, rfl, htest⟩

theorem exists_of_mem_forall₂ {α β : Type} {relates : α → β → Prop} {items : List α}
    {values : List β} (h : List.Forall₂ relates items values) {value : β}
    (hvalue : value ∈ values) :
    ∃ item ∈ items, relates item value := by
  induction h with
  | nil => exact absurd hvalue List.not_mem_nil
  | cons hfirst _ ih =>
      rcases List.mem_cons.1 hvalue with rfl | hvalue
      · exact ⟨_, List.mem_cons_self, hfirst⟩
      · obtain ⟨item, hitem, hrelates⟩ := ih hvalue
        exact ⟨item, List.mem_cons_of_mem _ hitem, hrelates⟩

theorem mapM_eq_some_iff {α β : Type} {read : α → Option β} {items : List α} {values : List β} :
    items.mapM read = some values ↔
      List.Forall₂ (fun item value => read item = some value) items values := by
  induction items generalizing values with
  | nil => simp [eq_comm]
  | cons item items ih =>
      rw [List.mapM_cons]
      constructor
      · intro h
        obtain ⟨value, hvalue, h⟩ := Option.bind_eq_some_iff.1 h
        obtain ⟨rest, hrest, h⟩ := Option.bind_eq_some_iff.1 h
        obtain rfl := Option.some.inj h
        exact .cons hvalue (ih.1 hrest)
      · rintro (_ | ⟨hvalue, hrest⟩)
        rw [hvalue, ih.2 hrest]
        rfl

namespace Fault

variable {ε α β : Type}

theorem bind_eq_ok {first : Except ε α} {second : α → Except ε β} {result : β} :
    first >>= second = .ok result ↔ ∃ value, first = .ok value ∧ second value = .ok result := by
  cases first <;> simp [bind, Except.bind]

theorem map_eq_ok {first : Except Fault α} {change : α → β} {result : β} :
    first.map change = .ok result ↔ ∃ value, first = .ok value ∧ change value = result := by
  cases first <;> simp [Except.map]

theorem exists_eq_ok {check : Except ε Unit} : (∃ value, check = .ok value) ↔ check = .ok () := by
  constructor
  · rintro ⟨⟨⟩, hcheck⟩
    exact hcheck
  · exact fun hcheck => ⟨(), hcheck⟩

theorem eq_ok_of_isOk {check : Except ε Unit} (hok : check.isOk = true) : check = .ok () := by
  cases check with
  | error error => simp [Except.isOk, Except.toBool] at hok
  | ok _ => rfl

theorem then_eq_ok {first next : Except ε Unit} :
    (do
      first
      next) = .ok () ↔ first = .ok () ∧ next = .ok () := by
  cases first <;> simp [bind, Except.bind]

theorem forM_eq_ok {check : α → Except ε Unit} {items : List α} :
    items.forM check = .ok () ↔ ∀ item ∈ items, check item = .ok () := by
  induction items with
  | nil => simp [pure, Except.pure]
  | cons item items ih =>
      change (check item >>= fun _ => items.forM check) = .ok () ↔ _
      rw [then_eq_ok, List.forall_mem_cons, ih]

theorem guard_bind_eq_ok {condition : Prop} [Decidable condition] {error : ε}
    {next : Except ε Unit} :
    (do
      if condition then throw error
      next) = .ok () ↔ ¬ condition ∧ next = .ok () := by
  by_cases hcondition : condition <;>
    simp [hcondition, throw, throwThe, MonadExceptOf.throw, bind, Except.bind]

end Fault

end ApiBridge
