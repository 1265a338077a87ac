import ApiBridge.Decimal.Numeral

namespace ApiBridge.Numeral

theorem digitsValue_eq (digits : List Char) :
    digitsValue digits = Nat.ofDigitChars 10 digits 0 := by
  rw [digitsValue, Nat.ofDigitChars]
  simp only [Nat.mul_comm]

theorem toList_toString (number : Nat) : (toString number).toList = Nat.toDigits 10 number := by
  rw [Nat.toString_eq_ofList_toDigits, String.toList_ofList]

theorem isDigit_of_mem_toString {number : Nat} {c : Char} (hc : c ∈ (toString number).toList) :
    c.isDigit = true := by
  rw [toList_toString] at hc
  exact Nat.isDigit_of_mem_toDigits (by decide) (by decide) hc

/-- Whether a text is a number below a bound: one or more decimal digits, which may stand behind a
plus sign. -/
def IsNatural (bound : Nat) (text : String) (number : Nat) : Prop :=
  number < bound ∧ ∃ digits, (text.toList = digits ∨ text.toList = '+' :: digits) ∧ digits ≠ [] ∧
    (∀ c ∈ digits, c.isDigit = true) ∧ Nat.ofDigitChars 10 digits 0 = number

theorem digitsValue_eq_some_iff {bound number : Nat} {digits : List Char} :
    (if digits.isEmpty || !digits.all Char.isDigit then none
      else if digitsValue digits < bound then some (digitsValue digits) else none) = some number ↔
      digits ≠ [] ∧ (∀ c ∈ digits, c.isDigit = true) ∧ number < bound ∧
        Nat.ofDigitChars 10 digits 0 = number := by
  rw [← List.isEmpty_eq_false_iff, ← List.all_eq_true, ← digitsValue_eq]
  cases digits.isEmpty with
  | true => simp
  | false =>
      cases digits.all Char.isDigit with
      | false => simp
      | true =>
          simp only [Bool.not_true, Bool.or_false, if_neg Bool.false_ne_true, true_and,
            Option.ite_none_right_eq_some, Option.some.injEq]
          exact and_congr_left fun hvalue => hvalue ▸ Iff.rfl

theorem natural?_eq_some_iff {bound number : Nat} {text : String} :
    natural? bound text = some number ↔ IsNatural bound text number := by
  unfold natural? IsNatural
  dsimp only
  split
  · next rest hplus =>
      rw [digitsValue_eq_some_iff, hplus]
      constructor
      · rintro ⟨hne, hdigits, hbound, hvalue⟩
        exact ⟨hbound, rest, .inr rfl, hne, hdigits, hvalue⟩
      · rintro ⟨hbound, digits, rfl | hrest, hne, hdigits, hvalue⟩
        · exact absurd (hdigits '+' List.mem_cons_self) (by decide)
        · obtain rfl := (List.cons.inj hrest).2
          exact ⟨hne, hdigits, hbound, hvalue⟩
  · next hplain =>
      rw [digitsValue_eq_some_iff]
      constructor
      · rintro ⟨hne, hdigits, hbound, hvalue⟩
        exact ⟨hbound, _, .inl rfl, hne, hdigits, hvalue⟩
      · rintro ⟨hbound, digits, rfl | hplus, hne, hdigits, hvalue⟩
        · exact ⟨hne, hdigits, hbound, hvalue⟩
        · exact absurd hplus (hplain digits)

theorem natural?_toString {bound number : Nat} (hbound : number < bound) :
    natural? bound (toString number) = some number := by
  refine natural?_eq_some_iff.2 ⟨hbound, Nat.toDigits 10 number, .inl (toList_toString number),
    Nat.toDigits_ne_nil, fun c hc => ?_, Nat.ofDigitChars_ten_toDigits⟩
  rw [← toList_toString] at hc
  exact isDigit_of_mem_toString hc

end ApiBridge.Numeral
