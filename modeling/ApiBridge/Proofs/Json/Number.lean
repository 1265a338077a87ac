import ApiBridge.Proofs.Binary64
import ApiBridge.Proofs.Json.Reader
import ApiBridge.Proofs.Table

namespace ApiBridge

namespace Binary64

theorem exponentField_neg (x : Binary64) : x.neg.exponentField = x.exponentField := by
  have hsign : signBit = hiddenBit * 2048 := by decide
  have hmagnitude : x.bits.toNat % signBit < signBit := Nat.mod_lt _ (by decide)
  unfold exponentField neg
  rw [toNat_bits_ofFields _ hmagnitude, Nat.mul_add_div (by decide), Nat.mul_add_mod, hsign,
    Nat.mod_mul_right_div_self, Nat.mod_mod]

theorem isFinite_neg {x : Binary64} (hx : x.isFinite = true) : x.neg.isFinite = true := by
  rw [isFinite, exponentField_neg]
  exact hx

theorem div_of_le_two_pow {x y : Binary64} {width : Nat} (hx : x.isFinite = true)
    (hy : y.isFinite = true) (hpos : 0 < y.units) (hwidth : width < 900)
    (h : x.units ≤ Nat.pow 2 width * y.units) :
    (x.div y).isFinite = true ∧ (x.div y).units ≤ Nat.pow 2 (width + 1) * unitsPerOne := by
  have hratio : x.div y = ofRatio (x.negative != y.negative) x.units y.units := by
    simp [div, isNaN_of_isFinite hx, isNaN_of_isFinite hy, hx, hy, Nat.ne_of_gt hpos]
  rw [hratio]
  exact ofRatio_of_le_two_pow _ hpos hwidth h

theorem ofDecimal_power {places : Nat} (h : places ≤ 308) :
    ofDecimal false 1 places = ofRatio false (Nat.pow 10 places) 1 := by
  have hdigit : (Nat.toDigits 10 1).length = 1 := by decide
  unfold ofDecimal
  rw [hdigit]
  dsimp only
  rw [if_neg Nat.one_ne_zero, if_neg (by omega), if_neg (by omega), if_pos (Int.natCast_nonneg _),
    Int.toNat_natCast, Nat.one_mul]

theorem units_lastPower :
    (ofDecimal false 1 308).isFinite = true ∧
      2 * unitsPerOne ≤ (ofDecimal false 1 308).units := by decide +kernel

theorem units_power {places : Nat} (h : places ≤ 308) :
    (ofDecimal false 1 places).isFinite = true ∧
      unitsPerOne ≤ (ofDecimal false 1 places).units := by
  rcases Nat.lt_or_eq_of_le h with hlt | rfl
  · obtain ⟨largest, hlargest, hbound⟩ : ∃ largest, largest = 307 ∧
        spacing (Nat.pow 10 largest * unitsPerOne / 1) < 2045 := ⟨307, rfl, by decide +kernel⟩
    have hspacing : spacing (Nat.pow 10 places * unitsPerOne / 1) < 2045 := by
      refine Nat.lt_of_le_of_lt (spacing_mono (Nat.div_le_div_right ?_)) hbound
      exact Nat.mul_le_mul_right _ (Nat.pow_le_pow_right (by decide : 10 > 0) (by omega))
    rw [ofDecimal_power h]
    exact ⟨isFinite_ofRatio false Nat.one_pos hspacing,
      le_units_ofRatio false Nat.one_pos hspacing (Nat.one_le_pow _ _ (by decide))⟩
  · obtain ⟨hfinite, hunits⟩ := units_lastPower
    exact ⟨hfinite, Nat.le_trans (Nat.le_mul_of_pos_left _ Nat.two_pos) hunits⟩

/-- Whether a number is finite and at most about as large as the largest integer of 64 bits. -/
def IsSmall (x : Binary64) : Prop := x.isFinite = true ∧ x.units ≤ Nat.pow 2 65 * unitsPerOne

theorem isSmall_ofNat {value : Nat} (h : value < UInt64.size) : (ofNat value).IsSmall := by
  have hvalue : value ≤ Nat.pow 2 64 * 1 := Nat.le_of_lt h
  have hsmall := ofRatio_of_le_two_pow false Nat.one_pos (by decide : 64 < 900) hvalue
  unfold IsSmall ofNat
  generalize unitsPerOne = one at *
  exact hsmall

theorem IsSmall.isFinite_div {x : Binary64} (h : x.IsSmall) {places : Nat}
    (hplaces : places ≤ 308) : (x.div (ofDecimal false 1 places)).isFinite = true := by
  obtain ⟨hfinite, hsize⟩ := h
  obtain ⟨hpower, hone⟩ := units_power hplaces
  have hunits := Nat.le_trans hsize (Nat.mul_le_mul_left (Nat.pow 2 65) hone)
  have hpos := Nat.lt_of_lt_of_le unitsPerOne_pos hone
  exact (div_of_le_two_pow hfinite hpower hpos (by decide : 65 < 900) hunits).1

theorem IsSmall.div_lastPower {x : Binary64} (h : x.IsSmall) :
    (x.div (ofDecimal false 1 308)).IsSmall := by
  obtain ⟨hfinite, hsize⟩ := h
  obtain ⟨hpower, hunits⟩ := units_lastPower
  have hpos := unitsPerOne_pos
  generalize ofDecimal false 1 308 = power at *
  have hsmall : x.units ≤ Nat.pow 2 64 * power.units := by
    have hdouble : Nat.pow 2 65 = Nat.pow 2 64 * 2 := rfl
    rw [hdouble, Nat.mul_assoc] at hsize
    exact Nat.le_trans hsize (Nat.mul_le_mul_left (Nat.pow 2 64) hunits)
  have hdiv := div_of_le_two_pow hfinite hpower (by omega) (by decide : 64 < 900) hsmall
  unfold IsSmall
  generalize unitsPerOne = one at *
  exact hdiv

end Binary64

/-- Whether a number is one that JSON values have: an integer of 64 bits, with a sign or without
one, or a finite number. -/
def Number.IsRegular : Number → Prop
  | .int value => Int64.minValue.toInt ≤ value ∧ value < UInt64.size
  | .float value => value.isFinite = true

theorem Number.isRegular_natCast {value : Nat} (h : value < UInt64.size) :
    (Number.int value).IsRegular :=
  ⟨Int.le_trans (by decide) (Int.natCast_nonneg value), Int.ofNat_lt.2 h⟩

theorem Number.IsRegular.isFinite {number : Number} (h : number.IsRegular) :
    number.toBinary64.isFinite = true := by
  cases number with
  | int value =>
      obtain ⟨hmin, hmax⟩ := h
      have hleast : Int64.minValue.toInt = -9223372036854775808 := by decide
      have hsize : UInt64.size = 18446744073709551616 := rfl
      exact Binary64.isFinite_ofInt (by omega)
  | float value => exact h

namespace Json

theorem gather_lt {value : Nat} (hvalue : value < UInt64.size) (text : List Char) :
    (gather value text).1 < UInt64.size := by
  induction text generalizing value with
  | nil => exact hvalue
  | cons c rest ih =>
      rw [gather]
      split
      · dsimp only
        split
        · next hnext => exact ih hnext
        · exact hvalue
      · exact hvalue

theorem isFinite_of_scale {x value : Binary64} {exponent : Int} {fuel : Nat} (hx : x.IsSmall)
    (hscale : scale x exponent fuel = some value) : value.isFinite = true := by
  induction fuel generalizing x exponent with
  | zero => exact Option.some.inj hscale ▸ hx.1
  | succ fuel ih =>
      rw [scale] at hscale
      split at hscale
      · next hnear =>
          dsimp only at hscale
          split at hscale
          · split at hscale
            · next hfinite => exact Option.some.inj hscale ▸ hfinite
            · exact nomatch hscale
          · exact Option.some.inj hscale ▸ hx.isFinite_div hnear
      · split at hscale
        · exact Option.some.inj hscale ▸ hx.1
        · split at hscale
          · exact nomatch hscale
          · exact ih hx.div_lastPower hscale

theorem isFinite_of_scaled? {negative : Bool} {digits : Nat} {exponent : Int} {value : Binary64}
    (hdigits : digits < UInt64.size) (hscaled : scaled? negative digits exponent = some value) :
    value.isFinite = true := by
  obtain ⟨found, hfound, rfl⟩ := Option.map_eq_some_iff.1 hscaled
  have hfinite := isFinite_of_scale (Binary64.isSmall_ofNat hdigits) hfound
  split
  · exact Binary64.isFinite_neg hfinite
  · exact hfinite

theorem isFinite_of_readPower {negative : Bool} {digits : Nat} {exponent : Int}
    {text rest : List Char} {value : Binary64} (hdigits : digits < UInt64.size)
    (hread : readPower negative digits exponent text = some (value, rest)) :
    value.isFinite = true := by
  have hplain : ∀ exponent left,
      (scaled? negative digits exponent).map (fun value => (value, left)) = some (value, rest) →
        value.isFinite = true := by
    intro exponent left hmap
    obtain ⟨found, hfound, hpair⟩ := Option.map_eq_some_iff.1 hmap
    obtain ⟨rfl, -⟩ := Prod.mk.inj hpair
    exact isFinite_of_scaled? hdigits hfound
  unfold readPower at hread
  split at hread
  · split at hread
    · dsimp only at hread
      split at hread
      · exact nomatch hread
      · split at hread
        · split at hread
          · exact nomatch hread
          · obtain ⟨rfl, -⟩ := Prod.mk.inj (Option.some.inj hread)
            cases negative <;> decide +kernel
        · exact hplain _ _ hread
    · exact hplain _ _ hread
  · exact hplain _ _ hread

theorem isFinite_of_readFraction {negative : Bool} {digits : Nat} {exponent : Int}
    {text rest : List Char} {value : Binary64} (hdigits : digits < UInt64.size)
    (hread : readFraction negative digits exponent text = some (value, rest)) :
    value.isFinite = true := by
  unfold readFraction at hread
  split at hread
  · split at hread
    · dsimp only at hread
      exact isFinite_of_readPower (gather_lt hdigits _) hread
    · exact nomatch hread
  · exact nomatch hread

theorem isRegular_of_readNumber {negative : Bool} {text rest : List Char} {number : Number}
    (hread : readNumber negative text = some (number, rest)) : number.IsRegular := by
  have hfloat : ∀ {read : Option (Binary64 × List Char)},
      (∀ value left, read = some (value, left) → value.isFinite = true) →
        read.map (fun pair => (Number.float pair.1, pair.2)) = some (number, rest) →
          number.IsRegular := by
    intro read hfinite hmap
    obtain ⟨⟨value, left⟩, hvalue, hpair⟩ := Option.map_eq_some_iff.1 hmap
    obtain ⟨rfl, -⟩ := Prod.mk.inj hpair
    exact hfinite value left hvalue
  unfold readNumber at hread
  split at hread
  · cases hread
  · next first afterFirst =>
      split at hread
      · cases hread
      · have hdigits : (if first = '0' then (0, afterFirst)
            else gather 0 (first :: afterFirst)).1 < UInt64.size := by
          split
          · exact (by decide : 0 < UInt64.size)
          · exact gather_lt (by decide) _
        dsimp only at hread
        generalize (if first = '0' then (0, afterFirst)
          else gather 0 (first :: afterFirst)) = gathered at hread hdigits
        split at hread
        · cases hread
        · split at hread
          · exact hfloat (fun _ _ => isFinite_of_readFraction hdigits) hread
          · split at hread
            · obtain ⟨rfl, -⟩ := Prod.mk.inj (Option.some.inj hread)
              exact Number.isRegular_natCast hdigits
            · split at hread
              · next hnegative =>
                  obtain ⟨rfl, -⟩ := Prod.mk.inj (Option.some.inj hread)
                  simp only [Bool.and_eq_true, decide_eq_true_eq] at hnegative
                  have hleast : Int64.minValue.toInt = -9223372036854775808 := by decide
                  have hsize : UInt64.size = 18446744073709551616 := rfl
                  constructor <;> omega
              · exact hfloat (fun _ _ => isFinite_of_readPower hdigits) hread

end Json

/-- Whether all numbers in a value are ones that JSON values have. -/
inductive Json.IsRegular : Json → Prop where
  | null : IsRegular .null
  | bool (value : Bool) : IsRegular (.bool value)
  | number {number : Number} (hnumber : number.IsRegular) : IsRegular (.number number)
  | string (text : String) : IsRegular (.string text)
  | array {items : List Json} (hitems : ∀ item ∈ items, IsRegular item) : IsRegular (.array items)
  | object {members : Table Json} (hmembers : ∀ member ∈ members, IsRegular member.2) :
      IsRegular (.object members)

namespace Json

@[simp] theorem isRegular_null : IsRegular .null := .null

@[simp] theorem isRegular_bool (value : Bool) : IsRegular (.bool value) := .bool value

@[simp] theorem isRegular_string (text : String) : IsRegular (.string text) := .string text

@[simp] theorem isRegular_number_iff {number : Number} :
    IsRegular (.number number) ↔ number.IsRegular :=
  ⟨fun | .number hnumber => hnumber, .number⟩

@[simp] theorem isRegular_array_iff {items : List Json} :
    IsRegular (.array items) ↔ ∀ item ∈ items, item.IsRegular :=
  ⟨fun | .array hitems => hitems, .array⟩

@[simp] theorem isRegular_object_iff {members : Table Json} :
    IsRegular (.object members) ↔ ∀ member ∈ members, member.2.IsRegular :=
  ⟨fun | .object hmembers => hmembers, .object⟩

theorem isRegular_ofNat {value : Nat} (h : value < UInt64.size) : (ofNat value).IsRegular :=
  .number (Number.isRegular_natCast h)

theorem isRegular_ofPairs {members : List (String × Json)}
    (h : ∀ member ∈ members, member.2.IsRegular) : (ofPairs members).IsRegular :=
  .object fun member hmember => h member (Table.mem_of_mem_ofPairs hmember)

theorem isRegular_ofTexts (texts : Table String) : (ofTexts texts).IsRegular := by
  refine .object fun member hmember => ?_
  obtain ⟨_, -, rfl⟩ := List.mem_map.1 hmember
  exact .string _

/-- A value that is read from a text has only numbers that JSON values have, whatever numerals are
in the text. -/
theorem isRegular_of_parse? {text : String} {value : Json} (hparse : parse? text = some value) :
    value.IsRegular := by
  refine HoldsOfParts.of_parse? ?_ hparse
  exact ⟨.null, .bool, .string, fun hread => .number (isRegular_of_readNumber hread), .array,
    isRegular_ofPairs⟩

end Json

end ApiBridge
