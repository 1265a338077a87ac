import ApiBridge.Binary64

/-!
Rounding to binary64 numbers. The bits of a number read back as the significand and the spacing that
it was made from, and rounding does not pass a whole number of at most 53 bits.
-/

namespace ApiBridge

variable {numerator denominator whole : Nat}

theorem roundHalfEven_le (hpos : 0 < denominator) (h : numerator ≤ whole * denominator) :
    roundHalfEven numerator denominator ≤ whole := by
  have hparts := Nat.div_add_mod numerator denominator
  have hquotient : numerator / denominator ≤ whole :=
    Nat.div_le_of_le_mul (Nat.mul_comm whole denominator ▸ h)
  unfold roundHalfEven
  dsimp only
  rcases Nat.lt_or_eq_of_le hquotient with hlt | heq
  · split
    · exact hquotient
    · split
      · exact hlt
      · omega
  · -- Nothing is left to round up.
    have hrest : numerator % denominator = 0 := by
      rw [heq, Nat.mul_comm] at hparts
      omega
    refine Nat.le_of_eq ?_
    rw [hrest, heq, if_pos (by omega)]

theorem le_roundHalfEven (hpos : 0 < denominator) (h : whole * denominator ≤ numerator) :
    whole ≤ roundHalfEven numerator denominator := by
  have hquotient : whole ≤ numerator / denominator := (Nat.le_div_iff_mul_le hpos).2 h
  unfold roundHalfEven
  dsimp only
  split
  · exact hquotient
  · split
    · omega
    · omega

namespace Binary64

variable {shift significand : Nat}

/-- A spacing and a rounded significand that make the bits of a finite number. -/
structure Makes (shift significand : Nat) : Prop where
  le : significand ≤ 2 * hiddenBit
  normal : shift = 0 ∨ hiddenBit ≤ significand
  lt : shift < 2045

theorem toNat_bits_ofFields {magnitude : Nat} (negative : Bool) (h : magnitude < signBit) :
    (ofFields negative magnitude).bits.toNat =
      hiddenBit * (2048 * negative.toNat) + magnitude := by
  have hsign : signBit = 9223372036854775808 := by decide
  have hhidden : hiddenBit = 4503599627370496 := by decide
  unfold ofFields
  rw [UInt64.toNat_ofNat', Nat.mod_eq_of_lt (by split <;> omega)]
  cases negative with
  | true => simp only [if_true, Bool.toNat_true, hsign, hhidden]
  | false => simp

theorem Makes.toNat_bits (h : Makes shift significand) (negative : Bool) :
    (ofFields negative (shift * hiddenBit + significand)).bits.toNat =
      hiddenBit * (2048 * negative.toNat + shift) + significand := by
  obtain ⟨hle, -, hlt⟩ := h
  have hsign : signBit = 2048 * hiddenBit := by decide
  have hpos : 0 < hiddenBit := by decide
  have hmagnitude : shift * hiddenBit ≤ 2044 * hiddenBit := Nat.mul_le_mul_right _ (by omega)
  rw [toNat_bits_ofFields negative (by omega), Nat.mul_add, Nat.mul_comm shift, Nat.add_assoc]

theorem Makes.exponentField_eq (h : Makes shift significand) (negative : Bool) :
    (ofFields negative (shift * hiddenBit + significand)).exponentField =
      shift + significand / hiddenBit := by
  have hpos : 0 < hiddenBit := by decide
  have hcarry : significand / hiddenBit ≤ 2 := Nat.div_le_of_le_mul (Nat.mul_comm 2 _ ▸ h.le)
  have hlt := h.lt
  unfold exponentField
  rw [h.toNat_bits, Nat.mul_add_div hpos, Nat.add_assoc, Nat.mul_add_mod, Nat.mod_eq_of_lt]
  omega

theorem Makes.fraction_eq (h : Makes shift significand) (negative : Bool) :
    (ofFields negative (shift * hiddenBit + significand)).fraction =
      significand % hiddenBit := by
  unfold fraction
  rw [h.toNat_bits, Nat.mul_add_mod]

theorem Makes.isFinite_eq (h : Makes shift significand) (negative : Bool) :
    (ofFields negative (shift * hiddenBit + significand)).isFinite = true := by
  have hcarry : significand / hiddenBit ≤ 2 := Nat.div_le_of_le_mul (Nat.mul_comm 2 _ ▸ h.le)
  have hlt := h.lt
  unfold isFinite
  rw [h.exponentField_eq, decide_eq_true_eq]
  omega

theorem Makes.negative_eq (h : Makes shift significand) (negative : Bool) :
    (ofFields negative (shift * hiddenBit + significand)).negative = negative := by
  have hle := h.le
  have hlt := h.lt
  have hsign : signBit = 9223372036854775808 := by decide
  have hhidden : hiddenBit = 4503599627370496 := by decide
  rw [hhidden] at hle
  unfold Binary64.negative
  rw [h.toNat_bits, hsign, hhidden]
  cases negative with
  | true => simp only [Bool.toNat_true, decide_eq_true_eq]; omega
  | false => simp only [Bool.toNat_false, decide_eq_false_iff_not]; omega

theorem Makes.units_eq (h : Makes shift significand) (negative : Bool) :
    (ofFields negative (shift * hiddenBit + significand)).units =
      significand * Nat.pow 2 shift := by
  have hpos : 0 < hiddenBit := by decide
  unfold units Binary64.significand Binary64.shift
  rw [h.exponentField_eq, h.fraction_eq]
  rcases Nat.lt_or_ge significand hiddenBit with hsmall | hlarge
  · obtain rfl := h.normal.resolve_right (Nat.not_le.2 hsmall)
    rw [Nat.div_eq_of_lt hsmall, Nat.mod_eq_of_lt hsmall]
    rfl
  · rcases Nat.lt_or_eq_of_le h.le with hbelow | rfl
    · have hcarry : significand / hiddenBit = 1 := Nat.div_eq_of_lt_le (by omega) (by omega)
      rw [hcarry, if_neg (Nat.succ_ne_zero shift), Nat.add_sub_cancel, Nat.mod_eq_sub_mod hlarge,
        Nat.mod_eq_of_lt (by omega), Nat.add_sub_cancel' hlarge]
    · rw [Nat.mul_div_cancel 2 hpos, Nat.mul_mod_left, if_neg (Nat.succ_ne_zero (shift + 1))]
      change (hiddenBit + 0) * (Nat.pow 2 shift * 2) = 2 * hiddenBit * Nat.pow 2 shift
      rw [Nat.add_zero, Nat.mul_comm 2 hiddenBit, Nat.mul_assoc, Nat.mul_comm 2]

/-- The spacing at which a number is rounded, by the whole units of it. -/
def spacing (quotient : Nat) : Nat := if quotient = 0 then 0 else quotient.log2 - 52

theorem two_pow_add (places more : Nat) :
    Nat.pow 2 (places + more) = Nat.pow 2 places * Nat.pow 2 more := Nat.pow_add 2 places more

theorem two_pow_pos (places : Nat) : 0 < Nat.pow 2 places := Nat.two_pow_pos places

theorem lt_spacing (quotient : Nat) :
    quotient < 2 * hiddenBit * Nat.pow 2 (spacing quotient) := by
  have hlog : quotient.log2 + 1 ≤ 53 + spacing quotient := by
    unfold spacing
    split
    · next hzero => simp [hzero]
    · omega
  have hpow : quotient < Nat.pow 2 (53 + spacing quotient) :=
    Nat.lt_of_lt_of_le Nat.lt_log2_self (Nat.pow_le_pow_right (by decide) hlog)
  rwa [two_pow_add] at hpow

theorem spacing_le (quotient : Nat) :
    spacing quotient = 0 ∨ hiddenBit * Nat.pow 2 (spacing quotient) ≤ quotient := by
  rcases Nat.eq_zero_or_pos (spacing quotient) with hzero | hpos
  · exact .inl hzero
  · have hsome : quotient ≠ 0 := by
      rintro rfl
      exact Nat.lt_irrefl 0 hpos
    have hlog : quotient.log2 = 52 + spacing quotient := by
      rw [spacing, if_neg hsome] at hpos ⊢
      omega
    have hpow : Nat.pow 2 quotient.log2 ≤ quotient := Nat.log2_self_le hsome
    rw [hlog, two_pow_add] at hpow
    exact .inr hpow

/-- The significand that a quotient is rounded to. -/
def rounded (numerator denominator : Nat) : Nat :=
  roundHalfEven (numerator * unitsPerOne)
    (denominator * Nat.pow 2 (spacing (numerator * unitsPerOne / denominator)))

theorem ofRatio_eq (negative : Bool) (numerator denominator : Nat) :
    ofRatio negative numerator denominator =
      ofFields negative (min
        (spacing (numerator * unitsPerOne / denominator) * hiddenBit +
          rounded numerator denominator)
        (2047 * hiddenBit)) := rfl

theorem rounded_le (hpos : 0 < denominator) :
    rounded numerator denominator ≤ 2 * hiddenBit := by
  have hlt := lt_spacing (numerator * unitsPerOne / denominator)
  refine roundHalfEven_le (Nat.mul_pos hpos (two_pow_pos _)) (Nat.le_of_lt ?_)
  rwa [Nat.mul_left_comm, Nat.mul_comm denominator, ← Nat.div_lt_iff_lt_mul hpos]

theorem makes_rounded (hpos : 0 < denominator)
    (hlt : spacing (numerator * unitsPerOne / denominator) < 2045) :
    Makes (spacing (numerator * unitsPerOne / denominator)) (rounded numerator denominator) := by
  refine ⟨rounded_le hpos, ?_, hlt⟩
  refine (spacing_le (numerator * unitsPerOne / denominator)).imp_right fun hle => ?_
  refine le_roundHalfEven (Nat.mul_pos hpos (two_pow_pos _)) ?_
  rwa [Nat.mul_left_comm, Nat.mul_comm denominator, ← Nat.le_div_iff_mul_le hpos]

theorem ofRatio_eq_ofFields (negative : Bool) (hpos : 0 < denominator)
    (hlt : spacing (numerator * unitsPerOne / denominator) < 2045) :
    ofRatio negative numerator denominator =
      ofFields negative (spacing (numerator * unitsPerOne / denominator) * hiddenBit +
        rounded numerator denominator) := by
  have hsmall : spacing (numerator * unitsPerOne / denominator) * hiddenBit ≤ 2044 * hiddenBit :=
    Nat.mul_le_mul_right _ (by omega)
  have hle := (makes_rounded hpos hlt).le
  rw [ofRatio_eq, Nat.min_eq_left (by omega)]

theorem isFinite_ofRatio (negative : Bool) (hpos : 0 < denominator)
    (hlt : spacing (numerator * unitsPerOne / denominator) < 2045) :
    (ofRatio negative numerator denominator).isFinite = true := by
  rw [ofRatio_eq_ofFields negative hpos hlt]
  exact (makes_rounded hpos hlt).isFinite_eq negative

theorem units_ofRatio (negative : Bool) (hpos : 0 < denominator)
    (hlt : spacing (numerator * unitsPerOne / denominator) < 2045) :
    (ofRatio negative numerator denominator).units =
      rounded numerator denominator *
        Nat.pow 2 (spacing (numerator * unitsPerOne / denominator)) := by
  rw [ofRatio_eq_ofFields negative hpos hlt]
  exact (makes_rounded hpos hlt).units_eq negative

theorem negative_ofRatio (negative : Bool) (hpos : 0 < denominator)
    (hlt : spacing (numerator * unitsPerOne / denominator) < 2045) :
    (ofRatio negative numerator denominator).negative = negative := by
  rw [ofRatio_eq_ofFields negative hpos hlt]
  exact (makes_rounded hpos hlt).negative_eq negative

theorem spacing_mono {quotient larger : Nat} (h : quotient ≤ larger) :
    spacing quotient ≤ spacing larger := by
  rcases spacing_le quotient with hzero | hle
  · omega
  · have hlt : hiddenBit * Nat.pow 2 (spacing quotient) <
        hiddenBit * Nat.pow 2 (spacing larger + 1) := by
      calc hiddenBit * Nat.pow 2 (spacing quotient)
          ≤ larger := Nat.le_trans hle h
        _ < 2 * hiddenBit * Nat.pow 2 (spacing larger) := lt_spacing larger
        _ = hiddenBit * (Nat.pow 2 (spacing larger) * 2) := by ac_rfl
    have hexponent := (Nat.pow_lt_pow_iff_right (by decide)).1 (Nat.lt_of_mul_lt_mul_left hlt)
    omega

theorem unitsPerOne_eq : ∃ places, places = 1074 ∧ unitsPerOne = Nat.pow 2 places := by
  have hone : unitsPerOne = Nat.pow 2 1074 := by
    unfold unitsPerOne
    rfl
  generalize 1074 = places at *
  exact ⟨places, rfl, hone⟩

theorem unitsPerOne_pos : 0 < unitsPerOne := by
  obtain ⟨places, -, hone⟩ := unitsPerOne_eq
  exact hone ▸ two_pow_pos places

theorem spacing_le_places {places quotient : Nat} (hone : unitsPerOne = Nat.pow 2 places)
    (hwhole : whole < 2 * hiddenBit) (hquotient : quotient ≤ whole * unitsPerOne) :
    spacing quotient ≤ places := by
  rcases spacing_le quotient with hzero | hle
  · omega
  · have hlt : hiddenBit * Nat.pow 2 (spacing quotient) < hiddenBit * Nat.pow 2 (places + 1) := by
      calc hiddenBit * Nat.pow 2 (spacing quotient)
          ≤ whole * unitsPerOne := Nat.le_trans hle hquotient
        _ < 2 * hiddenBit * unitsPerOne :=
            Nat.mul_lt_mul_of_pos_right hwhole (hone ▸ two_pow_pos places)
        _ = hiddenBit * (Nat.pow 2 places * 2) := by
            rw [hone]
            ac_rfl
    have hexponent := (Nat.pow_lt_pow_iff_right (by decide)).1 (Nat.lt_of_mul_lt_mul_left hlt)
    omega

/-- A quotient of at most a whole number of 53 bits stays at most that number when it is rounded. -/
theorem ofRatio_le (negative : Bool) (hpos : 0 < denominator) (hwhole : whole < 2 * hiddenBit)
    (h : numerator ≤ whole * denominator) :
    (ofRatio negative numerator denominator).isFinite = true ∧
      (ofRatio negative numerator denominator).units ≤ whole * unitsPerOne ∧
      (ofRatio negative numerator denominator).negative = negative := by
  obtain ⟨places, hplaces, hone⟩ := unitsPerOne_eq
  have hquotient : numerator * unitsPerOne / denominator ≤ whole * unitsPerOne := by
    refine Nat.div_le_of_le_mul ?_
    rw [Nat.mul_left_comm, ← Nat.mul_assoc]
    exact Nat.mul_le_mul_right unitsPerOne h
  have hshift := spacing_le_places hone hwhole hquotient
  have hlt : spacing (numerator * unitsPerOne / denominator) < 2045 :=
    Nat.lt_of_le_of_lt hshift (hplaces ▸ by decide : places < 2045)
  refine ⟨isFinite_ofRatio negative hpos hlt, ?_, negative_ofRatio negative hpos hlt⟩
  rw [units_ofRatio negative hpos hlt]
  -- The whole number lies on the grid to which the quotient is rounded.
  generalize hspacing : spacing (numerator * unitsPerOne / denominator) = shift at *
  have hgrid : Nat.pow 2 (places - shift) * Nat.pow 2 shift = unitsPerOne := by
    rw [← two_pow_add, Nat.sub_add_cancel hshift, hone]
  have hrounded : rounded numerator denominator ≤ whole * Nat.pow 2 (places - shift) := by
    rw [rounded, hspacing]
    refine roundHalfEven_le (Nat.mul_pos hpos (two_pow_pos _)) ?_
    calc numerator * unitsPerOne ≤ whole * denominator * unitsPerOne :=
          Nat.mul_le_mul_right unitsPerOne h
      _ = whole * Nat.pow 2 (places - shift) * (denominator * Nat.pow 2 shift) := by
          rw [← hgrid]
          ac_rfl
  rw [← hgrid, ← Nat.mul_assoc]
  exact Nat.mul_le_mul_right _ hrounded

theorem ofRatio_of_le_two_pow (negative : Bool) {width : Nat} (hpos : 0 < denominator)
    (hwidth : width < 900) (h : numerator ≤ Nat.pow 2 width * denominator) :
    (ofRatio negative numerator denominator).isFinite = true ∧
      (ofRatio negative numerator denominator).units ≤ Nat.pow 2 (width + 1) * unitsPerOne := by
  obtain ⟨places, hplaces, hone⟩ := unitsPerOne_eq
  have hquotient : numerator * unitsPerOne / denominator ≤ Nat.pow 2 (width + places) := by
    refine Nat.div_le_of_le_mul ?_
    rw [two_pow_add, ← hone, Nat.mul_left_comm, ← Nat.mul_assoc]
    exact Nat.mul_le_mul_right unitsPerOne h
  have hgrid : hiddenBit * Nat.pow 2 (spacing (numerator * unitsPerOne / denominator)) ≤
      Nat.pow 2 (width + places) := by
    rcases spacing_le (numerator * unitsPerOne / denominator) with hzero | hle
    · rw [hzero]
      exact Nat.pow_le_pow_right Nat.two_pos (by omega : 52 ≤ width + places)
    · exact Nat.le_trans hle hquotient
  have hlt : spacing (numerator * unitsPerOne / denominator) < 2045 := by
    have hpow := Nat.le_trans (Nat.le_mul_of_pos_left _ (by decide)) hgrid
    have hspacing := (Nat.pow_le_pow_iff_right (by decide)).1 hpow
    omega
  refine ⟨isFinite_ofRatio negative hpos hlt, ?_⟩
  rw [units_ofRatio negative hpos hlt]
  generalize spacing (numerator * unitsPerOne / denominator) = shift at *
  calc rounded numerator denominator * Nat.pow 2 shift
      ≤ 2 * hiddenBit * Nat.pow 2 shift := Nat.mul_le_mul_right _ (rounded_le hpos)
    _ = 2 * (hiddenBit * Nat.pow 2 shift) := Nat.mul_assoc _ _ _
    _ ≤ 2 * Nat.pow 2 (width + places) := Nat.mul_le_mul_left 2 hgrid
    _ = Nat.pow 2 (width + 1) * unitsPerOne := by
        rw [hone, two_pow_add, two_pow_add]
        ac_rfl

theorem le_units_ofRatio (negative : Bool) (hpos : 0 < denominator)
    (hlt : spacing (numerator * unitsPerOne / denominator) < 2045) (h : denominator ≤ numerator) :
    unitsPerOne ≤ (ofRatio negative numerator denominator).units := by
  obtain ⟨places, -, hone⟩ := unitsPerOne_eq
  have hnormal := (makes_rounded hpos hlt).normal
  rw [units_ofRatio negative hpos hlt]
  generalize hspacing : spacing (numerator * unitsPerOne / denominator) = shift at *
  rcases Nat.lt_or_ge places shift with hlarge | hle
  · have hlong := hnormal.resolve_left (by omega)
    calc unitsPerOne ≤ Nat.pow 2 shift :=
          hone ▸ Nat.pow_le_pow_right Nat.two_pos (Nat.le_of_lt hlarge)
      _ ≤ rounded numerator denominator * Nat.pow 2 shift :=
          Nat.le_mul_of_pos_left _ (Nat.lt_of_lt_of_le (by decide) hlong)
  · have hgrid : Nat.pow 2 (places - shift) * Nat.pow 2 shift = unitsPerOne := by
      rw [← two_pow_add, Nat.sub_add_cancel hle, hone]
    have hrounded : Nat.pow 2 (places - shift) ≤ rounded numerator denominator := by
      rw [rounded, hspacing]
      refine le_roundHalfEven (Nat.mul_pos hpos (two_pow_pos _)) ?_
      calc Nat.pow 2 (places - shift) * (denominator * Nat.pow 2 shift)
          = denominator * unitsPerOne := by
            rw [← hgrid]
            ac_rfl
        _ ≤ numerator * unitsPerOne := Nat.mul_le_mul_right _ h
    rw [← hgrid]
    exact Nat.mul_le_mul_right _ hrounded

theorem isFinite_ofInt {value : Int} (h : value.natAbs ≤ UInt64.size) :
    (ofInt value).isFinite = true :=
  (ofRatio_of_le_two_pow _ Nat.one_pos (by decide : 64 < 900) (by rwa [Nat.mul_one])).1

theorem toNat_ceil_le {x : Binary64} (hx : x.negative = false) :
    x.ceil.toNat ≤ whole ↔ x.units ≤ whole * unitsPerOne := by
  have hpos := unitsPerOne_pos
  have hparts := Nat.div_add_mod x.units unitsPerOne
  rw [Nat.mul_comm] at hparts
  simp only [ceil, truncate, hasFraction, hx, Bool.not_false, Bool.and_true, bne_iff_ne,
    Bool.false_eq_true, if_false]
  generalize unitsPerOne = one at *
  by_cases hrest : x.units % one = 0
  · rw [hrest, Nat.add_zero] at hparts
    rw [if_neg (Decidable.not_not.2 hrest), Int.toNat_natCast, ← Nat.mul_le_mul_right_iff hpos, hparts]
  · rw [if_pos hrest, Int.toNat_natCast_add_one, Nat.succ_le_iff, Nat.div_lt_iff_lt_mul hpos]
    refine ⟨Nat.le_of_lt, fun hle => Nat.lt_of_le_of_ne hle fun heq => hrest ?_⟩
    rw [heq, Nat.mul_mod_left]

theorem isNaN_of_isFinite {x : Binary64} (hx : x.isFinite = true) : x.isNaN = false := by
  have hfield : x.exponentField < 2047 := of_decide_eq_true hx
  simp [isNaN, Nat.ne_of_lt hfield]

theorem mul_le {x y : Binary64} {width height : Nat} (hx : x.isFinite = true)
    (hy : y.isFinite = true) (hwidth : x.units ≤ width * unitsPerOne)
    (hheight : y.units ≤ height * unitsPerOne) (hsmall : width * height < 2 * hiddenBit) :
    (x.mul y).isFinite = true ∧ (x.mul y).units ≤ width * height * unitsPerOne ∧
      (x.mul y).negative = (x.negative != y.negative) := by
  have hpos := unitsPerOne_pos
  have hproduct : x.units * y.units ≤ width * height * (unitsPerOne * unitsPerOne) := by
    calc x.units * y.units ≤ width * unitsPerOne * (height * unitsPerOne) :=
          Nat.mul_le_mul hwidth hheight
      _ = width * height * (unitsPerOne * unitsPerOne) := Nat.mul_mul_mul_comm _ _ _ _
  have hratio : x.mul y =
      ofRatio (x.negative != y.negative) (x.units * y.units) (unitsPerOne * unitsPerOne) := by
    simp [mul, isNaN_of_isFinite hx, isNaN_of_isFinite hy, hx, hy]
  rw [hratio]
  exact ofRatio_le _ (Nat.mul_pos hpos hpos) hsmall hproduct

theorem toNat_clamp_le {x : Binary64} {low : Int} (hx : x.isFinite = true) (hlow : low ≤ 0)
    (hwhole : x.units ≤ whole * unitsPerOne) (high : Int) :
    (x.clamp low high).toNat ≤ whole := by
  have hquotient : x.units / unitsPerOne ≤ whole :=
    Nat.div_le_of_le_mul (Nat.mul_comm whole _ ▸ hwhole)
  have htruncate : x.truncate ≤ whole := by
    unfold truncate
    dsimp only
    generalize x.units / unitsPerOne = quotient at *
    split
    · omega
    · omega
  simp only [clamp, isNaN_of_isFinite hx, hx]
  simp only [Bool.false_eq_true, if_false, Bool.not_true]
  omega

end Binary64

end ApiBridge
