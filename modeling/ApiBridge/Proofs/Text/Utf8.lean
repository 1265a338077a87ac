import ApiBridge.Text.Utf8

namespace ApiBridge.Utf8

theorem toNat_ofNat_of_lt {code : Nat} (hcode : code < 256) : (UInt8.ofNat code).toNat = code := by
  simp only [UInt8.toNat_ofNat', Nat.mod_eq_of_lt hcode]

theorem lead?_one {code : Nat} (hcode : code < 0x80) :
    lead? (UInt8.ofNat code) = some ⟨0, 0x80, 0xBF, code⟩ := by
  have htoNat : (UInt8.ofNat code).toNat = code := toNat_ofNat_of_lt (by omega)
  rw [lead?, if_pos (UInt8.lt_iff_toNat_lt.2 (by rw [htoNat]; exact hcode)), htoNat]

theorem lead?_two {code : Nat} (hlow : 0xC2 ≤ code) (hhigh : code < 0xE0) :
    lead? (UInt8.ofNat code) = some ⟨1, 0x80, 0xBF, code - 0xC0⟩ := by
  have htoNat : (UInt8.ofNat code).toNat = code := toNat_ofNat_of_lt (by omega)
  simp only [lead?, UInt8.lt_iff_toNat_lt, htoNat]
  rw [if_neg (by simp; omega), if_neg (by simp; omega), if_pos (by simp; omega)]

theorem lead?_three {code : Nat} (hlow : 0xE0 ≤ code) (hhigh : code < 0xF0) :
    lead? (UInt8.ofNat code) = some ⟨2, if code = 0xE0 then 0xA0 else 0x80,
      if code = 0xED then 0x9F else 0xBF, code - 0xE0⟩ := by
  have htoNat : (UInt8.ofNat code).toNat = code := toNat_ofNat_of_lt (by omega)
  by_cases hfirst : code = 0xE0
  · subst hfirst
    rfl
  by_cases hsurrogates : code = 0xED
  · subst hsurrogates
    rfl
  simp only [lead?, UInt8.lt_iff_toNat_lt, ← UInt8.toNat_inj, htoNat]
  rw [if_neg (by simp; omega), if_neg (by simp; omega), if_neg (by simp; omega),
    if_neg (by simpa using hfirst), if_neg (by simpa using hsurrogates), if_pos (by simp; omega),
    if_neg hfirst, if_neg hsurrogates]

theorem lead?_four {code : Nat} (hlow : 0xF0 ≤ code) (hhigh : code < 0xF5) :
    lead? (UInt8.ofNat code) = some ⟨3, if code = 0xF0 then 0x90 else 0x80,
      if code = 0xF4 then 0x8F else 0xBF, code - 0xF0⟩ := by
  have hcases : code = 0xF0 ∨ code = 0xF1 ∨ code = 0xF2 ∨ code = 0xF3 ∨ code = 0xF4 := by omega
  rcases hcases with rfl | rfl | rfl | rfl | rfl
  all_goals rfl

/-- A byte that follows the first one in a character. -/
def tail (bits : Nat) : UInt8 := UInt8.ofNat (bits + 0x80)

theorem toNat_tail {bits : Nat} (hbits : bits < 0x40) : (tail bits).toNat = bits + 0x80 :=
  toNat_ofNat_of_lt (Nat.lt_of_lt_of_le (Nat.add_lt_add_right hbits 0x80) (by decide))

theorem isTail_tail {bits : Nat} (hbits : bits < 0x40) : isTail (tail bits) = true := by
  simp only [isTail, UInt8.le_iff_toNat_le, toNat_tail hbits, Bool.and_eq_true, decide_eq_true_eq]
  constructor
  · exact Nat.le_add_left _ _
  · change bits + 0x80 ≤ 0xBF
    omega

theorem extend_tail (code : Nat) {bits : Nat} (hbits : bits < 0x40) :
    extend code (tail bits) = code * 64 + bits := by
  have htoNat := toNat_tail hbits
  unfold extend
  omega

theorem not_tail_lt {bits : Nat} (hbits : bits < 0x40) {low : UInt8}
    (hlow : low.toNat ≤ bits + 0x80) : ¬ tail bits < low := by
  rw [UInt8.lt_iff_toNat_lt, toNat_tail hbits]
  exact Nat.not_lt.2 hlow

theorem not_lt_tail {bits : Nat} (hbits : bits < 0x40) {high : UInt8}
    (hhigh : bits + 0x80 ≤ high.toNat) : ¬ high < tail bits := by
  rw [UInt8.lt_iff_toNat_lt, toNat_tail hbits]
  exact Nat.not_lt.2 hhigh

theorem next_two {first second : UInt8} {low high : UInt8} {bits : Nat}
    (hlead : lead? first = some ⟨1, low, high, bits⟩) (hlow : ¬ second < low)
    (hhigh : ¬ high < second) (rest : List UInt8) :
    next first (second :: rest) = (some (Char.ofNat (extend bits second)), rest) := by
  simp [next, hlead, hlow, hhigh]

theorem next_three {first second third : UInt8} {low high : UInt8} {bits : Nat}
    (hlead : lead? first = some ⟨2, low, high, bits⟩) (hlow : ¬ second < low)
    (hhigh : ¬ high < second) (hthird : isTail third = true) (rest : List UInt8) :
    next first (second :: third :: rest) =
      (some (Char.ofNat (extend (extend bits second) third)), rest) := by
  simp [next, hlead, hlow, hhigh, hthird]

theorem next_four {first second third fourth : UInt8} {low high : UInt8} {bits : Nat}
    (hlead : lead? first = some ⟨3, low, high, bits⟩) (hlow : ¬ second < low)
    (hhigh : ¬ high < second) (hthird : isTail third = true) (hfourth : isTail fourth = true)
    (rest : List UInt8) :
    next first (second :: third :: fourth :: rest) =
      (some (Char.ofNat (extend (extend (extend bits second) third) fourth)), rest) := by
  simp [next, hlead, hlow, hhigh, hthird, hfourth]

theorem utf8EncodeChar_eq (c : Char) :
    String.utf8EncodeChar c =
      if c.toNat ≤ 0x7F then [UInt8.ofNat c.toNat]
      else if c.toNat ≤ 0x7FF then [UInt8.ofNat (c.toNat / 64 % 32 + 0xC0), tail (c.toNat % 64)]
      else if c.toNat ≤ 0xFFFF then [UInt8.ofNat (c.toNat / 4096 % 16 + 0xE0),
        tail (c.toNat / 64 % 64), tail (c.toNat % 64)]
      else [UInt8.ofNat (c.toNat / 262144 % 8 + 0xF0), tail (c.toNat / 4096 % 64),
        tail (c.toNat / 64 % 64), tail (c.toNat % 64)] := rfl

theorem next_utf8EncodeChar (c : Char) :
    ∃ first others, String.utf8EncodeChar c = first :: others ∧
      ∀ rest, next first (others ++ rest) = (some c, rest) := by
  have hvalid : c.toNat < 0xD800 ∨ 0xDFFF < c.toNat ∧ c.toNat < 0x110000 := c.valid
  have hchar : ∀ {code}, code = c.toNat → Char.ofNat code = c := by
    rintro _ rfl
    exact c.ofNat_toNat
  rw [utf8EncodeChar_eq]
  generalize c.toNat = code at hvalid hchar ⊢
  have hlast : code % 64 < 0x40 := by omega
  have hmiddle : code / 64 % 64 < 0x40 := by omega
  split
  · next hone =>
      refine ⟨_, [], rfl, fun rest => ?_⟩
      simp [next, lead?_one (Nat.lt_succ_of_le hone), hchar]
  · split
    · next hone htwo =>
        refine ⟨_, _, rfl, fun rest => ?_⟩
        have hhigh : code % 64 + 0x80 ≤ 0xBF := by omega
        rw [List.singleton_append, next_two (lead?_two (by omega) (by omega))
          (not_tail_lt hlast (Nat.le_add_left _ _)) (not_lt_tail hlast hhigh),
          extend_tail _ hlast, hchar (by omega)]
    · split
      · next hone htwo hthree =>
          refine ⟨_, _, rfl, fun rest => ?_⟩
          rw [List.cons_append, List.singleton_append,
            next_three (lead?_three (by omega) (by omega)) (not_tail_lt hmiddle ?_)
              (not_lt_tail hmiddle ?_) (isTail_tail hlast),
            extend_tail _ hmiddle, extend_tail _ hlast, hchar (by omega)]
          · -- The shortest characters of three bytes come after those of two.
            split
            · change 0xA0 ≤ _
              omega
            · exact Nat.le_add_left _ _
          · -- The surrogates are left out.
            split
            · change _ ≤ 0x9F
              omega
            · change _ ≤ 0xBF
              omega
      · next hone htwo hthree =>
          have hsecond : code / 4096 % 64 < 0x40 := by omega
          refine ⟨_, _, rfl, fun rest => ?_⟩
          rw [List.cons_append, List.cons_append, List.singleton_append,
            next_four (lead?_four (by omega) (by omega)) (not_tail_lt hsecond ?_)
              (not_lt_tail hsecond ?_) (isTail_tail hmiddle) (isTail_tail hlast),
            extend_tail _ hsecond, extend_tail _ hmiddle, extend_tail _ hlast, hchar (by omega)]
          · split
            · change 0x90 ≤ _
              omega
            · exact Nat.le_add_left _ _
          · split
            · change _ ≤ 0x8F
              omega
            · change _ ≤ 0xBF
              omega

theorem steps_encode (done : List (Option Char)) (chars : List Char) :
    steps done (chars.flatMap String.utf8EncodeChar) = (chars.map some).reverse ++ done := by
  induction chars generalizing done with
  | nil => simp [steps]
  | cons c chars ih =>
      obtain ⟨first, others, hencode, hnext⟩ := next_utf8EncodeChar c
      rw [List.flatMap_cons, hencode, List.cons_append, steps, hnext, ih]
      simp

theorem lossy_encode (text : String) : lossy (encode text) = text := by
  have hid : (fun c : Option Char => c.getD '\uFFFD') ∘ some = id := rfl
  rw [lossy, encode, steps_encode, List.append_nil, List.reverse_reverse, List.map_map, hid,
    List.map_id, String.ofList_toList]

theorem ofNat_toNat_mem_of_mem_encode {text : String} {byte : UInt8} (hbyte : byte < 0x80)
    (hmem : byte ∈ encode text) : Char.ofNat byte.toNat ∈ text.toList := by
  obtain ⟨c, hc, hencode⟩ := List.mem_flatMap.1 hmem
  have htail : ∀ bits < 0x40, byte ≠ tail bits := by
    rintro bits hbits rfl
    rw [UInt8.lt_iff_toNat_lt, toNat_tail hbits] at hbyte
    exact absurd hbyte (Nat.not_lt.2 (Nat.le_add_left _ _))
  have hlead : ∀ code, 0x80 ≤ code → code < 0x100 → byte ≠ UInt8.ofNat code := by
    rintro code hlow hhigh rfl
    rw [UInt8.lt_iff_toNat_lt, toNat_ofNat_of_lt hhigh] at hbyte
    exact absurd hbyte (Nat.not_lt.2 hlow)
  rw [utf8EncodeChar_eq] at hencode
  split at hencode
  · next hone =>
      rw [List.mem_singleton.1 hencode, toNat_ofNat_of_lt (by omega), Char.ofNat_toNat]
      exact hc
  · have hlast := htail (c.toNat % 64) (by omega)
    have hmiddle := htail (c.toNat / 64 % 64) (by omega)
    have hsecond := htail (c.toNat / 4096 % 64) (by omega)
    have htwo := hlead (c.toNat / 64 % 32 + 0xC0) (by omega) (by omega)
    have hthree := hlead (c.toNat / 4096 % 16 + 0xE0) (by omega) (by omega)
    have hfour := hlead (c.toNat / 262144 % 8 + 0xF0) (by omega) (by omega)
    split at hencode
    · simp only [List.mem_cons, List.not_mem_nil, htwo, hlast, or_self] at hencode
    · split at hencode
      · simp only [List.mem_cons, List.not_mem_nil, hthree, hmiddle, hlast, or_self] at hencode
      · simp only [List.mem_cons, List.not_mem_nil, hfour, hsecond, hmiddle, hlast,
          or_self] at hencode

theorem ofNat_toNat_mem_encode {text : String} {c : Char} (hc : c ∈ text.toList)
    (hascii : c.toNat < 0x80) : UInt8.ofNat c.toNat ∈ encode text := by
  refine List.mem_flatMap.2 ⟨c, hc, ?_⟩
  rw [utf8EncodeChar_eq, if_pos (Nat.le_of_lt_succ hascii)]
  exact List.mem_singleton_self _

theorem lead?_cases {first : UInt8} {lead : Lead} (hlead : lead? first = some lead) :
    (lead.tails = 0 ∧ lead.bits = first.toNat) ∨ (lead.tails = 1 ∧ 2 ≤ lead.bits) ∨
      (2 ≤ lead.tails ∧ 2 ≤ extend lead.bits lead.low) := by
  have hall : ∀ code : Fin 256, (lead? (UInt8.ofNat code.val)).all (fun lead =>
      (lead.tails == 0 && lead.bits == code.val) || (lead.tails == 1 && 2 ≤ lead.bits) ||
        (2 ≤ lead.tails && 2 ≤ extend lead.bits lead.low)) = true := by decide +kernel
  have hfirst := hall ⟨first.toNat, first.toNat_lt⟩
  rw [UInt8.ofNat_toNat, hlead, Option.all_some] at hfirst
  simpa only [Bool.or_eq_true, Bool.and_eq_true, beq_iff_eq, decide_eq_true_eq, or_assoc]
    using hfirst

theorem le_extend_of_le {code : Nat} (hcode : 2 ≤ code) (byte : UInt8) :
    0x80 ≤ extend code byte := by
  unfold extend
  omega

theorem extend_mono (bits : Nat) {low byte : UInt8} (hlow : ¬ byte < low) :
    extend bits low ≤ extend bits byte := by
  rw [UInt8.lt_iff_toNat_lt] at hlow
  unfold extend
  omega

theorem toNat_ofNat_of_ne {code : Nat} (hnul : Char.ofNat code ≠ '\x00') :
    (Char.ofNat code).toNat = code := by
  by_cases hvalid : code.isValidChar
  · rw [Char.ofNat, dif_pos hvalid]
    rfl
  · rw [Char.ofNat, dif_neg hvalid] at hnul
    exact absurd rfl hnul

theorem toNat_of_next {first : UInt8} {bytes rest : List UInt8} {c : Char}
    (hnext : next first bytes = (some c, rest)) (hascii : c.toNat < 0x80) (hnul : c ≠ '\x00') :
    c.toNat = first.toNat := by
  have hlong : ∀ {code : Nat} {byte : UInt8}, 2 ≤ code → Char.ofNat (extend code byte) ≠ c := by
    rintro code byte hcode rfl
    rw [toNat_ofNat_of_ne hnul] at hascii
    exact absurd hascii (Nat.not_lt.2 (le_extend_of_le hcode byte))
  unfold next at hnext
  split at hnext
  · cases hnext
  · next lead hlead =>
      have hcases := lead?_cases hlead
      split at hnext
      · next htails =>
          obtain ⟨-, hbits⟩ := hcases.resolve_right (by omega)
          obtain rfl := Option.some.inj (Prod.mk.inj hnext).1
          rw [toNat_ofNat_of_ne hnul, hbits]
      · cases hnext
      · next second after hmany =>
          -- Every further byte can only lead beyond ASCII.
          exfalso
          split at hnext
          · cases hnext
          · next hrange =>
              have hlow : ¬ second < lead.low := by simp_all
              have hmore := extend_mono lead.bits hlow
              split at hnext
              · next hone =>
                  have hbits : 2 ≤ lead.bits := by omega
                  exact hlong hbits (Option.some.inj (Prod.mk.inj hnext).1)
              · cases hnext
              · next third afterThird hlonger =>
                  have htails : lead.tails ≠ 0 ∧ lead.tails ≠ 1 := ⟨hmany, hlonger⟩
                  have hcode : 2 ≤ extend lead.bits second := by omega
                  split at hnext
                  · cases hnext
                  · split at hnext
                    · exact hlong hcode (Option.some.inj (Prod.mk.inj hnext).1)
                    · cases hnext
                    · split at hnext
                      · cases hnext
                      · have hthird := le_extend_of_le hcode third
                        exact hlong (by omega) (Option.some.inj (Prod.mk.inj hnext).1)

theorem next_subset (first : UInt8) (bytes : List UInt8) : (next first bytes).2 ⊆ bytes := by
  unfold next
  repeat' split
  all_goals simp
  intro byte hbyte
  exact List.mem_cons_of_mem _ (List.mem_cons_of_mem _ (List.mem_cons_of_mem _ hbyte))

theorem mem_of_mem_steps {done : List (Option Char)} {bytes : List UInt8} {c : Char}
    (hc : some c ∈ steps done bytes) (hascii : c.toNat < 0x80) (hnul : c ≠ '\x00') :
    some c ∈ done ∨ UInt8.ofNat c.toNat ∈ bytes := by
  induction done, bytes using steps.induct with
  | case1 done =>
      rw [steps] at hc
      exact .inl hc
  | case2 done first bytes ih =>
      rw [steps] at hc
      rcases ih hc with hdone | hrest
      · rcases List.mem_cons.1 hdone with hfirst | hdone
        · have hnext : next first bytes = (some c, (next first bytes).2) :=
            Prod.ext hfirst.symm rfl
          rw [toNat_of_next hnext hascii hnul, UInt8.ofNat_toNat]
          exact .inr List.mem_cons_self
        · exact .inl hdone
      · exact .inr (List.mem_cons_of_mem _ (next_subset first bytes hrest))

theorem mem_of_mem_lossy {bytes : List UInt8} {c : Char} (hc : c ∈ (lossy bytes).toList)
    (hascii : c.toNat < 0x80) (hnul : c ≠ '\x00') : UInt8.ofNat c.toNat ∈ bytes := by
  rw [lossy, String.toList_ofList, List.mem_map] at hc
  obtain ⟨step, hstep, rfl⟩ := hc
  cases step with
  | none => exact absurd hascii (by decide)
  | some c =>
      rcases mem_of_mem_steps (List.mem_reverse.1 hstep) hascii hnul with hdone | hmem
      · cases hdone
      · exact hmem

theorem ofNat_cons_lt {code more : Nat} (hmore : more < 256) {bytes others : List UInt8}
    (hle : code ≤ more) (hrest : code = more → bytes < others) :
    UInt8.ofNat code :: bytes < UInt8.ofNat more :: others := by
  rw [List.cons_lt_cons_iff, UInt8.lt_iff_toNat_lt, ← UInt8.toNat_inj,
    toNat_ofNat_of_lt (Nat.lt_of_le_of_lt hle hmore), toNat_ofNat_of_lt hmore]
  exact (Nat.lt_or_eq_of_le hle).imp_right fun heq => ⟨heq, hrest heq⟩

theorem utf8EncodeChar_append_lt {c other : Char} (h : c < other) (bytes others : List UInt8) :
    String.utf8EncodeChar c ++ bytes < String.utf8EncodeChar other ++ others := by
  have hcode : c.toNat < other.toNat := h
  have hvalid : other.toNat < 0xD800 ∨ 0xDFFF < other.toNat ∧ other.toNat < 0x110000 := other.valid
  rw [utf8EncodeChar_eq, utf8EncodeChar_eq]
  unfold tail
  generalize c.toNat = code at hcode ⊢
  generalize other.toNat = more at hcode hvalid ⊢
  -- A longer character has a greater first byte; characters of one length differ where their codes
  -- do.
  split
  · repeat' split
    all_goals exact ofNat_cons_lt (by omega) (by omega) (by omega)
  · split
    · repeat' split
      · omega
      · exact ofNat_cons_lt (by omega) (by omega) fun _ =>
          ofNat_cons_lt (by omega) (by omega) (by omega)
      all_goals exact ofNat_cons_lt (by omega) (by omega) (by omega)
    · split
      · repeat' split
        · omega
        · omega
        · exact ofNat_cons_lt (by omega) (by omega) fun _ => ofNat_cons_lt (by omega) (by omega)
            fun _ => ofNat_cons_lt (by omega) (by omega) (by omega)
        · exact ofNat_cons_lt (by omega) (by omega) (by omega)
      · rw [if_neg (by omega), if_neg (by omega), if_neg (by omega)]
        exact ofNat_cons_lt (by omega) (by omega) fun _ => ofNat_cons_lt (by omega) (by omega)
          fun _ => ofNat_cons_lt (by omega) (by omega) fun _ =>
            ofNat_cons_lt (by omega) (by omega) (by omega)

/-- The order of texts is that of their bytes. -/
theorem encode_lt_encode {text other : String} (h : text < other) : encode text < encode other := by
  have hchars : text.toList < other.toList := h
  unfold encode
  generalize text.toList = chars at hchars ⊢
  generalize other.toList = others at hchars ⊢
  induction hchars with
  | @nil c _ =>
      obtain ⟨first, rest, hencode, -⟩ := next_utf8EncodeChar c
      rw [List.flatMap_nil, List.flatMap_cons, hencode]
      exact List.nil_lt_cons _ _
  | cons _ ih =>
      rw [List.flatMap_cons, List.flatMap_cons]
      exact List.append_left_lt ih
  | rel hlt =>
      rw [List.flatMap_cons, List.flatMap_cons]
      exact utf8EncodeChar_append_lt hlt _ _

end ApiBridge.Utf8
