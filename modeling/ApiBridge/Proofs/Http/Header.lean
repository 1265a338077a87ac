import ApiBridge.Http.Header
import ApiBridge.Proofs.Table
import ApiBridge.Proofs.Text.Utf8

namespace ApiBridge

namespace Text

theorem equalFold_iff {left right : String} :
    equalFold left right = true ↔
      left.toList.map Char.toLower = right.toList.map Char.toLower :=
  beq_iff_eq

theorem equalFold_refl (text : String) : equalFold text text = true := equalFold_iff.2 rfl

theorem equalFold_comm (left right : String) : equalFold left right = equalFold right left :=
  Bool.eq_iff_iff.2 ⟨fun h => equalFold_iff.2 (equalFold_iff.1 h).symm,
    fun h => equalFold_iff.2 (equalFold_iff.1 h).symm⟩

theorem equalFold_congr {left right : String} (hsame : equalFold left right = true)
    (other : String) : equalFold left other = equalFold right other := by
  unfold equalFold
  rw [equalFold_iff.1 hsame]

end Text

namespace Http

namespace Header

/-- The headers of a name in any case. -/
def entries (headers : List (String × String)) (name : String) : List (String × String) :=
  headers.filter fun header => Text.equalFold header.1 name

/-- The values of the headers of a name in any case. -/
def values (headers : List (String × String)) (name : String) : List String :=
  (entries headers name).map Prod.snd

/-- Whether no two headers have names that are equal up to case. -/
def IsUnique (headers : List (String × String)) : Prop :=
  headers.Pairwise fun header other => Text.equalFold header.1 other.1 = false

instance (headers : List (String × String)) : Decidable (IsUnique headers) :=
  inferInstanceAs (Decidable (headers.Pairwise fun header other =>
    Text.equalFold header.1 other.1 = false))

theorem entries_cons (header : String × String) (rest : List (String × String)) (name : String) :
    entries (header :: rest) name =
      if Text.equalFold header.1 name then header :: entries rest name else entries rest name :=
  List.filter_cons

theorem entries_append (headers more : List (String × String)) (name : String) :
    entries (headers ++ more) name = entries headers name ++ entries more name :=
  List.filter_append ..

theorem entries_congr {name other : String} (hname : Text.equalFold name other = true)
    (headers : List (String × String)) : entries headers name = entries headers other := by
  refine List.filter_congr fun header _ => ?_
  rw [Text.equalFold_comm, Text.equalFold_congr hname, Text.equalFold_comm]

theorem values_append (headers more : List (String × String)) (name : String) :
    values (headers ++ more) name = values headers name ++ values more name := by
  rw [values, entries_append, List.map_append]
  rfl

theorem entries_of_isUnique {header : String × String} {rest : List (String × String)}
    (h : IsUnique (header :: rest)) {name : String}
    (hname : Text.equalFold header.1 name = true) : entries rest name = [] := by
  refine List.filter_eq_nil_iff.2 ?_
  intro other hother hsame
  have hdifferent := (List.pairwise_cons.1 h).1 other hother
  rw [Text.equalFold_congr hname, Text.equalFold_comm, hsame] at hdifferent
  cases hdifferent

theorem length_entries_le_one {headers : List (String × String)} (h : IsUnique headers)
    (name : String) : (entries headers name).length ≤ 1 := by
  induction headers with
  | nil => exact Nat.zero_le 1
  | cons header rest ih =>
      rw [entries_cons]
      split
      · next hname =>
          rw [entries_of_isUnique h hname]
          exact Nat.le_refl 1
      · exact ih (List.pairwise_cons.1 h).2

theorem any_equalFold (headers : List (String × String)) (name : String) :
    headers.any (fun header => Text.equalFold header.1 name) = true ↔
      entries headers name ≠ [] := by
  rw [List.any_eq_true, ne_eq, entries, List.filter_eq_nil_iff]
  simp

theorem entries_put (headers : Table String) (name value other : String) :
    entries (put headers name value) other =
      if Text.equalFold name other then [(name, value)] else entries headers other := by
  unfold put entries
  split
  · next hname =>
      apply Table.filter_put_of_absent (fun key => Text.equalFold key other) name hname
      intro header hheader
      have hdifferent := (List.mem_filter.1 hheader).2
      rw [Text.equalFold_comm, Text.equalFold_congr hname, Text.equalFold_comm] at hdifferent
      simpa using hdifferent
  · next hname =>
      have hput := Table.filter_put_of_not (fun key => Text.equalFold key other) name
        (Bool.eq_false_iff.2 hname) value
        (headers.filter fun header => !Text.equalFold header.1 name)
      rw [hput, List.filter_filter]
      refine List.filter_congr fun header _ => ?_
      cases hother : Text.equalFold header.1 other with
      | false => rfl
      | true =>
          rw [Text.equalFold_congr hother, Text.equalFold_comm, Bool.eq_false_iff.2 hname]
          rfl

theorem entries_merge_last (headers changes : Table String) (name : String) :
    entries (merge headers changes) name =
      ((entries changes name).getLast?.map fun last => [last]).getD (entries headers name) := by
  induction changes generalizing headers with
  | nil => rfl
  | cons change rest ih =>
      rw [merge, List.foldl_cons, ← merge, ih, entries_put, entries_cons]
      by_cases hname : Text.equalFold change.1 name
      · rw [if_pos hname, if_pos hname, List.getLast?_cons]
        cases (entries rest name).getLast? <;> rfl
      · rw [if_neg hname, if_neg hname]

theorem entries_merge (headers : Table String) {changes : Table String} (h : IsUnique changes)
    (name : String) :
    entries (merge headers changes) name =
      if entries changes name = [] then entries headers name else entries changes name := by
  have hone := length_entries_le_one h name
  rw [entries_merge_last]
  match entries changes name, hone with
  | [], _ => rfl
  | [change], _ => rfl

theorem filter_putIfAbsent (test : String → Bool) (name : String)
    (hname : test name = false) (headers : Table String) (value : String) :
    (putIfAbsent headers name value).filter (fun header => test header.1) =
      headers.filter fun header => test header.1 := by
  unfold putIfAbsent
  split
  · rfl
  · exact Table.filter_put_of_not test name hname value headers

theorem entries_putIfAbsent (headers : Table String) (name value other : String) :
    entries (putIfAbsent headers name value) other =
      if Text.equalFold name other ∧ entries headers other = [] then [(name, value)]
      else entries headers other := by
  have hany := any_equalFold headers name
  by_cases hname : Text.equalFold name other = true
  · unfold putIfAbsent
    rw [entries_congr hname] at hany
    by_cases hnone : entries headers other = []
    · rw [if_neg (fun hthere => hany.1 hthere hnone), if_pos ⟨hname, hnone⟩]
      apply Table.filter_put_of_absent (fun key => Text.equalFold key other) name hname
      intro header hheader
      exact Bool.eq_false_iff.2 (List.filter_eq_nil_iff.1 hnone header hheader)
    · rw [if_pos (hany.2 hnone), if_neg fun hboth => hnone hboth.2]
  · rw [if_neg fun hboth => hname hboth.1]
    exact filter_putIfAbsent (fun key => Text.equalFold key other) name
      (Bool.eq_false_iff.2 hname) headers value

theorem length_entries_putIfAbsent {headers : Table String} {name value other : String}
    (h : (entries headers other).length ≤ 1) :
    (entries (putIfAbsent headers name value) other).length ≤ 1 := by
  rw [entries_putIfAbsent]
  split
  · exact Nat.le_refl 1
  · exact h

/-- A header that is put into a table under one spelling of its name leaves the other spellings. -/
theorem entries_tablePut_perm {headers : Table String} (h : headers.IsOrdered)
    {name other : String} (hname : Text.equalFold name other = true) (value : String) :
    (entries (headers.put name value) other).Perm
      ((name, value) :: (entries headers other).filter fun header => !header.1 == name) := by
  have hput := (Table.put_perm h name value).filter fun header => Text.equalFold header.1 other
  have hcomm : (entries headers other).filter (fun header => !header.1 == name) =
      (headers.filter fun header => !header.1 == name).filter fun header =>
        Text.equalFold header.1 other := by
    rw [entries, List.filter_filter, List.filter_filter]
    simp only [Bool.and_comm]
  rwa [List.filter_cons, if_pos hname, ← hcomm] at hput

theorem isOrdered_put {headers : Table String} (h : headers.IsOrdered) (name value : String) :
    Table.IsOrdered (put headers name value) :=
  (h.filter _).put name value

theorem isOrdered_merge {headers : Table String} (h : headers.IsOrdered) (changes : Table String) :
    Table.IsOrdered (merge headers changes) := by
  induction changes generalizing headers with
  | nil => exact h
  | cons change rest ih => exact ih (isOrdered_put h change.1 change.2)

theorem isOrdered_putIfAbsent {headers : Table String} (h : headers.IsOrdered)
    (name value : String) : Table.IsOrdered (putIfAbsent headers name value) := by
  unfold putIfAbsent
  split
  · exact h
  · exact h.put name value

/-- The characters of header values, as `isValueByte` has them. -/
def isValueChar (c : Char) : Bool := (0x20 ≤ c.toNat && c.toNat != 0x7F) || c == '\t'

theorem isValueByte_ofNat {code : Nat} (hcode : code < 0x80) :
    isValueByte (UInt8.ofNat code) = isValueChar (Char.ofNat code) := by
  have hall : ∀ code : Fin 0x80, isValueByte (UInt8.ofNat code.val) =
      isValueChar (Char.ofNat code.val) := by decide +kernel
  exact hall ⟨code, hcode⟩

theorem isValueByte_of_le {byte : UInt8} (hbyte : 0x80 ≤ byte) : isValueByte byte = true := by
  rw [UInt8.le_iff_toNat_le] at hbyte
  simp only [isValueByte, UInt8.le_iff_toNat_le, Bool.or_eq_true, Bool.and_eq_true,
    decide_eq_true_eq, bne_iff_ne, ne_eq, ← UInt8.toNat_inj]
  change 0x80 ≤ byte.toNat at hbyte
  left
  constructor
  · change 0x20 ≤ _
    omega
  · change ¬ _ = 0x7F
    omega

theorem isLegalValue_encode (text : String) :
    isLegalValue (Utf8.encode text) = true ↔ ∀ c ∈ text.toList, isValueChar c = true := by
  rw [isLegalValue, List.all_eq_true]
  constructor
  · intro hbytes c hc
    by_cases hascii : c.toNat < 0x80
    · have hbyte := hbytes _ (Utf8.ofNat_toNat_mem_encode hc hascii)
      rw [isValueByte_ofNat hascii, Char.ofNat_toNat] at hbyte
      exact hbyte
    · have hcode : 0x20 ≤ c.toNat ∧ c.toNat ≠ 0x7F := by omega
      simp [isValueChar, hcode]
  · intro hchars byte hbyte
    by_cases hascii : byte < 0x80
    · have hc := hchars _ (Utf8.ofNat_toNat_mem_of_mem_encode hascii hbyte)
      rw [← isValueByte_ofNat (UInt8.lt_iff_toNat_lt.1 hascii), UInt8.ofNat_toNat] at hc
      exact hc
    · exact isValueByte_of_le (UInt8.not_lt.1 hascii)

end Header

end Http

end ApiBridge
