import ApiBridge.Proofs.Table
import ApiBridge.Schema.Validate
import Mathlib.Logic.Basic

namespace ApiBridge.Schema

variable {keywords : Table Json} {value : Json} {kind : Kind} {message : String}

namespace Kind

/-- The values of a kind. Every number is of the kind `number`, and those without a fraction are also
of the kind `integer`. -/
inductive Has : Kind → Json → Prop where
  | null : Has .null .null
  | boolean (b : Bool) : Has .boolean (.bool b)
  | string (text : String) : Has .string (.string text)
  | array (items : List Json) : Has .array (.array items)
  | object (members : Table Json) : Has .object (.object members)
  | number (number : Number) : Has .number (.number number)
  | integer (i : Int) : Has .integer (.number (.int i))
  | whole {x : Binary64} (hfinite : x.isFinite = true) (n : Nat)
      (hunits : x.units = n * Binary64.unitsPerOne) : Has .integer (.number (.float x))

theorem ofName?_eq_some {name : String} : ofName? name = some kind ↔ name = kind.name := by
  constructor
  · intro hfound
    have hname := List.find?_some (show all.find? (fun kind => kind.name == name) = _ from hfound)
    exact (eq_of_beq hname).symm
  · rintro rfl
    cases kind <;> decide +kernel

theorem accepts_iff : kind.accepts value = true ↔ kind.Has value := by
  constructor
  · intro haccepts
    unfold accepts at haccepts
    split at haccepts
    · exact .number _
    · next x =>
        rw [Bool.and_eq_true, Bool.not_eq_true', Binary64.hasFraction, bne_eq_false_iff_eq] at haccepts
        obtain ⟨hfinite, hrest⟩ := haccepts
        exact .whole hfinite _ (Nat.div_mul_cancel (Nat.dvd_of_mod_eq_zero hrest)).symm
    · obtain rfl := eq_of_beq haccepts
      rcases value with _ | b | (i | x) | text | items | members
      · exact .null
      · exact .boolean b
      · exact .integer i
      · exact .number _
      · exact .string text
      · exact .array items
      · exact .object members
  · intro hhas
    cases hhas with
    | whole hfinite n hunits => simp [accepts, hfinite, Binary64.hasFraction, hunits]
    | _ => rfl

end Kind

/-- A schema names a kind with the keyword `type`: as its value, or in the list that is its
value. -/
inductive Names (keywords : Table Json) (kind : Kind) : Prop where
  | alone (hname : keywords.find? "type" = some (.string kind.name))
  | listed {names : List Json} (hnames : keywords.find? "type" = some (.array names))
      (hname : .string kind.name ∈ names)

theorem mem_typeNames : kind ∈ typeNames keywords ↔ Names keywords kind := by
  constructor
  · intro hkind
    unfold typeNames at hkind
    split at hkind
    · next name hname =>
        obtain rfl := Kind.ofName?_eq_some.1 (Option.mem_toList.1 hkind)
        exact .alone hname
    · next names hnames =>
        obtain ⟨name, hmember, hname⟩ := List.mem_filterMap.1 hkind
        obtain ⟨text, htext, hkind⟩ := Option.bind_eq_some_iff.1 hname
        rw [Kind.ofName?_eq_some] at hkind
        subst hkind
        cases name with
        | string text =>
            obtain rfl := Option.some.inj htext
            exact .listed hnames hmember
        | _ => cases htext
    · cases hkind
  · intro hnames
    unfold typeNames
    cases hnames with
    | alone hname =>
        rw [hname]
        exact Option.mem_toList.2 (Kind.ofName?_eq_some.2 rfl)
    | listed hnames hname =>
        rw [hnames]
        exact List.mem_filterMap.2 ⟨_, hname, Kind.ofName?_eq_some.2 rfl⟩

inductive Keyword where
  | type
  | enum
  | minimum
  | maximum
  | required
  | additionalProperties
  deriving DecidableEq, Repr

/-- Whether a value meets a keyword of a schema. A keyword that is missing, or whose own value is of
no use, asks for nothing. -/
def Meets (keywords : Table Json) (value : Json) : Keyword → Prop
  | .type => (∃ kind, Names keywords kind) → ∃ kind, Names keywords kind ∧ kind.Has value
  | .enum => ∀ allowed, keywords.find? "enum" = some (.array allowed) →
      ∃ other ∈ allowed, other.same value = true
  | .minimum => ∀ number low, value = .number number →
      keywords.find? "minimum" = some (.number low) → number.toBinary64.lt low.toBinary64 = false
  | .maximum => ∀ number high, value = .number number →
      keywords.find? "maximum" = some (.number high) → high.toBinary64.lt number.toBinary64 = false
  | .required => ∀ members names, value = .object members →
      keywords.find? "required" = some (.array names) →
      ∀ name, .string name ∈ names → Table.has name members = true
  | .additionalProperties => ∀ members, value = .object members →
      keywords.find? "additionalProperties" = some (.bool false) →
      ∀ key ∈ Table.keys members, ∃ properties,
        keywords.find? "properties" = some (.object properties) ∧ key ∈ Table.keys properties

/-- What is said about a value that does not meet a keyword. -/
inductive Complaint (keywords : Table Json) : Json → Keyword → String → Prop where
  | type {value : Json} {kind : Kind} (hnamed : Names keywords kind)
      (hnone : ∀ kind, Names keywords kind → ¬ kind.Has value) :
      Complaint keywords value .type (mismatchText keywords value)
  | enum {value : Json} {allowed : List Json} (henum : keywords.find? "enum" = some (.array allowed))
      (hnone : ∀ other ∈ allowed, other.same value = false) :
      Complaint keywords value .enum
        (value.compact ++ " is not one of " ++ (Json.array allowed).compact)
  | minimum {number low : Number} (hlow : keywords.find? "minimum" = some (.number low))
      (hlt : number.toBinary64.lt low.toBinary64 = true) :
      Complaint keywords (.number number) .minimum
        (numberText number.toBinary64 ++ " is less than minimum " ++ numberText low.toBinary64)
  | maximum {number high : Number} (hhigh : keywords.find? "maximum" = some (.number high))
      (hlt : high.toBinary64.lt number.toBinary64 = true) :
      Complaint keywords (.number number) .maximum
        (numberText number.toBinary64 ++ " is greater than maximum " ++ numberText high.toBinary64)
  | required {members : Table Json} {names : List Json} {name : String}
      (hnames : keywords.find? "required" = some (.array names)) (hname : .string name ∈ names)
      (hmissing : members.has name = false) :
      Complaint keywords (.object members) .required ("missing required property '" ++ name ++ "'")
  | additionalProperties {members : Table Json} {key : String}
      (hclosed : keywords.find? "additionalProperties" = some (.bool false))
      (hkey : key ∈ members.keys)
      (hunknown : ∀ properties, keywords.find? "properties" = some (.object properties) →
        key ∉ Table.keys properties) :
      Complaint keywords (.object members) .additionalProperties ("unexpected property '" ++ key ++ "'")

theorem exists_complaint_iff {keyword : Keyword} :
    (∃ message, Complaint keywords value keyword message) ↔ ¬ Meets keywords value keyword := by
  constructor
  · rintro ⟨message, hcomplaint⟩ hmeets
    cases hcomplaint with
    | type hnamed hnone =>
        obtain ⟨kind, hkind, hhas⟩ := hmeets ⟨_, hnamed⟩
        exact hnone kind hkind hhas
    | enum henum hnone =>
        obtain ⟨other, hother, hsame⟩ := hmeets _ henum
        simp [hnone other hother] at hsame
    | minimum hlow hlt => simp [hmeets _ _ rfl hlow] at hlt
    | maximum hhigh hlt => simp [hmeets _ _ rfl hhigh] at hlt
    | required hnames hname hmissing => simp [hmeets _ _ rfl hnames _ hname] at hmissing
    | additionalProperties hclosed hkey hunknown =>
        obtain ⟨properties, hproperties, hknown⟩ := hmeets _ rfl hclosed _ hkey
        exact hunknown properties hproperties hknown
  · intro hviolates
    cases keyword with
    | type =>
        simp only [Meets, not_forall, not_exists, not_and] at hviolates
        obtain ⟨⟨kind, hnamed⟩, hnone⟩ := hviolates
        exact ⟨_, .type hnamed hnone⟩
    | enum =>
        simp only [Meets, not_forall, not_exists, not_and, Bool.not_eq_true] at hviolates
        obtain ⟨allowed, henum, hnone⟩ := hviolates
        exact ⟨_, .enum henum hnone⟩
    | minimum =>
        simp only [Meets, not_forall, Bool.not_eq_false] at hviolates
        obtain ⟨number, low, rfl, hlow, hlt⟩ := hviolates
        exact ⟨_, .minimum hlow hlt⟩
    | maximum =>
        simp only [Meets, not_forall, Bool.not_eq_false] at hviolates
        obtain ⟨number, high, rfl, hhigh, hlt⟩ := hviolates
        exact ⟨_, .maximum hhigh hlt⟩
    | required =>
        simp only [Meets, not_forall, Bool.not_eq_true] at hviolates
        obtain ⟨members, names, rfl, hnames, name, hname, hmissing⟩ := hviolates
        exact ⟨_, .required hnames hname hmissing⟩
    | additionalProperties =>
        simp only [Meets, not_forall, not_exists, not_and] at hviolates
        obtain ⟨members, rfl, hclosed, key, hkey, hunknown⟩ := hviolates
        exact ⟨_, .additionalProperties hclosed hkey hunknown⟩

theorem isMismatch_iff : isMismatch keywords value = true ↔ ¬ Meets keywords value .type := by
  unfold isMismatch Meets
  dsimp only
  simp only [Bool.and_eq_true, Bool.not_eq_true', List.isEmpty_eq_false_iff_exists_mem,
    List.any_eq_false, mem_typeNames, Kind.accepts_iff]
  simp only [not_forall, not_exists, not_and, exists_prop]

theorem complaint_type_iff :
    Complaint keywords value .type message ↔
      ¬ Meets keywords value .type ∧ message = mismatchText keywords value := by
  constructor
  · intro hcomplaint
    refine ⟨exists_complaint_iff.1 ⟨message, hcomplaint⟩, ?_⟩
    cases hcomplaint
    rfl
  · rintro ⟨hviolates, rfl⟩
    obtain ⟨_, hcomplaint⟩ := exists_complaint_iff.2 hviolates
    cases hcomplaint with
    | type hnamed hnone => exact .type hnamed hnone

theorem mem_enumTexts :
    message ∈ enumTexts keywords value ↔ Complaint keywords value .enum message := by
  constructor
  · intro hmessage
    unfold enumTexts at hmessage
    split at hmessage
    · next allowed henum =>
        split at hmessage
        · cases hmessage
        · next hnone =>
            obtain rfl := List.mem_singleton.1 hmessage
            exact .enum henum (by simpa using hnone)
    · cases hmessage
  · intro hcomplaint
    cases hcomplaint with
    | @enum _ allowed henum hnone =>
        unfold enumTexts
        have hno : (allowed.any fun other => other.same value) = false := by simpa using hnone
        rw [henum]
        simp only [hno]
        exact List.mem_singleton_self _

theorem bound?_eq_some {keyword : String} {bound : Binary64} :
    bound? keywords keyword = some bound ↔
      ∃ number, keywords.find? keyword = some (.number number) ∧ number.toBinary64 = bound := by
  unfold bound?
  constructor
  · intro hbound
    obtain ⟨number, hnumber, hvalue⟩ := Option.map_eq_some_iff.1 hbound
    obtain ⟨found, hfound, hread⟩ := Option.bind_eq_some_iff.1 hnumber
    cases found with
    | number found =>
        obtain rfl := Option.some.inj hread
        exact ⟨_, hfound, hvalue⟩
    | _ => cases hread
  · rintro ⟨number, hfound, hvalue⟩
    rw [hfound]
    exact congrArg some hvalue

theorem mem_boundTexts :
    message ∈ boundTexts keywords value ↔
      Complaint keywords value .minimum message ∨ Complaint keywords value .maximum message := by
  constructor
  · intro hmessage
    unfold boundTexts at hmessage
    split at hmessage
    · cases hmessage
    · next number hnumber =>
        cases value with
        | number found =>
            obtain rfl := Option.some.inj hnumber
            rcases List.mem_append.1 hmessage with hbelow | habove
            · left
              split at hbelow
              · next bound hbound =>
                  obtain ⟨low, hlow, rfl⟩ := bound?_eq_some.1 hbound
                  split at hbelow
                  · next hlt =>
                      obtain rfl := List.mem_singleton.1 hbelow
                      exact .minimum hlow hlt
                  · cases hbelow
              · cases hbelow
            · right
              split at habove
              · next bound hbound =>
                  obtain ⟨high, hhigh, rfl⟩ := bound?_eq_some.1 hbound
                  split at habove
                  · next hlt =>
                      obtain rfl := List.mem_singleton.1 habove
                      exact .maximum hhigh hlt
                  · cases habove
              · cases habove
        | _ => cases hnumber
  · rintro (hcomplaint | hcomplaint)
    · cases hcomplaint with
      | minimum hlow hlt =>
          refine List.mem_append_left _ ?_
          rw [bound?_eq_some.2 ⟨_, hlow, rfl⟩]
          simp only [hlt, if_true]
          exact List.mem_singleton_self _
    · cases hcomplaint with
      | maximum hhigh hlt =>
          refine List.mem_append_right _ ?_
          rw [bound?_eq_some.2 ⟨_, hhigh, rfl⟩]
          simp only [hlt, if_true]
          exact List.mem_singleton_self _

theorem mem_requiredTexts :
    message ∈ requiredTexts keywords value ↔ Complaint keywords value .required message := by
  constructor
  · intro hmessage
    unfold requiredTexts at hmessage
    split at hmessage
    · next members names hnames =>
        obtain ⟨name, hname, htext⟩ := List.mem_filterMap.1 hmessage
        obtain ⟨listed, hlisted, hread⟩ := List.mem_filterMap.1 hname
        cases listed with
        | string text =>
            obtain rfl := Option.some.inj hread
            split at htext
            · cases htext
            · next hmissing =>
                obtain rfl := Option.some.inj htext
                exact .required hnames hlisted (by simpa using hmissing)
        | _ => cases hread
    · cases hmessage
  · intro hcomplaint
    cases hcomplaint with
    | @required members names name hnames hname hmissing =>
        unfold requiredTexts
        simp only [hnames]
        refine List.mem_filterMap.2 ⟨name, List.mem_filterMap.2 ⟨_, hname, rfl⟩, ?_⟩
        rw [hmissing]
        rfl

theorem isClosed_iff :
    isClosed keywords = true ↔
      keywords.find? "additionalProperties" = some (.bool false) := by
  unfold isClosed
  split
  · next hfalse => simp [hfalse]
  · next hother => simpa using hother

theorem properties_eq_of_some {members : Table Json}
    (hproperties : keywords.find? "properties" = some (.object members)) :
    properties keywords = members := by
  rw [properties, hproperties]
  rfl

theorem has_properties_iff {key : String} :
    (properties keywords).has key = true ↔
      ∃ members, keywords.find? "properties" = some (.object members) ∧
        key ∈ Table.keys members := by
  constructor
  · intro hhas
    unfold properties at hhas
    cases hfound : keywords.find? "properties" with
    | none => simp [hfound, Table.has, Table.find?] at hhas
    | some found =>
        cases found with
        | object members =>
            simp only [hfound, Option.bind_some, Json.object?, Option.getD_some] at hhas
            exact ⟨members, rfl, Table.has_iff.1 hhas⟩
        | _ => simp [hfound, Json.object?, Table.has, Table.find?] at hhas
  · rintro ⟨members, hfound, hkey⟩
    rw [properties_eq_of_some hfound]
    exact Table.has_iff.2 hkey

theorem mem_unexpectedTexts :
    message ∈ unexpectedTexts keywords value ↔
      Complaint keywords value .additionalProperties message := by
  constructor
  · intro hmessage
    unfold unexpectedTexts at hmessage
    split at hmessage
    · next members hclosed =>
        obtain ⟨⟨key, member⟩, hmember, htext⟩ := List.mem_filterMap.1 hmessage
        dsimp only at htext
        split at htext
        · cases htext
        · next hunknown =>
            obtain rfl := Option.some.inj htext
            refine .additionalProperties (isClosed_iff.1 hclosed)
              (List.mem_map.2 ⟨_, hmember, rfl⟩) ?_
            intro properties hproperties hkey
            exact hunknown (has_properties_iff.2 ⟨properties, hproperties, hkey⟩)
    · cases hmessage
  · intro hcomplaint
    cases hcomplaint with
    | @additionalProperties members key hclosed hkey hunknown =>
        obtain ⟨⟨key, member⟩, hmember, rfl⟩ := List.mem_map.1 hkey
        have hhas : ¬ (properties keywords).has key = true := by
          intro hhas
          obtain ⟨properties, hproperties, hknown⟩ := has_properties_iff.1 hhas
          exact hunknown properties hproperties hknown
        unfold unexpectedTexts
        simp only [isClosed_iff.2 hclosed]
        exact List.mem_filterMap.2 ⟨_, hmember, if_neg hhas⟩

end ApiBridge.Schema
