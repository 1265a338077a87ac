import ApiBridge.Proofs.Schema.Part

namespace ApiBridge.Schema

variable {keywords : Table Json} {schema value : Json}

/-- A schema that is no object is satisfied by every value. One that is an object is satisfied by the
values that meet its keywords, whose members satisfy the schemas that are listed for them, and whose
items satisfy the schema of items. -/
inductive Satisfies : Json → Json → Prop where
  | free {schema value : Json} (hschema : schema.object? = none) : Satisfies schema value
  | object {keywords : Table Json} {value : Json} (hmeets : ∀ keyword, Meets keywords value keyword)
      (hmembers : ∀ properties members, keywords.find? "properties" = some (.object properties) →
        value = .object members → ∀ key subschema member, (key, subschema) ∈ properties →
        Table.find? key members = some member → Satisfies subschema member)
      (hitems : ∀ itemSchema items, keywords.find? "items" = some itemSchema →
        value = .array items → ∀ item ∈ items, Satisfies itemSchema item) :
      Satisfies (.object keywords) value

theorem satisfies_object_iff :
    Satisfies (.object keywords) value ↔ (∀ keyword, Meets keywords value keyword) ∧
      ∀ part, IsPart keywords value part → Satisfies part.schema part.value := by
  constructor
  · intro hsatisfies
    cases hsatisfies with
    | free hschema => cases hschema
    | object hmeets hmembers hitems =>
        refine ⟨hmeets, fun part hpart => ?_⟩
        cases hpart with
        | member hproperties hproperty hmember =>
            exact hmembers _ _ hproperties rfl _ _ _ hproperty hmember
        | item hschema hitem => exact hitems _ _ hschema rfl _ (List.mem_of_getElem? hitem)
  · rintro ⟨hmeets, hparts⟩
    refine .object hmeets ?_ ?_
    · rintro properties members hproperties rfl key subschema member hproperty hmember
      exact hparts _ (.member hproperties hproperty hmember)
    · rintro itemSchema items hschema rfl item hitem
      obtain ⟨index, hitem⟩ := List.mem_iff_getElem?.1 hitem
      exact hparts _ (.item hschema hitem)

theorem check_object_eq_nil_iff {base : Location} :
    check (.object keywords) value base = [] ↔
      (∀ keyword, Meets keywords value keyword) ∧
        ∀ part, IsPart keywords value part →
          check part.schema part.value (base ++ [part.step]) = [] := by
  simp only [List.eq_nil_iff_forall_not_mem, mem_check_object, mem_parts]
  constructor
  · intro hnone
    have hmeets (keyword : Keyword) : Meets keywords value keyword := by
      by_contra hviolates
      obtain ⟨message, hsaid⟩ := exists_said_iff.2 ⟨keyword, hviolates⟩
      exact hnone ⟨base, message⟩ (.inl ⟨rfl, hsaid⟩)
    exact ⟨hmeets, fun part hpart diff hdiff =>
      hnone diff (.inr ⟨hmeets .type, part, hpart, hdiff⟩)⟩
  · rintro ⟨hmeets, hparts⟩ diff (⟨-, hsaid⟩ | ⟨-, part, hpart, hdiff⟩)
    · obtain ⟨keyword, hviolates⟩ := exists_said_iff.1 ⟨_, hsaid⟩
      exact hviolates (hmeets keyword)
    · exact hparts part hpart diff hdiff

theorem check_eq_nil_iff (schema : Json) (value : Json) (base : Location) :
    check schema value base = [] ↔ Satisfies schema value := by
  induction schema using parts_induction generalizing value base with
  | hother schema hschema =>
      exact iff_of_true (check_of_not_object hschema value base) (.free hschema)
  | hobject keywords ih =>
      rw [check_object_eq_nil_iff, satisfies_object_iff]
      refine and_congr_right fun _ => forall₂_congr fun part hpart => ?_
      exact ih value part (mem_parts.2 hpart) part.value (base ++ [part.step])

/-- Validation decides satisfaction, whatever the schema is: a value is valid just if it satisfies
the schema, and just if no difference is told. -/
theorem validate_valid_iff (payload schema : Json) :
    ((validate payload schema).valid = true ↔ Satisfies schema payload) ∧
      ((validate payload schema).valid = true ↔ (validate payload schema).diffs = []) := by
  have hvalid : (validate payload schema).valid = true ↔ (validate payload schema).diffs = [] :=
    List.isEmpty_iff
  exact ⟨hvalid.trans (check_eq_nil_iff schema payload []), hvalid⟩

end ApiBridge.Schema
