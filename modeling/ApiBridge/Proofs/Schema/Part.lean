import ApiBridge.Proofs.Schema.Keyword
import Mathlib.Data.List.Basic

/-!
The parts of a value that a schema has a schema of its own for: members that it lists, and items.
What is wrong with a value is what is wrong with the value itself and with its parts.
-/

namespace ApiBridge.Schema

variable {keywords : Table Json} {value : Json} {base : Location} {diff : Diff}

/-- A member or an item of a value, with the schema that it is checked against. -/
structure Part where
  step : Step
  schema : Json
  value : Json

/-- The parts of a value in the order in which they are checked. -/
def parts (keywords : Table Json) (value : Json) : List Part :=
  match value with
  | .object members =>
      (properties keywords).filterMap fun (key, schema) =>
        (Table.find? key members).map fun member => ⟨.member key, schema, member⟩
  | .array items =>
      match keywords.find? "items" with
      | some schema => items.zipIdx.map fun (item, index) => ⟨.item index, schema, item⟩
      | none => []
  | _ => []

/-- What the parts of a value are. -/
inductive IsPart (keywords : Table Json) : Json → Part → Prop where
  | member {properties members : Table Json} {key : String} {schema member : Json}
      (hproperties : keywords.find? "properties" = some (.object properties))
      (hproperty : (key, schema) ∈ properties) (hmember : Table.find? key members = some member) :
      IsPart keywords (.object members) ⟨.member key, schema, member⟩
  | item {items : List Json} {index : Nat} {schema item : Json}
      (hitems : keywords.find? "items" = some schema) (hitem : items[index]? = some item) :
      IsPart keywords (.array items) ⟨.item index, schema, item⟩

theorem mem_properties {key : String} {schema : Json} :
    (key, schema) ∈ properties keywords ↔
      ∃ members, keywords.find? "properties" = some (.object members) ∧ (key, schema) ∈ members := by
  constructor
  · intro hproperty
    unfold properties at hproperty
    cases hfound : keywords.find? "properties" with
    | none => simp [hfound] at hproperty
    | some found =>
        cases found with
        | object members =>
            simp only [hfound, Option.bind_some, Json.object?, Option.getD_some] at hproperty
            exact ⟨members, rfl, hproperty⟩
        | _ => simp [hfound, Json.object?] at hproperty
  · rintro ⟨members, hfound, hproperty⟩
    rw [properties_eq_of_some hfound]
    exact hproperty

theorem mem_parts {part : Part} : part ∈ parts keywords value ↔ IsPart keywords value part := by
  constructor
  · intro hpart
    unfold parts at hpart
    split at hpart
    · obtain ⟨⟨key, schema⟩, hproperty, hmember⟩ := List.mem_filterMap.1 hpart
      obtain ⟨member, hfound, rfl⟩ := Option.map_eq_some_iff.1 hmember
      obtain ⟨properties, hproperties, hproperty⟩ := mem_properties.1 hproperty
      exact .member hproperties hproperty hfound
    · split at hpart
      · next schema hitems =>
          obtain ⟨⟨item, index⟩, hitem, rfl⟩ := List.mem_map.1 hpart
          exact .item hitems (List.mem_zipIdx_iff_getElem?.1 hitem)
      · cases hpart
    · cases hpart
  · intro hpart
    cases hpart with
    | member hproperties hproperty hmember =>
        refine List.mem_filterMap.2 ⟨_, mem_properties.2 ⟨_, hproperties, hproperty⟩, ?_⟩
        exact Option.map_eq_some_iff.2 ⟨_, hmember, rfl⟩
    | item hitems hitem =>
        rw [parts, hitems]
        exact List.mem_map.2 ⟨(_, _), List.mem_zipIdx_iff_getElem?.2 hitem, rfl⟩

theorem sizeOf_parts_lt {part : Part} (hpart : part ∈ parts keywords value) :
    sizeOf part.schema < sizeOf (Json.object keywords) := by
  cases mem_parts.1 hpart with
  | member hproperties hproperty _ =>
      exact sizeOf_properties_lt (mem_properties.2 ⟨_, hproperties, hproperty⟩)
  | item hitems _ => exact sizeOf_items_lt hitems

/-- What holds of a schema if it holds of the schemas of the parts of all values holds of every
schema. -/
theorem parts_induction {motive : Json → Prop}
    (hother : ∀ schema : Json, schema.object? = none → motive schema)
    (hobject : ∀ keywords : Table Json,
      (∀ value, ∀ part ∈ parts keywords value, motive part.schema) → motive (.object keywords))
    (schema : Json) : motive schema := by
  induction hsize : sizeOf schema using Nat.strongRecOn generalizing schema with
  | _ size ih =>
      subst hsize
      cases schema with
      | object keywords =>
          exact hobject keywords fun value part hpart =>
            ih _ (sizeOf_parts_lt hpart) part.schema rfl
      | _ => exact hother _ rfl

theorem flatMap_parts_object (each : Part → List Diff) (members : Table Json) :
    (parts keywords (.object members)).flatMap each =
      (properties keywords).attach.flatMap fun property =>
        (Table.find? property.1.1 members).elim [] fun member =>
          each ⟨.member property.1.1, property.1.2, member⟩ := by
  let found (property : String × Json) : List Diff :=
    (Table.find? property.1 members).elim [] fun member =>
      each ⟨.member property.1, property.2, member⟩
  calc (parts keywords (.object members)).flatMap each
      = (properties keywords).flatMap found := by
        rw [parts, List.filterMap_eq_flatMap_toList, List.flatMap_assoc]
        congr 1
        funext property
        dsimp only [found]
        cases Table.find? property.1 members with
        | none => rfl
        | some member => exact List.flatMap_singleton each _
    _ = (properties keywords).attach.flatMap fun property => found property.1 := by
        rw [List.flatMap_def, List.flatMap_def, @List.attach_map_val _ _ _ found]

theorem check_of_not_object {schema : Json} (hschema : schema.object? = none) (value : Json)
    (base : Location) : check schema value base = [] := by
  cases schema with
  | object keywords => cases hschema
  | _ =>
      unfold check
      rfl

theorem check_object (keywords : Table Json) (value : Json) (base : Location) :
    check (.object keywords) value base =
      if isMismatch keywords value then [⟨base, mismatchText keywords value⟩]
      else
        (enumTexts keywords value ++ boundTexts keywords value ++
            requiredTexts keywords value).map (Diff.mk base) ++
          (parts keywords value).flatMap (fun part =>
            check part.schema part.value (base ++ [part.step])) ++
          (unexpectedTexts keywords value).map (Diff.mk base) := by
  conv => lhs; rw [check.eq_def]
  dsimp only
  split
  · rfl
  · congr 2
    split
    · next members _ =>
        rw [flatMap_parts_object]
        congr 1
        funext property
        cases Table.find? property.1.1 members <;> rfl
    · unfold parts
      split
      · next schema hitems =>
          rw [hitems]
          dsimp only
          rw [List.flatMap_map]
      · next hitems =>
          rw [hitems]
          rfl
    · next hobject harray =>
        unfold parts
        split
        · exact absurd rfl (hobject _)
        · exact absurd rfl (harray _)
        · rfl

/-- What is said about a value itself. If it is of none of the kinds that are asked for, nothing else
is said about it. -/
def Said (keywords : Table Json) (value : Json) (message : String) : Prop :=
  ∃ keyword, Complaint keywords value keyword message ∧
    (¬ Meets keywords value .type → keyword = .type)

theorem said_of_mismatch (hmismatch : ¬ Meets keywords value .type) {message : String} :
    Said keywords value message ↔ message = mismatchText keywords value := by
  constructor
  · rintro ⟨keyword, hcomplaint, htype⟩
    obtain rfl := htype hmismatch
    exact (complaint_type_iff.1 hcomplaint).2
  · rintro rfl
    exact ⟨.type, complaint_type_iff.2 ⟨hmismatch, rfl⟩, fun _ => rfl⟩

theorem said_of_match (hmatch : Meets keywords value .type) {message : String} :
    Said keywords value message ↔
      message ∈ enumTexts keywords value ++ boundTexts keywords value ++
          requiredTexts keywords value ∨
        message ∈ unexpectedTexts keywords value := by
  simp only [List.mem_append, mem_enumTexts, mem_boundTexts, mem_requiredTexts,
    mem_unexpectedTexts]
  constructor
  · rintro ⟨keyword, hcomplaint, -⟩
    cases keyword with
    | type => exact absurd hmatch (exists_complaint_iff.1 ⟨message, hcomplaint⟩)
    | enum => exact .inl (.inl (.inl hcomplaint))
    | minimum => exact .inl (.inl (.inr (.inl hcomplaint)))
    | maximum => exact .inl (.inl (.inr (.inr hcomplaint)))
    | required => exact .inl (.inr hcomplaint)
    | additionalProperties => exact .inr hcomplaint
  · have hsaid {keyword : Keyword} (hcomplaint : Complaint keywords value keyword message) :
        Said keywords value message := ⟨keyword, hcomplaint, fun hmismatch => absurd hmatch hmismatch⟩
    rintro (((hcomplaint | (hcomplaint | hcomplaint)) | hcomplaint) | hcomplaint) <;>
      exact hsaid hcomplaint

theorem exists_said_iff :
    (∃ message, Said keywords value message) ↔ ∃ keyword, ¬ Meets keywords value keyword := by
  constructor
  · rintro ⟨message, keyword, hcomplaint, -⟩
    exact ⟨keyword, exists_complaint_iff.1 ⟨message, hcomplaint⟩⟩
  · rintro ⟨keyword, hviolates⟩
    by_cases hmatch : Meets keywords value .type
    · obtain ⟨message, hcomplaint⟩ := exists_complaint_iff.2 hviolates
      exact ⟨message, keyword, hcomplaint, fun hmismatch => absurd hmatch hmismatch⟩
    · exact ⟨_, (said_of_mismatch hmatch).2 rfl⟩

theorem mem_check_object :
    diff ∈ check (.object keywords) value base ↔
      (diff.location = base ∧ Said keywords value diff.message) ∨
        Meets keywords value .type ∧ ∃ part ∈ parts keywords value,
          diff ∈ check part.schema part.value (base ++ [part.step]) := by
  have hmap {texts : List String} :
      diff ∈ texts.map (Diff.mk base) ↔ diff.location = base ∧ diff.message ∈ texts := by
    rcases diff with ⟨location, message⟩
    simp only [List.mem_map, Diff.mk.injEq]
    constructor
    · rintro ⟨text, htext, rfl, rfl⟩
      exact ⟨rfl, htext⟩
    · rintro ⟨rfl, htext⟩
      exact ⟨_, htext, rfl, rfl⟩
  rw [check_object]
  split
  · next hmismatch =>
      have hviolates := isMismatch_iff.1 hmismatch
      rw [said_of_mismatch hviolates]
      rcases diff with ⟨location, message⟩
      simp [hviolates]
  · next hmatch =>
      have hmeets := not_not.1 (mt isMismatch_iff.2 hmatch)
      rw [said_of_match hmeets, List.mem_append, List.mem_append, hmap, hmap, List.mem_flatMap]
      rw [and_or_left, or_right_comm, and_iff_right hmeets]

end ApiBridge.Schema
