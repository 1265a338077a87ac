import ApiBridge.Proofs.Json.Order
import ApiBridge.Proofs.Schema.Part
import Mathlib.Data.List.Infix

/-!
Where the differences of a value from a schema are. Both can be followed along a location, and each
difference tells what is wrong, at its location, with the value there by the schema there.
-/

namespace ApiBridge.Schema

variable {keywords : Table Json} {schema value subschema subvalue : Json} {step : Step}
  {base location : Location} {message : String}

/-- The value one step into a value. -/
def valueBelow? (value : Json) : Step → Option Json
  | .member key => value.object?.bind (Table.find? key)
  | .item index => value.array?.bind fun items => items[index]?

/-- The schema that a schema has for what is one step into a value. -/
def schemaBelow? (schema : Json) : Step → Option Json
  | .member key => schema.object?.bind fun keywords =>
      (keywords.find? "properties").bind fun properties =>
        properties.object?.bind (Table.find? key)
  | .item _ => schema.object?.bind (Table.find? "items")

theorem isOrdered_of_schemaBelow? {next : Json} (hordered : schema.IsOrdered)
    (hnext : schemaBelow? schema step = some next) : next.IsOrdered := by
  cases schema with
  | object keywords =>
      cases step with
      | member key =>
          obtain ⟨found, hproperties, hnext⟩ := Option.bind_eq_some_iff.1 hnext
          have hfound := hordered.find? hproperties
          cases found with
          | object properties => exact hfound.find? hnext
          | _ => cases hnext
      | item index => exact hordered.find? hnext
  | _ => cases step <;> cases hnext

def valueAt? (value : Json) (location : Location) : Option Json :=
  location.foldlM valueBelow? value

def schemaAt? (schema : Json) (location : Location) : Option Json :=
  location.foldlM schemaBelow? schema

/-- A location at which a value is checked: it exists in the value, the schema can be followed along
it, and the values above it are of the kinds that are asked for. -/
structure Governs (schema value : Json) (location : Location) (subschema subvalue : Json) :
    Prop where
  schemaAt?_eq : schemaAt? schema location = some subschema
  valueAt?_eq : valueAt? value location = some subvalue
  match_above : ∀ above keywords outer, above <+: location → above ≠ location →
    schemaAt? schema above = some (.object keywords) → valueAt? value above = some outer →
    Meets keywords outer .type

theorem governs_nil : Governs schema value [] subschema subvalue ↔
    schema = subschema ∧ value = subvalue := by
  constructor
  · rintro ⟨hschema, hvalue, -⟩
    exact ⟨Option.some.inj hschema, Option.some.inj hvalue⟩
  · rintro ⟨rfl, rfl⟩
    exact ⟨rfl, rfl, fun above _ _ habove hproper => absurd (List.prefix_nil.1 habove) hproper⟩

theorem governs_cons : Governs schema value (step :: location) subschema subvalue ↔
    (∀ keywords, schema = .object keywords → Meets keywords value .type) ∧
      ∃ next member, schemaBelow? schema step = some next ∧ valueBelow? value step = some member ∧
        Governs next member location subschema subvalue := by
  constructor
  · rintro ⟨hschema, hvalue, habove⟩
    obtain ⟨next, hnext, hschema⟩ := Option.bind_eq_some_iff.1 hschema
    obtain ⟨member, hmember, hvalue⟩ := Option.bind_eq_some_iff.1 hvalue
    refine ⟨?_, next, member, hnext, hmember, hschema, hvalue, ?_⟩
    · rintro keywords rfl
      exact habove [] keywords value List.nil_prefix (by simp) rfl rfl
    · intro above keywords outer hwithin hproper hschema hvalue
      refine habove (step :: above) keywords outer ?_ ?_ ?_ ?_
      · exact List.cons_prefix_cons.2 ⟨rfl, hwithin⟩
      · simpa using hproper
      · exact Option.bind_eq_some_iff.2 ⟨next, hnext, hschema⟩
      · exact Option.bind_eq_some_iff.2 ⟨member, hmember, hvalue⟩
  · rintro ⟨hmatch, next, member, hnext, hmember, hschema, hvalue, habove⟩
    refine ⟨Option.bind_eq_some_iff.2 ⟨next, hnext, hschema⟩,
      Option.bind_eq_some_iff.2 ⟨member, hmember, hvalue⟩, ?_⟩
    intro above keywords outer hwithin hproper hschema hvalue
    rcases List.prefix_cons_iff.1 hwithin with rfl | ⟨rest, rfl, hrest⟩
    · obtain rfl := Option.some.inj hvalue
      exact hmatch keywords (Option.some.inj hschema)
    · obtain ⟨next', hnext', hschema⟩ := Option.bind_eq_some_iff.1 hschema
      obtain ⟨member', hmember', hvalue⟩ := Option.bind_eq_some_iff.1 hvalue
      obtain rfl := Option.some.inj (hnext.symm.trans hnext')
      obtain rfl := Option.some.inj (hmember.symm.trans hmember')
      exact habove rest keywords outer hrest (by simpa using hproper) hschema hvalue

/-- In a schema whose objects have each key once, the parts of a value are what one step leads to. -/
theorem isPart_iff (hordered : (Json.object keywords).IsOrdered) :
    IsPart keywords value ⟨step, subschema, subvalue⟩ ↔
      schemaBelow? (.object keywords) step = some subschema ∧
        valueBelow? value step = some subvalue := by
  constructor
  · intro hpart
    cases hpart with
    | @member properties members key _ _ hproperties hproperty hmember =>
        have hkeys : Table.IsOrdered properties := by
          cases hordered.find? hproperties with
          | object hkeys _ => exact hkeys
        refine ⟨?_, hmember⟩
        change ((keywords.find? "properties").bind fun properties =>
          properties.object?.bind (Table.find? key)) = _
        rw [hproperties]
        exact hkeys.find?_of_mem hproperty
    | item hitems hitem => exact ⟨hitems, hitem⟩
  · rintro ⟨hschema, hvalue⟩
    cases step with
    | member key =>
        obtain ⟨found, hproperties, hschema⟩ := Option.bind_eq_some_iff.1 hschema
        obtain ⟨properties, hobject, hproperty⟩ := Option.bind_eq_some_iff.1 hschema
        obtain ⟨members, hmembers, hmember⟩ := Option.bind_eq_some_iff.1 hvalue
        cases found with
        | object found =>
            obtain rfl := Option.some.inj hobject
            cases value with
            | object value =>
                obtain rfl := Option.some.inj hmembers
                exact .member hproperties (Table.mem_of_find? hproperty) hmember
            | _ => cases hmembers
        | _ => cases hobject
    | item index =>
        obtain ⟨items, hitems, hitem⟩ := Option.bind_eq_some_iff.1 hvalue
        cases value with
        | array value =>
            obtain rfl := Option.some.inj hitems
            exact .item hschema hitem
        | _ => cases hitems

theorem isOrdered_properties (hordered : (Json.object keywords).IsOrdered) :
    (properties keywords).IsOrdered := by
  unfold properties
  cases hfound : keywords.find? "properties" with
  | none => exact List.Pairwise.nil
  | some found =>
      cases hordered.find? hfound with
      | object hkeys _ => exact hkeys
      | _ => exact List.Pairwise.nil

theorem prefix_of_mem_check (schema : Json) {value : Json} {base : Location} {diff : Diff}
    (hdiff : diff ∈ check schema value base) : base <+: diff.location := by
  induction schema using parts_induction generalizing value base with
  | hother schema hschema =>
      rw [check_of_not_object hschema] at hdiff
      cases hdiff
  | hobject keywords ih =>
      rcases mem_check_object.1 hdiff with ⟨rfl, -⟩ | ⟨-, part, hpart, hdiff⟩
      · exact List.prefix_rfl
      · exact (List.prefix_append base [part.step]).trans (ih value part hpart hdiff)

theorem Governs.exists_object
    (h : Governs schema value location (.object keywords) subvalue) :
    ∃ outer, schema = .object outer := by
  cases location with
  | nil => exact ⟨keywords, (governs_nil.1 h).1⟩
  | cons step location =>
      obtain ⟨-, next, -, hnext, -⟩ := governs_cons.1 h
      cases schema with
      | object outer => exact ⟨outer, rfl⟩
      | _ => cases step <;> cases hnext

theorem step_eq_of_mem_check {part : Part} {other : Step} {rest : Location}
    (hdiff : ⟨base ++ other :: rest, message⟩ ∈
      check part.schema part.value (base ++ [part.step])) : part.step = other := by
  have hwithin := prefix_of_mem_check part.schema hdiff
  rw [List.prefix_append_right_inj, List.cons_prefix_cons] at hwithin
  exact hwithin.1

theorem mem_check_here :
    ⟨base, message⟩ ∈ check (.object keywords) value base ↔ Said keywords value message := by
  rw [mem_check_object]
  constructor
  · rintro (⟨-, hsaid⟩ | ⟨-, part, -, hdiff⟩)
    · exact hsaid
    · -- The differences of parts are at longer locations.
      have hlength := (prefix_of_mem_check part.schema hdiff).length_le
      rw [List.length_append] at hlength
      exact absurd hlength (Nat.not_succ_le_self base.length)
  · exact fun hsaid => .inl ⟨rfl, hsaid⟩

theorem mem_check_below (hordered : (Json.object keywords).IsOrdered) :
    ⟨base ++ step :: location, message⟩ ∈ check (.object keywords) value base ↔
      Meets keywords value .type ∧ ∃ next member,
        schemaBelow? (.object keywords) step = some next ∧ valueBelow? value step = some member ∧
          ⟨base ++ [step] ++ location, message⟩ ∈ check next member (base ++ [step]) := by
  have happend : base ++ step :: location = base ++ [step] ++ location :=
    List.append_cons base step location
  rw [mem_check_object]
  constructor
  · rintro (⟨hhere, -⟩ | ⟨hmatch, ⟨other, next, member⟩, hpart, hdiff⟩)
    · exact absurd hhere (by simp)
    · obtain rfl := step_eq_of_mem_check hdiff
      obtain ⟨hnext, hmember⟩ := (isPart_iff hordered).1 (mem_parts.1 hpart)
      exact ⟨hmatch, next, member, hnext, hmember, happend ▸ hdiff⟩
  · rintro ⟨hmatch, next, member, hnext, hmember, hdiff⟩
    have hpart := mem_parts.2 ((isPart_iff hordered).2 ⟨hnext, hmember⟩)
    exact .inr ⟨hmatch, _, hpart, happend ▸ hdiff⟩

theorem exists_object_of_mem_check {diff : Diff} (hdiff : diff ∈ check schema value base) :
    ∃ outer, schema = .object outer := by
  cases schema with
  | object outer => exact ⟨outer, rfl⟩
  | _ =>
      rw [check_of_not_object rfl] at hdiff
      cases hdiff

/-- The differences at a location are what is said there about the value by the schema, by induction
on the location. -/
theorem mem_check_iff (hordered : schema.IsOrdered) :
    ⟨base ++ location, message⟩ ∈ check schema value base ↔
      ∃ keywords subvalue, Governs schema value location (.object keywords) subvalue ∧
        Said keywords subvalue message := by
  induction location generalizing schema value base with
  | nil =>
      rw [List.append_nil]
      constructor
      · intro hdiff
        obtain ⟨keywords, rfl⟩ := exists_object_of_mem_check hdiff
        exact ⟨keywords, value, governs_nil.2 ⟨rfl, rfl⟩, mem_check_here.1 hdiff⟩
      · rintro ⟨keywords, subvalue, hgoverns, hsaid⟩
        obtain ⟨rfl, rfl⟩ := governs_nil.1 hgoverns
        exact mem_check_here.2 hsaid
  | cons step location ih =>
      constructor
      · intro hdiff
        obtain ⟨outer, rfl⟩ := exists_object_of_mem_check hdiff
        obtain ⟨hmatch, next, member, hnext, hmember, hbelow⟩ := (mem_check_below hordered).1 hdiff
        obtain ⟨keywords, subvalue, hgoverns, hsaid⟩ :=
          (ih (isOrdered_of_schemaBelow? hordered hnext)).1 hbelow
        refine ⟨keywords, subvalue, governs_cons.2 ⟨?_, next, member, hnext, hmember, hgoverns⟩,
          hsaid⟩
        rintro _ heq
        exact Json.object.inj heq ▸ hmatch
      · rintro ⟨keywords, subvalue, hgoverns, hsaid⟩
        obtain ⟨outer, rfl⟩ := hgoverns.exists_object
        obtain ⟨hmatch, next, member, hnext, hmember, hgoverns⟩ := governs_cons.1 hgoverns
        refine (mem_check_below hordered).2 ⟨hmatch outer rfl, next, member, hnext, hmember, ?_⟩
        exact (ih (isOrdered_of_schemaBelow? hordered hnext)).2 ⟨keywords, subvalue, hgoverns, hsaid⟩

theorem pairwise_parts (hordered : (Json.object keywords).IsOrdered) (value : Json) :
    (parts keywords value).Pairwise fun part other => part.step ≠ other.step := by
  unfold parts
  split
  · next members =>
      refine List.Pairwise.filterMap _ ?_ (isOrdered_properties hordered)
      rintro ⟨key, schema⟩ ⟨otherKey, otherSchema⟩ hbefore part hpart other hother
      obtain ⟨member, -, rfl⟩ := Option.map_eq_some_iff.1 hpart
      obtain ⟨otherMember, -, rfl⟩ := Option.map_eq_some_iff.1 hother
      simpa using String.ne_of_lt hbefore
  · next items =>
      split
      · next schema hitems =>
          rw [List.pairwise_map]
          have hindices : (items.zipIdx.map Prod.snd).Nodup := by
            rw [List.zipIdx_map_snd]
            exact List.nodup_range' 1
          rw [List.Nodup, List.pairwise_map] at hindices
          exact hindices.imp fun hne => by simpa using hne
      · exact List.Pairwise.nil
  · exact List.Pairwise.nil

theorem flatMap_eq_of_mem {α β κ : Type} {key : α → κ} {each : α → List β} {items : List α}
    (hkeys : items.Pairwise fun item other => key item ≠ key other) {item : α} (hitem : item ∈ items)
    (hnone : ∀ other, key other ≠ key item → each other = []) : items.flatMap each = each item := by
  induction items with
  | nil => cases hitem
  | cons first rest ih =>
      obtain ⟨hfirst, hrest⟩ := List.pairwise_cons.1 hkeys
      rw [List.flatMap_cons]
      rcases List.mem_cons.1 hitem with rfl | hitem
      · rw [List.flatMap_eq_nil_iff.2 fun other hother => hnone other (hfirst other hother).symm,
          List.append_nil]
      · rw [hnone first (hfirst item hitem), List.nil_append, ih hrest hitem]

theorem filter_map_mk (texts : List String) :
    (texts.map (Diff.mk base)).filter (fun diff => diff.location = base ++ step :: location) = [] := by
  simp

theorem filter_check_of_mismatch (base : Location) (hordered : schema.IsOrdered)
    (hgoverns : Governs schema value location (.object keywords) subvalue)
    (hmismatch : ¬ Meets keywords subvalue .type) :
    (check schema value base).filter (fun diff => diff.location = base ++ location) =
      [⟨base ++ location, mismatchText keywords subvalue⟩] := by
  -- Of the parts of each value above the mismatch, only one leads to it.
  induction location generalizing schema value base with
  | nil =>
      obtain ⟨rfl, rfl⟩ := governs_nil.1 hgoverns
      rw [check_object, if_pos (isMismatch_iff.2 hmismatch), List.append_nil]
      simp
  | cons step location ih =>
      obtain ⟨outer, rfl⟩ := hgoverns.exists_object
      obtain ⟨hmatch, next, member, hnext, hmember, hbelow⟩ := governs_cons.1 hgoverns
      have hpart := mem_parts.2 ((isPart_iff hordered).2 ⟨hnext, hmember⟩)
      have hother (part : Part) (hstep : part.step ≠ step) :
          (check part.schema part.value (base ++ [part.step])).filter
            (fun diff => diff.location = base ++ step :: location) = [] := by
        rw [List.filter_eq_nil_iff]
        rintro ⟨there, message⟩ hdiff hthere
        obtain rfl := of_decide_eq_true hthere
        exact hstep (step_eq_of_mem_check hdiff)
      rw [check_object, if_neg fun hmismatch => isMismatch_iff.1 hmismatch (hmatch outer rfl),
        List.filter_append, List.filter_append, filter_map_mk, filter_map_mk, List.filter_flatMap,
        List.nil_append, List.append_nil,
        flatMap_eq_of_mem (pairwise_parts hordered value) hpart hother, List.append_cons]
      exact ih (base ++ [step]) (isOrdered_of_schemaBelow? hordered hnext) hbelow

theorem text_append_step (location : Location) (step : Step) :
    Location.text (location ++ [step]) = location.text ++ step.text := by
  simp [Location.text, String.append_assoc]

theorem eq_of_prefix_of_mismatch {diff : Diff} (hordered : schema.IsOrdered)
    (hgoverns : Governs schema value location (.object keywords) subvalue)
    (hmismatch : ¬ Meets keywords subvalue .type) (hdiff : diff ∈ check schema value [])
    (hwithin : location <+: diff.location) : diff.location = location := by
  obtain ⟨inner, innerValue, hinner, -⟩ := (mem_check_iff hordered).1 hdiff
  by_contra hproper
  exact hmismatch (hinner.match_above location keywords subvalue hwithin (Ne.symm hproper)
    hgoverns.schemaAt?_eq hgoverns.valueAt?_eq)

/-- Each difference of a payload from a schema names a governed location, at which it tells of a
keyword that the value there does not meet itself. Wherever such a keyword is not met, that is told,
unless the value is of none of the kinds that are asked for: then this is told once, and nothing of
the value's other keywords or of what is below. The schema has each key of an object once, as it has
when it is read (`Json.isOrdered_of_parse?`). -/
theorem diffs_of_validate (payload schema : Json) (hordered : schema.IsOrdered) :
    (Location.text [] = "$" ∧ ∀ location : Location,
      (∀ key, Location.text (location ++ [.member key]) = location.text ++ ("." ++ key)) ∧
        ∀ index : Nat, Location.text (location ++ [.item index]) =
          location.text ++ ("[" ++ toString index ++ "]")) ∧
    (∀ diff ∈ (validate payload schema).diffs, diff.path = diff.location.text ∧
      ∃ keywords value keyword, Governs schema payload diff.location (.object keywords) value ∧
        ¬ Meets keywords value keyword ∧ Complaint keywords value keyword diff.message) ∧
    (∀ location keywords value keyword, Governs schema payload location (.object keywords) value →
      ¬ Meets keywords value keyword →
      ∃ diff ∈ (validate payload schema).diffs, diff.location = location ∧
        (Meets keywords value .type → Complaint keywords value keyword diff.message)) ∧
    ∀ location keywords value, Governs schema payload location (.object keywords) value →
      ¬ Meets keywords value .type →
      ((validate payload schema).diffs.filter fun diff => diff.location = location) =
          [⟨location, mismatchText keywords value⟩] ∧
        ∀ diff ∈ (validate payload schema).diffs, location <+: diff.location →
          diff.location = location := by
  refine ⟨⟨rfl, fun location => ⟨fun key => text_append_step location (.member key),
    fun index => text_append_step location (.item index)⟩⟩, ?_, ?_, ?_⟩
  · intro diff hdiff
    obtain ⟨keywords, value, hgoverns, keyword, hcomplaint, -⟩ := (mem_check_iff hordered).1 hdiff
    exact ⟨rfl, keywords, value, keyword, hgoverns, exists_complaint_iff.1 ⟨_, hcomplaint⟩,
      hcomplaint⟩
  · intro location keywords value keyword hgoverns hviolates
    by_cases hmatch : Meets keywords value .type
    · obtain ⟨message, hcomplaint⟩ := exists_complaint_iff.2 hviolates
      have hsaid : Said keywords value message :=
        ⟨keyword, hcomplaint, fun hmismatch => absurd hmatch hmismatch⟩
      exact ⟨_, (mem_check_iff hordered).2 ⟨keywords, value, hgoverns, hsaid⟩, rfl,
        fun _ => hcomplaint⟩
    · have hsaid := (said_of_mismatch hmatch).2 rfl
      exact ⟨_, (mem_check_iff hordered).2 ⟨keywords, value, hgoverns, hsaid⟩, rfl,
        fun hmeets => absurd hmeets hmatch⟩
  · intro location keywords value hgoverns hmismatch
    exact ⟨filter_check_of_mismatch [] hordered hgoverns hmismatch,
      fun diff => eq_of_prefix_of_mismatch hordered hgoverns hmismatch⟩

/-- A schema of objects whose tags are texts. -/
def tagsSchema : Json :=
  .object [("properties",
    .object [("tags", .object [("items", .object [("type", .string "string")])])])]

def tagsPayload : Json := .object [("tags", .array [.string "x", .ofNat 5])]

theorem isOrdered_tagsSchema : tagsSchema.IsOrdered := by
  repeat' first
    | exact .string _
    | refine .object (by decide) (List.forall_mem_singleton.2 ?_)

theorem governs_tagsSchema :
    Governs tagsSchema tagsPayload [.member "tags", .item 1]
      (.object [("type", .string "string")]) (.ofNat 5) := by
  have hmatch {schema value : Json} (keywords : Table Json) (hschema : schema = .object keywords)
      (hkinds : isMismatch keywords value = false) :
      ∀ keywords, schema = .object keywords → Meets keywords value .type := by
    rintro other hother
    obtain rfl := Json.object.inj (hschema.symm.trans hother)
    exact not_not.1 fun hviolates => by simp [isMismatch_iff.2 hviolates] at hkinds
  refine governs_cons.2 ⟨hmatch _ rfl (by decide), _, _, rfl, rfl, ?_⟩
  exact governs_cons.2 ⟨hmatch _ rfl (by decide), _, _, rfl, rfl, governs_nil.2 ⟨rfl, rfl⟩⟩

/-- A number among the tags is told once, at its own place. -/
theorem diffs_of_validate_tags :
    tagsSchema.IsOrdered ∧
      ((validate tagsPayload tagsSchema).diffs.filter fun diff =>
        diff.location = [.member "tags", .item 1]) =
          [⟨[.member "tags", .item 1], "expected string, got integer"⟩] := by
  obtain ⟨-, -, -, hmismatch⟩ := diffs_of_validate tagsPayload tagsSchema isOrdered_tagsSchema
  have hviolates : ¬ Meets [("type", .string "string")] (.ofNat 5) .type :=
    isMismatch_iff.1 (by decide)
  refine ⟨isOrdered_tagsSchema, (hmismatch _ _ _ governs_tagsSchema hviolates).1.trans ?_⟩
  decide +kernel

end ApiBridge.Schema
