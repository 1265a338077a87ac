import ApiBridge.Document
import ApiBridge.Proofs.Json.Number
import ApiBridge.Proofs.Outcome
import ApiBridge.Proofs.Table

/-!
Writing what has been read: a reading of JSON values and a way to write what it gives belong
together if what is written is read again as it was. This goes from texts and numbers to tables of
them, and to records by the names of their fields.
-/

namespace ApiBridge

/-- What a reading gives from a regular value can be written, as a regular value that is read again
as it was, and that is null only where null was read. -/
structure ReadsBack {α : Type} (read : Json → Option α) (write : α → Json) : Prop where
  read_write : ∀ {node value}, node.IsRegular → read node = some value →
    read (write value) = some value
  isRegular : ∀ {node value}, node.IsRegular → read node = some value → (write value).IsRegular
  isNull_eq : ∀ {node value}, node.IsRegular → node.isNull = false → read node = some value →
    (write value).isNull = false

namespace ReadsBack

variable {α : Type}

theorem text : ReadsBack (Document.text? : Json → Option String) .string :=
  ⟨fun _ _ => rfl, fun _ _ => .string _, fun _ _ _ => rfl⟩

theorem flag : ReadsBack (Document.flag? : Json → Option Bool) .bool :=
  ⟨fun _ _ => rfl, fun _ _ => .bool _, fun _ _ _ => rfl⟩

theorem json : ReadsBack (Document.json? : Json → Option Json) id :=
  ⟨fun _ _ => rfl, fun hnode hread => Option.some.inj hread ▸ hnode,
    fun _ hnull hread => Option.some.inj hread ▸ hnull⟩

theorem isFinite_of_number? {node : Json} {value : Binary64} (hnode : node.IsRegular)
    (hread : Document.number? node = some value) : value.isFinite = true := by
  obtain ⟨number, hnumber, rfl⟩ := Option.map_eq_some_iff.1 hread
  cases hnode with
  | number hregular => exact Option.some.inj hnumber ▸ hregular.isFinite
  | _ => simp [Json.number?] at hnumber

theorem ofBinary64_eq {value : Binary64} (h : value.isFinite = true) :
    Json.ofBinary64 value = .number (.float value) := if_pos h

theorem number : ReadsBack (Document.number? : Json → Option Binary64) .ofBinary64 := by
  refine ⟨?_, ?_, ?_⟩
  · intro node value hnode hread
    rw [ofBinary64_eq (isFinite_of_number? hnode hread)]
    rfl
  · intro node value hnode hread
    have hfinite := isFinite_of_number? hnode hread
    rw [ofBinary64_eq hfinite]
    exact .number hfinite
  · intro node value hnode _ hread
    rw [ofBinary64_eq (isFinite_of_number? hnode hread)]
    rfl

theorem natural?_ofNat (value : Nat) : Document.natural? (Json.ofNat value) = some value :=
  (if_pos (Int.natCast_nonneg value)).trans (by rw [Int.toNat_natCast])

theorem lt_of_natural? {node : Json} {value : Nat} (hnode : node.IsRegular)
    (hread : Document.natural? node = some value) : value < UInt64.size := by
  cases hnode with
  | @number number hnumber =>
      cases number with
      | int given =>
          obtain ⟨hpos, hvalue⟩ := Option.ite_none_right_eq_some.1 hread
          obtain rfl := Option.some.inj hvalue
          have hmax := hnumber.2
          omega
      | float => simp [Document.natural?] at hread
  | _ => simp [Document.natural?] at hread

theorem natural : ReadsBack (Document.natural? : Json → Option Nat) .ofNat :=
  ⟨fun _ _ => natural?_ofNat _,
    fun hnode hread => Json.isRegular_ofNat (lt_of_natural? hnode hread), fun _ _ _ => rfl⟩

theorem below?_eq_some_iff {bound value : Nat} {node : Json} :
    (Document.below? bound node : Option Nat) = some value ↔
      Document.natural? node = some value ∧ value < bound := by
  unfold Document.below?
  cases Document.natural? node with
  | none => simp
  | some given =>
      by_cases hgiven : given < bound
      · simp only [Option.bind_eq_bind, Option.bind_some, if_pos hgiven, Option.pure_def,
          Option.some.injEq]
        constructor
        · rintro rfl
          exact ⟨rfl, hgiven⟩
        · exact And.left
      · simp only [Option.bind_eq_bind, Option.bind_some, if_neg hgiven, Option.some.injEq]
        constructor
        · exact fun hthrow => nomatch hthrow
        · rintro ⟨rfl, hlt⟩
          exact absurd hlt hgiven

theorem below (bound : Nat) : ReadsBack (Document.below? bound : Json → Option Nat) .ofNat := by
  refine ⟨?_, ?_, fun _ _ _ => rfl⟩
  · intro node value hnode hread
    exact below?_eq_some_iff.2 ⟨natural?_ofNat value, (below?_eq_some_iff.1 hread).2⟩
  · intro node value hnode hread
    exact natural.isRegular hnode (below?_eq_some_iff.1 hread).1

theorem oneOf {choices : List (String × α)} {name : α → String}
    (hname : ∀ value, choices.lookup (name value) = some value) :
    ReadsBack (Document.oneOf? choices : Json → Option α) fun value => .string (name value) := by
  refine ⟨?_, fun _ _ => .string _, fun _ _ _ => rfl⟩
  intro node value hnode hread
  have hchoice : (Document.choice? (Json.string (name value)) : Option String) =
      some (name value) := rfl
  rw [Document.oneOf?, hchoice, Option.bind_eq_bind, Option.bind_some, hname]
  rfl

theorem entries?_members (members : Table Json) :
    (Document.entries? (members.map fun (key, value) => (Json.string key, value)) :
      Option (List (String × Json))) = some members := by
  rw [Document.entries?, mapM_eq_some_iff, List.forall₂_map_left_iff]
  exact List.forall₂_same.2 fun _ _ => rfl

theorem table?_object {read : Json → Option α} {members : Table Json} {table : Table α} :
    Document.table? read (.object members) = some table ↔
      ∃ pairs, List.Forall₂ (fun member pair => member.1 = pair.1 ∧ read member.2 = some pair.2)
          members pairs ∧ Table.ofPairs pairs = table := by
  have hmembers : (Document.members? (Json.object members) : Option (List (Json × Json))) =
      some (members.map fun (key, value) => (Json.string key, value)) := rfl
  rw [Document.table?, hmembers, Option.bind_eq_bind, Option.bind_some, entries?_members,
    Option.bind_eq_bind, Option.bind_some, Option.map_eq_map, Option.map_eq_some_iff]
  simp only [mapM_eq_some_iff]
  have hpair : ∀ (member : String × Json) (pair : String × α),
      (do return (member.1, ← read member.2) : Option (String × α)) = some pair ↔
        member.1 = pair.1 ∧ read member.2 = some pair.2 := by
    rintro ⟨key, value⟩ ⟨otherKey, other⟩
    cases read value <;> simp
  simp only [hpair]

theorem exists_object_of_table? {read : Json → Option α} {node : Json} {table : Table α}
    (hread : Document.table? read node = some table) : ∃ members, node = .object members := by
  cases node with
  | object members => exact ⟨members, rfl⟩
  | _ => exact nomatch hread

theorem table {read : Json → Option α} {write : α → Json} (h : ReadsBack read write) :
    ReadsBack (Document.table? read) fun table =>
      .object (table.map fun (key, value) => (key, write value)) := by
  -- Each value of the table is read from a member.
  have hvalues : ∀ {node : Json} {table : Table α}, node.IsRegular →
      Document.table? read node = some table → table.IsOrdered ∧
        ∀ binding ∈ table, ∃ given : Json, given.IsRegular ∧ read given = some binding.2 := by
    intro node table hnode hread
    obtain ⟨members, rfl⟩ := exists_object_of_table? hread
    obtain ⟨pairs, hpairs, rfl⟩ := table?_object.1 hread
    refine ⟨Table.isOrdered_ofPairs pairs, fun binding hbinding => ?_⟩
    obtain ⟨member, hmember, -, hgiven⟩ :=
      exists_of_mem_forall₂ hpairs (Table.mem_of_mem_ofPairs hbinding)
    cases hnode with
    | object hmembers => exact ⟨member.2, hmembers member hmember, hgiven⟩
  refine ⟨?_, ?_, fun _ _ _ => rfl⟩
  · intro node table hnode hread
    obtain ⟨hordered, hgiven⟩ := hvalues hnode hread
    refine table?_object.2 ⟨table, ?_, hordered.ofPairs_eq⟩
    rw [List.forall₂_map_left_iff, List.forall₂_same]
    intro binding hbinding
    obtain ⟨given, hregular, hvalue⟩ := hgiven binding hbinding
    exact ⟨rfl, h.read_write hregular hvalue⟩
  · intro node table hnode hread
    obtain ⟨-, hgiven⟩ := hvalues hnode hread
    refine .object fun member hmember => ?_
    obtain ⟨binding, hbinding, rfl⟩ := List.mem_map.1 hmember
    obtain ⟨given, hregular, hvalue⟩ := hgiven binding hbinding
    exact h.isRegular hregular hvalue

end ReadsBack

/-- Whether the value of a field, if there is one, is regular. -/
def Json.IsRegularField (field : Option Json) : Prop :=
  ∀ node, field = some node → node.IsRegular

theorem Json.IsRegular.field {node : Json} (h : node.IsRegular) : Json.IsRegularField (some node) :=
  fun _ hnode => Option.some.inj hnode ▸ h

/-- What a field gives can be written, or left out, such that the field is read again as it was. -/
def FieldReadsBack {α : Type} (read : Option Json → Option α) (write : α → Option Json) : Prop :=
  ∀ ⦃field value⦄, Json.IsRegularField field → read field = some value →
    read (write value) = some value ∧ Json.IsRegularField (write value)

namespace ReadsBack

variable {α : Type} {read : Json → Option α} {write : α → Json}

theorem required (h : ReadsBack read write) :
    FieldReadsBack (Document.required read) fun value => some (write value) := by
  rintro (_ | node) value hfield hread
  · exact nomatch hread
  · have hnode := hfield node rfl
    exact ⟨h.read_write hnode hread, (h.isRegular hnode hread).field⟩

theorem withDefault (h : ReadsBack read write) {default : α} (hregular : (write default).IsRegular)
    (hdefault : read (write default) = some default) :
    FieldReadsBack (Document.withDefault default read) fun value => some (write value) := by
  rintro (_ | node) value hfield hread
  · obtain rfl := Option.some.inj hread
    exact ⟨hdefault, hregular.field⟩
  · have hnode := hfield node rfl
    exact ⟨h.read_write hnode hread, (h.isRegular hnode hread).field⟩

theorem text_withDefault (default : String) :
    FieldReadsBack (Document.withDefault default Document.text?) fun value =>
      some (.string value) :=
  text.withDefault (.string default) rfl

theorem number_withDefault {default : Binary64} (h : default.isFinite = true) :
    FieldReadsBack (Document.withDefault default Document.number?) fun value =>
      some (.ofBinary64 value) := by
  apply number.withDefault
  · rw [ofBinary64_eq h]
    exact .number h
  · rw [ofBinary64_eq h]
    rfl

theorem below_withDefault {bound default : Nat} (h : default < bound)
    (hbound : bound ≤ UInt64.size) :
    FieldReadsBack (Document.withDefault default (Document.below? bound)) fun value =>
      some (.ofNat value) :=
  (below bound).withDefault (Json.isRegular_ofNat (Nat.lt_of_lt_of_le h hbound))
    (below?_eq_some_iff.2 ⟨natural?_ofNat default, h⟩)

theorem table_withDefault (h : ReadsBack read write) :
    FieldReadsBack (Document.withDefault [] (Document.table? read)) fun table =>
      some (.object (table.map fun (key, value) => (key, write value))) :=
  h.table.withDefault (.object fun _ hmember => nomatch hmember)
    (table?_object.2 ⟨[], .nil, rfl⟩)

theorem optional_of_isNull {node : Json} (hnull : node.isNull = true) :
    Document.optional read (some node) = some none := by
  cases node with
  | null => rfl
  | _ => simp [Json.isNull] at hnull

theorem optional_of_not_isNull {node : Json} (hnull : node.isNull = false) :
    Document.optional read (some node) = (read node).map some := by
  cases node with
  | null => simp [Json.isNull] at hnull
  | _ => rfl

theorem exists_of_optional {field : Option Json} {value : α}
    (hread : Document.optional read field = some (some value)) :
    ∃ node, field = some node ∧ node.isNull = false ∧ read node = some value := by
  cases field with
  | none => exact nomatch hread
  | some node =>
      cases hnull : node.isNull with
      | true =>
          rw [optional_of_isNull hnull] at hread
          exact nomatch hread
      | false =>
          rw [optional_of_not_isNull hnull, Option.map_eq_some_iff] at hread
          obtain ⟨given, hgiven, hvalue⟩ := hread
          exact ⟨node, rfl, hnull, Option.some.inj hvalue ▸ hgiven⟩

theorem optional_write (h : ReadsBack read write) {field : Option Json} {value : α}
    (hfield : Json.IsRegularField field)
    (hread : Document.optional read field = some (some value)) :
    Document.optional read (some (write value)) = some (some value) ∧ (write value).IsRegular := by
  obtain ⟨node, rfl, hnull, hgiven⟩ := exists_of_optional hread
  have hregular := hfield node rfl
  rw [optional_of_not_isNull (h.isNull_eq hregular hnull hgiven), h.read_write hregular hgiven]
  exact ⟨rfl, h.isRegular hregular hgiven⟩

theorem optional (h : ReadsBack read write) :
    FieldReadsBack (Document.optional read) (Option.map write) := by
  rintro field (_ | value) hfield hread
  · exact ⟨rfl, fun _ hnode => nomatch hnode⟩
  · obtain ⟨hwritten, hregular⟩ := h.optional_write hfield hread
    exact ⟨hwritten, hregular.field⟩

theorem nullable (h : ReadsBack read write) :
    FieldReadsBack (Document.optional read) fun value => some (Json.ofOption write value) := by
  rintro field (_ | value) hfield hread
  · exact ⟨rfl, Json.IsRegular.null.field⟩
  · obtain ⟨hwritten, hregular⟩ := h.optional_write hfield hread
    exact ⟨hwritten, hregular.field⟩

end ReadsBack

/-- The member of a field, which is left out without a value. -/
def Json.fieldMember (field : String × Option Json) : Option (String × Json) :=
  field.2.map fun value => (field.1, value)

@[simp] theorem Json.filterMap_fieldMember_cons (name : String) (value : Option Json)
    (fields : List (String × Option Json)) :
    ((name, value) :: fields).filterMap fieldMember =
      member name id value ++ fields.filterMap fieldMember := by
  cases value <;> rfl

@[simp] theorem Json.member_id_map {α : Type} (name : String) (encode : α → Json)
    (value : Option α) : member name id (value.map encode) = member name encode value := by
  cases value <;> rfl

@[simp] theorem Json.member_some {α : Type} (name : String) (encode : α → Json) (value : α) :
    member name encode (some value) = [(name, encode value)] := rfl

/-- A record of its fields. -/
def Json.ofFields (fields : List (String × Option Json)) : Json :=
  .ofPairs (fields.filterMap Json.fieldMember)

theorem Json.isRegular_ofFields {fields : List (String × Option Json)}
    (h : ∀ field ∈ fields, Json.IsRegularField field.2) : (Json.ofFields fields).IsRegular := by
  refine isRegular_ofPairs fun member hmember => ?_
  obtain ⟨field, hfield, hmember⟩ := List.mem_filterMap.1 hmember
  obtain ⟨value, hvalue, rfl⟩ := Option.map_eq_some_iff.1 hmember
  exact h field hfield value hvalue

namespace Document

/-- Whether the fields of a record, by their names in order, are those that a layout asks for. -/
def Fits (layout : List (List String)) (names : List String) : Prop :=
  names.Nodup ∧ List.Forall₂ (fun name asked => names.filter asked.contains = [name]) names layout

instance (layout : List (List String)) (names : List String) : Decidable (Fits layout names) :=
  inferInstanceAs (Decidable (_ ∧ _))

variable {layout : List (List String)} {fields : List (String × Option Json)}

theorem nodup_keys_fieldMember (h : (fields.map Prod.fst).Nodup) :
    ((fields.filterMap Json.fieldMember).map Prod.fst).Nodup := by
  rw [List.Nodup, List.pairwise_map, List.pairwise_filterMap]
  refine (List.pairwise_map.1 h).imp fun {field other} hne member hmember another hanother => ?_
  obtain ⟨_, -, rfl⟩ := Option.map_eq_some_iff.1 hmember
  obtain ⟨_, -, rfl⟩ := Option.map_eq_some_iff.1 hanother
  exact hne

theorem filter_fieldMember (test : String → Bool) :
    (fields.filterMap Json.fieldMember).filter (fun member => test member.1) =
      (fields.filter fun field => test field.1).filterMap Json.fieldMember := by
  rw [List.filter_filterMap, List.filterMap_filter]
  refine List.filterMap_congr fun ⟨name, value⟩ _ => ?_
  cases value with
  | none => simp [Json.fieldMember]
  | some value => by_cases htest : test name <;> simp [Json.fieldMember, Option.filter, htest]

theorem slot?_ofFields {asked : List String} {field : String × Option Json}
    (hnodup : (fields.map Prod.fst).Nodup) (hfield : field ∈ fields)
    (hasked : (fields.map Prod.fst).filter asked.contains = [field.1]) :
    slot? asked (Table.ofPairs (fields.filterMap Json.fieldMember)) = some field.2 := by
  have hfields : fields.filter (fun field => asked.contains field.1) = [field] := by
    rw [List.filter_map, List.map_eq_singleton_iff] at hasked
    obtain ⟨found, hfound, hname⟩ := hasked
    have hcontains : asked.contains field.1 = true := by
      have hmember : found ∈ fields.filter (asked.contains ∘ Prod.fst) :=
        hfound ▸ List.mem_singleton_self _
      exact hname ▸ (List.mem_filter.1 hmember).2
    have hsame : field ∈ fields.filter (asked.contains ∘ Prod.fst) :=
      List.mem_filter.2 ⟨hfield, hcontains⟩
    rw [hfound, List.mem_singleton] at hsame
    exact hsame ▸ hfound
  have hperm := (Table.ofPairs_perm (nodup_keys_fieldMember hnodup)).filter
    fun member => asked.contains member.1
  rw [filter_fieldMember, hfields] at hperm
  rw [slot?]
  rcases field with ⟨name, _ | value⟩
  · rw [hperm.eq_nil]
  · rw [List.perm_singleton.1 hperm]

theorem fields?_ofFields (h : Fits layout (fields.map Prod.fst)) :
    (fields? layout (Json.ofFields fields) : Option (List (Option Json))) =
      some (fields.map Prod.snd) := by
  obtain ⟨hnodup, hlayout⟩ := h
  rw [List.forall₂_map_left_iff] at hlayout
  have hslots : layout.mapM (fun asked =>
      slot? asked (Table.ofPairs (fields.filterMap Json.fieldMember))) =
        some (fields.map Prod.snd) := by
    rw [mapM_eq_some_iff, List.forall₂_map_right_iff]
    refine List.Forall₂.flip ?_
    have hmember : List.Forall₂ (fun field asked => field ∈ fields ∧
        (fields.map Prod.fst).filter asked.contains = [field.1]) fields layout :=
      (List.forall₂_and_left _ _).2 ⟨fun _ => id, hlayout⟩
    exact hmember.imp fun field asked h => slot?_ofFields hnodup h.1 h.2
  have hrecord : (record? (Json.ofFields fields) : Option (Record Json)) =
      some (.mapping ((Table.ofPairs (fields.filterMap Json.fieldMember)).map
        fun (key, value) => (Json.string key, value))) := rfl
  rw [fields?, hrecord, Option.bind_eq_bind, Option.bind_some]
  dsimp only
  rw [ReadsBack.entries?_members, Option.bind_eq_bind, Option.bind_some, hslots]
  rfl

theorem mem_of_slot? {asked : List String} {entries : List (String × Json)} {value : Json}
    (hslot : slot? asked entries = some (some value)) : ∃ entry ∈ entries, entry.2 = value := by
  unfold slot? at hslot
  split at hslot
  · exact nomatch hslot
  · next name given hfilter =>
      obtain rfl := Option.some.inj (Option.some.inj hslot)
      have hmember : (name, given) ∈ entries.filter fun entry => asked.contains entry.1 :=
        hfilter ▸ List.mem_singleton_self _
      exact ⟨_, (List.mem_filter.1 hmember).1, rfl⟩
  · exact nomatch hslot

theorem isRegularField_of_fields? {node : Json} {values : List (Option Json)}
    (hnode : node.IsRegular) (hfields : fields? layout node = some values) :
    ∀ field ∈ values, Json.IsRegularField field := by
  obtain ⟨record, hrecord, hfields⟩ := Option.bind_eq_some_iff.1 hfields
  cases hnode with
  | @array items hitems =>
      obtain rfl := Option.some.inj hrecord
      dsimp only at hfields
      split at hfields
      · obtain rfl := Option.some.inj hfields
        intro field hfield node hnode
        subst hnode
        rcases List.mem_append.1 hfield with hfield | hfield
        · obtain ⟨item, hitem, hsome⟩ := List.mem_map.1 hfield
          exact Option.some.inj hsome ▸ hitems item hitem
        · exact nomatch List.eq_of_mem_replicate hfield
      · exact nomatch hfields
  | @object members hmembers =>
      obtain rfl := Option.some.inj hrecord
      dsimp only at hfields
      rw [ReadsBack.entries?_members, Option.bind_eq_bind, Option.bind_some] at hfields
      split at hfields
      · next found hslots =>
          obtain rfl := Option.some.inj hfields
          intro field hfield node hnode
          subst hnode
          obtain ⟨asked, -, hslot⟩ := exists_of_mem_forall₂ (mapM_eq_some_iff.1 hslots) hfield
          obtain ⟨entry, hentry, rfl⟩ := mem_of_slot? hslot
          exact hmembers entry hentry
      · exact nomatch hfields
  | _ => exact nomatch hrecord

end Document

/-- A record is written by its fields, if what is read from them can be. -/
theorem ReadsBack.record {α : Type} {layout : List (List String)}
    {read : List (Option Json) → Option α} {write : α → List (String × Option Json)}
    (hfits : ∀ value, Document.Fits layout ((write value).map Prod.fst))
    (h : ∀ {values value}, (∀ field ∈ values, Json.IsRegularField field) →
      read values = some value → read ((write value).map Prod.snd) = some value ∧
        ∀ field ∈ write value, Json.IsRegularField field.2) :
    ReadsBack (fun node => Document.fields? layout node >>= read) fun value =>
      Json.ofFields (write value) := by
  refine ⟨?_, ?_, fun _ _ _ => rfl⟩
  · intro node value hnode hread
    obtain ⟨values, hvalues, hread⟩ := Option.bind_eq_some_iff.1 hread
    rw [Document.fields?_ofFields (hfits value), Option.bind_eq_bind, Option.bind_some]
    exact (h (Document.isRegularField_of_fields? hnode hvalues) hread).1
  · intro node value hnode hread
    obtain ⟨values, hvalues, hread⟩ := Option.bind_eq_some_iff.1 hread
    exact Json.isRegular_ofFields
      (h (Document.isRegularField_of_fields? hnode hvalues) hread).2

end ApiBridge
