import ApiBridge.Json.Printer
import ApiBridge.Schema.Kind

/-!
Checking values against schemas with the keywords `type`, `enum`, `minimum`, `maximum`, `required`,
`properties`, `additionalProperties` and `items`. Other keywords, and keywords whose own value is of
no use, say nothing.
-/

namespace ApiBridge.Schema

/-- A step into a value: to a member of an object or to an item of an array. -/
inductive Step where
  | member (key : String)
  | item (index : Nat)
  deriving DecidableEq, Repr

def Step.text : Step → String
  | .member key => "." ++ key
  | .item index => "[" ++ toString index ++ "]"

abbrev Location := List Step

namespace Location

def text (location : Location) : String := "$" ++ String.join (location.map Step.text)

end Location

structure Diff where
  location : Location
  message : String
  deriving DecidableEq, Repr

namespace Diff

def path (diff : Diff) : String := diff.location.text

def encode (diff : Diff) : Json :=
  .ofPairs [("path", .string diff.path), ("message", .string diff.message)]

def pretty (diffs : List Diff) : String :=
  String.intercalate "\n" (diffs.map fun diff => "  - " ++ diff.path ++ ": " ++ diff.message)

end Diff

/-- The kinds that the keyword `type` names; unknown names are passed over. -/
def typeNames (keywords : Table Json) : List Kind :=
  match keywords.find? "type" with
  | some (.string name) => (Kind.ofName? name).toList
  | some (.array names) => names.filterMap fun name => name.string?.bind Kind.ofName?
  | _ => []

/-- Whether the keyword `type` names kinds none of which accepts the value. -/
def isMismatch (keywords : Table Json) (value : Json) : Bool :=
  let kinds := typeNames keywords
  !kinds.isEmpty && !kinds.any fun kind => kind.accepts value

/-- What is wrong with a value of none of the kinds that are named. -/
def mismatchText (keywords : Table Json) (value : Json) : String :=
  "expected " ++ String.intercalate " or " ((typeNames keywords).map Kind.name) ++ ", got " ++
    (Kind.ofValue value).name

def enumTexts (keywords : Table Json) (value : Json) : List String :=
  match keywords.find? "enum" with
  | some (.array allowed) =>
      if allowed.any fun other => other.same value then []
      else [value.compact ++ " is not one of " ++ (Json.array allowed).compact]
  | _ => []

def bound? (keywords : Table Json) (keyword : String) : Option Binary64 :=
  ((keywords.find? keyword).bind Json.number?).map Number.toBinary64

def numberText (x : Binary64) : String := Decimal.messageLayout.render x

def boundTexts (keywords : Table Json) (value : Json) : List String :=
  match value.number? with
  | none => []
  | some number =>
      let x := number.toBinary64
      let below := match bound? keywords "minimum" with
        | some low =>
            if x.lt low then [numberText x ++ " is less than minimum " ++ numberText low] else []
        | none => []
      let above := match bound? keywords "maximum" with
        | some high =>
            if high.lt x then [numberText x ++ " is greater than maximum " ++ numberText high]
            else []
        | none => []
      below ++ above

def requiredTexts (keywords : Table Json) (value : Json) : List String :=
  match value, keywords.find? "required" with
  | .object members, some (.array names) =>
      (names.filterMap Json.string?).filterMap fun name =>
        if Table.has name members then none else some ("missing required property '" ++ name ++ "'")
  | _, _ => []

def properties (keywords : Table Json) : Table Json :=
  ((keywords.find? "properties").bind Json.object?).getD []

def isClosed (keywords : Table Json) : Bool :=
  match keywords.find? "additionalProperties" with
  | some (.bool false) => true
  | _ => false

def unexpectedTexts (keywords : Table Json) (value : Json) : List String :=
  match value, isClosed keywords with
  | .object members, true =>
      members.filterMap fun (name, _) =>
        if (properties keywords).has name then none
        else some ("unexpected property '" ++ name ++ "'")
  | _, _ => []

theorem sizeOf_find?_lt {key : String} {value : Json} {table : Table Json}
    (h : table.find? key = some value) : sizeOf value < sizeOf table := by
  induction table with
  | nil => simp [Table.find?] at h
  | cons entry rest ih =>
      obtain ⟨otherKey, other⟩ := entry
      simp only [Table.find?] at h
      split at h
      · simp only [Option.some.injEq] at h
        subst h
        simp only [List.cons.sizeOf_spec, Prod.mk.sizeOf_spec]
        omega
      · have := ih h
        simp only [List.cons.sizeOf_spec]
        omega

theorem sizeOf_properties_lt {keywords : Table Json} {entry : String × Json}
    (h : entry ∈ properties keywords) : sizeOf entry.2 < sizeOf (Json.object keywords) := by
  unfold properties at h
  cases hfind : keywords.find? "properties" with
  | none => simp [hfind] at h
  | some found =>
      have hlt := sizeOf_find?_lt hfind
      cases found with
      | object members =>
          simp only [hfind, Option.bind_some, Json.object?, Option.getD_some] at h
          have hmember := List.sizeOf_lt_of_mem h
          obtain ⟨key, value⟩ := entry
          simp only [Prod.mk.sizeOf_spec, Json.object.sizeOf_spec] at *
          omega
      | _ => simp [hfind, Json.object?] at h

theorem sizeOf_items_lt {keywords : Table Json} {itemSchema : Json}
    (h : keywords.find? "items" = some itemSchema) :
    sizeOf itemSchema < sizeOf (Json.object keywords) := by
  have := sizeOf_find?_lt h
  simp only [Json.object.sizeOf_spec]
  omega

/-- The differences of a value at a location from a schema: those of the value itself, with those
of its members or items among them. A value of the wrong kind has that one difference and no
other. -/
def check (schema value : Json) (location : Location) : List Diff :=
  match schema with
  | .object keywords =>
      let here (texts : List String) : List Diff := texts.map (Diff.mk location)
      if isMismatch keywords value then here [mismatchText keywords value]
      else
        let inner := match value with
          | .object members =>
              (properties keywords).attach.flatMap fun ⟨(key, subschema), _⟩ =>
                match Table.find? key members with
                | some member => check subschema member (location ++ [.member key])
                | none => []
          | .array items =>
              match _h : Table.find? "items" keywords with
              | some itemSchema =>
                  items.zipIdx.flatMap fun (item, index) =>
                    check itemSchema item (location ++ [.item index])
              | none => []
          | _ => []
        here (enumTexts keywords value ++ boundTexts keywords value ++
          requiredTexts keywords value) ++ inner ++ here (unexpectedTexts keywords value)
  | _ => []
termination_by sizeOf schema
decreasing_by
  · exact sizeOf_properties_lt (by assumption)
  · exact sizeOf_items_lt (by assumption)

structure Outcome where
  valid : Bool
  diffs : List Diff
  deriving DecidableEq, Repr

abbrev Validator := Json → Json → Outcome

def validate : Validator := fun payload schema =>
  let diffs := check schema payload []
  { valid := diffs.isEmpty, diffs }

end ApiBridge.Schema
