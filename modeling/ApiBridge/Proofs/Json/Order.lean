import ApiBridge.Proofs.Json.Reader
import ApiBridge.Proofs.Table

namespace ApiBridge

namespace Json

variable {value : Json}

/-- Every object in a value has its keys in their order, and so each of them once. -/
inductive IsOrdered : Json → Prop where
  | null : IsOrdered .null
  | bool (b : Bool) : IsOrdered (.bool b)
  | number (number : Number) : IsOrdered (.number number)
  | string (text : String) : IsOrdered (.string text)
  | array {items : List Json} (hitems : ∀ item ∈ items, IsOrdered item) : IsOrdered (.array items)
  | object {members : Table Json} (hkeys : members.IsOrdered)
      (hmembers : ∀ member ∈ members, IsOrdered member.2) : IsOrdered (.object members)

theorem IsOrdered.find? {members : Table Json} {key : String} (h : IsOrdered (.object members))
    (hfind : Table.find? key members = some value) : value.IsOrdered := by
  cases h with
  | object _ hmembers => exact hmembers _ (Table.mem_of_find? hfind)

theorem isOrdered_ofPairs {members : List (String × Json)}
    (hmembers : ∀ member ∈ members, member.2.IsOrdered) : (ofPairs members).IsOrdered :=
  .object (Table.isOrdered_ofPairs members) fun member hmember =>
    hmembers member (Table.mem_of_mem_ofPairs hmember)

theorem isOrdered_of_parse? {text : String} (hparse : parse? text = some value) :
    value.IsOrdered := by
  refine HoldsOfParts.of_parse? ?_ hparse
  exact ⟨.null, .bool, .string, fun _ => .number _, .array, isOrdered_ofPairs⟩

end Json

end ApiBridge
