import ApiBridge.Proofs.Decimal.Numeral
import ApiBridge.Proofs.EventStream.Blocks

namespace ApiBridge.EventStream

/-- What a line says: a field, by its name, and its value. The name goes up to the first colon, and
one blank behind the colon does not count. A line that starts with a colon says nothing. -/
inductive Says : String → String → String → Prop
  | bare {line : String} (hcolon : ':' ∉ line.toList) : Says line line ""
  | spaced {name value : String} (hname : ':' ∉ name.toList) (hne : name ≠ "") :
      Says (name ++ ": " ++ value) name value
  | tight {name value : String} (hname : ':' ∉ name.toList) (hne : name ≠ "")
      (hvalue : value.toList.head? ≠ some ' ') : Says (name ++ ":" ++ value) name value

/-- The fields that lines say, in order. -/
inductive Reads : List String → List (String × String) → Prop
  | nil : Reads [] []
  | comment {line : String} {lines : List String} {fields : List (String × String)}
      (hcomment : line.toList.head? = some ':') (hlines : Reads lines fields) :
      Reads (line :: lines) fields
  | field {line name value : String} {lines : List String} {fields : List (String × String)}
      (hsaid : Says line name value) (hlines : Reads lines fields) :
      Reads (line :: lines) ((name, value) :: fields)

theorem head?_append_ne {name : String} (hname : ':' ∉ name.toList) (hne : name ≠ "")
    (rest : String) : (name ++ rest).toList.head? ≠ some ':' := by
  rw [String.toList_append, List.head?_append]
  cases hchars : name.toList with
  | nil => exact absurd (String.toList_eq_nil_iff.1 hchars) hne
  | cons c chars =>
      rw [hchars] at hname
      simpa using Ne.symm (not_or.1 (List.mem_cons.not.1 hname)).1

theorem splitField_of_colon {line : String} {name rest : List Char} (hname : ':' ∉ name)
    (hline : line.toList = name ++ ':' :: rest) :
    Block.splitField line =
      (String.ofList name, String.ofList (if rest.head? = some ' ' then rest.tail else rest)) := by
  have hchars : ∀ c ∈ name, (c != ':') = true :=
    fun c hc => bne_iff_ne.2 fun heq => hname (heq ▸ hc)
  unfold Block.splitField
  rw [hline]
  simp only [List.dropWhile_append_of_pos hchars, List.takeWhile_append_of_pos hchars]
  cases rest with
  | nil => simp
  | cons c rest =>
      by_cases hblank : c = ' '
      · simp [hblank]
      · simp [hblank]

theorem Says.splitField_eq {line name value : String} (h : Says line name value) :
    line.toList.head? ≠ some ':' ∧ Block.splitField line = (name, value) := by
  cases h with
  | bare hcolon =>
      refine ⟨fun hhead => hcolon (List.mem_of_head? hhead), ?_⟩
      have hchars : ∀ c ∈ line.toList, (c != ':') = true :=
        fun c hc => bne_iff_ne.2 fun heq => hcolon (heq ▸ hc)
      unfold Block.splitField
      simp only [List.dropWhile_eq_nil_iff.2 hchars]
  | spaced hname hne =>
      refine ⟨String.append_assoc ▸ head?_append_ne hname hne _, ?_⟩
      have hline : (name ++ ": " ++ value).toList = name.toList ++ ':' :: ' ' :: value.toList := by
        simp
      simp [splitField_of_colon hname hline]
  | tight hname hne hvalue =>
      refine ⟨String.append_assoc ▸ head?_append_ne hname hne _, ?_⟩
      have hline : (name ++ ":" ++ value).toList = name.toList ++ ':' :: value.toList := by
        simp
      rw [splitField_of_colon hname hline, if_neg hvalue, String.ofList_toList,
        String.ofList_toList]

theorem Says.unique {line name value other more : String} (h : Says line name value)
    (hother : Says line other more) : name = other ∧ value = more :=
  Prod.mk.inj (h.splitField_eq.2.symm.trans hother.splitField_eq.2)

theorem Says.addLine_eq {line name value : String} (h : Says line name value) (block : Block) :
    block.addLine line = block.addField name value := by
  rw [Block.addLine, if_neg h.splitField_eq.1, h.splitField_eq.2]

theorem comment_or_field (line : String) :
    line.toList.head? = some ':' ∨ ∃ name value, Says line name value := by
  by_cases hcolon : ':' ∈ line.toList
  · obtain ⟨name, rest, hline, hname⟩ := List.eq_append_cons_of_mem hcolon
    rcases List.eq_nil_or_concat name with rfl | ⟨front, last, hlast⟩
    · left
      rw [hline]
      rfl
    · right
      have hne : String.ofList name ≠ "" := by simp [hlast]
      have hname : ':' ∉ (String.ofList name).toList := by rwa [String.toList_ofList]
      by_cases hblank : rest.head? = some ' '
      · obtain ⟨value, rfl⟩ := List.head?_eq_some_iff.1 hblank
        have hline : line = String.ofList name ++ ": " ++ String.ofList value := by
          rw [← String.toList_inj, hline]
          simp
        rw [hline]
        exact ⟨_, _, .spaced hname hne⟩
      · have hline : line = String.ofList name ++ ":" ++ String.ofList rest := by
          rw [← String.toList_inj, hline]
          simp
        have hvalue : (String.ofList rest).toList.head? ≠ some ' ' := by
          rwa [String.toList_ofList]
        rw [hline]
        exact ⟨_, _, .tight hname hne hvalue⟩
  · exact .inr ⟨line, "", .bare hcolon⟩

theorem exists_reads (lines : List String) : ∃ fields, Reads lines fields := by
  induction lines with
  | nil => exact ⟨[], .nil⟩
  | cons line lines ih =>
      obtain ⟨fields, hlines⟩ := ih
      rcases comment_or_field line with hcomment | ⟨name, value, hsaid⟩
      · exact ⟨fields, .comment hcomment hlines⟩
      · exact ⟨(name, value) :: fields, .field hsaid hlines⟩

theorem Reads.mem_iff {lines : List String} {fields : List (String × String)}
    (h : Reads lines fields) {name value : String} :
    (name, value) ∈ fields ↔ ∃ line ∈ lines, Says line name value := by
  induction h with
  | nil => simp
  | comment hcomment _ ih =>
      have hsilent : ¬ Says _ name value := fun hsaid => hsaid.splitField_eq.1 hcomment
      simp [ih, hsilent]
  | @field line other more _ _ hsaid _ ih =>
      have hline : Says line name value ↔ (name, value) = (other, more) := by
        rw [Prod.mk.injEq]
        refine ⟨fun hline => hline.unique hsaid, ?_⟩
        rintro ⟨rfl, rfl⟩
        exact hsaid
      simp [ih, hline]

theorem Reads.foldl_addLine {lines : List String} {fields : List (String × String)}
    (h : Reads lines fields) (block : Block) :
    lines.foldl Block.addLine block =
      fields.foldl (fun block field => block.addField field.1 field.2) block := by
  induction h generalizing block with
  | nil => rfl
  | comment hcomment _ ih => rw [List.foldl_cons, Block.addLine, if_pos hcomment, ih]
  | field hsaid _ ih => rw [List.foldl_cons, List.foldl_cons, hsaid.addLine_eq, ih]

/-- The values of the fields of a name. -/
def valuesOf (name : String) (fields : List (String × String)) : List String :=
  (fields.filter fun field => field.1 == name).map Prod.snd

theorem mem_valuesOf {name value : String} {fields : List (String × String)} :
    value ∈ valuesOf name fields ↔ (name, value) ∈ fields := by
  simp [valuesOf]

theorem valuesOf_append (name : String) (fields more : List (String × String)) :
    valuesOf name (fields ++ more) = valuesOf name fields ++ valuesOf name more := by
  rw [valuesOf, List.filter_append, List.map_append]
  rfl

theorem valuesOf_concat (name other value : String) (fields : List (String × String)) :
    valuesOf name (fields ++ [(other, value)]) =
      if other = name then valuesOf name fields ++ [value] else valuesOf name fields := by
  by_cases hname : other = name
  · simp [valuesOf, hname]
  · simp [valuesOf, hname]

/-- What the last value that can be read reads as. -/
def lastOf {α : Type} (read : String → Option α) (values : List String) : Option α :=
  (values.filterMap read).getLast?

theorem lastOf_concat {α : Type} (read : String → Option α) (values : List String)
    (value : String) : lastOf read (values ++ [value]) = (read value).or (lastOf read values) := by
  have hone : ([value].filterMap read).getLast? = read value := by
    cases hread : read value <;> simp [hread]
  rw [lastOf, List.filterMap_append, List.getLast?_append, hone]
  rfl

def readId (value : String) : Option String :=
  if value.toList.contains '\x00' then none else some value

def readName (value : String) : Option String :=
  some (if value.isEmpty then defaultName else value)

def Block.ofFields (fields : List (String × String)) : Block :=
  { id := lastOf readId (valuesOf "id" fields)
    name := (lastOf readName (valuesOf "event" fields)).getD defaultName
    dataLines := valuesOf "data" fields
    retry := lastOf (Numeral.natural? UInt64.size) (valuesOf "retry" fields) }

theorem Block.addField_ofFields (fields : List (String × String)) (name value : String) :
    (ofFields fields).addField name value = ofFields (fields ++ [(name, value)]) := by
  simp only [ofFields, valuesOf_concat]
  unfold addField
  split
  · simp [lastOf_concat, readName]
  · simp
  · rw [if_pos rfl, lastOf_concat, readId]
    split <;> simp
  · rw [if_pos rfl, lastOf_concat]
    split <;> simp [*]
  · next hevent hdata hid hretry =>
      rw [if_neg hid, if_neg hevent, if_neg hdata, if_neg hretry]

theorem Block.foldl_addField (fields : List (String × String)) :
    fields.foldl (fun block field => block.addField field.1 field.2) empty = ofFields fields := by
  induction fields using List.reverseRecOn with
  | nil => rfl
  | append_singleton fields field ih =>
      rw [List.foldl_append, ih, List.foldl_cons, List.foldl_nil, addField_ofFields]

theorem Reads.ofLines?_eq {lines : List String} {fields : List (String × String)}
    (h : Reads lines fields) :
    Block.ofLines? lines =
      let block := Block.ofFields fields
      if block.dataLines = [] ∧ block.retry = none ∧ block.id = none then none else some block := by
  unfold Block.ofLines?
  rw [h.foldl_addLine, Block.foldl_addField]
  simp only [Bool.and_eq_true, List.isEmpty_iff, Option.isNone_iff_eq_none, and_assoc]

/-- Whether a field makes a block say something: data always does, an id if there is no NUL in it,
a retry time if it is a number of 64 bits. -/
inductive Counts : String → String → Prop
  | data (value : String) : Counts "data" value
  | id {value : String} (hnul : '\x00' ∉ value.toList) : Counts "id" value
  | retry {value : String} {millis : Nat} (hmillis : Numeral.IsNatural UInt64.size value millis) :
      Counts "retry" value

/-- Whether a line changes nothing: it is a comment, or a field that is not known or whose value is
not valid. -/
inductive IsSilent : String → Prop
  | comment {line : String} (hcomment : line.toList.head? = some ':') : IsSilent line
  | unknown {line name value : String} (hsaid : Says line name value)
      (hname : name ∉ ["data", "event", "id", "retry"]) : IsSilent line
  | id {line value : String} (hsaid : Says line "id" value) (hnul : '\x00' ∈ value.toList) :
      IsSilent line
  | retry {line value : String} (hsaid : Says line "retry" value)
      (hmillis : ∀ millis, ¬ Numeral.IsNatural UInt64.size value millis) : IsSilent line

/-- Lines with more lines of some kind anywhere among them. -/
inductive Inserted (extra : String → Prop) : List String → List String → Prop
  | nil : Inserted extra [] []
  | keep (line : String) {lines longer : List String} (hlines : Inserted extra lines longer) :
      Inserted extra (line :: lines) (line :: longer)
  | insert {line : String} {lines longer : List String} (hline : extra line)
      (hlines : Inserted extra lines longer) : Inserted extra lines (line :: longer)

theorem lastOf_eq_none_iff {α : Type} {read : String → Option α} {values : List String} :
    lastOf read values = none ↔ ∀ value ∈ values, read value = none := by
  rw [lastOf, List.getLast?_eq_none_iff, List.filterMap_eq_nil_iff]

theorem readId_eq_some_iff {value id : String} :
    readId value = some id ↔ id = value ∧ '\x00' ∉ value.toList := by
  by_cases hnul : '\x00' ∈ value.toList
  · simp [readId, hnul]
  · simp [readId, hnul, eq_comm]

theorem natural?_eq_none_iff {value : String} :
    Numeral.natural? UInt64.size value = none ↔
      ∀ millis, ¬ Numeral.IsNatural UInt64.size value millis := by
  rw [Option.eq_none_iff_forall_ne_some]
  exact forall_congr' fun millis => not_congr Numeral.natural?_eq_some_iff

theorem ofFields_empty_iff {fields : List (String × String)} :
    ((Block.ofFields fields).dataLines = [] ∧ (Block.ofFields fields).retry = none ∧
        (Block.ofFields fields).id = none) ↔
      ∀ name value, (name, value) ∈ fields → ¬ Counts name value := by
  constructor
  · rintro ⟨hdata, hretry, hid⟩ name value hfield hcounts
    cases hcounts with
    | data value => exact List.eq_nil_iff_forall_not_mem.1 hdata value (mem_valuesOf.2 hfield)
    | id hnul =>
        have hread := lastOf_eq_none_iff.1 hid value (mem_valuesOf.2 hfield)
        rw [readId_eq_some_iff.2 ⟨rfl, hnul⟩] at hread
        cases hread
    | retry hmillis =>
        have hread := lastOf_eq_none_iff.1 hretry value (mem_valuesOf.2 hfield)
        exact natural?_eq_none_iff.1 hread _ hmillis
  · intro hnone
    refine ⟨List.eq_nil_iff_forall_not_mem.2 fun value hvalue => ?_,
      lastOf_eq_none_iff.2 fun value hvalue => ?_, lastOf_eq_none_iff.2 fun value hvalue => ?_⟩
    · exact hnone _ _ (mem_valuesOf.1 hvalue) (.data value)
    · exact natural?_eq_none_iff.2 fun _ hmillis =>
        hnone _ _ (mem_valuesOf.1 hvalue) (.retry hmillis)
    · exact Option.eq_none_iff_forall_ne_some.2 fun _ hread =>
        hnone _ _ (mem_valuesOf.1 hvalue) (.id (readId_eq_some_iff.1 hread).2)

theorem ofLines?_eq_none_iff {lines : List String} :
    Block.ofLines? lines = none ↔
      ∀ line ∈ lines, ∀ name value, Says line name value → ¬ Counts name value := by
  obtain ⟨fields, h⟩ := exists_reads lines
  have hfields : (∀ line ∈ lines, ∀ name value, Says line name value → ¬ Counts name value) ↔
      ∀ name value, (name, value) ∈ fields → ¬ Counts name value := by
    simp only [h.mem_iff]
    exact ⟨fun hlines name value ⟨line, hline, hsaid⟩ => hlines line hline name value hsaid,
      fun hnone line hline name value hsaid => hnone name value ⟨line, hline, hsaid⟩⟩
  rw [hfields, h.ofLines?_eq, ← ofFields_empty_iff]
  simp only [ite_eq_left_iff, reduceCtorEq, imp_false, not_not]

theorem addLine_of_isSilent {line : String} (h : IsSilent line) (block : Block) :
    block.addLine line = block := by
  cases h with
  | comment hcomment => rw [Block.addLine, if_pos hcomment]
  | unknown hsaid hname =>
      rw [hsaid.addLine_eq]
      unfold Block.addField
      split <;> simp_all
  | id hsaid hnul =>
      rw [hsaid.addLine_eq]
      simp [Block.addField, hnul]
  | retry hsaid hmillis =>
      rw [hsaid.addLine_eq]
      simp only [Block.addField, natural?_eq_none_iff.2 hmillis]

theorem Inserted.ofLines?_eq {lines longer : List String} (h : Inserted IsSilent lines longer) :
    Block.ofLines? longer = Block.ofLines? lines := by
  have hfold : ∀ block : Block,
      longer.foldl Block.addLine block = lines.foldl Block.addLine block := by
    induction h with
    | nil => exact fun _ => rfl
    | keep line _ ih => exact fun block => ih (block.addLine line)
    | insert hline _ ih =>
        intro block
        rw [List.foldl_cons, addLine_of_isSilent hline, ih]
  rw [Block.ofLines?, Block.ofLines?, hfold]

/-- What the last value that means something means; nothing where none does. -/
inductive IsLast {α : Type} (means : String → α → Prop) (values : List String) : Option α → Prop
  | none (hnone : ∀ value ∈ values, ∀ result, ¬ means value result) : IsLast means values none
  | some {earlier later : List String} {value : String} {result : α}
      (hvalues : values = earlier ++ value :: later) (hvalue : means value result)
      (hlater : ∀ other ∈ later, ∀ result, ¬ means other result) :
      IsLast means values (some result)

theorem isLast_lastOf {α : Type} {read : String → Option α} {means : String → α → Prop}
    (hread : ∀ {value result}, read value = some result ↔ means value result)
    (values : List String) : IsLast means values (lastOf read values) := by
  induction values using List.reverseRecOn with
  | nil => exact .none (List.forall_mem_nil _)
  | append_singleton values value ih =>
      rw [lastOf_concat]
      cases hvalue : read value with
      | some result => exact .some rfl (hread.1 hvalue) (List.forall_mem_nil _)
      | none =>
          have hsilent : ∀ other ∈ [value], ∀ result, ¬ means other result := by
            refine List.forall_mem_singleton.2 fun result hmeans => ?_
            rw [hread.2 hmeans] at hvalue
            cases hvalue
          rw [Option.none_or]
          generalize lastOf read values = last at ih ⊢
          cases ih with
          | none hnone => exact .none (List.forall_mem_append.2 ⟨hnone, hsilent⟩)
          | some hvalues hmeans hlater =>
              have hlonger := congrArg (· ++ [value]) hvalues
              simp only [List.append_assoc, List.cons_append] at hlonger
              exact .some hlonger hmeans (List.forall_mem_append.2 ⟨hlater, hsilent⟩)

/-- What fields make of an event. -/
structure Event.Tells (event : Event) (fields : List (String × String)) (decodeJson : Bool) :
    Prop where
  id_isLast : IsLast (fun value id => id = value ∧ '\x00' ∉ value.toList) (valuesOf "id" fields)
    event.id
  name_eq : event.name =
    ((valuesOf "event" fields).getLast?.filter fun value => value ≠ "").getD defaultName
  raw_eq : event.raw = String.intercalate "\n" (valuesOf "data" fields)
  data_eq : event.data =
    if valuesOf "data" fields = [] then .null else Block.decodeData event.raw decodeJson
  retry_isLast : IsLast (Numeral.IsNatural UInt64.size) (valuesOf "retry" fields) event.retry

theorem isDispatchable_ofFields (fields : List (String × String)) :
    (Block.ofFields fields).isDispatchable = true ↔ valuesOf "data" fields ≠ [] := by
  rw [Block.isDispatchable, Bool.not_eq_true', List.isEmpty_eq_false_iff]
  rfl

theorem lastOf_readName (values : List String) :
    (lastOf readName values).getD defaultName =
      (values.getLast?.filter fun value => value ≠ "").getD defaultName := by
  rcases List.eq_nil_or_concat values with rfl | ⟨front, last, rfl⟩
  · rfl
  · rw [List.concat_eq_append, lastOf_concat, List.getLast?_concat]
    by_cases hlast : last = ""
    · simp [readName, hlast, Option.filter_some]
    · simp [readName, hlast, Option.filter_some]

theorem tells_toEvent (fields : List (String × String)) (decodeJson : Bool) :
    ((Block.ofFields fields).toEvent decodeJson).Tells fields decodeJson where
  id_isLast := isLast_lastOf readId_eq_some_iff _
  name_eq := lastOf_readName _
  raw_eq := rfl
  data_eq := by
    simp only [Block.toEvent, isDispatchable_ofFields, ne_eq, ite_not]
  retry_isLast := isLast_lastOf Numeral.natural?_eq_some_iff _

end ApiBridge.EventStream
