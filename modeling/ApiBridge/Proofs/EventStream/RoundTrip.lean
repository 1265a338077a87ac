import ApiBridge.Proofs.EventStream.Encoding

namespace ApiBridge.EventStream

/-- Whether an event says what its raw data says and keeps to one line where it must. -/
structure Event.IsPlain (event : Event) (decodeJson : Bool) : Prop where
  data_eq : event.data = Block.decodeData event.raw decodeJson
  id_isLine : ∀ id ∈ event.id, IsLine id
  id_no_nul : ∀ id ∈ event.id, '\x00' ∉ id.toList
  name_ne : event.name ≠ ""
  name_isLine : IsLine event.name
  raw_no_return : '\r' ∉ event.raw.toList
  retry_lt : ∀ millis ∈ event.retry, millis < UInt64.size

/-- Whether lines write an event. An event with the default name may be written without one. -/
def Event.IsWritten (event : Event) (lines : List String) : Prop :=
  ∃ name : Option String, name.getD defaultName = event.name ∧
    List.Forall₂ IsWriting (fieldsOf event.id name event.retry event.raw) lines

section Writing

variable {event : Event} {lines : List String} {decodeJson : Bool}

theorem splitBlocks_of_isWritten (hplain : event.IsPlain decodeJson) (h : event.IsWritten lines)
    (ending : LineEnd) : splitBlocks (ending.terminate (lines ++ [""])) = ([lines], []) := by
  obtain ⟨name, hname, hwriting⟩ := h
  have hnames : ∀ value ∈ name, IsLine value := by
    rintro value rfl
    rw [show value = event.name from hname]
    exact hplain.name_isLine
  have hlines : ∀ line ∈ lines ++ [""], IsLine line :=
    List.forall_mem_append.2
      ⟨isLine_of_writing hplain.id_isLine hnames hplain.raw_no_return hwriting,
        List.forall_mem_singleton.2 (by decide)⟩
  rw [LineEnd.splitBlocks_terminate ending hlines,
    cut_append_cons (isEmpty_of_writing hwriting) rfl]
  rfl

theorem event?_of_isWritten (hplain : event.IsPlain decodeJson) (h : event.IsWritten lines) :
    ∃ block, Block.ofLines? lines = some block ∧ block.event? decodeJson = some event := by
  obtain ⟨name, hname, hwriting⟩ := h
  have hread : (name.filter fun value => !value.isEmpty).getD defaultName = event.name := by
    cases name with
    | none => exact hname
    | some value =>
        have hvalue : value = event.name := hname
        simp [Option.filter_some, hvalue, hplain.name_ne]
  refine ⟨_, ofLines?_of_writing hplain.id_no_nul hplain.retry_lt hwriting, ?_⟩
  rw [event?_textLines, hread, ← hplain.data_eq]

end Writing

/-- What the lines of a block say is what their fields make of an event, lines that change nothing
may stand anywhere among them, and an event that is written as lines is read back from them. -/
theorem ofLines?_tells (lines : List String) :
    (Block.ofLines? lines = none ↔
      ∀ line ∈ lines, ∀ name value, Says line name value → ¬ Counts name value) ∧
    (∃ fields, Reads lines fields ∧ ∀ block ∈ Block.ofLines? lines,
      (block.isDispatchable = true ↔ ∃ value, ∃ line ∈ lines, Says line "data" value) ∧
      ∀ decodeJson, (block.toEvent decodeJson).Tells fields decodeJson) ∧
    (∀ longer, Inserted IsSilent lines longer → Block.ofLines? longer = Block.ofLines? lines) ∧
    ∀ (event : Event) (decodeJson : Bool), event.IsPlain decodeJson → event.IsWritten lines →
      (∀ ending : LineEnd, splitBlocks (ending.terminate (lines ++ [""])) = ([lines], [])) ∧
      ∃ block, Block.ofLines? lines = some block ∧ block.event? decodeJson = some event := by
  refine ⟨ofLines?_eq_none_iff, ?_, fun _ h => h.ofLines?_eq, fun event decodeJson hplain h =>
    ⟨splitBlocks_of_isWritten hplain h, event?_of_isWritten hplain h⟩⟩
  obtain ⟨fields, h⟩ := exists_reads lines
  refine ⟨fields, h, fun block hblock => ?_⟩
  have hfields : Block.ofFields fields = block := by
    rw [h.ofLines?_eq, Option.mem_def] at hblock
    simp only [Option.ite_none_left_eq_some, Option.some.injEq] at hblock
    exact hblock.2
  subst hfields
  refine ⟨?_, tells_toEvent fields⟩
  rw [isDispatchable_ofFields, ne_eq, List.eq_nil_iff_forall_not_mem]
  simp only [mem_valuesOf, h.mem_iff, not_forall, not_not]

theorem ofLines?_tells_sample :
    let event : Event :=
      { id := some "a:b", name := "tick", data := .number (.int 1), retry := some 10,
        raw := "\n 1" }
    let lines := ["id:a:b", "event: tick", "retry:10", "data:", "data:  1"]
    Inserted IsSilent lines (":open" :: lines) ∧ event.IsPlain true ∧ event.IsWritten lines ∧
      ∃ block, Block.ofLines? (":open" :: lines) = some block ∧
        block.event? true = some event := by
  intro event lines
  have hdata : Block.decodeData "\n 1" true = .number (.int 1) := by rfl
  have hplain : event.IsPlain true :=
    ⟨hdata.symm, by decide, by decide, by decide, by decide, by decide, by decide⟩
  have hwritten : event.IsWritten lines := by
    refine ⟨some "tick", rfl, ?_⟩
    have hfields : fieldsOf event.id (some "tick") event.retry event.raw =
        [("id", "a:b"), ("event", "tick"), ("retry", "10"), ("data", ""), ("data", " 1")] := by
      decide
    rw [hfields]
    exact .cons (.inr (by decide)) (.cons (.inl rfl) (.cons (.inr (by decide))
      (.cons (.inr (by decide)) (.cons (.inl rfl) .nil))))
  have hsilent : Inserted IsSilent lines (":open" :: lines) :=
    .insert (.comment (by decide)) (.keep _ (.keep _ (.keep _ (.keep _ (.keep _ .nil)))))
  obtain ⟨-, -, hinserted, hread⟩ := ofLines?_tells lines
  rw [hinserted _ hsilent]
  exact ⟨hsilent, hplain, hwritten, (hread event true hplain hwritten).2⟩

end ApiBridge.EventStream
