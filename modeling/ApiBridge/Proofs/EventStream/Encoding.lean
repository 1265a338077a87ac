import ApiBridge.Proofs.EventStream.Fields
import ApiBridge.Proofs.Json.Access
import ApiBridge.Proofs.Outcome
import ApiBridge.Proofs.Text.Utf8

namespace ApiBridge.EventStream

/-- A text without line ends. -/
def IsLine (text : String) : Prop := '\n' ∉ text.toList ∧ '\r' ∉ text.toList

instance (text : String) : Decidable (IsLine text) := inferInstanceAs (Decidable (_ ∧ _))

theorem IsLine.append {text more : String} (htext : IsLine text) (hmore : IsLine more) :
    IsLine (text ++ more) := by
  unfold IsLine at *
  rw [String.toList_append, List.mem_append, List.mem_append]
  exact ⟨not_or.2 ⟨htext.1, hmore.1⟩, not_or.2 ⟨htext.2, hmore.2⟩⟩

theorem IsLine.encode {text : String} (htext : IsLine text) :
    ∀ byte ∈ Utf8.encode text, isLineEnd byte = false := by
  intro byte hbyte
  rw [isLineEnd, Bool.or_eq_false_iff, beq_eq_false_iff_ne, beq_eq_false_iff_ne]
  constructor
  · rintro rfl
    exact htext.1 (Utf8.ofNat_toNat_mem_of_mem_encode (by decide) hbyte)
  · rintro rfl
    exact htext.2 (Utf8.ofNat_toNat_mem_of_mem_encode (by decide) hbyte)

/-- What stands behind a line. -/
inductive LineEnd where
  | feed
  | carriage
  | both
  deriving DecidableEq, Repr

namespace LineEnd

def first : LineEnd → UInt8
  | .feed => lineFeed
  | .carriage => carriageReturn
  | .both => carriageReturn

def bytes : LineEnd → List UInt8
  | .feed => [lineFeed]
  | .carriage => [carriageReturn]
  | .both => [carriageReturn, lineFeed]

/-- Lines, each with its end. -/
def terminate (ending : LineEnd) (lines : List String) : List UInt8 :=
  lines.flatMap fun line => Utf8.encode line ++ ending.bytes

variable {lines : List String}

theorem isLineEnd_first (ending : LineEnd) : isLineEnd ending.first = true := by
  cases ending <;> rfl

theorem first_isPrefix_bytes (ending : LineEnd) : [ending.first] <+: ending.bytes := by
  cases ending with
  | feed => exact List.prefix_rfl
  | carriage => exact List.prefix_rfl
  | both => exact ⟨[lineFeed], rfl⟩

theorem terminate_append (ending : LineEnd) (lines more : List String) :
    ending.terminate (lines ++ more) = ending.terminate lines ++ ending.terminate more :=
  List.flatMap_append

theorem terminate_concat (ending : LineEnd) (lines : List String) :
    ending.terminate (lines ++ [""]) = ending.terminate lines ++ ending.bytes := by
  rw [terminate_append]
  exact congrArg _ (List.append_nil _)

theorem dropFeeds_terminate (ending : LineEnd) (hlines : ∀ line ∈ lines, IsLine line)
    {afterReturn : Bool} (hreturn : afterReturn = true → ending.first ≠ lineFeed) :
    dropFeeds afterReturn (ending.terminate lines) =
      (lines.map Utf8.encode).flatMap fun line => line ++ [ending.first] := by
  induction lines generalizing afterReturn with
  | nil => rfl
  | cons line lines ih =>
      have hrest : ∀ again : Bool, (again = true → ending.first ≠ lineFeed) →
          dropFeeds again (ending.terminate lines) =
            (lines.map Utf8.encode).flatMap fun line => line ++ [ending.first] :=
        fun again hagain => ih (fun other hother => hlines other (List.mem_cons_of_mem _ hother))
          hagain
      have hdrop := dropFeeds_append_cons (hlines line List.mem_cons_self).encode hreturn
      rw [terminate, List.flatMap_cons, List.append_assoc, List.map_cons, List.flatMap_cons,
        List.append_assoc]
      cases ending with
      | feed => exact (hdrop _).trans (congrArg _ (congrArg _ (hrest false (by decide))))
      | carriage => exact (hdrop _).trans (congrArg _ (congrArg _ (hrest true (by decide))))
      | both => exact (hdrop _).trans (congrArg _ (congrArg _ (hrest false (by decide))))

theorem splitLines_terminate (ending : LineEnd) (hlines : ∀ line ∈ lines, IsLine line) :
    splitLines (ending.terminate lines) = (lines.map Utf8.encode, []) := by
  rw [splitLines, dropFeeds_terminate ending hlines (by simp)]
  refine cut_flatMap ?_ ending.isLineEnd_first
  rintro run hrun
  obtain ⟨line, hline, rfl⟩ := List.mem_map.1 hrun
  exact (hlines line hline).encode

theorem splitLines_terminate_first (ending : LineEnd) (lines : List String) :
    splitLines (ending.terminate lines ++ [ending.first]) =
      splitLines (ending.terminate (lines ++ [""])) := by
  rw [terminate_concat]
  cases ending with
  | feed => rfl
  | carriage => rfl
  | both =>
      have hreturn : endsInReturn false (both.terminate lines ++ [carriageReturn]) = true := by
        rw [endsInReturn_append]
        rfl
      exact (splitLines_append_lineFeed hreturn).symm.trans
        (congrArg splitLines (List.append_assoc _ _ _))

theorem splitBlocks_terminate (ending : LineEnd) (hlines : ∀ line ∈ lines, IsLine line) :
    splitBlocks (ending.terminate lines) = cut String.isEmpty lines := by
  have hlossy : (lines.map Utf8.encode).map Utf8.lossy = lines := by
    rw [List.map_map]
    exact List.map_id'' Utf8.lossy_encode lines
  rw [splitBlocks, splitLines_terminate ending hlines, hlossy]

end LineEnd

def fieldLine (name value : String) : String := name ++ ": " ++ value

/-- The lines of a text, between its line feeds. -/
def textLines (text : String) : List String := (text.toList.splitOn '\n').map String.ofList

theorem intercalate_textLines (text : String) :
    String.intercalate "\n" (textLines text) = text :=
  (Json.splitAt_eq_iff.1 rfl).2.2.symm

theorem textLines_ne_nil (text : String) : textLines text ≠ [] :=
  fun hnil => List.splitOn_ne_nil _ _ (List.map_eq_nil_iff.1 hnil)

theorem isLine_of_mem_textLines {text : String} (htext : '\r' ∉ text.toList) :
    ∀ line ∈ textLines text, IsLine line := by
  intro line hline
  obtain ⟨run, hrun, rfl⟩ := List.mem_map.1 hline
  have hchars := mem_of_mem_splitOn hrun
  rw [IsLine, String.toList_ofList]
  exact ⟨fun hfeed => (hchars _ hfeed).2 rfl, fun hreturn => htext (hchars _ hreturn).1⟩

theorem isLine_toString (number : Nat) : IsLine (toString number) :=
  ⟨fun hfeed => absurd (Numeral.isDigit_of_mem_toString hfeed) (by decide),
    fun hreturn => absurd (Numeral.isDigit_of_mem_toString hreturn) (by decide)⟩

/-- Whether a line writes a field: there is a blank behind the colon, or there is none and the value
does not start with one. -/
def IsWriting (field : String × String) (line : String) : Prop :=
  line = fieldLine field.1 field.2 ∨
    field.2.toList.head? ≠ some ' ' ∧ line = field.1 ++ ":" ++ field.2

/-- The fields of an event with an id, a name and a retry time, if it has them, and data over as
many lines as it takes. -/
def fieldsOf (id name : Option String) (retry : Option Nat) (data : String) :
    List (String × String) :=
  id.toList.map (fun value => ("id", value)) ++ name.toList.map (fun value => ("event", value)) ++
    (retry.toList.map toString).map (fun value => ("retry", value)) ++
    (textLines data).map fun value => ("data", value)

section Fields

variable {id name : Option String} {retry : Option Nat} {data : String}
  {field : String × String} {fields : List (String × String)} {lines : List String}

theorem name_of_mem_fieldsOf (hfield : field ∈ fieldsOf id name retry data) :
    field.1 ∈ ["id", "event", "retry", "data"] := by
  simp only [fieldsOf, List.mem_append, List.mem_map] at hfield
  rcases hfield with ((⟨_, -, rfl⟩ | ⟨_, -, rfl⟩) | ⟨_, -, rfl⟩) | ⟨_, -, rfl⟩
  all_goals simp

theorem isLine_name_of_mem_fieldsOf (hfield : field ∈ fieldsOf id name retry data) :
    IsLine field.1 := by
  have hnames : ∀ name ∈ ["id", "event", "retry", "data"], IsLine name := by decide
  exact hnames field.1 (name_of_mem_fieldsOf hfield)

theorem isLine_of_mem_fieldsOf (hid : ∀ value ∈ id, IsLine value)
    (hname : ∀ value ∈ name, IsLine value) (hdata : '\r' ∉ data.toList)
    (hfield : field ∈ fieldsOf id name retry data) : IsLine field.2 := by
  simp only [fieldsOf, List.mem_append, List.mem_map, Option.mem_toList] at hfield
  rcases hfield with ((⟨value, hvalue, rfl⟩ | ⟨value, hvalue, rfl⟩) | ⟨_, ⟨millis, -, rfl⟩, rfl⟩) |
    ⟨value, hvalue, rfl⟩
  · exact hid value hvalue
  · exact hname value hvalue
  · exact isLine_toString millis
  · exact isLine_of_mem_textLines hdata value hvalue

theorem IsWriting.toSays {line : String} (h : IsWriting field line)
    (hname : field.1 ∈ ["id", "event", "retry", "data"]) : Says line field.1 field.2 := by
  have hnames : ∀ name ∈ ["id", "event", "retry", "data"], ':' ∉ name.toList ∧ name ≠ "" := by
    decide
  obtain ⟨hcolon, hne⟩ := hnames field.1 hname
  rcases h with rfl | ⟨hvalue, rfl⟩
  · exact .spaced hcolon hne
  · exact .tight hcolon hne hvalue

theorem IsWriting.isLine {line : String} (h : IsWriting field line) (hname : IsLine field.1)
    (hvalue : IsLine field.2) : IsLine line := by
  rcases h with rfl | ⟨-, rfl⟩
  · exact (hname.append (by decide)).append hvalue
  · exact (hname.append (by decide)).append hvalue

theorem IsWriting.isEmpty_eq {line : String} (h : IsWriting field line) : line.isEmpty = false := by
  rcases h with rfl | ⟨-, rfl⟩
  · simp [fieldLine]
  · simp

theorem reads_of_writing (hnames : ∀ field ∈ fields, field.1 ∈ ["id", "event", "retry", "data"])
    (h : List.Forall₂ IsWriting fields lines) : Reads lines fields := by
  induction h with
  | nil => exact .nil
  | cons hline _ ih =>
      obtain ⟨hname, hrest⟩ := List.forall_mem_cons.1 hnames
      exact .field (hline.toSays hname) (ih hrest)

theorem valuesOf_map (name other : String) (values : List String) :
    valuesOf name (values.map fun value => (other, value)) =
      if other = name then values else [] := by
  by_cases hname : other = name
  · simp [valuesOf, hname, List.filter_map, Function.comp_def]
  · simp [valuesOf, hname]

theorem ofFields_fieldsOf (hid : ∀ value ∈ id, '\x00' ∉ value.toList)
    (hretry : ∀ millis ∈ retry, millis < UInt64.size) :
    Block.ofFields (fieldsOf id name retry data) =
      { id, name := (name.filter fun value => !value.isEmpty).getD defaultName,
        dataLines := textLines data, retry } := by
  have hids : lastOf readId id.toList = id := by
    cases id with
    | none => rfl
    | some value => simp [lastOf, readId_eq_some_iff.2 ⟨rfl, hid value rfl⟩]
  have hretries : lastOf (Numeral.natural? UInt64.size) (retry.toList.map toString) = retry := by
    cases retry with
    | none => rfl
    | some millis =>
        have hread := Numeral.natural?_toString (hretry millis rfl)
        simp only [lastOf, Option.toList_some, List.map_cons, List.map_nil, List.filterMap_cons,
          hread, List.filterMap_nil, List.getLast?_singleton]
  have hnames : (lastOf readName name.toList).getD defaultName =
      (name.filter fun value => !value.isEmpty).getD defaultName := by
    cases name with
    | none => rfl
    | some value =>
        cases hempty : value.isEmpty <;> simp [lastOf, readName, hempty, Option.filter_some]
  simp only [Block.ofFields, fieldsOf, valuesOf_append, valuesOf_map, String.reduceEq, if_true,
    if_false, List.append_nil, List.nil_append, hids, hretries, hnames]

theorem ofLines?_of_writing (hid : ∀ value ∈ id, '\x00' ∉ value.toList)
    (hretry : ∀ millis ∈ retry, millis < UInt64.size)
    (h : List.Forall₂ IsWriting (fieldsOf id name retry data) lines) :
    Block.ofLines? lines =
      some { id, name := (name.filter fun value => !value.isEmpty).getD defaultName,
             dataLines := textLines data, retry } := by
  have hreads : Reads lines (fieldsOf id name retry data) :=
    reads_of_writing (fun _ => name_of_mem_fieldsOf) h
  rw [hreads.ofLines?_eq, ofFields_fieldsOf hid hretry]
  exact if_neg fun hempty => textLines_ne_nil data hempty.1

theorem isLine_of_writing (hid : ∀ value ∈ id, IsLine value) (hname : ∀ value ∈ name, IsLine value)
    (hdata : '\r' ∉ data.toList)
    (h : List.Forall₂ IsWriting (fieldsOf id name retry data) lines) :
    ∀ line ∈ lines, IsLine line := by
  intro line hline
  obtain ⟨field, hfield, hwriting⟩ := exists_of_mem_forall₂ h hline
  exact hwriting.isLine (isLine_name_of_mem_fieldsOf hfield)
    (isLine_of_mem_fieldsOf hid hname hdata hfield)

theorem isEmpty_of_writing (h : List.Forall₂ IsWriting fields lines) :
    ∀ line ∈ lines, line.isEmpty = false := by
  intro line hline
  obtain ⟨field, -, hwriting⟩ := exists_of_mem_forall₂ h hline
  exact hwriting.isEmpty_eq

theorem event?_textLines (id : Option String) (name : String) (retry : Option Nat) (data : String)
    (decodeJson : Bool) :
    ({ id, name, dataLines := textLines data, retry } : Block).event? decodeJson =
      some { id, name, data := Block.decodeData data decodeJson, retry, raw := data } := by
  have hdata : Block.isDispatchable { id, name, dataLines := textLines data, retry } = true := by
    rw [Block.isDispatchable, Bool.not_eq_true', List.isEmpty_eq_false_iff]
    exact textLines_ne_nil data
  rw [Block.event?, if_pos hdata, Block.toEvent, if_pos hdata, Block.raw, intercalate_textLines]

end Fields

/-- An entry of a log that is sent as an event. -/
structure LogEntry where
  id : String
  name : Option String
  retry : Option Nat
  data : String
  deriving DecidableEq, Repr

namespace LogEntry

def lines (entry : LogEntry) : List String :=
  [fieldLine "id" entry.id] ++ (entry.name.map (fieldLine "event")).toList ++
    (entry.retry.map fun millis => fieldLine "retry" (toString millis)).toList ++
    (textLines entry.data).map (fieldLine "data")

/-- Whether an entry has an id and keeps to one line where it must. -/
structure IsPlain (entry : LogEntry) : Prop where
  id_ne : entry.id ≠ ""
  id_isLine : IsLine entry.id
  id_no_nul : '\x00' ∉ entry.id.toList
  name_isLine : ∀ name ∈ entry.name, IsLine name
  data_no_return : '\r' ∉ entry.data.toList
  retry_lt : ∀ millis ∈ entry.retry, millis < UInt64.size

instance (entry : LogEntry) : Decidable entry.IsPlain :=
  decidable_of_iff
    (entry.id ≠ "" ∧ IsLine entry.id ∧ '\x00' ∉ entry.id.toList ∧
      (∀ name ∈ entry.name, IsLine name) ∧ '\r' ∉ entry.data.toList ∧
      ∀ millis ∈ entry.retry, millis < UInt64.size)
    ⟨fun ⟨hne, hline, hnul, hname, hdata, hretry⟩ => ⟨hne, hline, hnul, hname, hdata, hretry⟩,
      fun h => ⟨h.id_ne, h.id_isLine, h.id_no_nul, h.name_isLine, h.data_no_return, h.retry_lt⟩⟩

/-- The name of the event, where an empty one is none. -/
def eventName (entry : LogEntry) : String :=
  (entry.name.filter fun name => !name.isEmpty).getD defaultName

def block (entry : LogEntry) : Block :=
  { id := some entry.id, name := entry.eventName, dataLines := textLines entry.data,
    retry := entry.retry }

def event (decodeJson : Bool) (entry : LogEntry) : Event :=
  { id := some entry.id, name := entry.eventName, data := Block.decodeData entry.data decodeJson,
    retry := entry.retry, raw := entry.data }

theorem event?_block (decodeJson : Bool) (entry : LogEntry) :
    entry.block.event? decodeJson = some (entry.event decodeJson) :=
  event?_textLines _ _ _ _ decodeJson

def fields (entry : LogEntry) : List (String × String) :=
  fieldsOf (some entry.id) entry.name entry.retry entry.data

theorem writing_lines (entry : LogEntry) : List.Forall₂ IsWriting entry.fields entry.lines := by
  have hlines : entry.lines = entry.fields.map fun field => fieldLine field.1 field.2 := by
    cases hname : entry.name <;> cases hretry : entry.retry <;>
      simp [lines, fields, fieldsOf, hname, hretry, Function.comp_def]
  rw [hlines, List.forall₂_map_right_iff, List.forall₂_same]
  exact fun field _ => .inl rfl

theorem ofLines?_lines {entry : LogEntry} (hplain : entry.IsPlain) :
    Block.ofLines? entry.lines = some entry.block :=
  ofLines?_of_writing (by simpa using hplain.id_no_nul) hplain.retry_lt entry.writing_lines

theorem isLine_of_mem_lines {entry : LogEntry} (hplain : entry.IsPlain) :
    ∀ line ∈ entry.lines, IsLine line :=
  isLine_of_writing (by simpa using hplain.id_isLine) hplain.name_isLine hplain.data_no_return
    entry.writing_lines

theorem isEmpty_of_mem_lines {entry : LogEntry} :
    ∀ line ∈ entry.lines, line.isEmpty = false :=
  isEmpty_of_writing entry.writing_lines

end LogEntry

/-- The lines of entries, with an empty one behind each of them. -/
def logLines (entries : List LogEntry) : List String :=
  entries.flatMap fun entry => entry.lines ++ [""]

def encodeLog (ending : LineEnd) (entries : List LogEntry) : List UInt8 :=
  ending.terminate (logLines entries)

/-- How many entries bytes hold completely. An entry is complete with the first byte of the empty
line behind it. -/
def completed (ending : LineEnd) : List LogEntry → List UInt8 → Nat
  | [], _ => 0
  | entry :: rest, bytes =>
      if (ending.terminate entry.lines).length < bytes.length then
        completed ending rest (bytes.drop (encodeLog ending [entry]).length) + 1
      else 0

variable {ending : LineEnd} {entries : List LogEntry} {entry : LogEntry}

theorem isLine_of_mem_logLines (hplain : ∀ entry ∈ entries, entry.IsPlain) :
    ∀ line ∈ logLines entries, IsLine line := by
  intro line hline
  obtain ⟨entry, hentry, hline⟩ := List.mem_flatMap.1 hline
  rcases List.mem_append.1 hline with hline | hline
  · exact LogEntry.isLine_of_mem_lines (hplain entry hentry) line hline
  · rw [List.mem_singleton.1 hline]
    decide

theorem encodeLog_append (ending : LineEnd) (entries more : List LogEntry) :
    encodeLog ending (entries ++ more) = encodeLog ending entries ++ encodeLog ending more := by
  rw [encodeLog, logLines, List.flatMap_append, LineEnd.terminate_append]
  rfl

theorem encodeLog_singleton (ending : LineEnd) (entry : LogEntry) :
    encodeLog ending [entry] = ending.terminate entry.lines ++ ending.bytes := by
  rw [encodeLog, logLines, List.flatMap_singleton, LineEnd.terminate_concat]

theorem cut_logLines (entries : List LogEntry) :
    cut String.isEmpty (logLines entries) = (entries.map LogEntry.lines, []) := by
  rw [logLines, ← List.flatMap_map LogEntry.lines fun lines => lines ++ [""]]
  refine cut_flatMap ?_ rfl
  intro lines hlines
  obtain ⟨entry, -, rfl⟩ := List.mem_map.1 hlines
  exact LogEntry.isEmpty_of_mem_lines

theorem filterMap_ofLines? (hplain : ∀ entry ∈ entries, entry.IsPlain) :
    (entries.map LogEntry.lines).filterMap Block.ofLines? = entries.map LogEntry.block := by
  induction entries with
  | nil => rfl
  | cons entry entries ih =>
      rw [List.map_cons, List.filterMap_cons_some
        (LogEntry.ofLines?_lines (hplain entry List.mem_cons_self)), List.map_cons,
        ih fun other hother => hplain other (List.mem_cons_of_mem _ hother)]

theorem splitBlocks_encodeLog (ending : LineEnd) (hplain : ∀ entry ∈ entries, entry.IsPlain) :
    splitBlocks (encodeLog ending entries) = (entries.map LogEntry.lines, []) := by
  rw [encodeLog, LineEnd.splitBlocks_terminate ending (isLine_of_mem_logLines hplain), cut_logLines]

theorem blocks_encodeLog (ending : LineEnd) (hplain : ∀ entry ∈ entries, entry.IsPlain) :
    blocks false (encodeLog ending entries) = entries.map LogEntry.block := by
  rw [blocks_false, splitBlocks_encodeLog ending hplain, filterMap_ofLines? hplain]

theorem blocks_true_encodeLog (ending : LineEnd) (hplain : ∀ entry ∈ entries, entry.IsPlain) :
    blocks true (encodeLog ending entries) = blocks false (encodeLog ending entries) := by
  have hopen : openBlock (encodeLog ending entries) = [] := by
    rw [openBlock, splitBlocks_encodeLog ending hplain, openLine?, encodeLog,
      LineEnd.splitLines_terminate ending (isLine_of_mem_logLines hplain)]
    rfl
  rw [blocks_true, hopen]
  exact List.append_nil _

theorem blocks_encodeLog_open (ending : LineEnd) (hplain : ∀ entry ∈ entries, entry.IsPlain)
    (hentry : entry.IsPlain) :
    blocks false (encodeLog ending entries ++ ending.terminate entry.lines) =
      entries.map LogEntry.block := by
  have hlines : ∀ line ∈ logLines entries ++ entry.lines, IsLine line :=
    List.forall_mem_append.2
      ⟨isLine_of_mem_logLines hplain, LogEntry.isLine_of_mem_lines hentry⟩
  rw [encodeLog, ← LineEnd.terminate_append, blocks_false,
    LineEnd.splitBlocks_terminate ending hlines, cut_append, cut_logLines, List.nil_append,
    cut_of_forall LogEntry.isEmpty_of_mem_lines, List.append_nil, filterMap_ofLines? hplain]

theorem blocks_encodeLog_closed (ending : LineEnd) (hplain : ∀ entry ∈ entries, entry.IsPlain)
    (hentry : entry.IsPlain) :
    blocks false (encodeLog ending entries ++ (ending.terminate entry.lines ++ [ending.first])) =
      (entries ++ [entry]).map LogEntry.block := by
  have hall : ∀ other ∈ entries ++ [entry], other.IsPlain :=
    List.forall_mem_append.2 ⟨hplain, List.forall_mem_singleton.2 hentry⟩
  have hlines : splitLines
      (encodeLog ending entries ++ (ending.terminate entry.lines ++ [ending.first])) =
        splitLines (encodeLog ending (entries ++ [entry])) := by
    rw [encodeLog, ← List.append_assoc, ← LineEnd.terminate_append,
      LineEnd.splitLines_terminate_first, encodeLog, logLines, logLines, List.flatMap_append,
      List.flatMap_singleton, List.append_assoc]
  rw [← blocks_encodeLog ending hall, blocks_false, blocks_false, splitBlocks, splitBlocks, hlines]

theorem blocks_eq_of_isPrefix {bytes shorter longer : List UInt8} {blocks' : List Block}
    (hshorter : shorter <+: bytes) (hlonger : bytes <+: longer)
    (hfirst : blocks false shorter = blocks') (hlast : blocks false longer = blocks') :
    blocks false bytes = blocks' := by
  have hlow := blocks_false_isPrefix hshorter false
  have hhigh := blocks_false_isPrefix hlonger false
  rw [hfirst] at hlow
  rw [hlast] at hhigh
  exact hhigh.eq_of_length_le hlow.length_le

@[simp] theorem completed_nil (ending : LineEnd) (entries : List LogEntry) :
    completed ending entries [] = 0 := by
  cases entries <;> simp [completed]

theorem blocks_encodeLog_append {past : List LogEntry} (hpast : ∀ entry ∈ past, entry.IsPlain)
    (hentries : ∀ entry ∈ entries, entry.IsPlain) {bytes : List UInt8}
    (hbytes : bytes <+: encodeLog ending entries) :
    blocks false (encodeLog ending past ++ bytes) =
      (past ++ entries.take (completed ending entries bytes)).map LogEntry.block := by
  induction entries generalizing past bytes with
  | nil =>
      obtain rfl := List.prefix_nil.1 hbytes
      rw [List.append_nil, completed_nil, List.take_nil, List.append_nil,
        blocks_encodeLog ending hpast]
  | cons entry entries ih =>
      have hentry := hentries entry List.mem_cons_self
      have hall : ∀ other ∈ past ++ [entry], other.IsPlain :=
        List.forall_mem_append.2 ⟨hpast, List.forall_mem_singleton.2 hentry⟩
      rw [← List.singleton_append, encodeLog_append] at hbytes
      have hone :
          encodeLog ending [entry] <+: encodeLog ending [entry] ++ encodeLog ending entries :=
        List.prefix_append _ _
      by_cases hlong : (ending.terminate entry.lines).length < bytes.length
      · rw [completed, if_pos hlong, List.take_succ_cons, ← List.singleton_append,
          ← List.append_assoc]
        rcases Nat.le_total bytes.length (encodeLog ending [entry]).length with hshort | hwhole
        · -- The bytes break off within the line end behind the entry, or right after it.
          have hlow : ending.terminate entry.lines ++ [ending.first] <+: bytes := by
            refine List.prefix_of_prefix_length_le ?_ hbytes
              (by rw [List.length_append]; exact hlong)
            rw [encodeLog_singleton] at hone ⊢
            exact ((List.prefix_append_right_inj _).2 ending.first_isPrefix_bytes).trans hone
          have hhigh := List.prefix_of_prefix_length_le hbytes hone hshort
          rw [List.drop_eq_nil_of_le hshort, completed_nil, List.take_zero, List.append_nil]
          refine blocks_eq_of_isPrefix ((List.prefix_append_right_inj _).2 hlow)
            ((List.prefix_append_right_inj _).2 hhigh)
            (blocks_encodeLog_closed ending hpast hentry) ?_
          rw [← encodeLog_append]
          exact blocks_encodeLog ending hall
        · obtain ⟨rest, rfl⟩ := List.prefix_of_prefix_length_le hone hbytes hwhole
          rw [List.drop_left, ← List.append_assoc, ← encodeLog_append]
          exact ih hall (fun other hother => hentries other (List.mem_cons_of_mem _ hother))
            ((List.prefix_append_right_inj _).1 hbytes)
      · rw [completed, if_neg hlong, List.take_zero, List.append_nil]
        have hhigh : bytes <+: ending.terminate entry.lines := by
          refine List.prefix_of_prefix_length_le hbytes ?_ (Nat.not_lt.1 hlong)
          rw [encodeLog_singleton, List.append_assoc]
          exact List.prefix_append _ _
        exact blocks_eq_of_isPrefix (List.prefix_append _ _)
          ((List.prefix_append_right_inj _).2 hhigh) (blocks_encodeLog ending hpast)
          (blocks_encodeLog_open ending hpast hentry)

theorem blocks_of_isPrefix (hentries : ∀ entry ∈ entries, entry.IsPlain) {bytes : List UInt8}
    (hbytes : bytes <+: encodeLog ending entries) :
    blocks false bytes =
      (entries.take (completed ending entries bytes)).map LogEntry.block :=
  blocks_encodeLog_append (List.forall_mem_nil _) hentries hbytes

theorem length_splitLines_snd_le_of_isPrefix (hentries : ∀ entry ∈ entries, entry.IsPlain)
    {limit : Nat} (hlines : ∀ entry ∈ entries, ∀ line ∈ entry.lines,
      (Utf8.encode line).length ≤ limit)
    {bytes : List UInt8} (hbytes : bytes <+: encodeLog ending entries) :
    (splitLines bytes).2.length ≤ limit := by
  have hsplit := LineEnd.splitLines_terminate ending (isLine_of_mem_logLines hentries)
  rcases splitLines_snd_isPrefix hbytes (congrArg Prod.snd hsplit) with hnil | ⟨line, hline, hopen⟩
  · rw [hnil]
    exact Nat.zero_le _
  · refine hopen.length_le.trans ?_
    rw [encodeLog, hsplit] at hline
    obtain ⟨text, htext, rfl⟩ := List.mem_map.1 hline
    obtain ⟨entry, hentry, htext⟩ := List.mem_flatMap.1 htext
    rcases List.mem_append.1 htext with htext | htext
    · exact hlines entry hentry text htext
    · rw [List.mem_singleton.1 htext]
      exact Nat.zero_le _

theorem events_map_block (decodeJson : Bool) (entries : List LogEntry) :
    Block.events decodeJson (entries.map LogEntry.block) =
      entries.map (LogEntry.event decodeJson) := by
  rw [Block.events, List.filterMap_map]
  exact List.filterMap_eq_map_iff_forall_eq_some.2 fun entry _ => entry.event?_block decodeJson

theorem lastId?_map_block (hplain : ∀ entry ∈ entries, entry.IsPlain) :
    Block.lastId? (entries.map LogEntry.block) = entries.getLast?.map LogEntry.id := by
  have hids : ∀ entry ∈ entries,
      (entry.block.id.filter fun id => !id.isEmpty) = some entry.id := by
    intro entry hentry
    have hid : entry.id.isEmpty = false := by simpa using (hplain entry hentry).id_ne
    rw [LogEntry.block, Option.filter_some, hid]
    rfl
  rw [Block.lastId?, List.filterMap_map, ← List.getLast?_map]
  exact congrArg List.getLast? (List.filterMap_eq_map_iff_forall_eq_some.2 hids)

end ApiBridge.EventStream
