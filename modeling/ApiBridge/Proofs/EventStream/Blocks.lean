import ApiBridge.Duration
import ApiBridge.EventStream.Block
import ApiBridge.Http.Peer
import ApiBridge.Proofs.EventStream.Lines
import ApiBridge.Proofs.Text.Utf8

namespace ApiBridge.EventStream

/-- The blocks of bytes that an empty line has ended, and behind the last of them the lines that
have ended. -/
def splitBlocks (bytes : List UInt8) : List (List String) × List String :=
  cut String.isEmpty ((splitLines bytes).1.map Utf8.lossy)

def openLine? (bytes : List UInt8) : Option String :=
  if (splitLines bytes).2 = [] then none else some (Utf8.lossy (splitLines bytes).2)

/-- The lines of the block that no empty line has ended, up to the last byte. -/
def openBlock (bytes : List UInt8) : List String :=
  (splitBlocks bytes).2 ++ (openLine? bytes).toList

/-- The blocks of bytes that say something. The open block counts if the bytes are known to be
complete. -/
def blocks (complete : Bool) (bytes : List UInt8) : List Block :=
  ((splitBlocks bytes).1 ++ if complete then [openBlock bytes] else []).filterMap Block.ofLines?

theorem splitBlocks_snd_forall (bytes : List UInt8) :
    ∀ line ∈ (splitBlocks bytes).2, line.isEmpty = false :=
  cut_snd_forall _

theorem splitBlocks_append {bytes more : List UInt8} {lines : List (List UInt8)}
    (hlines : (splitLines (bytes ++ more)).1 = (splitLines bytes).1 ++ lines) :
    splitBlocks (bytes ++ more) =
      let rest := cut String.isEmpty ((splitBlocks bytes).2 ++ lines.map Utf8.lossy)
      ((splitBlocks bytes).1 ++ rest.1, rest.2) := by
  rw [splitBlocks, hlines, List.map_append, cut_append]
  rfl

theorem splitBlocks_fst_isPrefix {bytes longer : List UInt8} (hfront : bytes <+: longer) :
    (splitBlocks bytes).1 <+: (splitBlocks longer).1 :=
  cut_fst_isPrefix ((splitLines_fst_isPrefix hfront).map _)

theorem blocks_false (bytes : List UInt8) :
    blocks false bytes = (splitBlocks bytes).1.filterMap Block.ofLines? := by
  rw [blocks, if_neg Bool.false_ne_true, List.append_nil]

theorem blocks_true (bytes : List UInt8) :
    blocks true bytes = blocks false bytes ++ (Block.ofLines? (openBlock bytes)).toList := by
  rw [blocks_false, blocks, if_pos rfl, List.filterMap_append]
  cases hblock : Block.ofLines? (openBlock bytes) <;> simp [hblock]

theorem blocks_false_isPrefix {bytes longer : List UInt8} (hfront : bytes <+: longer)
    (complete : Bool) : blocks false bytes <+: blocks complete longer := by
  rw [blocks_false]
  exact ((splitBlocks_fst_isPrefix hfront).trans (List.prefix_append _ _)).filterMap _

/-- Whether a text could stand in a line. -/
def IsInLine (text : String) : Prop := ∀ c ∈ text.toList, c ≠ '\n' ∧ c ≠ '\r'

theorem isInLine_lossy {bytes : List UInt8} (hbytes : ∀ byte ∈ bytes, isLineEnd byte = false) :
    IsInLine (Utf8.lossy bytes) := by
  intro c hc
  constructor
  · rintro rfl
    exact absurd (hbytes _ (Utf8.mem_of_mem_lossy hc (by decide) (by decide))) (by decide)
  · rintro rfl
    exact absurd (hbytes _ (Utf8.mem_of_mem_lossy hc (by decide) (by decide))) (by decide)

theorem isInLine_of_mem_splitLines {bytes : List UInt8} :
    ∀ line ∈ (splitLines bytes).1.map Utf8.lossy, IsInLine line := by
  intro line hline
  obtain ⟨run, hrun, rfl⟩ := List.mem_map.1 hline
  exact isInLine_lossy fun byte hbyte => (mem_cut_fst hrun byte hbyte).2

theorem isInLine_of_mem_splitBlocks {bytes : List UInt8} :
    ∀ lines ∈ (splitBlocks bytes).1, ∀ line ∈ lines, IsInLine line :=
  fun _ hlines line hline => isInLine_of_mem_splitLines line (mem_cut_fst hlines line hline).1

theorem isInLine_of_mem_openBlock {bytes : List UInt8} :
    ∀ line ∈ openBlock bytes, IsInLine line := by
  intro line hline
  rcases List.mem_append.1 hline with hended | hopen
  · exact isInLine_of_mem_splitLines line (mem_of_mem_cut_snd hended)
  · unfold openLine? at hopen
    split at hopen
    · cases hopen
    · obtain rfl := List.mem_singleton.1 hopen
      exact isInLine_lossy (splitLines_snd_forall bytes)

namespace Block

theorem splitField_snd_subset (line : String) : (splitField line).2.toList ⊆ line.toList := by
  have hsuffix := (List.dropWhile_suffix (l := line.toList) (· != ':')).subset
  unfold splitField
  dsimp only
  split
  · exact List.nil_subset _
  · next _ value hrest =>
      rw [hrest] at hsuffix
      rw [String.toList_ofList]
      exact fun c hc => hsuffix (List.mem_cons_of_mem _ (List.mem_cons_of_mem _ hc))
  · next _ value _ hrest =>
      rw [hrest] at hsuffix
      rw [String.toList_ofList]
      exact fun c hc => hsuffix (List.mem_cons_of_mem _ hc)

theorem id_addLine {block : Block} {line id : String} (hid : (block.addLine line).id = some id) :
    block.id = some id ∨ '\x00' ∉ id.toList ∧ id.toList ⊆ line.toList := by
  unfold addLine at hid
  split at hid
  · exact .inl hid
  · have hvalue := splitField_snd_subset line
    generalize (splitField line).1 = name, (splitField line).2 = value at hid hvalue
    unfold addField at hid
    split at hid
    · exact .inl hid
    · exact .inl hid
    · split at hid
      · exact .inl hid
      · next hnul =>
          obtain rfl := Option.some.inj hid
          exact .inr ⟨by simpa using hnul, hvalue⟩
    · split at hid <;> exact .inl hid
    · exact .inl hid

theorem id_foldl_addLine {lines : List String} {block : Block} {id : String}
    (hid : (lines.foldl addLine block).id = some id) :
    block.id = some id ∨ '\x00' ∉ id.toList ∧ ∃ line ∈ lines, id.toList ⊆ line.toList := by
  induction lines generalizing block with
  | nil => exact .inl hid
  | cons line rest ih =>
      rcases ih hid with hfirst | ⟨hnul, other, hother, hsubset⟩
      · rcases id_addLine hfirst with hbefore | ⟨hnul, hsubset⟩
        · exact .inl hbefore
        · exact .inr ⟨hnul, line, List.mem_cons_self, hsubset⟩
      · exact .inr ⟨hnul, other, List.mem_cons_of_mem _ hother, hsubset⟩

theorem id_of_ofLines? {lines : List String} {block : Block}
    (hblock : ofLines? lines = some block) {id : String} (hid : block.id = some id) :
    '\x00' ∉ id.toList ∧ ∃ line ∈ lines, id.toList ⊆ line.toList := by
  unfold ofLines? at hblock
  dsimp only at hblock
  split at hblock
  · cases hblock
  · obtain rfl := Option.some.inj hblock
    rcases id_foldl_addLine hid with hempty | hline
    · cases hempty
    · exact hline

end Block

theorem id_of_mem_blocks {complete : Bool} {bytes : List UInt8} {block : Block}
    (hblock : block ∈ blocks complete bytes) {id : String} (hid : block.id = some id) :
    '\x00' ∉ id.toList ∧ IsInLine id := by
  obtain ⟨lines, hlines, hofLines⟩ := List.mem_filterMap.1 hblock
  obtain ⟨hnul, line, hline, hsubset⟩ := Block.id_of_ofLines? hofLines hid
  have hinLine : IsInLine line := by
    rcases List.mem_append.1 hlines with hended | hopen
    · exact isInLine_of_mem_splitBlocks lines hended line hline
    · cases complete with
      | false => cases hopen
      | true =>
          obtain rfl := List.mem_singleton.1 hopen
          exact isInLine_of_mem_openBlock line hline
  exact ⟨hnul, fun c hc => hinLine c (hsubset hc)⟩

/-- The bytes that a line buffer with a limit takes of chunks behind some bytes, up to the chunk
that fails it, and whether it takes them all. -/
def heard (limit : Nat) (seen : List UInt8) : List (List UInt8) → List UInt8 × Bool
  | [] => (seen, true)
  | chunk :: rest =>
      if limit < (splitLines (seen ++ chunk)).2.length then (seen, false)
      else heard limit (seen ++ chunk) rest

theorem heard_cons_of_lt {limit : Nat} {seen chunk : List UInt8} {rest : List (List UInt8)}
    (hlong : limit < (splitLines (seen ++ chunk)).2.length) :
    heard limit seen (chunk :: rest) = (seen, false) := by
  rw [heard, if_pos hlong]

theorem heard_cons_of_not_lt {limit : Nat} {seen chunk : List UInt8} {rest : List (List UInt8)}
    (hshort : ¬ limit < (splitLines (seen ++ chunk)).2.length) :
    heard limit seen (chunk :: rest) = heard limit (seen ++ chunk) rest := by
  rw [heard, if_neg hshort]

theorem prefix_heard (limit : Nat) (seen : List UInt8) (chunks : List (List UInt8)) :
    seen <+: (heard limit seen chunks).1 := by
  induction chunks generalizing seen with
  | nil => exact List.prefix_rfl
  | cons chunk rest ih =>
      rw [heard]
      split
      · exact List.prefix_rfl
      · exact (List.prefix_append seen chunk).trans (ih _)

theorem heard_isPrefix (limit : Nat) (seen : List UInt8) (chunks : List (List UInt8)) :
    (heard limit seen chunks).1 <+: seen ++ chunks.flatten := by
  induction chunks generalizing seen with
  | nil => exact List.prefix_append _ _
  | cons chunk rest ih =>
      rw [heard, List.flatten_cons]
      split
      · exact List.prefix_append _ _
      · rw [← List.append_assoc]
        exact ih _

theorem heard_fst_of_snd {limit : Nat} {seen : List UInt8} {chunks : List (List UInt8)}
    (hall : (heard limit seen chunks).2 = true) :
    (heard limit seen chunks).1 = seen ++ chunks.flatten := by
  induction chunks generalizing seen with
  | nil => rw [heard, List.flatten_nil, List.append_nil]
  | cons chunk rest ih =>
      rw [heard] at hall ⊢
      split at hall
      · simp at hall
      · next hshort => rw [if_neg hshort, ih hall, List.flatten_cons, List.append_assoc]

theorem heard_snd_of_forall {limit : Nat} {seen : List UInt8} {chunks : List (List UInt8)}
    (hshort : ∀ bytes, bytes <+: seen ++ chunks.flatten → (splitLines bytes).2.length ≤ limit) :
    (heard limit seen chunks).2 = true := by
  induction chunks generalizing seen with
  | nil => rfl
  | cons chunk rest ih =>
      rw [List.flatten_cons, ← List.append_assoc] at hshort
      rw [heard_cons_of_not_lt (Nat.not_lt.2 (hshort _ (List.prefix_append _ _)))]
      exact ih hshort

namespace Block

def events (decodeJson : Bool) (blocks : List Block) : List Event :=
  blocks.filterMap fun block => block.event? decodeJson

/-- The last id of blocks that is not empty. -/
def lastId? (blocks : List Block) : Option String :=
  (blocks.filterMap fun block => block.id.filter fun id => !id.isEmpty).getLast?

/-- The last retry time of blocks as a wait, or a given wait where none of them has one. -/
def lastDelay (delay : Duration) (blocks : List Block) : Duration :=
  ((blocks.filterMap Block.retry).getLast?.map Duration.ofMillis).getD delay

@[simp] theorem events_nil (decodeJson : Bool) : events decodeJson [] = [] := rfl

@[simp] theorem events_append (decodeJson : Bool) (blocks more : List Block) :
    events decodeJson (blocks ++ more) = events decodeJson blocks ++ events decodeJson more :=
  List.filterMap_append

@[simp] theorem lastId?_nil : lastId? [] = none := rfl

theorem lastId?_append (blocks more : List Block) :
    lastId? (blocks ++ more) = (lastId? more).or (lastId? blocks) := by
  rw [lastId?, List.filterMap_append, List.getLast?_append]
  rfl

@[simp] theorem lastDelay_nil (delay : Duration) : lastDelay delay [] = delay := rfl

theorem lastDelay_append (delay : Duration) (blocks more : List Block) :
    lastDelay delay (blocks ++ more) = lastDelay (lastDelay delay blocks) more := by
  rw [lastDelay, lastDelay, lastDelay, List.filterMap_append, List.getLast?_append]
  cases (more.filterMap Block.retry).getLast? <;> rfl

theorem events_isPrefix {blocks longer : List Block} (hfront : blocks <+: longer)
    (decodeJson : Bool) : events decodeJson blocks <+: events decodeJson longer :=
  hfront.filterMap _

end Block

end ApiBridge.EventStream

namespace ApiBridge.Http.Incoming

open EventStream

def isHeard (incoming : Incoming) : Bool := (heard maxLineBytes [] incoming.chunks).2

/-- The blocks of a body that a stream takes in if it reads on to the end. -/
def heardBlocks (incoming : Incoming) : List Block :=
  blocks (incoming.isHeard && incoming.ending == .complete)
    (heard maxLineBytes [] incoming.chunks).1

/-- The blocks of all bytes of a body. -/
def blocks (incoming : Incoming) : List Block :=
  EventStream.blocks (incoming.ending == .complete) incoming.chunks.flatten

theorem heardBlocks_of_isHeard {incoming : Incoming} (hheard : incoming.isHeard = true) :
    incoming.heardBlocks = incoming.blocks := by
  rw [heardBlocks, hheard, Bool.true_and, heard_fst_of_snd hheard]
  rfl

theorem heardBlocks_isPrefix (incoming : Incoming) : incoming.heardBlocks <+: incoming.blocks := by
  cases hheard : incoming.isHeard with
  | true =>
      have hall := heardBlocks_of_isHeard hheard
      exact hall ▸ List.prefix_rfl
  | false =>
      rw [heardBlocks, hheard, Bool.false_and]
      exact blocks_false_isPrefix (heard_isPrefix _ _ _) _

end ApiBridge.Http.Incoming
