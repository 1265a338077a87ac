import ApiBridge.EventStream.Lines
import Mathlib.Data.List.Induction
import Mathlib.Data.List.TakeWhile

namespace ApiBridge.EventStream

section Cut

variable {α : Type} {test : α → Bool}

/-- A list cut at the items that pass a test: the runs that such an item ends, and the items behind
the last of them. -/
def cut (test : α → Bool) : List α → List (List α) × List α
  | [] => ([], [])
  | item :: rest =>
      if test item then ([] :: (cut test rest).1, (cut test rest).2)
      else
        match cut test rest with
        | ([], last) => ([], item :: last)
        | (run :: runs, last) => ((item :: run) :: runs, last)

theorem cut_of_forall {items : List α} (hitems : ∀ item ∈ items, test item = false) :
    cut test items = ([], items) := by
  induction items with
  | nil => rfl
  | cons item items ih =>
      have hrest : cut test items = ([], items) :=
        ih fun other hother => hitems other (List.mem_cons_of_mem _ hother)
      simp [cut, hitems item, hrest]

theorem cut_append_cons {run : List α} (hrun : ∀ item ∈ run, test item = false) {ending : α}
    (hending : test ending = true) (rest : List α) :
    cut test (run ++ ending :: rest) = (run :: (cut test rest).1, (cut test rest).2) := by
  induction run with
  | nil => simp [cut, hending]
  | cons item run ih =>
      have hrest := ih fun other hother => hrun other (List.mem_cons_of_mem _ hother)
      simp [cut, hrun item, hrest]

theorem cut_flatMap {runs : List (List α)} (hruns : ∀ run ∈ runs, ∀ item ∈ run, test item = false)
    {ending : α} (hending : test ending = true) :
    cut test (runs.flatMap fun run => run ++ [ending]) = (runs, []) := by
  induction runs with
  | nil => rfl
  | cons run runs ih =>
      have hrest := ih fun other hother => hruns other (List.mem_cons_of_mem _ hother)
      rw [List.flatMap_cons, List.append_assoc, List.singleton_append,
        cut_append_cons (hruns run List.mem_cons_self) hending, hrest]

theorem cut_snd_forall (items : List α) : ∀ item ∈ (cut test items).2, test item = false := by
  induction items with
  | nil => simp [cut]
  | cons item items ih =>
      by_cases htest : test item = true
      · simpa [cut, htest] using ih
      · rw [cut, if_neg htest]
        split
        · next last hcut =>
            rw [hcut] at ih
            simpa [htest] using ih
        · next run runs last hcut =>
            rw [hcut] at ih
            exact ih

theorem mem_cut_fst {items run : List α} (hrun : run ∈ (cut test items).1) :
    ∀ item ∈ run, item ∈ items ∧ test item = false := by
  induction items generalizing run with
  | nil => cases hrun
  | cons item items ih =>
      have hlater : ∀ run ∈ (cut test items).1, ∀ other ∈ run,
          other ∈ item :: items ∧ test other = false :=
        fun run hrun other hother => (ih hrun other hother).imp_left (List.mem_cons_of_mem _)
      by_cases htest : test item = true
      · rw [cut, if_pos htest] at hrun
        rcases List.mem_cons.1 hrun with rfl | hrun
        · simp
        · exact hlater run hrun
      · rw [cut, if_neg htest] at hrun
        split at hrun
        · cases hrun
        · next first runs last hcut =>
            rw [hcut] at hlater
            rcases List.mem_cons.1 hrun with rfl | hrun
            · exact List.forall_mem_cons.2 ⟨⟨List.mem_cons_self, by simpa using htest⟩,
                hlater first List.mem_cons_self⟩
            · exact hlater run (List.mem_cons_of_mem _ hrun)

theorem mem_of_mem_cut_snd {items : List α} {item : α} (hitem : item ∈ (cut test items).2) :
    item ∈ items := by
  induction items with
  | nil => cases hitem
  | cons first items ih =>
      by_cases htest : test first = true
      · rw [cut, if_pos htest] at hitem
        exact List.mem_cons_of_mem _ (ih hitem)
      · rw [cut, if_neg htest] at hitem
        split at hitem
        · next last hcut =>
            rw [hcut] at ih
            rcases List.mem_cons.1 hitem with rfl | hitem
            · exact List.mem_cons_self
            · exact List.mem_cons_of_mem _ (ih hitem)
        · next run runs last hcut =>
            rw [hcut] at ih
            exact List.mem_cons_of_mem _ (ih hitem)

theorem length_cut_snd_le (items : List α) : (cut test items).2.length ≤ items.length := by
  induction items with
  | nil => exact Nat.le_refl _
  | cons item items ih =>
      rw [cut, List.length_cons]
      split
      · exact Nat.le_succ_of_le ih
      · split
        · next last hcut =>
            rw [hcut] at ih
            exact Nat.succ_le_succ ih
        · next run runs last hcut =>
            rw [hcut] at ih
            exact Nat.le_succ_of_le ih

theorem cut_append (items more : List α) :
    cut test (items ++ more) =
      ((cut test items).1 ++ (cut test ((cut test items).2 ++ more)).1,
        (cut test ((cut test items).2 ++ more)).2) := by
  induction items with
  | nil => simp [cut]
  | cons item items ih =>
      by_cases htest : test item = true
      · simp [cut, htest, ih]
      · rw [List.cons_append, cut, if_neg htest, cut, if_neg htest, ih]
        cases hcut : cut test items with
        | mk runs last =>
            cases runs with
            | nil => simp [cut, htest]
            | cons run runs => rfl

theorem cut_fst_isPrefix_append (items more : List α) :
    (cut test items).1 <+: (cut test (items ++ more)).1 := by
  rw [cut_append]
  exact List.prefix_append _ _

theorem cut_fst_isPrefix {items longer : List α} (hfront : items <+: longer) :
    (cut test items).1 <+: (cut test longer).1 := by
  obtain ⟨more, rfl⟩ := hfront
  exact cut_fst_isPrefix_append items more

theorem cut_append_of_forall {items : List α} (hitems : ∀ item ∈ items, test item = false)
    (more : List α) :
    cut test (items ++ more) =
      match cut test more with
      | ([], last) => ([], items ++ last)
      | (run :: runs, last) => ((items ++ run) :: runs, last) := by
  induction items with
  | nil =>
      rw [List.nil_append]
      split
      · next hcut => exact hcut
      · next hcut => exact hcut
  | cons item items ih =>
      have hrest := ih fun other hother => hitems other (List.mem_cons_of_mem _ hother)
      rw [List.cons_append, cut, if_neg (by simp [hitems item]), hrest]
      cases cut test more with
      | mk runs last => cases runs <;> rfl

theorem cut_snd_isPrefix {items longer : List α} (hfront : items <+: longer)
    (hlonger : (cut test longer).2 = []) :
    (cut test items).2 = [] ∨ ∃ run ∈ (cut test longer).1, (cut test items).2 <+: run := by
  obtain ⟨more, rfl⟩ := hfront
  rw [cut_append, cut_append_of_forall (cut_snd_forall items)] at hlonger ⊢
  cases hcut : cut test more with
  | mk runs last =>
      rw [hcut] at hlonger
      cases runs with
      | nil => exact .inl (List.append_eq_nil_iff.1 hlonger).1
      | cons run runs =>
          refine .inr ⟨(cut test items).2 ++ run, ?_, List.prefix_append _ _⟩
          simp

end Cut

/-- Bytes less the line feeds that belong to a carriage return before them, which may also stand in
front of all the bytes. -/
def dropFeeds (afterReturn : Bool) : List UInt8 → List UInt8
  | [] => []
  | byte :: rest =>
      if afterReturn && byte == lineFeed then dropFeeds false rest
      else byte :: dropFeeds (byte == carriageReturn) rest

/-- Whether the last byte is a carriage return, or one stands in front of no bytes at all. -/
def endsInReturn (afterReturn : Bool) (bytes : List UInt8) : Bool :=
  bytes.getLast?.elim afterReturn (· == carriageReturn)

/-- The lines of bytes, each of which a line feed, a carriage return or both have ended, and the
bytes behind the last end. -/
def splitLines (bytes : List UInt8) : List (List UInt8) × List UInt8 :=
  cut isLineEnd (dropFeeds false bytes)

@[simp] theorem endsInReturn_nil (afterReturn : Bool) :
    endsInReturn afterReturn [] = afterReturn := rfl

@[simp] theorem endsInReturn_cons (afterReturn : Bool) (byte : UInt8) (rest : List UInt8) :
    endsInReturn afterReturn (byte :: rest) = endsInReturn (byte == carriageReturn) rest := by
  cases rest with
  | nil => rfl
  | cons second rest => simp [endsInReturn, List.getLast?_cons]

theorem endsInReturn_append (afterReturn : Bool) (bytes more : List UInt8) :
    endsInReturn afterReturn (bytes ++ more) =
      endsInReturn (endsInReturn afterReturn bytes) more := by
  induction bytes generalizing afterReturn with
  | nil => rfl
  | cons byte bytes ih => simp [ih]

theorem dropFeeds_append (afterReturn : Bool) (bytes more : List UInt8) :
    dropFeeds afterReturn (bytes ++ more) =
      dropFeeds afterReturn bytes ++ dropFeeds (endsInReturn afterReturn bytes) more := by
  induction bytes generalizing afterReturn with
  | nil => rfl
  | cons byte bytes ih =>
      rw [List.cons_append, dropFeeds, dropFeeds, endsInReturn_cons]
      split
      · next hfeed =>
          have hbyte : (byte == carriageReturn) = false := by
            rw [Bool.and_eq_true, beq_iff_eq] at hfeed
            rw [hfeed.2]
            rfl
          rw [ih, hbyte]
      · rw [ih, List.cons_append]

theorem dropFeeds_of_forall {bytes : List UInt8} (hbytes : ∀ byte ∈ bytes, isLineEnd byte = false) :
    dropFeeds false bytes = bytes := by
  induction bytes with
  | nil => rfl
  | cons byte bytes ih =>
      have hbyte : (byte == carriageReturn) = false :=
        (Bool.or_eq_false_iff.1 (hbytes byte List.mem_cons_self)).2
      rw [dropFeeds, Bool.false_and, if_neg Bool.false_ne_true, hbyte,
        ih fun other hother => hbytes other (List.mem_cons_of_mem _ hother)]

theorem endsInReturn_of_forall {bytes : List UInt8}
    (hbytes : ∀ byte ∈ bytes, isLineEnd byte = false) : endsInReturn false bytes = false := by
  induction bytes using List.reverseRecOn with
  | nil => rfl
  | append_singleton bytes byte _ =>
      rw [endsInReturn_append, endsInReturn_cons, endsInReturn_nil]
      exact (Bool.or_eq_false_iff.1 (hbytes byte (by simp))).2

theorem dropFeeds_append_cons {bytes : List UInt8} (hbytes : ∀ byte ∈ bytes, isLineEnd byte = false)
    {afterReturn : Bool} {next : UInt8} (hnext : afterReturn = true → next ≠ lineFeed)
    (rest : List UInt8) :
    dropFeeds afterReturn (bytes ++ next :: rest) =
      bytes ++ next :: dropFeeds (next == carriageReturn) rest := by
  induction bytes generalizing afterReturn with
  | nil =>
      have hkeep : ¬ (afterReturn && next == lineFeed) = true := by simpa using hnext
      rw [List.nil_append, dropFeeds, if_neg hkeep]
      rfl
  | cons byte bytes ih =>
      obtain ⟨hfeed, hreturn⟩ := Bool.or_eq_false_iff.1 (hbytes byte List.mem_cons_self)
      rw [List.cons_append, dropFeeds, hfeed, Bool.and_false, if_neg Bool.false_ne_true, hreturn,
        ih (fun other hother => hbytes other (List.mem_cons_of_mem _ hother)) (by simp)]
      rfl

theorem length_dropFeeds_le (afterReturn : Bool) (bytes : List UInt8) :
    (dropFeeds afterReturn bytes).length ≤ bytes.length := by
  induction bytes generalizing afterReturn with
  | nil => exact Nat.le_refl _
  | cons byte bytes ih =>
      rw [dropFeeds]
      split
      · exact Nat.le_succ_of_le (ih _)
      · exact Nat.succ_le_succ (ih _)

theorem length_splitLines_snd_le (bytes : List UInt8) :
    (splitLines bytes).2.length ≤ bytes.length :=
  Nat.le_trans (length_cut_snd_le _) (length_dropFeeds_le _ _)

theorem splitLines_snd_forall (bytes : List UInt8) :
    ∀ byte ∈ (splitLines bytes).2, isLineEnd byte = false :=
  cut_snd_forall _

theorem splitLines_append (bytes more : List UInt8) :
    splitLines (bytes ++ more) =
      let rest := cut isLineEnd ((splitLines bytes).2 ++ dropFeeds (endsInReturn false bytes) more)
      ((splitLines bytes).1 ++ rest.1, rest.2) := by
  rw [splitLines, dropFeeds_append, cut_append]
  rfl

theorem splitLines_fst_isPrefix {bytes longer : List UInt8} (hfront : bytes <+: longer) :
    (splitLines bytes).1 <+: (splitLines longer).1 := by
  obtain ⟨more, rfl⟩ := hfront
  rw [splitLines_append]
  exact List.prefix_append _ _

theorem splitLines_snd_isPrefix {bytes longer : List UInt8} (hfront : bytes <+: longer)
    (hlonger : (splitLines longer).2 = []) :
    (splitLines bytes).2 = [] ∨ ∃ line ∈ (splitLines longer).1, (splitLines bytes).2 <+: line := by
  obtain ⟨more, rfl⟩ := hfront
  rw [splitLines, dropFeeds_append] at hlonger
  rw [splitLines, splitLines, dropFeeds_append]
  exact cut_snd_isPrefix (List.prefix_append _ _) hlonger

theorem splitLines_append_lineFeed {bytes : List UInt8}
    (hreturn : endsInReturn false bytes = true) :
    splitLines (bytes ++ [lineFeed]) = splitLines bytes := by
  rw [splitLines, dropFeeds_append, hreturn]
  exact congrArg (cut isLineEnd) (List.append_nil _)

theorem splitLines_snd_of_endsInReturn {bytes : List UInt8}
    (hreturn : endsInReturn false bytes = true) : (splitLines bytes).2 = [] := by
  induction bytes using List.reverseRecOn with
  | nil => simp at hreturn
  | append_singleton bytes byte _ =>
      rw [endsInReturn_append, endsInReturn_cons, endsInReturn_nil, beq_iff_eq] at hreturn
      subst hreturn
      have hdrop : dropFeeds (endsInReturn false bytes) [carriageReturn] = [carriageReturn] := by
        cases endsInReturn false bytes <;> rfl
      rw [splitLines_append, hdrop]
      have hend : isLineEnd carriageReturn = true := rfl
      exact congrArg Prod.snd (cut_append_cons (splitLines_snd_forall bytes) hend [])

namespace LineBuffer

/-- What the search for the next line relies on: no line end is among the bytes known to hold none,
and none are known while a line feed may still belong to the line before. -/
structure Sound (buffer : LineBuffer) : Prop where
  scanned_clean : ∀ byte ∈ buffer.bytes.take buffer.scanned, isLineEnd byte = false
  scanned_eq_zero : buffer.afterReturn = true → buffer.scanned = 0

theorem skipFeed_sound {buffer : LineBuffer} (h : buffer.Sound) : buffer.skipFeed.Sound := by
  unfold skipFeed
  split
  · exact h
  · split
    · next hafter =>
        have hzero := h.scanned_eq_zero hafter
        exact ⟨by simp [hzero], by simp⟩
    · exact h

theorem dropFeeds_skipFeed (buffer : LineBuffer) :
    dropFeeds buffer.skipFeed.afterReturn buffer.skipFeed.bytes =
      dropFeeds buffer.afterReturn buffer.bytes := by
  unfold skipFeed
  split
  · rfl
  · next first rest hbytes =>
      rw [hbytes]
      split
      · next hafter =>
          by_cases hfeed : first = lineFeed
          · simp [dropFeeds, hafter, hfeed]
          · simp [dropFeeds, hafter, hfeed]
      · simp_all

theorem endsInReturn_skipFeed (buffer : LineBuffer) :
    endsInReturn buffer.skipFeed.afterReturn buffer.skipFeed.bytes =
      endsInReturn buffer.afterReturn buffer.bytes := by
  unfold skipFeed
  split
  · rfl
  · next first rest hbytes =>
      rw [hbytes]
      split
      · next hafter =>
          by_cases hfeed : first = lineFeed
          · have hnot : (lineFeed == carriageReturn) = false := rfl
            simp [hfeed, hnot]
          · simp [hfeed]
      · simp_all

@[simp] theorem skipFeed_limit (buffer : LineBuffer) : buffer.skipFeed.limit = buffer.limit := by
  unfold skipFeed
  split
  · rfl
  · split <;> rfl

theorem skipFeed_bytes_eq_nil {buffer : LineBuffer} (hafter : buffer.skipFeed.afterReturn = true) :
    buffer.skipFeed.bytes = [] := by
  unfold skipFeed at hafter ⊢
  split at hafter
  · next hbytes => simp [hbytes]
  · next first rest hbytes =>
      split at hafter
      · simp at hafter
      · next hnot => exact absurd hafter hnot

theorem takeLine?_eq_none {buffer : LineBuffer} (h : buffer.Sound)
    (hline : buffer.takeLine? = none) : ∀ byte ∈ buffer.bytes, isLineEnd byte = false := by
  have hunseen : ∀ byte ∈ buffer.bytes.drop buffer.scanned, isLineEnd byte = false := by
    simp only [takeLine?] at hline
    split at hline
    · next hnone => simpa using List.dropWhile_eq_nil_iff.1 hnone
    · simp at hline
  intro byte hbyte
  rw [← List.take_append_drop buffer.scanned buffer.bytes] at hbyte
  rcases List.mem_append.1 hbyte with hseen | hunread
  · exact h.scanned_clean byte hseen
  · exact hunseen byte hunread

theorem takeLine?_eq_some {buffer rest : LineBuffer} {line : List UInt8} (h : buffer.Sound)
    (hline : buffer.takeLine? = some (line, rest)) :
    (∀ byte ∈ line, isLineEnd byte = false) ∧
      ∃ ending, isLineEnd ending = true ∧ buffer.bytes = line ++ ending :: rest.bytes ∧
        rest = { buffer with
          bytes := rest.bytes, scanned := 0, afterReturn := ending == carriageReturn } := by
  simp only [takeLine?] at hline
  split at hline
  · simp at hline
  · next ending left hsplit =>
      simp only [Option.some.injEq, Prod.mk.injEq] at hline
      obtain ⟨rfl, rfl⟩ := hline
      refine ⟨?_, ending, ?_, ?_, ?_⟩
      · intro byte hbyte
        rcases List.mem_append.1 hbyte with hseen | hunread
        · exact h.scanned_clean byte hseen
        · simpa using List.mem_takeWhile_imp hunread
      · have hhead := List.head?_dropWhile_not (fun byte => !isLineEnd byte)
          (buffer.bytes.drop buffer.scanned)
        rw [hsplit] at hhead
        simpa using hhead
      · rw [List.append_assoc, ← hsplit, List.takeWhile_append_dropWhile, List.take_append_drop]
      · rfl

theorem takeLines_of_none {buffer : LineBuffer} (hline : buffer.skipFeed.takeLine? = none)
    (lines : List (List UInt8)) :
    buffer.takeLines lines =
      (lines.reverse, { buffer.skipFeed with scanned := buffer.skipFeed.bytes.length }) := by
  rw [takeLines]
  split
  · rfl
  · next line rest hsome => simp [hline] at hsome

theorem takeLines_of_some {buffer rest : LineBuffer} {line : List UInt8}
    (hline : buffer.skipFeed.takeLine? = some (line, rest)) (lines : List (List UInt8)) :
    buffer.takeLines lines = rest.takeLines (line :: lines) := by
  rw [takeLines]
  split
  · next hnone => simp [hline] at hnone
  · next line' rest' hsome =>
      rw [hline, Option.some.injEq, Prod.mk.injEq] at hsome
      rw [hsome.1, hsome.2]

theorem cut_of_clean {buffer : LineBuffer}
    (hclean : ∀ byte ∈ buffer.skipFeed.bytes, isLineEnd byte = false) :
    cut isLineEnd (dropFeeds buffer.skipFeed.afterReturn buffer.skipFeed.bytes) =
        ([], buffer.skipFeed.bytes) ∧
      endsInReturn buffer.skipFeed.afterReturn buffer.skipFeed.bytes =
        buffer.skipFeed.afterReturn := by
  cases hafter : buffer.skipFeed.afterReturn with
  | true => simp [skipFeed_bytes_eq_nil hafter, dropFeeds, cut]
  | false => exact ⟨by rw [dropFeeds_of_forall hclean, cut_of_forall hclean],
      endsInReturn_of_forall hclean⟩

theorem takeLines_eq {buffer : LineBuffer} (h : buffer.Sound) (lines : List (List UInt8)) :
    buffer.takeLines lines =
      let parts := cut isLineEnd (dropFeeds buffer.afterReturn buffer.bytes)
      (lines.reverse ++ parts.1,
        { buffer with
          bytes := parts.2
          scanned := parts.2.length
          afterReturn := endsInReturn buffer.afterReturn buffer.bytes }) := by
  induction buffer, lines using takeLines.induct with
  | case1 buffer lines hline =>
      have hclean := takeLine?_eq_none (skipFeed_sound h) hline
      obtain ⟨hcut, hreturn⟩ := cut_of_clean hclean
      simp only [takeLines_of_none hline, ← dropFeeds_skipFeed buffer,
        ← endsInReturn_skipFeed buffer, hcut, hreturn, List.append_nil, skipFeed_limit]
  | case2 buffer lines line rest hline ih =>
      obtain ⟨hclean, ending, hending, hbytes, hrest⟩ := takeLine?_eq_some (skipFeed_sound h) hline
      have hsound : rest.Sound := by
        rw [hrest]
        exact ⟨by simp, fun _ => rfl⟩
      have hafter : buffer.skipFeed.afterReturn = false := by
        cases hafter : buffer.skipFeed.afterReturn with
        | true => simp [skipFeed_bytes_eq_nil hafter] at hbytes
        | false => rfl
      have hfeeds : dropFeeds buffer.skipFeed.afterReturn buffer.skipFeed.bytes =
          line ++ ending :: dropFeeds (ending == carriageReturn) rest.bytes := by
        rw [hafter, hbytes, dropFeeds_append, dropFeeds_of_forall hclean,
          endsInReturn_of_forall hclean]
        rfl
      have hreturn : endsInReturn buffer.skipFeed.afterReturn buffer.skipFeed.bytes =
          endsInReturn (ending == carriageReturn) rest.bytes := by
        rw [hbytes, endsInReturn_append, endsInReturn_cons]
      have hrestReturn : rest.afterReturn = (ending == carriageReturn) := by rw [hrest]
      have hlimit : rest.limit = buffer.limit := by rw [hrest, skipFeed_limit]
      simp only [takeLines_of_some hline, ih hsound, ← dropFeeds_skipFeed buffer,
        ← endsInReturn_skipFeed buffer, hfeeds, hreturn, cut_append_cons hclean hending,
        hrestReturn, hlimit, List.reverse_cons, List.append_assoc, List.singleton_append]

/-- The buffer in which bytes have come, none of them too long a line. -/
def after (limit : Nat) (bytes : List UInt8) : LineBuffer :=
  { bytes := (splitLines bytes).2
    scanned := (splitLines bytes).2.length
    afterReturn := endsInReturn false bytes
    limit }

theorem sound_after_append (limit : Nat) (bytes chunk : List UInt8) :
    Sound { after limit bytes with bytes := (after limit bytes).bytes ++ chunk } where
  scanned_clean := by
    simp only [after, List.take_left]
    exact splitLines_snd_forall bytes
  scanned_eq_zero := by
    intro hreturn
    simp only [after] at hreturn ⊢
    rw [splitLines_snd_of_endsInReturn hreturn, List.length_nil]

theorem dropFeeds_after_append (limit : Nat) (bytes chunk : List UInt8) :
    dropFeeds (after limit bytes).afterReturn ((after limit bytes).bytes ++ chunk) =
        (splitLines bytes).2 ++ dropFeeds (endsInReturn false bytes) chunk ∧
      endsInReturn (after limit bytes).afterReturn ((after limit bytes).bytes ++ chunk) =
        endsInReturn false (bytes ++ chunk) := by
  rw [endsInReturn_append false bytes]
  simp only [after]
  cases hreturn : endsInReturn false bytes with
  | true => simp [splitLines_snd_of_endsInReturn hreturn]
  | false =>
      have hclean := splitLines_snd_forall bytes
      rw [dropFeeds_append, dropFeeds_of_forall hclean, endsInReturn_append,
        endsInReturn_of_forall hclean]
      exact ⟨rfl, rfl⟩

theorem takeLines_after (limit : Nat) (bytes chunk : List UInt8) :
    ∃ lines, (splitLines (bytes ++ chunk)).1 = (splitLines bytes).1 ++ lines ∧
      takeLines { after limit bytes with bytes := (after limit bytes).bytes ++ chunk } [] =
        (lines, after limit (bytes ++ chunk)) := by
  obtain ⟨hfeeds, hreturn⟩ := dropFeeds_after_append limit bytes chunk
  have hsplit := splitLines_append bytes chunk
  rw [takeLines_eq (sound_after_append limit bytes chunk), hfeeds, hreturn]
  cases hcut : cut isLineEnd
      ((splitLines bytes).2 ++ dropFeeds (endsInReturn false bytes) chunk) with
  | mk lines tail =>
      rw [hcut] at hsplit
      refine ⟨lines, by rw [hsplit], ?_⟩
      simp only [after, hsplit, List.reverse_nil, List.nil_append]

/-- A chunk fails the buffer exactly if it leaves more bytes without an end than the limit. -/
theorem push_after (limit : Nat) (bytes chunk : List UInt8) :
    ∃ lines, (splitLines (bytes ++ chunk)).1 = (splitLines bytes).1 ++ lines ∧
      (after limit bytes).push chunk =
        if limit < (splitLines (bytes ++ chunk)).2.length then
          (.error (.lineOverflow (splitLines (bytes ++ chunk)).2.length limit), ofLimit limit)
        else (.ok (lines.map Utf8.lossy), after limit (bytes ++ chunk)) := by
  obtain ⟨lines, hlines, htake⟩ := takeLines_after limit bytes chunk
  refine ⟨lines, hlines, ?_⟩
  rw [push, htake]
  change (if limit < (splitLines (bytes ++ chunk)).2.length then _ else _) = _
  by_cases hlong : limit < (splitLines (bytes ++ chunk)).2.length
  · have hnot : endsInReturn false (bytes ++ chunk) = false := by
      cases hcase : endsInReturn false (bytes ++ chunk) with
      | true =>
          rw [splitLines_snd_of_endsInReturn hcase] at hlong
          exact absurd hlong (Nat.not_lt_zero _)
      | false => rfl
    rw [if_pos hlong, if_pos hlong]
    simp only [after, hnot, ofLimit]
  · rw [if_neg hlong, if_neg hlong]

theorem push_after_eq_error {limit : Nat} {bytes chunk : List UInt8} {error : Error}
    {buffer : LineBuffer} (hpush : (after limit bytes).push chunk = (.error error, buffer)) :
    limit < (splitLines (bytes ++ chunk)).2.length ∧
      error = .lineOverflow (splitLines (bytes ++ chunk)).2.length limit := by
  obtain ⟨lines, -, hresult⟩ := push_after limit bytes chunk
  rw [hresult] at hpush
  split at hpush
  · next hlong => exact ⟨hlong, (Except.error.inj (Prod.mk.inj hpush).1).symm⟩
  · cases (Prod.mk.inj hpush).1

theorem finish_after (limit : Nat) (bytes : List UInt8) :
    (after limit bytes).finish =
      (if (splitLines bytes).2 = [] then none else some (Utf8.lossy (splitLines bytes).2),
        ofLimit limit) := by
  simp [finish, after, ofLimit]

end LineBuffer

end ApiBridge.EventStream
