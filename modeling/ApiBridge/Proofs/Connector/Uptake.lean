import ApiBridge.Connector.Stream
import ApiBridge.Proofs.EventStream.Blocks

namespace ApiBridge.Session

open EventStream

variable {session : Session}

/-- A session that has taken blocks in. -/
def takeBlocks (session : Session) (blocks : List Block) : Session :=
  { session with
    delay := Block.lastDelay session.delay blocks
    lastEventId := (Block.lastId? blocks).or session.lastEventId
    received := session.received + (Block.events session.options.decodeJson blocks).length
    ready := session.ready ++ Block.events session.options.decodeJson blocks }

/-- Whether a session has read no more events than are asked for. -/
def IsWithin (session : Session) : Prop :=
  ∀ limit, session.options.maxEvents = some limit → session.received ≤ limit

@[simp] theorem takeBlocks_nil (session : Session) : session.takeBlocks [] = session := by
  simp [takeBlocks]

@[simp] theorem takeBlocks_takeBlocks (session : Session) (blocks more : List Block) :
    (session.takeBlocks blocks).takeBlocks more = session.takeBlocks (blocks ++ more) := by
  simp [takeBlocks, Block.lastDelay_append, Block.lastId?_append, Option.or_assoc, Nat.add_assoc]

theorem takeBlock_eq (session : Session) (lines : List String) :
    session.takeBlock lines = session.takeBlocks (Block.ofLines? lines).toList := by
  unfold takeBlock
  cases hblock : Block.ofLines? lines with
  | none => simp
  | some block =>
      have hid : Block.lastId? [block] = block.id.filter fun id => !id.isEmpty := by
        cases hid : block.id.filter fun id => !id.isEmpty <;> simp [Block.lastId?, hid]
      have hdelay : Block.lastDelay session.delay [block] =
          (block.retry.map Duration.ofMillis).getD session.delay := by
        cases hretry : block.retry <;> simp [Block.lastDelay, hretry]
      have hevents : Block.events session.options.decodeJson [block] =
          (block.event? session.options.decodeJson).toList := by
        cases hevent : block.event? session.options.decodeJson <;> simp [Block.events, hevent]
      simp only [Option.toList_some, takeBlocks, hid, hdelay, hevents, Option.or_eq_orElse]
      rfl

theorem takeBlocks_takeBlock (session : Session) (pending : List String)
    (groups : List (List String)) :
    (session.takeBlock pending).takeBlocks (groups.filterMap Block.ofLines?) =
      session.takeBlocks ((pending :: groups).filterMap Block.ofLines?) := by
  rw [takeBlock_eq, takeBlocks_takeBlocks]
  cases hgiven : Block.ofLines? pending <;> simp [hgiven]

theorem lt_of_isFull {limit : Nat} (hfull : session.isFull = false)
    (hlimit : session.options.maxEvents = some limit) : session.received < limit := by
  simpa [isFull, hlimit] using hfull

theorem isWithin_of_isFull (hfull : session.isFull = false) : session.IsWithin :=
  fun _ hlimit => Nat.le_of_lt (lt_of_isFull hfull hlimit)

theorem length_ofLines?_le (lines : List String) : (Block.ofLines? lines).toList.length ≤ 1 := by
  cases Block.ofLines? lines <;> simp

theorem isWithin_takeBlock (hfull : session.isFull = false) (lines : List String) :
    (session.takeBlock lines).IsWithin := by
  intro limit hlimit
  have hlength : (Block.events session.options.decodeJson
      (Block.ofLines? lines).toList).length ≤ 1 :=
    Nat.le_trans (List.length_filterMap_le _ _) (length_ofLines?_le lines)
  rw [takeBlock_eq] at hlimit ⊢
  have hreceived := lt_of_isFull hfull hlimit
  simp only [takeBlocks]
  omega

theorem takeLines_cases {pending : List String} (lines : List String)
    (hfull : session.isFull = false) (hpending : ∀ line ∈ pending, line.isEmpty = false) :
    let parts := cut String.isEmpty (pending ++ lines)
    (session.takeLines pending lines =
        (session.takeBlocks (parts.1.filterMap Block.ofLines?), parts.2, true) ∧
      (session.takeBlocks (parts.1.filterMap Block.ofLines?)).isFull = false) ∨
    ∃ taken, taken <+: parts.1 ∧
      session.takeLines pending lines =
        (session.takeBlocks (taken.filterMap Block.ofLines?), [], false) ∧
      (session.takeBlocks (taken.filterMap Block.ofLines?)).isFull = true ∧
      (session.takeBlocks (taken.filterMap Block.ofLines?)).IsWithin := by
  induction lines generalizing session pending with
  | nil =>
      left
      rw [List.append_nil, cut_of_forall hpending]
      exact ⟨by simp [takeLines], by simpa using hfull⟩
  | cons line rest ih =>
      cases hline : line.isEmpty with
      | false =>
          have hlonger : ∀ other ∈ pending ++ [line], other.isEmpty = false := by
            intro other hother
            rcases List.mem_append.1 hother with hother | hother
            · exact hpending other hother
            · rw [List.mem_singleton.1 hother, hline]
          have hstep : session.takeLines pending (line :: rest) =
              session.takeLines (pending ++ [line]) rest := by
            rw [takeLines, hline, if_neg Bool.false_ne_true]
          rw [hstep]
          have hih := ih hfull hlonger
          rwa [List.append_assoc, List.singleton_append] at hih
      | true =>
          rw [cut_append_cons hpending hline]
          cases hnext : (session.takeBlock pending).isFull with
          | true =>
              right
              have hone : session.takeBlock pending =
                  session.takeBlocks ([pending].filterMap Block.ofLines?) := by
                rw [← takeBlocks_takeBlock, List.filterMap_nil, takeBlocks_nil]
              have hstep : session.takeLines pending (line :: rest) =
                  (session.takeBlock pending, [], false) := by
                simp only [takeLines, hline, hnext, if_true]
              refine ⟨[pending], ⟨_, rfl⟩, ?_, ?_, ?_⟩
              · rw [hstep, hone]
              · rw [← hone, hnext]
              · rw [← hone]
                exact isWithin_takeBlock hfull pending
          | false =>
              have hstep : session.takeLines pending (line :: rest) =
                  (session.takeBlock pending).takeLines [] rest := by
                simp [takeLines, hline, hnext]
              rw [hstep]
              rcases ih hnext (List.forall_mem_nil _) with ⟨heq, hopen⟩ |
                ⟨taken, hfront, heq, hend, hwithin⟩
              · left
                rw [List.nil_append, takeBlocks_takeBlock] at heq
                rw [List.nil_append, takeBlocks_takeBlock] at hopen
                exact ⟨heq, hopen⟩
              · right
                rw [takeBlocks_takeBlock] at heq hend hwithin
                exact ⟨pending :: taken, List.cons_prefix_cons.2 ⟨rfl, hfront⟩, heq, hend, hwithin⟩

theorem length_ready_takeBlocks_le (session : Session) (blocks : List Block) :
    (session.takeBlocks blocks).ready.length ≤ session.ready.length + blocks.length := by
  have hevents : (Block.events session.options.decodeJson blocks).length ≤ blocks.length :=
    List.length_filterMap_le _ _
  rw [takeBlocks, List.length_append]
  omega

theorem takeLines_eq {taken : Session} {pending rest lines : List String} {goesOn : Bool}
    (htake : session.takeLines pending lines = (taken, rest, goesOn)) :
    ∃ blocks, taken = session.takeBlocks blocks ∧
      blocks.length + rest.length ≤ pending.length + lines.length := by
  induction lines generalizing session pending with
  | nil =>
      obtain ⟨rfl, hrest⟩ := Prod.mk.inj htake
      obtain ⟨rfl, -⟩ := Prod.mk.inj hrest
      exact ⟨[], (takeBlocks_nil _).symm, by simp⟩
  | cons line lines ih =>
      have hone := length_ofLines?_le pending
      rw [takeLines] at htake
      rw [List.length_cons]
      split at htake
      · dsimp only at htake
        rw [takeBlock_eq] at htake
        split at htake
        · obtain ⟨rfl, hrest⟩ := Prod.mk.inj htake
          obtain ⟨rfl, -⟩ := Prod.mk.inj hrest
          refine ⟨_, rfl, ?_⟩
          rw [List.length_nil]
          omega
        · obtain ⟨blocks, rfl, hlength⟩ := ih htake
          refine ⟨_, takeBlocks_takeBlocks _ _ _, ?_⟩
          rw [List.length_nil] at hlength
          rw [List.length_append]
          omega
      · obtain ⟨blocks, rfl, hlength⟩ := ih htake
        refine ⟨blocks, rfl, ?_⟩
        rw [List.length_append, List.length_singleton] at hlength
        omega

theorem isFull_of_takeLines {taken : Session} {pending rest lines : List String}
    (htake : session.takeLines pending lines = (taken, rest, false)) : taken.isFull = true := by
  induction lines generalizing session pending with
  | nil => simp [takeLines] at htake
  | cons line lines ih =>
      rw [takeLines] at htake
      split at htake
      · dsimp only at htake
        split at htake
        · next hfull =>
            obtain ⟨rfl, -⟩ := Prod.mk.inj htake
            exact hfull
        · exact ih htake
      · exact ih htake

end ApiBridge.Session
