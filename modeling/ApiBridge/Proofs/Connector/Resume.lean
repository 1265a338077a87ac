import ApiBridge.Proofs.Connector.Reconnect
import ApiBridge.Proofs.EventStream.Encoding
import Mathlib.Algebra.GroupWithZero.Nat

/-!
Streams of a log: a server sends the entries after the one that a request tells, its answers may
break off anywhere, and a stream that connects again and again gives every entry just once.
-/

namespace ApiBridge

open EventStream

/-- The entries of a log after the one with an id, or all of them where there is no id. -/
def EventStream.entriesAfter (log : List LogEntry) : Option String → List LogEntry
  | none => log
  | some id => (log.dropWhile fun entry => entry.id != id).tail

namespace Contact

def due (log : List LogEntry) (contact : Contact) : List LogEntry :=
  entriesAfter log contact.request.lastEventIds.head?

def completed (log : List LogEntry) (ending : LineEnd) (contact : Contact) : Nat :=
  contact.incoming.elim 0 fun incoming =>
    EventStream.completed ending (contact.due log) incoming.chunks.flatten

/-- Whether a contact got the bytes of the entries that were due to it, as far as it got any: its
body may break off or stall anywhere, and is closed only behind whole entries. -/
def IsServed (log : List LogEntry) (ending : LineEnd) (contact : Contact) : Prop :=
  ∀ incoming ∈ contact.incoming,
    incoming.chunks.flatten <+: encodeLog ending (contact.due log) ∧
      (incoming.ending = .complete →
        incoming.chunks.flatten =
          encodeLog ending ((contact.due log).take (contact.completed log ending)))

instance (log : List LogEntry) (ending : LineEnd) (contact : Contact) :
    Decidable (contact.IsServed log ending) :=
  inferInstanceAs (Decidable (∀ incoming ∈ contact.incoming, _))

end Contact

/-- How many entries of a log contacts have got completely, one after another. -/
def receivedEntries (log : List LogEntry) (endings : Contact → LineEnd) (contacts : List Contact) :
    Nat :=
  (contacts.map fun contact => contact.completed log (endings contact)).sum

variable {log : List LogEntry} {endings : Contact → LineEnd}

theorem EventStream.entriesAfter_take (hids : (log.map LogEntry.id).Nodup) (count : Nat) :
    entriesAfter log ((log.take count).getLast?.map LogEntry.id) = log.drop count := by
  have hlog := List.take_append_drop count log
  rcases List.eq_nil_or_concat (log.take count) with hnil | ⟨past, last, hlast⟩
  · rw [hnil] at hlog ⊢
    exact hlog.symm
  · rw [List.concat_eq_append] at hlast
    rw [hlast, List.append_assoc, List.singleton_append] at hlog
    have hother : ∀ entry ∈ past, (entry.id != last.id) = true := by
      intro entry hentry
      rw [bne_iff_ne]
      rw [← hlog, List.map_append, List.map_cons] at hids
      exact (List.nodup_append.1 hids).2.2 _ (List.mem_map_of_mem hentry) _ List.mem_cons_self
    rw [hlast, List.getLast?_append]
    change (log.dropWhile fun entry => entry.id != last.id).tail = _
    conv_lhs => rw [← hlog]
    rw [List.dropWhile_append_of_pos hother, List.dropWhile_cons_of_neg (by simp), List.tail_cons]

theorem Contact.heardBlocks_of_isServed {ending : LineEnd} {contact : Contact}
    (hserved : contact.IsServed log ending)
    (hplain : ∀ entry ∈ contact.due log, entry.IsPlain)
    (hlines : ∀ entry ∈ contact.due log, ∀ line ∈ entry.lines,
      (Utf8.encode line).length ≤ maxLineBytes) :
    contact.heardBlocks =
      ((contact.due log).take (contact.completed log ending)).map LogEntry.block := by
  unfold heardBlocks
  cases hincoming : contact.incoming with
  | none => simp [completed, hincoming]
  | some incoming =>
      obtain ⟨hbytes, hcomplete⟩ := hserved incoming hincoming
      have hheard : incoming.isHeard = true := heard_snd_of_forall fun bytes hfront =>
        length_splitLines_snd_le_of_isPrefix hplain hlines (hfront.trans hbytes)
      have hblocks := blocks_of_isPrefix hplain hbytes
      rw [Option.elim_some, Http.Incoming.heardBlocks_of_isHeard hheard, Http.Incoming.blocks,
        completed, hincoming, Option.elim_some, ← hblocks]
      cases hending : incoming.ending with
      | complete =>
          rw [hcomplete hending]
          exact blocks_true_encodeLog ending fun entry hentry =>
            hplain entry (List.mem_of_mem_take hentry)
      | cut => rfl
      | stalled => rfl

/-- A log that a server can send: its entries are plain, no two of them have the same id, and no
line of them is too long. -/
structure IsSendable (log : List LogEntry) : Prop where
  plain : ∀ entry ∈ log, entry.IsPlain
  ids_nodup : (log.map LogEntry.id).Nodup
  length_le : ∀ entry ∈ log, ∀ line ∈ entry.lines, (Utf8.encode line).length ≤ maxLineBytes

variable {connector : Connector} {endpoint : String} {params : Table Json}
  {options : StreamOptions} {contacts : List Contact}

theorem IsSendable.lastId?_take (h : IsSendable log) (count : Nat) :
    Block.lastId? ((log.take count).map LogEntry.block) =
      (log.take count).getLast?.map LogEntry.id :=
  lastId?_map_block fun entry hentry => h.plain entry (List.mem_of_mem_take hentry)

/-- The contacts of a stream hear the first entries of the log, one after another: each request goes
on after the entries that the contacts before it have got. -/
theorem IsHistory.heardBlocks_of_isServed {first : Session} {peer : Http.Peer}
    (hsendable : IsSendable log)
    (hplain : ∀ plain, connector.prepare first.endpoint first.params = .ok plain →
      plain.lastEventIds = [])
    (h : IsHistory connector first peer contacts)
    (hserved : ∀ contact ∈ contacts, contact.IsServed log (endings contact)) :
    contacts.flatMap Contact.heardBlocks =
      (log.take (receivedEntries log endings contacts)).map LogEntry.block := by
  induction h with
  | nil => rfl
  | @snoc past contact hpast hallows hrequest hincoming ih =>
      have hblocks := ih fun earlier hearlier => hserved earlier (List.mem_append_left _ hearlier)
      have hids := Connector.lastEventIds_prepareStream hplain hrequest
      rw [hblocks, hsendable.lastId?_take] at hids
      have hdue : contact.due log = log.drop (receivedEntries log endings past) := by
        rw [Contact.due, hids, Option.head?_toList, entriesAfter_take hsendable.ids_nodup]
      have hmem : ∀ entry ∈ contact.due log, entry ∈ log := by
        rw [hdue]
        exact fun entry hentry => List.mem_of_mem_drop hentry
      have hheard := Contact.heardBlocks_of_isServed (hserved contact (by simp))
        (fun entry hentry => hsendable.plain entry (hmem entry hentry))
        (fun entry hentry => hsendable.length_le entry (hmem entry hentry))
      have hcount : receivedEntries log endings (past ++ [contact]) =
          receivedEntries log endings past + contact.completed log (endings contact) := by
        simp [receivedEntries]
      rw [List.flatMap_append, List.flatMap_singleton, hblocks, hheard, hdue, hcount, List.take_add,
        List.map_append]

/-- Whether a session is over and has given all that it has read. -/
def Session.isSpent (session : Session) : Bool :=
  match session.phase, session.ready with
  | .done, [] => true
  | _, _ => false

namespace Course

variable {start traffic : Traffic} {session : Session} {pulls : List Pull}

/-- A stream of a log gives every entry once and in order, wherever its connections break off. At
every point it has given the first of the entries. Each request tells the last entry that the
contacts before it have got completely, when all entries up to that one have been given and no
others. A stream that has come to rest has given all entries that its contacts have got. -/
theorem given_entries_isPrefix (hsendable : IsSendable log)
    (hplain : ∀ plain, connector.prepare endpoint params = .ok plain → plain.lastEventIds = [])
    (h : Course connector (.start endpoint params options) start contacts pulls session traffic)
    (hserved : ∀ contact ∈ contacts, contact.IsServed log (endings contact)) :
    pulls.filterMap Pull.event? <+: log.map (LogEntry.event options.decodeJson) ∧
    (∀ past contact later, contacts = past ++ contact :: later →
      let received := log.take (receivedEntries log endings past)
      contact.request.lastEventIds = (received.getLast?.map LogEntry.id).toList ∧
      ∃ given earlier before,
        Course connector (.start endpoint params options) start past given earlier before ∧
        earlier.phase = .connecting ∧ given <+: pulls ∧
        given.filterMap Pull.event? = received.map (LogEntry.event options.decodeJson)) ∧
    (options.maxEvents = none → session.phase = .done → session.ready = [] →
      pulls.filterMap Pull.event? = (log.take (receivedEntries log endings contacts)).map
        (LogEntry.event options.decodeJson)) := by
  obtain ⟨taken, hprogress⟩ := h.progress
  have hheard := hprogress.history.heardBlocks_of_isServed hsendable hplain hserved
  refine ⟨?_, ?_, ?_⟩
  · have hgiven : pulls.filterMap Pull.event? <+: Block.events options.decodeJson taken := by
      have hready := hprogress.tally.ready_eq
      exact ⟨session.ready, hready⟩
    have htaken := Block.events_isPrefix hprogress.taken_isPrefix options.decodeJson
    rw [hheard, events_map_block] at htaken
    exact (hgiven.trans htaken).trans ((List.take_prefix _ _).map _)
  · rintro past contact later rfl
    obtain ⟨given, earlier, before, hbefore, hphase, hready, hfront⟩ := h.of_append_cons rfl
    obtain ⟨read, hprogress'⟩ := hbefore.progress
    have hpast := hprogress'.history.heardBlocks_of_isServed hsendable hplain
      fun contact hcontact => hserved contact (List.mem_append_left _ hcontact)
    have hids := Connector.lastEventIds_prepareStream hplain hprogress.history.of_append_cons.2.1
    have hgiven := hprogress'.tally.ready_eq
    rw [hpast, hsendable.lastId?_take] at hids
    rw [hready, List.append_nil, (hprogress'.of_connecting hphase).1, hpast,
      events_map_block] at hgiven
    exact ⟨hids, given, earlier, before, hbefore, hphase, hfront, hgiven⟩
  · intro hunlimited hphase hready
    have hfull : session.isFull = false := by
      rw [Session.isFull, hprogress.tally.options_eq]
      change options.maxEvents.any _ = false
      rw [hunlimited]
      rfl
    have hgiven := hprogress.tally.ready_eq
    rw [hready, List.append_nil] at hgiven
    rcases hprogress.of_done hphase with ⟨htrue, -⟩ | ⟨-, htaken, -⟩
    · simp [hfull] at htrue
    · rw [htaken, hheard, events_map_block] at hgiven
      exact hgiven

/-- A log of three entries, and a server whose answers break off between a carriage return and its
line feed, in the middle of a line and behind the last entry. -/
theorem given_entries_isPrefix_cut :
    let log : List LogEntry := [⟨"1", none, none, "a"⟩, ⟨"2", some "tick", some 5, "b\nc"⟩,
      ⟨"3", none, none, ""⟩]
    let bytes := encodeLog .both
    let start := Traffic.sample [.hangUp, .sample [(bytes log).take 17] .cut,
      .sample [(bytes (log.drop 1)).take 20, []] .stalled, .sample [bytes (log.drop 1)] .complete]
    let options := { StreamOptions.sample with maxReconnectAttempts := some 4 }
    ∃ contacts pulls session traffic,
      Course .sample (.start "events" [] options) start contacts pulls session traffic ∧
      (∀ contact ∈ contacts, contact.IsServed log .both) ∧
      contacts.map (fun contact => contact.request.lastEventIds) = [[], [], ["1"], ["1"], ["3"]] ∧
      pulls.filterMap Pull.event? = log.map (LogEntry.event options.decodeJson) := by
  intro log bytes start options
  have hcourse := Course.walk .sample (.start "events" [] options) start 30
  generalize hparts : Session.walk .sample (.start "events" [] options) start 30 = parts at hcourse
  have hserved : ∀ contact ∈ parts.1, contact.IsServed log .both := by
    subst hparts
    decide +kernel
  have hids : parts.1.map (fun contact => contact.request.lastEventIds) =
      [[], [], ["1"], ["1"], ["3"]] := by
    subst hparts
    decide +kernel
  have hcount : receivedEntries log (fun _ => .both) parts.1 = 3 := by
    subst hparts
    decide +kernel
  have hrest : parts.2.2.1.isSpent = true := by
    subst hparts
    decide +kernel
  obtain ⟨-, -, hall⟩ := given_entries_isPrefix
    ⟨by decide +kernel, by decide +kernel, by decide +kernel⟩
    (fun _ => Connector.lastEventIds_sample) hcourse hserved
  unfold Session.isSpent at hrest
  split at hrest
  · next hphase hready =>
      have hgiven := hall rfl hphase hready
      rw [hcount] at hgiven
      exact ⟨_, _, _, _, hcourse, hserved, hids, hgiven⟩
  · simp at hrest

end Course

end ApiBridge
