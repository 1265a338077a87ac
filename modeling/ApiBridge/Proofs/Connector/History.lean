import ApiBridge.Proofs.Connector.Reading
import ApiBridge.Proofs.Connector.Transition

namespace ApiBridge

open EventStream

/-- The blocks that a session takes in from a contact if it reads on to the end. -/
def Contact.heardBlocks (contact : Contact) : List Block :=
  contact.incoming.elim [] Http.Incoming.heardBlocks

theorem flatMap_heardBlocks_snoc (past : List Contact) (request : Http.Request)
    (incoming : Option Http.Incoming) :
    (past ++ [Contact.mk request incoming]).flatMap Contact.heardBlocks =
      past.flatMap Contact.heardBlocks ++ incoming.elim [] Http.Incoming.heardBlocks := by
  rw [List.flatMap_append, List.flatMap_singleton]
  rfl

def Http.Peer.afterContacts (auth : Auth) (peer : Http.Peer) (contacts : List Contact) :
    Http.Peer :=
  contacts.foldl (fun peer contact => (peer.meet auth contact.request).2) peer

/-- The contacts that a session may have made, each of them as those before it have it: it was
allowed, its request goes on from the last id, and it got what the other side had for it. -/
inductive IsHistory (connector : Connector) (first : Session) (peer : Http.Peer) :
    List Contact → Prop
  | nil : IsHistory connector first peer []
  | snoc {past : List Contact} {contact : Contact} (hpast : IsHistory connector first peer past)
      (hallows : first.options.allows past.length = true)
      (hrequest : connector.prepareStream first.endpoint first.params
        (Block.lastId? (past.flatMap Contact.heardBlocks)) = .ok contact.request)
      (hincoming : contact.incoming =
        ((peer.afterContacts connector.definition.auth past).meet connector.definition.auth
          contact.request).1) :
      IsHistory connector first peer (past ++ [contact])

theorem Connector.prepareStream_of_endpoint {connector : Connector} {name : String} {error : Error}
    (hendpoint : connector.endpoint name = .error error) (params : Table Json)
    (lastEventId : Option String) :
    connector.prepareStream name params lastEventId = .error error := by
  rw [prepareStream, prepare, hendpoint]
  rfl

namespace IsHistory

variable {connector : Connector} {first : Session} {peer : Http.Peer}
  {contacts past later : List Contact} {contact : Contact}

theorem of_append_cons (h : IsHistory connector first peer (past ++ contact :: later)) :
    first.options.allows past.length = true ∧
      connector.prepareStream first.endpoint first.params
        (Block.lastId? (past.flatMap Contact.heardBlocks)) = .ok contact.request ∧
      contact.incoming = ((peer.afterContacts connector.definition.auth past).meet
        connector.definition.auth contact.request).1 := by
  generalize hcontacts : past ++ contact :: later = contacts at h
  induction h generalizing later with
  | nil => simp at hcontacts
  | snoc hpast hallows hrequest hincoming ih =>
      rcases List.eq_nil_or_concat later with rfl | ⟨rest, last, rfl⟩
      · obtain ⟨rfl, hlast⟩ := List.append_inj' hcontacts rfl
        obtain rfl := List.singleton_inj.1 hlast
        exact ⟨hallows, hrequest, hincoming⟩
      · rw [List.concat_eq_append, ← List.cons_append, ← List.append_assoc] at hcontacts
        exact ih (List.append_inj' hcontacts rfl).1

theorem eq_nil_of_endpoint (h : IsHistory connector first peer contacts) {error : Error}
    (hendpoint : connector.endpoint first.endpoint = .error error) : contacts = [] := by
  cases h with
  | nil => rfl
  | snoc hpast hallows hrequest hincoming =>
      rw [Connector.prepareStream_of_endpoint hendpoint] at hrequest
      simp at hrequest

theorem reactions_eq (h : IsHistory connector first peer contacts) :
    ∃ used, peer.reactions =
        used ++ (peer.afterContacts connector.definition.auth contacts).reactions ∧
      used.filterMap Http.Reaction.incoming? = contacts.filterMap Contact.incoming := by
  induction h with
  | nil => exact ⟨[], rfl, rfl⟩
  | @snoc past contact hpast hallows hrequest hincoming ih =>
      obtain ⟨used, hused, hbodies⟩ := ih
      obtain ⟨more, hmore, hbody⟩ := Http.Peer.meet_reactions connector.definition.auth
        contact.request (peer.afterContacts connector.definition.auth past)
      refine ⟨used ++ more, ?_, ?_⟩
      · rw [hused, hmore, Http.Peer.afterContacts, Http.Peer.afterContacts, List.foldl_append,
          List.append_assoc]
        rfl
      · rw [List.filterMap_append, List.filterMap_append, hbodies, hbody, ← hincoming]
        cases hopened : contact.incoming <;> simp [hopened]

end IsHistory

end ApiBridge
