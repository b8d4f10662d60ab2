import LocalCrm.Erasure.Machine
import LocalCrm.Webhooks.Books

/-! What is left to scrub of a contact: the keys of its rows that hold more than evidence. -/

set_option autoImplicit false

namespace LocalCrm.Erasure

open Library Webhooks Contacts

def holdsOnlyEvidence : JsonValue → Bool
  | .object fields => fields.all fun field => sendEventPayloadEvidenceAllowlist.contains field.1
  | _ => false

theorem holdsOnlyEvidence_scrubbed (payload : JsonValue) :
    holdsOnlyEvidence (buildScrubbedSendEventPayload payload) = true := by
  rw [buildScrubbedSendEventPayload, holdsOnlyEvidence, List.all_eq_true]
  intro field member
  obtain ⟨name, allowed, copied⟩ := List.mem_filterMap.mp member
  obtain ⟨value, _, rfl⟩ := Option.map_eq_some_iff.mp copied
  exact List.contains_iff_mem.mpr allowed

namespace ErasureStore

def residue (store : ErasureStore) (ids : SendIdScheme) (workspaceId : WorkspaceId) (contactId : ContactId) :
    ScrubTable → List ScrubKey
  | .sends => (store.sendEvents.rows.filter fun row =>
      row.isSentTo ids store.db.sends workspaceId contactId && !holdsOnlyEvidence row.payload).map
      fun row => scrubKey row.occurredAt row.id
  | .events => (store.events.rows.filter fun row => row.isOf workspaceId contactId && !row.properties.isEmpty).map
      fun row => scrubKey row.occurredAt row.id

/-- Every stored event of a send refers to a send of its workspace. -/
def Resolved (store : ErasureStore) (ids : SendIdScheme) : Prop :=
  ∀ row ∈ store.sendEvents.rows, ∀ sendId, row.sendId = some sendId →
    (resolveSend ids store.db.sends row.workspaceId sendId).isSome = true

def Gone (store : ErasureStore) (contactId : ContactId) : Prop :=
  ∃ contact, store.db.contacts.find? contactId = some contact ∧ contact.anonymizedAt.isSome = true

def Shrinks (store next : ErasureStore) (ids : SendIdScheme) (workspaceId : WorkspaceId) (contactId : ContactId) :
    Prop :=
  ∀ table, ∀ key ∈ next.residue ids workspaceId contactId table, key ∈ store.residue ids workspaceId contactId table

section Residue

variable {ids : SendIdScheme} {store next : ErasureStore} {workspaceId owner : WorkspaceId}
  {contactId erased : ContactId} {key : ScrubKey} {table : ScrubTable} {cursor : Option ScrubCursor}
  {page : List ScrubKey}

theorem mem_residue_sends : key ∈ store.residue ids workspaceId contactId .sends ↔
    ∃ row ∈ store.sendEvents.rows, row.isSentTo ids store.db.sends workspaceId contactId = true ∧
      holdsOnlyEvidence row.payload = false ∧ scrubKey row.occurredAt row.id = key := by
  simp only [residue, List.mem_map, List.mem_filter, Bool.and_eq_true, Bool.not_eq_true', and_assoc]

theorem mem_residue_events : key ∈ store.residue ids workspaceId contactId .events ↔
    ∃ row ∈ store.events.rows, row.isOf workspaceId contactId = true ∧
      row.properties ≠ [] ∧ scrubKey row.occurredAt row.id = key := by
  simp only [residue, List.mem_map, List.mem_filter, Bool.and_eq_true, Bool.not_eq_true', List.isEmpty_eq_false_iff,
    and_assoc]

theorem linked_of_residue (left : key ∈ store.residue ids workspaceId contactId table) :
    key ∈ store.linkedKeys ids workspaceId contactId table := by
  cases table with
  | sends =>
    obtain ⟨row, stored, sent, _, rfl⟩ := mem_residue_sends.mp left
    exact List.mem_map.mpr ⟨row, List.mem_filter.mpr ⟨stored, sent⟩, rfl⟩
  | events =>
    obtain ⟨row, stored, own, _, rfl⟩ := mem_residue_events.mp left
    exact List.mem_map.mpr ⟨row, List.mem_filter.mpr ⟨stored, own⟩, rfl⟩

theorem workspaceId_of_isSentTo {row : SendEventRow} {sends : Sends}
    (sent : row.isSentTo ids sends workspaceId contactId = true) : row.workspaceId = workspaceId := by
  unfold SendEventRow.isSentTo at sent
  rw [Bool.and_eq_true, beq_iff_eq] at sent
  exact sent.1

theorem workspaceId_of_isOf {row : EventRow} (own : row.isOf workspaceId contactId = true) :
    row.workspaceId = workspaceId := by
  unfold EventRow.isOf at own
  rw [Bool.and_eq_true, beq_iff_eq] at own
  exact own.1

theorem nodup_linkedKeys : (store.linkedKeys ids workspaceId contactId table).Nodup := by
  cases table with
  | sends =>
    apply List.Nodup.map_on
    · intro row member other others same
      have first := List.mem_filter.mp member
      have second := List.mem_filter.mp others
      have keyed : row.key = other.key := by
        rw [SendEventRow.key, SendEventRow.key, same, workspaceId_of_isSentTo first.2,
          workspaceId_of_isSentTo second.2]
      exact Table.eq_of_find? (Table.find?_of_mem second.1) first.1 keyed
    · exact (List.Nodup.of_map _ store.sendEvents.unique).filter _
  | events =>
    apply List.Nodup.map_on
    · intro row member other others same
      have first := List.mem_filter.mp member
      have second := List.mem_filter.mp others
      have keyed : row.key = other.key := by
        rw [EventRow.key, EventRow.key, same, workspaceId_of_isOf first.2, workspaceId_of_isOf second.2]
      exact Table.eq_of_find? (Table.find?_of_mem second.1) first.1 keyed
    · exact (List.Nodup.of_map _ store.events.unique).filter _

theorem shrinks_of_same (events : next.events = store.events) (sendEvents : next.sendEvents = store.sendEvents)
    (sends : next.db.sends = store.db.sends) : Shrinks store next ids workspaceId contactId := by
  intro table key left
  cases table with
  | sends =>
    rw [mem_residue_sends, sendEvents, sends] at left
    exact mem_residue_sends.mpr left
  | events =>
    rw [mem_residue_events, events] at left
    exact mem_residue_events.mpr left

theorem residue_rewritePayloads
    (left : key ∈ (store.rewritePayloads owner page).residue ids workspaceId contactId .sends) :
    key ∈ store.residue ids workspaceId contactId .sends ∧ (workspaceId = owner → key ∉ page) := by
  obtain ⟨row, stored, sent, more, same⟩ := mem_residue_sends.mp left
  obtain ⟨before, member, rewritten⟩ := List.mem_map.mp stored
  split at rewritten
  · -- a rewritten payload is evidence alone
    rw [← rewritten, holdsOnlyEvidence_scrubbed] at more
    cases more
  · next outside =>
    subst rewritten
    refine ⟨mem_residue_sends.mpr ⟨before, member, sent, more, same⟩, ?_⟩
    intro own inPage
    apply outside
    dsimp only
    rw [workspaceId_of_isSentTo sent, own, same]
    simpa using inPage

theorem residue_emptyProperties
    (left : key ∈ (store.emptyProperties owner page).residue ids workspaceId contactId .events) :
    key ∈ store.residue ids workspaceId contactId .events ∧ (workspaceId = owner → key ∉ page) := by
  obtain ⟨row, stored, mine, more, same⟩ := mem_residue_events.mp left
  obtain ⟨before, member, emptied⟩ := List.mem_map.mp stored
  split at emptied
  · subst emptied
    exact absurd rfl more
  · next outside =>
    subst emptied
    refine ⟨mem_residue_events.mpr ⟨before, member, mine, more, same⟩, ?_⟩
    intro own inPage
    apply outside
    dsimp only
    rw [workspaceId_of_isOf mine, own, beq_self_eq_true, Bool.true_and, List.contains_iff_mem]
    exact List.mem_map.mpr ⟨key, inPage, by rw [← same]; rfl⟩

theorem residue_scrubTablePage {job : ScrubJob} {other : ScrubTable}
    (left : key ∈ (scrubTablePage ids store job cursor table).residue ids workspaceId contactId other) :
    key ∈ store.residue ids workspaceId contactId other ∧ (other = table → workspaceId = job.workspaceId →
      key ∉ store.scrubPage ids job.workspaceId job.contactId table cursor) := by
  cases table with
  | sends =>
    cases other with
    | sends =>
      have rewritten : key ∈ (store.rewritePayloads job.workspaceId
          (store.scrubPage ids job.workspaceId job.contactId .sends cursor)).residue ids workspaceId contactId .sends :=
        left
      obtain ⟨before, off⟩ := residue_rewritePayloads rewritten
      exact ⟨before, fun _ own => off own⟩
    | events => exact ⟨left, fun same => ScrubTable.noConfusion same⟩
  | events =>
    cases other with
    | sends => exact ⟨left, fun same => ScrubTable.noConfusion same⟩
    | events =>
      have emptied : key ∈ (store.emptyProperties job.workspaceId
          (store.scrubPage ids job.workspaceId job.contactId .events cursor)).residue ids workspaceId contactId .events :=
        left
      obtain ⟨before, off⟩ := residue_emptyProperties emptied
      exact ⟨before, fun _ own => off own⟩

end Residue

end ErasureStore

section Sends

variable {ids : SendIdScheme} {db next : Database} {sendId : SendId} {send : ResolvedSend} {workspaceId : WorkspaceId}
  {contactId : ContactId}

/-- Mails stay, each with its contact. -/
def SendsKept (db next : Database) : Prop :=
  ∀ intent send, db.sends.find? intent = some send →
    ∃ kept, next.sends.find? intent = some kept ∧ kept.contactId = send.contactId

theorem sendsKept_of_same (sends : next.sends = db.sends) : SendsKept db next := by
  intro intent send found
  rw [sends]
  exact ⟨send, found, rfl⟩

theorem sendsKept_of_deliveryKept (delivery : DeliveryKept db next) : SendsKept db next := by
  intro intent send found
  have columns := delivery.sends intent
  rw [found, Option.map_some, Option.map_eq_some_iff] at columns
  obtain ⟨kept, there, same⟩ := columns
  have recipient : (ledgerColumns kept).contactId = (ledgerColumns send).contactId := congrArg Send.contactId same
  exact ⟨kept, there, recipient⟩

theorem resolveSend_kept (kept : SendsKept db next) (resolved : resolveSend ids db.sends workspaceId sendId = some send) :
    resolveSend ids next.sends workspaceId sendId = some send := by
  obtain ⟨row, located, own, rfl⟩ := locates_of_resolveSend resolved
  obtain ⟨there, found, recipient⟩ := kept row.intent row located.1
  have sameIntent : there.intent = row.intent := Table.key_of_find? found
  have relocated : Locates ids next.sends send.id there := by
    rw [Locates, sameIntent]
    exact ⟨found, located.2⟩
  rw [resolveSend_located located own] at resolved
  rw [resolveSend_located relocated (by rw [sameIntent]; exact own), sameIntent, recipient]
  exact resolved

variable {store later : ErasureStore}

theorem shrinks_of_sendsKept (resolved : store.Resolved ids) (events : later.events = store.events)
    (sendEvents : later.sendEvents = store.sendEvents) (kept : SendsKept store.db later.db) :
    store.Shrinks later ids workspaceId contactId := by
  intro table key left
  cases table with
  | events =>
    rw [ErasureStore.mem_residue_events, events] at left
    exact ErasureStore.mem_residue_events.mpr left
  | sends =>
    obtain ⟨row, stored, sent, more, same⟩ := ErasureStore.mem_residue_sends.mp left
    rw [sendEvents] at stored
    refine ErasureStore.mem_residue_sends.mpr ⟨row, stored, ?_, more, same⟩
    unfold SendEventRow.isSentTo at sent ⊢
    rw [Bool.and_eq_true, beq_iff_eq] at sent
    obtain ⟨own, linked⟩ := sent
    cases referred : row.sendId with
    | none =>
      rw [referred] at linked
      cases linked
    | some sendId =>
      rw [referred] at linked
      obtain ⟨send, resolves⟩ := Option.isSome_iff_exists.mp (resolved row stored sendId referred)
      rw [own] at resolves
      rw [Option.any_some, resolveSend_kept kept resolves] at linked
      rw [Option.any_some, resolves, own, beq_self_eq_true, Bool.true_and]
      exact linked

theorem resolved_of_sendsKept (resolved : store.Resolved ids) (sendEvents : later.sendEvents = store.sendEvents)
    (kept : SendsKept store.db later.db) : later.Resolved ids := by
  intro row stored sendId referred
  rw [sendEvents] at stored
  obtain ⟨send, resolves⟩ := Option.isSome_iff_exists.mp (resolved row stored sendId referred)
  rw [resolveSend_kept kept resolves]
  rfl

end Sends

section Requests

variable {platform : Platform} {boundary : Boundary} {db next : Database} {request : ContactRequest}
  {workspaceId : WorkspaceId} {newId : ContactId} {input : UpsertContactIdentityInput}
  {result : UpsertContactIdentityResult}

def GoneKept (db next : Database) : Prop :=
  ∀ id contact, db.contacts.find? id = some contact → contact.anonymizedAt.isSome = true →
    ∃ kept, next.contacts.find? id = some kept ∧ kept.anonymizedAt.isSome = true

theorem goneKept_of_same (contacts : next.contacts = db.contacts) : GoneKept db next := by
  intro id contact found gone
  rw [contacts]
  exact ⟨contact, found, gone⟩

theorem goneKept_insertContact {row : Contact} (inserted : insertContact db row = .ok next) : GoneKept db next := by
  intro id contact found gone
  have fresh := (insertContact_eq_ok.mp inserted).1
  have other : id ≠ row.id := by
    intro same
    rw [same, fresh] at found
    cases found
  rw [find?_insertContact inserted, if_neg other]
  exact ⟨contact, found, gone⟩

theorem goneKept_writeContact {existing target : Contact} {source : String}
    (stored : db.contacts.find? existing.id = some existing) (live : existing.anonymizedAt = none) :
    GoneKept db (writeContact db existing target source) := by
  intro id contact found gone
  have other : id ≠ existing.id := by
    intro same
    rw [same, stored, Option.some.injEq] at found
    rw [← found, live] at gone
    cases gone
  rw [find?_writeContact stored, if_neg other]
  exact ⟨contact, found, gone⟩

theorem goneKept_of_withdrawn (withdrawn : Withdrawn platform db next) : GoneKept db next := by
  intro id contact found gone
  have lowered := withdrawn.contacts id
  rw [found] at lowered
  cases there : next.contacts.find? id with
  | none =>
    rw [there] at lowered
    cases lowered
  | some kept =>
    rw [there] at lowered
    cases lowered with
    | some lowered =>
      refine ⟨kept, rfl, ?_⟩
      rw [← lowered.columns]
      exact gone

theorem find?_anonymized {db after : Database} {now : Timestamp} {contactId id : ContactId}
    (contacts : after.contacts = db.contacts.update
      (fun contact => contact.workspaceId == workspaceId && contact.id == contactId && contact.anonymizedAt.isNone)
      fun contact => anonymized contact now) :
    after.contacts.find? id = (db.contacts.find? id).map fun contact =>
      if contact.workspaceId == workspaceId && contact.id == contactId && contact.anonymizedAt.isNone then
        anonymized contact now
      else contact := by
  rw [contacts]
  exact @Table.find?_update _ _ _ _ db.contacts id
    (fun contact => contact.workspaceId == workspaceId && contact.id == contactId && contact.anonymizedAt.isNone)
    (fun contact => anonymized contact now) fun _ => rfl

theorem goneKept_anonymized {db after : Database} {now : Timestamp} {contactId : ContactId}
    (contacts : after.contacts = db.contacts.update
      (fun contact => contact.workspaceId == workspaceId && contact.id == contactId && contact.anonymizedAt.isNone)
      fun contact => anonymized contact now) : GoneKept db after := by
  intro id contact found gone
  refine ⟨contact, ?_, gone⟩
  rw [find?_anonymized contacts, found, Option.map_some, if_neg]
  intro chosen
  rw [Bool.and_eq_true, Option.isNone_iff_eq_none] at chosen
  rw [chosen.2] at gone
  cases gone

theorem goneKept_contactStep (taken : contactStep platform boundary db request = some next) : GoneKept db next := by
  cases stepped taken with
  | withdrawn _ withdrawn => exact goneKept_of_withdrawn withdrawn
  | elsewhere _ contacts _ _ => exact goneKept_of_same contacts
  | inserted _ workspaceId newId input properties inserted => exact goneKept_insertContact inserted
  | rewritten existing source allowed =>
    obtain ⟨stored, live⟩ := stored_of_granted allowed
    exact goneKept_writeContact stored live

theorem arrive_contacts {store after : ErasureStore}
    (arrived : arrive platform boundary store (.contacts request) = some after) :
    (∀ other, request ≠ .elsewhere other) ∧
      ∃ db, contactStep platform boundary store.db request = some db ∧ { store with db } = after := by
  have inside : ∀ other, request ≠ .elsewhere other := by
    rintro other rfl
    cases arrived
  refine ⟨inside, ?_⟩
  have stepped : (contactStep platform boundary store.db request).map (fun db => { store with db }) = some after := by
    cases request with
    | elsewhere other => exact absurd rfl (inside other)
    | _ => exact arrived
  exact Option.map_eq_some_iff.mp stepped

theorem upsert_kept (upserted : upsertContactByIdentity platform db workspaceId newId input = .ok (result, next)) :
    next.sends = db.sends ∧ GoneKept db next ∧
      ∀ contact, db.contacts.find? result.contactId = some contact → contact.anonymizedAt = none := by
  rcases upserted_cases upserted with ⟨_, rfl, insertion⟩ | ⟨existing, matched, here, _, rfl⟩
  · obtain ⟨fresh, _, rfl⟩ := insertContact_eq_ok.mp insertion
    refine ⟨rfl, goneKept_insertContact insertion, ?_⟩
    intro contact found
    cases (show db.contacts.find? newId = none from fresh).symm.trans found
  · obtain ⟨stored, _, live⟩ := stored_of_matchIdentity matched
    refine ⟨sends_writeContact, goneKept_writeContact stored live, ?_⟩
    intro contact found
    rw [here] at found
    cases stored.symm.trans found
    exact live

theorem sends_committed_insert {Result : Type} {row : Contact} (result : Result) :
    (committed db ((insertContact db row).map fun next => (result, next))).sends = db.sends := by
  cases insertion : insertContact db row with
  | error refusal => rfl
  | ok inserted =>
    obtain ⟨_, _, rfl⟩ := insertContact_eq_ok.mp insertion
    rfl

theorem sends_committed_upsert :
    (committed db (upsertContactByIdentity platform db workspaceId newId input)).sends = db.sends := by
  cases upserted : upsertContactByIdentity platform db workspaceId newId input with
  | error refusal => rfl
  | ok outcome => exact (upsert_kept upserted).1

theorem sendsKept_contactStep (inside : ∀ other, request ≠ .elsewhere other)
    (taken : contactStep platform boundary db request = some next) : SendsKept db next := by
  cases request with
  | create workspaceId newId input =>
    cases taken
    apply sendsKept_of_same
    unfold createContact
    split
    · rfl
    · split
      · rfl
      · exact sends_committed_insert _
  | update workspaceId id patch =>
    apply sendsKept_of_same
    simp only [contactStep] at taken
    split at taken
    · next contact written updated =>
      cases taken
      unfold updateContact at updated
      split at updated
      · cases updated
      · split at updated
        · cases updated
        · split at updated
          · cases updated
          · cases updated
            exact sends_writeContact
    all_goals
      cases taken
      rfl
  | upsert workspaceId newId input =>
    cases taken
    exact sendsKept_of_same sends_committed_upsert
  | importRow workspaceId newId duplicatePolicy input =>
    cases taken
    apply sendsKept_of_same
    cases duplicatePolicy with
    | update =>
      rw [applyCsvRow_update, committed_map]
      exact sends_committed_upsert
    | skip =>
      rw [applyCsvRow_skip]
      split
      · rfl
      · rw [committed_map]
        exact sends_committed_upsert
  | webhookBatch now workspaceId events =>
    cases taken
    have withdrawn : Withdrawn platform db (processWebhookEventBatch platform now db workspaceId events) :=
      withdrawn_of_processWebhookEventBatch events
    exact sendsKept_of_deliveryKept withdrawn.delivery
  | unsubscribe now workspaceId contactId sendId =>
    cases taken
    have withdrawn : Withdrawn platform db
        (Contacts.unsubscribe platform.sendIds now db workspaceId contactId sendId) := withdrawn_of_unsubscribe
    exact sendsKept_of_deliveryKept withdrawn.delivery
  | elsewhere other => exact absurd rfl (inside other)

end Requests

end LocalCrm.Erasure
