import LocalCrm.Contacts.SuppressedAddresses
import LocalCrm.Erasure.Residue
import LocalCrm.Imports.Identities

/-! The lookup by identity and the upsert answer alike, and no upsert breaks the identities of the table. -/

set_option autoImplicit false

namespace LocalCrm.Contacts

open Library Delivery Imports Erasure

structure IdentitiesSound (contacts : Table Contact.id) : Prop where
  distinct : Distinct contacts
  erased : ∀ contact ∈ contacts.rows, contact.anonymizedAt ≠ none → contact.externalId = none ∧ contact.email = none

section Soundness

variable {before after : Table Contact.id} {written existing : Contact} {db next : Database} {platform : Platform}
  {boundary : Boundary}

/-- A column is kept or cleared. -/
structure Forgets (old new : Contact) : Prop where
  id : new.id = old.id
  workspaceId : new.workspaceId = old.workspaceId
  externalId : new.externalId = old.externalId ∨ new.externalId = none
  email : new.email = old.email ∨ new.email = none
  erased : new.anonymizedAt = old.anonymizedAt ∨ new.externalId = none ∧ new.email = none

theorem IdentitiesSound.forget (sound : IdentitiesSound before)
    (forgets : ∀ contact ∈ after.rows, ∃ old ∈ before.rows, Forgets old contact) : IdentitiesSound after where
  distinct contact member := by
    apply uniqueViolation_eq_none.mpr
    intro other stored differs same
    obtain ⟨old, had, kept⟩ := forgets contact member
    obtain ⟨older, held, also⟩ := forgets other stored
    have apart := uniqueViolation_eq_none.mp (sound.distinct old had) older held
      (by rw [← kept.id, ← also.id]; exact differs) (by rw [← kept.workspaceId, ← also.workspaceId]; exact same)
    constructor
    · intro value named again
      rcases kept.externalId with keeps | clears
      · rcases also.externalId with keeps' | clears'
        · exact apart.1 value (keeps ▸ named) (keeps' ▸ again)
        · cases clears'.symm.trans again
      · cases clears.symm.trans named
    · intro value named again
      rcases kept.email with keeps | clears
      · rcases also.email with keeps' | clears'
        · exact apart.2 value (keeps ▸ named) (keeps' ▸ again)
        · cases clears'.symm.trans again
      · cases clears.symm.trans named
  erased contact member gone := by
    obtain ⟨old, had, kept⟩ := forgets contact member
    rcases kept.erased with same | cleared
    · obtain ⟨noExternalId, noEmail⟩ := sound.erased old had (same ▸ gone)
      have first := kept.externalId
      have second := kept.email
      rw [noExternalId, or_self] at first
      rw [noEmail, or_self] at second
      exact ⟨first, second⟩
    · exact cleared

theorem IdentitiesSound.write (sound : IdentitiesSound before) (writes : Writes before after written)
    (free : uniqueViolation before written = none) (living : written.anonymizedAt = none) :
    IdentitiesSound after where
  distinct := sound.distinct.write writes free
  erased contact member gone := by
    rcases (writes contact).mp member with rfl | ⟨old, _⟩
    · exact absurd living gone
    · exact sound.erased contact old gone

theorem IdentitiesSound.empty : IdentitiesSound Table.empty where
  distinct _ member := by cases member
  erased _ member := by cases member

theorem IdentitiesSound.insert (sound : IdentitiesSound db.contacts) (inserted : insertContact db written = .ok next)
    (living : written.anonymizedAt = none) : IdentitiesSound next.contacts := by
  obtain ⟨fresh, free, rfl⟩ := insertContact_eq_ok.mp inserted
  exact sound.write (writes_insert fresh) free living

theorem IdentitiesSound.rewrite {source : String} (sound : IdentitiesSound db.contacts)
    (stored : db.contacts.find? existing.id = some existing) (living : existing.anonymizedAt = none)
    (free : uniqueViolation db.contacts (assignColumns written existing) = none) :
    IdentitiesSound (writeContact db existing written source).contacts :=
  sound.write (writes_writeContact stored) free living

theorem IdentitiesSound.withdraw (sound : IdentitiesSound db.contacts) (withdrawn : Withdrawn platform db next) :
    IdentitiesSound next.contacts := by
  apply sound.forget
  intro contact member
  obtain ⟨old, found, lowered⟩ := withdrawn.rel_find? (Table.find?_of_mem member)
  have columns := lowered.columns
  refine ⟨old, Table.mem_of_find? found, ?_⟩
  rw [← columns]
  exact ⟨rfl, rfl, .inl rfl, .inl rfl, .inl rfl⟩

theorem IdentitiesSound.step {request : ContactRequest} (sound : IdentitiesSound db.contacts)
    (taken : contactStep platform boundary db request = some next) : IdentitiesSound next.contacts := by
  cases stepped taken with
  | withdrawn _ withdrawn => exact sound.withdraw withdrawn
  | elsewhere _ contacts _ _ =>
    rw [contacts]
    exact sound
  | inserted _ workspaceId newId input properties inserted => exact sound.insert inserted rfl
  | rewritten existing source allowed =>
    obtain ⟨stored, living⟩ := stored_of_granted allowed
    apply sound.rewrite stored living
    rw [assignColumns_rewritten]
    exact unique_of_granted allowed

end Soundness

section Upsert

variable {platform : Platform} {db after : Database} {workspaceId : WorkspaceId} {newId id : ContactId}
  {input : UpsertContactIdentityInput} {existing contact : Contact} {result : UpsertContactIdentityResult}

theorem free_of_matched (sound : IdentitiesSound db.contacts)
    (matched : matchIdentity db.contacts workspaceId input.externalId input.email = some existing) :
    uniqueViolation db.contacts (updatedContact db.contacts existing input) = none := by
  obtain ⟨stored, here, living⟩ := stored_of_matchIdentity matched
  have own := uniqueViolation_eq_none.mp (sound.distinct existing (Table.mem_of_find? stored))
  apply uniqueViolation_eq_none.mpr
  intro other member differs same
  have apart := own other member differs same
  have workspace : other.workspaceId = existing.workspaceId := same
  have live : ∀ {value : String}, other.externalId = some value ∨ other.email = some value →
      Live db.contacts workspaceId other := by
    intro value holds
    refine ⟨member, workspace.trans here, ?_⟩
    by_contra gone
    obtain ⟨noExternalId, noEmail⟩ := sound.erased other member gone
    rw [noExternalId, noEmail] at holds
    rcases holds with holds | holds <;> cases holds
  constructor
  · intro value named again
    rw [externalId_updatedContact] at named
    split at named
    · next attaches =>
      -- an external id is attached only when the lookup by it found nobody
      rw [attachesExternalId, here, Bool.and_eq_true, Bool.and_eq_true, Option.isNone_iff_eq_none,
        truthy_eq_true] at attaches
      obtain ⟨⟨unfound, _⟩, value', given', nonempty⟩ := attaches
      obtain rfl : value = value' := Option.some.inj (named.symm.trans given')
      rw [findByExternalId_eq, findBy_eq_none] at unfound
      exact unfound value (given_eq_some.mpr ⟨named, nonempty⟩) other (live (.inl again)) again
    · exact apart.1 value named again
  · intro value named again
    rcases @email_updatedContact db input existing with kept | ⟨email, _, _, free, changed⟩
    · exact apart.2 value (kept.symm.trans named) again
    · obtain rfl : email = value := Option.some.inj (changed.symm.trans named)
      rw [here] at free
      exact not_taken_iff.mp free other (live (.inr again)) differs again

def UpdatesExactly (platform : Platform) (db : Database) (workspaceId : WorkspaceId) (newId : ContactId)
    (input : UpsertContactIdentityInput) (id : ContactId) : Prop :=
  ∃ result after, upsertContactByIdentity platform db workspaceId newId input = .ok (result, after) ∧
    result.contactId = id ∧ result.created = false ∧
      (∃ existing, db.contacts.find? id = some existing ∧
        after.contacts.find? id = some (updatedContact db.contacts existing input)) ∧
        ∀ other, other ≠ id → after.contacts.find? other = db.contacts.find? other

theorem updatesExactly_iff (sound : IdentitiesSound db.contacts) :
    findContactIdByIdentity db.contacts workspaceId input.externalId input.email = some id ↔
      UpdatesExactly platform db workspaceId newId input id := by
  rw [findContactIdByIdentity, Option.map_eq_some_iff]
  constructor
  · rintro ⟨existing, matched, rfl⟩
    obtain ⟨stored, _, _⟩ := stored_of_matchIdentity matched
    have free := free_of_matched sound matched
    refine ⟨_, _, upsert_matched matched free, rfl, rfl, ⟨existing, stored, ?_⟩, ?_⟩
    · rw [find?_writeContact stored, if_pos rfl]
      rfl
    · intro other differs
      rw [find?_writeContact stored, if_neg differs]
  · rintro ⟨result, after, upserted, rfl, updated, _, _⟩
    rcases upserted_cases upserted with ⟨_, rfl, _⟩ | ⟨existing, matched, here, _, _⟩
    · cases updated
    · exact ⟨existing, matched, here.symm⟩

def propertiesUnder (contacts : Table Contact.id) (id : ContactId) (key : String) : Properties :=
  ((contacts.find? id).elim [] Contact.properties).filter fun property => property.1 == key

theorem filter_stripReservedPropertyKeys {key : String} (reserved : key ∈ reservedContactPropertyKeys)
    (properties : Option Properties) :
    (stripReservedPropertyKeys properties).filter (fun property => property.1 == key) = [] := by
  apply List.filter_eq_nil_iff.mpr
  intro property member same
  obtain ⟨_, allowed⟩ := List.mem_filter.mp member
  rw [beq_iff_eq] at same
  rw [same, List.contains_iff_mem.mpr reserved] at allowed
  cases allowed

theorem filter_spreadProperties {existing incoming : Properties} {key : String}
    (absent : incoming.filter (fun property => property.1 == key) = []) :
    (spreadProperties existing incoming).filter (fun property => property.1 == key) =
      existing.filter fun property => property.1 == key := by
  rw [spreadProperties, List.filter_append, absent, List.append_nil, List.filter_filter]
  apply List.filter_congr
  intro property _
  by_cases same : property.1 = key
  · have unmatched : (incoming.any fun other => other.1 == property.1) = false := by
      rw [List.any_eq_false]
      intro other member
      rw [same]
      exact List.filter_eq_nil_iff.mp absent other member
    rw [unmatched, Bool.not_false, Bool.and_true]
  · rw [beq_false_of_ne same, Bool.false_and]

/-- `anchored` is about ids that are not empty: an empty one counts as none and is written over. -/
structure UpsertKeeps (before after : Table Contact.id) (id : ContactId) : Prop where
  sound : IdentitiesSound after
  others : ∀ other, other ≠ id → after.find? other = before.find? other
  anchored : ∀ contact, before.find? id = some contact → truthy contact.externalId = true →
    ∃ later, after.find? id = some later ∧ later.externalId = contact.externalId
  erased : ∀ contact, before.find? contact.id = some contact → contact.anonymizedAt ≠ none →
    contact.id ≠ id ∧ after.find? contact.id = some contact
  unreserved : ∀ key ∈ reservedContactPropertyKeys, propertiesUnder after id key = propertiesUnder before id key

theorem keeps_created (sound : IdentitiesSound db.contacts)
    (inserted : insertContact db (newContact platform db.suppressions workspaceId newId input
      (stripReservedPropertyKeys input.properties)) = .ok after) :
    UpsertKeeps db.contacts after.contacts newId := by
  have fresh : db.contacts.find? newId = none := (insertContact_eq_ok.mp inserted).1
  have elsewhere : ∀ other, other ≠ newId → after.contacts.find? other = db.contacts.find? other := by
    intro other differs
    rw [find?_insertContact inserted]
    exact if_neg differs
  exact {
    sound := sound.insert inserted rfl
    others := elsewhere
    anchored := by
      intro contact found
      cases fresh.symm.trans found
    erased := by
      intro contact found _
      have differs : contact.id ≠ newId := by
        intro same
        rw [same, fresh] at found
        cases found
      exact ⟨differs, (elsewhere contact.id differs).trans found⟩
    unreserved := by
      intro key reserved
      have here : after.contacts.find? newId = some _ := (find?_insertContact inserted).trans (if_pos rfl)
      rw [propertiesUnder, propertiesUnder, fresh, here]
      exact filter_stripReservedPropertyKeys reserved input.properties }

theorem keeps_updated (sound : IdentitiesSound db.contacts)
    (matched : matchIdentity db.contacts workspaceId input.externalId input.email = some existing) {source : String} :
    UpsertKeeps db.contacts (writeContact db existing (upsertedContact db.contacts existing input) source).contacts
      existing.id := by
  obtain ⟨stored, _, living⟩ := stored_of_matchIdentity matched
  have elsewhere : ∀ other, other ≠ existing.id →
      (writeContact db existing (upsertedContact db.contacts existing input) source).contacts.find? other =
        db.contacts.find? other := by
    intro other differs
    rw [find?_writeContact stored, if_neg differs]
  have here : (writeContact db existing (upsertedContact db.contacts existing input) source).contacts.find?
      existing.id = some (updatedContact db.contacts existing input) := by
    rw [find?_writeContact stored, if_pos rfl]
    rfl
  exact {
    sound := sound.rewrite stored living (free_of_matched sound matched)
    others := elsewhere
    anchored := by
      intro contact found set
      obtain rfl : existing = contact := Option.some.inj (stored.symm.trans found)
      refine ⟨_, here, ?_⟩
      rw [externalId_updatedContact, attachesExternalId, set, if_neg (by simp)]
    erased := by
      intro contact found gone
      have differs : contact.id ≠ existing.id := by
        intro same
        rw [same, stored, Option.some.injEq] at found
        rw [← found] at gone
        exact gone living
      exact ⟨differs, (elsewhere contact.id differs).trans found⟩
    unreserved := by
      intro key reserved
      rw [propertiesUnder, propertiesUnder, here, stored]
      exact filter_spreadProperties (filter_stripReservedPropertyKeys reserved input.properties) }

theorem keeps_of_upsert (sound : IdentitiesSound db.contacts)
    (upserted : upsertContactByIdentity platform db workspaceId newId input = .ok (result, after)) :
    UpsertKeeps db.contacts after.contacts result.contactId := by
  rcases upserted_cases upserted with ⟨_, rfl, inserted⟩ | ⟨existing, matched, here, _, rfl⟩
  · exact keeps_created sound inserted
  · rw [here]
    exact keeps_updated sound matched

end Upsert

section Runs

variable {platform : Platform} {boundary : Boundary} {store after : ErasureStore}

theorem IdentitiesSound.delete {now : Timestamp} {workspaceId : WorkspaceId} {id : ContactId}
    {erasureRecordId : ErasureRecordId} (sound : IdentitiesSound store.db.contacts)
    (deleted : deleteContact platform store now workspaceId id erasureRecordId = some after) :
    IdentitiesSound after.db.contacts := by
  unfold deleteContact at deleted
  split at deleted
  · cases deleted
    exact sound
  · split at deleted
    · cases deleted
      exact sound
    · split at deleted
      · cases deleted
      · cases deleted
        apply sound.forget
        intro contact member
        obtain ⟨old, stored, rfl⟩ := List.mem_map.mp member
        refine ⟨old, stored, ?_⟩
        split
        · exact ⟨rfl, rfl, .inr rfl, .inr rfl, .inr ⟨rfl, rfl⟩⟩
        · exact ⟨rfl, rfl, .inl rfl, .inl rfl, .inl rfl⟩

theorem IdentitiesSound.arrive {arrival : Arrival} (sound : IdentitiesSound store.db.contacts)
    (arrived : Erasure.arrive platform boundary store arrival = some after) : IdentitiesSound after.db.contacts := by
  cases arrival with
  | deleteContact now workspaceId id erasureRecordId => exact sound.delete arrived
  | ingest newId job =>
    cases arrived
    unfold processEventIngestJob
    split
    · exact sound
    · split
      · exact sound
      · next result db upserted => exact (keeps_of_upsert sound upserted).sound
  | webhookRows workspaceId rows =>
    simp only [Erasure.arrive] at arrived
    split at arrived <;> (cases arrived; exact sound)
  | dispatch send =>
    cases arrived
    exact sound
  | contacts request =>
    obtain ⟨_, db, taken, rfl⟩ := arrive_contacts arrived
    exact sound.step taken

theorem contacts_scrubTurn {ids : SendIdScheme} {id : Nat} {worker worker' : ScrubWorker} {choice : ScrubTurn}
    (turned : scrubTurn ids id store worker choice = some (after, worker')) :
    after.db.contacts = store.db.contacts := by
  unfold scrubTurn at turned
  split at turned
  case h_4 job table cursor =>
    cases turned
    cases table <;> rfl
  case h_12 => cases turned
  all_goals
    cases turned
    rfl

/-- Whatever writes contacts, in any order, their identities stay sound. -/
theorem identitiesSound_run {start final : ErasureThreads} {turns : List (Turn ScrubTurn Arrival)}
    (sound : IdentitiesSound start.shared.db.contacts)
    (ran : run (erasureStep platform boundary) start turns = some final) :
    IdentitiesSound final.shared.db.contacts := by
  have preserved : ∀ threads turn next, IdentitiesSound threads.shared.db.contacts →
      erasureStep platform boundary threads turn = some next → IdentitiesSound next.shared.db.contacts := by
    intro threads turn next holds taken
    cases turn with
    | outside event =>
      obtain ⟨shared, arrived, rfl⟩ := interleave_outside.mp taken
      exact holds.arrive arrived
    | thread id choice =>
      obtain ⟨shared, own, turned, rfl⟩ := interleave_thread.mp taken
      show IdentitiesSound shared.db.contacts
      rw [contacts_scrubTurn turned]
      exact holds
  exact @invariant_of_every_run _ _ _ (fun threads => IdentitiesSound threads.shared.db.contacts) preserved
    start final turns sound ran

end Runs

/-- The lookup finds a contact exactly where the upsert updates it and nobody else, and every upsert keeps the
identities sound. -/
theorem lookup_agrees_with_upsert (platform : Platform) (db : Database) (workspaceId : WorkspaceId)
    (newId : ContactId) (input : UpsertContactIdentityInput) (sound : IdentitiesSound db.contacts) :
    (∀ id, findContactIdByIdentity db.contacts workspaceId input.externalId input.email = some id ↔
      UpdatesExactly platform db workspaceId newId input id) ∧
    ∀ result after, upsertContactByIdentity platform db workspaceId newId input = .ok (result, after) →
      UpsertKeeps db.contacts after.contacts result.contactId :=
  ⟨fun _ => updatesExactly_iff sound, fun _ _ upserted => keeps_of_upsert sound upserted⟩

instance (contacts : Table Contact.id) : Decidable (IdentitiesSound contacts) :=
  decidable_of_iff ((∀ contact ∈ contacts.rows, uniqueViolation contacts contact = none) ∧
      ∀ contact ∈ contacts.rows, contact.anonymizedAt ≠ none → contact.externalId = none ∧ contact.email = none)
    ⟨fun both => ⟨both.1, both.2⟩, fun sound => ⟨sound.distinct, sound.erased⟩⟩

def threeContacts : Database where
  contacts :=
    ((Table.empty.insert { id := 1, workspaceId := 1, externalId := some "crm-1", email := some "a@x.io" }).insert
      { id := 2, workspaceId := 1, email := some "b@x.io" }).insert
        { id := 3, workspaceId := 1, email := none, anonymizedAt := some 5 }

/-- An upsert by the second one's email adopts the external id that comes with it. -/
theorem adoption_agrees : ∃ input : UpsertContactIdentityInput, IdentitiesSound threeContacts.contacts ∧
    findContactIdByIdentity threeContacts.contacts 1 input.externalId input.email = some 2 ∧
      UpdatesExactly pairedPlatform threeContacts 1 9 input 2 ∧
      ((upsertContactByIdentity pairedPlatform threeContacts 1 9 input).toOption.bind fun written =>
        (written.2.contacts.find? 2).bind Contact.externalId) = some "crm-2" := by
  have sound : IdentitiesSound threeContacts.contacts := by decide +kernel
  refine ⟨{ externalId := some "crm-2", email := some "b@x.io" }, sound, by decide +kernel, ?_, by decide +kernel⟩
  exact ((lookup_agrees_with_upsert pairedPlatform threeContacts 1 9 _ sound).1 2).mp (by decide +kernel)

/-- Contact 2 is erased, and its address comes in again. -/
def erasedAndBack : List (Turn ScrubTurn Arrival) :=
  [.outside (.deleteContact 6 1 2 70), .outside (.contacts (.upsert 1 9 { email := some "b@x.io" })),
    .thread 0 (.deliver 1 70),
    .outside (.contacts (.upsert 1 10 { externalId := some "crm-1", email := some "b@x.io" }))]

theorem erasedAndBack_sound : ∃ final, run (erasureStep pairedPlatform asciiBoundary)
      { shared := { db := threeContacts }, own := fun _ => .idle } erasedAndBack = some final ∧
    findContactIdByIdentity final.shared.db.contacts 1 none (some "b@x.io") = some 9 ∧
    IdentitiesSound final.shared.db.contacts := by
  have runs : (run (erasureStep pairedPlatform asciiBoundary)
      { shared := { db := threeContacts }, own := fun _ => .idle } erasedAndBack).any (fun final =>
        decide (findContactIdByIdentity final.shared.db.contacts 1 none (some "b@x.io") = some 9)) = true := by
    decide +kernel
  obtain ⟨final, ran, found⟩ := Option.any_eq_true _ _ |>.mp runs
  have sound : IdentitiesSound threeContacts.contacts := by decide +kernel
  exact ⟨final, ran, of_decide_eq_true found, identitiesSound_run sound ran⟩

end LocalCrm.Contacts
