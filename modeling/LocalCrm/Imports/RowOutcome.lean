import LocalCrm.Imports.DryRun

/-! What the contact of one row does to the table: the cases, and when the database takes it. -/

set_option autoImplicit false

namespace LocalCrm.Imports

open Library Contacts Delivery

def Live (contacts : Table Contact.id) (workspaceId : WorkspaceId) (contact : Contact) : Prop :=
  contact ∈ contacts.rows ∧ contact.workspaceId = workspaceId ∧ contact.anonymizedAt = none

section Lookups

variable {contacts : Table Contact.id} {workspaceId : WorkspaceId} {contact other : Contact} {value : String}
  {column : Contact → Option String} {named externalId email : Option String}

/-- Both lookups by identity are this one, on a column each. -/
def findBy (column : Contact → Option String) (contacts : Table Contact.id) (workspaceId : WorkspaceId)
    (value : Option String) : Option Contact :=
  (given value).bind fun value =>
    contacts.rows.find? fun contact =>
      contact.workspaceId == workspaceId && column contact == some value && contact.anonymizedAt.isNone

theorem findByExternalId_eq :
    findByExternalId contacts workspaceId named = findBy Contact.externalId contacts workspaceId named := rfl

theorem truthy_eq_true : truthy named = true ↔ ∃ value, named = some value ∧ value ≠ "" := by
  cases named <;> simp [truthy]

theorem live_of_findBy (found : findBy column contacts workspaceId named = some contact) :
    ∃ value, given named = some value ∧ Live contacts workspaceId contact ∧ column contact = some value := by
  obtain ⟨value, nonempty, first⟩ := Option.bind_eq_some_iff.mp found
  have passed := List.find?_some first
  simp only [Bool.and_eq_true, beq_iff_eq, Option.isNone_iff_eq_none] at passed
  exact ⟨value, nonempty, ⟨List.mem_of_find?_eq_some first, passed.1.1, passed.2⟩, passed.1.2⟩

theorem findBy_eq_none : findBy column contacts workspaceId named = none ↔
    ∀ value, given named = some value → ∀ contact, Live contacts workspaceId contact → column contact ≠ some value := by
  unfold findBy
  rw [Option.bind_eq_none_iff]
  constructor
  · intro unfound value nonempty contact live holds
    have passed := List.find?_eq_none.mp (unfound value nonempty) contact live.1
    simp [live.2.1, live.2.2, holds] at passed
  · intro nobody value nonempty
    apply List.find?_eq_none.mpr
    intro contact stored passed
    simp only [Bool.and_eq_true, beq_iff_eq, Option.isNone_iff_eq_none] at passed
    exact nobody value nonempty contact ⟨stored, passed.1.1, passed.2⟩ passed.1.2

theorem live_of_matchIdentity (matched : matchIdentity contacts workspaceId externalId email = some contact) :
    Live contacts workspaceId contact := by
  obtain ⟨stored, here, living⟩ := stored_of_matchIdentity matched
  exact ⟨Table.mem_of_find? stored, here, living⟩

theorem matchIdentity_eq_none : matchIdentity contacts workspaceId externalId email = none ↔
    findByExternalId contacts workspaceId externalId = none ∧ findByEmail contacts workspaceId email = none := by
  rw [matchIdentity, Option.or_eq_none_iff]

theorem isEmailTaken_of_live (live : Live contacts workspaceId other) (holds : other.email = some value)
    (differs : other.id ≠ contact.id) : isEmailTaken contacts workspaceId value (some contact.id) = true := by
  apply List.any_eq_true.mpr
  refine ⟨other, live.1, ?_⟩
  simp [live.2.1, live.2.2, holds, differs]

theorem not_taken_iff : isEmailTaken contacts workspaceId value (some contact.id) = false ↔
    ∀ other, Live contacts workspaceId other → other.id ≠ contact.id → other.email ≠ some value := by
  constructor
  · intro free other live differs holds
    rw [isEmailTaken_of_live live holds differs] at free
    cases free
  · intro nobody
    apply Bool.eq_false_of_not_eq_true
    intro taken
    obtain ⟨other, stored, passed⟩ := List.any_eq_true.mp taken
    simp only [Bool.and_eq_true, beq_iff_eq, Option.isNone_iff_eq_none, Option.all_some, bne_iff_ne] at passed
    exact nobody other ⟨stored, passed.1.1.1, passed.1.2⟩ passed.2 passed.1.1.2

end Lookups

section Constraints

variable {contacts : Table Contact.id} {row first second : Contact} {workspaceId : WorkspaceId} {value : String}

theorem uniqueViolation_eq_none : uniqueViolation contacts row = none ↔
    ∀ other ∈ contacts.rows, other.id ≠ row.id → other.workspaceId = row.workspaceId →
      (∀ value, row.externalId = some value → other.externalId ≠ some value) ∧
        ∀ value, row.email = some value → other.email ≠ some value := by
  have column : ∀ mine theirs : Option String, (mine.isSome && theirs == mine) = false ↔
      ∀ value, mine = some value → theirs ≠ some value := by
    intro mine theirs
    cases mine with
    | none | some => simp
  -- SQL compares no null: a missing value collides with nothing
  unfold uniqueViolation
  rw [ite_eq_right_iff]
  constructor
  · intro none other stored differs same
    have passed : ¬ _ := fun any => by cases none any
    rw [List.any_eq_true] at passed
    rw [← column, ← column, ← Bool.or_eq_false_iff]
    apply Bool.eq_false_of_not_eq_true
    intro shared
    apply passed
    refine ⟨other, stored, ?_⟩
    rw [shared]
    simp [differs, same]
  · intro apart any
    obtain ⟨other, stored, passed⟩ := List.any_eq_true.mp any
    rw [Bool.and_eq_true, Bool.and_eq_true, bne_iff_ne, beq_iff_eq] at passed
    have both := apart other stored passed.1.1 passed.1.2
    rw [← column, ← column, ← Bool.or_eq_false_iff] at both
    exact absurd (both.symm.trans passed.2) Bool.false_ne_true

end Constraints

section Outcomes

variable {site : Site} {db after : Database} {newId : ContactId} {duplicatePolicy : DuplicatePolicy}
  {input : UpsertContactIdentityInput} {existing contact : Contact} {status : RowStatus}

def Indexable (storage : Storage) (contact : Contact) : Prop :=
  contact.externalId.all storage.indexable = true ∧ contact.email.all storage.indexable = true

def createdContact (site : Site) (db : Database) (newId : ContactId) (input : UpsertContactIdentityInput) : Contact :=
  newContact site.platform db.suppressions site.workspaceId newId input (stripReservedPropertyKeys input.properties)

def updatedContact (contacts : Table Contact.id) (existing : Contact) (input : UpsertContactIdentityInput) : Contact :=
  assignColumns (upsertedContact contacts existing input) existing

def keysFit (storage : Storage) (input : UpsertContactIdentityInput) : Bool :=
  (stripReservedPropertyKeys input.properties).all fun property => storage.indexable property.1

structure Accepts (storage : Storage) (contacts : Table Contact.id) (contact : Contact)
    (input : UpsertContactIdentityInput) : Prop where
  free : uniqueViolation contacts contact = none
  fits : Indexable storage contact
  keys : keysFit storage input = true

theorem externalId_updatedContact {contacts : Table Contact.id} :
    (updatedContact contacts existing input).externalId =
      if attachesExternalId contacts existing input then input.externalId else existing.externalId := rfl

theorem anchorless_of_attaches {contacts : Table Contact.id}
    (attached : attachesExternalId contacts existing input = true) : truthy existing.externalId = false := by
  simp only [attachesExternalId, Bool.and_eq_true, Bool.not_eq_true'] at attached
  exact attached.1.2

theorem email_updatedContact :
    (updatedContact db.contacts existing input).email = existing.email ∨
      ∃ email, given input.email = some email ∧ existing.email ≠ some email ∧
        isEmailTaken db.contacts existing.workspaceId email (some existing.id) = false ∧
          (updatedContact db.contacts existing input).email = some email := by
  have assigned : (updatedContact db.contacts existing input).email =
      if emailChangeSkipped db.contacts existing input then existing.email
      else (given input.email).or existing.email := rfl
  rw [assigned]
  by_cases skipped : emailChangeSkipped db.contacts existing input = true
  · rw [if_pos skipped]
    exact .inl rfl
  · rw [if_neg skipped]
    cases brought : given input.email with
    | none => exact .inl rfl
    | some email =>
      by_cases same : existing.email = some email
      · exact .inl same.symm
      · refine .inr ⟨email, rfl, same, ?_, rfl⟩
        simpa [emailChangeSkipped, changesEmail, brought, same] using skipped

theorem uniqueViolation_updatedContact :
    uniqueViolation db.contacts (updatedContact db.contacts existing input) =
      uniqueViolation db.contacts (upsertedContact db.contacts existing input) := rfl

theorem fitsIndexes_of_find? (found : db.contacts.find? newId = some contact) :
    fitsIndexes site.storage db.contacts newId input = true ↔
      Indexable site.storage contact ∧ keysFit site.storage input = true := by
  rw [fitsIndexes, found, Option.all_some, Bool.and_eq_true, Bool.and_eq_true]
  rfl

theorem storeContact_refused {refusal : ContactError}
    (refused : applyCsvRow site.platform db site.workspaceId newId duplicatePolicy input = .error refusal) :
    storeContact site db newId duplicatePolicy input ≠ .ok (status, after) := by
  unfold storeContact
  rw [refused]
  intro stored
  cases stored

theorem storeContact_written {result : UpsertContactIdentityResult} {written : Database}
    (applied : applyCsvRow site.platform db site.workspaceId newId duplicatePolicy input = .ok (some result, written))
    (found : written.contacts.find? result.contactId = some contact) :
    storeContact site db newId duplicatePolicy input = .ok (status, after) ↔
      (Indexable site.storage contact ∧ keysFit site.storage input = true) ∧
        status = (if result.created then .created else .updated) ∧ after = written := by
  have fits : fitsIndexes site.storage written.contacts result.contactId input = true ↔ _ := fitsIndexes_of_find? found
  have chosen : storeContact site db newId duplicatePolicy input =
      if fitsIndexes site.storage written.contacts result.contactId input then
        .ok (if result.created then .created else .updated, written)
      else .error .oversized := by
    unfold storeContact
    rw [applied]
  rw [chosen, ← fits]
  by_cases fit : fitsIndexes site.storage written.contacts result.contactId input = true
  · rw [and_iff_right fit, if_pos fit, Except.ok.injEq, Prod.mk.injEq, @eq_comm _ _ status, @eq_comm _ _ after]
  · constructor
    · intro stored
      rw [if_neg fit] at stored
      cases stored
    · intro accepted
      exact absurd accepted.1 fit

theorem storeContact_unmatched
    (unmatched : matchIdentity db.contacts site.workspaceId input.externalId input.email = none)
    (fresh : db.contacts.find? newId = none) :
    storeContact site db newId duplicatePolicy input = .ok (status, after) ↔
      Accepts site.storage db.contacts (createdContact site db newId input) input ∧ status = .created ∧
        after = { db with contacts := db.contacts.insert (createdContact site db newId input) } := by
  have upserted := @upsert_unmatched db site.workspaceId site.platform newId input unmatched
  have unskipped : applyCsvRow site.platform db site.workspaceId newId duplicatePolicy input =
      (upsertContactByIdentity site.platform db site.workspaceId newId input).map
        fun written : UpsertContactIdentityResult × Database => (some written.1, written.2) := by
    unfold applyCsvRow findContactIdByIdentity
    rw [unmatched, if_neg (by simp)]
  -- the insert is refused by one of the unique constraints, or by what an index or `jsonb` takes
  cases free : uniqueViolation db.contacts (createdContact site db newId input) with
  | some refusal =>
    have refused : insertContact db (createdContact site db newId input) = .error refusal := by
      unfold insertContact
      rw [if_neg (by simp [createdContact, newContact, fresh]), free]
    have applied : applyCsvRow site.platform db site.workspaceId newId duplicatePolicy input = .error refusal := by
      rw [unskipped, upserted]
      exact congrArg _ (congrArg _ refused)
    constructor
    · intro stored
      exact absurd stored (storeContact_refused applied)
    · intro accepted
      rw [accepted.1.free] at free
      cases free
  | none =>
    have inserted : insertContact db (createdContact site db newId input) =
        .ok { db with contacts := db.contacts.insert (createdContact site db newId input) } :=
      insertContact_eq_ok.mpr ⟨fresh, free, rfl⟩
    have applied : applyCsvRow site.platform db site.workspaceId newId duplicatePolicy input =
        .ok (some { contactId := newId, created := true },
          { db with contacts := db.contacts.insert (createdContact site db newId input) }) := by
      rw [unskipped, upserted]
      exact congrArg _ (congrArg _ inserted)
    have found : (db.contacts.insert (createdContact site db newId input)).find? newId =
        some (createdContact site db newId input) :=
      (find?_insertContact inserted).trans (if_pos rfl)
    rw [storeContact_written applied found]
    constructor
    · intro stored
      exact ⟨⟨free, stored.1.1, stored.1.2⟩, stored.2⟩
    · intro accepted
      exact ⟨⟨accepted.1.fits, accepted.1.keys⟩, accepted.2⟩

theorem storeContact_matched
    (matched : matchIdentity db.contacts site.workspaceId input.externalId input.email = some existing) :
    storeContact site db newId .update input = .ok (status, after) ↔
      Accepts site.storage db.contacts (updatedContact db.contacts existing input) input ∧ status = .updated ∧
        after = writeContact db existing (upsertedContact db.contacts existing input) "csv_or_api_upsert" := by
  obtain ⟨stored, _, _⟩ := stored_of_matchIdentity matched
  cases free : uniqueViolation db.contacts (upsertedContact db.contacts existing input) with
  | some refusal =>
    have applied : applyCsvRow site.platform db site.workspaceId newId .update input = .error refusal := by
      rw [applyCsvRow_update, upsert_refused matched free]
      rfl
    constructor
    · intro stored
      exact absurd stored (storeContact_refused applied)
    · intro accepted
      rw [← uniqueViolation_updatedContact, accepted.1.free] at free
      cases free
  | none =>
    have applied := congrArg
      (Except.map fun (written : UpsertContactIdentityResult × Database) => (some written.1, written.2))
      (@upsert_matched db existing site.workspaceId site.platform newId input matched free)
    rw [← applyCsvRow_update] at applied
    have found : (writeContact db existing (upsertedContact db.contacts existing input)
        "csv_or_api_upsert").contacts.find? existing.id = some (updatedContact db.contacts existing input) := by
      rw [find?_writeContact stored, if_pos rfl]
      rfl
    rw [storeContact_written applied found]
    constructor
    · intro stored
      exact ⟨⟨free, stored.1.1, stored.1.2⟩, stored.2⟩
    · intro accepted
      exact ⟨⟨accepted.1.fits, accepted.1.keys⟩, accepted.2⟩

theorem storeContact_skipped
    (matched : matchIdentity db.contacts site.workspaceId input.externalId input.email = some existing) :
    storeContact site db newId .skip input = .ok (.skipped, db) := by
  unfold storeContact
  rw [applyCsvRow_skip, matched]

end Outcomes

end LocalCrm.Imports
