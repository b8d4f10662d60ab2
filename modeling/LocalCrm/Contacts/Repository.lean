import LocalCrm.Contacts.Boundary
import LocalCrm.Webhooks.SideEffects

/-! Contacts: the identity lookups, the prioritised upsert and the create and update requests.

Every function here runs inside one transaction.
-/

set_option autoImplicit false

namespace LocalCrm.Contacts

open Library Delivery Webhooks

def given (text : Option String) : Option String := text.filter fun value => !value.isEmpty

theorem given_eq_some {text : Option String} {value : String} :
    given text = some value ↔ text = some value ∧ value ≠ "" := by
  simp [given, Option.filter_eq_some_iff]

section Lookups

def isEmailSuppressed (platform : Platform) (suppressions : Table Suppression.key) (workspaceId : WorkspaceId)
    (email : String) : Bool :=
  (suppressions.find? (workspaceId, platform.hashSuppressionEmail workspaceId email)).isSome

def isEmailTaken (contacts : Table Contact.id) (workspaceId : WorkspaceId) (email : String)
    (excludeContactId : Option ContactId) : Bool :=
  contacts.rows.any fun contact =>
    contact.workspaceId == workspaceId && contact.email == some email && contact.anonymizedAt.isNone &&
      excludeContactId.all fun excluded => contact.id != excluded

def findByExternalId (contacts : Table Contact.id) (workspaceId : WorkspaceId) (externalId : Option String) :
    Option Contact :=
  (given externalId).bind fun externalId =>
    contacts.rows.find? fun contact =>
      contact.workspaceId == workspaceId && contact.externalId == some externalId && contact.anonymizedAt.isNone

def findByEmail (contacts : Table Contact.id) (workspaceId : WorkspaceId) (email : Option String) :
    Option Contact :=
  (given email).bind fun email =>
    contacts.rows.find? fun contact =>
      contact.workspaceId == workspaceId && contact.email == some email && contact.anonymizedAt.isNone

/-- The external id decides; the email is tried only when it names nobody. -/
def matchIdentity (contacts : Table Contact.id) (workspaceId : WorkspaceId) (externalId email : Option String) :
    Option Contact :=
  (findByExternalId contacts workspaceId externalId).or (findByEmail contacts workspaceId email)

def findContactIdByIdentity (contacts : Table Contact.id) (workspaceId : WorkspaceId)
    (externalId email : Option String) : Option ContactId :=
  (matchIdentity contacts workspaceId externalId email).map Contact.id

end Lookups

section Properties

def reservedContactPropertyKeys : List String :=
  ["id", "workspace_id", "external_id", "email", "subscription_status"]

def stripReservedPropertyKeys (properties : Option Properties) : Properties :=
  (properties.getD []).filter fun property => !reservedContactPropertyKeys.contains property.1

/-- Object spread: the later object wins on a shared key. -/
def spreadProperties (existing incoming : Properties) : Properties :=
  (existing.filter fun property => !incoming.any fun other => other.1 == property.1) ++ incoming

end Properties

inductive ContactConflictCode where
  | emailTaken
  | invalidStatusTransition
  | cannotSetSuppressed
  | contactAnonymized
  deriving DecidableEq, Repr

inductive ContactError where
  | conflict (message : String) (code : ContactConflictCode)
  | invalidTimezone (message : String)
  | uniqueViolation
  deriving DecidableEq, Repr

/-- The two unique constraints; null columns are distinct from each other. -/
def uniqueViolation (contacts : Table Contact.id) (row : Contact) : Option ContactError :=
  if contacts.rows.any fun other =>
      other.id != row.id && other.workspaceId == row.workspaceId &&
        ((row.externalId.isSome && other.externalId == row.externalId) ||
          (row.email.isSome && other.email == row.email))
  then some .uniqueViolation
  else none

/-- The generated id is new to the table, as a primary key has to be. -/
def insertContact (db : Database) (row : Contact) : Except ContactError Database :=
  if (db.contacts.find? row.id).isSome then .error .uniqueViolation
  else
    match uniqueViolation db.contacts row with
    | some refusal => .error refusal
    | none => .ok { db with contacts := db.contacts.insert row }

def assignColumns (next contact : Contact) : Contact :=
  { contact with
    externalId := next.externalId
    email := next.email
    profile := next.profile
    tags := next.tags
    properties := next.properties
    subscriptionStatus := next.subscriptionStatus }

theorem assignColumns_id (next contact : Contact) : (assignColumns next contact).id = contact.id := rfl

/-- The update statement, with a history row when the status changed. -/
def writeContact (db : Database) (existing next : Contact) (source : String) : Database :=
  let written :=
    { db with
      contacts := db.contacts.update
        (fun contact => contact.workspaceId == existing.workspaceId && contact.id == existing.id)
        (assignColumns next) (assignColumns_id next) }
  if next.subscriptionStatus ≠ existing.subscriptionStatus then
    recordSubscriptionStatusChange written
      { workspaceId := existing.workspaceId, contactId := existing.id
        oldStatus := existing.subscriptionStatus, newStatus := next.subscriptionStatus
        source, reason := none }
  else written

/-- A profile column that was given replaces the one on file. -/
def ContactProfile.mergeInto (input existing : ContactProfile) : ContactProfile where
  firstName := input.firstName.or existing.firstName
  lastName := input.lastName.or existing.lastName
  phone := input.phone.or existing.phone
  city := input.city.or existing.city
  country := input.country.or existing.country
  timezone := input.timezone.or existing.timezone

structure UpsertContactIdentityInput where
  externalId : Option String := none
  email : Option String := none
  profile : ContactProfile := {}
  tags : Option (List String) := none
  properties : Option Properties := none
  subscriptionStatus : Option SubscriptionStatus := none
  deriving DecidableEq, Repr

structure UpsertContactIdentityResult where
  contactId : ContactId
  attached : Bool := false
  emailChangeSkipped : Bool := false
  created : Bool := false
  deriving DecidableEq, Repr

/-- A create and an upsert that matches nobody insert the same columns; they differ in the properties. -/
def newContact (platform : Platform) (suppressions : Table Suppression.key) (workspaceId : WorkspaceId)
    (newId : ContactId) (input : UpsertContactIdentityInput) (properties : Properties) : Contact where
  id := newId
  workspaceId
  externalId := input.externalId
  email := input.email
  profile := input.profile
  tags := input.tags.getD []
  properties
  subscriptionStatus :=
    if (given input.email).any (isEmailSuppressed platform suppressions workspaceId) then .suppressed
    else input.subscriptionStatus.getD .subscribed

section Upsert

/-- Matched by email only, with no external id on file yet. -/
def attachesExternalId (contacts : Table Contact.id) (existing : Contact) (input : UpsertContactIdentityInput) :
    Bool :=
  (findByExternalId contacts existing.workspaceId input.externalId).isNone && !truthy existing.externalId &&
    truthy input.externalId

def changesEmail (existing : Contact) (email : Option String) : Bool :=
  email.any fun email => existing.email != some email

def emailChangeSkipped (contacts : Table Contact.id) (existing : Contact) (input : UpsertContactIdentityInput) :
    Bool :=
  changesEmail existing (given input.email) &&
    (given input.email).any fun email =>
      isEmailTaken contacts existing.workspaceId email (some existing.id)

/-- An invalid transition is skipped, not refused. -/
def upsertedStatus (existing : SubscriptionStatus) (requested : Option SubscriptionStatus) : SubscriptionStatus :=
  match existing, requested with
  | .suppressed, some .subscribed => existing
  | _, some .suppressed => existing
  | _, some requested => requested
  | _, none => existing

def upsertedContact (contacts : Table Contact.id) (existing : Contact) (input : UpsertContactIdentityInput) :
    Contact :=
  let safeProperties := stripReservedPropertyKeys input.properties
  { existing with
    externalId := if attachesExternalId contacts existing input then input.externalId else existing.externalId
    email := if emailChangeSkipped contacts existing input then existing.email
      else (given input.email).or existing.email
    profile := ContactProfile.mergeInto input.profile existing.profile
    tags := input.tags.getD existing.tags
    properties := spreadProperties existing.properties safeProperties
    subscriptionStatus := upsertedStatus existing.subscriptionStatus input.subscriptionStatus }

/-- A retry inside the transaction reads the same rows, so a violation of the constraints is final. -/
def upsertContactByIdentity (platform : Platform) (db : Database) (workspaceId : WorkspaceId)
    (newId : ContactId) (input : UpsertContactIdentityInput) :
    Except ContactError (UpsertContactIdentityResult × Database) :=
  match matchIdentity db.contacts workspaceId input.externalId input.email with
  | none =>
    (insertContact db (newContact platform db.suppressions workspaceId newId input
      (stripReservedPropertyKeys input.properties))).map fun db => ({ contactId := newId, created := true }, db)
  | some existing =>
    let next := upsertedContact db.contacts existing input
    match uniqueViolation db.contacts next with
    | some refusal => .error refusal
    | none =>
      .ok ({ contactId := existing.id
             attached := attachesExternalId db.contacts existing input
             emailChangeSkipped := emailChangeSkipped db.contacts existing input },
        writeContact db existing next "csv_or_api_upsert")

inductive DuplicatePolicy where
  | update
  | skip
  deriving DecidableEq, Repr

/-- One mapped row of a CSV import; a skipped row writes nothing. -/
def applyCsvRow (platform : Platform) (db : Database) (workspaceId : WorkspaceId) (newId : ContactId)
    (duplicatePolicy : DuplicatePolicy) (input : UpsertContactIdentityInput) :
    Except ContactError (Option UpsertContactIdentityResult × Database) :=
  if duplicatePolicy = .skip ∧
      (findContactIdByIdentity db.contacts workspaceId input.externalId input.email).isSome then
    .ok (none, db)
  else
    (upsertContactByIdentity platform db workspaceId newId input).map fun (result, db) => (some result, db)

end Upsert

section Requests

def assertValidTimezone (boundary : Boundary) (timezone : Option String) : Option ContactError :=
  match given timezone with
  | some timezone =>
    if boundary.isValidIanaTimezone timezone then none
    else some (.invalidTimezone s!"\"{timezone}\" is not a valid IANA timezone")
  | none => none

def emailTaken (email : String) : ContactError :=
  .conflict s!"Email {email} is already used by another contact in this workspace" .emailTaken

abbrev CreateContactInput := UpsertContactIdentityInput

def createContact (platform : Platform) (boundary : Boundary) (db : Database) (workspaceId : WorkspaceId)
    (newId : ContactId) (input : CreateContactInput) : Except ContactError (Contact × Database) :=
  match assertValidTimezone boundary input.profile.timezone with
  | some refusal => .error refusal
  | none =>
    if (given input.email).any fun email => isEmailTaken db.contacts workspaceId email none then
      .error (emailTaken (input.email.getD ""))
    else
      let row := newContact platform db.suppressions workspaceId newId input (input.properties.getD [])
      (insertContact db row).map fun db => (row, db)

/-- Profile columns of a patch: a null clears, an absent one keeps. -/
structure ProfilePatch where
  firstName : Option (Option String) := none
  lastName : Option (Option String) := none
  phone : Option (Option String) := none
  city : Option (Option String) := none
  country : Option (Option String) := none
  timezone : Option (Option String) := none
  deriving DecidableEq, Repr

def ProfilePatch.apply (patch : ProfilePatch) (existing : ContactProfile) : ContactProfile where
  firstName := patch.firstName.getD existing.firstName
  lastName := patch.lastName.getD existing.lastName
  phone := patch.phone.getD existing.phone
  city := patch.city.getD existing.city
  country := patch.country.getD existing.country
  timezone := patch.timezone.getD existing.timezone

structure UpdateContactInput where
  externalId : Option String := none
  email : Option String := none
  profile : ProfilePatch := {}
  tags : Option (List String) := none
  properties : Option Properties := none
  subscriptionStatus : Option SubscriptionStatus := none
  deriving DecidableEq, Repr

def transitionRefusal (existing : SubscriptionStatus) (requested : Option SubscriptionStatus) :
    Option ContactError :=
  match existing, requested with
  | .suppressed, some .subscribed =>
    some (.conflict "A suppressed contact cannot be moved back to subscribed via the ordinary update path"
      .invalidStatusTransition)
  | .suppressed, some .suppressed => none
  | _, some .suppressed =>
    some (.conflict
      "subscription_status cannot be set to suppressed directly -- only automated bounce/spam handling may do so"
      .cannotSetSuppressed)
  | _, _ => none

def patchedContact (existing : Contact) (patch : UpdateContactInput) : Contact :=
  { existing with
    email := patch.email.or existing.email
    externalId := if truthy existing.externalId then existing.externalId
      else patch.externalId.or existing.externalId
    profile := patch.profile.apply existing.profile
    tags := patch.tags.getD existing.tags
    properties := patch.properties.getD existing.properties
    subscriptionStatus := patch.subscriptionStatus.getD existing.subscriptionStatus }

/-- The checks of an update in their order; the last is the statement's own. -/
def updateRefusal (contacts : Table Contact.id) (existing : Contact) (patch : UpdateContactInput) :
    Option ContactError :=
  if existing.anonymizedAt.isSome then
    some (.conflict s!"Contact {existing.id} has been anonymized and cannot be modified" .contactAnonymized)
  else if changesEmail existing patch.email &&
      patch.email.any fun email => isEmailTaken contacts existing.workspaceId email (some existing.id) then
    some (emailTaken (patch.email.getD ""))
  else (transitionRefusal existing.subscriptionStatus patch.subscriptionStatus).or
    (uniqueViolation contacts (patchedContact existing patch))

theorem update_checked {contacts : Table Contact.id} {existing : Contact} {patch : UpdateContactInput}
    (allowed : updateRefusal contacts existing patch = none) :
    transitionRefusal existing.subscriptionStatus patch.subscriptionStatus = none ∧
      uniqueViolation contacts (patchedContact existing patch) = none := by
  unfold updateRefusal at allowed
  split at allowed
  · cases allowed
  · split at allowed
    · cases allowed
    · exact Option.or_eq_none_iff.mp allowed

def contactOf (contacts : Table Contact.id) (workspaceId : WorkspaceId) (id : ContactId) : Option Contact :=
  (contacts.find? id).filter fun contact => contact.workspaceId == workspaceId

def updateContact (boundary : Boundary) (db : Database) (workspaceId : WorkspaceId) (id : ContactId)
    (patch : UpdateContactInput) : Except ContactError (Option (Contact × Database)) :=
  match assertValidTimezone boundary patch.profile.timezone.join with
  | some refusal => .error refusal
  | none =>
    match contactOf db.contacts workspaceId id with
    | none => .ok none
    | some existing =>
      match updateRefusal db.contacts existing patch with
      | some refusal => .error refusal
      | none =>
        let next := patchedContact existing patch
        .ok (some (next, writeContact db existing next "manual_ui"))

/-- The public one-click route, once its token has been verified. -/
def unsubscribe (ids : SendIdScheme) (now : Timestamp) (db : Database) (workspaceId : WorkspaceId)
    (contactId : ContactId) (sendId : SendId) : Database :=
  let (factJustSet, campaignId, db) :=
    applyUnsubscribeWithSendFact ids db workspaceId contactId sendId now "unsubscribe_route"
  if factJustSet then countForDay now (countForCampaign db campaignId .unsubscribed) workspaceId now .unsubscribed
  else db

end Requests

section Specifications

variable {db next : Database} {contacts : Table Contact.id} {row existing target contact : Contact}
  {workspaceId : WorkspaceId} {externalId email : Option String} {id : ContactId} {source : String}

theorem insertContact_eq_ok :
    insertContact db row = .ok next ↔
      db.contacts.find? row.id = none ∧ uniqueViolation db.contacts row = none ∧
        next = { db with contacts := db.contacts.insert row } := by
  unfold insertContact
  cases stored : db.contacts.find? row.id with
  | some other => simp
  | none =>
    cases violated : uniqueViolation db.contacts row with
    | some refusal => simp
    | none => simp [eq_comm]

theorem find?_insertContact (inserted : insertContact db row = .ok next) :
    next.contacts.find? id = if id = row.id then some row else db.contacts.find? id := by
  obtain ⟨fresh, _, rfl⟩ := insertContact_eq_ok.mp inserted
  exact Table.find?_insert_fresh fresh

theorem find?_writeContact (stored : db.contacts.find? existing.id = some existing) :
    (writeContact db existing target source).contacts.find? id =
      if id = existing.id then some (assignColumns target existing) else db.contacts.find? id := by
  have looked : (writeContact db existing target source).contacts.find? id =
      (db.contacts.find? id).map fun contact =>
        if contact.workspaceId == existing.workspaceId && contact.id == existing.id then assignColumns target contact
        else contact := by
    unfold writeContact
    split <;> exact @Table.find?_update _ _ _ _ _ _ _ _ (assignColumns_id target)
  rw [looked]
  by_cases same : id = existing.id
  · rw [same, stored, if_pos rfl]
    simp
  · rw [if_neg same]
    cases other : db.contacts.find? id with
    | none => rfl
    | some contact =>
      have keyed : contact.id = id := Table.key_of_find? other
      have differs : contact.id ≠ existing.id := by rw [keyed]; exact same
      simp [differs]

theorem suppressions_writeContact :
    (writeContact db existing target source).suppressions = db.suppressions := by
  unfold writeContact
  split <;> rfl

theorem sends_writeContact : (writeContact db existing target source).sends = db.sends := by
  unfold writeContact
  split <;> rfl

theorem contactOf_eq_some :
    contactOf contacts workspaceId id = some contact ↔
      contacts.find? id = some contact ∧ contact.workspaceId = workspaceId := by
  simp only [contactOf, Option.filter_eq_some_iff, beq_iff_eq]

section Outcomes

variable {platform : Platform} {boundary : Boundary} {newId : ContactId} {input : UpsertContactIdentityInput}
  {patch : UpdateContactInput} {duplicatePolicy : DuplicatePolicy} {result : UpsertContactIdentityResult}

theorem upsert_unmatched
    (unmatched : matchIdentity db.contacts workspaceId input.externalId input.email = none) :
    upsertContactByIdentity platform db workspaceId newId input =
      (insertContact db (newContact platform db.suppressions workspaceId newId input
        (stripReservedPropertyKeys input.properties))).map fun db => ({ contactId := newId, created := true }, db) := by
  unfold upsertContactByIdentity
  rw [unmatched]

theorem upsert_refused (matched : matchIdentity db.contacts workspaceId input.externalId input.email = some existing)
    {refusal : ContactError}
    (violated : uniqueViolation db.contacts (upsertedContact db.contacts existing input) = some refusal) :
    upsertContactByIdentity platform db workspaceId newId input = .error refusal := by
  unfold upsertContactByIdentity
  rw [matched]
  simp only [violated]

theorem upsert_matched (matched : matchIdentity db.contacts workspaceId input.externalId input.email = some existing)
    (allowed : uniqueViolation db.contacts (upsertedContact db.contacts existing input) = none) :
    upsertContactByIdentity platform db workspaceId newId input =
      .ok ({ contactId := existing.id
             attached := attachesExternalId db.contacts existing input
             emailChangeSkipped := emailChangeSkipped db.contacts existing input },
        writeContact db existing (upsertedContact db.contacts existing input) "csv_or_api_upsert") := by
  unfold upsertContactByIdentity
  rw [matched]
  simp only [allowed]

theorem upserted_cases {after : Database}
    (upserted : upsertContactByIdentity platform db workspaceId newId input = .ok (result, after)) :
    (matchIdentity db.contacts workspaceId input.externalId input.email = none ∧
      result = { contactId := newId, created := true } ∧
      insertContact db (newContact platform db.suppressions workspaceId newId input
        (stripReservedPropertyKeys input.properties)) = .ok after) ∨
    ∃ existing, matchIdentity db.contacts workspaceId input.externalId input.email = some existing ∧
      result.contactId = existing.id ∧ result.created = false ∧
      after = writeContact db existing (upsertedContact db.contacts existing input) "csv_or_api_upsert" := by
  cases matched : matchIdentity db.contacts workspaceId input.externalId input.email with
  | none =>
    rw [upsert_unmatched matched] at upserted
    cases inserted : insertContact db (newContact platform db.suppressions workspaceId newId input
        (stripReservedPropertyKeys input.properties)) with
    | error refusal =>
      rw [inserted] at upserted
      cases upserted
    | ok next =>
      rw [inserted] at upserted
      cases upserted
      exact .inl ⟨rfl, rfl, rfl⟩
  | some existing =>
    cases allowed : uniqueViolation db.contacts (upsertedContact db.contacts existing input) with
    | some refusal =>
      rw [upsert_refused matched allowed] at upserted
      cases upserted
    | none =>
      rw [upsert_matched matched allowed] at upserted
      cases upserted
      exact .inr ⟨existing, rfl, rfl, rfl, rfl⟩

theorem update_granted (timezone : assertValidTimezone boundary patch.profile.timezone.join = none)
    (found : contactOf db.contacts workspaceId id = some existing)
    (allowed : updateRefusal db.contacts existing patch = none) :
    updateContact boundary db workspaceId id patch =
      .ok (some (patchedContact existing patch,
        writeContact db existing (patchedContact existing patch) "manual_ui")) := by
  unfold updateContact
  simp only [timezone, found, allowed]

theorem applyCsvRow_update :
    applyCsvRow platform db workspaceId newId .update input =
      (upsertContactByIdentity platform db workspaceId newId input).map fun (result, db) => (some result, db) := by
  unfold applyCsvRow
  rw [if_neg (fun skip => DuplicatePolicy.noConfusion skip.1)]

theorem applyCsvRow_skip :
    applyCsvRow platform db workspaceId newId .skip input =
      match matchIdentity db.contacts workspaceId input.externalId input.email with
      | some _ => .ok (none, db)
      | none => (upsertContactByIdentity platform db workspaceId newId input).map fun (result, db) =>
          (some result, db) := by
  unfold applyCsvRow findContactIdByIdentity
  cases matchIdentity db.contacts workspaceId input.externalId input.email with
  | none => rw [if_neg (fun skip => Bool.noConfusion skip.2)]
  | some existing => rw [if_pos ⟨rfl, rfl⟩]

end Outcomes

theorem stored_of_matchIdentity (matched : matchIdentity contacts workspaceId externalId email = some contact) :
    contacts.find? contact.id = some contact ∧ contact.workspaceId = workspaceId ∧
      contact.anonymizedAt = none := by
  rcases Option.or_eq_some_iff.mp matched with byExternalId | ⟨_, byEmail⟩
  · obtain ⟨value, _, found⟩ := Option.bind_eq_some_iff.mp byExternalId
    have live := List.find?_some found
    simp only [Bool.and_eq_true, beq_iff_eq, Option.isNone_iff_eq_none] at live
    exact ⟨Table.find?_of_mem (List.mem_of_find?_eq_some found), live.1.1, live.2⟩
  · obtain ⟨value, _, found⟩ := Option.bind_eq_some_iff.mp byEmail
    have live := List.find?_some found
    simp only [Bool.and_eq_true, beq_iff_eq, Option.isNone_iff_eq_none] at live
    exact ⟨Table.find?_of_mem (List.mem_of_find?_eq_some found), live.1.1, live.2⟩

end Specifications

end LocalCrm.Contacts
