import LocalCrm.Erasure.Machine
import LocalCrm.Library.RowLocks

/-! The writers of contacts, statement by statement.

A statement reads what is committed when it runs and what its own transaction has written.
-/

set_option autoImplicit false

namespace LocalCrm.Erasure

open Library Webhooks Contacts Delivery

inductive ContactWrite where
  | insert (row : Contact)
  | assign (existing next : Contact) (source : String)
  | setStatus (change : SubscriptionStatusChange)
  | list (suppression : Suppression)
  | erase (existing : Contact) (now : Timestamp) (erasureRecordId : ErasureRecordId)
  deriving DecidableEq

section Writes

variable (platform : Platform) (tables : ErasureStore)

theorem anonymized_id (now : Timestamp) (contact : Contact) : (anonymized contact now).id = contact.id :=
  rfl

def eraseContact (existing : Contact) (now : Timestamp) (erasureRecordId : ErasureRecordId) : ErasureStore :=
  let contacts := tables.db.contacts.update
    (fun contact => contact.workspaceId == existing.workspaceId && contact.id == existing.id &&
      contact.anonymizedAt.isNone)
    (fun contact => anonymized contact now) (anonymized_id now)
  let suppressions := (given existing.email).elim tables.db.suppressions fun email =>
    tables.db.suppressions.insert
      { workspaceId := existing.workspaceId
        emailHash := platform.hashSuppressionEmail existing.workspaceId email, reason := "contact_deleted" }
  let erasureRecords := tables.erasureRecords.insert
    { id := erasureRecordId, workspaceId := existing.workspaceId, contactId := existing.id, anonymizedAt := now }
  { tables with db := { tables.db with contacts, suppressions }, erasureRecords }

/-- `none` where a constraint is violated. -/
def applyWrite : ContactWrite → Option ErasureStore
  | .insert row => (insertContact tables.db row).toOption.map fun db => { tables with db }
  | .assign existing next source =>
    match uniqueViolation tables.db.contacts next with
    | some _ => none
    | none => some { tables with db := writeContact tables.db existing next source }
  | .setStatus change =>
    let assigned := setSubscriptionStatus tables.db change.contactId change.newStatus
    let db := if change.oldStatus ≠ change.newStatus then recordSubscriptionStatusChange assigned change else assigned
    some { tables with db }
  | .list suppression =>
    some { tables with db := { tables.db with suppressions := tables.db.suppressions.insert suppression } }
  | .erase existing now erasureRecordId =>
    if (tables.erasureRecords.find? erasureRecordId).isSome then none
    else some (eraseContact platform tables existing now erasureRecordId)

end Writes

inductive Insertion where
  | created
  | upserted (retried : Bool)
  deriving DecidableEq, Repr

inductive StatusChange where
  | suppress (reason : String)
  | unsubscribe (source : String)
  deriving DecidableEq, Repr

/-- The statement a transaction runs next. -/
inductive Stage where
  | idle
  | ready
  | refused (error : ContactError)
  | checkingDuplicate (input : UpsertContactIdentityInput)
  | seekingExternalId (input : UpsertContactIdentityInput) (retried : Bool)
  | lockingExternalId (input : UpsertContactIdentityInput) (retried : Bool) (candidate : ContactId)
  | seekingEmail (input : UpsertContactIdentityInput) (retried : Bool)
  | lockingEmail (input : UpsertContactIdentityInput) (retried : Bool) (candidate : ContactId)
  | readingSuppression (input : UpsertContactIdentityInput) (insertion : Insertion)
  | inserting (row : Contact) (input : UpsertContactIdentityInput) (insertion : Insertion)
  | merging (input : UpsertContactIdentityInput) (existing : Contact) (attachExternalId : Bool)
  | checkingTaken (input : CreateContactInput)
  | lockingPatch (id : ContactId) (patch : UpdateContactInput)
  | checkingPatch (existing : Contact) (patch : UpdateContactInput)
  | assigning (existing next : Contact) (source : String)
  | lockingErasure (id : ContactId)
  | erasing (existing : Contact)
  | readingStatus (id : ContactId) (change : StatusChange)
  | lockingStatus (id : ContactId) (change : StatusChange) (oldStatus : SubscriptionStatus)
  deriving DecidableEq

def Stage.existing : Stage → Option Contact
  | .merging _ existing _ | .checkingPatch existing _ | .assigning existing _ _ | .erasing existing => some existing
  | .idle | .ready | .refused _ | .checkingDuplicate _ | .seekingExternalId _ _ | .lockingExternalId _ _ _ |
    .seekingEmail _ _ | .lockingEmail _ _ _ | .readingSuppression _ _ | .inserting _ _ _ | .checkingTaken _ |
    .lockingPatch _ _ | .lockingErasure _ | .readingStatus _ _ | .lockingStatus _ _ _ => none

structure Writer where
  workspaceId : WorkspaceId := 0
  batch : Bool := false
  writes : List ContactWrite := []
  stage : Stage := .idle

inductive ContactCall where
  | upsert (input : UpsertContactIdentityInput)
  | importRow (duplicatePolicy : DuplicatePolicy) (input : UpsertContactIdentityInput)
  | changeStatus (id : ContactId) (change : StatusChange)
  | create (input : CreateContactInput)
  | update (id : ContactId) (patch : UpdateContactInput)
  | delete (id : ContactId)
  deriving DecidableEq

structure ContactStore where
  tables : ErasureStore
  lockedBy : ContactId → Option Nat := fun _ => none

/-- The ids and the clock a statement is given. -/
structure Fresh where
  newId : ContactId := 0
  now : Timestamp := 0
  erasureRecordId : ErasureRecordId := 0

inductive WriterTurn where
  | begin (workspaceId : WorkspaceId) (call : ContactCall)
  | statement (fresh : Fresh)
  | commit
  | rollback

section Statements

def mergedContact (existing : Contact) (input : UpsertContactIdentityInput)
    (attachExternalId emailChangeSkipped : Bool) : Contact :=
  { existing with
    externalId := if attachExternalId then input.externalId else existing.externalId
    email := if emailChangeSkipped then existing.email else (given input.email).or existing.email
    profile := ContactProfile.mergeInto input.profile existing.profile
    tags := input.tags.getD existing.tags
    properties := spreadProperties existing.properties (stripReservedPropertyKeys input.properties)
    subscriptionStatus := upsertedStatus existing.subscriptionStatus input.subscriptionStatus }

def patchRefusal (contacts : Table Contact.id) (existing : Contact) (patch : UpdateContactInput) :
    Option ContactError :=
  if changesEmail existing patch.email &&
      patch.email.any fun email => isEmailTaken contacts existing.workspaceId email (some existing.id) then
    some (emailTaken (patch.email.getD ""))
  else transitionRefusal existing.subscriptionStatus patch.subscriptionStatus

def insertedProperties (input : UpsertContactIdentityInput) : Insertion → Properties
  | .created => input.properties.getD []
  | .upserted _ => stripReservedPropertyKeys input.properties

def StatusChange.record (change : StatusChange) (workspaceId : WorkspaceId) (contactId : ContactId)
    (oldStatus : SubscriptionStatus) : SubscriptionStatusChange :=
  match change with
  | .suppress reason =>
    { workspaceId, contactId, oldStatus, newStatus := .suppressed, source := "webhook_suppression"
      reason := some reason }
  | .unsubscribe source =>
    { workspaceId, contactId, oldStatus, newStatus := .unsubscribed, source, reason := none }

/-- An unsubscription of somebody who is unsubscribed writes nothing; a suppression does, and lists the address. -/
def StatusChange.skips (change : StatusChange) (oldStatus : SubscriptionStatus) : Bool :=
  match change with
  | .suppress _ => false
  | .unsubscribe _ => oldStatus == .unsubscribed

def StatusChange.listing (change : StatusChange) (platform : Platform) (workspaceId : WorkspaceId)
    (email : Option String) : List ContactWrite :=
  match change with
  | .suppress reason => (given email).toList.map fun email =>
      .list { workspaceId, emailHash := platform.hashSuppressionEmail workspaceId email, reason }
  | .unsubscribe _ => []

variable (platform : Platform) (boundary : Boundary) (id : Nat) (store : ContactStore) (writer : Writer)

def view : Option ErasureStore := run (applyWrite platform) store.tables writer.writes

def Writer.at (stage : Stage) : Writer := { writer with stage }

def write (tables : ErasureStore) (change : ContactWrite) (violated : Stage) : Writer :=
  match applyWrite platform tables change with
  | none => writer.at violated
  | some _ => { writer with writes := writer.writes ++ [change], stage := .ready }

def lockRow (contactId : ContactId) (onward : Writer) : Option (ContactStore × Writer) :=
  (RowLocks.acquire store.lockedBy id contactId).map fun lockedBy => ({ store with lockedBy }, onward)

def contactAnonymized (contactId : ContactId) : ContactError :=
  .conflict s!"Contact {contactId} has been anonymized and cannot be modified" .contactAnonymized

def statement (tables : ErasureStore) (fresh : Fresh) : Option (ContactStore × Writer) :=
  let contacts := tables.db.contacts
  match writer.stage with
  | .idle | .ready | .refused _ => none
  | .checkingDuplicate input =>
    if (findContactIdByIdentity contacts writer.workspaceId input.externalId input.email).isSome then
      some (store, writer.at .ready)
    else some (store, writer.at (.seekingExternalId input false))
  | .seekingExternalId input retried =>
    match findByExternalId contacts writer.workspaceId input.externalId with
    | none => some (store, writer.at (.seekingEmail input retried))
    | some candidate => some (store, writer.at (.lockingExternalId input retried candidate.id))
  | .lockingExternalId input retried candidate =>
    let still := (contacts.find? candidate).filter fun contact => contact.workspaceId == writer.workspaceId &&
      contact.externalId == input.externalId && contact.anonymizedAt.isNone
    lockRow id store candidate (match still with
      | none => writer.at (.seekingEmail input retried)
      | some existing => writer.at (.merging input existing false))
  | .seekingEmail input retried =>
    match findByEmail contacts writer.workspaceId input.email with
    | none => some (store, writer.at (.readingSuppression input (.upserted retried)))
    | some candidate => some (store, writer.at (.lockingEmail input retried candidate.id))
  | .lockingEmail input retried candidate =>
    let still := (contacts.find? candidate).filter fun contact => contact.workspaceId == writer.workspaceId &&
      contact.email == input.email && contact.anonymizedAt.isNone
    lockRow id store candidate (match still with
      | none => writer.at (.readingSuppression input (.upserted retried))
      | some existing =>
        writer.at (.merging input existing (!truthy existing.externalId && truthy input.externalId)))
  | .readingSuppression input insertion =>
    let row := newContact platform tables.db.suppressions writer.workspaceId fresh.newId input
      (insertedProperties input insertion)
    some (store, writer.at (.inserting row input insertion))
  | .inserting row input insertion =>
    some (store, write platform writer tables (.insert row) (match insertion with
      | .upserted false => .seekingExternalId input true
      | .upserted true | .created => .refused .uniqueViolation))
  | .merging input existing attachExternalId =>
    let skipped := changesEmail existing (given input.email) &&
      (given input.email).any fun email => isEmailTaken contacts writer.workspaceId email (some existing.id)
    some (store, writer.at
      (.assigning existing (mergedContact existing input attachExternalId skipped) "csv_or_api_upsert"))
  | .checkingTaken input =>
    if (given input.email).any fun email => isEmailTaken contacts writer.workspaceId email none then
      some (store, writer.at (.refused (emailTaken (input.email.getD ""))))
    else some (store, writer.at (.readingSuppression input .created))
  | .lockingPatch contactId patch =>
    match contactOf contacts writer.workspaceId contactId with
    | none => some (store, writer.at .ready)
    | some existing =>
      lockRow id store contactId
        (if existing.anonymizedAt.isSome then writer.at (.refused (contactAnonymized contactId))
        else writer.at (.checkingPatch existing patch))
  | .checkingPatch existing patch =>
    match patchRefusal contacts existing patch with
    | some refusal => some (store, writer.at (.refused refusal))
    | none => some (store, writer.at (.assigning existing (patchedContact existing patch) "manual_ui"))
  | .assigning existing next source =>
    some (store, write platform writer tables (.assign existing next source) (.refused .uniqueViolation))
  | .lockingErasure contactId =>
    match contactOf contacts writer.workspaceId contactId with
    | none => some (store, writer.at .ready)
    | some existing =>
      lockRow id store contactId
        (if existing.anonymizedAt.isSome then writer.at .ready else writer.at (.erasing existing))
  | .erasing existing =>
    some (store, write platform writer tables (.erase existing fresh.now fresh.erasureRecordId)
      (.refused .uniqueViolation))
  | .readingStatus contactId change =>
    match (contacts.find? contactId).map (·.subscriptionStatus) with
    | none => some (store, writer.at .ready)
    | some oldStatus =>
      if change.skips oldStatus then some (store, writer.at .ready)
      else some (store, writer.at (.lockingStatus contactId change oldStatus))
  | .lockingStatus contactId change oldStatus =>
    match contacts.find? contactId with
    | none => some (store, writer.at .ready)
    | some contact =>
      lockRow id store contactId
        { writer with
          writes := writer.writes ++ .setStatus (change.record writer.workspaceId contactId oldStatus) ::
            change.listing platform writer.workspaceId contact.email
          stage := .ready }

def firstStage : ContactCall → Stage
  | .upsert input => .seekingExternalId input false
  | .importRow .skip input => .checkingDuplicate input
  | .importRow .update input => .seekingExternalId input false
  | .changeStatus contactId change => .readingStatus contactId change
  | .create input =>
    match assertValidTimezone boundary input.profile.timezone with
    | some refusal => .refused refusal
    | none => .checkingTaken input
  | .update contactId patch =>
    match assertValidTimezone boundary patch.profile.timezone.join with
    | some refusal => .refused refusal
    | none => .lockingPatch contactId patch
  | .delete contactId => .lockingErasure contactId

def ContactCall.batches : ContactCall → Bool
  | .upsert _ | .changeStatus _ _ => true
  | .importRow _ _ | .create _ | .update _ _ | .delete _ => false

def beginCall (workspaceId : WorkspaceId) (call : ContactCall) : Option Writer :=
  match writer.stage with
  | .idle => some { workspaceId, batch := call.batches, writes := [], stage := firstStage boundary call }
  | .ready =>
    if writer.batch && call.batches && workspaceId == writer.workspaceId then
      some (writer.at (firstStage boundary call))
    else none
  | _ => none

def endTransaction (tables : ErasureStore) : ContactStore × Writer :=
  ({ tables, lockedBy := RowLocks.releaseAll store.lockedBy id }, {})

def writerTurn (writer : Writer) : WriterTurn → Option (ContactStore × Writer)
  | .begin workspaceId call => (beginCall boundary writer workspaceId call).map fun begun => (store, begun)
  | .statement fresh =>
    (view platform store writer).bind fun tables => statement platform id store writer tables fresh
  | .commit =>
    if writer.stage = .ready then some (endTransaction id store ((view platform store writer).getD store.tables))
    else none
  | .rollback => some (endTransaction id store store.tables)

end Statements

abbrev WriterThreads := Threads ContactStore Writer

def writerStep (platform : Platform) (boundary : Boundary) : WriterThreads → Turn WriterTurn Empty →
    Option WriterThreads :=
  interleave (writerTurn platform boundary) fun _ event => nomatch event

def noContacts (db : Database) : WriterThreads where
  shared := { tables := { db := { db with contacts := .empty } } }
  own _ := {}

end LocalCrm.Erasure
