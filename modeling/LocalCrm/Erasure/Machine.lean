import LocalCrm.Contacts.Requests
import LocalCrm.Erasure.Tables
import LocalCrm.Library.Interleaving

/-! Scrub jobs among deletions, late provider events and ingested events. -/

set_option autoImplicit false

namespace LocalCrm.Erasure

open Library Webhooks Contacts Delivery

structure ScrubJob where
  workspaceId : WorkspaceId
  contactId : ContactId
  erasureRecordId : ErasureRecordId
  deriving DecidableEq, Repr

inductive ScrubWorker where
  | idle
  | starting (job : ScrubJob)
  | opening (job : ScrubJob) (table : ScrubTable)
  | walking (job : ScrubJob) (table : ScrubTable) (cursor : Option ScrubCursor)
  | completing (job : ScrubJob)
  | failing (job : ScrubJob) (message : String)
  deriving DecidableEq, Repr

def ScrubWorker.job : ScrubWorker → Option ScrubJob
  | .idle => none
  | .starting job | .opening job _ | .walking job _ _ | .completing job | .failing job _ => some job

inductive ScrubTurn where
  | deliver (workspaceId : WorkspaceId) (erasureRecordId : ErasureRecordId)
  | start (now : Timestamp)
  | loadCheckpoint
  | page
  | complete (now : Timestamp)
  | error (message : String)
  | recordFailure
  | crash
  deriving DecidableEq, Repr

structure EventsIngestJob where
  workspaceId : WorkspaceId
  eventId : EventId
  occurredAt : Timestamp
  name : String
  properties : Properties
  externalId : Option String := none
  email : Option String := none
  deriving DecidableEq, Repr

inductive Arrival where
  | deleteContact (now : Timestamp) (workspaceId : WorkspaceId) (id : ContactId) (erasureRecordId : ErasureRecordId)
  | ingest (newId : ContactId) (job : EventsIngestJob)
  | webhookRows (workspaceId : WorkspaceId) (rows : List SendEventRow)
  | dispatch (send : Send)
  | contacts (request : ContactRequest)

section Jobs

variable (ids : SendIdScheme) (store : ErasureStore)

def afterTable (job : ScrubJob) : ScrubTable → ScrubWorker
  | .sends => .opening job .events
  | .events => .completing job

def deliverJob (workspaceId : WorkspaceId) (erasureRecordId : ErasureRecordId) : ScrubWorker :=
  match store.erasureRecord? workspaceId erasureRecordId with
  | none => .idle
  | some record =>
    let job : ScrubJob := { workspaceId, contactId := record.contactId, erasureRecordId }
    match record.status with
    | .complete => .idle
    | .pending => .starting job
    | .scrubbing | .failed => .opening job .sends

def openTable (job : ScrubJob) (table : ScrubTable) : ScrubWorker :=
  match store.loadErasureScrubCheckpoint job.workspaceId job.erasureRecordId table with
  | some .done => afterTable job table
  | cursor => .walking job table cursor

def scrubTablePage (job : ScrubJob) (cursor : Option ScrubCursor) : ScrubTable → ErasureStore
  | .sends => store.scrubSendEventsPage ids job.workspaceId job.contactId job.erasureRecordId cursor
  | .events => store.scrubEventsPage ids job.workspaceId job.contactId job.erasureRecordId cursor

/-- The loop ends with the page that comes back empty. -/
def afterPage (job : ScrubJob) (table : ScrubTable) (page : List ScrubKey) : ScrubWorker :=
  match scrubbedTo page with
  | .done => afterTable job table
  | cursor => .walking job table (some cursor)

def scrubTurn (_ : Nat) (store : ErasureStore) : ScrubWorker → ScrubTurn → Option (ErasureStore × ScrubWorker)
  | .idle, .deliver workspaceId erasureRecordId => some (store, deliverJob store workspaceId erasureRecordId)
  | .starting job, .start now =>
    some (store.markScrubStartedIfPending now job.workspaceId job.erasureRecordId, .opening job .sends)
  | .opening job table, .loadCheckpoint => some (store, openTable store job table)
  | .walking job table cursor, .page =>
    some (scrubTablePage ids store job cursor table,
      afterPage job table (store.scrubPage ids job.workspaceId job.contactId table cursor))
  | .completing job, .complete now => some (store.markScrubComplete now job.workspaceId job.erasureRecordId, .idle)
  | .starting job, .error message | .opening job _, .error message | .walking job _ _, .error message |
    .completing job, .error message => some (store, .failing job message)
  | .failing job message, .recordFailure =>
    some (store.markScrubFailed job.workspaceId job.erasureRecordId message, .idle)
  | _, .crash => some (store, .idle)
  | _, _ => none

end Jobs

section Arrivals

variable (platform : Platform) (boundary : Boundary) (store : ErasureStore)

def anonymized (contact : Contact) (anonymizedAt : Timestamp) : Contact :=
  { contact with
    externalId := none
    email := none
    profile := {}
    tags := []
    properties := []
    anonymizedAt := some anonymizedAt }

/-- Anonymizes the row, lists its address and leaves the record, in one transaction. -/
def deleteContact (now : Timestamp) (workspaceId : WorkspaceId) (id : ContactId) (erasureRecordId : ErasureRecordId) :
    Option ErasureStore :=
  match contactOf store.db.contacts workspaceId id with
  | none => some store
  | some existing =>
    if existing.anonymizedAt.isSome then some store
    else if (store.erasureRecords.find? erasureRecordId).isSome then none
    else
      let contacts := store.db.contacts.update
        (fun contact => contact.workspaceId == workspaceId && contact.id == id && contact.anonymizedAt.isNone)
        fun contact => anonymized contact now
      let suppressions := match given existing.email with
        | none => store.db.suppressions
        | some email => store.db.suppressions.insert
            { workspaceId, emailHash := platform.hashSuppressionEmail workspaceId email, reason := "contact_deleted" }
      let erasureRecords := store.erasureRecords.insert
        { id := erasureRecordId, workspaceId, contactId := id, anonymizedAt := now }
      some { store with db := { store.db with contacts, suppressions }, erasureRecords }

def processEventIngestJob (newId : ContactId) (job : EventsIngestJob) : ErasureStore :=
  if isWorkspaceSoftDeleted store.db.organizations job.workspaceId then store
  else
    match upsertContactByIdentity platform store.db job.workspaceId newId
        { externalId := job.externalId, email := job.email, properties := some job.properties } with
    | .error _ => store
    | .ok (result, db) =>
      let events := store.events.insert
        { workspaceId := job.workspaceId, id := job.eventId, occurredAt := job.occurredAt
          contactId := result.contactId, name := job.name, properties := job.properties }
      { store with db, events }

/-- A send id that is not one of the workspace's own is nulled. -/
def resolvedRow (sends : Sends) (workspaceId : WorkspaceId) (row : SendEventRow) : SendEventRow :=
  { row with
    workspaceId
    sendId := row.sendId.filter fun sendId => (resolveSend platform.sendIds sends workspaceId sendId).isSome }

def sameDedupKey (left right : SendEventRow) : Bool :=
  left.workspaceId == right.workspaceId && left.sendId.isSome && left.sendId == right.sendId &&
    left.eventType == right.eventType && left.occurredAt == right.occurredAt

/-- `ON CONFLICT (workspace_id, send_id, event_type, occurred_at) DO NOTHING`. -/
def insertSendEvent (sendEvents : Table SendEventRow.key) (row : SendEventRow) : Table SendEventRow.key :=
  if sendEvents.rows.any (sameDedupKey row) then sendEvents else sendEvents.insert row

def insertSendEvents (workspaceId : WorkspaceId) (rows : List SendEventRow) : ErasureStore :=
  let sendEvents := (rows.map (resolvedRow platform store.db.sends workspaceId)).foldl insertSendEvent store.sendEvents
  { store with sendEvents }

def arrive : Arrival → Option ErasureStore
  | .deleteContact now workspaceId id erasureRecordId =>
    deleteContact platform store now workspaceId id erasureRecordId
  | .ingest newId job => some (processEventIngestJob platform store newId job)
  | .webhookRows workspaceId rows =>
    if isWorkspaceSoftDeleted store.db.organizations workspaceId then some store
    else some (insertSendEvents platform store workspaceId rows)
  | .dispatch send => some { store with db := { store.db with sends := store.db.sends.insert send } }
  | .contacts (.elsewhere _) => none
  | .contacts request => (contactStep platform boundary store.db request).map fun db => { store with db }

end Arrivals

abbrev ErasureThreads := Threads ErasureStore ScrubWorker

def erasureStep (platform : Platform) (boundary : Boundary) : ErasureThreads → Turn ScrubTurn Arrival →
    Option ErasureThreads :=
  interleave (scrubTurn platform.sendIds) (arrive platform boundary)

end LocalCrm.Erasure
