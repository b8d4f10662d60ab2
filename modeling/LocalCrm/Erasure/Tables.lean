import LocalCrm.Library.Keyset
import LocalCrm.Webhooks.SideEffects
import Mathlib.Data.Prod.Lex

/-! The erasure of a contact: its record, the stored evidence and the pages of the scrub. -/

set_option autoImplicit false

namespace LocalCrm.Erasure

open Library Webhooks

abbrev EventId := Nat
abbrev SendEventId := Nat
abbrev ErasureRecordId := Nat

/-- Time first, since both tables are partitioned by it. -/
abbrev ScrubKey := Timestamp ×ₗ Nat

def scrubKey (occurredAt : Timestamp) (id : Nat) : ScrubKey := toLex (occurredAt, id)

structure EventRow where
  workspaceId : WorkspaceId
  id : EventId
  occurredAt : Timestamp
  contactId : ContactId
  name : String
  properties : Properties
  deriving DecidableEq, Repr

def EventRow.key (row : EventRow) : WorkspaceId × ScrubKey := (row.workspaceId, scrubKey row.occurredAt row.id)

structure SendEventRow where
  workspaceId : WorkspaceId
  id : SendEventId
  occurredAt : Timestamp
  sgEventId : String
  sendId : Option SendId
  eventType : String
  reason : Option String
  payload : JsonValue
  isTest : Bool := false
  deriving DecidableEq, Repr

def SendEventRow.key (row : SendEventRow) : WorkspaceId × ScrubKey :=
  (row.workspaceId, scrubKey row.occurredAt row.id)

inductive ErasureRecordStatus where
  | pending
  | scrubbing
  | complete
  | failed
  deriving DecidableEq, Repr

inductive ScrubCursor where
  | inProgress (occurredAt : Timestamp) (id : Nat)
  | done
  deriving DecidableEq, Repr

inductive ScrubTable where
  | sends
  | events
  deriving DecidableEq, Repr

structure ErasureRecord where
  id : ErasureRecordId
  workspaceId : WorkspaceId
  contactId : ContactId
  anonymizedAt : Timestamp
  scrubStartedAt : Option Timestamp := none
  scrubCompletedAt : Option Timestamp := none
  status : ErasureRecordStatus := .pending
  scrubError : Option String := none
  sendsScrubbed : Nat := 0
  eventsScrubbed : Nat := 0
  sendsScrubCursor : Option ScrubCursor := none
  eventsScrubCursor : Option ScrubCursor := none
  deriving DecidableEq, Repr

structure ErasureStore where
  db : Database
  events : Table EventRow.key := .empty
  sendEvents : Table SendEventRow.key := .empty
  erasureRecords : Table ErasureRecord.id := .empty

def sendEventPayloadEvidenceAllowlist : List String :=
  ["event", "type", "timestamp", "sg_event_id", "sg_message_id", "smtp-id", "status", "attempt", "asm_group_id",
    "bounce_classification"]

/-- Built up from nothing; anything but an object gives the empty object. -/
def buildScrubbedSendEventPayload (payload : JsonValue) : JsonValue :=
  .object (sendEventPayloadEvidenceAllowlist.filterMap fun name => (payload.field name).map fun value => (name, value))

def buildScrubbedEventProperties (_ : Properties) : Properties := []

def erasureScrubPageLimit : Nat := 500

/-- What a page starts after; the text of a time round-trips without loss. -/
def ScrubCursor.position : Option ScrubCursor → Option ScrubKey
  | some (.inProgress occurredAt id) => some (scrubKey occurredAt id)
  | some .done | none => none

def ErasureRecord.cursorFor (record : ErasureRecord) : ScrubTable → Option ScrubCursor
  | .sends => record.sendsScrubCursor
  | .events => record.eventsScrubCursor

def ErasureRecord.advanced (record : ErasureRecord) (cursor : ScrubCursor) (processedInPage : Nat) :
    ScrubTable → ErasureRecord
  | .sends => { record with
      sendsScrubCursor := some cursor, sendsScrubbed := record.sendsScrubbed + processedInPage }
  | .events => { record with
      eventsScrubCursor := some cursor, eventsScrubbed := record.eventsScrubbed + processedInPage }

def SendEventRow.isSentTo (row : SendEventRow) (ids : SendIdScheme) (sends : Sends) (workspaceId : WorkspaceId)
    (contactId : ContactId) : Bool :=
  row.workspaceId == workspaceId &&
    row.sendId.any fun sendId => (resolveSend ids sends workspaceId sendId).any (·.contactId == contactId)

def EventRow.isOf (row : EventRow) (workspaceId : WorkspaceId) (contactId : ContactId) : Bool :=
  row.workspaceId == workspaceId && row.contactId == contactId

/-- The cursor a page leaves: its last key, or the end of the walk. -/
def scrubbedTo (page : List ScrubKey) : ScrubCursor :=
  match page.getLast? with
  | none => .done
  | some last => .inProgress (ofLex last).1 (ofLex last).2

namespace ErasureStore

variable (store : ErasureStore)

def erasureRecord? (workspaceId : WorkspaceId) (erasureRecordId : ErasureRecordId) : Option ErasureRecord :=
  (store.erasureRecords.find? erasureRecordId).filter (·.workspaceId == workspaceId)

def updateRecord (workspaceId : WorkspaceId) (erasureRecordId : ErasureRecordId) (guard : ErasureRecord → Bool)
    (set : ErasureRecord → ErasureRecord) (keeps : ∀ record, (set record).id = record.id) : ErasureStore :=
  { store with
    erasureRecords := store.erasureRecords.update
      (fun record => record.workspaceId == workspaceId && record.id == erasureRecordId && guard record) set keeps }

def loadErasureScrubCheckpoint (workspaceId : WorkspaceId) (erasureRecordId : ErasureRecordId) (table : ScrubTable) :
    Option ScrubCursor :=
  (store.erasureRecord? workspaceId erasureRecordId).bind (·.cursorFor table)

def advanceErasureScrubCheckpoint (workspaceId : WorkspaceId) (erasureRecordId : ErasureRecordId) (table : ScrubTable)
    (cursor : ScrubCursor) (processedInPage : Nat) : ErasureStore :=
  store.updateRecord workspaceId erasureRecordId (fun _ => true) (fun record => record.advanced cursor processedInPage table)
    (by intro record; cases table <;> rfl)

section Pages

variable (ids : SendIdScheme) (workspaceId : WorkspaceId) (contactId : ContactId)

def linkedKeys : ScrubTable → List ScrubKey
  | .sends => (store.sendEvents.rows.filter fun row => row.isSentTo ids store.db.sends workspaceId contactId).map
      fun row => scrubKey row.occurredAt row.id
  | .events => (store.events.rows.filter fun row => row.isOf workspaceId contactId).map
      fun row => scrubKey row.occurredAt row.id

def scrubPage (table : ScrubTable) (cursor : Option ScrubCursor) : List ScrubKey :=
  Keyset.page erasureScrubPageLimit (ScrubCursor.position cursor) (store.linkedKeys ids workspaceId contactId table)

/-- One `UPDATE` for each row of the page, by its primary key. -/
def rewritePayloads (page : List ScrubKey) : ErasureStore :=
  let sendEvents := store.sendEvents.update
    (fun row => row.workspaceId == workspaceId && page.contains (scrubKey row.occurredAt row.id))
    fun row => { row with payload := buildScrubbedSendEventPayload row.payload }
  { store with sendEvents }

/-- `UPDATE events … WHERE workspace_id = $2 AND id = ANY($3)`. -/
def emptyProperties (page : List ScrubKey) : ErasureStore :=
  let events := store.events.update
    (fun row => row.workspaceId == workspaceId && (page.map fun key => (ofLex key).2).contains row.id)
    fun row => { row with properties := buildScrubbedEventProperties [] }
  { store with events }

def scrubSendEventsPage (erasureRecordId : ErasureRecordId) (cursor : Option ScrubCursor) : ErasureStore :=
  let page := store.scrubPage ids workspaceId contactId .sends cursor
  (store.rewritePayloads workspaceId page).advanceErasureScrubCheckpoint workspaceId erasureRecordId .sends
    (scrubbedTo page) page.length

def scrubEventsPage (erasureRecordId : ErasureRecordId) (cursor : Option ScrubCursor) : ErasureStore :=
  let page := store.scrubPage ids workspaceId contactId .events cursor
  (store.emptyProperties workspaceId page).advanceErasureScrubCheckpoint workspaceId erasureRecordId .events
    (scrubbedTo page) page.length

end Pages

def markScrubStartedIfPending (now : Timestamp) (workspaceId : WorkspaceId) (erasureRecordId : ErasureRecordId) :
    ErasureStore :=
  store.updateRecord workspaceId erasureRecordId (fun record => record.status == .pending)
    (fun record => { record with status := .scrubbing, scrubStartedAt := some now }) fun _ => rfl

def markScrubComplete (now : Timestamp) (workspaceId : WorkspaceId) (erasureRecordId : ErasureRecordId) : ErasureStore :=
  store.updateRecord workspaceId erasureRecordId (fun _ => true)
    (fun record => { record with status := .complete, scrubCompletedAt := some now }) fun _ => rfl

def markScrubFailed (workspaceId : WorkspaceId) (erasureRecordId : ErasureRecordId) (message : String) : ErasureStore :=
  store.updateRecord workspaceId erasureRecordId (fun _ => true)
    (fun record => { record with status := .failed, scrubError := some message }) fun _ => rfl

end ErasureStore

end LocalCrm.Erasure
