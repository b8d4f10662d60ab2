import LocalCrm.Webhooks.SideEffects

/-! One webhook batch: extraction, tenant filtering, the deduplicating insert and
the side effects of exactly the rows it inserted. -/

set_option autoImplicit false

namespace LocalCrm.Webhooks

open Library Delivery

def sendIdTexts (platform : Platform) (sends : Sends) (selected : Send → Bool) : List String :=
  (sends.rows.filter selected).map fun row => platform.uuidText (platform.sendIds.derive row.intent)

/-- The workspace that owns the send whose id reads exactly like the text. -/
def ownerOfText (platform : Platform) (sends : Sends) (text : String) : Option WorkspaceId :=
  (sends.rows.find? fun row => platform.uuidText (platform.sendIds.derive row.intent) == text).map
    fun row => row.intent.workspaceId

def dropSiblingWorkspaceEvents (platform : Platform) (sends : Sends) (workspaceId : WorkspaceId)
    (rows : List ExtractedEvent) : List ExtractedEvent :=
  rows.filter fun row => (row.sendId.bind (ownerOfText platform sends)).all (· == workspaceId)

def resolveRow (platform : Platform) (sends : Sends) (workspaceId : WorkspaceId) (row : ExtractedEvent) :
    ExtractedEvent :=
  { row with
    sendId := row.sendId.filter fun text =>
      text ∈ sendIdTexts platform sends fun send => send.intent.workspaceId == workspaceId }

def storedEvent (platform : Platform) (workspaceId : WorkspaceId) (row : ExtractedEvent) : SendEvent where
  workspaceId
  sgEventId := row.sgEventId
  sendId := row.sendId.bind platform.uuidValue
  eventType := row.eventType
  reason := row.reason
  isTest := row.isTest
  occurredAt := row.occurredAt

/-- The dedup key; a null send id is distinct from every other null. -/
def sameDedupKey (left right : SendEvent) : Bool :=
  left.workspaceId == right.workspaceId && left.sendId.isSome && left.sendId == right.sendId &&
    left.eventType == right.eventType && left.occurredAt == right.occurredAt

/-- `INSERT … ON CONFLICT DO NOTHING RETURNING id`, row by row: the rows that are new
and the table they leave. -/
def insertSendEvents (platform : Platform) (workspaceId : WorkspaceId) :
    List ExtractedEvent → List SendEvent → List ExtractedEvent × List SendEvent
  | [], events => ([], events)
  | row :: rest, events =>
    let event := storedEvent platform workspaceId row
    if events.any (sameDedupKey event) then insertSendEvents platform workspaceId rest events
    else
      let (inserted, final) := insertSendEvents platform workspaceId rest (events ++ [event])
      (row :: inserted, final)

def applyNewRow (platform : Platform) (now : Timestamp) (workspaceId : WorkspaceId) (db : Database)
    (row : ExtractedEvent) : Database :=
  if row.isTest then db
  else
    match row.normalizedType, row.sendId.bind platform.uuidValue with
    | some normalizedType, some sendId =>
      match resolveSend platform.sendIds db.sends workspaceId sendId with
      | some send =>
        applyEventSideEffects platform now db workspaceId send
          { normalizedType, reason := row.reason, occurredAt := row.occurredAt }
      | none => db
    | _, _ => db

def extractedRows (outcomes : List ExtractEventOutcome) : List ExtractedEvent :=
  outcomes.filterMap fun outcome =>
    match outcome with
    | .extracted row => some row
    | .quarantine _ | .skip => none

def quarantineCandidates (outcomes : List ExtractEventOutcome) : List QuarantineCandidate :=
  outcomes.filterMap fun outcome =>
    match outcome with
    | .quarantine candidate => some candidate
    | .extracted _ | .skip => none

def writeQuarantinedEvents (db : Database) (workspaceId : WorkspaceId) (candidates : List QuarantineCandidate) :
    Database :=
  { db with
    sendEventQuarantine := db.sendEventQuarantine ++ candidates.map fun candidate =>
      { workspaceId, sgEventId := candidate.sgEventId, eventType := candidate.eventType
        reason := candidate.reason } }

def submittedRows (platform : Platform) (now : Timestamp) (db : Database) (workspaceId : WorkspaceId)
    (events : List JsonValue) : List ExtractedEvent :=
  (dropSiblingWorkspaceEvents platform db.sends workspaceId
    (extractedRows (events.map fun raw => extractEventRow platform raw now))).map
      (resolveRow platform db.sends workspaceId)

def processWebhookEventBatch (platform : Platform) (now : Timestamp) (db : Database) (workspaceId : WorkspaceId)
    (events : List JsonValue) : Database :=
  if isWorkspaceSoftDeleted db.organizations workspaceId then db
  else
    let candidates := quarantineCandidates (events.map fun raw => extractEventRow platform raw now)
    let rows := submittedRows platform now db workspaceId events
    let (newRows, sendEvents) := insertSendEvents platform workspaceId rows db.sendEvents
    let stored := { writeQuarantinedEvents db workspaceId candidates with sendEvents }
    newRows.foldl (applyNewRow platform now workspaceId) stored

end LocalCrm.Webhooks
