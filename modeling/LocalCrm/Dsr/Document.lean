import LocalCrm.Dsr.Snapshot

/-! The export document of one contact. -/

set_option autoImplicit false

namespace LocalCrm.Dsr

open Library Erasure

/-- Time first, then the id. -/
abbrev KeysetCursor := Timestamp ×ₗ Nat

def keysetCursor (timestamp : Timestamp) (id : Nat) : KeysetCursor := toLex (timestamp, id)

def dsrExportPageLimit : ℕ+ := 500

structure DsrExportConsentHistoryEntry where
  id : Nat
  oldStatus : Option String
  newStatus : String
  source : String
  reason : Option String
  changedAt : Timestamp
  deriving DecidableEq, Repr

structure DsrExportEvent where
  id : EventId
  name : String
  occurredAt : Timestamp
  receivedAt : Timestamp
  deriving DecidableEq, Repr

structure SendPageRow where
  id : SendId
  campaignId : Option CampaignId
  kind : String
  status : SendStatus
  exclusionReason : Option String
  providerMessageId : Option String
  queuedAt : Timestamp
  sentAt : Option Timestamp
  facts : SendFacts
  flowRunId : Option FlowRunId
  nodeId : Option NodeId
  dispatchedAt : Option Timestamp
  deriving DecidableEq, Repr

structure DsrExportSendEvent where
  id : SendEventId
  sgEventId : String
  eventType : String
  reason : Option String
  isTest : Bool
  occurredAt : Timestamp
  receivedAt : Timestamp
  payload : Properties
  deriving DecidableEq

structure SendEventPageRow extends DsrExportSendEvent where
  sendId : Option SendId
  deriving DecidableEq

structure DsrExportSend extends SendPageRow where
  sendEvents : List DsrExportSendEvent
  deriving DecidableEq

structure FlowRunPageRow where
  id : FlowRunId
  flowId : Nat
  flowVersionId : FlowVersionId
  status : Flows.FlowRunStatus
  currentNodeId : Option NodeId
  enteredAt : Timestamp
  lastEntryAt : Timestamp
  exitedAt : Option Timestamp
  exitReason : Option Flows.ExitReason
  deriving DecidableEq, Repr

structure DsrExportFlowRunStep where
  id : Nat
  nodeId : NodeId
  nodeType : Flows.NodeType
  outcome : Flows.StepOutcome
  sendId : Option SendId
  createdAt : Timestamp
  deriving DecidableEq, Repr

structure FlowRunStepPageRow extends DsrExportFlowRunStep where
  flowRunId : FlowRunId
  deriving DecidableEq, Repr

structure DsrExportFlowRun extends FlowRunPageRow where
  steps : List DsrExportFlowRunStep
  deriving DecidableEq, Repr

structure DsrExportCampaignMembership where
  id : Nat
  campaignId : CampaignId
  createdAt : Timestamp
  deriving DecidableEq, Repr

structure DsrExportProfile where
  id : ContactId
  externalId : Option String
  email : Option String
  profile : ContactProfile
  tags : List String
  subscriptionStatus : SubscriptionStatus
  createdAt : Timestamp
  updatedAt : Timestamp
  deriving DecidableEq, Repr

structure SectionRowCounts where
  profile : Nat
  customProperties : Nat
  consentHistory : Nat
  events : Nat
  sends : Nat
  sendEvents : Nat
  flowParticipation : Nat
  flowRunSteps : Nat
  campaignMemberships : Nat
  deriving DecidableEq, Repr

structure DsrExportMetadata where
  generatedAt : Timestamp
  exportFormatVersion : String := "1.0"
  allowlistName : String := "SEND_EVENT_PAYLOAD_EXPORT_ALLOWLIST"
  allowlistVersion : String := "1"
  workspaceId : WorkspaceId
  workspaceName : String
  contactId : ContactId
  sectionRowCounts : SectionRowCounts
  deriving DecidableEq, Repr

structure DsrExportDocument where
  metadata : DsrExportMetadata
  profile : DsrExportProfile
  customProperties : Properties
  consentHistory : List DsrExportConsentHistoryEntry
  events : List DsrExportEvent
  sends : List DsrExportSend
  flowParticipation : List DsrExportFlowRun
  campaignMemberships : List DsrExportCampaignMembership
  deriving DecidableEq

structure ContactErasedError where
  message : String
  erasedAt : Timestamp
  erasureRecordId : Option ErasureRecordId
  deriving DecidableEq, Repr

section Columns

def StatusHistoryRow.columns (row : StatusHistoryRow) : DsrExportConsentHistoryEntry :=
  { id := row.id, oldStatus := row.oldStatus, newStatus := row.newStatus, source := row.source
    reason := row.reason, changedAt := row.changedAt }

def DsrExportConsentHistoryEntry.cursor (entry : DsrExportConsentHistoryEntry) : KeysetCursor :=
  keysetCursor entry.changedAt entry.id

/-- The properties of an event are not read. -/
def StoredEvent.columns (row : StoredEvent) : DsrExportEvent :=
  { id := row.id, name := row.name, occurredAt := row.occurredAt, receivedAt := row.receivedAt }

def DsrExportEvent.cursor (event : DsrExportEvent) : KeysetCursor := keysetCursor event.occurredAt event.id

def SendRow.columns (row : SendRow) : SendPageRow :=
  { id := row.id, campaignId := row.campaignId, kind := row.kind, status := row.status
    exclusionReason := row.exclusionReason, providerMessageId := row.providerMessageId, queuedAt := row.queuedAt
    sentAt := row.sentAt, facts := row.facts, flowRunId := row.flowRunId, nodeId := row.nodeId
    dispatchedAt := row.dispatchedAt }

def SendPageRow.cursor (row : SendPageRow) : KeysetCursor := keysetCursor row.queuedAt row.id

def StoredSendEvent.columns (row : StoredSendEvent) : SendEventPageRow :=
  { id := row.id, sgEventId := row.sgEventId, sendId := row.sendId, eventType := row.eventType
    reason := row.reason, isTest := row.isTest, occurredAt := row.occurredAt, receivedAt := row.receivedAt
    payload := buildExportSendEventPayload row.payload }

def SendEventPageRow.cursor (row : SendEventPageRow) : KeysetCursor := keysetCursor row.occurredAt row.id

def flowRunColumns (row : Flows.FlowRunRow) : FlowRunPageRow :=
  { id := row.id, flowId := row.flowId, flowVersionId := row.flowVersionId, status := row.status
    currentNodeId := row.currentNodeId, enteredAt := row.enteredAt, lastEntryAt := row.lastEntryAt
    exitedAt := row.exitedAt, exitReason := row.exitReason }

def FlowRunPageRow.cursor (row : FlowRunPageRow) : KeysetCursor := keysetCursor row.enteredAt row.id

def FlowRunStepRow.columns (row : FlowRunStepRow) : FlowRunStepPageRow :=
  { id := row.id, flowRunId := row.flowRunId, nodeId := row.nodeId, nodeType := row.nodeType
    outcome := row.outcome, sendId := row.sendId, createdAt := row.createdAt }

def FlowRunStepPageRow.cursor (row : FlowRunStepPageRow) : KeysetCursor := keysetCursor row.createdAt row.id

def CampaignRecipientRow.columns (row : CampaignRecipientRow) : DsrExportCampaignMembership :=
  { id := row.id, campaignId := row.campaignId, createdAt := row.createdAt }

def DsrExportCampaignMembership.cursor (row : DsrExportCampaignMembership) : KeysetCursor :=
  keysetCursor row.createdAt row.id

end Columns

section Readers

variable (client : Snapshot) (workspaceId : WorkspaceId) (contactId : ContactId)

/-- The rows that `selectConsentHistoryPage` pages through. -/
def consentHistoryRows : List DsrExportConsentHistoryEntry :=
  (client.subscriptionStatusHistory.rows.filter fun row =>
    row.workspaceId == workspaceId && row.contactId == contactId).map StatusHistoryRow.columns

def eventRows : List DsrExportEvent :=
  (client.events.rows.filter fun row =>
    row.workspaceId == workspaceId && row.contactId == contactId).map StoredEvent.columns

def sendRows : List SendPageRow :=
  (client.sends.rows.filter fun row =>
    row.workspaceId == workspaceId && row.contactId == contactId).map SendRow.columns

/-- `JOIN sends s ON s.id = se.send_id`: an event is the contact's through its send. -/
def sendEventRows : List SendEventPageRow :=
  (client.sendEvents.rows.filter fun row => row.workspaceId == workspaceId &&
    (row.sendId.bind client.sends.find?).any (·.contactId == contactId)).map StoredSendEvent.columns

def flowRunRows : List FlowRunPageRow :=
  (client.flowRuns.rows.filter fun row =>
    row.workspaceId == workspaceId && row.contactId == contactId).map flowRunColumns

def flowRunStepRows (flowRunIds : List FlowRunId) : List FlowRunStepPageRow :=
  (client.flowRunSteps.rows.filter fun row =>
    row.workspaceId == workspaceId && flowRunIds.contains row.flowRunId).map FlowRunStepRow.columns

def campaignRecipientRows : List DsrExportCampaignMembership :=
  (client.campaignRecipients.rows.filter fun row =>
    row.workspaceId == workspaceId && row.contactId == contactId).map CampaignRecipientRow.columns

end Readers

/-- From page to page until one is empty; a page is what comes after the last row of the one before it. -/
def walkToExhaustion {Row : Type} (limit : ℕ+) (cursorFromRow : Row → KeysetCursor) (rows : List Row) : List Row :=
  Keyset.exhaust cursorFromRow rows limit none

def walkFlowRunStepsToExhaustion (limit : ℕ+) (client : Snapshot) (workspaceId : WorkspaceId)
    (flowRunIds : List FlowRunId) : List FlowRunStepPageRow :=
  (batches limit flowRunIds).flatMap fun batch =>
    walkToExhaustion limit FlowRunStepPageRow.cursor (flowRunStepRows client workspaceId batch)

section Export

variable (limit : ℕ+) (client : Snapshot) (workspaceId : WorkspaceId)

def contactErased (row : ContactRow) (erasedAt : Timestamp) : ContactErasedError :=
  let records := client.erasureRecords.rows.filter fun record =>
    record.workspaceId == workspaceId && record.contactId == row.id
  let latest := records.insertionSort fun left right => left.anonymizedAt ≥ right.anonymizedAt
  { message := s!"Contact {row.id} has been anonymized -- no DSR export can be assembled", erasedAt
    erasureRecordId := latest.head?.map ErasureRecord.id }

def assembleDocument (workspaceName : String) (now : Timestamp) (row : ContactRow) : DsrExportDocument :=
  let contactId := row.id
  let customProperties := row.properties
  let consentHistory := walkToExhaustion limit DsrExportConsentHistoryEntry.cursor
    (consentHistoryRows client workspaceId contactId)
  let events := walkToExhaustion limit DsrExportEvent.cursor (eventRows client workspaceId contactId)
  let sendRows := walkToExhaustion limit SendPageRow.cursor (sendRows client workspaceId contactId)
  let sendEventRows := walkToExhaustion limit SendEventPageRow.cursor (sendEventRows client workspaceId contactId)
  let sendEventsBySendId := groupBy SendEventPageRow.sendId SendEventPageRow.toDsrExportSendEvent sendEventRows
  let sends := sendRows.map fun row =>
    ({ toSendPageRow := row, sendEvents := sendEventsBySendId (some row.id) } : DsrExportSend)
  let flowRunRows := walkToExhaustion limit FlowRunPageRow.cursor (flowRunRows client workspaceId contactId)
  let flowRunStepRows := walkFlowRunStepsToExhaustion limit client workspaceId (flowRunRows.map (·.id))
  let campaignMemberships := walkToExhaustion limit DsrExportCampaignMembership.cursor
    (campaignRecipientRows client workspaceId contactId)
  let stepsByFlowRunId := groupBy FlowRunStepPageRow.flowRunId FlowRunStepPageRow.toDsrExportFlowRunStep
    flowRunStepRows
  let flowParticipation := flowRunRows.map fun row =>
    ({ toFlowRunPageRow := row, steps := stepsByFlowRunId row.id } : DsrExportFlowRun)
  { metadata :=
      { generatedAt := now, workspaceId, workspaceName, contactId
        sectionRowCounts :=
          { profile := 1, customProperties := customProperties.length
            consentHistory := consentHistory.length, events := events.length, sends := sends.length
            sendEvents := sendEventRows.length, flowParticipation := flowParticipation.length
            flowRunSteps := flowRunStepRows.length, campaignMemberships := campaignMemberships.length } }
    profile :=
      { id := row.id, externalId := row.externalId, email := row.email, profile := row.profile, tags := row.tags
        subscriptionStatus := row.subscriptionStatus, createdAt := row.createdAt, updatedAt := row.updatedAt }
    customProperties, consentHistory, events, sends, flowParticipation, campaignMemberships }

end Export

/-- All of it reads the one snapshot that the transaction took, as its workspace sees it. -/
def getDsrExportDocument (snapshot : Snapshot) (workspaceId : WorkspaceId) (workspaceName : String)
    (contactId : ContactId) (now : Timestamp) (limit : ℕ+ := dsrExportPageLimit) :
    Except ContactErasedError (Option DsrExportDocument) :=
  let client := snapshot.visibleTo workspaceId
  match (client.contacts.find? contactId).filter (·.workspaceId == workspaceId) with
  | none => .ok none
  | some row =>
    match row.anonymizedAt with
    | some erasedAt => .error (contactErased client workspaceId row erasedAt)
    | none => .ok (some (assembleDocument limit client workspaceId workspaceName now row))

end LocalCrm.Dsr
