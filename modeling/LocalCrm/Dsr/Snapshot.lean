import LocalCrm.Erasure.Tables
import LocalCrm.Flows.Advance
import LocalCrm.Library.Grouping
import LocalCrm.Library.KeysetWalk

/-! What a subject access export reads, in one snapshot. -/

set_option autoImplicit false

namespace LocalCrm.Dsr

open Library Erasure

structure ContactRow extends Contact where
  createdAt : Timestamp
  updatedAt : Timestamp
  deriving DecidableEq, Repr

structure StatusHistoryRow where
  id : Nat
  workspaceId : WorkspaceId
  contactId : ContactId
  oldStatus : Option String
  newStatus : String
  source : String
  reason : Option String
  changedAt : Timestamp
  deriving DecidableEq, Repr

structure StoredEvent extends EventRow where
  receivedAt : Timestamp
  deriving DecidableEq, Repr

structure StoredSendEvent extends SendEventRow where
  receivedAt : Timestamp
  deriving DecidableEq, Repr

structure SendRow where
  id : SendId
  workspaceId : WorkspaceId
  campaignId : Option CampaignId
  contactId : ContactId
  kind : String := "campaign"
  status : SendStatus
  exclusionReason : Option String := none
  providerMessageId : Option String := none
  queuedAt : Timestamp
  sentAt : Option Timestamp := none
  facts : SendFacts := {}
  flowRunId : Option FlowRunId := none
  nodeId : Option NodeId := none
  dispatchedAt : Option Timestamp := none
  deriving DecidableEq, Repr

structure FlowRunStepRow extends Flows.FlowRunStep where
  id : Nat
  sendId : Option SendId := none
  createdAt : Timestamp
  deriving DecidableEq, Repr

structure CampaignRecipientRow where
  id : Nat
  campaignId : CampaignId
  workspaceId : WorkspaceId
  contactId : ContactId
  createdAt : Timestamp
  deriving DecidableEq, Repr

structure Snapshot where
  contacts : Table fun row : ContactRow => row.id := .empty
  erasureRecords : Table ErasureRecord.id := .empty
  subscriptionStatusHistory : Table StatusHistoryRow.id := .empty
  events : Table fun row : StoredEvent => row.key := .empty
  sends : Table SendRow.id := .empty
  sendEvents : Table fun row : StoredSendEvent => row.key := .empty
  flowRuns : Table Flows.FlowRunRow.id := .empty
  flowRunSteps : Table FlowRunStepRow.id := .empty
  campaignRecipients : Table CampaignRecipientRow.id := .empty

/-- The policy `workspace_isolation` of every table. -/
def Snapshot.visibleTo (snapshot : Snapshot) (workspaceId : WorkspaceId) : Snapshot where
  contacts := snapshot.contacts.delete (·.workspaceId != workspaceId)
  erasureRecords := snapshot.erasureRecords.delete (·.workspaceId != workspaceId)
  subscriptionStatusHistory := snapshot.subscriptionStatusHistory.delete (·.workspaceId != workspaceId)
  events := snapshot.events.delete (·.workspaceId != workspaceId)
  sends := snapshot.sends.delete (·.workspaceId != workspaceId)
  sendEvents := snapshot.sendEvents.delete (·.workspaceId != workspaceId)
  flowRuns := snapshot.flowRuns.delete (·.workspaceId != workspaceId)
  flowRunSteps := snapshot.flowRunSteps.delete (·.workspaceId != workspaceId)
  campaignRecipients := snapshot.campaignRecipients.delete (·.workspaceId != workspaceId)

def sendEventPayloadExportAllowlist : List String :=
  sendEventPayloadEvidenceAllowlist ++ ["ip", "useragent", "url", "reason"]

/-- Built up from nothing; anything but an object gives the empty object. -/
def buildExportSendEventPayload (payload : JsonValue) : Properties :=
  sendEventPayloadExportAllowlist.filterMap fun name => (payload.field name).map fun value => (name, value)

theorem payload_allowed {payload : JsonValue} {name : String} {value : JsonValue}
    (member : (name, value) ∈ buildExportSendEventPayload payload) :
    name ∈ sendEventPayloadExportAllowlist ∧ payload.field name = some value := by
  obtain ⟨allowed, listed, read⟩ := List.mem_filterMap.mp member
  obtain ⟨found, given, same⟩ := Option.map_eq_some_iff.mp read
  cases same
  exact ⟨listed, given⟩

end LocalCrm.Dsr
