import LocalCrm.Flows.Advance
import LocalCrm.Library.Table

/-! The tables the flow engine and the flow repository read and write. -/

set_option autoImplicit false

namespace LocalCrm.Flows

open Library

inductive ReentryMode where
  | onceEver
  | oncePerNDays
  | everyTime
  deriving DecidableEq, Repr

inductive QuietHoursMode where
  | inherit
  | workspaceDefault
  | custom
  | disabled
  deriving DecidableEq, Repr

inductive FlowExitCondition where
  | segment (segmentId : SegmentId) (isIn : Bool)
  | event (eventName : String)
  deriving DecidableEq, Repr

structure FlowRow where
  id : FlowId
  workspaceId : WorkspaceId
  name : String
  status : FlowStatus := .draft
  triggerType : Option TriggerType := none
  triggerEventName : Option String := none
  triggerSegmentId : Option SegmentId := none
  draftVersionId : Option FlowVersionId := none
  liveVersionId : Option FlowVersionId := none
  reentryMode : ReentryMode := .everyTime
  reentryWindowDays : Option Nat := none
  quietHoursMode : QuietHoursMode := .inherit
  quietHoursStart : Option Nat := none
  quietHoursEnd : Option Nat := none
  exitConditions : List FlowExitCondition := []
  createdByUserId : String
  enrollCursor : Option ContactId := none
  deriving DecidableEq, Repr

structure FlowVersionRow where
  id : FlowVersionId
  workspaceId : WorkspaceId
  flowId : FlowId
  versionNumber : Nat
  definition : FlowDefinition
  publishedAt : Option Timestamp := none
  deriving DecidableEq, Repr

structure MembershipSnapshot where
  workspaceId : WorkspaceId
  flowId : FlowId
  contactId : ContactId
  deriving DecidableEq, Repr

def MembershipSnapshot.key (snapshot : MembershipSnapshot) : WorkspaceId × FlowId × ContactId :=
  (snapshot.workspaceId, snapshot.flowId, snapshot.contactId)

structure FlowTables where
  flows : Table FlowRow.id := .empty
  flowVersions : Table FlowVersionRow.id := .empty
  flowRuns : Table FlowRunRow.id := .empty
  flowRunSteps : List FlowRunStep := []
  membershipSnapshot : Table MembershipSnapshot.key := .empty

namespace FlowTables

variable (tables : FlowTables)

/-- Rows of another workspace are not seen. -/
def flow? (workspaceId : WorkspaceId) (flowId : FlowId) : Option FlowRow :=
  (tables.flows.find? flowId).filter (·.workspaceId == workspaceId)

def version? (workspaceId : WorkspaceId) (versionId : FlowVersionId) : Option FlowVersionRow :=
  (tables.flowVersions.find? versionId).filter (·.workspaceId == workspaceId)

/-- `SELECT definition FROM flow_versions`, with nothing for a null id. -/
def definitionOf (workspaceId : WorkspaceId) (versionId : Option FlowVersionId) : Option FlowDefinition :=
  (versionId.bind (tables.version? workspaceId)).map FlowVersionRow.definition

def stepsOf (workspaceId : WorkspaceId) (flowRunId : FlowRunId) : List FlowRunStep :=
  tables.flowRunSteps.filter fun step => step.flowRunId == flowRunId && step.workspaceId == workspaceId

/-- `SELECT max(version_number) + 1`. -/
def nextVersionNumber (workspaceId : WorkspaceId) (flowId : FlowId) : Nat :=
  ((tables.flowVersions.rows.filter fun version =>
    version.workspaceId == workspaceId && version.flowId == flowId).map FlowVersionRow.versionNumber).foldl max 0 + 1

/-- `INSERT INTO flow_segment_membership_snapshot … ON CONFLICT DO NOTHING`, one row a contact. -/
def markSeen (workspaceId : WorkspaceId) (flowId : FlowId) (contactIds : List ContactId) : FlowTables :=
  let membershipSnapshot := contactIds.foldl
    (fun snapshot contactId => snapshot.insert { workspaceId, flowId, contactId }) tables.membershipSnapshot
  { tables with membershipSnapshot }

end FlowTables

end LocalCrm.Flows
