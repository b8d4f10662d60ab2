import LocalCrm.Flows.Tables
import LocalCrm.Flows.Validate

/-! The transactions of the flow repository. -/

set_option autoImplicit false

namespace LocalCrm.Flows

open Library

inductive FlowStateErrorCode where
  | illegalTransition
  | incomplete
  | notFound
  deriving DecidableEq, Repr

structure FlowStateError where
  message : String
  code : FlowStateErrorCode
  details : List FlowValidationError := []
  deriving DecidableEq, Repr

/-- The trigger columns of a flow, taken from the first trigger node. -/
structure TriggerColumns where
  triggerType : Option TriggerType := none
  triggerEventName : Option String := none
  triggerSegmentId : Option SegmentId := none
  deriving DecidableEq, Repr

def extractTriggerColumns (definition : FlowDefinition) : TriggerColumns :=
  match (definition.nodes.find? DefinitionNode.isTrigger).map DefinitionNode.config with
  | some (.trigger triggerType eventName segmentId) =>
    { triggerType := some triggerType, triggerEventName := eventName, triggerSegmentId := segmentId }
  | some (.delay _) | some (.branch _) | some (.send _ _ _) | some .exit | none => {}

def FlowRow.withTrigger (flow : FlowRow) (columns : TriggerColumns) : FlowRow :=
  { flow with
    triggerType := columns.triggerType
    triggerEventName := columns.triggerEventName
    triggerSegmentId := columns.triggerSegmentId }

/-- A primary key that is taken fails the statement. -/
def insertFlow (tables : FlowTables) (flow : FlowRow) : Option FlowTables :=
  match tables.flows.find? flow.id with
  | some _ => none
  | none => some { tables with flows := tables.flows.insert flow }

def insertVersion (tables : FlowTables) (version : FlowVersionRow) : Option FlowTables :=
  match tables.flowVersions.find? version.id with
  | some _ => none
  | none => some { tables with flowVersions := tables.flowVersions.insert version }

/-- The last statement of both creations points the new flow at its first version. -/
def insertWithDraft (tables : FlowTables) (flow : FlowRow) (versionId : FlowVersionId) (definition : FlowDefinition) :
    Option FlowTables := do
  let inserted ← insertFlow tables { flow with draftVersionId := some versionId }
  insertVersion inserted
    { id := versionId, workspaceId := flow.workspaceId, flowId := flow.id, versionNumber := 1, definition }

def createFlow (tables : FlowTables) (workspaceId : WorkspaceId) (name createdByUserId : String) (flowId : FlowId)
    (versionId : FlowVersionId) : Option FlowTables :=
  insertWithDraft tables { id := flowId, workspaceId, name, createdByUserId, quietHoursMode := .workspaceDefault }
    versionId emptyDefinition

structure UpdateFlowDraftInput where
  name : Option String := none
  definition : Option FlowDefinition := none
  reentryMode : Option ReentryMode := none
  reentryWindowDays : Option Nat := none
  quietHoursMode : Option QuietHoursMode := none
  quietHoursStart : Option Nat := none
  quietHoursEnd : Option Nat := none
  exitConditions : Option (List FlowExitCondition) := none
  deriving DecidableEq, Repr

inductive DraftRead where
  | existing (versionId : FlowVersionId)
  | copied (versionNumber : Nat) (definition : FlowDefinition)
  deriving DecidableEq, Repr

def readDraft (tables : FlowTables) (existing : FlowRow) : DraftRead :=
  match existing.draftVersionId with
  | some versionId => .existing versionId
  | none => .copied (tables.nextVersionNumber existing.workspaceId existing.id)
      ((tables.definitionOf existing.workspaceId existing.liveVersionId).getD emptyDefinition)

/-- The flow row an update writes; the trigger columns follow the draft only before the first publish. -/
def updatedFlow (existing : FlowRow) (patch : UpdateFlowDraftInput) (draftVersionId : FlowVersionId) : FlowRow :=
  let updated := { existing with
    name := patch.name.getD existing.name
    draftVersionId := some draftVersionId
    reentryMode := patch.reentryMode.getD existing.reentryMode
    reentryWindowDays := patch.reentryWindowDays.or existing.reentryWindowDays
    quietHoursMode := patch.quietHoursMode.getD existing.quietHoursMode
    quietHoursStart := patch.quietHoursStart.or existing.quietHoursStart
    quietHoursEnd := patch.quietHoursEnd.or existing.quietHoursEnd
    exitConditions := patch.exitConditions.getD existing.exitConditions }
  match patch.definition with
  | some definition => if existing.status = .draft then updated.withTrigger (extractTriggerColumns definition) else updated
  | none => updated

/-- `UPDATE flows SET …` of every column but the cursor of the enrolment, which no repository call writes. -/
def writeFlow (tables : FlowTables) (flow : FlowRow) : FlowTables :=
  let flows := tables.flows.update (fun row => row.id == flow.id && row.workspaceId == flow.workspaceId)
    fun row => { flow with id := row.id, enrollCursor := row.enrollCursor }
  { tables with flows }

def writeDefinition (tables : FlowTables) (workspaceId : WorkspaceId) (versionId : FlowVersionId)
    (definition : Option FlowDefinition) : FlowTables :=
  match definition with
  | none => tables
  | some definition =>
    let flowVersions := tables.flowVersions.update
      (fun version => version.id == versionId && version.workspaceId == workspaceId)
      fun version => { version with definition }
    { tables with flowVersions }

def updateFlowDraft (tables : FlowTables) (existing : FlowRow) (patch : UpdateFlowDraftInput) (read : DraftRead)
    (newVersionId : FlowVersionId) : Option FlowTables :=
  match read with
  | .existing versionId =>
    some (writeFlow (writeDefinition tables existing.workspaceId versionId patch.definition)
      (updatedFlow existing patch versionId))
  | .copied versionNumber definition =>
    (insertVersion tables { id := newVersionId, workspaceId := existing.workspaceId, flowId := existing.id
                            versionNumber, definition }).map fun inserted =>
      writeFlow (writeDefinition inserted existing.workspaceId newVersionId patch.definition)
        (updatedFlow existing patch newVersionId)

structure PublishRead where
  draftVersionId : FlowVersionId
  definition : FlowDefinition
  deriving DecidableEq, Repr

def readPublish (tables : FlowTables) (existing : FlowRow) : Except FlowStateError PublishRead :=
  match existing.draftVersionId with
  | none => .error { message := "No draft changes to publish", code := .illegalTransition }
  | some draftVersionId =>
    let definition := (tables.definitionOf existing.workspaceId (some draftVersionId)).getD emptyDefinition
    match definition.validateFlowDefinition with
    | [] => .ok { draftVersionId, definition }
    | errors => .error { message := "Flow definition is incomplete", code := .incomplete, details := errors }

def snapshotDraftToVersion (now : Timestamp) (tables : FlowTables) (workspaceId : WorkspaceId)
    (versionId : FlowVersionId) : FlowTables :=
  let flowVersions := tables.flowVersions.update
    (fun version => version.id == versionId && version.workspaceId == workspaceId)
    fun version => { version with publishedAt := some now }
  { tables with flowVersions }

def publishedFlow (existing : FlowRow) (read : PublishRead) : FlowRow :=
  let status : FlowStatus := if existing.status = .paused then .paused else .live
  let published := { existing with liveVersionId := some read.draftVersionId, draftVersionId := none, status }
  published.withTrigger (extractTriggerColumns read.definition)

/-- The segment a publish enrols from or seeds: that of a segment trigger. -/
def FlowRow.enrolsFrom (flow : FlowRow) : Option SegmentId :=
  if flow.triggerType = some .segment then flow.triggerSegmentId else none

/-- `members` are the contacts a segment matched when it was read; nothing where it is gone. -/
def publishFlow (now : Timestamp) (members : SegmentId → Option (List ContactId)) (tables : FlowTables)
    (existing : FlowRow) (read : PublishRead) (enrollExisting : Bool) : FlowTables :=
  let flow := publishedFlow existing read
  let published := writeFlow (snapshotDraftToVersion now tables existing.workspaceId read.draftVersionId) flow
  match if enrollExisting then none else flow.enrolsFrom.bind members with
  | some contactIds => published.markSeen flow.workspaceId flow.id contactIds
  | none => published

def pauseFlow (existing : FlowRow) : Except FlowStateError FlowRow :=
  if existing.status = .live then .ok { existing with status := .paused }
  else .error { message := "Only a live flow can be paused", code := .illegalTransition }

def resumeFlow (existing : FlowRow) : Except FlowStateError FlowRow :=
  if existing.status = .paused then .ok { existing with status := .live }
  else .error { message := "Only a paused flow can be resumed", code := .illegalTransition }

/-- The definition a duplicate starts from: the draft, else the live one. -/
def readSource (tables : FlowTables) (existing : FlowRow) : FlowDefinition :=
  (tables.definitionOf existing.workspaceId (existing.draftVersionId.or existing.liveVersionId)).getD emptyDefinition

def duplicateFlow (tables : FlowTables) (existing : FlowRow) (definition : FlowDefinition) (createdByUserId : String)
    (flowId : FlowId) (versionId : FlowVersionId) : Option FlowTables :=
  insertWithDraft tables
    { existing with
      id := flowId, createdByUserId, status := .draft, liveVersionId := none, enrollCursor := none }
    versionId definition

end LocalCrm.Flows
