import LocalCrm.Dsr.Snapshot
import LocalCrm.Flows.Tables
import LocalCrm.Library.OffsetPages

/-! The lists that the API reads page by page.

Every query names the rows it matches and the key it orders them by.
-/

set_option autoImplicit false

namespace LocalCrm.Lists

open Library Dsr Erasure

structure FlowTableRow extends Flows.FlowRow where
  createdAt : Timestamp
  updatedAt : Timestamp
  deriving DecidableEq, Repr

structure SegmentRow where
  id : SegmentId
  workspaceId : WorkspaceId
  name : String
  definition : JsonValue
  createdByUserId : String
  memberCount : Option Nat := none
  memberCountAt : Option Timestamp := none
  createdAt : Timestamp
  updatedAt : Timestamp
  deriving DecidableEq, Repr

structure Store extends Snapshot where
  campaigns : Campaigns := .empty
  flows : Table fun row : FlowTableRow => row.id := .empty
  segments : Table SegmentRow.id := .empty

/-- What the transaction of a tenant sees. -/
def Store.visibleTo (store : Store) (workspaceId : WorkspaceId) : Store where
  toSnapshot := store.toSnapshot.visibleTo workspaceId
  campaigns := store.campaigns.delete (·.workspaceId != workspaceId)
  flows := store.flows.delete (·.workspaceId != workspaceId)
  segments := store.segments.delete (·.workspaceId != workspaceId)

structure ListResult (Row : Type) where
  items : List Row
  total : Nat
  page : Nat
  pageSize : Nat

section SendLog

inductive SendLogStatus where
  | sent
  | delivered
  | opened
  | clicked
  | bounced
  | dropped
  | spam
  | failed
  | excluded
  | reconciling
  | unknown
  deriving DecidableEq, Repr

def SendLogStatus.text : SendLogStatus → String
  | sent => "sent"
  | delivered => "delivered"
  | opened => "opened"
  | clicked => "clicked"
  | bounced => "bounced"
  | dropped => "dropped"
  | spam => "spam"
  | failed => "failed"
  | excluded => "excluded"
  | reconciling => "reconciling"
  | unknown => "unknown"

structure ListSendLogQuery where
  contactId : Option ContactId := none
  campaignOrFlowId : Option Nat := none
  /-- No statuses filter nothing. -/
  statuses : List SendLogStatus := []
  /-- 7, 30 or 90 days -/
  period : Option Nat := none
  page : Nat

structure SendLogRow where
  id : SendId
  contactId : ContactId
  contactEmail : Option String
  contactFirstName : Option String
  contactLastName : Option String
  campaignId : Option CampaignId
  campaignName : Option String
  flowId : Option Flows.FlowId
  flowName : Option String
  flowRunId : Option FlowRunId
  status : String
  exclusionReason : Option String
  bounceReason : Option String
  dropReason : Option String
  queuedAt : Timestamp
  sentAt : Option Timestamp
  openCount : Nat
  clickCount : Nat
  deriving DecidableEq, Repr

def sendLogPageSize : Nat := 50

/-- `COMPUTED_STATUS_SQL` -/
def computedStatus (send : SendRow) : String :=
  if send.status = .excluded then "excluded"
  else if send.status = .failed then "failed"
  else if send.status = .reconciling then "reconciling"
  else if send.facts.bouncedAt.isSome then "bounced"
  else if send.facts.droppedAt.isSome then "dropped"
  else if send.facts.spamReportedAt.isSome then "spam"
  else if send.facts.firstClickedAt.isSome then "clicked"
  else if send.facts.firstOpenedAt.isSome then "opened"
  else if send.facts.deliveredAt.isSome then "delivered"
  else if send.status = .unknown then "unknown"
  else send.status.text

/-- `COALESCE(sent_at, queued_at)` -/
def loggedAt (sentAt : Option Timestamp) (queuedAt : Timestamp) : Timestamp := sentAt.getD queuedAt

def SendLogRow.loggedAt (row : SendLogRow) : Timestamp := Lists.loggedAt row.sentAt row.queuedAt

def Store.flowIdOf (store : Store) (send : SendRow) : Option Flows.FlowId :=
  (send.flowRunId.bind store.flowRuns.find?).map Flows.FlowRunRow.flowId

def Store.sendLogRow (store : Store) (send : SendRow) : SendLogRow :=
  let contact := store.contacts.find? send.contactId
  let flowId := store.flowIdOf send
  { id := send.id
    contactId := send.contactId
    contactEmail := contact.bind (·.email)
    contactFirstName := contact.bind (·.profile.firstName)
    contactLastName := contact.bind (·.profile.lastName)
    campaignId := send.campaignId
    campaignName := (send.campaignId.bind store.campaigns.find?).map Campaign.name
    flowId
    flowName := (flowId.bind store.flows.find?).map (·.name)
    flowRunId := send.flowRunId
    status := computedStatus send
    exclusionReason := send.exclusionReason
    bounceReason := send.facts.bounceReason
    dropReason := send.facts.dropReason
    queuedAt := send.queuedAt
    sentAt := send.sentAt
    openCount := send.facts.openCount
    clickCount := send.facts.clickCount }

def Store.matchesSendLog (store : Store) (workspaceId : WorkspaceId) (now : Timestamp) (query : ListSendLogQuery)
    (send : SendRow) : Bool :=
  send.workspaceId == workspaceId &&
    query.contactId.all (send.contactId == ·) &&
    query.campaignOrFlowId.all (fun id => send.campaignId == some id || store.flowIdOf send == some id) &&
    query.period.all fun days => now - days * millisecondsPerDay ≤ loggedAt send.sentAt send.queuedAt

def Store.sendLogRows (store : Store) (workspaceId : WorkspaceId) (now : Timestamp) (query : ListSendLogQuery) :
    List SendLogRow :=
  let client := store.visibleTo workspaceId
  let baseQuery := (client.sends.rows.filter (client.matchesSendLog workspaceId now query)).map client.sendLogRow
  baseQuery.filter fun row => query.statuses.isEmpty || (query.statuses.map SendLogStatus.text).contains row.status

def listSendLog (sort : List SendLogRow → List SendLogRow) (store : Store) (workspaceId : WorkspaceId)
    (now : Timestamp) (query : ListSendLogQuery) : ListResult SendLogRow :=
  let rows := store.sendLogRows workspaceId now query
  { items := offsetPage sendLogPageSize query.page (sort rows)
    total := rows.length
    page := query.page
    pageSize := sendLogPageSize }

end SendLog

section Timeline

inductive TimelineRowKind where
  | event
  | send
  | statusChange
  | flowEntryExit
  deriving DecidableEq, Repr

/-- The object that a branch of the union builds; only its own fields are in it. -/
inductive TimelineDetail where
  | event (eventId : EventId) (properties : Properties)
  | send (sendId : SendId) (campaignId : Option CampaignId) (flowRunId : Option FlowRunId) (nodeId : Option NodeId)
    (status : String) (openCount clickCount : Nat) (reason : Option String)
  | openActivity (sendId : SendId) (campaignId : Option CampaignId) (flowRunId : Option FlowRunId)
    (nodeId : Option NodeId) (openCount : Nat)
  | statusChange (oldStatus : Option String) (newStatus source : String) (reason : Option String)
  | flowRun (flowId : Flows.FlowId) (flowRunId : FlowRunId) (enteredAt : Timestamp) (exitedAt : Option Timestamp)
    (exitReason : Option Flows.ExitReason) (status : Flows.FlowRunStatus)
  deriving DecidableEq, Repr

structure TimelineRow where
  kind : TimelineRowKind
  occurredAt : Timestamp
  label : String
  detail : TimelineDetail
  deriving DecidableEq, Repr

inductive TimelineTypeFilter where
  | all
  | events
  | emails
  | statuses
  deriving DecidableEq, Repr

def contactTimelinePageSize : Nat := 50

/-- `KINDS_BY_TYPE_FILTER`; all kinds are no filter. -/
def kindsByTypeFilter : TimelineTypeFilter → Option (List TimelineRowKind)
  | .all => none
  | .events => some [.event]
  | .emails => some [.send]
  | .statuses => some [.statusChange, .flowEntryExit]

structure TimelineOptions where
  page : Option Nat := none
  type : Option TimelineTypeFilter := none

def timelineStatus (send : SendRow) : String :=
  if send.status = .excluded then "excluded"
  else if send.status = .reconciling then "reconciling"
  else if send.facts.bouncedAt.isSome then "bounced"
  else if send.facts.droppedAt.isSome then "dropped"
  else if send.facts.spamReportedAt.isSome then "spam"
  else if send.facts.firstClickedAt.isSome then "clicked"
  else if send.facts.firstOpenedAt.isSome then "opened"
  else if send.facts.deliveredAt.isSome then "delivered"
  else send.status.text

def timelineReason (send : SendRow) : Option String :=
  if send.status = .excluded then send.exclusionReason
  else if send.facts.bouncedAt.isSome then send.facts.bounceReason
  else if send.facts.droppedAt.isSome then send.facts.dropReason
  else none

def eventActivity (event : StoredEvent) : TimelineRow where
  kind := .event
  occurredAt := event.occurredAt
  label := event.name
  detail := .event event.id event.properties

def sendActivity (send : SendRow) : TimelineRow where
  kind := .send
  occurredAt := loggedAt send.sentAt send.queuedAt
  label := "Письмо"
  detail := .send send.id send.campaignId send.flowRunId send.nodeId (timelineStatus send) send.facts.openCount
    send.facts.clickCount (timelineReason send)

def openActivity (send : SendRow) : Option TimelineRow :=
  send.facts.firstOpenedAt.map fun firstOpenedAt =>
    { kind := .send
      occurredAt := firstOpenedAt
      label := "Письмо открыто"
      detail := .openActivity send.id send.campaignId send.flowRunId send.nodeId send.facts.openCount }

def statusActivity (change : StatusHistoryRow) : TimelineRow where
  kind := .statusChange
  occurredAt := change.changedAt
  label := change.oldStatus.getD "—" ++ " → " ++ change.newStatus
  detail := .statusChange change.oldStatus change.newStatus change.source change.reason

def runActivity (run : Flows.FlowRunRow) : TimelineRow where
  kind := .flowEntryExit
  occurredAt := run.enteredAt
  label := "Вошёл в цепочку"
  detail := .flowRun run.flowId run.id run.enteredAt run.exitedAt run.exitReason run.status

def Store.timelineRows (store : Store) (workspaceId : WorkspaceId) (contactId : ContactId)
    (type : TimelineTypeFilter) : List TimelineRow :=
  let client := store.visibleTo workspaceId
  let sends := client.sends.rows.filter fun send => send.workspaceId == workspaceId && send.contactId == contactId
  let unioned :=
    (client.events.rows.filter fun event => event.workspaceId == workspaceId && event.contactId == contactId).map
      eventActivity ++
    (sends.map sendActivity ++
    (sends.filterMap openActivity ++
    ((client.subscriptionStatusHistory.rows.filter fun change =>
      change.workspaceId == workspaceId && change.contactId == contactId).map statusActivity ++
    (client.flowRuns.rows.filter fun run => run.workspaceId == workspaceId && run.contactId == contactId).map
      runActivity)))
  unioned.filter fun row => (kindsByTypeFilter type).all (·.contains row.kind)

def listContactTimeline (sort : List TimelineRow → List TimelineRow) (store : Store) (workspaceId : WorkspaceId)
    (contactId : ContactId) (options : TimelineOptions) : List TimelineRow :=
  let page := max 1 (options.page.getD 1)
  offsetPage contactTimelinePageSize page
    (sort (store.timelineRows workspaceId contactId (options.type.getD .all)))

end Timeline

section Runs

structure FlowRunListRow where
  id : FlowRunId
  workspaceId : WorkspaceId
  flowId : Flows.FlowId
  flowVersionId : FlowVersionId
  contactId : ContactId
  status : Flows.FlowRunStatus
  currentNodeId : Option NodeId
  nextWakeAt : Option Timestamp
  enteredAt : Timestamp
  lastEntryAt : Timestamp
  exitedAt : Option Timestamp
  exitReason : Option Flows.ExitReason
  contactEmail : Option String
  contactFirstName : Option String
  contactLastName : Option String
  onOldVersion : Option Bool
  deriving DecidableEq, Repr

structure ListRunsQuery where
  page : Nat
  pageSize : Nat
  status : Option Flows.FlowRunStatus := none

structure FlowRunCounts where
  active : Nat
  onOldVersions : Nat
  deriving DecidableEq, Repr

structure ListRunsResult extends ListResult FlowRunListRow where
  counts : FlowRunCounts

/-- `JOIN flows f ON f.id = fr.flow_id AND f.workspace_id = fr.workspace_id` -/
def Store.flowOfRun (store : Store) (run : Flows.FlowRunRow) : Option FlowTableRow :=
  (store.flows.find? run.flowId).filter (·.workspaceId == run.workspaceId)

def onOldVersion (run : Flows.FlowRunRow) (flow : FlowTableRow) : Option Bool :=
  flow.liveVersionId.map (run.flowVersionId != ·)

def Store.runRow (store : Store) (run : Flows.FlowRunRow) : Option FlowRunListRow :=
  (store.flowOfRun run).map fun flow =>
    let contact := (store.contacts.find? run.contactId).filter (·.workspaceId == run.workspaceId)
    { id := run.id
      workspaceId := run.workspaceId
      flowId := run.flowId
      flowVersionId := run.flowVersionId
      contactId := run.contactId
      status := run.status
      currentNodeId := run.currentNodeId
      nextWakeAt := run.nextWakeAt
      enteredAt := run.enteredAt
      lastEntryAt := run.lastEntryAt
      exitedAt := run.exitedAt
      exitReason := run.exitReason
      contactEmail := contact.bind (·.email)
      contactFirstName := contact.bind (·.profile.firstName)
      contactLastName := contact.bind (·.profile.lastName)
      onOldVersion := onOldVersion run flow }

def Store.runsOfFlow (store : Store) (workspaceId : WorkspaceId) (flowId : Flows.FlowId)
    (status : Option Flows.FlowRunStatus) : List Flows.FlowRunRow :=
  store.flowRuns.rows.filter fun run =>
    run.workspaceId == workspaceId && run.flowId == flowId && status.all (run.status == ·)

def Store.runRows (store : Store) (workspaceId : WorkspaceId) (flowId : Flows.FlowId)
    (status : Option Flows.FlowRunStatus) : List FlowRunListRow :=
  let client := store.visibleTo workspaceId
  (client.runsOfFlow workspaceId flowId status).filterMap client.runRow

def queryRunCounts (store : Store) (workspaceId : WorkspaceId) (flowId : Flows.FlowId) : FlowRunCounts :=
  let joined := (store.runsOfFlow workspaceId flowId none).filterMap store.runRow
  let active := joined.filter (·.status.active)
  { active := active.length
    onOldVersions := active.countP (·.onOldVersion == some true) }

def listRuns (sort : List FlowRunListRow → List FlowRunListRow) (store : Store) (workspaceId : WorkspaceId)
    (flowId : Flows.FlowId) (query : ListRunsQuery) : ListRunsResult :=
  let client := store.visibleTo workspaceId
  { items := offsetPage query.pageSize query.page (sort (store.runRows workspaceId flowId query.status))
    total := (client.runsOfFlow workspaceId flowId query.status).length
    page := query.page
    pageSize := query.pageSize
    counts := queryRunCounts client workspaceId flowId }

end Runs

section Definitions

structure PageQuery where
  page : Nat
  pageSize : Nat

/-- The columns of a flow that the list shows. -/
structure FlowListRow where
  id : Flows.FlowId
  workspaceId : WorkspaceId
  name : String
  status : Flows.FlowStatus
  triggerType : Option Flows.TriggerType
  triggerEventName : Option String
  triggerSegmentId : Option SegmentId
  draftVersionId : Option FlowVersionId
  liveVersionId : Option FlowVersionId
  reentryMode : Flows.ReentryMode
  reentryWindowDays : Option Nat
  quietHoursMode : Flows.QuietHoursMode
  quietHoursStart : Option Nat
  quietHoursEnd : Option Nat
  exitConditions : List Flows.FlowExitCondition
  createdByUserId : String
  createdAt : Timestamp
  updatedAt : Timestamp
  deriving DecidableEq, Repr

/-- `FLOW_COLUMNS` -/
def FlowTableRow.columns (row : FlowTableRow) : FlowListRow where
  id := row.id
  workspaceId := row.workspaceId
  name := row.name
  status := row.status
  triggerType := row.triggerType
  triggerEventName := row.triggerEventName
  triggerSegmentId := row.triggerSegmentId
  draftVersionId := row.draftVersionId
  liveVersionId := row.liveVersionId
  reentryMode := row.reentryMode
  reentryWindowDays := row.reentryWindowDays
  quietHoursMode := row.quietHoursMode
  quietHoursStart := row.quietHoursStart
  quietHoursEnd := row.quietHoursEnd
  exitConditions := row.exitConditions
  createdByUserId := row.createdByUserId
  createdAt := row.createdAt
  updatedAt := row.updatedAt

def Store.flowRows (store : Store) (workspaceId : WorkspaceId) : List FlowListRow :=
  ((store.visibleTo workspaceId).flows.rows.filter (·.workspaceId == workspaceId)).map FlowTableRow.columns

def listFlows (sort : List FlowListRow → List FlowListRow) (store : Store) (workspaceId : WorkspaceId)
    (query : PageQuery) : ListResult FlowListRow :=
  let rows := store.flowRows workspaceId
  { items := offsetPage query.pageSize query.page (sort rows)
    total := rows.length
    page := query.page
    pageSize := query.pageSize }

def Store.segmentRows (store : Store) (workspaceId : WorkspaceId) : List SegmentRow :=
  (store.visibleTo workspaceId).segments.rows.filter (·.workspaceId == workspaceId)

def listSegments (sort : List SegmentRow → List SegmentRow) (store : Store) (workspaceId : WorkspaceId)
    (query : PageQuery) : ListResult SegmentRow :=
  let rows := store.segmentRows workspaceId
  { items := offsetPage query.pageSize query.page (sort rows)
    total := rows.length
    page := query.page
    pageSize := query.pageSize }

end Definitions

end LocalCrm.Lists
