import LocalCrm.Flows.Tables

/-! Entering a flow: the re-entry decision, the insertion of a run and the membership snapshot. -/

set_option autoImplicit false

namespace LocalCrm.Flows

open Library

inductive EntryRefusal where
  | activeRun
  | onceEver
  | reentryWindow
  deriving DecidableEq, Repr

structure CanEnterFlowParams where
  workspaceId : WorkspaceId
  flowId : FlowId
  contactId : ContactId
  reentryMode : ReentryMode
  reentryWindowDays : Option Nat
  deriving DecidableEq, Repr

def FlowRunRow.isFor (run : FlowRunRow) (workspaceId : WorkspaceId) (flowId : FlowId) (contactId : ContactId) : Bool :=
  run.workspaceId == workspaceId && run.flowId == flowId && run.contactId == contactId

namespace FlowTables

variable (tables : FlowTables)

def runsOf (workspaceId : WorkspaceId) (flowId : FlowId) (contactId : ContactId) : List FlowRunRow :=
  tables.flowRuns.rows.filter fun run => run.isFor workspaceId flowId contactId

def hasActiveRun (workspaceId : WorkspaceId) (flowId : FlowId) (contactId : ContactId) : Bool :=
  (tables.runsOf workspaceId flowId contactId).any fun run => run.status.active

/-- `ORDER BY last_entry_at DESC LIMIT 1`. -/
def lastEntryAt (workspaceId : WorkspaceId) (flowId : FlowId) (contactId : ContactId) : Option Timestamp :=
  ((tables.runsOf workspaceId flowId contactId).map FlowRunRow.lastEntryAt).max?

def canEnterFlow (now : Timestamp) (params : CanEnterFlowParams) : Except EntryRefusal Unit :=
  if tables.hasActiveRun params.workspaceId params.flowId params.contactId then .error .activeRun
  else
    match params.reentryMode with
    | .everyTime => .ok ()
    | .onceEver =>
      if (tables.runsOf params.workspaceId params.flowId params.contactId).isEmpty then .ok () else .error .onceEver
    | .oncePerNDays =>
      match tables.lastEntryAt params.workspaceId params.flowId params.contactId with
      | none => .ok ()
      | some lastEntryAt =>
        if params.reentryWindowDays.getD 0 * millisecondsPerDay ≤ now - lastEntryAt then .ok ()
        else .error .reentryWindow

def loadEntryNodeId (workspaceId : WorkspaceId) (flowVersionId : FlowVersionId) : Option NodeId :=
  (tables.definitionOf workspaceId (some flowVersionId)).bind FlowDefinition.entryNodeId

/-- `INSERT INTO flow_runs … ON CONFLICT … WHERE status IN ('waiting', 'advancing') DO NOTHING`. -/
def insertRun (run : FlowRunRow) : FlowTables :=
  if tables.hasActiveRun run.workspaceId run.flowId run.contactId then tables
  else { tables with flowRuns := tables.flowRuns.insert run }

def newRun (now : Timestamp) (flowRunId : FlowRunId) (workspaceId : WorkspaceId) (flowId : FlowId)
    (liveVersionId : FlowVersionId) (contactId : ContactId) : FlowRunRow where
  id := flowRunId
  workspaceId
  flowId
  flowVersionId := liveVersionId
  contactId
  currentNodeId := tables.loadEntryNodeId workspaceId liveVersionId
  nextWakeAt := some now
  enteredAt := now
  lastEntryAt := now

def hasSeenSnapshot (workspaceId : WorkspaceId) (flowId : FlowId) (contactId : ContactId) : Bool :=
  (tables.membershipSnapshot.find? (workspaceId, flowId, contactId)).isSome

end FlowTables

theorem hasSeenSnapshot_delete {tables : FlowTables} {guard : MembershipSnapshot → Bool} {workspaceId : WorkspaceId}
    {flowId : FlowId} {contactId : ContactId} (spared : guard ⟨workspaceId, flowId, contactId⟩ = false)
    (seen : tables.hasSeenSnapshot workspaceId flowId contactId = true) :
    FlowTables.hasSeenSnapshot { tables with membershipSnapshot := tables.membershipSnapshot.delete guard }
      workspaceId flowId contactId = true := by
  unfold FlowTables.hasSeenSnapshot at seen ⊢
  obtain ⟨snapshot, found⟩ := Option.isSome_iff_exists.mp seen
  have keyed : snapshot.key = (workspaceId, flowId, contactId) := Table.key_of_find? found
  obtain ⟨rfl, rfl, rfl⟩ := keyed
  rw [Table.find?_delete, found, Option.filter_some, spared]
  rfl

def advanceStored (seen : Observed) (tables : FlowTables) (workspaceId : WorkspaceId) (flowRunId : FlowRunId) :
    Except AdvanceError FlowTables :=
  match (tables.flowRuns.find? flowRunId).filter (·.workspaceId == workspaceId) with
  | none => .ok tables
  | some run =>
    (processFlowRunAdvance seen (tables.definitionOf workspaceId (some run.flowVersionId))
      (tables.stepsOf workspaceId flowRunId).length run).map fun advanced =>
      { tables with
        flowRuns := tables.flowRuns.put advanced.run
        flowRunSteps := tables.flowRunSteps ++ advanced.step.toList }

theorem advanceStored_cases {seen : Observed} {tables after : FlowTables} {workspaceId : WorkspaceId}
    {flowRunId : FlowRunId} (advanced : advanceStored seen tables workspaceId flowRunId = .ok after) :
    after = tables ∨ ∃ run result, tables.flowRuns.find? flowRunId = some run ∧
      Executes (tables.definitionOf workspaceId (some run.flowVersionId)) run result ∧
      (∀ wanted, after.flowRuns.find? wanted =
        if wanted = flowRunId then some result.run else tables.flowRuns.find? wanted) ∧
      after = { tables with
        flowRuns := tables.flowRuns.put result.run
        flowRunSteps := tables.flowRunSteps ++ result.step.toList } := by
  unfold advanceStored at advanced
  split at advanced
  · cases advanced
    exact .inl rfl
  · next run located =>
    obtain ⟨stored, _⟩ := Option.filter_eq_some_iff.mp located
    have keyed := Table.key_of_find? stored
    cases processed : processFlowRunAdvance seen (tables.definitionOf workspaceId (some run.flowVersionId))
        (tables.stepsOf workspaceId flowRunId).length run with
    | error message =>
      rw [processed] at advanced
      cases advanced
    | ok result =>
      rw [processed] at advanced
      cases advanced
      have executes := processFlowRunAdvance_executes processed
      refine .inr ⟨run, result, stored, executes, ?_, rfl⟩
      intro wanted
      rw [Table.find?_put, executes.id, keyed]

end LocalCrm.Flows
