import LocalCrm.Flows.Definition

/-! One advance of a flow run. -/

set_option autoImplicit false

namespace LocalCrm.Flows

abbrev FlowId := Nat

inductive FlowStatus where
  | draft
  | live
  | paused
  deriving DecidableEq, Repr

inductive FlowRunStatus where
  | waiting
  | advancing
  | completed
  | exited
  | ejected
  deriving DecidableEq, Repr

def FlowRunStatus.active : FlowRunStatus → Bool
  | .waiting | .advancing => true
  | .completed | .exited | .ejected => false

inductive ExitReason where
  | reachedExit
  | exitCondition
  | stepBudgetExceeded
  | ejected
  deriving DecidableEq, Repr

structure FlowRunRow where
  id : FlowRunId
  workspaceId : WorkspaceId
  flowId : FlowId
  flowVersionId : FlowVersionId
  contactId : ContactId
  status : FlowRunStatus := .waiting
  currentNodeId : Option NodeId
  nextWakeAt : Option Timestamp
  enteredAt : Timestamp
  lastEntryAt : Timestamp
  exitedAt : Option Timestamp := none
  exitReason : Option ExitReason := none
  deriving DecidableEq, Repr

inductive NodeType where
  | trigger
  | delay
  | branch
  | send
  | exit
  deriving DecidableEq, Repr

def NodeConfig.type : NodeConfig → NodeType
  | .trigger _ _ _ => .trigger
  | .delay _ => .delay
  | .branch _ => .branch
  | .send _ _ _ => .send
  | .exit => .exit

inductive StepOutcome where
  | exitConditionSatisfied
  | deferredQuietHours
  | enqueued
  | waiting
  | branchedYes
  | branchedNo
  | completed
  deriving DecidableEq, Repr

structure FlowRunStep where
  workspaceId : WorkspaceId
  flowRunId : FlowRunId
  nodeId : NodeId
  nodeType : NodeType
  outcome : StepOutcome
  deriving DecidableEq, Repr

inductive FlowJob where
  | advance (flowRunId : FlowRunId) (delay : Int)
  | send (flowRunId : FlowRunId) (nodeId : NodeId) (contactId : ContactId)
  deriving DecidableEq, Repr

def maxStepsPerRun : Nat := 1000

structure Observed where
  now : Timestamp
  flowStatus : FlowStatus
  exitSatisfied : Bool
  quietUntil : Option Timestamp
  inSegment : SegmentId → Bool
  nextWaitUntil : Nat → Option Nat → Timestamp

inductive AdvanceError where
  | pinnedVersionNotFound (flowVersionId : FlowVersionId) (workspaceId : WorkspaceId)
  | currentNodeNotFound (nodeId : NodeId) (flowRunId : FlowRunId)
  | unsupportedNodeType (nodeId : NodeId) (flowRunId : FlowRunId)
  deriving DecidableEq, Repr

structure Advanced where
  run : FlowRunRow
  step : Option FlowRunStep := none
  jobs : List FlowJob := []
  deriving DecidableEq, Repr

def FlowRunRow.exitAs (run : FlowRunRow) (now : Timestamp) (status : FlowRunStatus) (reason : ExitReason) : FlowRunRow :=
  { run with status, exitedAt := some now, exitReason := some reason }

def FlowRunRow.moveOn (run : FlowRunRow) (now : Timestamp) (nextNodeId : Option NodeId) (wakeAt : Timestamp) : FlowRunRow :=
  match nextNodeId with
  | some nodeId => { run with currentNodeId := some nodeId, nextWakeAt := some wakeAt, status := .waiting }
  | none => run.exitAs now .completed .reachedExit

def FlowRunRow.step (run : FlowRunRow) (node : DefinitionNode) (outcome : StepOutcome) : FlowRunStep where
  workspaceId := run.workspaceId
  flowRunId := run.id
  nodeId := node.id
  nodeType := node.config.type
  outcome

def computeFixedWake (now : Timestamp) (amount : Nat) : DelayUnit → Timestamp
  | .minutes => now + amount * 60000
  | .hours => now + amount * 3600000
  | .days => now + amount * 86400000

def Observed.wakeAfter (seen : Observed) : FlowDelay → Timestamp
  | .fixed amount unit => computeFixedWake seen.now amount unit
  | .waitUntil timeOfDay dayOfWeek => seen.nextWaitUntil timeOfDay dayOfWeek

/-- The nudge a transition to another node enqueues; a run that ended gets none. -/
def forwardNudge (run : FlowRunRow) (nextNodeId : Option NodeId) : List FlowJob :=
  nextNodeId.toList.map fun _ => .advance run.id 0

def handleSendNode (seen : Observed) (definition : FlowDefinition) (run : FlowRunRow) (node : DefinitionNode) : Advanced :=
  match seen.quietUntil with
  | some wakeAt =>
    { run := { run with nextWakeAt := some wakeAt, status := .waiting }
      step := some (run.step node .deferredQuietHours)
      jobs := [.advance run.id (max 0 (wakeAt - seen.now))] }
  | none =>
    let nextNodeId := definition.resolveNextNodeId node.id
    { run := run.moveOn seen.now nextNodeId seen.now
      step := some (run.step node .enqueued)
      jobs := .send run.id node.id run.contactId :: forwardNudge run nextNodeId }

/-- The wake-up is enqueued even where the delay leads nowhere. -/
def handleDelayNode (seen : Observed) (definition : FlowDefinition) (run : FlowRunRow) (node : DefinitionNode)
    (delay : FlowDelay) : Advanced where
  run := run.moveOn seen.now (definition.resolveNextNodeId node.id) (seen.wakeAfter delay)
  step := some (run.step node .waiting)
  jobs := [.advance run.id (max 0 (seen.wakeAfter delay - seen.now))]

def handleBranchNode (seen : Observed) (definition : FlowDefinition) (run : FlowRunRow) (node : DefinitionNode)
    (segmentId : SegmentId) : Advanced :=
  let branch := if seen.inSegment segmentId then Branch.yes else Branch.no
  let nextNodeId := definition.resolveBranchNextNodeId node.id branch
  { run := run.moveOn seen.now nextNodeId seen.now
    step := some (run.step node (match branch with | .yes => .branchedYes | .no => .branchedNo))
    jobs := forwardNudge run nextNodeId }

def handleExitNode (seen : Observed) (run : FlowRunRow) (node : DefinitionNode) : Advanced where
  run := run.exitAs seen.now .completed .reachedExit
  step := some (run.step node .completed)

def dispatchNode (seen : Observed) (definition : FlowDefinition) (run : FlowRunRow) (node : DefinitionNode) :
    Except AdvanceError Advanced :=
  match node.config with
  | .send _ _ _ => .ok (handleSendNode seen definition run node)
  | .delay delay => .ok (handleDelayNode seen definition run node delay)
  | .branch segmentId => .ok (handleBranchNode seen definition run node segmentId)
  | .exit => .ok (handleExitNode seen run node)
  | .trigger _ _ _ => .error (.unsupportedNodeType node.id run.id)

def Observed.takesUp (seen : Observed) (run : FlowRunRow) : Bool :=
  run.status.active && run.nextWakeAt.all (· ≤ seen.now) && seen.flowStatus != .paused

def processFlowRunAdvance (seen : Observed) (pinned : Option FlowDefinition) (stepCount : Nat) (run : FlowRunRow) :
    Except AdvanceError Advanced :=
  if !seen.takesUp run then .ok { run }
  else
    match run.currentNodeId with
    | none => .ok { run }
    | some currentNodeId =>
      if maxStepsPerRun ≤ stepCount then .ok { run := run.exitAs seen.now .exited .stepBudgetExceeded }
      else
        match pinned with
        | none => .error (.pinnedVersionNotFound run.flowVersionId run.workspaceId)
        | some definition =>
          match definition.findNode currentNodeId with
          | none => .error (.currentNodeNotFound currentNodeId run.id)
          | some node =>
            if seen.exitSatisfied then
              .ok { run := run.exitAs seen.now .exited .exitCondition
                    step := some (run.step node .exitConditionSatisfied) }
            else dispatchNode seen definition run node

def FlowDefinition.follows (definition : FlowDefinition) (nodeId : NodeId) : List NodeId :=
  match (definition.findNode nodeId).map DefinitionNode.config with
  | some (.send _ _ _) | some (.delay _) => (definition.resolveNextNodeId nodeId).toList
  | some (.branch _) =>
    (definition.resolveBranchNextNodeId nodeId .yes).toList ++ (definition.resolveBranchNextNodeId nodeId .no).toList
  | some (.trigger _ _ _) | some .exit | none => []

section

variable {seen : Observed} {definition : FlowDefinition} {run : FlowRunRow} {node : DefinitionNode}
  {nodeId next : NodeId}

theorem follows_subset_targets (followed : next ∈ definition.follows nodeId) : next ∈ definition.targets nodeId := by
  unfold FlowDefinition.follows at followed
  split at followed
  · exact FlowDefinition.resolveNextNodeId_mem (Option.mem_toList.mp followed)
  · exact FlowDefinition.resolveNextNodeId_mem (Option.mem_toList.mp followed)
  · rcases List.mem_append.mp followed with yes | no
    · exact FlowDefinition.resolveBranchNextNodeId_mem (Option.mem_toList.mp yes)
    · exact FlowDefinition.resolveBranchNextNodeId_mem (Option.mem_toList.mp no)
  all_goals cases followed

inductive Dispatched (seen : Observed) (definition : FlowDefinition) (run : FlowRunRow) (node : DefinitionNode) :
    FlowRunRow → FlowRunStep → Prop where
  | deferred (wakeAt : Timestamp) (quiet : seen.quietUntil = some wakeAt) :
      Dispatched seen definition run node { run with nextWakeAt := some wakeAt, status := .waiting }
        (run.step node .deferredQuietHours)
  | moved (next : NodeId) (wakeAt : Timestamp) (outcome : StepOutcome) (followed : next ∈ definition.follows node.id)
      (visited : outcome ≠ .deferredQuietHours) :
      Dispatched seen definition run node
        { run with currentNodeId := some next, nextWakeAt := some wakeAt, status := .waiting } (run.step node outcome)
  | ended (now : Timestamp) (outcome : StepOutcome) (visited : outcome ≠ .deferredQuietHours) :
      Dispatched seen definition run node (run.exitAs now .completed .reachedExit) (run.step node outcome)

theorem dispatched_moveOn {now wakeAt : Timestamp} {nextNodeId : Option NodeId} {outcome : StepOutcome}
    (followed : ∀ next ∈ nextNodeId, next ∈ definition.follows node.id) (visited : outcome ≠ .deferredQuietHours) :
    Dispatched seen definition run node (run.moveOn now nextNodeId wakeAt) (run.step node outcome) := by
  cases nextNodeId with
  | none => exact .ended now outcome visited
  | some next => exact .moved next wakeAt outcome (followed next rfl) visited

theorem dispatchNode_cases {advanced : Advanced} (found : definition.findNode nodeId = some node)
    (dispatched : dispatchNode seen definition run node = .ok advanced) :
    ∃ step, advanced.step = some step ∧ Dispatched seen definition run node advanced.run step := by
  have keyed := FlowDefinition.findNode_id found
  subst keyed
  unfold dispatchNode at dispatched
  split at dispatched
  · next config =>
    cases dispatched
    unfold handleSendNode
    split
    · next wakeAt quiet => exact ⟨_, rfl, .deferred wakeAt quiet⟩
    · refine ⟨_, rfl, dispatched_moveOn ?_ (by decide)⟩
      intro next resolved
      simp only [FlowDefinition.follows, found, Option.map_some, config]
      exact Option.mem_toList.mpr resolved
  · next config =>
    cases dispatched
    refine ⟨_, rfl, dispatched_moveOn ?_ (by decide)⟩
    intro next resolved
    simp only [FlowDefinition.follows, found, Option.map_some, config]
    exact Option.mem_toList.mpr resolved
  · next config =>
    cases dispatched
    refine ⟨_, rfl, dispatched_moveOn ?_ (by split <;> decide)⟩
    intro next resolved
    simp only [FlowDefinition.follows, found, Option.map_some, config, List.mem_append]
    split at resolved
    · exact .inl (Option.mem_toList.mpr resolved)
    · exact .inr (Option.mem_toList.mpr resolved)
  · cases dispatched
    exact ⟨_, rfl, .ended seen.now .completed (by decide)⟩
  · cases dispatched

structure Executes (pinned : Option FlowDefinition) (run : FlowRunRow) (advanced : Advanced) : Prop where
  id : advanced.run.id = run.id
  flow : advanced.run.workspaceId = run.workspaceId ∧ advanced.run.flowId = run.flowId ∧
    advanced.run.contactId = run.contactId
  version : advanced.run.flowVersionId = run.flowVersionId
  entry : advanced.run.enteredAt = run.enteredAt ∧ advanced.run.lastEntryAt = run.lastEntryAt
  ended : run.status.active = false → advanced.run.status.active = false
  step : ∀ step ∈ advanced.step, step.flowRunId = run.id ∧ step.workspaceId = run.workspaceId ∧
    ∃ definition, pinned = some definition ∧ ∃ node ∈ definition.nodes, node.id = step.nodeId

theorem Dispatched.executes {after : FlowRunRow} {step : FlowRunStep} {jobs : List FlowJob}
    (dispatched : Dispatched seen definition run node after step) (found : definition.findNode nodeId = some node)
    (active : run.status.active = true) :
    Executes (some definition) run { run := after, step := some step, jobs := jobs } := by
  have member := FlowDefinition.findNode_mem found
  have stays : ∀ after : FlowRunRow, run.status.active = false → after.status.active = false := by
    intro after ended
    rw [active] at ended
    cases ended
  cases dispatched with
  | deferred | moved =>
    refine ⟨rfl, ⟨rfl, rfl, rfl⟩, rfl, ⟨rfl, rfl⟩, stays _, ?_⟩
    rintro step ⟨rfl⟩
    exact ⟨rfl, rfl, definition, rfl, node, member, rfl⟩
  | ended now outcome visited =>
    refine ⟨rfl, ⟨rfl, rfl, rfl⟩, rfl, ⟨rfl, rfl⟩, fun _ => rfl, ?_⟩
    rintro step ⟨rfl⟩
    exact ⟨rfl, rfl, definition, rfl, node, member, rfl⟩

theorem processFlowRunAdvance_executes {pinned : Option FlowDefinition} {stepCount : Nat} {advanced : Advanced}
    (processed : processFlowRunAdvance seen pinned stepCount run = .ok advanced) : Executes pinned run advanced := by
  have idle : Executes pinned run { run := run } :=
    ⟨rfl, ⟨rfl, rfl, rfl⟩, rfl, ⟨rfl, rfl⟩, fun ended => ended, fun _ member => by cases member⟩
  unfold processFlowRunAdvance at processed
  split at processed
  · cases processed
    exact idle
  · next taken =>
    have active : run.status.active = true := by
      simp only [Observed.takesUp, Bool.not_eq_true, Bool.not_eq_false', Bool.and_eq_true] at taken
      exact taken.1.1
    split at processed
    · cases processed
      exact idle
    · next nodeId current =>
      split at processed
      · cases processed
        exact ⟨rfl, ⟨rfl, rfl, rfl⟩, rfl, ⟨rfl, rfl⟩, fun _ => rfl, fun _ member => by cases member⟩
      · split at processed
        · cases processed
        · next definition =>
          split at processed
          · cases processed
          · next node found =>
            split at processed
            · cases processed
              refine ⟨rfl, ⟨rfl, rfl, rfl⟩, rfl, ⟨rfl, rfl⟩, fun _ => rfl, ?_⟩
              rintro step ⟨rfl⟩
              exact ⟨rfl, rfl, definition, rfl, node, FlowDefinition.findNode_mem found, rfl⟩
            · obtain ⟨step, stepped, dispatched⟩ := dispatchNode_cases found processed
              have executes := @Dispatched.executes _ _ _ _ _ _ _ advanced.jobs dispatched found active
              rw [← stepped] at executes
              exact executes

end

end LocalCrm.Flows
