import LocalCrm.Flows.RunStates
import LocalCrm.Flows.Sends
import LocalCrm.System.Claims

/-! The flow engine and the send workers over one database. -/

set_option autoImplicit false

namespace LocalCrm.Flows

open Library Delivery LocalCrm.System

structure Engine where
  flows : RunThreads
  world : World

inductive EngineLabel where
  | flow (turn : Turn RunWorkerTurn RunEvent)
  | world (label : Label)

def FlowTables.sentFrom (tables : FlowTables) (db : Database) : Database :=
  let flowVersions : Table FlowVersion.id := tables.flowVersions.image
    (fun version => { id := version.id, nodes := version.definition.nodes.map DefinitionNode.dispatched }) fun _ => rfl
  let flowRuns : Table FlowRun.id := tables.flowRuns.image
    (fun run => { id := run.id, workspaceId := run.workspaceId, flowVersionId := run.flowVersionId }) fun _ => rfl
  { db with flowVersions, flowRuns }

def FlowTables.sendsOf (tables : FlowTables) (jobs : List FlowJob) : List SendJob :=
  jobs.filterMap fun
    | .advance _ _ => none
    | .send flowRunId nodeId contactId =>
      (tables.flowRuns.find? flowRunId).map fun run => .flow run.workspaceId flowRunId nodeId contactId

/-- The rest of the system after a turn of the engine: one clock, its tables, and its new jobs in the queue. -/
def World.follow (world : World) (before after : RunStore) : World :=
  { world with
    now := after.now
    db := after.tables.sentFrom world.db
    sendJobs := (after.tables.sendsOf (after.jobs.drop before.jobs.length)).foldl JobQueue.add world.sendJobs }

def Label.engineOwn : Label → Bool
  | .environment (.advance _) | .environment (.putFlowVersion _) | .environment (.putFlowRun _) |
    .environment (.enqueueFlowSend _ _ _ _) => true
  | .environment _ | .api _ | .launch _ | .tick _ | .kickoff _ | .delivery _ | .reconcile _ | .webhookBatch _ _ |
    .sweep _ => false

def engineStep (platform : Platform) (engine : Engine) : EngineLabel → Option Engine
  | .flow turn => (runStep engine.flows turn).map fun flows =>
    { flows, world := World.follow engine.world engine.flows.shared flows.shared }
  | .world label =>
    if Label.engineOwn label then none
    else (step platform engine.world label).map fun world => { engine with world }

def emptyEngine (now : Timestamp) (surroundings : Surroundings) : Engine where
  flows := emptyRuns now surroundings
  world := initialWorld now

def FlowTables.stopped (tables : FlowTables) (flowRunId : FlowRunId) : Bool :=
  (tables.flowRuns.find? flowRunId).any fun run => run.status = .ejected || run.status = .exited

def GrantsStopped (engine : Engine) (label : EngineLabel) (next : Engine) : Prop :=
  ∃ id workspaceId flowRunId nodeId contactId claim,
    label = .world (.delivery (.deliver id (.flow workspaceId flowRunId nodeId contactId))) ∧
    engine.flows.shared.tables.stopped flowRunId = true ∧
    next.world.deliveries.find? id =
      some { id, job := .flow workspaceId flowRunId nodeId contactId, phase := .claimed claim }

/-- Everything the claim of a flow send asks for. -/
def claimable (now : Timestamp) (db : Database) (workspaceId : WorkspaceId) (flowRunId : FlowRunId) (nodeId : NodeId)
    (contactId : ContactId) : Bool :=
  !isWorkspaceSoftDeleted db.organizations workspaceId &&
    (readFlowSendPrereqs db workspaceId flowRunId nodeId).toOption.isSome &&
    (findContact db workspaceId contactId).toOption.any
      (fun contact => evaluatePreSendGate now db workspaceId contact = .sendable) &&
    (db.sends.find? (.flow workspaceId flowRunId nodeId)).isNone

/-- A job that is delivered for a stopped run is refused on other grounds. -/
def Engine.refusesStopped (engine : Engine) : EngineLabel → Bool
  | .world (.delivery (.deliver _ (.flow workspaceId flowRunId nodeId contactId))) =>
    !engine.flows.shared.tables.stopped flowRunId ||
      !claimable engine.world.now engine.world.db workspaceId flowRunId nodeId contactId
  | .flow _ | .world _ => true

section Claim

variable {ids : SendIdScheme} {now : Timestamp} {db : Database} {workspaceId : WorkspaceId} {flowRunId : FlowRunId}
  {nodeId : NodeId} {contactId : ContactId}

theorem claimFlowSend_proceeds : (∃ claim next, claimSend ids now db (.flow workspaceId flowRunId nodeId contactId) =
    .ok (.proceed claim, next)) ↔ claimable now db workspaceId flowRunId nodeId contactId = true := by
  unfold claimable
  simp only [claimSend, claimFlowSend]
  cases deleted : isWorkspaceSoftDeleted db.organizations workspaceId with
  | true => simp
  | false =>
    cases prereqs : readFlowSendPrereqs db workspaceId flowRunId nodeId with
    | error message => simp [bind, Except.bind, Except.toOption]
    | ok prereqs =>
      simp only [bind, Except.bind, claimAfterPrereqs]
      cases located : findContact db workspaceId contactId with
      | error message => simp [Except.toOption]
      | ok contact =>
        cases decision : evaluatePreSendGate now db workspaceId contact with
        | skip reason => simp [decision, Except.toOption]
        | sendable =>
          cases stored : db.sends.find? (.flow workspaceId flowRunId nodeId) with
          | none => simp [decision, Except.toOption, claimLedger_eq, claimIntent, stored, SendJob.intent]
          | some row =>
            cases status : row.status <;>
              simp [decision, Except.toOption, claimLedger_eq, claimIntent, stored, status, SendJob.intent]

end Claim

section Steps

variable {platform : Platform} {engine next : Engine} {label : EngineLabel}

theorem deliver_grants {id : Nat} {workspaceId : WorkspaceId} {flowRunId : FlowRunId} {nodeId : NodeId}
    {contactId : ContactId} {world after : World}
    (taken : step platform world (.delivery (.deliver id (.flow workspaceId flowRunId nodeId contactId))) =
      some after) :
    (∃ claim, after.deliveries.find? id =
        some { id, job := .flow workspaceId flowRunId nodeId contactId, phase := .claimed claim }) ↔
      claimable world.now world.db workspaceId flowRunId nodeId contactId = true := by
  rw [← @claimFlowSend_proceeds platform.sendIds]
  simp only [step, deliveryStep] at taken
  split at taken
  · split at taken
    · next message refused =>
      cases taken
      rw [refused]
      simp [Table.find?_put]
    · next result db claimed =>
      cases taken
      rw [claimed]
      cases result <;> simp [Table.find?_put, phaseOfClaim]
  · cases taken

theorem grants_iff (taken : engineStep platform engine label = some next) :
    ¬ GrantsStopped engine label next ↔ engine.refusesStopped label = true := by
  by_cases delivers : ∃ id workspaceId flowRunId nodeId contactId,
      label = .world (.delivery (.deliver id (.flow workspaceId flowRunId nodeId contactId)))
  · obtain ⟨id, workspaceId, flowRunId, nodeId, contactId, rfl⟩ := delivers
    simp only [engineStep, Label.engineOwn, Bool.false_eq_true, if_false, Option.map_eq_some_iff] at taken
    obtain ⟨world, delivered, rfl⟩ := taken
    have granted := deliver_grants delivered
    have shape : GrantsStopped engine
        (.world (.delivery (.deliver id (.flow workspaceId flowRunId nodeId contactId)))) { engine with world } ↔
        engine.flows.shared.tables.stopped flowRunId = true ∧
          claimable engine.world.now engine.world.db workspaceId flowRunId nodeId contactId = true := by
      rw [← granted]
      constructor
      · rintro ⟨_, _, _, _, _, claim, same, stopped, found⟩
        cases same
        exact ⟨stopped, claim, found⟩
      · rintro ⟨stopped, claim, found⟩
        exact ⟨_, _, _, _, _, claim, rfl, stopped, found⟩
    rw [shape]
    simp only [Engine.refusesStopped, Bool.or_eq_true, Bool.not_eq_true', not_and, Bool.not_eq_true]
    cases engine.flows.shared.tables.stopped flowRunId <;> simp
  · have refuses : engine.refusesStopped label = true := by
      unfold Engine.refusesStopped
      split
      · exact absurd ⟨_, _, _, _, _, rfl⟩ delivers
      · rfl
      · rfl
    apply iff_of_true _ refuses
    rintro ⟨id, workspaceId, flowRunId, nodeId, contactId, claim, rfl, _⟩
    exact delivers ⟨id, workspaceId, flowRunId, nodeId, contactId, rfl⟩

end Steps

/-- No send of a stopped run is claimed along a run exactly if each one delivered is refused on other grounds. -/
theorem stopped_run_sends_nothing_iff (platform : Platform) (engine : Engine) (trace : List EngineLabel) :
    Along (engineStep platform) (fun engine label next => ¬ GrantsStopped engine label next) engine trace ↔
      Along (engineStep platform) (fun engine label _ => engine.refusesStopped label = true) engine trace := by
  have kept : ∀ (engine : Engine) label next, True → engineStep platform engine label = some next → True :=
    fun _ _ _ _ _ => trivial
  have agree : ∀ (engine : Engine) label next, True → engineStep platform engine label = some next →
      (¬ GrantsStopped engine label next ↔ engine.refusesStopped label = true) :=
    fun _ _ _ _ taken => grants_iff taken
  exact along_congr kept agree trivial trace

/-- A flow with one mail is published and entered, and its advance enqueues the mail; then the run is ejected. -/
def ejectedBeforeClaim : List EngineLabel :=
  [.world (.environment (.createWorkspace 1 "acme")),
    .world (.environment (.putSendgridKey { workspaceId := 1, apiKey := "key" })),
    .world (.environment (.putContact { id := 3, workspaceId := 1, email := some "ann@example.com" })),
    .flow (.thread 0 (.call (.start 1 (.create "welcome" "owner")))),
    .flow (.thread 0 (.call (.commit { now := 0, flowId := 7, versionId := 10 }))),
    .flow (.thread 0 (.call (.start 1 (.update 7 { definition := some addressedFlow })))),
    .flow (.thread 0 (.call .read)), .flow (.thread 0 (.call (.commit { now := 1 }))),
    .flow (.thread 0 (.call (.start 1 (.publish 7 false)))), .flow (.thread 0 (.call .read)),
    .flow (.thread 0 (.call (.commit { now := 2 }))), .flow (.thread 1 (.call (.start 1 (.enter 7 3)))),
    .flow (.thread 1 (.call (.commit { now := 3, flowRunId := 20 }))), .flow (.outside (.elapse 5)),
    .flow (.thread 2 (.claim 1 20)), .flow (.thread 2 .commit),
    .flow (.outside (.eject 1 7 { runIds := [20] }))]

/-- The mail of the ejected run is claimed, and the provider called. -/
theorem ejected_run_is_mailed : ¬ ∀ (platform : Platform) (now : Timestamp) (surroundings : Surroundings)
    (trace : List EngineLabel), Along (engineStep platform)
      (fun engine label next => ¬ GrantsStopped engine label next) (emptyEngine now surroundings) trace := by
  intro always
  have runs : (run (engineStep pairedPlatform) (emptyEngine 0 quietSurroundings) ejectedBeforeClaim).any (fun engine =>
      engine.flows.shared.tables.stopped 20 &&
        claimable engine.world.now engine.world.db 1 20 2 3 &&
        (engineStep pairedPlatform engine (.world (.delivery (.deliver 0 (.flow 1 20 2 3))))).any fun claimed =>
          (engineStep pairedPlatform claimed (.world (.delivery (.call 0)))).any fun called =>
            called.world.providerCalls.rows.length == 1) = true := by
    decide +kernel
  obtain ⟨engine, ran, facts⟩ := (Option.any_eq_true _ _).mp runs
  obtain ⟨facts, calls⟩ := Bool.and_eq_true_iff.mp facts
  obtain ⟨stopped, free⟩ := Bool.and_eq_true_iff.mp facts
  obtain ⟨next, taken, _⟩ := (Option.any_eq_true _ _).mp calls
  have along := always pairedPlatform 0 quietSurroundings
    (ejectedBeforeClaim ++ [.world (.delivery (.deliver 0 (.flow 1 20 2 3)))])
  have refused := (grants_iff taken).mp (along_last along ran taken)
  simp only [Engine.refusesStopped, stopped, free] at refused
  cases refused

end LocalCrm.Flows
