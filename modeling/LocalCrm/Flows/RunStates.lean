import LocalCrm.Flows.Progress
import LocalCrm.Flows.TriggerColumns

/-! A flow run under advance jobs, ejections and reconciliation nudges. -/

set_option autoImplicit false

namespace LocalCrm.Flows

open Library

/-- What an advance reads outside the flow tables. -/
structure Surroundings where
  /-- Whom a stored segment matches. -/
  segment : WorkspaceId → SegmentId → Option (ContactId → Bool)
  occurredSince : WorkspaceId → ContactId → String → Timestamp → Bool
  quietUntil : FlowRow → ContactId → Option Timestamp
  nextWaitUntil : ContactId → Nat → Option Nat → Timestamp

section

variable (surroundings : Surroundings) (run : FlowRunRow)

/-- A segment that is gone has no members. -/
def evaluateSegmentExitCondition (segmentId : SegmentId) (isIn : Bool) : Bool :=
  match surroundings.segment run.workspaceId segmentId with
  | none => !isIn
  | some holds => holds run.contactId == isIn

def evaluateEventExitCondition (eventName : String) : Bool :=
  surroundings.occurredSince run.workspaceId run.contactId eventName run.enteredAt

def evaluateExitConditions (exitConditions : List FlowExitCondition) : Bool :=
  exitConditions.any fun
    | .segment segmentId isIn => evaluateSegmentExitCondition surroundings run segmentId isIn
    | .event eventName => evaluateEventExitCondition surroundings run eventName

end

structure RunStore where
  calls : Store
  /-- The worker that holds the row of a run. -/
  heldBy : FlowRunId → Option Nat
  now : Timestamp
  surroundings : Surroundings
  /-- Whatever has been enqueued. -/
  jobs : List FlowJob := []

abbrev RunStore.tables (store : RunStore) : FlowTables := store.calls.tables

inductive RunWorker where
  | calling (session : Session)
  | advancing (run : FlowRunRow) (seen : Observed) (advanced : Advanced)
  | nudging (run : FlowRunRow)

def RunWorker.idle : RunWorker := .calling .idle

def RunWorker.isIdle : RunWorker → Bool
  | .calling session => session == .idle
  | .advancing _ _ _ | .nudging _ => false

inductive RunWorkerTurn where
  | call (turn : SessionTurn)
  | claim (workspaceId : WorkspaceId) (flowRunId : FlowRunId)
  | nudge (workspaceId : WorkspaceId) (flowRunId : FlowRunId)
  | commit
  | crash

structure EjectRunsInput where
  runIds : List FlowRunId := []
  contactIds : List ContactId := []
  deriving DecidableEq, Repr

inductive RunEvent where
  | elapse (milliseconds : Nat)
  | change (surroundings : Surroundings)
  | eject (workspaceId : WorkspaceId) (flowId : FlowId) (input : EjectRunsInput)

def FlowRunRow.matchesEject (run : FlowRunRow) (workspaceId : WorkspaceId) (flowId : FlowId) (input : EjectRunsInput) :
    Bool :=
  run.workspaceId == workspaceId && run.flowId == flowId && run.status.active &&
    (input.runIds.contains run.id || input.contactIds.contains run.contactId)

def ejectRuns (now : Timestamp) (tables : FlowTables) (workspaceId : WorkspaceId) (flowId : FlowId)
    (input : EjectRunsInput) : FlowTables :=
  let flowRuns := tables.flowRuns.update (fun run => run.matchesEject workspaceId flowId input)
    fun run => run.exitAs now .ejected .ejected
  { tables with flowRuns }

namespace RunStore

variable (store : RunStore)

def withTables (tables : FlowTables) : RunStore := { store with calls := { store.calls with tables } }

def hold (id : Nat) (flowRunId : FlowRunId) : RunStore :=
  { store with heldBy := Function.update store.heldBy flowRunId (some id) }

def letGo (flowRunId : FlowRunId) : RunStore :=
  { store with heldBy := Function.update store.heldBy flowRunId none }

/-- `FOR UPDATE OF fr SKIP LOCKED`, joined to the flow. -/
def lockRun (workspaceId : WorkspaceId) (flowRunId : FlowRunId) : Option (FlowRunRow × FlowRow) :=
  match (store.tables.flowRuns.find? flowRunId).filter (·.workspaceId == workspaceId), store.heldBy flowRunId with
  | some run, none => (store.tables.flow? workspaceId run.flowId).map (run, ·)
  | some _, some _ | none, _ => none

def observe (run : FlowRunRow) (flow : FlowRow) : Observed where
  now := store.now
  flowStatus := flow.status
  exitSatisfied := evaluateExitConditions store.surroundings run flow.exitConditions
  quietUntil := store.surroundings.quietUntil flow run.contactId
  inSegment segmentId := (store.surroundings.segment run.workspaceId segmentId).any (· run.contactId)
  nextWaitUntil := store.surroundings.nextWaitUntil run.contactId

end RunStore

section Turns

variable (id : Nat) (store : RunStore)

def claimRun (workspaceId : WorkspaceId) (flowRunId : FlowRunId) : RunStore × RunWorker :=
  match store.lockRun workspaceId flowRunId with
  | none => (store, .idle)
  | some (run, flow) =>
    let seen := store.observe run flow
    match processFlowRunAdvance seen (store.tables.definitionOf workspaceId (some run.flowVersionId))
        (store.tables.stepsOf workspaceId flowRunId).length run with
    | .error _ => (store, .idle)
    | .ok advanced =>
      ({ store.hold id flowRunId with jobs := store.jobs ++ advanced.jobs }, .advancing run seen advanced)

def transitionAndNudge (workspaceId : WorkspaceId) (flowRunId : FlowRunId) : RunStore × RunWorker :=
  match store.lockRun workspaceId flowRunId with
  | none => (store, .idle)
  | some (run, flow) =>
    if run.status = .waiting ∧ run.nextWakeAt.any (· ≤ store.now) ∧ flow.status ≠ .paused then
      (store.hold id flowRunId, .nudging run)
    else (store, .idle)

def commitAdvance (run : FlowRunRow) (advanced : Advanced) : RunStore :=
  let tables := { store.tables with
    flowRuns := store.tables.flowRuns.put advanced.run
    flowRunSteps := store.tables.flowRunSteps ++ advanced.step.toList }
  (store.withTables tables).letGo run.id

def runWorkerTurn (worker : RunWorker) : RunWorkerTurn → Option (RunStore × RunWorker)
  | .call turn =>
    match worker with
    | .calling session =>
      (sessionTurn id store.calls session turn).map fun (calls, session) => ({ store with calls }, .calling session)
    | .advancing _ _ _ | .nudging _ => none
  | .claim workspaceId flowRunId => if worker.isIdle then some (claimRun id store workspaceId flowRunId) else none
  | .nudge workspaceId flowRunId =>
    if worker.isIdle then some (transitionAndNudge id store workspaceId flowRunId) else none
  | .commit =>
    match worker with
    | .calling _ => none
    | .advancing run _ advanced => some (commitAdvance store run advanced, .idle)
    | .nudging run => some ({ store.letGo run.id with jobs := store.jobs ++ [.advance run.id 0] }, .idle)
  | .crash =>
    match worker with
    | .calling _ => none
    | .advancing run _ _ | .nudging run => some (store.letGo run.id, .idle)

/-- An ejection waits as long as a row it matches is held. -/
def runEvent : RunEvent → Option RunStore
  | .elapse milliseconds => some { store with now := store.now + milliseconds }
  | .change surroundings => some { store with surroundings }
  | .eject workspaceId flowId input =>
    if store.tables.flowRuns.rows.any fun run =>
        run.matchesEject workspaceId flowId input && (store.heldBy run.id).isSome then none
    else some (store.withTables (ejectRuns store.now store.tables workspaceId flowId input))

end Turns

abbrev RunThreads := Threads RunStore RunWorker

def runStep : RunThreads → Turn RunWorkerTurn RunEvent → Option RunThreads := interleave runWorkerTurn runEvent

def emptyRuns (now : Timestamp) (surroundings : Surroundings) : RunThreads where
  shared := { calls := emptyStore.shared, heldBy := fun _ => none, now, surroundings }
  own _ := .idle

def Advanced.handled (advanced : Advanced) : Bool :=
  advanced.step.any fun step => step.outcome != .exitConditionSatisfied

section Advances

variable {seen : Observed} {run : FlowRunRow} {pinned : Option FlowDefinition} {stepCount : Nat} {advanced : Advanced}

theorem processFlowRunAdvance_moves {definition : FlowDefinition} {current : NodeId}
    (processed : processFlowRunAdvance seen (some definition) stepCount run = .ok advanced)
    (at_ : run.currentNodeId = some current) :
    ∃ later, advanced.run.currentNodeId = some later ∧ (later = current ∨ later ∈ definition.targets current) := by
  unfold processFlowRunAdvance at processed
  split at processed
  · cases processed
    exact ⟨current, at_, .inl rfl⟩
  · rw [at_] at processed
    dsimp only at processed
    split at processed
    · cases processed
      exact ⟨current, at_, .inl rfl⟩
    · cases found : definition.findNode current with
      | none =>
        rw [found] at processed
        cases processed
      | some node =>
        rw [found] at processed
        dsimp only at processed
        split at processed
        · cases processed
          exact ⟨current, at_, .inl rfl⟩
        · obtain ⟨step, _, dispatched⟩ := dispatchNode_cases found processed
          have keyed := FlowDefinition.findNode_id found
          generalize advanced.run = after at dispatched
          cases dispatched with
          | deferred | ended => exact ⟨current, at_, .inl rfl⟩
          | moved later wakeAt outcome followed visited =>
            rw [keyed] at followed
            exact ⟨later, rfl, .inr (follows_subset_targets followed)⟩

theorem processFlowRunAdvance_handled (processed : processFlowRunAdvance seen pinned stepCount run = .ok advanced)
    (handled : advanced.handled = true ∨ advanced.jobs ≠ []) :
    seen.takesUp run = true ∧ seen.exitSatisfied = false := by
  have idle : ∀ run, ¬ (Advanced.handled { run } = true ∨ ({ run } : Advanced).jobs ≠ []) := by
    simp [Advanced.handled]
  unfold processFlowRunAdvance at processed
  split at processed
  · cases processed
    exact absurd handled (idle _)
  · next taken =>
    rw [Bool.not_eq_true, Bool.not_eq_false'] at taken
    split at processed
    · cases processed
      exact absurd handled (idle _)
    · split at processed
      · cases processed
        exact absurd handled (idle _)
      · split at processed
        · cases processed
        · split at processed
          · cases processed
          · split at processed
            · cases processed
              simp [Advanced.handled, FlowRunRow.step] at handled
            · next satisfied => exact ⟨taken, Bool.eq_false_of_not_eq_true satisfied⟩

theorem processFlowRunAdvance_ended (ended : run.status.active = false) :
    processFlowRunAdvance seen pinned stepCount run = .ok { run } := by
  unfold processFlowRunAdvance Observed.takesUp
  rw [ended]
  rfl

end Advances

/-- Published definitions have passed the validator, and every run is at a node of the published version it
is pinned to. -/
structure RunsSound (tables : FlowTables) : Prop where
  valid : ∀ versionId version, tables.flowVersions.find? versionId = some version → version.publishedAt.isSome →
    version.definition.validateFlowDefinition = []
  placed : ∀ runId run, tables.flowRuns.find? runId = some run → ∃ version nodeId,
    tables.flowVersions.find? run.flowVersionId = some version ∧ version.publishedAt.isSome ∧
      version.workspaceId = run.workspaceId ∧ run.currentNodeId = some nodeId

/-- A publish goes on with a definition it has validated, an enrolment with a version of the flow's workspace. -/
structure KnowsEntry (store : Store) (session : Session) : Prop where
  checked : ∀ existing enrollExisting read, session = .writingPublish existing enrollExisting read →
    read.definition.validateFlowDefinition = []
  entering : ∀ flow liveVersionId contactId, session = .entering flow liveVersionId contactId →
    ∃ version, store.tables.flowVersions.find? liveVersionId = some version ∧ version.publishedAt.isSome ∧
      version.workspaceId = flow.workspaceId

section Calls

variable {id : Nat} {store next : Store} {session after : Session} {tables : FlowTables}

theorem knowsEntry_of_quiet (quiet : session.writes = false) (outside : ∀ flow liveVersionId contactId,
    session ≠ .entering flow liveVersionId contactId) : KnowsEntry store session where
  checked existing enrollExisting read same := by
    rw [same] at quiet
    cases quiet
  entering flow liveVersionId contactId same := absurd same (outside flow liveVersionId contactId)

theorem knowsEntry_idle : KnowsEntry store .idle :=
  knowsEntry_of_quiet rfl fun _ _ _ same => by cases same

theorem knowsEntry_stable (knows : KnowsEntry store session)
    (published : KeepsPublished store.tables next.tables) : KnowsEntry next session where
  checked := knows.checked
  entering flow liveVersionId contactId same := by
    obtain ⟨version, stored, stamped, within⟩ := knows.entering flow liveVersionId contactId same
    exact ⟨version, published liveVersionId version stored stamped, stamped, within⟩

theorem startCall_knowsEntry {workspaceId : WorkspaceId} {command : FlowCommand} (ok : StoreOk store)
    (staged : AllStaged store.tables) (started : startCall id store workspaceId command = some (next, after)) :
    KnowsEntry next after := by
  cases command with
  | enter flowId contactId =>
    simp only [startCall, readLiveFlow, Option.some.injEq] at started
    split at started
    · cases started
      exact knowsEntry_idle
    · next flow found =>
      split at started
      · cases started
        exact knowsEntry_idle
      · next liveVersionId live =>
        cases started
        obtain ⟨stored, _⟩ := flow?_some (Option.filter_eq_some_iff.mp found).1
        -- the live version is stored in the flow's workspace and published
        obtain ⟨_, read⟩ := (staged flowId flow stored).published (by rw [live]; rfl)
        obtain ⟨definition, read⟩ := Option.isSome_iff_exists.mp read
        obtain ⟨wanted, version, pointed, there, within, _⟩ := definitionOf_some.mp read
        cases live.symm.trans pointed
        obtain ⟨again, same, _, stamped⟩ := ok.versioned.live flowId flow liveVersionId stored live
        cases there.symm.trans same
        constructor
        · intro existing enrollExisting read same
          cases same
        · intro other otherVersion otherContact same
          cases same
          exact ⟨version, there, stamped, within⟩
  | create | update | publish | pause | resume | duplicate =>
    simp only [startCall, lockFlow, readFlow] at started
    repeat' split at started
    all_goals cases started
    all_goals exact knowsEntry_of_quiet rfl fun _ _ _ same => by cases same

theorem sessionTurn_knowsEntry {turn : SessionTurn} (ok : StoreOk store) (staged : AllStaged store.tables)
    (turned : sessionTurn id store session turn = some (next, after)) : KnowsEntry next after := by
  cases turn with
  | start workspaceId command =>
    simp only [sessionTurn] at turned
    split at turned
    · exact startCall_knowsEntry ok staged turned
    · cases turned
  | read =>
    simp only [sessionTurn, readVersions] at turned
    split at turned
    · cases turned
      constructor
      · intro existing enrollExisting read same
        cases same
      · intro flow liveVersionId contactId same
        cases same
    · next existing enrollExisting =>
      split at turned
      · next published checked =>
        cases turned
        constructor
        · intro other enrolling read same
          cases same
          unfold readPublish at checked
          split at checked
          · cases checked
          · dsimp only at checked
            split at checked
            · next valid =>
              cases checked
              exact valid
            · cases checked
        · intro flow liveVersionId contactId same
          cases same
      · rw [release_quiet (Option.some.inj turned)]
        exact knowsEntry_idle
    · cases turned
      exact knowsEntry_of_quiet rfl fun _ _ _ same => by cases same
    all_goals cases turned
  | commit | rollback =>
    rw [release_quiet (Option.some.inj turned)]
    exact knowsEntry_idle

theorem writes_valid (versioned : Versioned tables) (drafts : KnowsDraft store session)
    (entry : KnowsEntry store session) (sound : RunsSound store.tables)
    (writes : Writes store.tables session tables) : ∀ versionId version,
      tables.flowVersions.find? versionId = some version → version.publishedAt.isSome →
        version.definition.validateFlowDefinition = [] := by
  intro versionId version found stamped
  -- the draft a commit leaves behind is not stamped
  have drafted : ∀ {flowId : FlowId} {written : FlowVersionId} {flow : FlowRow} {row : FlowVersionRow},
      Rewrites store.tables tables flowId written flow row → flow.draftVersionId = some written →
        version.definition.validateFlowDefinition = [] := by
    intro flowId written flow row rewrites pointed
    rw [rewrites.versions] at found
    split at found
    · cases found
      obtain ⟨draft, there, _, _, unstamped⟩ := versioned.draft flowId flow written rewrites.stored pointed
      rw [rewrites.versions, if_pos rfl] at there
      cases there
      rw [unstamped] at stamped
      cases stamped
    · exact sound.valid versionId version found stamped
  cases writes with
  | created rewrites first _ | copied rewrites first _ _ => exact drafted rewrites first.draft
  | @redrafted existing patch _ written _ _ _ _ rewrites =>
    exact drafted rewrites (updatedFlow_pointers existing patch written).2.2.1
  | @published existing enrollExisting read row _ _ stored within rewrites =>
    rw [rewrites.versions] at found
    split at found
    · cases found
      obtain ⟨_, draft, pointed, there, _, same⟩ :=
        definitionOf_some.mp (drafts.publish existing enrollExisting read rfl)
      cases pointed
      cases stored.symm.trans there
      show row.definition.validateFlowDefinition = []
      rw [same]
      exact entry.checked existing enrollExisting read rfl
    · exact sound.valid versionId version found stamped
  | switched _ _ _ => exact sound.valid versionId version found stamped
  | entered _ versions =>
    rw [versions] at found
    exact sound.valid versionId version found stamped

theorem committed_runs {commit : Commit} (done : committed store commit session = some tables) :
    tables.flowRunSteps = store.tables.flowRunSteps ∧ (tables.flowRuns = store.tables.flowRuns ∨
      ∃ flow liveVersionId contactId, session = .entering flow liveVersionId contactId ∧
        tables = store.tables.insertRun (store.tables.newRun commit.now commit.flowRunId flow.workspaceId flow.id
          liveVersionId contactId)) := by
  unfold committed at done
  split at done
  · have rewrites := insertWithDraft_rewrites done
    exact ⟨rewrites.steps, .inl rewrites.runs⟩
  · next existing patch read =>
    have kept : ∀ (before : FlowTables) id flow,
        (writeFlow (writeDefinition before existing.workspaceId id patch.definition) flow).flowRuns = before.flowRuns ∧
          (writeFlow (writeDefinition before existing.workspaceId id patch.definition) flow).flowRunSteps =
            before.flowRunSteps := by
      intro before id flow
      cases patch.definition <;> exact ⟨rfl, rfl⟩
    cases read with
    | existing versionId =>
      cases done
      obtain ⟨runs, steps⟩ := kept store.tables versionId (updatedFlow existing patch versionId)
      exact ⟨steps, .inl runs⟩
    | copied versionNumber definition =>
      obtain ⟨middle, inserted, rfl⟩ := Option.map_eq_some_iff.mp done
      obtain ⟨_, _, runsBefore, stepsBefore, _⟩ := insertVersion_find inserted
      obtain ⟨runs, steps⟩ := kept middle commit.versionId (updatedFlow existing patch commit.versionId)
      exact ⟨steps.trans stepsBefore, .inl (runs.trans runsBefore)⟩
  · cases done
    unfold publishFlow
    dsimp only
    split <;> exact ⟨rfl, .inl rfl⟩
  · obtain ⟨written, _, rfl⟩ := Option.map_eq_some_iff.mp done
    exact ⟨rfl, .inl rfl⟩
  · obtain ⟨written, _, rfl⟩ := Option.map_eq_some_iff.mp done
    exact ⟨rfl, .inl rfl⟩
  · have rewrites := insertWithDraft_rewrites done
    exact ⟨rewrites.steps, .inl rewrites.runs⟩
  · next flow liveVersionId contactId =>
    cases done
    refine ⟨?_, .inr ⟨flow, liveVersionId, contactId, rfl, rfl⟩⟩
    unfold FlowTables.insertRun
    split <;> rfl
  all_goals cases done

theorem newRun_placed {now : Timestamp} {flowRunId : FlowRunId} {flow : FlowRow} {liveVersionId : FlowVersionId}
    {contactId : ContactId} {version : FlowVersionRow} (sound : RunsSound tables)
    (stored : tables.flowVersions.find? liveVersionId = some version) (stamped : version.publishedAt.isSome)
    (within : version.workspaceId = flow.workspaceId) :
    ∃ nodeId, (tables.newRun now flowRunId flow.workspaceId flow.id liveVersionId contactId).currentNodeId =
      some nodeId := by
  obtain ⟨trigger, guided⟩ := guided_of_valid (sound.valid liveVersionId version stored stamped)
  obtain ⟨nodeId, entry, _⟩ := guided.entry
  refine ⟨nodeId, ?_⟩
  show tables.loadEntryNodeId flow.workspaceId liveVersionId = some nodeId
  unfold FlowTables.loadEntryNodeId
  rw [definitionOf_some.mpr ⟨liveVersionId, version, rfl, stored, within, rfl⟩]
  exact entry

structure KeepsRuns (before after : FlowTables) : Prop where
  runs : ∀ runId run, before.flowRuns.find? runId = some run → after.flowRuns.find? runId = some run
  steps : after.flowRunSteps = before.flowRunSteps

theorem sessionTurn_runs {turn : SessionTurn} (ok : StoreOk store) (knows : Knows id store session)
    (drafts : KnowsDraft store session) (entry : KnowsEntry store session) (sound : RunsSound store.tables)
    (turned : sessionTurn id store session turn = some (next, after)) :
    RunsSound next.tables ∧ KeepsRuns store.tables next.tables := by
  have leaves := sessionTurn_leaves ok knows turned
  rcases sessionTurn_tables turned with same | ⟨commit, _, done⟩
  · rw [same]
    exact ⟨sound, fun _ _ found => found, rfl⟩
  · have valid := writes_valid leaves.ok.versioned drafts entry sound (committed_writes ok knows done)
    obtain ⟨steps, kept | ⟨flow, liveVersionId, contactId, rfl, inserted⟩⟩ := committed_runs done
    · refine ⟨⟨valid, ?_⟩, fun runId run found => by rw [kept]; exact found, steps⟩
      intro runId run found
      rw [kept] at found
      obtain ⟨version, nodeId, stored, stamped, rest⟩ := sound.placed runId run found
      exact ⟨version, nodeId, leaves.published _ version stored stamped, stamped, rest⟩
    · obtain ⟨version, stored, stamped, within⟩ := entry.entering flow liveVersionId contactId rfl
      obtain ⟨nodeId, placed⟩ := @newRun_placed _ commit.now commit.flowRunId flow liveVersionId contactId version sound
        stored stamped within
      have published := leaves.published
      rw [inserted] at published valid steps ⊢
      refine ⟨⟨valid, ?_⟩, ?_, steps⟩
      · intro runId run found
        rcases @insertRun_find store.tables _ runId with same | ⟨_, new⟩
        · rw [same] at found
          obtain ⟨row, nodeId, there, dated, rest⟩ := sound.placed runId run found
          exact ⟨row, nodeId, published _ row there dated, dated, rest⟩
        · cases new.symm.trans found
          exact ⟨version, nodeId, published _ version stored stamped, stamped, within, placed⟩
      · intro runId run found
        rcases @insertRun_find store.tables _ runId with same | ⟨missing, _⟩
        · exact same.trans found
        · rw [missing] at found
          cases found

end Calls

/-- A worker that has claimed a run holds its row as it read it. -/
structure Claimed (id : Nat) (store : RunStore) (run : FlowRunRow) (seen : Observed) (advanced : Advanced) : Prop where
  held : store.heldBy run.id = some id
  stored : store.tables.flowRuns.find? run.id = some run
  version : ∃ version, store.tables.flowVersions.find? run.flowVersionId = some version ∧ version.publishedAt.isSome
  processed : processFlowRunAdvance seen (store.tables.definitionOf run.workspaceId (some run.flowVersionId))
    (store.tables.stepsOf run.workspaceId run.id).length run = .ok advanced

def RunWorkerKnows (id : Nat) (store : RunStore) : RunWorker → Prop
  | .calling session => Knows id store.calls session ∧ KnowsDraft store.calls session ∧ KnowsEntry store.calls session
  | .advancing run seen advanced => Claimed id store run seen advanced
  | .nudging run => store.heldBy run.id = some id ∧ store.tables.flowRuns.find? run.id = some run

structure RunStoreOk (store : RunStore) : Prop where
  calls : StoreOk store.calls
  staged : AllStaged store.tables
  runs : RunsSound store.tables

structure ToleratesRuns (id : Nat) (store next : RunStore) : Prop where
  calls : Tolerates id store.calls next.calls
  drafts : ToleratesDraft id store.calls next.calls
  held : ∀ runId run, store.heldBy runId = some id → store.tables.flowRuns.find? runId = some run →
    next.heldBy runId = some id ∧ next.tables.flowRuns.find? runId = some run ∧
      ∀ workspaceId, next.tables.stepsOf workspaceId runId = store.tables.stepsOf workspaceId runId

abbrev RunThreadsSound (threads : RunThreads) : Prop := Threads.Sound RunStoreOk RunWorkerKnows threads

section Workers

variable {id other : Nat} {store next : RunStore} {worker after : RunWorker} {run : FlowRunRow} {seen : Observed}
  {advanced : Advanced}

theorem definitionOf_kept {before tables : FlowTables} {workspaceId : WorkspaceId} {versionId : FlowVersionId}
    {version : FlowVersionRow} (kept : KeepsPublished before tables)
    (stored : before.flowVersions.find? versionId = some version) (stamped : version.publishedAt.isSome) :
    tables.definitionOf workspaceId (some versionId) = before.definitionOf workspaceId (some versionId) := by
  unfold FlowTables.definitionOf FlowTables.version?
  simp only [Option.bind_some]
  rw [kept versionId version stored stamped, stored]

theorem workerKnows_idle : RunWorkerKnows id store .idle :=
  ⟨knows_idle, knowsDraft_of_reading rfl, knowsEntry_idle⟩

theorem workerKnows_stable (knows : RunWorkerKnows id store worker) (tolerates : ToleratesRuns id store next) :
    RunWorkerKnows id next worker := by
  cases worker with
  | calling session =>
    obtain ⟨calls, drafts, entry⟩ := knows
    exact ⟨knows_stable calls tolerates.calls, knowsDraft_stable calls drafts tolerates.drafts,
      knowsEntry_stable entry tolerates.calls.published⟩
  | advancing run seen advanced =>
    obtain ⟨version, pinned, stamped⟩ := knows.version
    obtain ⟨held, stored, steps⟩ := tolerates.held run.id run knows.held knows.stored
    have kept := tolerates.calls.published
    refine ⟨held, stored, ⟨version, kept _ version pinned stamped, stamped⟩, ?_⟩
    rw [definitionOf_kept kept pinned stamped, steps]
    exact knows.processed
  | nudging run =>
    obtain ⟨held, stored, _⟩ := tolerates.held run.id run knows.1 knows.2
    exact ⟨held, stored⟩

theorem tolerates_of_same (same : next.calls = store.calls)
    (locks : ∀ runId, store.heldBy runId = some other → next.heldBy runId = some other) :
    ToleratesRuns other store next where
  calls := by
    rw [same]
    exact ⟨fun _ locked => ⟨locked, rfl⟩, fun _ _ found _ => found⟩
  drafts := toleratesDraft_of_same (by rw [same])
  held runId run held stored := by
    unfold RunStore.tables
    rw [same]
    exact ⟨locks runId held, stored, fun _ => rfl⟩

theorem ok_of_same (ok : RunStoreOk store) (same : next.calls = store.calls) : RunStoreOk next := by
  obtain ⟨calls, staged, runs⟩ := ok
  constructor
  · rw [same]
    exact calls
  · unfold RunStore.tables
    rw [same]
    exact staged
  · unfold RunStore.tables
    rw [same]
    exact runs

theorem hold_locks {flowRunId : FlowRunId} (free : store.heldBy flowRunId = none) {runId : FlowRunId}
    (held : store.heldBy runId = some other) : (store.hold id flowRunId).heldBy runId = some other := by
  show Function.update store.heldBy flowRunId (some id) runId = some other
  rw [Function.update_of_ne]
  · exact held
  · intro same
    rw [same, free] at held
    cases held

theorem letGo_locks {flowRunId : FlowRunId} (mine : store.heldBy flowRunId = some id) (differs : other ≠ id)
    {runId : FlowRunId} (held : store.heldBy runId = some other) :
    (store.letGo flowRunId).heldBy runId = some other := by
  show Function.update store.heldBy flowRunId none runId = some other
  rw [Function.update_of_ne]
  · exact held
  · intro same
    rw [same, mine] at held
    exact differs (Option.some.inj held).symm

theorem lockRun_some {workspaceId : WorkspaceId} {flowRunId : FlowRunId} {flow : FlowRow}
    (locked : store.lockRun workspaceId flowRunId = some (run, flow)) :
    run.id = flowRunId ∧ run.workspaceId = workspaceId ∧ store.tables.flowRuns.find? flowRunId = some run ∧
      store.heldBy flowRunId = none ∧ store.tables.flows.find? run.flowId = some flow := by
  unfold RunStore.lockRun at locked
  split at locked
  · next found located free =>
    obtain ⟨row, read, same⟩ := Option.map_eq_some_iff.mp locked
    cases same
    obtain ⟨stored, within⟩ := Option.filter_eq_some_iff.mp located
    exact ⟨Table.key_of_find? stored, beq_iff_eq.mp within, stored, free, (flow?_some read).1⟩
  · cases locked
  · cases locked

theorem Claimed.advanceStored (claimed : Claimed id store run seen advanced) :
    advanceStored seen store.tables run.workspaceId run.id = .ok (commitAdvance store run advanced).tables := by
  unfold Flows.advanceStored
  rw [claimed.stored]
  simp only [Option.filter_some, beq_self_eq_true, if_true]
  rw [claimed.processed]
  rfl

theorem Claimed.moves (ok : RunStoreOk store) (claimed : Claimed id store run seen advanced) :
    ∃ definition current later, store.tables.definitionOf run.workspaceId (some run.flowVersionId) = some definition ∧
      run.currentNodeId = some current ∧ advanced.run.currentNodeId = some later ∧
        (later = current ∨ later ∈ definition.targets current) := by
  obtain ⟨version, current, pinned, _, within, at_⟩ := ok.runs.placed run.id run claimed.stored
  have read := definitionOf_some.mpr ⟨run.flowVersionId, version, rfl, pinned, within, rfl⟩
  have processed := claimed.processed
  rw [read] at processed
  obtain ⟨later, moved, followed⟩ := processFlowRunAdvance_moves processed at_
  exact ⟨version.definition, current, later, read, at_, moved, followed⟩

theorem commitAdvance_find (claimed : Claimed id store run seen advanced) (runId : FlowRunId) :
    (commitAdvance store run advanced).tables.flowRuns.find? runId =
      if runId = run.id then some advanced.run else store.tables.flowRuns.find? runId := by
  show (store.tables.flowRuns.put advanced.run).find? runId = _
  rw [Table.find?_put, (processFlowRunAdvance_executes claimed.processed).id]

theorem commitAdvance_ok (ok : RunStoreOk store) (claimed : Claimed id store run seen advanced) :
    RunStoreOk (commitAdvance store run advanced) := by
  obtain ⟨versioned, flows, versions, _⟩ := advanceStored_versioned ok.calls.versioned claimed.advanceStored
  have executes := processFlowRunAdvance_executes claimed.processed
  constructor
  · refine ⟨versioned, ?_⟩
    intro flowId thread locked
    exact ok.calls.locked flowId thread locked
  · exact @allStaged_of_same store.calls (commitAdvance store run advanced).calls ok.staged flows versions
  · constructor
    · exact ok.runs.valid
    · intro runId row found
      rw [commitAdvance_find claimed] at found
      split at found
      · cases found
        obtain ⟨version, _, pinned, stamped, within, _⟩ := ok.runs.placed run.id run claimed.stored
        obtain ⟨_, _, later, _, _, moved, _⟩ := claimed.moves ok
        exact ⟨version, later, by rw [executes.version]; exact pinned, stamped,
          within.trans executes.flow.1.symm, moved⟩
      · exact ok.runs.placed runId row found

theorem commitAdvance_tolerates (claimed : Claimed id store run seen advanced) (differs : other ≠ id) :
    ToleratesRuns other store (commitAdvance store run advanced) where
  calls := ⟨fun _ locked => ⟨locked, rfl⟩, fun _ _ found _ => found⟩
  drafts := toleratesDraft_of_same rfl
  held runId row held stored := by
    have elsewhere : runId ≠ run.id := by
      rintro rfl
      rw [claimed.held] at held
      exact differs (Option.some.inj held).symm
    refine ⟨letGo_locks claimed.held differs held, ?_, ?_⟩
    · rw [commitAdvance_find claimed, if_neg elsewhere]
      exact stored
    · intro workspaceId
      -- the step it appends is of the claimed run
      have foreign : advanced.step.toList.filter (fun step =>
          step.flowRunId == runId && step.workspaceId == workspaceId) = [] := by
        apply List.filter_eq_nil_iff.mpr
        intro step member
        obtain ⟨mine, _⟩ := (processFlowRunAdvance_executes claimed.processed).step step (Option.mem_toList.mp member)
        rw [mine]
        simp [Ne.symm elsewhere]
      show (store.tables.flowRunSteps ++ advanced.step.toList).filter _ = store.tables.flowRunSteps.filter _
      rw [List.filter_append, foreign, List.append_nil]

structure LeavesRuns (id : Nat) (store next : RunStore) (after : RunWorker) : Prop where
  ok : RunStoreOk next
  knows : RunWorkerKnows id next after
  harmless : ∀ other, other ≠ id → ToleratesRuns other store next

theorem leaves_idle (ok : RunStoreOk store) : LeavesRuns id store store .idle :=
  ⟨ok, workerKnows_idle, fun _ _ => tolerates_of_same rfl fun _ held => held⟩

theorem call_leaves {turn : SessionTurn} {session later : Session} {calls : Store} (ok : RunStoreOk store)
    (knows : RunWorkerKnows id store (.calling session))
    (turned : sessionTurn id store.calls session turn = some (calls, later)) :
    LeavesRuns id store { store with calls } (.calling later) := by
  obtain ⟨callsKnow, drafts, entry⟩ := knows
  obtain ⟨⟨callsOk, staged⟩, ⟨knowsNext, draftsNext⟩, harmless⟩ := sessionTurn_sound ok.calls ok.staged callsKnow turned
  obtain ⟨runs, kept⟩ := sessionTurn_runs ok.calls callsKnow drafts entry ok.runs turned
  refine ⟨⟨callsOk, staged, runs⟩, ⟨knowsNext, draftsNext, sessionTurn_knowsEntry ok.calls ok.staged turned⟩, ?_⟩
  intro other differs
  refine ⟨(harmless other differs).1, (harmless other differs).2, ?_⟩
  intro runId run held stored
  refine ⟨held, kept.runs runId run stored, ?_⟩
  intro workspaceId
  unfold FlowTables.stepsOf RunStore.tables
  rw [kept.steps]

theorem claimRun_leaves {workspaceId : WorkspaceId} {flowRunId : FlowRunId} (ok : RunStoreOk store)
    (claimed : claimRun id store workspaceId flowRunId = (next, after)) : LeavesRuns id store next after := by
  unfold claimRun at claimed
  split at claimed
  · cases claimed
    exact leaves_idle ok
  · next run flow locked =>
    obtain ⟨rfl, rfl, stored, free, _⟩ := lockRun_some locked
    dsimp only at claimed
    split at claimed
    · cases claimed
      exact leaves_idle ok
    · next advanced processed =>
      cases claimed
      obtain ⟨version, pinned, stamped⟩ := ok.calls.versioned.runs run.id run stored
      refine ⟨ok_of_same ok rfl, ⟨?_, stored, ⟨version, pinned, stamped⟩, processed⟩, ?_⟩
      · exact Function.update_self ..
      · intro other _
        exact tolerates_of_same rfl fun _ held => hold_locks free held

theorem transitionAndNudge_leaves {workspaceId : WorkspaceId} {flowRunId : FlowRunId} (ok : RunStoreOk store)
    (nudged : transitionAndNudge id store workspaceId flowRunId = (next, after)) : LeavesRuns id store next after := by
  unfold transitionAndNudge at nudged
  split at nudged
  · cases nudged
    exact leaves_idle ok
  · next run flow locked =>
    obtain ⟨rfl, rfl, stored, free, _⟩ := lockRun_some locked
    split at nudged
    · cases nudged
      refine ⟨ok_of_same ok rfl, ⟨Function.update_self .., stored⟩, ?_⟩
      intro other _
      exact tolerates_of_same rfl fun _ held => hold_locks free held
    · cases nudged
      exact leaves_idle ok

theorem letGo_leaves {jobs : List FlowJob} (ok : RunStoreOk store) (held : store.heldBy run.id = some id) :
    LeavesRuns id store { store.letGo run.id with jobs } .idle :=
  ⟨ok_of_same ok rfl, workerKnows_idle, fun _ differs =>
    tolerates_of_same rfl fun _ mine => letGo_locks held differs mine⟩

theorem runWorkerTurn_leaves {turn : RunWorkerTurn} (ok : RunStoreOk store) (knows : RunWorkerKnows id store worker)
    (turned : runWorkerTurn id store worker turn = some (next, after)) : LeavesRuns id store next after := by
  cases turn with
  | call turn =>
    cases worker with
    | calling session =>
      obtain ⟨⟨calls, later⟩, acted, same⟩ := Option.map_eq_some_iff.mp turned
      cases same
      exact call_leaves ok knows acted
    | advancing | nudging => cases turned
  | claim workspaceId flowRunId =>
    simp only [runWorkerTurn, Option.ite_none_right_eq_some] at turned
    exact claimRun_leaves ok (Option.some.inj turned.2)
  | nudge workspaceId flowRunId =>
    simp only [runWorkerTurn, Option.ite_none_right_eq_some] at turned
    exact transitionAndNudge_leaves ok (Option.some.inj turned.2)
  | commit =>
    cases worker with
    | calling session => cases turned
    | advancing run seen advanced =>
      cases turned
      exact ⟨commitAdvance_ok ok knows, workerKnows_idle, fun _ differs => commitAdvance_tolerates knows differs⟩
    | nudging run =>
      cases turned
      exact letGo_leaves ok knows.1
  | crash =>
    cases worker with
    | calling session => cases turned
    | advancing run seen advanced =>
      cases turned
      exact letGo_leaves ok knows.held
    | nudging run =>
      cases turned
      exact letGo_leaves ok knows.1

section Ejection

variable {workspaceId : WorkspaceId} {flowId : FlowId} {input : EjectRunsInput}

theorem ejectRuns_find (tables : FlowTables) (now : Timestamp) (runId : FlowRunId) :
    (ejectRuns now tables workspaceId flowId input).flowRuns.find? runId =
      (tables.flowRuns.find? runId).map fun run =>
        if run.matchesEject workspaceId flowId input then run.exitAs now .ejected .ejected else run :=
  @Table.find?_update _ _ _ _ tables.flowRuns runId (fun run => run.matchesEject workspaceId flowId input)
    (fun run => run.exitAs now .ejected .ejected) fun _ => rfl

theorem matchesEject_active (matched : run.matchesEject workspaceId flowId input = true) :
    run.status.active = true := by
  unfold FlowRunRow.matchesEject at matched
  simp only [Bool.and_eq_true] at matched
  exact matched.1.2

theorem ejected_pinned {now : Timestamp} {runId : FlowRunId} {row : FlowRunRow} {tables : FlowTables}
    (found : (ejectRuns now tables workspaceId flowId input).flowRuns.find? runId = some row) :
    ∃ run, tables.flowRuns.find? runId = some run ∧ row.flowVersionId = run.flowVersionId ∧
      row.workspaceId = run.workspaceId ∧ row.currentNodeId = run.currentNodeId := by
  rw [ejectRuns_find] at found
  obtain ⟨run, stored, rfl⟩ := Option.map_eq_some_iff.mp found
  refine ⟨run, stored, ?_⟩
  split <;> exact ⟨rfl, rfl, rfl⟩

theorem ejectRuns_versioned {now : Timestamp} {tables : FlowTables} (holds : Versioned tables) :
    Versioned (ejectRuns now tables workspaceId flowId input) := by
  have pins : KeepsPins tables (ejectRuns now tables workspaceId flowId input) := by
    intro runId run stored
    rw [ejectRuns_find, stored]
    refine ⟨_, rfl, ?_⟩
    dsimp only
    split <;> rfl
  apply @versioned_of_runs tables (ejectRuns now tables workspaceId flowId input) holds rfl rfl pins
  · intro runId row found
    obtain ⟨run, stored, version, _⟩ := ejected_pinned found
    rw [version]
    exact holds.runs runId run stored
  · exact fun step member => .inl member

theorem ejectRuns_ok {now : Timestamp} (ok : RunStoreOk store) :
    RunStoreOk (store.withTables (ejectRuns now store.tables workspaceId flowId input)) := by
  refine ⟨⟨ejectRuns_versioned ok.calls.versioned, ok.calls.locked⟩, ?_, ⟨ok.runs.valid, ?_⟩⟩
  · exact @allStaged_of_same store.calls
      { store.calls with tables := ejectRuns now store.tables workspaceId flowId input } ok.staged rfl rfl
  · intro runId row found
    obtain ⟨run, stored, version, within, at_⟩ := ejected_pinned found
    rw [version, within, at_]
    exact ok.runs.placed runId run stored

end Ejection

theorem runEvent_leaves {event : RunEvent} (ok : RunStoreOk store) (happened : runEvent store event = some next) :
    RunStoreOk next ∧ ∀ thread, ToleratesRuns thread store next := by
  cases event with
  | elapse | change =>
    cases happened
    exact ⟨ok_of_same ok rfl, fun _ => tolerates_of_same rfl fun _ held => held⟩
  | eject workspaceId flowId input =>
    simp only [runEvent, Option.ite_none_left_eq_some, Option.some.injEq] at happened
    obtain ⟨unheld, rfl⟩ := happened
    refine ⟨ejectRuns_ok ok, fun thread => ⟨⟨fun _ locked => ⟨locked, rfl⟩, fun _ _ found _ => found⟩,
      toleratesDraft_of_same rfl, ?_⟩⟩
    intro runId run held stored
    refine ⟨held, ?_, fun _ => rfl⟩
    show (ejectRuns store.now store.tables workspaceId flowId input).flowRuns.find? runId = some run
    rw [ejectRuns_find, stored, Option.map_some, if_neg]
    intro matched
    apply unheld
    apply List.any_eq_true.mpr
    refine ⟨run, Table.mem_of_find? stored, ?_⟩
    rw [Table.key_of_find? stored, held, matched]
    rfl

theorem runStep_sound (threads : RunThreads) (turn : Turn RunWorkerTurn RunEvent) (next : RunThreads)
    (sound : RunThreadsSound threads) (taken : runStep threads turn = some next) : RunThreadsSound next := by
  refine @sound_interleave _ _ _ _ _ _ _ _ ToleratesRuns ?_ ?_ ?_ threads turn next sound taken
  · intro id store worker turn next after ok knows turned
    have leaves := runWorkerTurn_leaves ok knows turned
    exact ⟨leaves.ok, leaves.knows, leaves.harmless⟩
  · intro store event next ok happened
    exact runEvent_leaves ok happened
  · intro id store next worker knows tolerates
    exact workerKnows_stable knows tolerates

theorem emptyRuns_sound (now : Timestamp) (surroundings : Surroundings) :
    RunThreadsSound (emptyRuns now surroundings) where
  shared := by
    refine ⟨emptyStore_sound.shared, ?_, ⟨?_, ?_⟩⟩
    · intro flowId flow found
      cases found
    · intro versionId version found
      cases found
    · intro runId run found
      cases found
  own _ := workerKnows_idle

/-- What a step can do to a stored run: an advance that claimed it as it is, or an ejection. -/
inductive RowStep (threads : RunThreads) (turn : Turn RunWorkerTurn RunEvent) (run : FlowRunRow) :
    FlowRunRow → Prop where
  | kept : RowStep threads turn run run
  | advanced {id : Nat} {seen : Observed} {advanced : Advanced} (committing : turn = .thread id .commit)
      (claimed : threads.own id = .advancing run seen advanced) : RowStep threads turn run advanced.run
  | ejected {workspaceId : WorkspaceId} {flowId : FlowId} {input : EjectRunsInput} {now : Timestamp}
      (matched : run.matchesEject workspaceId flowId input = true) :
      RowStep threads turn run (run.exitAs now .ejected .ejected)

theorem claimRun_tables {workspaceId : WorkspaceId} {flowRunId : FlowRunId}
    (claimed : claimRun id store workspaceId flowRunId = (next, after)) : next.tables = store.tables := by
  unfold claimRun at claimed
  split at claimed
  · cases claimed
    rfl
  · dsimp only at claimed
    split at claimed <;> cases claimed <;> rfl

theorem transitionAndNudge_tables {workspaceId : WorkspaceId} {flowRunId : FlowRunId}
    (nudged : transitionAndNudge id store workspaceId flowRunId = (next, after)) : next.tables = store.tables := by
  unfold transitionAndNudge at nudged
  split at nudged
  · cases nudged
    rfl
  · split at nudged <;> cases nudged <;> rfl

theorem runStep_row {threads final : RunThreads} {turn : Turn RunWorkerTurn RunEvent} {runId : FlowRunId}
    (sound : RunThreadsSound threads) (taken : runStep threads turn = some final)
    (stored : threads.shared.tables.flowRuns.find? runId = some run) :
    ∃ later, final.shared.tables.flowRuns.find? runId = some later ∧ RowStep threads turn run later := by
  cases turn with
  | outside event =>
    obtain ⟨shared, happened, rfl⟩ := interleave_outside.mp taken
    cases event with
    | elapse | change =>
      cases happened
      exact ⟨run, stored, .kept⟩
    | eject workspaceId flowId input =>
      simp only [runEvent, Option.ite_none_left_eq_some, Option.some.injEq] at happened
      obtain ⟨_, rfl⟩ := happened
      refine ⟨_, (ejectRuns_find threads.shared.tables threads.shared.now runId).trans (by rw [stored]; rfl), ?_⟩
      dsimp only
      split
      · next matched => exact .ejected matched
      · exact .kept
  | thread id choice =>
    obtain ⟨shared, own, acted, rfl⟩ := interleave_thread.mp taken
    have knows := sound.own id
    cases choice with
    | call turn =>
      cases worker : threads.own id with
      | calling session =>
        rw [worker] at acted knows
        obtain ⟨⟨calls, later⟩, turned, same⟩ := Option.map_eq_some_iff.mp acted
        cases same
        obtain ⟨callsKnow, drafts, entry⟩ := knows
        obtain ⟨_, kept⟩ := sessionTurn_runs sound.shared.calls callsKnow drafts entry sound.shared.runs turned
        exact ⟨run, kept.runs runId run stored, .kept⟩
      | advancing | nudging =>
        rw [worker] at acted
        cases acted
    | claim workspaceId flowRunId =>
      simp only [runWorkerTurn, Option.ite_none_right_eq_some] at acted
      refine ⟨run, ?_, .kept⟩
      show shared.tables.flowRuns.find? runId = some run
      rw [claimRun_tables (Option.some.inj acted.2)]
      exact stored
    | nudge workspaceId flowRunId =>
      simp only [runWorkerTurn, Option.ite_none_right_eq_some] at acted
      refine ⟨run, ?_, .kept⟩
      show shared.tables.flowRuns.find? runId = some run
      rw [transitionAndNudge_tables (Option.some.inj acted.2)]
      exact stored
    | commit =>
      cases worker : threads.own id with
      | calling session =>
        rw [worker] at acted
        cases acted
      | advancing claimed seen advanced =>
        rw [worker] at acted knows
        cases acted
        have found := commitAdvance_find knows runId
        by_cases same : runId = claimed.id
        · subst same
          cases knows.stored.symm.trans stored
          rw [if_pos rfl] at found
          exact ⟨advanced.run, found, .advanced rfl worker⟩
        · rw [if_neg same] at found
          exact ⟨run, found.trans stored, .kept⟩
      | nudging row =>
        rw [worker] at acted
        cases acted
        exact ⟨run, stored, .kept⟩
    | crash =>
      cases worker : threads.own id with
      | calling session =>
        rw [worker] at acted
        cases acted
      | advancing | nudging =>
        rw [worker] at acted
        cases acted
        exact ⟨run, stored, .kept⟩

end Workers

/-- Every run stays pinned and has one current node, which only the commit of an advance moves, along an edge
of the pinned definition. -/
def MovesAlongEdges (threads : RunThreads) (turn : Turn RunWorkerTurn RunEvent) (next : RunThreads) : Prop :=
  ∀ runId run, threads.shared.tables.flowRuns.find? runId = some run →
    ∃ later definition current after, next.shared.tables.flowRuns.find? runId = some later ∧
      later.flowVersionId = run.flowVersionId ∧
      threads.shared.tables.definitionOf run.workspaceId (some run.flowVersionId) = some definition ∧
      run.currentNodeId = some current ∧ later.currentNodeId = some after ∧
      (after = current ∨ (∃ edge ∈ definition.edges, edge.source = current ∧ edge.target = after) ∧
        ∃ id seen advanced, turn = .thread id .commit ∧ threads.own id = .advancing run seen advanced)

/-- The handler of a node runs at a claim that finds the run active and due, its flow not paused and no exit
condition satisfied. -/
def HandlesWhenDue (threads : RunThreads) (turn : Turn RunWorkerTurn RunEvent) (next : RunThreads) : Prop :=
  ∀ id workspaceId flowRunId run seen advanced, turn = .thread id (.claim workspaceId flowRunId) →
    next.own id = .advancing run seen advanced → (advanced.handled = true ∨ advanced.jobs ≠ []) →
      threads.shared.tables.flowRuns.find? flowRunId = some run ∧ run.status.active = true ∧
      (∀ wakeAt ∈ run.nextWakeAt, wakeAt ≤ threads.shared.now) ∧
      ∃ flow, threads.shared.tables.flows.find? run.flowId = some flow ∧ flow.status ≠ .paused ∧
        evaluateExitConditions threads.shared.surroundings run flow.exitConditions = false

section Steps

variable {threads next : RunThreads} {turn : Turn RunWorkerTurn RunEvent} {runId : FlowRunId} {run : FlowRunRow}

theorem mem_targets {definition : FlowDefinition} {source target : NodeId}
    (member : target ∈ definition.targets source) :
    ∃ edge ∈ definition.edges, edge.source = source ∧ edge.target = target := by
  obtain ⟨edge, chosen, rfl⟩ := List.mem_map.mp member
  obtain ⟨stored, leaves⟩ := List.mem_filter.mp chosen
  exact ⟨edge, stored, beq_iff_eq.mp leaves, rfl⟩

theorem runStep_moves (sound : RunThreadsSound threads) (taken : runStep threads turn = some next) :
    MovesAlongEdges threads turn next := by
  intro runId run stored
  obtain ⟨later, found, step⟩ := runStep_row sound taken stored
  obtain ⟨version, current, pinned, _, within, at_⟩ := sound.shared.runs.placed runId run stored
  have read := definitionOf_some.mpr ⟨run.flowVersionId, version, rfl, pinned, within, rfl⟩
  cases step with
  | kept => exact ⟨run, version.definition, current, current, found, rfl, read, at_, at_, .inl rfl⟩
  | @advanced id seen advanced committing claimed =>
    have knows := sound.own id
    rw [claimed] at knows
    obtain ⟨definition, start, after, known, from_, moved, followed⟩ := Claimed.moves sound.shared knows
    cases known.symm.trans read
    cases from_.symm.trans at_
    have executes := processFlowRunAdvance_executes knows.processed
    refine ⟨advanced.run, version.definition, current, after, found, executes.version, read, at_, moved, ?_⟩
    rcases followed with stays | edge
    · exact .inl stays
    · exact .inr ⟨mem_targets edge, id, seen, advanced, committing, claimed⟩
  | ejected matched => exact ⟨_, version.definition, current, current, found, rfl, read, at_, at_, .inl rfl⟩

theorem runStep_ended (sound : RunThreadsSound threads) (taken : runStep threads turn = some next)
    (stored : threads.shared.tables.flowRuns.find? runId = some run) (ended : run.status.active = false) :
    next.shared.tables.flowRuns.find? runId = some run := by
  obtain ⟨later, found, step⟩ := runStep_row sound taken stored
  cases step with
  | kept => exact found
  | @advanced id seen advanced committing claimed =>
    have knows := sound.own id
    rw [claimed] at knows
    have processed := knows.processed
    rw [processFlowRunAdvance_ended ended] at processed
    cases processed
    exact found
  | ejected matched =>
    rw [matchesEject_active matched] at ended
    cases ended

theorem runStep_handles (taken : runStep threads turn = some next) : HandlesWhenDue threads turn next := by
  rintro id workspaceId flowRunId run seen advanced rfl worker handled
  obtain ⟨shared, own, acted, rfl⟩ := interleave_thread.mp taken
  simp only [Function.update_self] at worker
  subst worker
  simp only [runWorkerTurn, Option.ite_none_right_eq_some] at acted
  have claimed := Option.some.inj acted.2
  unfold claimRun at claimed
  split at claimed
  · cases claimed
  · next row flow locked =>
    obtain ⟨rfl, rfl, stored, _, found⟩ := lockRun_some locked
    dsimp only at claimed
    split at claimed
    · cases claimed
    · next result processed =>
      cases claimed
      obtain ⟨taken, unsatisfied⟩ := processFlowRunAdvance_handled processed handled
      unfold Observed.takesUp at taken
      simp only [Bool.and_eq_true, bne_iff_ne] at taken
      obtain ⟨⟨active, due⟩, unpaused⟩ := taken
      refine ⟨stored, active, ?_, flow, found, unpaused, unsatisfied⟩
      intro wakeAt scheduled
      rw [Option.mem_def.mp scheduled] at due
      exact of_decide_eq_true due

end Steps

/-- However advance jobs, crashes, ejections, nudges and calls interleave, a run keeps to its pinned
definition, ends once and is advanced by one worker at a time. -/
theorem flow_run_state_machine {now : Timestamp} {surroundings : Surroundings} {middle final : RunThreads}
    {before after : List (Turn RunWorkerTurn RunEvent)}
    (reached : run runStep (emptyRuns now surroundings) before = some middle)
    (ran : run runStep middle after = some final) :
    (∀ runId run, middle.shared.tables.flowRuns.find? runId = some run → run.status.active = false →
      final.shared.tables.flowRuns.find? runId = some run) ∧
    Along runStep MovesAlongEdges middle after ∧
    (∀ first second firstRun secondRun firstSeen secondSeen firstAdvanced secondAdvanced,
      final.own first = .advancing firstRun firstSeen firstAdvanced →
      final.own second = .advancing secondRun secondSeen secondAdvanced → firstRun.id = secondRun.id →
        first = second) ∧
    Along runStep HandlesWhenDue middle after := by
  have soundMiddle := invariant_of_every_run runStep_sound (emptyRuns_sound now surroundings) reached
  have soundFinal := invariant_of_every_run runStep_sound soundMiddle ran
  refine ⟨?_, ?_, ?_, ?_⟩
  · intro runId run stored ended
    have kept : ∀ threads turn next,
        (RunThreadsSound threads ∧ threads.shared.tables.flowRuns.find? runId = some run) →
        runStep threads turn = some next →
          RunThreadsSound next ∧ next.shared.tables.flowRuns.find? runId = some run := by
      rintro threads turn next ⟨sound, still⟩ taken
      exact ⟨runStep_sound threads turn next sound taken, runStep_ended sound taken still ended⟩
    exact (invariant_of_every_run kept ⟨soundMiddle, stored⟩ ran).2
  · have moves : ∀ threads turn next, RunThreadsSound threads → runStep threads turn = some next →
        MovesAlongEdges threads turn next := fun _ _ _ sound taken => runStep_moves sound taken
    exact along_of_invariant runStep_sound moves soundMiddle after
  · intro first second firstRun secondRun firstSeen secondSeen firstAdvanced secondAdvanced one two same
    have mine := soundFinal.own first
    have other := soundFinal.own second
    rw [one] at mine
    rw [two] at other
    have held := mine.held
    rw [same, other.held] at held
    exact (Option.some.inj held).symm
  · have handles : ∀ threads turn next, RunThreadsSound threads → runStep threads turn = some next →
        HandlesWhenDue threads turn next := fun _ _ _ _ taken => runStep_handles taken
    exact along_of_invariant runStep_sound handles soundMiddle after

def quietSurroundings : Surroundings where
  segment _ _ := none
  occurredSince _ _ _ _ := false
  quietUntil _ _ := none
  nextWaitUntil _ _ _ := 0

def nudgedThrice : List (Turn RunWorkerTurn RunEvent) :=
  [.thread 0 (.call (.start 1 (.create "welcome" "owner"))),
    .thread 0 (.call (.commit { now := 0, flowId := 7, versionId := 10 })),
    .thread 0 (.call (.start 1 (.update 7 { definition := some exitFlow }))), .thread 0 (.call .read),
    .thread 0 (.call (.commit { now := 1 })), .thread 0 (.call (.start 1 (.publish 7 false))),
    .thread 0 (.call .read), .thread 0 (.call (.commit { now := 2 })),
    .thread 1 (.call (.start 1 (.enter 7 3))), .thread 1 (.call (.commit { now := 3, flowRunId := 20 })),
    .outside (.elapse 5), .thread 2 (.claim 1 20), .thread 3 (.claim 1 20), .thread 2 .crash,
    .thread 3 (.nudge 1 20), .thread 3 .commit, .thread 2 (.claim 1 20), .thread 2 .commit]

def nudgedAgain : List (Turn RunWorkerTurn RunEvent) :=
  [.thread 3 (.claim 1 20), .thread 3 .commit, .outside (.eject 1 7 { runIds := [20] })]

theorem completed_run_stays : ∃ middle final,
    run runStep (emptyRuns 0 quietSurroundings) nudgedThrice = some middle ∧
    run runStep middle nudgedAgain = some final ∧
    (final.shared.tables.flowRuns.find? 20).map (fun run => (run.status, run.currentNodeId)) =
      some (.completed, some 2) ∧
    (∀ runId run, middle.shared.tables.flowRuns.find? runId = some run → run.status.active = false →
      final.shared.tables.flowRuns.find? runId = some run) ∧
    Along runStep MovesAlongEdges middle nudgedAgain ∧
    (∀ first second firstRun secondRun firstSeen secondSeen firstAdvanced secondAdvanced,
      final.own first = .advancing firstRun firstSeen firstAdvanced →
      final.own second = .advancing secondRun secondSeen secondAdvanced → firstRun.id = secondRun.id →
        first = second) ∧
    Along runStep HandlesWhenDue middle nudgedAgain := by
  have runs : (run runStep (emptyRuns 0 quietSurroundings) (nudgedThrice ++ nudgedAgain)).any (fun final =>
      decide ((final.shared.tables.flowRuns.find? 20).map (fun run => (run.status, run.currentNodeId)) =
        some (.completed, some 2))) = true := by
    decide +kernel
  obtain ⟨final, ran, completed⟩ := (Option.any_eq_true _ _).mp runs
  obtain ⟨middle, reached, onward⟩ := run_append.mp ran
  exact ⟨middle, final, reached, onward, of_decide_eq_true completed, flow_run_state_machine reached onward⟩

end LocalCrm.Flows
