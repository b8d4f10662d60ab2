import LocalCrm.Flows.Reentry
import LocalCrm.Flows.Sessions
import LocalCrm.Library.Keyset
import LocalCrm.Segments.Definition

/-! Segment-triggered entries: the enrolment of existing members after a publish, and the sweeps. -/

set_option autoImplicit false

namespace LocalCrm.Flows

open Library Segments

structure SegmentMembers where
  matching : WorkspaceId → SegmentDefinition → List ContactId
  distinct : ∀ workspaceId definition, (matching workspaceId definition).Nodup

structure SweepCheckpoint where
  workspaceId : WorkspaceId
  flowId : FlowId
  cursor : Option ContactId
  deriving DecidableEq, Repr

def SweepCheckpoint.key (checkpoint : SweepCheckpoint) : WorkspaceId × FlowId :=
  (checkpoint.workspaceId, checkpoint.flowId)

/-- One sweep job a flow at a time: its job id is the flow's. -/
structure MembershipStore where
  store : Store
  segments : WorkspaceId → SegmentId → Option SegmentDefinition
  members : SegmentMembers
  checkpoints : Table SweepCheckpoint.key := .empty
  sweeping : FlowId → Bool := fun _ => false

structure SegmentWalk where
  flow : FlowRow
  liveVersionId : FlowVersionId
  definition : SegmentDefinition

structure EntryInput where
  now : Timestamp
  clock : ContactId → Timestamp
  flowRunId : ContactId → FlowRunId

def enrollBatchSize : Nat := 500

def sweepPageSize : Nat := 500

def sweepDeleteBatchSize : Nat := 1000

section Entries

variable (input : EntryInput) (walk : SegmentWalk) (tables : FlowTables)

def enterSegmentTriggeredFlow (contactId : ContactId) : FlowTables :=
  let entered :=
    match tables.canEnterFlow (input.clock contactId) (walk.flow.entryParams contactId) with
    | .ok _ => tables.insertRun
        (tables.newRun input.now (input.flowRunId contactId) walk.flow.workspaceId walk.flow.id walk.liveVersionId contactId)
    | .error _ => tables
  entered.markSeen walk.flow.workspaceId walk.flow.id [contactId]

def enrollContact (contactId : ContactId) : FlowTables :=
  if tables.hasSeenSnapshot walk.flow.workspaceId walk.flow.id contactId then tables
  else enterSegmentTriggeredFlow input walk tables contactId

/-- `UPDATE flows SET enroll_cursor`. -/
def writeEnrollCursor (flow : FlowRow) (cursor : Option ContactId) : FlowTables :=
  let flows := tables.flows.update (fun row => row.id == flow.id && row.workspaceId == flow.workspaceId)
    fun row => { row with enrollCursor := cursor }
  { tables with flows }

def enrollBatch (page : List ContactId) (cursor : Option ContactId) : FlowTables :=
  writeEnrollCursor (page.foldl (enrollContact input walk) tables) walk.flow (Keyset.pageEnd cursor page)

/-- The contacts already seen are read before any of the page is entered. -/
def enterUnseen (page : List ContactId) : FlowTables :=
  (page.filter fun contactId => !tables.hasSeenSnapshot walk.flow.workspaceId walk.flow.id contactId).foldl
    (enterSegmentTriggeredFlow input walk) tables

def EntryInput.fresh (page : List ContactId) : Bool :=
  decide (page.map input.flowRunId).Nodup &&
    page.all fun contactId => (tables.flowRuns.find? (input.flowRunId contactId)).isNone

end Entries

namespace MembershipStore

variable (store : MembershipStore) (workspaceId : WorkspaceId) (flowId : FlowId)

def withTables (tables : FlowTables) : MembershipStore := { store with store := { store.store with tables } }

def matching (walk : SegmentWalk) : List ContactId := store.members.matching walk.flow.workspaceId walk.definition

def loadWalk (found : Option FlowRow) : Option SegmentWalk := do
  let flow ← found
  let liveVersionId ← flow.liveVersionId
  let triggerSegmentId ← flow.triggerSegmentId
  let definition ← store.segments flow.workspaceId triggerSegmentId
  return { flow, liveVersionId, definition }

def loadFlow : Option SegmentWalk := store.loadWalk (store.store.tables.flow? workspaceId flowId)

def loadFlowForSweep : Option SegmentWalk :=
  store.loadWalk ((store.store.tables.flow? workspaceId flowId).filter fun flow =>
    flow.status == .live && flow.triggerType == some .segment)

def loadSweepCheckpoint : Option ContactId :=
  (store.checkpoints.find? (workspaceId, flowId)).bind SweepCheckpoint.cursor

/-- Advancing and resetting the checkpoint are one upsert, with a cursor or with none. -/
def writeCheckpoint (cursor : Option ContactId) : MembershipStore :=
  { store with checkpoints := store.checkpoints.put { workspaceId, flowId, cursor } }

def staleSnapshots (walk : SegmentWalk) : List ContactId :=
  (store.store.tables.membershipSnapshot.rows.filter fun snapshot =>
    snapshot.workspaceId == walk.flow.workspaceId && snapshot.flowId == walk.flow.id &&
      !(store.matching walk).contains snapshot.contactId).map MembershipSnapshot.contactId

/-- `DELETE FROM flow_segment_membership_snapshot WHERE id IN …`. -/
def deleteSnapshots (walk : SegmentWalk) (contactIds : List ContactId) : MembershipStore :=
  let membershipSnapshot := store.store.tables.membershipSnapshot.delete fun snapshot =>
    snapshot.workspaceId == walk.flow.workspaceId && snapshot.flowId == walk.flow.id &&
      contactIds.contains snapshot.contactId
  store.withTables { store.store.tables with membershipSnapshot }

def markSweeping (running : Bool) : MembershipStore :=
  { store with sweeping := Function.update store.sweeping flowId running }

def sweepOneFlowPage (input : EntryInput) (walk : SegmentWalk) : List ContactId → MembershipStore
  | [] => store.writeCheckpoint walk.flow.workspaceId walk.flow.id none
  | contactId :: rest =>
    (store.withTables (enterUnseen input walk store.store.tables (contactId :: rest))).writeCheckpoint
      walk.flow.workspaceId walk.flow.id (Keyset.pageEnd none (contactId :: rest))

end MembershipStore

/-- A job of the enrolment queue. Its cursor is that of the last attempt, which the next one does not read. -/
structure EnrollJob where
  workspaceId : WorkspaceId
  flowId : FlowId
  enrollExisting : Bool
  attempt : Option SegmentWalk := none
  cursor : Option ContactId := none

/-- Where a worker stands: in a call of the repository, in an enrolment of existing members, or in a sweep. -/
inductive Worker where
  | session (session : Session)
  | enrolling (job : EnrollJob)
  | draining (walk : SegmentWalk)
  | sweeping (walk : SegmentWalk) (cursor : Option ContactId)

def Worker.idle : Worker := .session .idle

inductive EnrollTurn where
  | loadFlow
  | batch (input : EntryInput)
  | seed
  | crash

inductive SweepTurn where
  | deleteStale (contactIds : List ContactId)
  | loadCheckpoint
  | page (input : EntryInput)
  | budgetSpent
  | crash

inductive WorkerTurn where
  | session (turn : SessionTurn)
  | enrollJob (workspaceId : WorkspaceId) (flowId : FlowId) (enrollExisting : Bool)
  | enroll (turn : EnrollTurn)
  | sweepJob (workspaceId : WorkspaceId) (flowId : FlowId)
  | sweep (turn : SweepTurn)

inductive MembershipEvent where
  | advance (workspaceId : WorkspaceId) (flowRunId : FlowRunId) (seen : Observed)
  | triggerCheck (workspaceId : WorkspaceId) (flowId : FlowId) (contactId : ContactId) (input : EntryInput)
  | members (members : SegmentMembers)
  | segment (workspaceId : WorkspaceId) (segmentId : SegmentId) (definition : Option SegmentDefinition)

section Turns

variable (id : Nat) (store : MembershipStore)

def MembershipStore.observed (session : Session) : SessionTurn → SessionTurn
  | .commit commit => .commit { commit with
      members := fun segmentId => session.holds.bind fun existing =>
        (store.segments existing.workspaceId segmentId).map (store.members.matching existing.workspaceId) }
  | .start workspaceId command => .start workspaceId command
  | .read => .read
  | .rollback => .rollback

/-- A page writes the flow row, and so waits for a call that holds it. -/
def MembershipStore.canWrite (flow : FlowRow) : Bool := (store.store.lockedBy flow.id).isNone

def enrollTurn (job : EnrollJob) : EnrollTurn → Option (MembershipStore × Worker)
  | .loadFlow =>
    match job.attempt, store.loadFlow job.workspaceId job.flowId with
    | some _, _ => none
    | none, none => some (store, .idle)
    | none, some walk => some (store, .enrolling { job with attempt := some walk, cursor := walk.flow.enrollCursor })
  | .batch input =>
    match job.attempt with
    | none => none
    | some walk =>
      let page := Keyset.page enrollBatchSize job.cursor (store.matching walk)
      if job.enrollExisting ∧ store.canWrite walk.flow ∧ input.fresh store.store.tables page then
        some (store.withTables (enrollBatch input walk store.store.tables page job.cursor),
          if page.isEmpty then .idle else .enrolling { job with cursor := Keyset.pageEnd job.cursor page })
      else none
  | .seed =>
    match job.attempt with
    | none => none
    | some walk =>
      if job.enrollExisting then none
      else
        some (store.withTables
          (store.store.tables.markSeen walk.flow.workspaceId walk.flow.id (store.matching walk)), .idle)
  | .crash => some (store, .enrolling { job with attempt := none })

def startSweep (workspaceId : WorkspaceId) (flowId : FlowId) : Option (MembershipStore × Worker) :=
  if store.sweeping flowId then none
  else
    match store.loadFlowForSweep workspaceId flowId with
    | none => some (store, .idle)
    | some walk => some (store.markSweeping flowId true, .draining walk)

def endSweep (walk : SegmentWalk) : MembershipStore × Worker := (store.markSweeping walk.flow.id false, .idle)

/-- One batch deletes as many stale rows as there are, up to its size. -/
def drainTurn (walk : SegmentWalk) : SweepTurn → Option (MembershipStore × Worker)
  | .deleteStale contactIds =>
    let stale := store.staleSnapshots walk
    if contactIds.Nodup ∧ (∀ contactId ∈ contactIds, contactId ∈ stale) ∧
        contactIds.length = min sweepDeleteBatchSize stale.length then
      some (store.deleteSnapshots walk contactIds, .draining walk)
    else none
  | .loadCheckpoint =>
    some (store, .sweeping walk (store.loadSweepCheckpoint walk.flow.workspaceId walk.flow.id))
  | .page _ | .budgetSpent => none
  | .crash => some (endSweep store walk)

def sweepTurn (walk : SegmentWalk) (cursor : Option ContactId) : SweepTurn → Option (MembershipStore × Worker)
  | .page input =>
    let page := Keyset.page sweepPageSize cursor (store.matching walk)
    if input.fresh store.store.tables page then
      let swept := store.sweepOneFlowPage input walk page
      some (if page.isEmpty then endSweep swept walk else (swept, .sweeping walk (Keyset.pageEnd cursor page)))
    else none
  | .budgetSpent | .crash => some (endSweep store walk)
  | .deleteStale _ | .loadCheckpoint => none

def workerTurn : Worker → WorkerTurn → Option (MembershipStore × Worker)
  | .session session, .session turn =>
    (sessionTurn id store.store session (store.observed session turn)).map fun (next, after) =>
      ({ store with store := next }, .session after)
  | .session .idle, .enrollJob workspaceId flowId enrollExisting =>
    some (store, .enrolling { workspaceId, flowId, enrollExisting })
  | .session .idle, .sweepJob workspaceId flowId => startSweep store workspaceId flowId
  | .enrolling job, .enroll turn => enrollTurn store job turn
  | .draining walk, .sweep turn => drainTurn store walk turn
  | .sweeping walk cursor, .sweep turn => sweepTurn store walk cursor turn
  | _, _ => none

/-- The evaluator enters a contact of the segment that it has not seen yet. -/
def triggerCheck (workspaceId : WorkspaceId) (flowId : FlowId) (contactId : ContactId) (input : EntryInput) :
    Option MembershipStore :=
  match store.loadFlowForSweep workspaceId flowId with
  | none => some store
  | some walk =>
    if input.fresh store.store.tables [contactId] then
      if store.store.tables.hasSeenSnapshot workspaceId flowId contactId ∨ contactId ∉ store.matching walk then some store
      else some (store.withTables (enterSegmentTriggeredFlow input walk store.store.tables contactId))
    else none

def membershipEvent (store : MembershipStore) : MembershipEvent → Option MembershipStore
  | .advance workspaceId flowRunId seen =>
    (engineEvent store.store (.advance workspaceId flowRunId seen)).map fun next => { store with store := next }
  | .triggerCheck workspaceId flowId contactId input => triggerCheck store workspaceId flowId contactId input
  | .members members => some { store with members }
  | .segment workspaceId segmentId definition =>
    some { store with
      segments := Function.update store.segments workspaceId
        (Function.update (store.segments workspaceId) segmentId definition) }

end Turns

abbrev MembershipThreads := Threads MembershipStore Worker

def membershipStep : MembershipThreads → Turn WorkerTurn MembershipEvent → Option MembershipThreads :=
  interleave workerTurn membershipEvent

end LocalCrm.Flows
