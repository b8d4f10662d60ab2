import LocalCrm.Flows.Reentry
import LocalCrm.Flows.RunStates

/-! Deleting a flow while it is published, paused, resumed and entered. -/

set_option autoImplicit false

namespace LocalCrm.Flows

open Library

structure DeletionStore where
  enrolments : Enrolments
  lockedBy : FlowId → Option Nat
  spent : List FlowId := []

abbrev DeletionStore.tables (store : DeletionStore) : FlowTables := store.enrolments.tables

inductive Caller where
  | calling (session : Session)
  | enrolling (enroller : Enroller)
  | counting (existing : FlowRow)
  | removing (existing : FlowRow)
  | removed (existing : FlowRow)

def Caller.idle : Caller := .calling .idle

inductive CallerTurn where
  | call (turn : SessionTurn)
  | enrol (turn : EnrolTurn)
  | delete (workspaceId : WorkspaceId) (flowId : FlowId)
  | count
  | remove
  | commit
  | rollback

inductive DeletionEvent where
  | elapse (milliseconds : Nat)
  | advance (workspaceId : WorkspaceId) (flowRunId : FlowRunId) (seen : Observed)
  | eject (workspaceId : WorkspaceId) (flowId : FlowId) (input : EjectRunsInput)

def FlowCommand.locks : FlowCommand → Option FlowId
  | .update flowId _ | .publish flowId _ | .pause flowId | .resume flowId => some flowId
  | .create _ _ | .duplicate _ _ | .enter _ _ => none

def FlowTables.activeRunCount (tables : FlowTables) (workspaceId : WorkspaceId) (flowId : FlowId) : Nat :=
  tables.flowRuns.count fun run => run.workspaceId == workspaceId && run.flowId == flowId && run.status.active

def FlowRow.neverPublished (flow : FlowRow) : Bool := flow.liveVersionId.isNone && flow.status == .draft

/-- `DELETE FROM flows`, with everything that hangs on the row. -/
def FlowTables.deleteFlow (tables : FlowTables) (flow : FlowRow) : FlowTables where
  flows := tables.flows.delete fun row => row.id == flow.id && row.workspaceId == flow.workspaceId
  flowVersions := tables.flowVersions.delete (·.flowId == flow.id)
  flowRuns := tables.flowRuns.delete (·.flowId == flow.id)
  flowRunSteps := tables.flowRunSteps.filter fun step =>
    !(tables.flowRuns.find? step.flowRunId).any (·.flowId == flow.id)
  membershipSnapshot := tables.membershipSnapshot.delete (·.flowId == flow.id)

namespace DeletionStore

variable (store : DeletionStore)

def withTables (tables : FlowTables) : DeletionStore :=
  { store with enrolments := { store.enrolments with tables } }

def calls : Store where
  tables := store.tables
  lockedBy := store.lockedBy

def withCalls (calls : Store) : DeletionStore :=
  { store.withTables calls.tables with lockedBy := calls.lockedBy }

def keyShared (flowId : FlowId) : Bool := store.enrolments.pending.any fun entry => entry.2.flowId == flowId

/-- `FOR UPDATE` waits for both kinds of lock; a creation is given a new id. -/
def admits : SessionTurn → Bool
  | .start _ (.enter _ _) => false
  | .start _ command => command.locks.all fun flowId => !store.keyShared flowId
  | .commit commit => !store.spent.contains commit.flowId
  | .read | .rollback => true

def lock (id : Nat) (flowId : FlowId) : DeletionStore :=
  { store with lockedBy := Function.update store.lockedBy flowId (some id) }

def unlock (flowId : FlowId) : DeletionStore :=
  { store with lockedBy := Function.update store.lockedBy flowId none }

end DeletionStore

section Turns

variable (id : Nat) (store : DeletionStore)

/-- The foreign key of an insertion: it waits for a locked row, and without the row the transaction fails. -/
def insertRun? (enroller : Enroller) (flowRunId : FlowRunId) : Option (DeletionStore × Caller) :=
  let inserted := (enrolTurn id store.enrolments enroller (.insert flowRunId)).map fun (enrolments, enroller) =>
    ({ store with enrolments }, Caller.enrolling enroller)
  match enroller.admitted with
  | none => none
  | some (flow, contactId) =>
    if flow.liveVersionId.isNone || (store.enrolments.view id).hasActiveRun flow.workspaceId flow.id contactId then
      inserted
    else if (store.lockedBy flow.id).isSome then none
    else if (store.tables.flows.find? flow.id).isNone then
      some ({ store with enrolments := dropPending id store.enrolments }, .idle)
    else inserted

def enrolCaller (enroller : Enroller) : EnrolTurn → Option (DeletionStore × Caller)
  | .insert flowRunId => insertRun? id store enroller flowRunId
  | turn => (enrolTurn id store.enrolments enroller turn).map fun (enrolments, enroller) =>
    ({ store with enrolments }, .enrolling enroller)

/-- The start of a deletion; where it may go on without a count it does, and where it may not at all it ends. -/
def startDelete (workspaceId : WorkspaceId) (flowId : FlowId) : Option (DeletionStore × Caller) :=
  if (store.lockedBy flowId).isSome || store.keyShared flowId then none
  else
    match store.tables.flow? workspaceId flowId with
    | none => some (store, .idle)
    | some existing =>
      if existing.neverPublished then some (store.lock id flowId, .removing existing)
      else if existing.status = .paused then some (store.lock id flowId, .counting existing)
      else some (store, .idle)

def countRuns (existing : FlowRow) : DeletionStore × Caller :=
  if store.tables.activeRunCount existing.workspaceId existing.id = 0 then (store, .removing existing)
  else (store.unlock existing.id, .idle)

def commitDelete (existing : FlowRow) : DeletionStore :=
  { (store.withTables (store.tables.deleteFlow existing)).unlock existing.id with
    spent := existing.id :: store.spent }

def callerTurn (caller : Caller) : CallerTurn → Option (DeletionStore × Caller)
  | .call turn =>
    match caller with
    | .calling session =>
      if store.admits turn then
        (sessionTurn id store.calls session turn).map fun (calls, session) => (store.withCalls calls, .calling session)
      else none
    | .enrolling _ | .counting _ | .removing _ | .removed _ => none
  | .enrol turn =>
    match caller with
    | .calling session => if session = .idle then enrolCaller id store {} turn else none
    | .enrolling enroller => enrolCaller id store enroller turn
    | .counting _ | .removing _ | .removed _ => none
  | .delete workspaceId flowId =>
    match caller with
    | .calling session => if session = .idle then startDelete id store workspaceId flowId else none
    | .enrolling _ | .counting _ | .removing _ | .removed _ => none
  | .count =>
    match caller with
    | .counting existing => some (countRuns store existing)
    | .calling _ | .enrolling _ | .removing _ | .removed _ => none
  | .remove =>
    match caller with
    | .removing existing => some (store, .removed existing)
    | .calling _ | .enrolling _ | .counting _ | .removed _ => none
  | .commit =>
    match caller with
    | .removed existing => some (commitDelete store existing, .idle)
    | .calling _ | .enrolling _ | .counting _ | .removing _ => none
  | .rollback =>
    match caller with
    | .counting existing | .removing existing | .removed existing => some (store.unlock existing.id, .idle)
    | .enrolling _ => some ({ store with enrolments := dropPending id store.enrolments }, .idle)
    | .calling _ => none

def deletionEvent : DeletionEvent → Option DeletionStore
  | .elapse milliseconds =>
    some { store with enrolments := { store.enrolments with clock := store.enrolments.clock + milliseconds } }
  | .advance workspaceId flowRunId seen =>
    match advanceStored seen store.tables workspaceId flowRunId with
    | .ok tables => some (store.withTables tables)
    | .error _ => some store
  | .eject workspaceId flowId input =>
    some (store.withTables (ejectRuns store.enrolments.clock store.tables workspaceId flowId input))

end Turns

abbrev DeletionThreads := Threads DeletionStore Caller

def deletionStep : DeletionThreads → Turn CallerTurn DeletionEvent → Option DeletionThreads :=
  interleave callerTurn deletionEvent

def emptyDeletions : DeletionThreads where
  shared := { enrolments := { tables := {} }, lockedBy := fun _ => none }
  own _ := .idle

def KnowsRow (id : Nat) (store : Store) (session : Session) : Prop :=
  (∀ existing, session.holds = some existing →
    store.lockedBy existing.id = some id ∧ Holds store.tables existing) ∧
  ∀ flow liveVersionId contactId, session ≠ .entering flow liveVersionId contactId

/-- A turn of a call gives a new flow its id, changes the row it holds, takes a free row or lets its own go. -/
structure CallChanges (id : Nat) (store next : Store) (turn : SessionTurn) : Prop where
  runs : next.tables.flowRuns = store.tables.flowRuns
  flows : ∀ flowId, next.tables.flows.find? flowId = store.tables.flows.find? flowId ∨
    (store.tables.flows.find? flowId = none ∧ ∃ commit, turn = .commit commit ∧ flowId = commit.flowId) ∨
    (store.lockedBy flowId = some id ∧ ∃ before later, store.tables.flows.find? flowId = some before ∧
      next.tables.flows.find? flowId = some later ∧ later.workspaceId = before.workspaceId ∧
      (before.liveVersionId.isSome → later.liveVersionId.isSome))
  locks : ∀ flowId, next.lockedBy flowId = store.lockedBy flowId ∨
    (store.lockedBy flowId = some id ∧ next.lockedBy flowId = none) ∨
    (store.lockedBy flowId = none ∧ next.lockedBy flowId = some id ∧ (store.tables.flows.find? flowId).isSome ∧
      ∃ workspaceId command, turn = .start workspaceId command ∧ command.locks = some flowId)

section Calls

variable {id : Nat} {store next : Store} {session after : Session} {tables : FlowTables}

theorem knowsRow_free (free : session.holds = none)
    (outside : ∀ flow liveVersionId contactId, session ≠ .entering flow liveVersionId contactId) :
    KnowsRow id store session := by
  constructor
  · intro existing holding
    rw [free] at holding
    cases holding
  · exact outside

theorem knowsRow_idle : KnowsRow id store .idle := knowsRow_free rfl fun _ _ _ same => by cases same

theorem writeFlow_held {existing written : FlowRow} {before : FlowTables} (held : Holds store.tables existing)
    (flows : before.flows = store.tables.flows) (same : written.id = existing.id)
    (within : written.workspaceId = existing.workspaceId) (flowId : FlowId) :
    (writeFlow before written).flows.find? flowId =
      if flowId = existing.id then some { written with enrollCursor := existing.enrollCursor }
      else store.tables.flows.find? flowId := by
  have found : before.flows.find? existing.id = some existing := by
    rw [flows]
    exact held
  rw [@writeFlow_find existing.id written before existing found same within.symm flowId, flows]

theorem committed_flows {commit : Commit} (knows : KnowsRow id store session)
    (done : committed store commit session = some tables) :
    tables.flowRuns = store.tables.flowRuns ∧ ∀ flowId,
      tables.flows.find? flowId = store.tables.flows.find? flowId ∨
      (store.tables.flows.find? flowId = none ∧ flowId = commit.flowId) ∨
      ∃ existing later, session.holds = some existing ∧ flowId = existing.id ∧
        tables.flows.find? flowId = some later ∧ later.workspaceId = existing.workspaceId ∧
        (existing.liveVersionId.isSome → later.liveVersionId.isSome) := by
  obtain ⟨_, runs | ⟨flow, liveVersionId, contactId, same, _⟩⟩ := committed_runs done
  · refine ⟨runs, ?_⟩
    intro flowId
    -- a creation or a duplicate inserts under a new id
    have created : ∀ {flow : FlowRow} {versionId : FlowVersionId} {definition : FlowDefinition},
        insertWithDraft store.tables flow versionId definition = some tables → flow.id = commit.flowId →
          tables.flows.find? flowId = store.tables.flows.find? flowId ∨
            (store.tables.flows.find? flowId = none ∧ flowId = commit.flowId) := by
      intro flow versionId definition inserted given
      by_cases new : flowId = flow.id
      · subst new
        exact .inr ⟨insertWithDraft_fresh inserted, given⟩
      · have rewrites := insertWithDraft_rewrites inserted
        exact .inl ((rewrites.flows flowId).trans (if_neg new))
    -- the other calls write the row they hold
    have rewritten : ∀ {existing written : FlowRow} {before : FlowTables}, session.holds = some existing →
        before.flows = store.tables.flows → written.id = existing.id →
        written.workspaceId = existing.workspaceId →
        (existing.liveVersionId.isSome → written.liveVersionId.isSome) →
        tables.flows = (writeFlow before written).flows →
          tables.flows.find? flowId = store.tables.flows.find? flowId ∨
          ∃ existing later, session.holds = some existing ∧ flowId = existing.id ∧
            tables.flows.find? flowId = some later ∧ later.workspaceId = existing.workspaceId ∧
            (existing.liveVersionId.isSome → later.liveVersionId.isSome) := by
      intro existing written before holding flows same within lives became
      have found := writeFlow_held (knows.1 existing holding).2 flows same within flowId
      rw [← became] at found
      by_cases held : flowId = existing.id
      · rw [if_pos held] at found
        exact .inr ⟨existing, _, holding, held, found, within, lives⟩
      · rw [if_neg held] at found
        exact .inl found
    have orElse : ∀ {first second third : Prop}, first ∨ third → first ∨ second ∨ third :=
      fun either => either.imp_right .inr
    unfold committed at done
    split at done
    · exact (created done rfl).imp_right .inl
    · next existing patch read =>
      have pointers := updatedFlow_pointers existing patch
      have lives : ∀ id, existing.liveVersionId.isSome → (updatedFlow existing patch id).liveVersionId.isSome := by
        intro id
        rw [(pointers id).2.2.2]
        exact fun live => live
      cases read with
      | existing versionId =>
        cases done
        exact orElse (rewritten rfl writeDefinition_flows (pointers _).1 (pointers _).2.1 (lives _) rfl)
      | copied versionNumber definition =>
        obtain ⟨middle, inserted, rfl⟩ := Option.map_eq_some_iff.mp done
        obtain ⟨_, kept, _⟩ := insertVersion_find inserted
        exact orElse (rewritten rfl (writeDefinition_flows.trans kept) (pointers _).1 (pointers _).2.1 (lives _) rfl)
    · next existing enrollExisting read =>
      cases done
      apply orElse
      apply @rewritten existing (publishedFlow existing read)
        (snapshotDraftToVersion commit.now store.tables existing.workspaceId read.draftVersionId)
      · rfl
      · rfl
      · rfl
      · rfl
      · exact fun _ => rfl
      · unfold publishFlow
        dsimp only
        split <;> rfl
    · next existing =>
      obtain ⟨written, allowed, rfl⟩ := Option.map_eq_some_iff.mp done
      unfold pauseFlow at allowed
      split at allowed
      · cases allowed
        exact orElse (@rewritten existing { existing with status := .paused } store.tables rfl rfl rfl rfl
          (fun live => live) rfl)
      · cases allowed
    · next existing =>
      obtain ⟨written, allowed, rfl⟩ := Option.map_eq_some_iff.mp done
      unfold resumeFlow at allowed
      split at allowed
      · cases allowed
        exact orElse (@rewritten existing { existing with status := .live } store.tables rfl rfl rfl rfl
          (fun live => live) rfl)
      · cases allowed
    · exact (created done rfl).imp_right .inl
    · next flow liveVersionId contactId => exact absurd rfl (knows.2 flow liveVersionId contactId)
    all_goals cases done
  · exact absurd same (knows.2 flow liveVersionId contactId)

theorem release_locks {tables : FlowTables} (knows : KnowsRow id store session)
    (released : release store tables session = (next, after)) (flowId : FlowId) :
    next.lockedBy flowId = store.lockedBy flowId ∨
      (store.lockedBy flowId = some id ∧ next.lockedBy flowId = none) := by
  unfold release at released
  split at released
  · cases released
    exact .inl rfl
  · next existing holding =>
    cases released
    by_cases same : flowId = existing.id
    · subst same
      exact .inr ⟨(knows.1 existing holding).1, Function.update_self ..⟩
    · exact .inl (Function.update_of_ne same ..)

theorem changes_of_locks {turn : SessionTurn} (tables : next.tables = store.tables)
    (locks : ∀ flowId, next.lockedBy flowId = store.lockedBy flowId ∨
      (store.lockedBy flowId = some id ∧ next.lockedBy flowId = none) ∨
      (store.lockedBy flowId = none ∧ next.lockedBy flowId = some id ∧ (store.tables.flows.find? flowId).isSome ∧
        ∃ workspaceId command, turn = .start workspaceId command ∧ command.locks = some flowId)) :
    CallChanges id store next turn :=
  ⟨by rw [tables], fun _ => .inl (by rw [tables]), locks⟩

theorem changes_nothing {turn : SessionTurn} : CallChanges id store store turn :=
  changes_of_locks rfl fun _ => .inl rfl

theorem lockFlow_changes {workspaceId : WorkspaceId} {flowId : FlowId} {command : FlowCommand}
    {onward : FlowRow → Session} (named : command.locks = some flowId)
    (holds : ∀ existing, (onward existing).holds = some existing)
    (started : lockFlow id store workspaceId flowId onward = some (next, after)) :
    CallChanges id store next (.start workspaceId command) ∧ KnowsRow id next after := by
  unfold lockFlow at started
  split at started
  · cases started
  · next free =>
    split at started
    · cases started
      exact ⟨changes_nothing, knowsRow_idle⟩
    · next existing found =>
      cases started
      obtain ⟨stored, _⟩ := flow?_some found
      have keyed : existing.id = flowId := Table.key_of_find? stored
      refine ⟨changes_of_locks rfl ?_, ?_, ?_⟩
      · intro other
        by_cases same : other = flowId
        · subst same
          refine .inr (.inr ⟨free, Function.update_self .., ?_, workspaceId, command, rfl, named⟩)
          rw [stored]
          rfl
        · exact .inl (Function.update_of_ne same ..)
      · intro row holding
        cases (holds existing).symm.trans holding
        rw [keyed]
        refine ⟨Function.update_self .., ?_⟩
        show store.tables.flows.find? existing.id = some existing
        rw [keyed]
        exact stored
      · intro flow liveVersionId contactId same
        have holding := holds existing
        rw [same] at holding
        cases holding

theorem sessionTurn_changes {turn : SessionTurn} (knows : KnowsRow id store session)
    (outside : ∀ workspaceId flowId contactId, turn ≠ .start workspaceId (.enter flowId contactId))
    (turned : sessionTurn id store session turn = some (next, after)) :
    CallChanges id store next turn ∧ KnowsRow id next after := by
  -- a release ends the call
  have released : ∀ {tables : FlowTables} {turn : SessionTurn}, release store tables session = (next, after) →
      tables = store.tables → CallChanges id store next turn ∧ KnowsRow id next after := by
    intro tables turn ended same
    refine ⟨changes_of_locks ((release_tables ended).trans same) ?_, ?_⟩
    · intro flowId
      exact (release_locks knows ended flowId).imp_right .inl
    · rw [release_quiet ended]
      exact knowsRow_idle
  cases turn with
  | start workspaceId command =>
    simp only [sessionTurn] at turned
    split at turned
    · cases command with
      | create name createdByUserId =>
        cases turned
        exact ⟨changes_nothing, knowsRow_free rfl fun _ _ _ same => by cases same⟩
      | duplicate flowId createdByUserId =>
        simp only [startCall, readFlow, Option.some.injEq] at turned
        split at turned <;> cases turned
        · exact ⟨changes_nothing, knowsRow_idle⟩
        · exact ⟨changes_nothing, knowsRow_free rfl fun _ _ _ same => by cases same⟩
      | enter flowId contactId => exact absurd rfl (outside workspaceId flowId contactId)
      | update | publish | pause | resume => exact lockFlow_changes rfl (fun _ => rfl) turned
    · cases turned
  | read =>
    simp only [sessionTurn, readVersions] at turned
    split at turned
    · next existing patch =>
      cases turned
      exact ⟨changes_nothing, knows.1, fun _ _ _ same => by cases same⟩
    · next existing enrollExisting =>
      split at turned
      · cases turned
        exact ⟨changes_nothing, knows.1, fun _ _ _ same => by cases same⟩
      · exact released (Option.some.inj turned) rfl
    · cases turned
      exact ⟨changes_nothing, knowsRow_free rfl fun _ _ _ same => by cases same⟩
    all_goals cases turned
  | commit commit =>
    have ended := Option.some.inj turned
    cases done : committed store commit session with
    | none =>
      rw [done] at ended
      exact released ended rfl
    | some tables =>
      rw [done] at ended
      have became : next.tables = tables := release_tables ended
      obtain ⟨runs, flows⟩ := committed_flows knows done
      refine ⟨⟨by rw [became]; exact runs, ?_, ?_⟩, by rw [release_quiet ended]; exact knowsRow_idle⟩
      · intro flowId
        rw [became]
        rcases flows flowId with kept | ⟨fresh, given⟩ | ⟨existing, later, holding, rfl, found, changed⟩
        · exact .inl kept
        · exact .inr (.inl ⟨fresh, commit, rfl, given⟩)
        · obtain ⟨locked, held⟩ := knows.1 existing holding
          exact .inr (.inr ⟨locked, existing, later, held, found, changed⟩)
      · intro flowId
        exact (release_locks knows ended flowId).imp_right .inl
  | rollback => exact released (Option.some.inj turned) rfl

end Calls

def FlowTables.PublishedFlow (tables : FlowTables) (workspaceId : WorkspaceId) (flowId : FlowId) : Prop :=
  ∃ flow, tables.flows.find? flowId = some flow ∧ flow.workspaceId = workspaceId ∧ flow.liveVersionId.isSome

def FlowTables.RunsEnded (tables : FlowTables) (flowId : FlowId) : Prop :=
  ∀ runId run, tables.flowRuns.find? runId = some run → run.flowId = flowId → run.status.active = false

def DeletionStore.Lived (store : DeletionStore) (workspaceId : WorkspaceId) (flowId : FlowId) : Prop :=
  store.tables.PublishedFlow workspaceId flowId ∨ flowId ∈ store.spent

structure DeletionStore.Owns (id : Nat) (store : DeletionStore) (existing : FlowRow) : Prop where
  locked : store.lockedBy existing.id = some id
  held : Holds store.tables existing

/-- Locked rows exist, nobody has inserted a run of a locked flow, and runs are those of published flows. -/
structure DeletionOk (store : DeletionStore) : Prop where
  locked : ∀ flowId thread, store.lockedBy flowId = some thread → (store.tables.flows.find? flowId).isSome
  exclusive : ∀ entry ∈ store.enrolments.pending, store.lockedBy entry.2.flowId = none
  published : ∀ runId run, store.tables.flowRuns.find? runId = some run →
    store.tables.PublishedFlow run.workspaceId run.flowId
  inserted : ∀ entry ∈ store.enrolments.pending, store.tables.PublishedFlow entry.2.workspaceId entry.2.flowId
  spent : ∀ flowId ∈ store.spent, store.tables.flows.find? flowId = none

structure KnowsFlows (store : DeletionStore) (enroller : Enroller) : Prop where
  loaded : ∀ flow ∈ enroller.loaded, flow.liveVersionId.isSome → store.Lived flow.workspaceId flow.id
  admitted : ∀ flow contactId, enroller.admitted = some (flow, contactId) → flow.liveVersionId.isSome →
    store.Lived flow.workspaceId flow.id

def CallerKnows (id : Nat) (store : DeletionStore) : Caller → Prop
  | .calling session => KnowsRow id store.calls session
  | .enrolling enroller => KnowsFlows store enroller
  | .counting existing => store.Owns id existing
  | .removing existing | .removed existing => store.Owns id existing ∧ store.tables.RunsEnded existing.id

structure ToleratesDeletion (id : Nat) (store next : DeletionStore) : Prop where
  held : ∀ flowId, store.lockedBy flowId = some id →
    next.lockedBy flowId = some id ∧ next.tables.flows.find? flowId = store.tables.flows.find? flowId
  lived : ∀ workspaceId flowId, store.Lived workspaceId flowId → next.Lived workspaceId flowId
  ended : ∀ flowId, store.lockedBy flowId = some id → store.tables.RunsEnded flowId → next.tables.RunsEnded flowId

abbrev DeletionSound (threads : DeletionThreads) : Prop := Threads.Sound DeletionOk CallerKnows threads

section Deletions

variable {id other : Nat} {store next : DeletionStore} {caller after : Caller} {existing : FlowRow}

theorem owns_stable (owns : store.Owns id existing) (tolerates : ToleratesDeletion id store next) :
    next.Owns id existing := by
  obtain ⟨locked, same⟩ := tolerates.held existing.id owns.locked
  exact ⟨locked, same.trans owns.held⟩

theorem callerKnows_stable (knows : CallerKnows id store caller) (tolerates : ToleratesDeletion id store next) :
    CallerKnows id next caller := by
  cases caller with
  | calling session =>
    refine ⟨?_, knows.2⟩
    intro existing holding
    obtain ⟨locked, held⟩ := knows.1 existing holding
    have owns := owns_stable ⟨locked, held⟩ tolerates
    exact ⟨owns.locked, owns.held⟩
  | enrolling enroller =>
    constructor
    · intro flow member live
      exact tolerates.lived _ _ (knows.loaded flow member live)
    · intro flow contactId admitted live
      exact tolerates.lived _ _ (knows.admitted flow contactId admitted live)
  | counting existing => exact owns_stable knows tolerates
  | removing existing | removed existing =>
    exact ⟨owns_stable knows.1 tolerates, tolerates.ended existing.id knows.1.locked knows.2⟩

structure LeavesFlows (id : Nat) (store next : DeletionStore) (after : Caller) : Prop where
  ok : DeletionOk next
  knows : CallerKnows id next after
  harmless : ∀ other, other ≠ id → ToleratesDeletion other store next

theorem leaves_of_locks (ok : DeletionOk store) (same : next.enrolments = store.enrolments)
    (spent : next.spent = store.spent) (knows : CallerKnows id next after)
    (stored : ∀ flowId thread, next.lockedBy flowId = some thread → (store.tables.flows.find? flowId).isSome)
    (free : ∀ entry ∈ store.enrolments.pending, next.lockedBy entry.2.flowId = none)
    (others : ∀ other, other ≠ id → ∀ flowId, store.lockedBy flowId = some other → next.lockedBy flowId = some other) :
    LeavesFlows id store next after := by
  have tables : next.tables = store.tables := congrArg Enrolments.tables same
  refine ⟨⟨?_, ?_, ?_, ?_, ?_⟩, knows, ?_⟩
  · rw [tables]
    exact stored
  · rw [same]
    exact free
  · rw [tables]
    exact ok.published
  · rw [same, tables]
    exact ok.inserted
  · rw [tables, spent]
    exact ok.spent
  · intro other differs
    refine ⟨?_, ?_, ?_⟩
    · intro flowId locked
      exact ⟨others other differs flowId locked, by rw [tables]⟩
    · unfold DeletionStore.Lived
      rw [tables, spent]
      exact fun _ _ lived => lived
    · rw [tables]
      exact fun _ _ ended => ended

theorem leaves_nothing (ok : DeletionOk store) : LeavesFlows id store store .idle :=
  leaves_of_locks ok rfl rfl knowsRow_idle ok.locked ok.exclusive fun _ _ _ locked => locked

theorem unlock_leaves (ok : DeletionOk store) (owns : store.Owns id existing) :
    LeavesFlows id store (store.unlock existing.id) .idle := by
  apply @leaves_of_locks id store (store.unlock existing.id) .idle ok rfl rfl knowsRow_idle
  · intro flowId thread locked
    by_cases same : flowId = existing.id
    · subst same
      rw [show (store.unlock existing.id).lockedBy existing.id = none from Function.update_self ..] at locked
      cases locked
    · rw [show (store.unlock existing.id).lockedBy flowId = _ from Function.update_of_ne same ..] at locked
      exact ok.locked flowId thread locked
  · intro entry member
    by_cases same : entry.2.flowId = existing.id
    · rw [same]
      exact Function.update_self ..
    · exact (Function.update_of_ne same ..).trans (ok.exclusive entry member)
  · intro other differs flowId locked
    have apart : flowId ≠ existing.id := by
      rintro rfl
      rw [owns.locked] at locked
      exact differs (Option.some.inj locked).symm
    exact (Function.update_of_ne apart ..).trans locked

theorem startDelete_leaves {workspaceId : WorkspaceId} {flowId : FlowId} (ok : DeletionOk store)
    (started : startDelete id store workspaceId flowId = some (next, after)) : LeavesFlows id store next after := by
  unfold startDelete at started
  split at started
  · cases started
  · next unheld =>
    simp only [Bool.or_eq_true, not_or, Bool.not_eq_true, Option.isSome_eq_false_iff, Option.isNone_iff_eq_none]
      at unheld
    obtain ⟨free, unshared⟩ := unheld
    split at started
    · cases started
      exact leaves_nothing ok
    · next existing located =>
      obtain ⟨stored, within⟩ := flow?_some located
      have keyed : existing.id = flowId := Table.key_of_find? stored
      subst keyed
      -- the row is free, and no insertion holds its key
      have locks : ∀ {after : Caller}, CallerKnows id (store.lock id existing.id) after →
          LeavesFlows id store (store.lock id existing.id) after := by
        intro after knows
        apply @leaves_of_locks id store (store.lock id existing.id) after ok rfl rfl knows
        · intro flowId thread locked
          by_cases same : flowId = existing.id
          · rw [same, stored]
            rfl
          · exact ok.locked flowId thread ((Function.update_of_ne same ..).symm.trans locked)
        · intro entry member
          have apart : entry.2.flowId ≠ existing.id := by
            intro same
            have shared := List.any_eq_false.mp unshared entry member
            rw [same] at shared
            simp at shared
          exact (Function.update_of_ne apart ..).trans (ok.exclusive entry member)
        · intro other _ flowId locked
          have apart : flowId ≠ existing.id := by
            rintro rfl
            rw [free] at locked
            cases locked
          exact (Function.update_of_ne apart ..).trans locked
      have owns : (store.lock id existing.id).Owns id existing := ⟨Function.update_self .., stored⟩
      split at started
      · next unpublished =>
        cases started
        refine locks ⟨owns, ?_⟩
        -- a flow that was never published has no runs
        intro runId run found same
        obtain ⟨flow, there, _, live⟩ := ok.published runId run found
        rw [same, stored] at there
        cases there
        unfold FlowRow.neverPublished at unpublished
        rw [Bool.and_eq_true, Option.isNone_iff_eq_none] at unpublished
        rw [unpublished.1] at live
        cases live
      · split at started
        · cases started
          exact locks owns
        · cases started
          exact leaves_nothing ok

theorem countRuns_leaves (ok : DeletionOk store) (owns : store.Owns id existing)
    (counted : countRuns store existing = (next, after)) : LeavesFlows id store next after := by
  unfold countRuns at counted
  split at counted
  · next none =>
    cases counted
    apply leaves_of_locks ok rfl rfl _ ok.locked ok.exclusive fun _ _ _ locked => locked
    refine ⟨owns, ?_⟩
    intro runId run found same
    obtain ⟨flow, there, within, _⟩ := ok.published runId run found
    rw [same, owns.held] at there
    cases there
    have inactive := List.countP_eq_zero.mp none run (Table.mem_of_find? found)
    rw [← within, same] at inactive
    simpa using inactive
  · cases counted
    exact unlock_leaves ok owns

theorem deleteFlow_flows (held : Holds store.tables existing) (flowId : FlowId) :
    (store.tables.deleteFlow existing).flows.find? flowId =
      if flowId = existing.id then none else store.tables.flows.find? flowId := by
  unfold FlowTables.deleteFlow
  rw [Table.find?_delete]
  by_cases same : flowId = existing.id
  · subst same
    rw [if_pos rfl, held]
    simp
  · rw [if_neg same]
    cases found : store.tables.flows.find? flowId with
    | none => rfl
    | some flow =>
      have keyed : flow.id = flowId := Table.key_of_find? found
      simp [keyed, same]

theorem deleteFlow_runs {tables : FlowTables} {runId : FlowRunId} {run : FlowRunRow} :
    (tables.deleteFlow existing).flowRuns.find? runId = some run ↔
      tables.flowRuns.find? runId = some run ∧ run.flowId ≠ existing.id := by
  unfold FlowTables.deleteFlow
  rw [Table.find?_delete, Option.filter_eq_some_iff]
  simp

theorem commitDelete_leaves (ok : DeletionOk store) (owns : store.Owns id existing) :
    LeavesFlows id store (commitDelete store existing) .idle := by
  have flows := deleteFlow_flows owns.held
  have apart : ∀ workspaceId flowId, flowId ≠ existing.id → store.tables.PublishedFlow workspaceId flowId →
      (store.tables.deleteFlow existing).PublishedFlow workspaceId flowId := by
    rintro workspaceId flowId differs ⟨flow, found, rest⟩
    exact ⟨flow, by rw [flows, if_neg differs]; exact found, rest⟩
  refine ⟨⟨?_, ?_, ?_, ?_, ?_⟩, knowsRow_idle, ?_⟩
  · intro flowId thread locked
    have differs : flowId ≠ existing.id := by
      rintro rfl
      rw [show (commitDelete store existing).lockedBy existing.id = none from Function.update_self ..] at locked
      cases locked
    show ((store.tables.deleteFlow existing).flows.find? flowId).isSome
    rw [flows, if_neg differs]
    exact ok.locked flowId thread ((Function.update_of_ne differs ..).symm.trans locked)
  · exact (unlock_leaves ok owns).ok.exclusive
  · intro runId run found
    obtain ⟨stored, differs⟩ := deleteFlow_runs.mp found
    exact apart _ _ differs (ok.published runId run stored)
  · intro entry member
    apply apart _ _ _ (ok.inserted entry member)
    intro same
    have free := ok.exclusive entry member
    rw [same, owns.locked] at free
    cases free
  · intro flowId gone
    show (store.tables.deleteFlow existing).flows.find? flowId = none
    rw [flows]
    split
    · rfl
    · next differs =>
      rcases List.mem_cons.mp gone with same | before
      · exact absurd same differs
      · exact ok.spent flowId before
  · intro other differs
    have elsewhere : ∀ flowId, store.lockedBy flowId = some other → flowId ≠ existing.id := by
      rintro flowId locked rfl
      rw [owns.locked] at locked
      exact differs (Option.some.inj locked).symm
    refine ⟨?_, ?_, ?_⟩
    · intro flowId locked
      refine ⟨(Function.update_of_ne (elsewhere flowId locked) ..).trans locked, ?_⟩
      show (store.tables.deleteFlow existing).flows.find? flowId = _
      rw [flows, if_neg (elsewhere flowId locked)]
    · intro workspaceId flowId lived
      by_cases same : flowId = existing.id
      · exact .inr (List.mem_cons.mpr (.inl same))
      · exact lived.imp (apart workspaceId flowId same) fun gone => List.mem_cons_of_mem _ gone
    · intro flowId _ ended runId run found same
      exact ended runId run (deleteFlow_runs.mp found).1 same

theorem unshared_of_admits {workspaceId : WorkspaceId} {command : FlowCommand} {flowId : FlowId}
    (admitted : store.admits (.start workspaceId command) = true) (named : command.locks = some flowId) :
    store.keyShared flowId = false := by
  cases command <;> cases named <;> simpa [DeletionStore.admits, FlowCommand.locks] using admitted

theorem callTurn_leaves {turn : SessionTurn} {calls : Store} {session onward : Session} (ok : DeletionOk store)
    (knows : KnowsRow id store.calls session) (admitted : store.admits turn = true)
    (turned : sessionTurn id store.calls session turn = some (calls, onward)) :
    LeavesFlows id store (store.withCalls calls) (.calling onward) := by
  have outside : ∀ workspaceId flowId contactId, turn ≠ .start workspaceId (.enter flowId contactId) := by
    rintro workspaceId flowId contactId rfl
    cases admitted
  obtain ⟨⟨runs, flows, locks⟩, knowing⟩ := sessionTurn_changes knows outside turned
  have present : ∀ flowId, (store.tables.flows.find? flowId).isSome → (calls.tables.flows.find? flowId).isSome := by
    intro flowId there
    rcases flows flowId with kept | ⟨missing, _⟩ | ⟨_, before, later, _, found, _⟩
    · rw [kept]
      exact there
    · rw [show store.tables.flows.find? flowId = none from missing] at there
      cases there
    · rw [found]
      rfl
  have published : ∀ workspaceId flowId, store.tables.PublishedFlow workspaceId flowId →
      calls.tables.PublishedFlow workspaceId flowId := by
    rintro workspaceId flowId ⟨flow, stored, within, live⟩
    rcases flows flowId with kept | ⟨missing, _⟩ | ⟨_, before, later, was, found, same, lives⟩
    · exact ⟨flow, kept.trans stored, within, live⟩
    · cases stored.symm.trans missing
    · cases stored.symm.trans was
      exact ⟨later, found, same.trans within, lives live⟩
  refine ⟨⟨?_, ?_, ?_, ?_, ?_⟩, knowing, ?_⟩
  · intro flowId thread locked
    rcases locks flowId with kept | ⟨_, freed⟩ | ⟨_, _, there, _⟩
    · exact present flowId (ok.locked flowId thread (kept.symm.trans locked))
    · cases freed.symm.trans locked
    · exact present flowId there
  · intro entry member
    rcases locks entry.2.flowId with kept | ⟨_, freed⟩ | ⟨_, _, _, workspaceId, command, rfl, named⟩
    · exact kept.trans (ok.exclusive entry member)
    · exact freed
    · -- the key is shared, so that this call had to wait
      have shared : store.keyShared entry.2.flowId = true := List.any_eq_true.mpr ⟨entry, member, beq_self_eq_true _⟩
      rw [unshared_of_admits admitted named] at shared
      cases shared
  · intro runId run found
    exact published _ _ (ok.published runId run ((congrArg (·.find? runId) runs).symm.trans found))
  · intro entry member
    exact published _ _ (ok.inserted entry member)
  · intro flowId gone
    have spent : flowId ∈ store.spent := gone
    have missing := ok.spent flowId spent
    rcases flows flowId with kept | ⟨_, commit, rfl, given⟩ | ⟨_, before, _, was, _⟩
    · exact kept.trans missing
    · subst given
      simp [DeletionStore.admits, spent] at admitted
    · cases missing.symm.trans was
  · intro other differs
    refine ⟨?_, ?_, ?_⟩
    · intro flowId locked
      have notMine : store.lockedBy flowId ≠ some id := by
        intro mine
        rw [locked] at mine
        exact differs (Option.some.inj mine)
      constructor
      · rcases locks flowId with kept | ⟨mine, _⟩ | ⟨free, _⟩
        · exact kept.trans locked
        · exact absurd mine notMine
        · cases free.symm.trans locked
      · rcases flows flowId with kept | ⟨missing, _⟩ | ⟨mine, _⟩
        · exact kept
        · have there := ok.locked flowId other locked
          rw [show store.tables.flows.find? flowId = none from missing] at there
          cases there
        · exact absurd mine notMine
    · intro workspaceId flowId lived
      exact lived.imp_left (published workspaceId flowId)
    · intro flowId _ ended runId run found same
      exact ended runId run ((congrArg (·.find? runId) runs).symm.trans found) same

/-- What enrolments, advances and ejections do to runs: no run of a locked flow begins or becomes active. -/
structure RunChanges (store next : DeletionStore) : Prop where
  lockedBy : next.lockedBy = store.lockedBy
  spent : next.spent = store.spent
  flows : next.tables.flows = store.tables.flows
  runs : ∀ runId run, next.tables.flowRuns.find? runId = some run →
    (∃ before, store.tables.flowRuns.find? runId = some before ∧ run.workspaceId = before.workspaceId ∧
      run.flowId = before.flowId ∧ (run.status.active → before.status.active)) ∨
    ∃ thread, (thread, run) ∈ store.enrolments.pending
  pending : ∀ entry ∈ next.enrolments.pending, entry ∈ store.enrolments.pending ∨
    (store.lockedBy entry.2.flowId = none ∧ store.tables.PublishedFlow entry.2.workspaceId entry.2.flowId)

theorem lived_of_changes {workspaceId : WorkspaceId} {flowId : FlowId} (changes : RunChanges store next)
    (lived : store.Lived workspaceId flowId) : next.Lived workspaceId flowId := by
  unfold DeletionStore.Lived FlowTables.PublishedFlow at lived ⊢
  rw [changes.flows, changes.spent]
  exact lived

theorem ok_of_changes (ok : DeletionOk store) (changes : RunChanges store next) : DeletionOk next := by
  have published : ∀ workspaceId flowId, store.tables.PublishedFlow workspaceId flowId →
      next.tables.PublishedFlow workspaceId flowId := by
    intro workspaceId flowId there
    unfold FlowTables.PublishedFlow at there ⊢
    rw [changes.flows]
    exact there
  constructor
  · rw [changes.lockedBy, changes.flows]
    exact ok.locked
  · intro entry member
    rw [changes.lockedBy]
    rcases changes.pending entry member with old | ⟨free, _⟩
    · exact ok.exclusive entry old
    · exact free
  · intro runId run found
    rcases changes.runs runId run found with ⟨before, stored, within, entered, _⟩ | ⟨thread, inserted⟩
    · rw [within, entered]
      exact published _ _ (ok.published runId before stored)
    · exact published _ _ (ok.inserted (thread, run) inserted)
  · intro entry member
    rcases changes.pending entry member with old | ⟨_, there⟩
    · exact published _ _ (ok.inserted entry old)
    · exact published _ _ there
  · rw [changes.spent, changes.flows]
    exact ok.spent

theorem tolerates_of_changes (ok : DeletionOk store) (changes : RunChanges store next) :
    ToleratesDeletion id store next := by
  constructor
  · intro flowId locked
    rw [changes.lockedBy, changes.flows]
    exact ⟨locked, rfl⟩
  · intro workspaceId flowId
    exact lived_of_changes changes
  · intro flowId locked ended runId run found same
    rcases changes.runs runId run found with ⟨before, stored, _, entered, active⟩ | ⟨thread, inserted⟩
    · exact Bool.eq_false_iff.mpr fun running =>
        Bool.eq_false_iff.mp (ended runId before stored (entered.symm.trans same)) (active running)
    · -- nobody inserts a run of a flow that is locked
      have free := ok.exclusive (thread, run) inserted
      rw [show (thread, run).2.flowId = flowId from same, locked] at free
      cases free

theorem leaves_of_changes (ok : DeletionOk store) (changes : RunChanges store next)
    (knows : CallerKnows id next after) : LeavesFlows id store next after :=
  ⟨ok_of_changes ok changes, knows, fun _ _ => tolerates_of_changes ok changes⟩

theorem changes_of_fewer {enrolments : Enrolments} (tables : enrolments.tables = store.tables)
    (fewer : enrolments.pending ⊆ store.enrolments.pending) : RunChanges store { store with enrolments } := by
  refine ⟨rfl, rfl, congrArg FlowTables.flows tables, ?_, fun entry member => .inl (fewer member)⟩
  intro runId run found
  have stored : store.tables.flowRuns.find? runId = some run := by
    rw [← tables]
    exact found
  exact .inl ⟨run, stored, rfl, rfl, fun active => active⟩

theorem changes_of_drop : RunChanges store { store with enrolments := dropPending id store.enrolments } :=
  changes_of_fewer rfl (List.filter_subset_self _)

theorem knowsFlows_new : KnowsFlows store {} := by
  constructor
  · intro flow member
    cases member
  · intro flow contactId admitted
    cases admitted

theorem knowsFlows_of_changes {enroller onward : Enroller} (knows : KnowsFlows store enroller)
    (changes : RunChanges store next)
    (loaded : ∀ flow ∈ onward.loaded, flow ∈ enroller.loaded ∨ store.tables.flows.find? flow.id = some flow)
    (admitted : ∀ flow contactId, onward.admitted = some (flow, contactId) → flow ∈ enroller.loaded) :
    KnowsFlows next onward := by
  constructor
  · intro flow member live
    apply lived_of_changes changes
    rcases loaded flow member with before | stored
    · exact knows.loaded flow before live
    · exact .inl ⟨flow, stored, rfl, live⟩
  · intro flow contactId chosen live
    exact lived_of_changes changes (knows.loaded flow (admitted flow contactId chosen) live)

theorem enrolTurn_changes {enroller onward : Enroller} {turn : EnrolTurn} {enrolments : Enrolments}
    (knows : KnowsFlows store enroller) (elsewhere : ∀ flowRunId, turn ≠ .insert flowRunId)
    (turned : enrolTurn id store.enrolments enroller turn = some (enrolments, onward)) :
    RunChanges store { store with enrolments } ∧ KnowsFlows { store with enrolments } onward := by
  have unchanged : RunChanges store store := changes_of_fewer rfl fun _ member => member
  cases turn with
  | load workspaceId flowId =>
    cases turned
    refine ⟨unchanged, ?_, knows.admitted⟩
    intro flow member live
    rcases List.mem_append.mp member with before | new
    · exact knows.loaded flow before live
    · obtain ⟨stored, _⟩ := flow?_some (Option.mem_toList.mp new)
      have keyed : flow.id = flowId := Table.key_of_find? stored
      exact .inl ⟨flow, by rw [keyed]; exact stored, rfl, live⟩
  | begin =>
    simp only [enrolTurn] at turned
    split at turned
    · cases turned
    · cases turned
      exact ⟨unchanged, knows.loaded, knows.admitted⟩
  | check flow contactId =>
    simp only [enrolTurn] at turned
    split at turned
    · next may =>
      cases turned
      refine ⟨unchanged, knowsFlows_of_changes knows unchanged ?_ ?_⟩
      · intro other member
        unfold checkEntry at member
        split at member <;> exact .inl member
      · intro other chosen admitted
        unfold checkEntry at admitted
        split at admitted <;> cases admitted
        exact may.2
    · cases turned
  | insert flowRunId => exact absurd rfl (elsewhere flowRunId)
  | commit =>
    cases turned
    have changes : RunChanges store { store with enrolments := { dropPending id store.enrolments with
        tables := store.enrolments.view id } } := by
      refine ⟨rfl, rfl, rfl, ?_, fun entry member => .inl (List.mem_filter.mp member).1⟩
      intro runId run found
      have keyed : run.id = runId := Table.key_of_find? found
      rcases of_view found with committed | inserted
      · exact .inl ⟨run, keyed ▸ committed, rfl, rfl, fun active => active⟩
      · exact .inr ⟨id, inserted⟩
    exact ⟨changes, knowsFlows_of_changes knows changes (fun _ member => .inl member) fun _ _ none => by cases none⟩
  | rollback =>
    cases turned
    exact ⟨changes_of_drop, knowsFlows_of_changes knows changes_of_drop (fun _ member => .inl member)
      fun _ _ none => by cases none⟩
  | finish =>
    cases turned
    exact ⟨changes_of_drop, knowsFlows_of_changes knows changes_of_drop (fun _ none => by cases none)
      fun _ _ none => by cases none⟩

theorem insertAdmitted_changes {startedAt : Timestamp} {flow : FlowRow} {contactId : ContactId} {flowRunId : FlowRunId}
    (ok : DeletionOk store) (lived : flow.liveVersionId.isSome → store.Lived flow.workspaceId flow.id)
    (may : (flow.liveVersionId.isNone ||
        (store.enrolments.view id).hasActiveRun flow.workspaceId flow.id contactId) = true ∨
      (store.lockedBy flow.id = none ∧ (store.tables.flows.find? flow.id).isSome)) :
    RunChanges store { store with
      enrolments := insertAdmitted id store.enrolments startedAt flow contactId flowRunId } := by
  refine ⟨rfl, rfl, congrArg FlowTables.flows insertAdmitted_tables, ?_, ?_⟩
  · intro runId run found
    refine .inl ⟨run, ?_, rfl, rfl, fun active => active⟩
    have same := congrArg (fun tables => tables.flowRuns.find? runId) (@insertAdmitted_tables id store.enrolments
      startedAt flow contactId flowRunId)
    exact same.symm.trans found
  · intro entry member
    cases live : flow.liveVersionId with
    | none =>
      left
      simpa only [insertAdmitted, live] using member
    | some liveVersionId =>
      rcases insertAdmitted_pending member with old | ⟨_, _, pair, inactive⟩
      · exact .inl old
      · obtain ⟨within, entered, _⟩ := isFor_iff.mp pair
        right
        rw [within, entered]
        rcases may with never | ⟨free, there⟩
        · rw [live, inactive] at never
          cases never
        · refine ⟨free, ?_⟩
          rcases lived (by rw [live]; rfl) with published | gone
          · exact published
          · rw [ok.spent flow.id gone] at there
            cases there

theorem enrolCaller_leaves {enroller : Enroller} {turn : EnrolTurn} (ok : DeletionOk store)
    (knows : KnowsFlows store enroller) (turned : enrolCaller id store enroller turn = some (next, after)) :
    LeavesFlows id store next after := by
  have other : (∀ flowRunId, turn ≠ .insert flowRunId) →
      ((enrolTurn id store.enrolments enroller turn).map fun (enrolments, enroller) =>
        ({ store with enrolments }, Caller.enrolling enroller)) = some (next, after) →
      LeavesFlows id store next after := by
    intro elsewhere mapped
    obtain ⟨⟨enrolments, onward⟩, taken, same⟩ := Option.map_eq_some_iff.mp mapped
    cases same
    obtain ⟨changes, knowing⟩ := enrolTurn_changes knows elsewhere taken
    exact leaves_of_changes ok changes knowing
  cases turn with
  | insert flowRunId =>
    unfold enrolCaller insertRun? at turned
    dsimp only at turned
    split at turned
    · cases turned
    · next flow contactId admitted =>
      have lived := knows.admitted flow contactId admitted
      have inserts : ((flow.liveVersionId.isNone ||
            (store.enrolments.view id).hasActiveRun flow.workspaceId flow.id contactId) = true ∨
            (store.lockedBy flow.id = none ∧ (store.tables.flows.find? flow.id).isSome)) →
          ((enrolTurn id store.enrolments enroller (.insert flowRunId)).map fun (enrolments, enroller) =>
            ({ store with enrolments }, Caller.enrolling enroller)) = some (next, after) →
          LeavesFlows id store next after := by
        intro may mapped
        obtain ⟨⟨enrolments, onward⟩, taken, same⟩ := Option.map_eq_some_iff.mp mapped
        cases same
        simp only [enrolTurn, admitted] at taken
        split at taken
        · next startedAt _ _ _ chosen =>
          cases chosen
          split at taken
          · cases taken
          · cases taken
            have changes := @insertAdmitted_changes id store startedAt flow contactId flowRunId ok lived may
            apply leaves_of_changes ok changes
            constructor
            · intro row member live
              exact lived_of_changes changes (knows.loaded row member live)
            · intro row contactId none
              cases none
        · cases taken
      split at turned
      · next never => exact inserts (.inl never) turned
      · split at turned
        · cases turned
        · next free =>
          split at turned
          · cases turned
            exact leaves_of_changes ok changes_of_drop knowsRow_idle
          · next there =>
            rw [Bool.not_eq_true, Option.isSome_eq_false_iff, Option.isNone_iff_eq_none] at free
            rw [Option.isNone_iff_eq_none, ← ne_eq, Option.ne_none_iff_isSome] at there
            exact inserts (.inr ⟨free, there⟩) turned
  | load _ _ | begin | check _ _ | commit | rollback | finish => exact other (by rintro _ ⟨⟩) turned

theorem callerTurn_leaves {turn : CallerTurn} (ok : DeletionOk store) (knows : CallerKnows id store caller)
    (turned : callerTurn id store caller turn = some (next, after)) : LeavesFlows id store next after := by
  cases turn with
  | call turn =>
    simp only [callerTurn] at turned
    split at turned
    · split at turned
      · next admitted =>
        obtain ⟨⟨calls, onward⟩, taken, same⟩ := Option.map_eq_some_iff.mp turned
        cases same
        exact callTurn_leaves ok knows admitted taken
      · cases turned
    all_goals cases turned
  | enrol turn =>
    simp only [callerTurn] at turned
    split at turned
    · split at turned
      · exact enrolCaller_leaves ok knowsFlows_new turned
      · cases turned
    · exact enrolCaller_leaves ok knows turned
    all_goals cases turned
  | delete workspaceId flowId =>
    simp only [callerTurn] at turned
    split at turned
    · split at turned
      · exact startDelete_leaves ok turned
      · cases turned
    all_goals cases turned
  | count =>
    simp only [callerTurn] at turned
    split at turned
    · exact countRuns_leaves ok knows (Option.some.inj turned)
    all_goals cases turned
  | remove =>
    simp only [callerTurn] at turned
    split at turned
    · cases turned
      exact leaves_of_locks ok rfl rfl knows ok.locked ok.exclusive fun _ _ _ locked => locked
    all_goals cases turned
  | commit =>
    simp only [callerTurn] at turned
    split at turned
    · cases turned
      exact commitDelete_leaves ok knows.1
    all_goals cases turned
  | rollback =>
    simp only [callerTurn] at turned
    split at turned
    · cases turned
      exact unlock_leaves ok knows
    · cases turned
      exact unlock_leaves ok knows.1
    · cases turned
      exact unlock_leaves ok knows.1
    · cases turned
      exact leaves_of_changes ok changes_of_drop knowsRow_idle
    · cases turned

theorem deletionEvent_changes {event : DeletionEvent} (happened : deletionEvent store event = some next) :
    RunChanges store next := by
  have same : ∀ {clock : Timestamp}, RunChanges store { store with enrolments := { store.enrolments with clock } } :=
    changes_of_fewer rfl fun _ member => member
  cases event with
  | elapse milliseconds =>
    cases happened
    exact same
  | advance workspaceId flowRunId seen =>
    simp only [deletionEvent] at happened
    split at happened
    · next tables advanced =>
      cases happened
      obtain ⟨flows, _, runs⟩ := advanceStored_runs advanced
      refine ⟨rfl, rfl, flows, ?_, fun _ member => .inl member⟩
      intro runId run found
      obtain ⟨before, stored, pair, _, _, active⟩ := runs runId run found
      exact .inl ⟨before, stored, pair.1, pair.2.1, active⟩
    · cases happened
      exact same
  | eject workspaceId flowId input =>
    cases happened
    refine ⟨rfl, rfl, rfl, ?_, fun _ member => .inl member⟩
    intro runId run found
    obtain ⟨before, stored, rfl⟩ := Option.map_eq_some_iff.mp
      ((ejectRuns_find store.tables store.enrolments.clock runId).symm.trans found)
    refine .inl ⟨before, stored, ?_⟩
    split
    · next matched => exact ⟨rfl, rfl, fun _ => matchesEject_active matched⟩
    · exact ⟨rfl, rfl, fun active => active⟩

end Deletions

theorem deletionStep_sound (threads : DeletionThreads) (turn : Turn CallerTurn DeletionEvent) (next : DeletionThreads)
    (sound : DeletionSound threads) (taken : deletionStep threads turn = some next) : DeletionSound next := by
  refine @sound_interleave _ _ _ _ _ _ _ _ ToleratesDeletion ?_ ?_ ?_ threads turn next sound taken
  · intro id store caller turn next after ok knows turned
    have leaves := callerTurn_leaves ok knows turned
    exact ⟨leaves.ok, leaves.knows, leaves.harmless⟩
  · intro store event next ok happened
    have changes := deletionEvent_changes happened
    exact ⟨ok_of_changes ok changes, fun _ => tolerates_of_changes ok changes⟩
  · intro id store next caller knows tolerates
    exact callerKnows_stable knows tolerates

theorem emptyDeletions_sound : DeletionSound emptyDeletions where
  shared := by
    constructor
    · intro flowId thread locked
      cases locked
    · intro entry member
      cases member
    · intro runId run found
      cases found
    · intro entry member
      cases member
    · intro flowId gone
      cases gone
  own _ := knowsRow_idle

def Caller.deleting : Caller → Option FlowRow
  | .counting existing | .removing existing | .removed existing => some existing
  | .calling _ | .enrolling _ => none

def Caller.deletes (caller : Caller) : CallerTurn → Bool
  | .delete _ _ | .count | .remove => true
  | .rollback => caller.deleting.isSome
  | .call _ | .enrol _ | .commit => false

/-- A deletion that commits removes its flow and no run of it that could go on; one that does not commit
changes nothing. -/
structure DeletesSafely (threads : DeletionThreads) (turn : Turn CallerTurn DeletionEvent) (next : DeletionThreads) :
    Prop where
  removes : ∀ id existing, turn = .thread id .commit → (threads.own id).deleting = some existing →
    next.shared.tables = threads.shared.tables.deleteFlow existing ∧
    (∀ runId run, threads.shared.tables.flowRuns.find? runId = some run → run.status.active →
      next.shared.tables.flowRuns.find? runId = some run) ∧
    ∀ entry ∈ threads.shared.enrolments.pending, entry.2.flowId ≠ existing.id
  unchanged : ∀ id choice, turn = .thread id choice → (threads.own id).deletes choice = true →
    next.shared.tables = threads.shared.tables ∧ next.shared.enrolments = threads.shared.enrolments
  held : ∀ id existing, (threads.own id).deleting = some existing →
    threads.shared.tables.flows.find? existing.id = some existing

section

variable {id : Nat} {store next : DeletionStore} {caller after : Caller} {existing : FlowRow}

theorem deleting_owns (knows : CallerKnows id store caller) (deleting : caller.deleting = some existing) :
    store.Owns id existing := by
  cases caller with
  | calling | enrolling => cases deleting
  | counting row =>
    cases deleting
    exact knows
  | removing row | removed row =>
    cases deleting
    exact knows.1

theorem deletes_unchanged {choice : CallerTurn} (deletes : caller.deletes choice = true)
    (turned : callerTurn id store caller choice = some (next, after)) : next.enrolments = store.enrolments := by
  cases choice with
  | call | enrol | commit => cases deletes
  | delete workspaceId flowId =>
    simp only [callerTurn, startDelete] at turned
    split at turned
    · split at turned
      · split at turned
        · cases turned
        · split at turned
          · cases turned
            rfl
          · split at turned
            · cases turned
              rfl
            · split at turned <;> cases turned <;> rfl
      · cases turned
    all_goals cases turned
  | count =>
    simp only [callerTurn, countRuns] at turned
    split at turned
    · split at turned <;> cases turned <;> rfl
    all_goals cases turned
  | remove =>
    simp only [callerTurn] at turned
    split at turned
    · cases turned
      rfl
    all_goals cases turned
  | rollback =>
    cases caller with
    | calling | enrolling => cases deletes
    | counting row | removing row | removed row =>
      cases turned
      rfl

theorem commitDelete_spares {runId : FlowRunId} {run : FlowRunRow} (ended : store.tables.RunsEnded existing.id)
    (found : store.tables.flowRuns.find? runId = some run) (active : run.status.active = true) :
    (commitDelete store existing).tables.flowRuns.find? runId = some run := by
  refine deleteFlow_runs.mpr ⟨found, ?_⟩
  intro same
  rw [ended runId run found same] at active
  cases active

end

theorem deletion_step_safe {threads next : DeletionThreads} {turn : Turn CallerTurn DeletionEvent}
    (sound : DeletionSound threads) (taken : deletionStep threads turn = some next) :
    DeletesSafely threads turn next := by
  constructor
  · rintro id existing rfl deleting
    obtain ⟨shared, own, turned, rfl⟩ := interleave_thread.mp taken
    have knows := sound.own id
    cases standing : threads.own id with
    | removed row =>
      rw [standing] at turned deleting knows
      cases turned
      cases deleting
      refine ⟨rfl, fun runId run found active => commitDelete_spares knows.2 found active, ?_⟩
      -- an insertion would hold the key of the row
      intro entry member same
      have free := sound.shared.exclusive entry member
      rw [same, knows.1.locked] at free
      cases free
    | _ =>
      rw [standing] at turned
      cases turned
  · rintro id choice rfl deletes
    obtain ⟨shared, own, turned, rfl⟩ := interleave_thread.mp taken
    have same := deletes_unchanged deletes turned
    exact ⟨congrArg Enrolments.tables same, same⟩
  · intro id existing deleting
    exact (deleting_owns (sound.own id) deleting).held

/-- Whatever is called, enrolled, advanced and ejected meanwhile, no deletion takes an active run with it. -/
theorem deletion_spares_active_runs (trace : List (Turn CallerTurn DeletionEvent)) :
    Along deletionStep DeletesSafely emptyDeletions trace := by
  have safe : ∀ threads turn next, DeletionSound threads → deletionStep threads turn = some next →
      DeletesSafely threads turn next := by
    intro threads turn next sound taken
    exact deletion_step_safe sound taken
  exact along_of_invariant deletionStep_sound safe emptyDeletions_sound trace

end LocalCrm.Flows
