import LocalCrm.Purge.Records
import LocalCrm.Library.Interleaving

/-! Purge ticks and restores over one store, one transaction a turn. -/

set_option autoImplicit false

namespace LocalCrm.Purge

open Library

/-- Where `runWorkspacePurgeWalk` stands for one workspace. -/
inductive WalkStage where
  | loading
  | checking (completed : List PurgeStep)
  | beginning (completed : List PurgeStep)
  | stamping (completed : List PurgeStep)
  | draining (completed : List PurgeStep) (table : PurgeTable) (rest : List PurgeTable) (attempt : Nat)
  | confirming (completed : List PurgeStep) (table : PurgeTable) (rest : List PurgeTable) (attempt : Nat)
  | marking (completed : List PurgeStep) (table : PurgeTable) (rest : List PurgeTable)
  | countingMembers
  | countingInvitations (memberCount : Nat)
  | recordingAuth (memberCount invitationCount : Nat)
  | deletingAuth
  | markingAuth
  | tombstoning
  | completing
  | failing (message : String)
  | unlocking (aborted : Bool)
  deriving DecidableEq, Repr

inductive TickStage where
  | locking (workspaceId : WorkspaceId) (rest : List WorkspaceId)
  | walking (workspaceId : WorkspaceId) (rest : List WorkspaceId) (stage : WalkStage)
  | selecting
  | checking (workspaceId : WorkspaceId) (deletedAt : Timestamp) (rest : List (WorkspaceId × Timestamp))
  | counting (workspaceId : WorkspaceId) (deletedAt : Timestamp) (rest : List (WorkspaceId × Timestamp))
      (counts : TableCounts) (tables : List PurgeTable)
  deriving DecidableEq, Repr

inductive RestoreStage where
  | locking
  | transaction
  | returning (restored : Bool)
  deriving DecidableEq, Repr

inductive Process where
  | unstarted
  | ticking (stage : TickStage)
  | restoring (workspaceId : WorkspaceId) (stage : RestoreStage)
  | finished
  deriving DecidableEq, Repr

inductive Task where
  | tick
  | restore (workspaceId : WorkspaceId)
  deriving DecidableEq, Repr

/-- How a thread's turn goes. A page finds the listed row ids unlocked by other writers. -/
inductive Choice where
  | start (task : Task)
  | proceed (unlocked : List Nat)
  | fail (message : String)
  | interrupted (unlocked : List Nat) (message : String)
  | crash
  deriving DecidableEq, Repr

inductive Event where
  | elapse (milliseconds : Nat)
  | deleteWorkspace (workspaceId : WorkspaceId)
  | insertRow (table : StoredTable) (row : Row)
  | removeRows (table : StoredTable) (workspaceId : WorkspaceId) (ids : List Nat)
  | resumePurge (workspaceId : WorkspaceId)
  deriving DecidableEq, Repr

section Walk

def maxAttempts : Nat := 3

def restoredMessage (workspaceId : WorkspaceId) : String :=
  "workspace " ++ toString workspaceId ++ " was restored (organization.\"deletedAt\" is null) during its purge walk" ++
    " -- refusing to continue destroying its rows"

def contentionMessage (table : PurgeTable) (workspaceId : WorkspaceId) : String :=
  "workspace-purge: table \"" ++ table.name ++ "\" still has rows for workspace " ++ toString workspaceId ++
    " after " ++ toString maxAttempts ++ " retries -- likely persistent SKIP LOCKED contention"

def foreignKeyMessage : String := "update or delete violates a foreign key constraint"

/-- The table loop past the tables already walked, then the auth step unless it is done. -/
def nextTable (completed : List PurgeStep) : List PurgeTable → WalkStage
  | [] => if .auth ∈ completed then .tombstoning else .countingMembers
  | table :: rest => .draining completed table rest 1

def remainingTables (completed : List PurgeStep) : List PurgeTable :=
  purgeTableOrder.filter fun table => decide (.table table ∉ completed)

def walkProceed (settings : PurgeSettings) (tick : Nat) (workspaceId : WorkspaceId) (store : PurgeStore)
    (unlocked : List Nat) : WalkStage → Option (PurgeStore × WalkStage)
  | .loading =>
    match loadWorkspacePurgeProgress store workspaceId with
    | none => some (store, .unlocking false)
    | some progress =>
      if progress.status = .complete ∨ progress.status = .failed then some (store, .unlocking false)
      else if progress.status = .reported ∧ progress.firstDestructiveBatchAt = none then
        some (store, .checking progress.completedTables)
      else some (store, .beginning progress.completedTables)
  | .checking completed =>
    if wasRestoredBeforeDestruction store workspaceId then some (store, .unlocking false)
    else some (store, .beginning completed)
  | .beginning completed =>
    match readOrganizationDeletedAt store workspaceId with
    | none => some (store, .failing (restoredMessage workspaceId))
    | some _ => some (store, .stamping completed)
  | .stamping completed =>
    some (stampDestructivePhase store workspaceId, nextTable completed (remainingTables completed))
  | .draining completed table rest attempt =>
    match readOrganizationDeletedAt store workspaceId with
    | none => some (store, .failing (restoredMessage workspaceId))
    | some _ =>
      match deletePurgeBatch store tick table workspaceId unlocked with
      | none => some (store, .failing foreignKeyMessage)
      | some (paged, deleted) =>
        if settings.batchSize < deleted then none
        else some (advanceWorkspacePurgeCheckpoint paged workspaceId,
          if deleted = 0 then .confirming completed table rest attempt else .draining completed table rest attempt)
  | .confirming completed table rest attempt =>
    if countRows store.rows (.purged table) workspaceId = 0 then some (store, .marking completed table rest)
    else if attempt < maxAttempts then some (store, .draining completed table rest (attempt + 1))
    else some (store, .failing (contentionMessage table workspaceId))
  | .marking completed table rest =>
    some (markPurgeTableDone store workspaceId (.table table), nextTable completed rest)
  | .countingMembers =>
    some (store, .countingInvitations (countRows store.rows (.auth .member) workspaceId))
  | .countingInvitations memberCount =>
    some (store, .recordingAuth memberCount (countRows store.rows (.auth .invitation) workspaceId))
  | .recordingAuth memberCount invitationCount =>
    some (recordAuthPurgeCounts store workspaceId memberCount invitationCount, .deletingAuth)
  | .deletingAuth =>
    match deleteWorkspaceAuthRows store tick workspaceId with
    | none => some (store, .failing foreignKeyMessage)
    | some emptied => some (emptied, .markingAuth)
  | .markingAuth => some (markPurgeTableDone store workspaceId .auth, .tombstoning)
  | .tombstoning => some (tombstoneOrganization store workspaceId, .completing)
  | .completing => some (markPurgeComplete store workspaceId, .unlocking false)
  | .failing message => some (markPurgeFailed store workspaceId message, .unlocking true)
  | .unlocking _ => none

/-- Where an error of the current statement leads: into the catch from inside the inner `try`,
else past it to the unlock. -/
def walkFail (message : String) : WalkStage → WalkStage
  | .loading | .checking _ | .failing _ | .unlocking _ => .unlocking true
  | _ => .failing message

end Walk

section Tick

def nextWalk : List WorkspaceId → TickStage
  | [] => .selecting
  | workspaceId :: rest => .locking workspaceId rest

def nextReport : List (WorkspaceId × Timestamp) → Process
  | [] => .finished
  | (workspaceId, deletedAt) :: rest => .ticking (.checking workspaceId deletedAt rest)

def afterWalk (aborted : Bool) (rest : List WorkspaceId) : Process :=
  if aborted then .finished else .ticking (nextWalk rest)

def tickProceed (settings : PurgeSettings) (tick : Nat) (store : PurgeStore) (unlocked : List Nat) :
    TickStage → Option (PurgeStore × Process)
  | .locking workspaceId rest =>
    match tryAdvisoryLock settings store tick workspaceId with
    | none => some (store, .ticking (nextWalk rest))
    | some locked => some (locked, .ticking (.walking workspaceId rest .loading))
  | .walking workspaceId rest (.unlocking aborted) =>
    some (advisoryUnlock settings store workspaceId, afterWalk aborted rest)
  | .walking workspaceId rest stage =>
    (walkProceed settings tick workspaceId store unlocked stage).map fun (next, stage) =>
      (next, .ticking (.walking workspaceId rest stage))
  | .selecting =>
    some ({ store with history := .selected tick :: store.history }, nextReport (findEligibleWorkspaces settings store))
  | .checking workspaceId deletedAt rest =>
    match loadWorkspacePurgeProgress store workspaceId with
    | some _ => some (store, nextReport rest)
    | none => some (store, .ticking (.counting workspaceId deletedAt rest [] purgeTableOrder))
  | .counting workspaceId deletedAt rest counts (table :: tables) =>
    some (store, .ticking (.counting workspaceId deletedAt rest
      (counts ++ [(.purged table, countRows store.rows (.purged table) workspaceId)]) tables))
  | .counting workspaceId deletedAt rest counts [] =>
    some (insertReport settings store tick workspaceId deletedAt counts, nextReport rest)

theorem tickProceed_walking {settings : PurgeSettings} {thread : Nat} {store : PurgeStore} {unlocked : List Nat}
    {workspaceId : WorkspaceId} {rest : List WorkspaceId} {stage : WalkStage}
    (running : ∀ aborted, stage ≠ .unlocking aborted) :
    tickProceed settings thread store unlocked (.walking workspaceId rest stage) =
      (walkProceed settings thread workspaceId store unlocked stage).map fun (next, stage) =>
        (next, .ticking (.walking workspaceId rest stage)) := by
  cases stage with
  | unlocking aborted => exact absurd rfl (running aborted)
  | _ => rfl

def tickFail (message : String) : TickStage → Process
  | .walking workspaceId rest stage =>
    match stage with
    -- a failed unlock is swallowed and leaves the lock with the pooled session
    | .unlocking aborted => afterWalk aborted rest
    | _ => .ticking (.walking workspaceId rest (walkFail message stage))
  | _ => .finished

end Tick

section Restore

def restoreProceed (settings : PurgeSettings) (session : Nat) (workspaceId : WorkspaceId) (store : PurgeStore) :
    RestoreStage → PurgeStore × Process
  | .locking =>
    match tryAdvisoryLock settings store session workspaceId with
    | none => (store, .finished)
    | some locked => (locked, .restoring workspaceId .transaction)
  | .transaction =>
    match restoreTransaction store workspaceId with
    | none => (store, .restoring workspaceId (.returning false))
    | some restored => (restored, .restoring workspaceId (.returning true))
  | .returning restored =>
    let returned := if restored then { store with history := .restored workspaceId :: store.history } else store
    (advisoryUnlock settings returned workspaceId, .finished)

def restoreFail (workspaceId : WorkspaceId) (store : PurgeStore) : RestoreStage → PurgeStore × Process
  | .locking => (store, .finished)
  | .transaction => (store, .restoring workspaceId (.returning false))
  | .returning restored =>
    (if restored then { store with history := .restored workspaceId :: store.history } else store, .finished)

/-- A commit whose reply is lost restores the workspace and still throws. -/
def restoreInterrupted (settings : PurgeSettings) (session : Nat) (workspaceId : WorkspaceId) (store : PurgeStore) :
    RestoreStage → PurgeStore × Process
  | .transaction => ((restoreProceed settings session workspaceId store .transaction).1,
      .restoring workspaceId (.returning false))
  | stage => restoreFail workspaceId store stage

end Restore

/-- A tick starts with the query of `loadDestructiblePurgeRecords`. -/
def startTask (store : PurgeStore) (thread : Nat) : Task → PurgeStore × Process
  | .tick => ({ store with history := .started thread store.now :: store.history },
      .ticking (nextWalk (loadDestructiblePurgeRecords store)))
  | .restore workspaceId => (store, .restoring workspaceId .locking)

def act (settings : PurgeSettings) (thread : Nat) (store : PurgeStore) (process : Process) :
    Choice → Option (PurgeStore × Process)
  | .start task => if process = .unstarted then some (startTask store thread task) else none
  | .proceed unlocked =>
    match process with
    | .ticking stage => tickProceed settings thread store unlocked stage
    | .restoring workspaceId stage => some (restoreProceed settings thread workspaceId store stage)
    | _ => none
  | .fail message =>
    match process with
    | .ticking stage => some (store, tickFail message stage)
    | .restoring workspaceId stage => some (restoreFail workspaceId store stage)
    | _ => none
  | .interrupted unlocked message =>
    match process with
    | .ticking stage => (tickProceed settings thread store unlocked stage).map fun (next, _) =>
      (next, tickFail message stage)
    | .restoring workspaceId stage => some (restoreInterrupted settings thread workspaceId store stage)
    | _ => none
  | .crash =>
    match process with
    | .unstarted => none
    | _ => some (dropSession store thread, .finished)

instance (rows : Rows) : Decidable (WithinWorkspaces rows) :=
  inferInstanceAs (Decidable (∀ key ∈ foreignKeys, ∀ row ∈ rows key.child, ∀ target ∈ rows key.parent,
    row.refersTo key target = true → row.workspaceId = target.workspaceId))

def addRow (rows : Rows) (table : StoredTable) (row : Row) : Rows :=
  Function.update rows table (rows table ++ [row])

def begun (store : PurgeStore) (workspaceId : WorkspaceId) : Bool :=
  ((store.purgeRecords.find? workspaceId).bind PurgeRecord.firstDestructiveBatchAt).isSome

/-- Other writers delete freely and insert rows of workspaces whose destruction has not begun. -/
def outside (store : PurgeStore) : Event → Option PurgeStore
  | .elapse milliseconds => some { store with now := store.now + milliseconds }
  | .deleteWorkspace workspaceId => some (softDelete store workspaceId)
  | .insertRow table row =>
    if begun store row.workspaceId = false ∧ WithinWorkspaces (addRow store.rows table row) then
      some { store with rows := addRow store.rows table row }
    else none
  | .removeRows table workspaceId ids =>
    (deleteRows store.rows table (pageRow workspaceId ids)).map fun (left, _) => { store with rows := left }
  | .resumePurge workspaceId => some (resumePurge store workspaceId)

abbrev PurgeWorld := Threads PurgeStore Process

def purgeStep (settings : PurgeSettings) : PurgeWorld → Turn Choice Event → Option PurgeWorld :=
  interleave (act settings) outside

/-- Before the first tick: no record, no lock, nothing running; any workspaces with any rows. -/
structure Initial (world : PurgeWorld) : Prop where
  purgeRecords : ∀ workspaceId, world.shared.purgeRecords.find? workspaceId = none
  locks : ∀ key, world.shared.locks key = none
  history : world.shared.history = []
  unstarted : ∀ thread, world.own thread = .unstarted
  within : WithinWorkspaces world.shared.rows
  deletedBefore : ∀ workspaceId deletedAt,
    readOrganizationDeletedAt world.shared workspaceId = some deletedAt → deletedAt ≤ world.shared.now

section Examples

def weekSettings : PurgeSettings where
  hashtext id := id
  batchSize := 500
  retentionDays := 7
  retentionFloor := Nat.le_refl 7

def closedWorld : PurgeWorld where
  shared :=
    { organizations := ⟨[{ id := 1, slug := "acme", deletedAt := some 0 }], List.nodup_singleton _⟩
      rows := fun table =>
        if table = .purged .sendEvents ∨ table = .auth .member then [{ id := 1, workspaceId := 1 }] else []
      now := 7 * millisecondsPerDay }
  own _ := .unstarted

theorem closedWorld_initial : Initial closedWorld where
  purgeRecords _ := rfl
  locks _ := rfl
  history := rfl
  unstarted _ := rfl
  within := by decide +kernel
  deletedBefore := by
    intro workspaceId deletedAt read
    by_cases same : workspaceId = 1
    · subst same
      obtain rfl : 0 = deletedAt := Option.some.inj read
      decide
    · have absent : closedWorld.shared.organizations.find? workspaceId = none := by
        simp [Table.find?, closedWorld, Ne.symm same]
      rw [readOrganizationDeletedAt, absent] at read
      cases read

def working (thread : Nat) (task : Task) (count : Nat) : List (Turn Choice Event) :=
  .thread thread (.start task) :: List.replicate count (.thread thread (.proceed [1]))

def reporting : List (Turn Choice Event) := working 0 .tick 28

end Examples

end LocalCrm.Purge
