import LocalCrm.Purge.Tables

/-! The purge record of a workspace and the statements that read and write it.

Each definition is one statement or one transaction of the source.
-/

set_option autoImplicit false

namespace LocalCrm.Purge

open Library

inductive PurgeStatus where
  | pending
  | reported
  | purging
  | complete
  | failed
  deriving DecidableEq, Repr

inductive PurgeStep where
  | table (table : PurgeTable)
  | auth
  deriving DecidableEq, Repr

/-- The JSON object of `table_counts`, keyed by table. -/
abbrev TableCounts := List (StoredTable × Nat)

structure PurgeRecord where
  workspaceId : WorkspaceId
  softDeletedAt : Timestamp
  eligibleAt : Timestamp
  reportedAt : Option Timestamp := none
  firstDestructiveBatchAt : Option Timestamp := none
  purgedAt : Option Timestamp := none
  lastProgressAt : Option Timestamp := none
  status : PurgeStatus := .pending
  tableCounts : TableCounts := []
  completedTables : List PurgeStep := []
  purgeError : Option String := none
  deriving DecidableEq, Repr

structure WorkspacePurgeProgress where
  status : PurgeStatus
  completedTables : List PurgeStep
  tableCounts : TableCounts
  firstDestructiveBatchAt : Option Timestamp
  reportedAt : Option Timestamp
  deriving DecidableEq, Repr

inductive PurgeEvent where
  | deleted (workspaceId : WorkspaceId)
  | restored (workspaceId : WorkspaceId)
  | started (tick : Nat) (startedAt : Timestamp)
  | selected (tick : Nat)
  | reported (tick : Nat) (workspaceId : WorkspaceId)
  | destroyed (tick : Nat) (workspaceId : WorkspaceId) (table : StoredTable) (row : Row)
  deriving DecidableEq, Repr

def workspacePurgeRetentionDaysFloor : Nat := 7

structure PurgeSettings where
  hashtext : WorkspaceId → Int
  batchSize : Nat
  retentionDays : Nat
  retentionFloor : workspacePurgeRetentionDaysFloor ≤ retentionDays

def PurgeSettings.retention (settings : PurgeSettings) : Int := settings.retentionDays * millisecondsPerDay

theorem PurgeSettings.retention_pos (settings : PurgeSettings) : 0 < settings.retention := by
  have floor := settings.retentionFloor
  simp only [retention, workspacePurgeRetentionDaysFloor, millisecondsPerDay, millisecondsPerHour] at floor ⊢
  omega

/-- The database the purge and the restore share, with its advisory locks by hash. -/
structure PurgeStore where
  organizations : Table Organization.id := .empty
  purgeRecords : Table PurgeRecord.workspaceId := .empty
  rows : Rows := fun _ => []
  locks : Int → Option Nat := fun _ => none
  now : Timestamp := 0
  history : List PurgeEvent := []

section Organizations

/-- `"deletedAt"`, null also when the row is missing. -/
def readOrganizationDeletedAt (store : PurgeStore) (workspaceId : WorkspaceId) : Option Timestamp :=
  (store.organizations.find? workspaceId).bind Organization.deletedAt

def wasRestoredBeforeDestruction (store : PurgeStore) (workspaceId : WorkspaceId) : Bool :=
  (store.organizations.find? workspaceId).any fun organization => organization.deletedAt.isNone

def findEligibleWorkspaces (settings : PurgeSettings) (store : PurgeStore) : List (WorkspaceId × Timestamp) :=
  store.organizations.rows.filterMap fun organization => organization.deletedAt.bind fun deletedAt =>
    if deletedAt ≤ store.now - settings.retention then some (organization.id, deletedAt) else none

def tombstone (now : Timestamp) (organization : Organization) : Organization :=
  { organization with
    name := "purged-workspace"
    slug := "purged-" ++ toString organization.id
    purgedAt := some now }

theorem tombstone_id (now : Timestamp) (organization : Organization) :
    (tombstone now organization).id = organization.id := rfl

def tombstoneOrganization (store : PurgeStore) (workspaceId : WorkspaceId) : PurgeStore :=
  { store with
    organizations := store.organizations.update (fun organization => organization.id == workspaceId)
      (tombstone store.now) (tombstone_id store.now) }

/-- The route's `UPDATE organization SET "deletedAt"`; the workspace was looked up as active before. -/
def softDelete (store : PurgeStore) (workspaceId : WorkspaceId) : PurgeStore :=
  { store with
    organizations := store.organizations.update (fun organization => organization.id == workspaceId)
      (fun organization => { organization with deletedAt := some store.now })
    history := .deleted workspaceId :: store.history }

end Organizations

section Records

def loadDestructiblePurgeRecords (store : PurgeStore) : List WorkspaceId :=
  (store.purgeRecords.rows.filter fun record => record.status == .reported || record.status == .purging).map
    PurgeRecord.workspaceId

def loadWorkspacePurgeProgress (store : PurgeStore) (workspaceId : WorkspaceId) : Option WorkspacePurgeProgress :=
  (store.purgeRecords.find? workspaceId).map fun record =>
    { status := record.status
      completedTables := record.completedTables
      tableCounts := record.tableCounts
      firstDestructiveBatchAt := record.firstDestructiveBatchAt
      reportedAt := record.reportedAt }

/-- `UPDATE purge_records SET … WHERE workspace_id = … AND …`. -/
def updateRecord (store : PurgeStore) (workspaceId : WorkspaceId) (guard : PurgeRecord → Bool)
    (set : PurgeRecord → PurgeRecord) (keeps : ∀ record, (set record).workspaceId = record.workspaceId) : PurgeStore :=
  { store with
    purgeRecords := store.purgeRecords.update (fun record => record.workspaceId == workspaceId && guard record) set keeps }

/-- The statement of `beginDestructivePhase`. -/
def beginDestruction (now : Timestamp) (record : PurgeRecord) : PurgeRecord :=
  { record with
    status := .purging
    firstDestructiveBatchAt := some (record.firstDestructiveBatchAt.getD now) }

theorem beginDestruction_workspaceId (now : Timestamp) (record : PurgeRecord) :
    (beginDestruction now record).workspaceId = record.workspaceId := rfl

def stampDestructivePhase (store : PurgeStore) (workspaceId : WorkspaceId) : PurgeStore :=
  updateRecord store workspaceId (fun record => record.status == .reported || record.status == .purging)
    (beginDestruction store.now) (beginDestruction_workspaceId store.now)

def markPurgeComplete (store : PurgeStore) (workspaceId : WorkspaceId) : PurgeStore :=
  updateRecord store workspaceId (fun _ => true)
    (fun record => { record with status := .complete, purgedAt := some store.now }) (fun _ => rfl)

def markPurgeFailed (store : PurgeStore) (workspaceId : WorkspaceId) (message : String) : PurgeStore :=
  updateRecord store workspaceId (fun _ => true)
    (fun record => { record with status := .failed, purgeError := some message }) (fun _ => rfl)

def advanceWorkspacePurgeCheckpoint (store : PurgeStore) (workspaceId : WorkspaceId) : PurgeStore :=
  updateRecord store workspaceId (fun _ => true)
    (fun record => { record with lastProgressAt := some store.now }) (fun _ => rfl)

def markDone (step : PurgeStep) (record : PurgeRecord) : PurgeRecord :=
  { record with
    completedTables := if step ∈ record.completedTables then record.completedTables
      else record.completedTables ++ [step] }

theorem markDone_workspaceId (step : PurgeStep) (record : PurgeRecord) :
    (markDone step record).workspaceId = record.workspaceId := rfl

def markPurgeTableDone (store : PurgeStore) (workspaceId : WorkspaceId) (step : PurgeStep) : PurgeStore :=
  updateRecord store workspaceId (fun _ => true) (markDone step) (markDone_workspaceId step)

/-- `fresh || recorded` on JSON objects: a key that is recorded keeps its value. -/
def mergeCounts (fresh recorded : TableCounts) : TableCounts :=
  recorded ++ fresh.filter fun entry => (recorded.lookup entry.1).isNone

def recordAuthPurgeCounts (store : PurgeStore) (workspaceId : WorkspaceId) (memberCount invitationCount : Nat) :
    PurgeStore :=
  updateRecord store workspaceId (fun _ => true)
    (fun record => { record with
      tableCounts := mergeCounts [(.auth .member, memberCount), (.auth .invitation, invitationCount)]
        record.tableCounts }) (fun _ => rfl)

/-- The `INSERT` of `reportWorkspaceForPurge`. -/
def reportedRecord (settings : PurgeSettings) (store : PurgeStore) (workspaceId : WorkspaceId) (deletedAt : Timestamp)
    (tableCounts : TableCounts) : PurgeRecord :=
  { workspaceId
    softDeletedAt := deletedAt
    eligibleAt := deletedAt + settings.retention
    reportedAt := some store.now
    status := .reported
    tableCounts }

def insertReport (settings : PurgeSettings) (store : PurgeStore) (tick : Nat) (workspaceId : WorkspaceId)
    (deletedAt : Timestamp) (tableCounts : TableCounts) : PurgeStore :=
  match store.purgeRecords.find? workspaceId with
  | some _ => store
  | none =>
    { store with
      purgeRecords := store.purgeRecords.insert (reportedRecord settings store workspaceId deletedAt tableCounts)
      history := .reported tick workspaceId :: store.history }

/-- The one way out of `failed`, taken by an operator. -/
def resumePurge (store : PurgeStore) (workspaceId : WorkspaceId) : PurgeStore :=
  updateRecord store workspaceId (fun record => record.status == .failed)
    (fun record => { record with status := .purging, purgeError := none }) (fun _ => rfl)

end Records

section Deletions

def logDestroyed (store : PurgeStore) (tick : Nat) (workspaceId : WorkspaceId) (left : Rows)
    (removed : List (StoredTable × Row)) : PurgeStore :=
  { store with
    rows := left
    history := removed.map (fun gone => .destroyed tick workspaceId gone.1 gone.2) ++ store.history }

def pageRow (workspaceId : WorkspaceId) (unlocked : List Nat) (row : Row) : Bool :=
  row.workspaceId == workspaceId && decide (row.id ∈ unlocked)

def deletePurgeBatch (store : PurgeStore) (tick : Nat) (table : PurgeTable) (workspaceId : WorkspaceId)
    (unlocked : List Nat) : Option (PurgeStore × Nat) :=
  (deleteRows store.rows (.purged table) (pageRow workspaceId unlocked)).map fun (left, removed) =>
    (logDestroyed store tick workspaceId left removed,
      (store.rows (.purged table)).countP (pageRow workspaceId unlocked))

def deleteAuthRows (store : PurgeStore) (tick : Nat) (workspaceId : WorkspaceId) (table : AuthTable) : Option PurgeStore :=
  (deleteRows store.rows (.auth table) fun row => row.workspaceId == workspaceId).map fun (left, removed) =>
    logDestroyed store tick workspaceId left removed

def deleteWorkspaceAuthRows (store : PurgeStore) (tick : Nat) (workspaceId : WorkspaceId) : Option PurgeStore :=
  (deleteAuthRows store tick workspaceId .invitation).bind fun emptied =>
    deleteAuthRows emptied tick workspaceId .member

end Deletions

section Locks

/-- `pg_try_advisory_lock`: `none` when the lock is taken. -/
def tryAdvisoryLock (settings : PurgeSettings) (store : PurgeStore) (session : Nat) (workspaceId : WorkspaceId) :
    Option PurgeStore :=
  match store.locks (settings.hashtext workspaceId) with
  | some _ => none
  | none => some { store with locks := Function.update store.locks (settings.hashtext workspaceId) (some session) }

def advisoryUnlock (settings : PurgeSettings) (store : PurgeStore) (workspaceId : WorkspaceId) : PurgeStore :=
  { store with locks := Function.update store.locks (settings.hashtext workspaceId) none }

def dropSession (store : PurgeStore) (session : Nat) : PurgeStore :=
  { store with locks := fun key => if store.locks key = some session then none else store.locks key }

end Locks

theorem id_restored (organization : Organization) :
    ({ organization with deletedAt := none } : Organization).id = organization.id := rfl

/-- The transaction of `restoreWorkspace`; `none` is either of its two refusals. -/
def restoreTransaction (store : PurgeStore) (workspaceId : WorkspaceId) : Option PurgeStore :=
  if (readOrganizationDeletedAt store workspaceId).isNone then none
  else if ((store.purgeRecords.find? workspaceId).bind PurgeRecord.firstDestructiveBatchAt).isSome then none
  else some
    { store with
      organizations := store.organizations.update (fun organization => organization.id == workspaceId)
        (fun organization => { organization with deletedAt := none }) id_restored }

end LocalCrm.Purge
