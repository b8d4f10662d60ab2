import LocalCrm.Library.Statements
import LocalCrm.Webhooks.JournalSafety
import LocalCrm.Webhooks.Uuid

/-! A batch whose quarantine inserts may fail. -/

set_option autoImplicit false

namespace LocalCrm.Webhooks

open Library Delivery

abbrev SqlState := String

abbrev BatchStatements := Statements SqlState IngressStore

/-- The job's row in the journal, where it has one, carries its mark. -/
def IngressStore.isCompleted (store : IngressStore) (job : WebhookEventsJob) : Bool :=
  (job.journalId.bind store.journal.find?).all fun row =>
    row.workspaceId != job.workspaceId || row.ingestionCompletedAt.isSome

section Batches

variable (platform : Platform) (failures : Nat → Option SqlState)

def perform (change : IngressStore → IngressStore) : BatchStatements Unit :=
  Statements.execute fun store => .ok ((), change store)

def writeQuarantinedEvent (workspaceId : WorkspaceId) (candidate : QuarantineCandidate) (failure : Option SqlState) :
    BatchStatements Unit :=
  Statements.swallow <| Statements.execute fun store =>
    failure.elim (.ok ((), { store with db := writeQuarantinedEvents store.db workspaceId [candidate] })) .error

/-- The live sends are read only when a row names one. -/
def resolveRows (workspaceId : WorkspaceId) (rows : List ExtractedEvent) : BatchStatements (List ExtractedEvent) :=
  if rows.all fun row => row.sendId.isNone then pure rows
  else Statements.execute fun store => .ok (rows.map (resolveRow platform store.db.sends workspaceId), store)

def insertRows (workspaceId : WorkspaceId) (rows : List ExtractedEvent) : BatchStatements (List ExtractedEvent) :=
  Statements.execute fun store =>
    let (newRows, sendEvents) := insertSendEvents platform workspaceId rows store.db.sendEvents
    .ok (newRows, { store with db := { store.db with sendEvents } })

/-- A test event, or one without a type or a send, issues no statement. -/
def applyRow (now : Timestamp) (workspaceId : WorkspaceId) (row : ExtractedEvent) : BatchStatements Unit :=
  if row.isTest || row.normalizedType.isNone || row.sendId.isNone then pure ()
  else perform fun store => { store with db := applyNewRow platform now workspaceId store.db row }

def storeRows (now : Timestamp) (workspaceId : WorkspaceId) (rows : List ExtractedEvent) : BatchStatements Nat := do
  let resolvedRows ← resolveRows platform workspaceId rows
  let newRows ← insertRows platform workspaceId resolvedRows
  newRows.forM (applyRow platform now workspaceId)
  pure newRows.length

/-- An empty `VALUES ()` is never sent. -/
def storeSurvivors (now : Timestamp) (workspaceId : WorkspaceId) (rows : List ExtractedEvent) : BatchStatements Nat :=
  if rows.isEmpty then pure 0 else storeRows platform now workspaceId rows

def debounceWebhookHealth : BatchStatements Unit := perform id

def batchStatements (now : Timestamp) (job : WebhookEventsJob) (rows : List ExtractedEvent)
    (candidates : List QuarantineCandidate) : BatchStatements Nat := do
  candidates.zipIdx.forM fun entry => writeQuarantinedEvent job.workspaceId entry.1 (failures entry.2)
  let insertedCount ← storeSurvivors platform now job.workspaceId rows
  debounceWebhookHealth
  job.journalId.forM fun journalId =>
    perform fun store => store.markIngestionComplete now job.workspaceId journalId
  pure insertedCount

def runBatch (store : IngressStore) (job : WebhookEventsJob) (scannedAt now : Timestamp) (owners : Sends) :
    Except (SqlError SqlState) Nat × IngressStore :=
  let rows := survivingRows platform owners scannedAt job
  let candidates := batchQuarantine platform scannedAt job
  if rows.isEmpty && candidates.isEmpty then
    (.ok 0, store.markJournalCompleteIfPresent now job.workspaceId job.journalId)
  else (batchStatements platform failures now job rows candidates).transact store

/-- The surviving events are stored and applied as when no insert fails, and the journal row is marked. -/
structure SurvivesRejects (store outcome : IngressStore) (job : WebhookEventsJob) (scannedAt now : Timestamp)
    (owners : Sends) : Prop where
  stored : outcome.db.sendEvents = (finishBatch platform store job scannedAt now owners).db.sendEvents
  applied : withoutLogs outcome.db = withoutLogs (finishBatch platform store job scannedAt now owners).db
  completed : outcome.isCompleted job = true

def allDuplicates (store : IngressStore) (job : WebhookEventsJob) (scannedAt : Timestamp) (owners : Sends) : Prop :=
  ∀ row ∈ (survivingRows platform owners scannedAt job).map (resolveRow platform store.db.sends job.workspaceId),
    ∃ key, rowKey platform job.workspaceId row = some key ∧ key ∈ store.db.sendEvents.filterMap dedupKey

end Batches

section Statements

open Statements

variable {platform : Platform} {failures : Nat → Option SqlState} {store : IngressStore} {job : WebhookEventsJob}
  {workspaceId : WorkspaceId} {now : Timestamp} {rows : List ExtractedEvent} {candidates : List QuarantineCandidate}

theorem runIn_perform {change : IngressStore → IngressStore} :
    (perform change).runIn (.active store) = (.ok (), .active (change store)) := runIn_execute_ok rfl

theorem runIn_perform_aborted {change : IngressStore → IngressStore} :
    (perform change).runIn .aborted = (.error .inFailedTransaction, .aborted) := rfl

def quarantined (workspaceId : WorkspaceId) (candidates : List QuarantineCandidate) (store : IngressStore) :
    IngressStore :=
  { store with db := writeQuarantinedEvents store.db workspaceId candidates }

theorem runIn_writeQuarantinedEvent {candidate : QuarantineCandidate} :
    (writeQuarantinedEvent workspaceId candidate none).runIn (.active store) =
      (.ok (), .active (quarantined workspaceId [candidate] store)) := by
  rfl

theorem runIn_writeQuarantinedEvent_refused {candidate : QuarantineCandidate} {error : SqlState} :
    (writeQuarantinedEvent workspaceId candidate (some error)).runIn (.active store) = (.ok (), .aborted) := by
  rfl

theorem quarantine_zipIdx (start : Nat) :
    (candidates.zipIdx start).foldl (fun store entry => quarantined workspaceId [entry.1] store) store =
      quarantined workspaceId candidates store := by
  induction candidates generalizing store start with
  | nil =>
    rw [List.zipIdx_nil, List.foldl_nil, quarantined, writeQuarantinedEvents, List.map_nil, List.append_nil]
  | cons candidate rest ih =>
    rw [List.zipIdx_cons, List.foldl_cons, ih]
    simp [quarantined, writeQuarantinedEvents]

theorem runIn_quarantine (intact : ∀ index < candidates.length, failures index = none) :
    (candidates.zipIdx.forM fun entry => writeQuarantinedEvent workspaceId entry.1 (failures entry.2)).runIn
        (.active store) =
      (.ok (), .active (quarantined workspaceId candidates store)) := by
  rw [← quarantine_zipIdx 0]
  apply runIn_forM_ok
  intro entry member store
  have place : entry.2 < candidates.length := List.snd_lt_of_mem_zipIdx member
  rw [intact entry.2 place]
  exact runIn_writeQuarantinedEvent

theorem runIn_quarantine_failed {index : Nat} (inside : index < candidates.length)
    (failed : (failures index).isSome) :
    (candidates.zipIdx.forM fun entry => writeQuarantinedEvent workspaceId entry.1 (failures entry.2)).runIn
        (.active store) = (.ok (), .aborted) := by
  apply @runIn_forM_aborts _ _ _ _ _ _ (fun store entry => quarantined workspaceId [entry.1] store)
    fun entry => (failures entry.2).isSome = true
  · intro entry
    rfl
  · intro entry fault store
    obtain ⟨error, known⟩ := Option.isSome_iff_exists.mp fault
    rw [known]
    exact runIn_writeQuarantinedEvent_refused
  · intro entry fault store
    rw [Option.not_isSome_iff_eq_none.mp fault]
    exact runIn_writeQuarantinedEvent
  · have member : (candidates[index], index) ∈ candidates.zipIdx :=
      List.mem_zipIdx_iff_getElem?.mpr (List.getElem?_eq_getElem inside)
    exact ⟨_, member, failed⟩

theorem runIn_resolveRows :
    (resolveRows platform workspaceId rows).runIn (.active store) =
      (.ok (rows.map (resolveRow platform store.db.sends workspaceId)), .active store) := by
  rw [resolveRows]
  split
  next anonymous =>
    have same : ∀ row ∈ rows, resolveRow platform store.db.sends workspaceId row = row := by
      intro row member
      have absent := Option.isNone_iff_eq_none.mp (List.all_eq_true.mp anonymous row member)
      rw [resolveRow, absent, Option.filter_none, ← absent]
    rw [List.map_congr_left same, List.map_id', runIn_pure]
  next => exact runIn_execute_ok rfl

theorem runIn_applyRow {row : ExtractedEvent} :
    (applyRow platform now workspaceId row).runIn (.active store) =
      (.ok (), .active { store with db := applyNewRow platform now workspaceId store.db row }) := by
  rw [applyRow]
  split
  next silent =>
    have same : applyNewRow platform now workspaceId store.db row = store.db := by
      rw [Bool.or_eq_true, Bool.or_eq_true] at silent
      rcases silent with (test | typeless) | anonymous
      · rw [applyNewRow, if_pos test]
      · rw [applyNewRow, Option.isNone_iff_eq_none.mp typeless]
        exact ite_self _
      · rw [applyNewRow, Option.isNone_iff_eq_none.mp anonymous]
        cases row.normalizedType <;> exact ite_self _
    rw [same, runIn_pure]
  next => exact runIn_perform

theorem db_foldl (rows : List ExtractedEvent) (store : IngressStore) :
    rows.foldl (fun store row => { store with db := applyNewRow platform now workspaceId store.db row }) store =
      { store with db := rows.foldl (applyNewRow platform now workspaceId) store.db } := by
  induction rows generalizing store with
  | nil => rfl
  | cons row rest ih => rw [List.foldl_cons, ih, List.foldl_cons]

theorem runIn_storeRows :
    (storeRows platform now workspaceId rows).runIn (.active store) =
      (.ok (insertSendEvents platform workspaceId (rows.map (resolveRow platform store.db.sends workspaceId))
          store.db.sendEvents).1.length,
        .active { store with db := commitBatch platform now store.db workspaceId rows [] }) := by
  rw [storeRows, runIn_bind_ok runIn_resolveRows, insertRows, runIn_bind_ok (runIn_execute_ok rfl)]
  rw [runIn_bind_ok (runIn_forM_ok fun row _ store => runIn_applyRow), db_foldl, runIn_pure]
  simp [commitBatch, writeQuarantinedEvents]

theorem runIn_storeRows_aborted :
    (storeRows platform now workspaceId rows).runIn .aborted = (.error .inFailedTransaction, .aborted) := by
  rw [storeRows]
  by_cases anonymous : (rows.all fun row => row.sendId.isNone) = true
  · rw [resolveRows, if_pos anonymous, runIn_bind_ok runIn_pure]
    exact runIn_bind_error rfl
  · rw [resolveRows, if_neg anonymous]
    exact runIn_bind_error rfl

/-- What a batch leaves when none of its statements fails. -/
def committed (platform : Platform) (now : Timestamp) (job : WebhookEventsJob) (rows : List ExtractedEvent)
    (candidates : List QuarantineCandidate) (store : IngressStore) : IngressStore :=
  let stored := { store with db := commitBatch platform now store.db job.workspaceId rows candidates }
  stored.markJournalCompleteIfPresent now job.workspaceId job.journalId

theorem commitBatch_quarantined :
    commitBatch platform now (quarantined workspaceId candidates store).db workspaceId rows [] =
      commitBatch platform now store.db workspaceId rows candidates := by
  simp [commitBatch, quarantined, writeQuarantinedEvents]

theorem runIn_markJournal :
    (job.journalId.forM fun journalId =>
        perform fun store => store.markIngestionComplete now job.workspaceId journalId).runIn (.active store) =
      (.ok (), .active (store.markJournalCompleteIfPresent now job.workspaceId job.journalId)) := by
  cases job.journalId with
  | none => rfl
  | some journalId => exact runIn_perform

theorem runIn_storeSurvivors :
    (storeSurvivors platform now workspaceId rows).runIn (.active store) =
      (.ok (insertSendEvents platform workspaceId (rows.map (resolveRow platform store.db.sends workspaceId))
          store.db.sendEvents).1.length,
        .active { store with db := commitBatch platform now store.db workspaceId rows [] }) := by
  rw [storeSurvivors]
  by_cases none : rows = []
  · subst none
    simp [insertSendEvents, commitBatch, writeQuarantinedEvents]
  · rw [if_neg (by simpa using none), runIn_storeRows]

theorem batch_intact (intact : ∀ index < candidates.length, failures index = none) :
    ∃ inserted, (batchStatements platform failures now job rows candidates).runIn (.active store) =
      (.ok inserted, .active (committed platform now job rows candidates store)) := by
  rw [batchStatements, runIn_bind_ok (runIn_quarantine intact), runIn_bind_ok runIn_storeSurvivors,
    debounceWebhookHealth, runIn_bind_ok runIn_perform, runIn_bind_ok runIn_markJournal, runIn_pure,
    commitBatch_quarantined]
  exact ⟨_, rfl⟩

theorem batch_failed {index : Nat} (inside : index < candidates.length) (failed : (failures index).isSome) :
    (batchStatements platform failures now job rows candidates).runIn (.active store) =
      (.error .inFailedTransaction, .aborted) := by
  rw [batchStatements, runIn_bind_ok (runIn_quarantine_failed inside failed), storeSurvivors]
  by_cases none : rows.isEmpty = true
  · rw [if_pos none, runIn_bind_ok runIn_pure]
    exact runIn_bind_error runIn_perform_aborted
  · rw [if_neg none]
    exact runIn_bind_error runIn_storeRows_aborted

end Statements

section Survival

variable {platform : Platform} {failures : Nat → Option SqlState} {store : IngressStore} {job : WebhookEventsJob}
  {scannedAt now : Timestamp} {owners : Sends}

theorem runBatch_intact (intact : ∀ index < (batchQuarantine platform scannedAt job).length, failures index = none) :
    (runBatch platform failures store job scannedAt now owners).2 =
      finishBatch platform store job scannedAt now owners := by
  rw [runBatch, finishBatch]
  split
  next => rfl
  next =>
    obtain ⟨inserted, ran⟩ := batch_intact intact
    rw [Statements.transact_ok ran]
    rfl

theorem runBatch_failed {index : Nat} (inside : index < (batchQuarantine platform scannedAt job).length)
    (failed : (failures index).isSome) : (runBatch platform failures store job scannedAt now owners).2 = store := by
  rw [runBatch, if_neg, Statements.transact_error (batch_failed inside failed)]
  intro nothing
  have none := List.isEmpty_iff.mp (Bool.and_eq_true_iff.mp nothing).2
  rw [none] at inside
  cases inside

def addedRows (platform : Platform) (store : IngressStore) (job : WebhookEventsJob) (scannedAt : Timestamp)
    (owners : Sends) : List ExtractedEvent :=
  winners (rowKey platform job.workspaceId) (store.db.sendEvents.filterMap dedupKey)
    ((survivingRows platform owners scannedAt job).map (resolveRow platform store.db.sends job.workspaceId))

theorem addedRows_none (none : (survivingRows platform owners scannedAt job).isEmpty = true) :
    addedRows platform store job scannedAt owners = [] := by
  rw [addedRows, List.isEmpty_iff.mp none, List.map_nil, winners]

theorem sendEvents_finishBatch : (finishBatch platform store job scannedAt now owners).db.sendEvents =
    store.db.sendEvents ++ (addedRows platform store job scannedAt owners).map
      (storedEvent platform job.workspaceId) := by
  rw [db_finishBatch]
  split
  next nothing =>
    rw [addedRows_none (Bool.and_eq_true_iff.mp nothing).1, List.map_nil, List.append_nil]
  next =>
    rw [(logs_commitBatch _ _).1, insertSendEvents_eq]
    rfl

theorem withoutLogs_finishBatch : withoutLogs (finishBatch platform store job scannedAt now owners).db =
    (addedRows platform store job scannedAt owners).foldl (applyNewRow platform now job.workspaceId)
      (withoutLogs store.db) := by
  rw [db_finishBatch]
  split
  next nothing => rw [addedRows_none (Bool.and_eq_true_iff.mp nothing).1, List.foldl_nil]
  next =>
    rw [commitBatch, insertSendEvents_eq, withoutLogs, ← applyNewRows_withLogs]
    rfl

theorem isCompleted_finishBatch : (finishBatch platform store job scannedAt now owners).isCompleted job = true := by
  rw [IngressStore.isCompleted, logs_finishBatch.1]
  cases named : job.journalId with
  | none => rfl
  | some journalId =>
    have looked := @Table.find?_update _ _ _ _ store.journal journalId
      (fun row => row.workspaceId == job.workspaceId && row.id == journalId)
      (fun row => { row with ingestionCompletedAt := some now }) fun _ => rfl
    rw [Option.bind_some, IngressStore.markJournalCompleteIfPresent, IngressStore.markIngestionComplete, looked]
    cases found : store.journal.find? journalId with
    | none => rfl
    | some row =>
      have keyed : row.id = journalId := Table.key_of_find? found
      by_cases own : row.workspaceId = job.workspaceId
      · simp [own, keyed]
      · simp [own]

/-- A batch with rejects survives their failed inserts exactly where none fails, or nothing is left to store
or mark. -/
theorem rejects_survived_iff (platform : Platform) (failures : Nat → Option SqlState) (store : IngressStore)
    (job : WebhookEventsJob) (scannedAt now : Timestamp) (owners : Sends) :
    SurvivesRejects platform store (runBatch platform failures store job scannedAt now owners).2 job scannedAt now
        owners ↔
      (∀ index < (batchQuarantine platform scannedAt job).length, failures index = none) ∨
        (allDuplicates platform store job scannedAt owners ∧ store.isCompleted job = true) := by
  have spared : addedRows platform store job scannedAt owners = [] ↔
      allDuplicates platform store job scannedAt owners := winners_eq_nil_iff
  by_cases intact : ∀ index < (batchQuarantine platform scannedAt job).length, failures index = none
  · rw [runBatch_intact intact]
    exact iff_of_true ⟨rfl, rfl, isCompleted_finishBatch⟩ (Or.inl intact)
  · push Not at intact
    obtain ⟨index, inside, failed⟩ := intact
    rw [runBatch_failed inside (Option.isSome_iff_ne_none.mpr failed)]
    constructor
    · intro survived
      refine Or.inr ⟨spared.mp ?_, survived.completed⟩
      have stored := survived.stored
      rw [sendEvents_finishBatch] at stored
      have none := List.append_right_eq_self.mp stored.symm
      exact List.map_eq_nil_iff.mp none
    · intro condition
      rcases condition with intact | ⟨duplicates, completed⟩
      · exact absurd (intact index inside) failed
      · have nothing := spared.mpr duplicates
        refine ⟨?_, ?_, completed⟩
        · rw [sendEvents_finishBatch, nothing, List.map_nil, List.append_nil]
        · rw [withoutLogs_finishBatch, nothing, List.foldl_nil]

end Survival

section Failure

def mixedBatch : WebhookEventsJob where
  workspaceId := 0
  events :=
    [.object [("sg_event_id", .string "e1"), ("event", .string "open")],
      .object [("sg_event_id", .string "e2"), ("event", .string "open"), ("timestamp", .number 0)]]
  journalId := none

/-- The only quarantine insert of the batch fails, and its accepted event is lost. -/
theorem refused_quarantine_loses_batch :
    ¬ ∀ (platform : Platform) (failures : Nat → Option SqlState) (store : IngressStore) (job : WebhookEventsJob)
      (scannedAt now : Timestamp) (owners : Sends),
      SurvivesRejects platform store (runBatch platform failures store job scannedAt now owners).2 job scannedAt now
        owners := by
  intro always
  have survived := always uuidPlatform (fun _ => some "22P05") {} mixedBatch 0 0 .empty
  have lengths := congrArg List.length survived.stored
  revert lengths
  decide +kernel

end Failure

end LocalCrm.Webhooks
