import LocalCrm.Webhooks.Journal

/-! What a journal row is worth between its writing and its end.

Every row, every job and every worker that names a row has the batch that was verified for it.
-/

set_option autoImplicit false

namespace LocalCrm.Webhooks

open Library Delivery

/-- The row holds the batch that was verified under its id, or has been emptied. -/
def RowBacked (verified : List VerifiedBatch) (row : IngressJournalRow) : Prop :=
  ∃ batch, verified[row.id]? = some batch ∧ row.workspaceId = batch.workspaceId ∧ row.receivedAt = batch.receivedAt ∧
    (row.rawBatch = some batch.events ∧ row.payloadPurgedAt = none ∨ row.rawBatch = none ∧ row.payloadPurgedAt ≠ none)

/-- A job that names a row carries the batch verified under that id. -/
def JobBacked (verified : List VerifiedBatch) (job : WebhookEventsJob) : Prop :=
  ∀ journalId, job.journalId = some journalId → ∃ batch, verified[journalId]? = some batch ∧
    job.workspaceId = batch.workspaceId ∧ job.events = batch.events

structure JournalSound (store : IngressStore) : Prop where
  rows : ∀ row ∈ store.journal.rows, RowBacked store.verified row
  jobs : ∀ job ∈ store.jobs, JobBacked store.verified job
  sweeping : ∀ job ∈ store.sweeping, JobBacked store.verified job

def IngressWorker.job : IngressWorker → Option WebhookEventsJob
  | .journaled job | .claimed job | .scanned job _ _ => some job
  | .idle | .verified _ _ => none

def WorkerBacked (_ : Nat) (store : IngressStore) (worker : IngressWorker) : Prop :=
  ∀ job, worker.job = some job → JobBacked store.verified job

abbrev IngressSound : IngressThreads → Prop := Threads.Sound JournalSound WorkerBacked

structure FreshJournal (threads : IngressThreads) : Prop where
  journal : threads.shared.journal = .empty
  verified : threads.shared.verified = []
  sweeping : threads.shared.sweeping = []
  jobs : ∀ job ∈ threads.shared.jobs, job.journalId = none
  idle : ∀ id, threads.own id = .idle

/-- Every accepted event of the batch that is not a sibling's is stored, and every rejected one is in
quarantine. -/
structure BatchCommitted (platform : Platform) (batch : VerifiedBatch) (scannedAt : Timestamp) (owners sends : Sends)
    (db : Database) : Prop where
  events : ∀ raw ∈ batch.events, ∀ row, extractEventRow platform raw scannedAt = .extracted row →
    (row.sendId.bind (ownerOfText platform owners)).all (· == batch.workspaceId) = true →
      ∃ event ∈ db.sendEvents,
        event = storedEvent platform batch.workspaceId (resolveRow platform sends batch.workspaceId row) ∨
        sameDedupKey (storedEvent platform batch.workspaceId (resolveRow platform sends batch.workspaceId row)) event =
          true
  quarantined : ∀ raw ∈ batch.events, ∀ candidate, extractEventRow platform raw scannedAt = .quarantine candidate →
    { workspaceId := batch.workspaceId, sgEventId := candidate.sgEventId, eventType := candidate.eventType
      reason := candidate.reason } ∈ db.sendEventQuarantine

def CommitsBatch (platform : Platform) (threads : IngressThreads) (turn : Turn IngressTurn IngressEvent)
    (next : IngressThreads) (journalId : JournalId) : Prop :=
  ∃ id now job scannedAt owners batch, turn = .thread id (.commit now) ∧
    threads.own id = .scanned job scannedAt owners ∧ job.journalId = some journalId ∧
    threads.shared.verified[journalId]? = some batch ∧
    BatchCommitted platform batch scannedAt owners threads.shared.db.sends next.shared.db

def RetiresRow (thresholds : WorkspaceTickThresholds) (turn : Turn IngressTurn IngressEvent) (row : IngressJournalRow) :
    Prop :=
  ∃ workspaceId now, turn = .outside (.tick workspaceId now) ∧
    IngressStore.isExpired thresholds now workspaceId row = true

structure JournalKept (platform : Platform) (thresholds : WorkspaceTickThresholds) (threads : IngressThreads)
    (turn : Turn IngressTurn IngressEvent) (next : IngressThreads) : Prop where
  marked : ∀ row after, threads.shared.journal.find? row.id = some row → row.ingestionCompletedAt = none →
    next.shared.journal.find? row.id = some after → after.ingestionCompletedAt ≠ none →
      CommitsBatch platform threads turn next row.id
  kept : ∀ row, threads.shared.journal.find? row.id = some row → row.ingestionCompletedAt = none →
    ∃ after, next.shared.journal.find? row.id = some after ∧
      (after.rawBatch = row.rawBatch ∧ after.payloadPurgedAt = row.payloadPurgedAt ∨ RetiresRow thresholds turn row)
  verified : ∀ row ∈ next.shared.journal.rows, RowBacked next.shared.verified row
  /-- A sweep takes up rows that are unmarked, have a payload and an attempt left when its transaction starts. -/
  replayed : ∀ job ∈ next.shared.sweeping, job ∈ threads.shared.sweeping ∨
    ∃ row workspaceId now, turn = .outside (.tick workspaceId now) ∧
      threads.shared.journal.find? row.id = some row ∧ job.journalId = some row.id ∧
      job.workspaceId = row.workspaceId ∧ row.ingestionCompletedAt = none ∧ row.payloadPurgedAt = none ∧
      row.rawBatch = some job.events ∧ row.replayCount < thresholds.maxAttempts
  /-- A job is created by the route for the row it has written, or by the sweep that took the row up. -/
  created : next.shared.jobs = threads.shared.jobs ∨ ∃ job, next.shared.jobs = threads.shared.jobs ++ [job] ∧
    ((∃ id, turn = .thread id .enqueue ∧ threads.own id = .journaled job) ∨
      turn = .outside .enqueueCandidate ∧ threads.shared.sweeping.head? = some job)

section Commits

variable {platform : Platform} {workspaceId : WorkspaceId} {now : Timestamp} {db : Database}

theorem kept_of_insertSendEvents {rows : List ExtractedEvent} {events : List SendEvent} {event : SendEvent}
    (member : event ∈ events) : event ∈ (insertSendEvents platform workspaceId rows events).2 := by
  rw [insertSendEvents_eq]
  exact List.mem_append_left _ member

theorem stored_of_insertSendEvents {rows : List ExtractedEvent} {events : List SendEvent} {row : ExtractedEvent}
    (member : row ∈ rows) : ∃ event ∈ (insertSendEvents platform workspaceId rows events).2,
      event = storedEvent platform workspaceId row ∨
        sameDedupKey (storedEvent platform workspaceId row) event = true := by
  induction rows generalizing events with
  | nil => cases member
  | cons head rest ih =>
    unfold insertSendEvents
    rcases List.mem_cons.mp member with rfl | later
    · by_cases taken : events.any (sameDedupKey (storedEvent platform workspaceId row)) = true
      · obtain ⟨event, stored, same⟩ := List.any_eq_true.mp taken
        simp only [taken, if_true]
        exact ⟨event, kept_of_insertSendEvents stored, .inr same⟩
      · simp only [taken, Bool.false_eq_true, if_false]
        exact ⟨_, kept_of_insertSendEvents (List.mem_append_right _ (List.mem_singleton_self _)), .inl rfl⟩
    · by_cases taken : events.any (sameDedupKey (storedEvent platform workspaceId head)) = true
      · simp only [taken, if_true]
        exact ih later
      · simp only [taken, Bool.false_eq_true, if_false]
        exact ih later

theorem sendEventQuarantine_applyNewRows (rows : List ExtractedEvent) :
    (rows.foldl (applyNewRow platform now workspaceId) db).sendEventQuarantine = db.sendEventQuarantine := by
  have same : rows.foldl (applyNewRow platform now workspaceId) (withLogs db.sendEvents db.sendEventQuarantine db) =
      withLogs db.sendEvents db.sendEventQuarantine (rows.foldl (applyNewRow platform now workspaceId) db) :=
    applyNewRows_withLogs rows db
  have quarantine := congrArg (fun db : Database => db.sendEventQuarantine) same
  exact quarantine

theorem logs_commitBatch (rows : List ExtractedEvent) (candidates : List QuarantineCandidate) :
    (commitBatch platform now db workspaceId rows candidates).sendEvents =
        (insertSendEvents platform workspaceId (rows.map (resolveRow platform db.sends workspaceId)) db.sendEvents).2 ∧
      (commitBatch platform now db workspaceId rows candidates).sendEventQuarantine =
        (writeQuarantinedEvents db workspaceId candidates).sendEventQuarantine := by
  unfold commitBatch
  rw [sendEvents_applyNewRows, sendEventQuarantine_applyNewRows]
  exact ⟨rfl, rfl⟩

variable {store : IngressStore} {job : WebhookEventsJob} {scannedAt : Timestamp} {owners : Sends}

theorem db_markJournalCompleteIfPresent (journalId : Option JournalId) :
    (store.markJournalCompleteIfPresent now workspaceId journalId).db = store.db := by
  cases journalId <;> rfl

theorem db_finishBatch : (finishBatch platform store job scannedAt now owners).db =
    if (survivingRows platform owners scannedAt job).isEmpty && (batchQuarantine platform scannedAt job).isEmpty then
      store.db
    else commitBatch platform now store.db job.workspaceId (survivingRows platform owners scannedAt job)
      (batchQuarantine platform scannedAt job) := by
  simp only [finishBatch]
  split
  · exact db_markJournalCompleteIfPresent _
  · exact db_markJournalCompleteIfPresent _

theorem committed_finishBatch {batch : VerifiedBatch} (owner : job.workspaceId = batch.workspaceId)
    (events : job.events = batch.events) :
    BatchCommitted platform batch scannedAt owners store.db.sends
      (finishBatch platform store job scannedAt now owners).db := by
  have surviving : ∀ raw ∈ batch.events, ∀ row, extractEventRow platform raw scannedAt = .extracted row →
      (row.sendId.bind (ownerOfText platform owners)).all (· == batch.workspaceId) = true →
        row ∈ survivingRows platform owners scannedAt job := by
    intro raw member row extracted own
    rw [survivingRows, dropSiblingWorkspaceEvents, extractedRows, owner, events, List.filterMap_map]
    refine List.mem_filter.mpr ⟨List.mem_filterMap.mpr ⟨raw, member, ?_⟩, own⟩
    rw [Function.comp_apply, extracted]
  have rejected : ∀ raw ∈ batch.events, ∀ candidate, extractEventRow platform raw scannedAt = .quarantine candidate →
      candidate ∈ batchQuarantine platform scannedAt job := by
    intro raw member candidate quarantined
    rw [batchQuarantine, quarantineCandidates, events, List.filterMap_map]
    refine List.mem_filterMap.mpr ⟨raw, member, ?_⟩
    rw [Function.comp_apply, quarantined]
  rw [db_finishBatch]
  split
  · next nothing =>
    rw [Bool.and_eq_true, List.isEmpty_iff, List.isEmpty_iff] at nothing
    constructor
    · intro raw member row extracted own
      have inside := surviving raw member row extracted own
      rw [nothing.1] at inside
      cases inside
    · intro raw member candidate quarantined
      have inside := rejected raw member candidate quarantined
      rw [nothing.2] at inside
      cases inside
  · obtain ⟨stored, quarantine⟩ := @logs_commitBatch platform job.workspaceId now store.db
      (survivingRows platform owners scannedAt job) (batchQuarantine platform scannedAt job)
    constructor
    · intro raw member row extracted own
      rw [stored, owner]
      exact stored_of_insertSendEvents (List.mem_map_of_mem (surviving raw member row extracted own))
    · intro raw member candidate quarantined
      rw [quarantine, writeQuarantinedEvents, owner]
      exact List.mem_append_right _ (List.mem_map.mpr ⟨candidate, rejected raw member candidate quarantined, rfl⟩)

end Commits

section Backing

variable {verified more : List VerifiedBatch} {row : IngressJournalRow} {job : WebhookEventsJob} {store : IngressStore}

theorem rowBacked_append (backed : RowBacked verified row) : RowBacked (verified ++ more) row := by
  obtain ⟨batch, found, rest⟩ := backed
  exact ⟨batch, List.getElem?_append_left (List.getElem?_eq_some_iff.mp found).1 ▸ found, rest⟩

theorem jobBacked_append (backed : JobBacked verified job) : JobBacked (verified ++ more) job := by
  intro journalId named
  obtain ⟨batch, found, rest⟩ := backed journalId named
  exact ⟨batch, List.getElem?_append_left (List.getElem?_eq_some_iff.mp found).1 ▸ found, rest⟩

theorem rowBacked_set {after : IngressJournalRow} (backed : RowBacked verified row) (id : after.id = row.id)
    (owner : after.workspaceId = row.workspaceId) (received : after.receivedAt = row.receivedAt)
    (payload : after.rawBatch = row.rawBatch ∧ after.payloadPurgedAt = row.payloadPurgedAt ∨
      after.rawBatch = none ∧ after.payloadPurgedAt ≠ none) : RowBacked verified after := by
  obtain ⟨batch, found, belongs, at', holds⟩ := backed
  refine ⟨batch, id ▸ found, owner.trans belongs, received.trans at', ?_⟩
  rcases payload with ⟨batchKept, purgeKept⟩ | emptied
  · rw [batchKept, purgeKept]
    exact holds
  · exact .inr emptied

theorem jobBacked_of_rowBacked {workspaceId : WorkspaceId} (backed : RowBacked verified row)
    (owner : row.workspaceId = workspaceId) (payload : row.payloadPurgedAt = none) :
    JobBacked verified (buildWebhookEventsJobPayload workspaceId (row.rawBatch.getD []) (some row.id)) := by
  obtain ⟨batch, found, belongs, _, holds⟩ := backed
  rcases holds with ⟨present, _⟩ | ⟨_, purged⟩
  · intro journalId named
    cases named
    refine ⟨batch, found, owner.symm.trans belongs, ?_⟩
    show row.rawBatch.getD [] = batch.events
    rw [present, Option.getD_some]
  · exact absurd payload purged

end Backing

section Tick

variable {thresholds : WorkspaceTickThresholds} {now : Timestamp} {workspaceId : WorkspaceId} {store : IngressStore}
  {row : IngressJournalRow} {journalId : JournalId} {ids : List JournalId}

def replayedRow (workspaceId : WorkspaceId) (ids : List JournalId) (row : IngressJournalRow) : IngressJournalRow :=
  if row.workspaceId == workspaceId && ids.contains row.id then { row with replayCount := row.replayCount + 1 } else row

def tickedRow (thresholds : WorkspaceTickThresholds) (now : Timestamp) (workspaceId : WorkspaceId)
    (ids : List JournalId) (row : IngressJournalRow) : IngressJournalRow :=
  if IngressStore.isExpired thresholds now workspaceId row && row.ingestionCompletedAt.isNone &&
      row.payloadPurgedAt.isNone then
    { replayedRow workspaceId ids row with rawBatch := none, payloadPurgedAt := some now }
  else replayedRow workspaceId ids row

theorem replayedRow_eq (workspaceId : WorkspaceId) (ids : List JournalId) (row : IngressJournalRow) :
    ∃ replayCount, replayedRow workspaceId ids row = { row with replayCount } := by
  unfold replayedRow
  split
  · exact ⟨_, rfl⟩
  · exact ⟨row.replayCount, rfl⟩

theorem find?_replayed :
    (store.replayed workspaceId ids).find? journalId =
      (store.journal.find? journalId).map (replayedRow workspaceId ids) := Table.find?_update

theorem find?_purged (journal : Table IngressJournalRow.id) :
    (IngressStore.purgeExpiredIngressJournalPayloads thresholds now workspaceId journal).find? journalId =
      (journal.find? journalId).map fun row =>
        if IngressStore.isExpired thresholds now workspaceId row && row.ingestionCompletedAt.isNone &&
            row.payloadPurgedAt.isNone then
          { row with rawBatch := none, payloadPurgedAt := some now }
        else row := Table.find?_update

theorem find?_ticked :
    (store.runWorkspaceTick thresholds now workspaceId).journal.find? journalId =
      (((store.journal.find? journalId).map
        (replayedRow workspaceId (store.eligibleIds thresholds now workspaceId))).filter fun row =>
          !(IngressStore.isExpired thresholds now workspaceId row && row.ingestionCompletedAt.isSome)).map fun row =>
            if IngressStore.isExpired thresholds now workspaceId row && row.ingestionCompletedAt.isNone &&
                row.payloadPurgedAt.isNone then
              { row with rawBatch := none, payloadPurgedAt := some now }
            else row := by
  rw [← find?_replayed, ← Table.find?_delete]
  exact find?_purged _

theorem find?_runWorkspaceTick (found : store.journal.find? journalId = some row) :
    (store.runWorkspaceTick thresholds now workspaceId).journal.find? journalId =
      if IngressStore.isExpired thresholds now workspaceId row && row.ingestionCompletedAt.isSome then none
      else some (tickedRow thresholds now workspaceId (store.eligibleIds thresholds now workspaceId) row) := by
  rw [find?_ticked, found, Option.map_some, Option.filter_some, tickedRow]
  obtain ⟨replayCount, same⟩ := replayedRow_eq workspaceId (store.eligibleIds thresholds now workspaceId) row
  rw [same]
  have untouched : IngressStore.isExpired thresholds now workspaceId { row with replayCount } =
      IngressStore.isExpired thresholds now workspaceId row := rfl
  simp only [untouched]
  cases leaves : IngressStore.isExpired thresholds now workspaceId row && row.ingestionCompletedAt.isSome with
  | true => rfl
  | false =>
    simp only [Bool.not_false, if_true, Option.map_some, Bool.false_eq_true, if_false, untouched]

theorem find?_before_tick {after : IngressJournalRow}
    (found : (store.runWorkspaceTick thresholds now workspaceId).journal.find? journalId = some after) :
    ∃ row, store.journal.find? journalId = some row ∧
      after = tickedRow thresholds now workspaceId (store.eligibleIds thresholds now workspaceId) row := by
  cases before : store.journal.find? journalId with
  | none =>
    rw [find?_ticked, before, Option.map_none, Option.filter_none, Option.map_none] at found
    cases found
  | some row =>
    rw [find?_runWorkspaceTick before] at found
    split at found
    · cases found
    · exact ⟨row, rfl, (Option.some.inj found).symm⟩

theorem tickedRow_payload (row : IngressJournalRow) :
    (tickedRow thresholds now workspaceId ids row).id = row.id ∧
      (tickedRow thresholds now workspaceId ids row).workspaceId = row.workspaceId ∧
      (tickedRow thresholds now workspaceId ids row).receivedAt = row.receivedAt ∧
      (tickedRow thresholds now workspaceId ids row).ingestionCompletedAt = row.ingestionCompletedAt ∧
      ((tickedRow thresholds now workspaceId ids row).rawBatch = row.rawBatch ∧
          (tickedRow thresholds now workspaceId ids row).payloadPurgedAt = row.payloadPurgedAt ∨
        IngressStore.isExpired thresholds now workspaceId row = true ∧
          (tickedRow thresholds now workspaceId ids row).rawBatch = none ∧
          (tickedRow thresholds now workspaceId ids row).payloadPurgedAt ≠ none) := by
  obtain ⟨replayCount, same⟩ := replayedRow_eq workspaceId ids row
  unfold tickedRow
  rw [same]
  split
  · next purged =>
    rw [Bool.and_eq_true, Bool.and_eq_true] at purged
    exact ⟨rfl, rfl, rfl, rfl, .inr ⟨purged.1.1, rfl, Option.some_ne_none _⟩⟩
  · exact ⟨rfl, rfl, rfl, rfl, .inl ⟨rfl, rfl⟩⟩

theorem eligible_of_mem (member : journalId ∈ store.eligibleIds thresholds now workspaceId) :
    ∃ row, store.journal.find? journalId = some row ∧ row.id = journalId ∧ row.workspaceId = workspaceId ∧
      row.ingestionCompletedAt = none ∧ row.payloadPurgedAt = none ∧ row.replayCount < thresholds.maxAttempts := by
  obtain ⟨row, eligible, rfl⟩ := List.mem_map.mp member
  obtain ⟨picked, allowed⟩ := List.mem_filter.mp eligible
  obtain ⟨stored, stuck⟩ := List.mem_filter.mp ((List.mem_insertionSort _).mp (List.mem_of_mem_take picked))
  rw [IngressStore.isStuck, Bool.and_eq_true, Bool.and_eq_true, beq_iff_eq] at stuck
  rw [IngressStore.isEligible, Bool.and_eq_true, decide_eq_true_eq] at allowed
  exact ⟨row, Table.find?_of_mem stored, rfl, stuck.1.1, Option.isNone_iff_eq_none.mp stuck.1.2,
    Option.isNone_iff_eq_none.mp allowed.1, allowed.2⟩

theorem mem_enqueueCandidates {job : WebhookEventsJob}
    (member : job ∈ store.enqueueCandidates workspaceId (store.eligibleIds thresholds now workspaceId)) :
    ∃ row, store.journal.find? row.id = some row ∧ row.workspaceId = workspaceId ∧ row.ingestionCompletedAt = none ∧
      row.payloadPurgedAt = none ∧ row.replayCount < thresholds.maxAttempts ∧
      job = buildWebhookEventsJobPayload workspaceId (row.rawBatch.getD []) (some row.id) := by
  obtain ⟨row, selected, rfl⟩ := List.mem_map.mp member
  obtain ⟨stored, chosen⟩ := List.mem_filter.mp selected
  rw [Bool.and_eq_true, List.contains_iff_mem] at chosen
  obtain ⟨other, found, named, owner, unmarked, unpurged, attempts⟩ := eligible_of_mem chosen.2
  have same := Table.eq_of_find? found stored rfl
  subst same
  exact ⟨row, found, owner, unmarked, unpurged, attempts, rfl⟩

end Tick

section Soundness

variable {platform : Platform} {thresholds : WorkspaceTickThresholds} {store next : IngressStore}
  {worker after : IngressWorker} {turn : IngressTurn} {event : IngressEvent} {now : Timestamp}
  {workspaceId : WorkspaceId} {journalId : Option JournalId}

def StillVerified (_ : Nat) (store next : IngressStore) : Prop := ∃ more, next.verified = store.verified ++ more

theorem stillVerified_of_same (same : next.verified = store.verified) (id : Nat) : StillVerified id store next :=
  ⟨[], by rw [same, List.append_nil]⟩

theorem workerBacked_stable (id : Nat) (store next : IngressStore) (worker : IngressWorker)
    (backed : WorkerBacked id store worker) (still : StillVerified id store next) : WorkerBacked id next worker := by
  obtain ⟨more, same⟩ := still
  intro job working
  rw [same]
  exact jobBacked_append (backed job working)

theorem soundJournal_marked (sound : JournalSound store) :
    JournalSound (store.markJournalCompleteIfPresent now workspaceId journalId) ∧
      (store.markJournalCompleteIfPresent now workspaceId journalId).verified = store.verified := by
  cases journalId with
  | none => exact ⟨sound, rfl⟩
  | some journalId =>
    refine ⟨⟨?_, sound.jobs, sound.sweeping⟩, rfl⟩
    apply Table.forall_update sound.rows
    intro row _ _ backed
    exact rowBacked_set backed rfl rfl rfl (.inl ⟨rfl, rfl⟩)

theorem soundJournal_finishBatch {job : WebhookEventsJob} {scannedAt : Timestamp} {owners : Sends}
    (sound : JournalSound store) : JournalSound (finishBatch platform store job scannedAt now owners) ∧
      (finishBatch platform store job scannedAt now owners).verified = store.verified := by
  unfold finishBatch
  simp only
  split
  · exact soundJournal_marked sound
  · have written : ∀ db, JournalSound { store with db } := fun _ => ⟨sound.rows, sound.jobs, sound.sweeping⟩
    exact soundJournal_marked (written _)

theorem soundJournal_tick (sound : JournalSound store) :
    JournalSound (store.runWorkspaceTick thresholds now workspaceId) := by
  constructor
  · intro after stored
    obtain ⟨row, before, same⟩ := find?_before_tick (Table.find?_of_mem stored)
    obtain ⟨id, owner, received, _, payload⟩ := @tickedRow_payload thresholds now workspaceId
      (store.eligibleIds thresholds now workspaceId) row
    rw [same]
    apply rowBacked_set (sound.rows row (Table.mem_of_find? before)) id owner received
    rcases payload with kept | ⟨_, emptied⟩
    · exact .inl kept
    · exact .inr emptied
  · exact sound.jobs
  · intro job member
    obtain ⟨row, found, owner, _, unpurged, _, rfl⟩ := mem_enqueueCandidates member
    exact jobBacked_of_rowBacked (sound.rows row (Table.mem_of_find? found)) owner unpurged

theorem soundJournal_written {events : List JsonValue} (sound : JournalSound store) :
    JournalSound (store.writeIngressJournal now workspaceId events) ∧
      JobBacked (store.writeIngressJournal now workspaceId events).verified
        (buildWebhookEventsJobPayload workspaceId events (some store.verified.length)) := by
  have placed : (store.verified ++ [VerifiedBatch.mk workspaceId events now])[store.verified.length]? =
      some { workspaceId, events, receivedAt := now } := List.getElem?_concat_length
  constructor
  · constructor
    · apply Table.forall_insert
      · intro row stored
        exact rowBacked_append (sound.rows row stored)
      · exact ⟨_, placed, rfl, rfl, .inl ⟨rfl, rfl⟩⟩
    · intro job member
      exact jobBacked_append (sound.jobs job member)
    · intro job member
      exact jobBacked_append (sound.sweeping job member)
  · intro journalId named
    cases named
    exact ⟨_, placed, rfl, rfl⟩

theorem ingressTurn_sound {id : Nat} (sound : JournalSound store) (backed : WorkerBacked id store worker)
    (turned : ingressTurn platform id store worker turn = some (next, after)) :
    JournalSound next ∧ WorkerBacked id next after ∧ ∀ other, StillVerified other store next := by
  unfold ingressTurn at turned
  split at turned
  case h_1 workspaceId events =>
    cases turned
    refine ⟨sound, ?_, stillVerified_of_same rfl⟩
    intro job working
    split at working <;> cases working
  case h_2 workspaceId events now =>
    cases turned
    obtain ⟨written, named⟩ := @soundJournal_written store now workspaceId events sound
    refine ⟨written, ?_, fun _ => ⟨_, rfl⟩⟩
    intro job working
    cases working
    exact named
  case h_3 job =>
    cases turned
    refine ⟨⟨sound.rows, ?_, sound.sweeping⟩, ?_, stillVerified_of_same rfl⟩
    · intro other member
      rcases List.mem_append.mp member with before | last
      · exact sound.jobs other before
      · rw [List.mem_singleton.mp last]
        exact backed job rfl
    · intro other working
      cases working
  case h_4 index =>
    obtain ⟨job, listed, same⟩ := Option.map_eq_some_iff.mp turned
    cases same
    refine ⟨sound, ?_, stillVerified_of_same rfl⟩
    intro other working
    cases working
    exact sound.jobs job (List.mem_of_getElem? listed)
  case h_5 job now =>
    cases turned
    refine ⟨sound, ?_, stillVerified_of_same rfl⟩
    intro other working
    split at working
    · cases working
    · cases working
      exact backed job rfl
  case h_6 job scannedAt owners now =>
    cases turned
    obtain ⟨finished, same⟩ := @soundJournal_finishBatch platform store now job scannedAt owners sound
    refine ⟨finished, ?_, stillVerified_of_same same⟩
    intro other working
    cases working
  case h_7 =>
    cases turned
    refine ⟨sound, ?_, stillVerified_of_same rfl⟩
    intro other working
    cases working
  case h_8 => cases turned

theorem ingressEvent_sound (sound : JournalSound store) (happened : ingressEvent thresholds store event = some next) :
    JournalSound next ∧ ∀ other, StillVerified other store next := by
  cases event with
  | tick workspaceId now =>
    simp only [ingressEvent] at happened
    split at happened
    · cases happened
      exact ⟨soundJournal_tick sound, stillVerified_of_same rfl⟩
    · cases happened
  | enqueueCandidate =>
    simp only [ingressEvent] at happened
    split at happened
    · cases happened
    · next job rest waiting =>
      cases happened
      refine ⟨⟨sound.rows, ?_, ?_⟩, stillVerified_of_same rfl⟩
      · intro other member
        rcases List.mem_append.mp member with before | last
        · exact sound.jobs other before
        · rw [List.mem_singleton.mp last]
          exact sound.sweeping job (waiting ▸ List.mem_cons_self)
      · intro other member
        exact sound.sweeping other (waiting ▸ List.mem_cons_of_mem _ member)
  | crash =>
    cases happened
    refine ⟨⟨sound.rows, sound.jobs, ?_⟩, stillVerified_of_same rfl⟩
    intro job member
    cases member
  | elsewhere db =>
    cases happened
    exact ⟨⟨sound.rows, sound.jobs, sound.sweeping⟩, stillVerified_of_same rfl⟩

theorem ingressSound_step (threads : IngressThreads) (turn : Turn IngressTurn IngressEvent) (next : IngressThreads)
    (sound : IngressSound threads) (taken : ingressStep platform thresholds threads turn = some next) :
    IngressSound next := by
  apply sound_interleave _ _ workerBacked_stable threads turn next sound taken
  · intro id store worker choice shared after sound backed turned
    obtain ⟨kept, knows, still⟩ := ingressTurn_sound sound backed turned
    exact ⟨kept, knows, fun other _ => still other⟩
  · intro store event shared sound happened
    exact ingressEvent_sound sound happened

theorem ingressSound_fresh {threads : IngressThreads} (fresh : FreshJournal threads) : IngressSound threads := by
  constructor
  · constructor
    · intro row stored
      rw [fresh.journal] at stored
      cases stored
    · intro job member journalId named
      rw [fresh.jobs job member] at named
      cases named
    · intro job member
      rw [fresh.sweeping] at member
      cases member
  · intro id job working
    rw [fresh.idle] at working
    cases working

end Soundness

section Steps

variable {platform : Platform} {thresholds : WorkspaceTickThresholds} {store : IngressStore}
  {threads next : IngressThreads} {turn : Turn IngressTurn IngressEvent} {now : Timestamp} {workspaceId : WorkspaceId}
  {row : IngressJournalRow}

theorem find?_markIngestionComplete (marked journalId : JournalId) :
    (store.markIngestionComplete now workspaceId marked).journal.find? journalId =
      (store.journal.find? journalId).map fun row =>
        if row.workspaceId == workspaceId && row.id == marked then { row with ingestionCompletedAt := some now }
        else row := by
  apply @Table.find?_update _ _ _ _ store.journal
  intro row
  rfl

theorem find?_marked {journalId : Option JournalId} (found : store.journal.find? row.id = some row) :
    ∃ completedAt, (store.markJournalCompleteIfPresent now workspaceId journalId).journal.find? row.id =
        some { row with ingestionCompletedAt := completedAt } ∧
      (completedAt = row.ingestionCompletedAt ∨ journalId = some row.id) := by
  cases journalId with
  | none => exact ⟨row.ingestionCompletedAt, found, .inl rfl⟩
  | some journalId =>
    rw [IngressStore.markJournalCompleteIfPresent, find?_markIngestionComplete, found, Option.map_some]
    by_cases named : (row.workspaceId == workspaceId && row.id == journalId) = true
    · rw [if_pos named]
      rw [Bool.and_eq_true, beq_iff_eq, beq_iff_eq] at named
      exact ⟨some now, rfl, .inr (congrArg some named.2.symm)⟩
    · rw [if_neg named]
      exact ⟨row.ingestionCompletedAt, rfl, .inl rfl⟩

theorem logs_finishBatch {job : WebhookEventsJob} {scannedAt : Timestamp} {owners : Sends} :
    (finishBatch platform store job scannedAt now owners).journal =
        (store.markJournalCompleteIfPresent now job.workspaceId job.journalId).journal ∧
      (finishBatch platform store job scannedAt now owners).jobs = store.jobs ∧
      (finishBatch platform store job scannedAt now owners).sweeping = store.sweeping := by
  unfold finishBatch
  simp only
  cases job.journalId with
  | none | some => split <;> exact ⟨rfl, rfl, rfl⟩

theorem journalKept_same (sound : IngressSound next)
    (rows : ∀ row, threads.shared.journal.find? row.id = some row → next.shared.journal.find? row.id = some row)
    (sweeping : ∀ job ∈ next.shared.sweeping, job ∈ threads.shared.sweeping)
    (created : next.shared.jobs = threads.shared.jobs ∨ ∃ job, next.shared.jobs = threads.shared.jobs ++ [job] ∧
      ((∃ id, turn = .thread id .enqueue ∧ threads.own id = .journaled job) ∨
        turn = .outside .enqueueCandidate ∧ threads.shared.sweeping.head? = some job)) :
    JournalKept platform thresholds threads turn next where
  marked row after found unmarked stored complete := by
    rw [rows row found] at stored
    cases stored
    exact absurd unmarked complete
  kept row found _ := ⟨row, rows row found, .inl ⟨rfl, rfl⟩⟩
  verified := sound.shared.rows
  replayed job member := .inl (sweeping job member)
  created := created

theorem ingressTurn_cases {id : Nat} {shared : IngressStore} {worker after : IngressWorker} {choice : IngressTurn}
    (turned : ingressTurn platform id store worker choice = some (shared, after)) :
    shared = store ∨
      (∃ workspaceId events now, choice = .writeJournal now ∧
        shared = store.writeIngressJournal now workspaceId events) ∨
      (∃ job, worker = .journaled job ∧ choice = .enqueue ∧ shared = { store with jobs := store.jobs ++ [job] }) ∨
      ∃ job scannedAt owners now, worker = .scanned job scannedAt owners ∧ choice = .commit now ∧
        shared = finishBatch platform store job scannedAt now owners := by
  unfold ingressTurn at turned
  split at turned
  case h_2 workspaceId events now =>
    cases turned
    exact .inr (.inl ⟨workspaceId, events, now, rfl, rfl⟩)
  case h_3 job =>
    cases turned
    exact .inr (.inr (.inl ⟨job, rfl, rfl, rfl⟩))
  case h_4 =>
    obtain ⟨job, _, same⟩ := Option.map_eq_some_iff.mp turned
    cases same
    exact .inl rfl
  case h_6 job scannedAt owners now =>
    cases turned
    exact .inr (.inr (.inr ⟨job, scannedAt, owners, now, rfl, rfl, rfl⟩))
  case h_8 => cases turned
  all_goals
    cases turned
    exact .inl rfl

theorem journalKept_turn {id : Nat} {choice : IngressTurn} (sound : IngressSound threads)
    (taken : ingressStep platform thresholds threads (.thread id choice) = some next) :
    JournalKept platform thresholds threads (.thread id choice) next := by
  have after := ingressSound_step threads (.thread id choice) next sound taken
  obtain ⟨shared, worker, turned, rfl⟩ := interleave_thread.mp taken
  rcases ingressTurn_cases turned with rfl | ⟨workspaceId, events, now, rfl, rfl⟩ | ⟨job, standing, rfl, rfl⟩ |
    ⟨job, scannedAt, owners, now, standing, rfl, rfl⟩
  · exact journalKept_same after (fun _ found => found) (fun _ member => member) (.inl rfl)
  · refine journalKept_same after ?_ (fun _ member => member) (.inl rfl)
    intro row found
    show (threads.shared.journal.insert _).find? row.id = some row
    rw [Table.find?_insert, found, Option.some_or]
  · exact journalKept_same after (fun _ found => found) (fun _ member => member)
      (.inr ⟨job, rfl, .inl ⟨id, rfl, standing⟩⟩)
  · obtain ⟨journal, jobs, sweeping⟩ := @logs_finishBatch platform threads.shared now job scannedAt owners
    constructor
    · intro row marked found unmarked stored complete
      obtain ⟨completedAt, written, reason⟩ := @find?_marked threads.shared now job.workspaceId row job.journalId found
      rw [journal, written] at stored
      cases stored
      rcases reason with same | named
      · exact absurd (same.trans unmarked) complete
      · -- the row's own batch is what the worker has scanned
        obtain ⟨batch, verified, owner, events⟩ := sound.own id job (by rw [standing]; rfl) row.id named
        exact ⟨id, now, job, scannedAt, owners, batch, rfl, standing, named, verified,
          committed_finishBatch owner events⟩
    · intro row found _
      obtain ⟨completedAt, written, _⟩ := @find?_marked threads.shared now job.workspaceId row job.journalId found
      rw [journal]
      exact ⟨_, written, .inl ⟨rfl, rfl⟩⟩
    · exact after.shared.rows
    · intro other member
      rw [sweeping] at member
      exact .inl member
    · exact .inl jobs

theorem journalKept_event {event : IngressEvent} (sound : IngressSound threads)
    (taken : ingressStep platform thresholds threads (.outside event) = some next) :
    JournalKept platform thresholds threads (.outside event) next := by
  have after := ingressSound_step threads (.outside event) next sound taken
  obtain ⟨shared, happened, rfl⟩ := interleave_outside.mp taken
  cases event with
  | tick workspaceId now =>
    simp only [ingressEvent] at happened
    split at happened
    · cases happened
      constructor
      · intro row marked found unmarked stored complete
        obtain ⟨before, was, same⟩ := find?_before_tick stored
        cases found.symm.trans was
        obtain ⟨_, _, _, completedAt, _⟩ := @tickedRow_payload thresholds now workspaceId
          (threads.shared.eligibleIds thresholds now workspaceId) row
        rw [same, completedAt] at complete
        exact absurd unmarked complete
      · intro row found unmarked
        refine ⟨_, (find?_runWorkspaceTick found).trans (if_neg ?_), ?_⟩
        · rw [unmarked]
          simp
        · obtain ⟨_, _, _, _, payload⟩ := @tickedRow_payload thresholds now workspaceId
            (threads.shared.eligibleIds thresholds now workspaceId) row
          rcases payload with same | ⟨expired, _⟩
          · exact .inl same
          · exact .inr ⟨workspaceId, now, rfl, expired⟩
      · exact after.shared.rows
      · intro job member
        obtain ⟨row, found, owner, unmarked, unpurged, attempts, rfl⟩ := mem_enqueueCandidates member
        obtain ⟨batch, _, _, _, holds⟩ := sound.shared.rows row (Table.mem_of_find? found)
        rcases holds with ⟨present, _⟩ | ⟨_, purged⟩
        · refine .inr ⟨row, workspaceId, now, rfl, found, rfl, owner.symm, unmarked, unpurged, ?_, attempts⟩
          show row.rawBatch = some (row.rawBatch.getD [])
          rw [present]
          rfl
        · exact absurd unpurged purged
      · exact .inl rfl
    · cases happened
  | enqueueCandidate =>
    simp only [ingressEvent] at happened
    split at happened
    · cases happened
    · next job rest waiting =>
      cases happened
      refine journalKept_same after (fun _ found => found) ?_ (.inr ⟨job, rfl, .inr ⟨rfl, ?_⟩⟩)
      · intro other member
        rw [waiting]
        exact List.mem_cons_of_mem _ member
      · rw [waiting]
        rfl
  | crash =>
    cases happened
    exact journalKept_same after (fun _ found => found) (fun job member => absurd member List.not_mem_nil) (.inl rfl)
  | elsewhere db =>
    cases happened
    exact journalKept_same after (fun _ found => found) (fun _ member => member) (.inl rfl)

theorem journalKept_step (sound : IngressSound threads)
    (taken : ingressStep platform thresholds threads turn = some next) :
    JournalKept platform thresholds threads turn next := by
  cases turn with
  | thread id choice => exact journalKept_turn sound taken
  | outside event => exact journalKept_event sound taken

end Steps

section Attempts

variable {platform : Platform} {thresholds : WorkspaceTickThresholds} {store shared : IngressStore}
  {threads next : IngressThreads} {turn : Turn IngressTurn IngressEvent} {now : Timestamp} {workspaceId : WorkspaceId}
  {journalId : JournalId} {row : IngressJournalRow}

def sweepsRow (journalId : JournalId) (threads : IngressThreads) : Turn IngressTurn IngressEvent → Bool
  | .outside .enqueueCandidate => threads.shared.sweeping.head?.any (·.journalId == some journalId)
  | _ => false

def sweptJobs (platform : Platform) (thresholds : WorkspaceTickThresholds) (journalId : JournalId) :
    IngressThreads → List (Turn IngressTurn IngressEvent) → Nat :=
  totalAlong (ingressStep platform thresholds) fun threads turn _ => if sweepsRow journalId threads turn then 1 else 0

def attemptsLeft (thresholds : WorkspaceTickThresholds) (journalId : JournalId) (store : IngressStore) : Nat :=
  match store.journal.find? journalId with
  | some row => thresholds.maxAttempts - row.replayCount
  | none => if journalId < store.verified.length then 0 else thresholds.maxAttempts

def pendingJobs (journalId : JournalId) (store : IngressStore) : Nat :=
  store.sweeping.countP (·.journalId == some journalId)

theorem unswept_thread {id : Nat} {choice : IngressTurn} :
    sweepsRow journalId threads (.thread id choice) = false := rfl

theorem attemptsLeft_some (found : store.journal.find? journalId = some row) :
    attemptsLeft thresholds journalId store = thresholds.maxAttempts - row.replayCount := by
  rw [attemptsLeft, found]

theorem attemptsLeft_none (missing : store.journal.find? journalId = none) :
    attemptsLeft thresholds journalId store =
      if journalId < store.verified.length then 0 else thresholds.maxAttempts := by
  rw [attemptsLeft, missing]

theorem candidates_of_row :
    (store.enqueueCandidates workspaceId (store.eligibleIds thresholds now workspaceId)).countP
        (·.journalId == some journalId) ≤
      if journalId ∈ store.eligibleIds thresholds now workspaceId then 1 else 0 := by
  have same : (store.enqueueCandidates workspaceId (store.eligibleIds thresholds now workspaceId)).countP
      (·.journalId == some journalId) = ((store.journal.rows.filter fun row => row.workspaceId == workspaceId &&
        (store.eligibleIds thresholds now workspaceId).contains row.id).map (·.id)).count journalId := by
    rw [IngressStore.enqueueCandidates, List.countP_map, List.count, List.countP_map]
    apply List.countP_congr
    simp [buildWebhookEventsJobPayload]
  rw [same]
  split
  · apply List.nodup_iff_count_le_one.mp
    exact store.journal.unique.sublist (List.Sublist.map _ List.filter_sublist)
  · next off =>
    rw [Nat.le_zero, List.count_eq_zero]
    intro member
    obtain ⟨row, selected, rfl⟩ := List.mem_map.mp member
    have chosen := (List.mem_filter.mp selected).2
    rw [Bool.and_eq_true, List.contains_iff_mem] at chosen
    exact off chosen.2

theorem replayCount_tickedRow (ids : List JournalId) :
    (tickedRow thresholds now workspaceId ids row).replayCount =
      if row.workspaceId = workspaceId ∧ row.id ∈ ids then row.replayCount + 1 else row.replayCount := by
  have counted : (replayedRow workspaceId ids row).replayCount =
      if row.workspaceId = workspaceId ∧ row.id ∈ ids then row.replayCount + 1 else row.replayCount := by
    simp only [replayedRow, Bool.and_eq_true, beq_iff_eq, List.contains_iff_mem]
    split <;> rfl
  unfold tickedRow
  split <;> exact counted

theorem attempts_tick (sound : JournalSound store) (idle : store.sweeping = []) :
    attemptsLeft thresholds journalId (store.runWorkspaceTick thresholds now workspaceId) +
        pendingJobs journalId (store.runWorkspaceTick thresholds now workspaceId) ≤
      attemptsLeft thresholds journalId store + pendingJobs journalId store := by
  have pending : pendingJobs journalId (store.runWorkspaceTick thresholds now workspaceId) ≤
      if journalId ∈ store.eligibleIds thresholds now workspaceId then 1 else 0 := candidates_of_row
  have none : pendingJobs journalId store = 0 := by
    rw [pendingJobs, idle]
    rfl
  cases found : store.journal.find? journalId with
  | none =>
    have unlisted : journalId ∉ store.eligibleIds thresholds now workspaceId := by
      intro member
      obtain ⟨row, stored, _⟩ := eligible_of_mem member
      cases found.symm.trans stored
    have missing : (store.runWorkspaceTick thresholds now workspaceId).journal.find? journalId = .none := by
      cases after : (store.runWorkspaceTick thresholds now workspaceId).journal.find? journalId with
      | none => rfl
      | some row =>
        obtain ⟨before, was, _⟩ := find?_before_tick after
        cases found.symm.trans was
    rw [if_neg unlisted] at pending
    rw [attemptsLeft_none found, attemptsLeft_none missing, none, Nat.le_zero.mp pending]
    exact le_rfl
  | some row =>
    have keyed : row.id = journalId := Table.key_of_find? found
    have after := @find?_runWorkspaceTick thresholds now workspaceId store row journalId found
    rw [attemptsLeft_some found, none]
    by_cases listed : journalId ∈ store.eligibleIds thresholds now workspaceId
    · obtain ⟨other, stored, _, owner, unmarked, _, attempts⟩ := eligible_of_mem listed
      cases found.symm.trans stored
      have counted := @replayCount_tickedRow thresholds now workspaceId row
        (store.eligibleIds thresholds now workspaceId)
      rw [if_pos ⟨owner, keyed ▸ listed⟩] at counted
      rw [unmarked, Option.isSome_none, Bool.and_false, if_neg Bool.false_ne_true] at after
      rw [if_pos listed] at pending
      rw [attemptsLeft_some after, counted]
      omega
    · rw [if_neg listed] at pending
      split at after
      · -- a deleted row has been verified, so it does not come again
        obtain ⟨batch, verified, _⟩ := sound.rows row (Table.mem_of_find? found)
        rw [keyed] at verified
        have within : journalId < (store.runWorkspaceTick thresholds now workspaceId).verified.length :=
          (List.getElem?_eq_some_iff.mp verified).1
        rw [attemptsLeft_none after, if_pos within]
        omega
      · have counted := @replayCount_tickedRow thresholds now workspaceId row
          (store.eligibleIds thresholds now workspaceId)
        rw [if_neg fun both => listed (keyed ▸ both.2)] at counted
        rw [attemptsLeft_some after, counted]
        omega

theorem attempts_marked {completed : Option JournalId} :
    attemptsLeft thresholds journalId (store.markJournalCompleteIfPresent now workspaceId completed) =
      attemptsLeft thresholds journalId store := by
  cases found : store.journal.find? journalId with
  | none =>
    have missing : (store.markJournalCompleteIfPresent now workspaceId completed).journal.find? journalId = none := by
      cases completed with
      | none => exact found
      | some other =>
        rw [IngressStore.markJournalCompleteIfPresent, find?_markIngestionComplete, found, Option.map_none]
    rw [attemptsLeft_none found, attemptsLeft_none missing]
    cases completed <;> rfl
  | some row =>
    have keyed : row.id = journalId := Table.key_of_find? found
    subst keyed
    obtain ⟨completedAt, written, _⟩ := @find?_marked store now workspaceId row completed found
    rw [attemptsLeft_some found, attemptsLeft_some written]

theorem attempts_written {events : List JsonValue} :
    attemptsLeft thresholds journalId (store.writeIngressJournal now workspaceId events) =
      attemptsLeft thresholds journalId store := by
  have inserted : (store.writeIngressJournal now workspaceId events).journal.find? journalId = _ :=
    Table.find?_insert
  have longer : (store.writeIngressJournal now workspaceId events).verified.length = store.verified.length + 1 :=
    List.length_append
  cases found : store.journal.find? journalId with
  | some row =>
    rw [found, Option.some_or] at inserted
    rw [attemptsLeft_some found, attemptsLeft_some inserted]
  | none =>
    rw [found, Option.none_or] at inserted
    by_cases fresh : store.verified.length = journalId
    · rw [if_pos fresh] at inserted
      have yet : ¬ journalId < store.verified.length := fresh ▸ Nat.lt_irrefl _
      rw [attemptsLeft_none found, attemptsLeft_some inserted, if_neg yet]
      rfl
    · rw [if_neg fresh] at inserted
      rw [attemptsLeft_none found, attemptsLeft_none inserted, longer]
      by_cases earlier : journalId < store.verified.length
      · rw [if_pos earlier, if_pos (Nat.lt_succ_of_lt earlier)]
      · have still : ¬ journalId < store.verified.length + 1 := by
          intro later
          rcases Nat.lt_succ_iff_lt_or_eq.mp later with before | same
          · exact earlier before
          · exact fresh same.symm
        rw [if_neg earlier, if_neg still]

theorem attempts_paid (sound : IngressSound threads)
    (taken : ingressStep platform thresholds threads turn = some next) :
    (if sweepsRow journalId threads turn then 1 else 0) +
        (attemptsLeft thresholds journalId next.shared + pendingJobs journalId next.shared) ≤
      attemptsLeft thresholds journalId threads.shared + pendingJobs journalId threads.shared := by
  cases turn with
  | thread id choice =>
    obtain ⟨shared, worker, turned, rfl⟩ := interleave_thread.mp taken
    rw [unswept_thread, if_neg Bool.false_ne_true, Nat.zero_add]
    rcases ingressTurn_cases turned with rfl | ⟨workspaceId, events, now, rfl, rfl⟩ | ⟨job, _, rfl, rfl⟩ |
      ⟨job, scannedAt, owners, now, _, rfl, rfl⟩
    · exact le_rfl
    · dsimp only
      rw [attempts_written]
      exact le_rfl
    · exact le_rfl
    · obtain ⟨journal, _, sweeping⟩ := @logs_finishBatch platform threads.shared now job scannedAt owners
      have verified := (@soundJournal_finishBatch platform threads.shared now job scannedAt owners sound.shared).2
      have marked := @attempts_marked thresholds threads.shared now job.workspaceId journalId job.journalId
      have unmoved := (@soundJournal_marked threads.shared now job.workspaceId job.journalId sound.shared).2
      rw [attemptsLeft, unmoved, ← journal, ← verified, ← attemptsLeft] at marked
      rw [marked, pendingJobs, sweeping]
      exact le_rfl
  | outside event =>
    obtain ⟨shared, happened, rfl⟩ := interleave_outside.mp taken
    cases event with
    | tick workspaceId now =>
      simp only [ingressEvent] at happened
      split at happened
      · next idle =>
        cases happened
        show 0 + _ ≤ _
        rw [Nat.zero_add]
        exact attempts_tick sound.shared idle
      · cases happened
    | enqueueCandidate =>
      simp only [ingressEvent] at happened
      split at happened
      · cases happened
      · next job rest waiting =>
        cases happened
        simp only [sweepsRow, pendingJobs, waiting, List.head?_cons, Option.any_some, List.countP_cons]
        have same : attemptsLeft thresholds journalId
            { threads.shared with jobs := threads.shared.jobs ++ [job], sweeping := rest } =
          attemptsLeft thresholds journalId threads.shared := rfl
        rw [same]
        omega
    | crash =>
      cases happened
      show 0 + _ ≤ _
      rw [Nat.zero_add]
      exact Nat.add_le_add_left (Nat.zero_le _) _
    | elsewhere db =>
      cases happened
      show 0 + _ ≤ _
      rw [Nat.zero_add]
      exact le_rfl

end Attempts

/-- The journal is kept at every step, and the sweep creates no more jobs for a row than its attempts. -/
theorem journal_safe (platform : Platform) (thresholds : WorkspaceTickThresholds) {start : IngressThreads}
    (fresh : FreshJournal start) (turns : List (Turn IngressTurn IngressEvent)) :
    Along (ingressStep platform thresholds) (JournalKept platform thresholds) start turns ∧
      ∀ journalId, sweptJobs platform thresholds journalId start turns ≤ thresholds.maxAttempts := by
  have begins := ingressSound_fresh fresh
  constructor
  · apply along_of_invariant ingressSound_step _ begins
    intro threads turn next sound taken
    exact journalKept_step sound taken
  · intro journalId
    have bound := @totalAlong_le _ _ (ingressStep platform thresholds) (fun _ _ _ => True) IngressSound
      (fun threads turn _ => if sweepsRow journalId threads turn then 1 else 0)
      (fun threads => attemptsLeft thresholds journalId threads.shared + pendingJobs journalId threads.shared)
      (fun threads turn next sound _ taken => ingressSound_step threads turn next sound taken)
      (fun threads turn next sound _ taken => attempts_paid sound taken) start turns begins
      (along_of_labels (fun _ _ _ _ => trivial) start)
    have all : attemptsLeft thresholds journalId start.shared + pendingJobs journalId start.shared =
        thresholds.maxAttempts := by
      rw [attemptsLeft, pendingJobs, fresh.journal, fresh.sweeping, fresh.verified]
      rfl
    rw [all] at bound
    exact bound

section Traces

def activeIngress : IngressThreads where
  shared := { db := { organizations := Table.empty.insert { id := 1, slug := "acme" } } }
  own _ := .idle

def skippedEvent : JsonValue := .object [("event", .string "processed")]

def lostBatch (sweptAt : Timestamp) : List (Turn IngressTurn IngressEvent) :=
  [.thread 0 (.request 1 [skippedEvent]), .thread 0 (.writeJournal 0), .thread 0 .fail, .outside (.tick 1 sweptAt),
    .outside .enqueueCandidate]

theorem freshJournal_active : FreshJournal activeIngress where
  journal := rfl
  verified := rfl
  sweeping := rfl
  jobs _ member := absurd member List.not_mem_nil
  idle _ := rfl

theorem lost_batch_replayed :
    (run (ingressStep pairedPlatform runThresholds) activeIngress (lostBatch 3600000)).any (fun final =>
      final.shared.jobs == [{ workspaceId := 1, events := [skippedEvent], journalId := some 0 }]) = true ∧
    Along (ingressStep pairedPlatform runThresholds) (JournalKept pairedPlatform runThresholds) activeIngress
      (lostBatch 3600000) ∧
    sweptJobs pairedPlatform runThresholds 0 activeIngress (lostBatch 3600000) ≤ webhookReplayMaxAttempts := by
  obtain ⟨kept, bounded⟩ := journal_safe pairedPlatform runThresholds freshJournal_active (lostBatch 3600000)
  exact ⟨by decide +kernel, kept, bounded 0⟩

def TombstonesRest (threads : IngressThreads) (turn : Turn IngressTurn IngressEvent) (_ : IngressThreads) : Prop :=
  turn = .outside .enqueueCandidate → ∀ job row, threads.shared.sweeping.head? = some job →
    job.journalId = some row.id → threads.shared.journal.find? row.id = some row → row.payloadPurgedAt = none

/-- Eight days later the sweep that takes the batch up empties its row, and enqueues the batch after that. -/
theorem tombstone_enqueued : FreshJournal activeIngress ∧
    ¬ Along (ingressStep pairedPlatform runThresholds) TombstonesRest activeIngress
      (lostBatch (8 * millisecondsPerDay)) := by
  refine ⟨freshJournal_active, ?_⟩
  intro along
  have runs : (run (ingressStep pairedPlatform runThresholds) activeIngress
      ((lostBatch (8 * millisecondsPerDay)).take 4)).any (fun threads =>
        (ingressStep pairedPlatform runThresholds threads (.outside .enqueueCandidate)).isSome &&
          threads.shared.sweeping.head?.any fun job => job.journalId.any fun journalId =>
            (threads.shared.journal.find? journalId).any fun row => row.payloadPurgedAt.isSome) = true := by
    decide +kernel
  obtain ⟨threads, ran, found⟩ := Option.any_eq_true _ _ |>.mp runs
  rw [Bool.and_eq_true, Option.isSome_iff_exists] at found
  obtain ⟨⟨next, taken⟩, found⟩ := found
  obtain ⟨job, first, found⟩ := Option.any_eq_true _ _ |>.mp found
  obtain ⟨journalId, named, found⟩ := Option.any_eq_true _ _ |>.mp found
  obtain ⟨row, stored, purged⟩ := Option.any_eq_true _ _ |>.mp found
  have keyed : row.id = journalId := Table.key_of_find? stored
  subst keyed
  have rests := along_last along ran taken rfl job row first named stored
  rw [rests] at purged
  cases purged

end Traces

end LocalCrm.Webhooks
