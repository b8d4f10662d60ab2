import LocalCrm.Library.Interleaving
import LocalCrm.Webhooks.EventLog
import Mathlib.Data.List.Sort

/-! The journal of verified webhook batches, the jobs made from it and the sweep over it. -/

set_option autoImplicit false

namespace LocalCrm.Webhooks

open Library Delivery

abbrev JournalId := Nat

structure IngressJournalRow where
  id : JournalId
  workspaceId : WorkspaceId
  rawBatch : Option (List JsonValue)
  receivedAt : Timestamp
  ingestionCompletedAt : Option Timestamp := none
  replayCount : Nat := 0
  payloadPurgedAt : Option Timestamp := none
  deriving DecidableEq, Repr

/-- A payload from before the journal names no row of it. -/
structure WebhookEventsJob where
  workspaceId : WorkspaceId
  events : List JsonValue
  journalId : Option JournalId
  deriving DecidableEq, Repr

structure WorkspaceTickThresholds where
  stuckThresholdMinutes : Nat
  pageLimit : Nat
  maxAttempts : Nat
  retentionDays : Nat
  deriving DecidableEq, Repr

def ingressJournalRetentionDays : Nat := 7

def ingressJournalStuckThresholdMinutes : Nat := 15

def webhookReplaySweepPageLimit : Nat := 200

def webhookReplayMaxAttempts : Nat := 5

def runThresholds : WorkspaceTickThresholds where
  stuckThresholdMinutes := ingressJournalStuckThresholdMinutes
  pageLimit := webhookReplaySweepPageLimit
  maxAttempts := webhookReplayMaxAttempts
  retentionDays := ingressJournalRetentionDays

structure VerifiedBatch where
  workspaceId : WorkspaceId
  events : List JsonValue
  receivedAt : Timestamp
  deriving DecidableEq, Repr

/-- A row's id is its place among the batches verified so far; `sweeping` is what the sweep has still to
enqueue. -/
structure IngressStore where
  db : Database := {}
  journal : Table IngressJournalRow.id := .empty
  jobs : List WebhookEventsJob := []
  sweeping : List WebhookEventsJob := []
  verified : List VerifiedBatch := []

inductive IngressWorker where
  | idle
  | verified (workspaceId : WorkspaceId) (events : List JsonValue)
  | journaled (job : WebhookEventsJob)
  | claimed (job : WebhookEventsJob)
  | scanned (job : WebhookEventsJob) (now : Timestamp) (owners : Sends)

inductive IngressTurn where
  | request (workspaceId : WorkspaceId) (events : List JsonValue)
  | writeJournal (now : Timestamp)
  | enqueue
  | deliver (index : Nat)
  | scan (now : Timestamp)
  | commit (now : Timestamp)
  | fail

/-- Anything may happen to the rest of the database, the retention of the quarantine included. -/
inductive IngressEvent where
  | tick (workspaceId : WorkspaceId) (now : Timestamp)
  | enqueueCandidate
  | crash
  | elsewhere (db : Database)

def buildWebhookEventsJobPayload (workspaceId : WorkspaceId) (events : List JsonValue) (journalId : Option JournalId) :
    WebhookEventsJob :=
  { workspaceId, events, journalId }

namespace IngressStore

variable (store : IngressStore)

def writeIngressJournal (now : Timestamp) (workspaceId : WorkspaceId) (events : List JsonValue) : IngressStore :=
  let row := { id := store.verified.length, workspaceId, rawBatch := some events, receivedAt := now }
  { store with
    journal := store.journal.insert row
    verified := store.verified ++ [{ workspaceId, events, receivedAt := now }] }

def markIngestionComplete (now : Timestamp) (workspaceId : WorkspaceId) (journalId : JournalId) : IngressStore :=
  let journal := store.journal.update (fun row => row.workspaceId == workspaceId && row.id == journalId)
    fun row => { row with ingestionCompletedAt := some now }
  { store with journal }

def markJournalCompleteIfPresent (now : Timestamp) (workspaceId : WorkspaceId) : Option JournalId → IngressStore
  | none => store
  | some journalId => store.markIngestionComplete now workspaceId journalId

section Tick

variable (thresholds : WorkspaceTickThresholds) (now : Timestamp) (workspaceId : WorkspaceId)

def isStuck (row : IngressJournalRow) : Bool :=
  row.workspaceId == workspaceId && row.ingestionCompletedAt.isNone &&
    decide (row.receivedAt < now - thresholds.stuckThresholdMinutes * (60 * 1000))

def findStuckIngressJournalRows : List IngressJournalRow :=
  ((store.journal.rows.filter (isStuck thresholds now workspaceId)).insertionSort
    fun left right => left.receivedAt ≤ right.receivedAt).take thresholds.pageLimit

/-- Neither a tombstone nor out of attempts. -/
def isEligible (row : IngressJournalRow) : Bool :=
  row.payloadPurgedAt.isNone && decide (row.replayCount < thresholds.maxAttempts)

def eligibleIds : List JournalId :=
  ((store.findStuckIngressJournalRows thresholds now workspaceId).filter (isEligible thresholds)).map (·.id)

/-- `UPDATE … SET replay_count = replay_count + 1 WHERE id = ANY($1) RETURNING id, raw_batch`. -/
def replayed (ids : List JournalId) : Table IngressJournalRow.id :=
  store.journal.update (fun row => row.workspaceId == workspaceId && ids.contains row.id)
    fun row => { row with replayCount := row.replayCount + 1 }

def enqueueCandidates (ids : List JournalId) : List WebhookEventsJob :=
  (store.journal.rows.filter fun row => row.workspaceId == workspaceId && ids.contains row.id).map fun row =>
    buildWebhookEventsJobPayload workspaceId (row.rawBatch.getD []) (some row.id)

def isExpired (row : IngressJournalRow) : Bool :=
  row.workspaceId == workspaceId && decide (row.receivedAt < now - thresholds.retentionDays * millisecondsPerDay)

def pruneIngressJournal (journal : Table IngressJournalRow.id) : Table IngressJournalRow.id :=
  journal.delete fun row => isExpired thresholds now workspaceId row && row.ingestionCompletedAt.isSome

def purgeExpiredIngressJournalPayloads (journal : Table IngressJournalRow.id) : Table IngressJournalRow.id :=
  journal.update
    (fun row =>
      isExpired thresholds now workspaceId row && row.ingestionCompletedAt.isNone && row.payloadPurgedAt.isNone)
    fun row => { row with rawBatch := none, payloadPurgedAt := some now }

/-- Replay first and retention after it, in one transaction; the jobs are enqueued when it has committed. -/
def runWorkspaceTick : IngressStore :=
  let ids := store.eligibleIds thresholds now workspaceId
  let retained := pruneIngressJournal thresholds now workspaceId (store.replayed workspaceId ids)
  { store with
    journal := purgeExpiredIngressJournalPayloads thresholds now workspaceId retained
    sweeping := store.enqueueCandidates workspaceId ids }

end Tick

end IngressStore

section Batches

variable (platform : Platform)

def survivingRows (owners : Sends) (now : Timestamp) (job : WebhookEventsJob) : List ExtractedEvent :=
  dropSiblingWorkspaceEvents platform owners job.workspaceId
    (extractedRows (job.events.map fun raw => extractEventRow platform raw now))

def batchQuarantine (now : Timestamp) (job : WebhookEventsJob) : List QuarantineCandidate :=
  quarantineCandidates (job.events.map fun raw => extractEventRow platform raw now)

/-- The tenant transaction of a batch, up to its mark. -/
def commitBatch (now : Timestamp) (db : Database) (workspaceId : WorkspaceId) (rows : List ExtractedEvent)
    (candidates : List QuarantineCandidate) : Database :=
  let (newRows, sendEvents) :=
    insertSendEvents platform workspaceId (rows.map (resolveRow platform db.sends workspaceId)) db.sendEvents
  let stored := { writeQuarantinedEvents db workspaceId candidates with sendEvents }
  newRows.foldl (applyNewRow platform now workspaceId) stored

/-- With nothing to store the row is marked in a transaction of its own. -/
def finishBatch (store : IngressStore) (job : WebhookEventsJob) (scannedAt now : Timestamp) (owners : Sends) :
    IngressStore :=
  let rows := survivingRows platform owners scannedAt job
  let candidates := batchQuarantine platform scannedAt job
  if rows.isEmpty && candidates.isEmpty then store.markJournalCompleteIfPresent now job.workspaceId job.journalId
  else
    let stored := { store with db := commitBatch platform now store.db job.workspaceId rows candidates }
    stored.markJournalCompleteIfPresent now job.workspaceId job.journalId

theorem processWebhookEventBatch_eq (now : Timestamp) (db : Database) (job : WebhookEventsJob)
    (live : isWorkspaceSoftDeleted db.organizations job.workspaceId = false) :
    processWebhookEventBatch platform now db job.workspaceId job.events =
      commitBatch platform now db job.workspaceId (survivingRows platform db.sends now job)
        (batchQuarantine platform now job) := by
  rw [processWebhookEventBatch, live]
  rfl

end Batches

section Machine

variable (platform : Platform) (thresholds : WorkspaceTickThresholds)

def ingressTurn (_ : Nat) (store : IngressStore) : IngressWorker → IngressTurn → Option (IngressStore × IngressWorker)
  | .idle, .request workspaceId events =>
    some (store, if isWorkspaceSoftDeleted store.db.organizations workspaceId then .idle
      else .verified workspaceId events)
  | .verified workspaceId events, .writeJournal now =>
    let job := buildWebhookEventsJobPayload workspaceId events (some store.verified.length)
    some (store.writeIngressJournal now workspaceId events, .journaled job)
  | .journaled job, .enqueue => some ({ store with jobs := store.jobs ++ [job] }, .idle)
  | .idle, .deliver index => (store.jobs[index]?).map fun job => (store, .claimed job)
  | .claimed job, .scan now =>
    some (store, if isWorkspaceSoftDeleted store.db.organizations job.workspaceId then .idle
      else .scanned job now store.db.sends)
  | .scanned job scannedAt owners, .commit now => some (finishBatch platform store job scannedAt now owners, .idle)
  | _, .fail => some (store, .idle)
  | _, _ => none

/-- The next sweep begins when the jobs of the one before are enqueued or it has died. -/
def ingressEvent (store : IngressStore) : IngressEvent → Option IngressStore
  | .tick workspaceId now =>
    match store.sweeping with
    | [] => some (store.runWorkspaceTick thresholds now workspaceId)
    | _ :: _ => none
  | .enqueueCandidate =>
    match store.sweeping with
    | [] => none
    | job :: rest => some { store with jobs := store.jobs ++ [job], sweeping := rest }
  | .crash => some { store with sweeping := [] }
  | .elsewhere db => some { store with db }

abbrev IngressThreads := Threads IngressStore IngressWorker

def ingressStep : IngressThreads → Turn IngressTurn IngressEvent → Option IngressThreads :=
  interleave (ingressTurn platform) (ingressEvent thresholds)

end Machine

end LocalCrm.Webhooks
