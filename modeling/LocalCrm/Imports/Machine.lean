import LocalCrm.Imports.DryRun
import LocalCrm.Library.Interleaving

/-! One import among dry-run requests, apply requests and apply jobs.

Every step is one transaction, or an event between two of them.
-/

set_option autoImplicit false

namespace LocalCrm.Imports

open Library Contacts

def RowStatus.settled : RowStatus → Bool
  | .created | .updated | .skipped => true
  | .pending | .error => false

def settledIn (rows : StagedRows) (rowNumber : Nat) : Bool :=
  (rows.find? rowNumber).any fun row => row.status.settled

def pendingIn (rows : StagedRows) (rowNumber : Nat) : Bool :=
  (rows.find? rowNumber).any fun row => row.status == .pending

/-- The import, whether a job of it is on the queue, and how often each row has been applied. -/
structure SharedImport where
  store : ImportStore
  enqueued : Bool := false
  applied : Nat → Nat := fun _ => 0

inductive Party where
  | idle
  | dryRunning (request : DryRunRequest) (summary : CsvDryRunSummary) (cursor : Nat)
  | classifying (request : DryRunRequest) (summary : CsvDryRunSummary) (row : StagedRow) (rest : List StagedRow)
  | looking (request : DryRunRequest) (summary : CsvDryRunSummary) (input : UpsertContactIdentityInput)
      (row : StagedRow) (rest : List StagedRow)
  | saving (request : DryRunRequest) (summary : CsvDryRunSummary)
  | accepting
  | enqueueing
  | starting (config : CsvImport)
  | reading (config : CsvImport) (cursor : Nat)
  | storing (config : CsvImport) (row : StagedRow) (rest : List StagedRow)
  | marking (config : CsvImport) (message : String) (row : StagedRow) (rest : List StagedRow)
  | recounting

inductive Fate where
  | committed
  | rolledBack (message : String)
  | unacknowledged (message : String)
  deriving DecidableEq, Repr

inductive Choice where
  | dryRun (request : DryRunRequest)
  | apply
  | deliver
  | page
  | classify
  | lookup
  | save
  | markApplying
  | enqueue
  | store (newId : ContactId) (fate : Fate)
  | markError (reached : Bool)
  | recount
  | crash

section Steps

variable (site : Site)

def pageAfter (rows : List StagedRow) (cursor : Nat) : List StagedRow :=
  Keyset.rowPage StagedRow.rowNumber rows pageSize (some cursor)

def dryRunOn (request : DryRunRequest) (summary : CsvDryRunSummary) (cursor : Nat) : List StagedRow → Party
  | [] => .dryRunning request summary cursor
  | row :: rest => .classifying request summary row rest

def dryRunPage (request : DryRunRequest) (summary : CsvDryRunSummary) : List StagedRow → Party
  | [] => .saving request summary
  | row :: rest => .classifying request summary row rest

def jobOn (config : CsvImport) (cursor : Nat) : List StagedRow → Party
  | [] => .reading config cursor
  | row :: rest => .storing config row rest

def jobPage (config : CsvImport) : List StagedRow → Party
  | [] => .recounting
  | row :: rest => .storing config row rest

def classifyTurn (shared : SharedImport) (request : DryRunRequest) (summary : CsvDryRunSummary) (row : StagedRow)
    (rest : List StagedRow) : SharedImport × Party :=
  match applyCsvRowMapping site.boundary row.raw request.mapping request.defaultTimezone with
  | .error error =>
    ({ shared with store := { shared.store with
        rows := setStagedRowClassification shared.store.rows row.rowNumber .error (some error) } },
      dryRunOn request { summary with errorCount := summary.errorCount + 1 } row.rowNumber rest)
  | .ok input =>
    ({ shared with store := { shared.store with
        rows := setStagedRowClassification shared.store.rows row.rowNumber .pending none } },
      .looking request summary input row rest)

def lookupTurn (contacts : Table Contact.id) (request : DryRunRequest) (summary : CsvDryRunSummary)
    (input : UpsertContactIdentityInput) : CsvDryRunSummary :=
  if (findContactIdByIdentity contacts site.workspaceId input.externalId input.email).isSome then
    if request.duplicatePolicy = .update then { summary with willUpdate := summary.willUpdate + 1 } else summary
  else { summary with willCreate := summary.willCreate + 1 }

def countApplied (applied : Nat → Nat) (before after : StagedRows) (rowNumber : Nat) : Nat :=
  applied rowNumber + (pendingIn before rowNumber && settledIn after rowNumber).toNat

def storeTurn (shared : SharedImport) (config : CsvImport) (newId : ContactId) (fate : Fate) (row : StagedRow)
    (rest : List StagedRow) : SharedImport × Party :=
  match applyStagedRow site config newId shared.store row with
  | .error refusal => (shared, .marking config (site.storage.message refusal) row rest)
  | .ok next =>
    let written : SharedImport :=
      { shared with store := next, applied := countApplied shared.applied shared.store.rows next.rows }
    match fate with
    | .committed => (written, jobOn config row.rowNumber rest)
    | .rolledBack message => (shared, .marking config message row rest)
    | .unacknowledged message => (written, .marking config message row rest)

def partyTurn (_ : Nat) (shared : SharedImport) : Party → Choice → Option (SharedImport × Party)
  | .idle, .dryRun request => some (shared, .dryRunning request {} 0)
  | .dryRunning request summary cursor, .page =>
    some (shared, dryRunPage request summary (pageAfter shared.store.rows.rows cursor))
  | .classifying request summary row rest, .classify => some (classifyTurn site shared request summary row rest)
  | .looking request summary input row rest, .lookup =>
    some (shared, dryRunOn request (lookupTurn site shared.store.db.contacts request summary input) row.rowNumber rest)
  | .saving request summary, .save =>
    some ({ shared with store := { shared.store with
      csvImport := saveDryRunResult site.storage shared.store.csvImport request.mapping request.duplicatePolicy
        request.defaultTimezone summary } }, .idle)
  | .idle, .apply => some (shared, if shared.store.csvImport.mapping.isNone then .idle else .accepting)
  | .accepting, .markApplying =>
    some ({ shared with store := { shared.store with csvImport := markCsvImportApplying shared.store.csvImport } },
      .enqueueing)
  | .enqueueing, .enqueue => some ({ shared with enqueued := true }, .idle)
  | .idle, .deliver => if shared.enqueued then some (shared, .starting shared.store.csvImport) else none
  | .starting config, .markApplying =>
    some ({ shared with store := { shared.store with csvImport := markCsvImportApplying shared.store.csvImport } },
      .reading config 0)
  | .reading config cursor, .page =>
    some (shared, jobPage config
      (pageAfter (shared.store.rows.rows.filter fun row => row.status == .pending) cursor))
  | .storing config row rest, .store newId fate => some (storeTurn site shared config newId fate row rest)
  | .marking config message row rest, .markError reached =>
    some (if reached then { shared with store := { shared.store with
        rows := setStagedRowClassification shared.store.rows row.rowNumber .error (some message) } } else shared,
      jobOn config row.rowNumber rest)
  | .recounting, .recount => some ({ shared with store := recount shared.store }, .idle)
  | _, .crash => some (shared, .idle)
  | _, _ => none

def othersTurn (shared : SharedImport) (db : Database) : Option SharedImport :=
  some { shared with store := { shared.store with db } }

abbrev ImportThreads := Threads SharedImport Party

abbrev ImportTurn := Turn Choice Database

def importStep : ImportThreads → ImportTurn → Option ImportThreads := interleave (partyTurn site) othersTurn

end Steps

structure Uploaded (threads : ImportThreads) : Prop where
  status : threads.shared.store.csvImport.status = .uploaded ∨ threads.shared.store.csvImport.status = .failed
  mapping : threads.shared.store.csvImport.mapping = none
  pending : ∀ row ∈ threads.shared.store.rows.rows, row.status = .pending
  enqueued : threads.shared.enqueued = false
  applied : ∀ rowNumber, threads.shared.applied rowNumber = 0
  idle : ∀ id, threads.own id = .idle

end LocalCrm.Imports
