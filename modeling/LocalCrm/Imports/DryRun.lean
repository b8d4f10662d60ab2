import LocalCrm.Imports.Staging
import LocalCrm.Library.PagedLoop
import LocalCrm.Library.RowView

/-! The dry-run and the apply job of one import, each run from its start to its end. -/

set_option autoImplicit false

namespace LocalCrm.Imports

open Library Contacts

def pageSize : Nat := 500

structure DryRunRequest where
  mapping : CsvColumnMapping
  duplicatePolicy : DuplicatePolicy := .update
  defaultTimezone : Option String := none
  deriving DecidableEq, Repr

section DryRun

variable (site : Site) (contacts : Table Contact.id) (request : DryRunRequest)

structure DryRun where
  rows : StagedRows
  summary : CsvDryRunSummary := {}

def classifyRow (state : DryRun) (row : StagedRow) : DryRun :=
  match applyCsvRowMapping site.boundary row.raw request.mapping request.defaultTimezone with
  | .error error =>
    { rows := setStagedRowClassification state.rows row.rowNumber .error (some error)
      summary := { state.summary with errorCount := state.summary.errorCount + 1 } }
  | .ok input =>
    { rows := setStagedRowClassification state.rows row.rowNumber .pending none
      summary :=
        if (findContactIdByIdentity contacts site.workspaceId input.externalId input.email).isSome then
          if request.duplicatePolicy = .update then
            { state.summary with willUpdate := state.summary.willUpdate + 1 }
          else state.summary
        else { state.summary with willCreate := state.summary.willCreate + 1 } }

theorem rows_classifyRow (state : DryRun) (row : StagedRow) :
    ∃ status reason, (classifyRow site contacts request state row).rows =
      setStagedRowClassification state.rows row.rowNumber status reason := by
  unfold classifyRow
  cases applyCsvRowMapping site.boundary row.raw request.mapping request.defaultTimezone with
  | error error => exact ⟨.error, some error, rfl⟩
  | ok input => exact ⟨.pending, none, rfl⟩

def classifyLoop : Keyset.PagedLoop DryRun StagedRow StagedRow.rowNumber where
  rows state := state.rows.rows
  wanted _ := true
  act := classifyRow site contacts request
  keeps state row := by
    obtain ⟨status, reason, written⟩ := rows_classifyRow site contacts request state row
    rw [written]
    exact Table.keys_update

def computeDryRunSummary (rows : StagedRows) : DryRun :=
  (classifyLoop site contacts request).walk pageSize (some 0) { rows }

/-- The dry-run route: it writes no contact, and keeps the mapping and the counts for the apply. -/
def dryRun (store : ImportStore) : CsvDryRunSummary × ImportStore :=
  let result := computeDryRunSummary site store.db.contacts request store.rows
  (result.summary,
    { store with
      rows := result.rows
      csvImport := saveDryRunResult site.storage store.csvImport request.mapping request.duplicatePolicy
        request.defaultTimezone result.summary })

end DryRun

section Apply

variable (site : Site) (config : CsvImport)

def fitsIndexes (storage : Storage) (contacts : Table Contact.id) (contactId : ContactId)
    (input : UpsertContactIdentityInput) : Bool :=
  ((contacts.find? contactId).all fun contact =>
      contact.externalId.all storage.indexable && contact.email.all storage.indexable) &&
    (stripReservedPropertyKeys input.properties).all fun property => storage.indexable property.1

def storeContact (db : Database) (newId : ContactId) (duplicatePolicy : DuplicatePolicy)
    (input : UpsertContactIdentityInput) : Except RowRefusal (RowStatus × Database) :=
  match applyCsvRow site.platform db site.workspaceId newId duplicatePolicy input with
  | .error refusal => .error (.contact refusal)
  | .ok (none, written) => .ok (.skipped, written)
  | .ok (some result, written) =>
    if fitsIndexes site.storage written.contacts result.contactId input then
      .ok (if result.created then .created else .updated, written)
    else .error .oversized

/-- The transaction of one row; its status is looked up again under the lock. -/
def applyStagedRow (newId : ContactId) (store : ImportStore) (row : StagedRow) : Except RowRefusal ImportStore :=
  if (store.rows.find? row.rowNumber).map StagedRow.status ≠ some .pending then .ok store
  else
    match applyCsvRowMapping site.boundary row.raw (config.mapping.getD []) config.defaultTimezone with
    | .error error =>
      .ok { store with rows := setStagedRowClassification store.rows row.rowNumber .error (some error) }
    | .ok input =>
      (storeContact site store.db newId config.duplicatePolicy input).map fun (status, db) =>
        { store with rows := setRowStatus store.rows row.rowNumber status, db }

/-- The transaction after one that was rolled back: the row alone is marked. -/
def markRowError (store : ImportStore) (row : StagedRow) (refusal : RowRefusal) : ImportStore :=
  { store with
    rows := setStagedRowClassification store.rows row.rowNumber .error (some (site.storage.message refusal)) }

def applyRow (newId : ContactId) (store : ImportStore) (row : StagedRow) : ImportStore :=
  match applyStagedRow site config newId store row with
  | .ok next => next
  | .error refusal => markRowError site store row refusal

theorem rows_applyRow (newId : ContactId) (store : ImportStore) (row : StagedRow) :
    (applyRow site config newId store row).rows = store.rows ∨
      (∃ status, (applyRow site config newId store row).rows = setRowStatus store.rows row.rowNumber status) ∨
      ∃ status reason, (applyRow site config newId store row).rows =
        setStagedRowClassification store.rows row.rowNumber status reason := by
  unfold applyRow applyStagedRow
  by_cases pending : (store.rows.find? row.rowNumber).map StagedRow.status = some .pending
  · rw [if_neg (not_not.mpr pending)]
    cases applyCsvRowMapping site.boundary row.raw (config.mapping.getD []) config.defaultTimezone with
    | error error => exact .inr (.inr ⟨.error, some error, rfl⟩)
    | ok input =>
      simp only
      cases stored : storeContact site store.db newId config.duplicatePolicy input with
      | error refusal => exact .inr (.inr ⟨.error, some (site.storage.message refusal), rfl⟩)
      | ok written => exact .inr (.inl ⟨written.1, rfl⟩)
  · rw [if_pos pending]
    exact .inl rfl

def applyLoop (newId : Nat → ContactId) : Keyset.PagedLoop ImportStore StagedRow StagedRow.rowNumber where
  rows store := store.rows.rows
  wanted row := row.status == .pending
  act store row := applyRow site config (newId row.rowNumber) store row
  keeps store row := by
    rcases rows_applyRow site config (newId row.rowNumber) store row with same | ⟨status, set⟩ | ⟨status, reason, set⟩
    · rw [same]
    · rw [set]
      exact Table.keys_update
    · rw [set]
      exact Table.keys_update

def unresolved (csvImport : CsvImport) (stillPending : Nat) : String :=
  s!"imports:csv job for csvImportId={csvImport.id} left {stillPending} row(s) unresolved (still 'pending')"

def processImportsCsvJob (newId : Nat → ContactId) (store : ImportStore) : Except String Unit × ImportStore :=
  let started := { store with csvImport := markCsvImportApplying store.csvImport }
  let counted := recount ((applyLoop site store.csvImport newId).walk pageSize (some 0) started)
  let stillPending := countOf counted.rows .pending
  (if stillPending > 0 then .error (unresolved store.csvImport stillPending) else .ok (), counted)

/-- The apply route only asks for a mapping; its job is queued then. -/
def applyRequest (store : ImportStore) : Except (Nat × String) ImportStore :=
  if store.csvImport.mapping.isNone then .error (422, "Run the dry-run validation before applying (D-17)")
  else .ok { store with csvImport := markCsvImportApplying store.csvImport }

end Apply

end LocalCrm.Imports
