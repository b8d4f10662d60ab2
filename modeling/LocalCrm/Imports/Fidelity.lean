import LocalCrm.Imports.Sequence

/-! Whether the counts of a dry-run are those of the apply job that follows it. -/

set_option autoImplicit false

namespace LocalCrm.Imports

open Library Contacts Delivery

section Walks

variable {site : Site} {contacts : Table Contact.id} {request : DryRunRequest} {config : CsvImport}

end Walks

section Previews

variable (site : Site) (contacts : Table Contact.id) (request : DryRunRequest)

def dryReading (row : StagedRow) : Except String UpsertContactIdentityInput :=
  applyCsvRowMapping site.boundary row.raw request.mapping request.defaultTimezone

def jobReading (row : StagedRow) : Except String UpsertContactIdentityInput :=
  applyCsvRowMapping site.boundary row.raw (site.storage.restored request.mapping) request.defaultTimezone

def passes (row : StagedRow) : Bool := (dryReading site request row).isOk

def preview (row : StagedRow) : RowStatus :=
  (dryReading site request row).toOption.elim .error
    (expected site.workspaceId contacts request.duplicatePolicy)

def classified (row : StagedRow) : StagedRow :=
  match dryReading site request row with
  | .error error => { row with status := .error, reason := some error }
  | .ok _ => { row with status := .pending, reason := none }

variable {site contacts request} {row : StagedRow} {state : DryRun}

end Previews

section DryRuns

variable {site : Site} {contacts : Table Contact.id} {request : DryRunRequest} {rows : StagedRows}

end DryRuns

section Applies

variable {site : Site} {config : CsvImport} {newId : Nat → ContactId} {store : ImportStore} {row : StagedRow}
  {job : JobRow}

end Applies

section Fidelity

variable (site : Site) (store : ImportStore) (request : DryRunRequest)

/-- The rows that the dry-run lets through, in the order in which the job takes them. -/
def passing : List StagedRow :=
  Keyset.rowsAfter StagedRow.rowNumber (store.rows.rows.filter (passes site request)) (some 0)

def jobRow (row : StagedRow) : JobRow where
  rowNumber := row.rowNumber
  previewed := (dryReading site request row).toOption.getD {}
  reading := jobReading site request row

variable (newIds : NewIds store.db.contacts)

/-- No row is disturbed in its turn by what the rows before it have written. -/
def Undisturbed : Prop :=
  UndisturbedFrom site newIds.idOf request.duplicatePolicy store.db.contacts
    (.ofContacts site.workspaceId store.db.contacts) store.db ((passing site store request).map (jobRow site request))

def applyAfterDryRun : Except (Nat × String) ImportStore :=
  (applyRequest (dryRun site request store).2).map fun queued => (processImportsCsvJob site newIds.idOf queued).2

/-- Each row ends as the dry-run has counted it. -/
def RolesKept : Prop :=
  ∃ final, applyAfterDryRun site store request newIds = .ok final ∧
    ∀ row ∈ store.rows.rows, (final.rows.find? row.rowNumber).map StagedRow.status =
      some (preview site store.db.contacts request row)

def Faithful : Prop :=
  ∃ skipped final, applyAfterDryRun site store request newIds = .ok final ∧
    final.csvImport.summary = some (.applied
      { created := (dryRun site request store).1.willCreate
        updated := (dryRun site request store).1.willUpdate
        skipped
        errorCount := (dryRun site request store).1.errorCount })

end Fidelity

section Exactness

variable {site : Site} {store : ImportStore} {request : DryRunRequest} {newIds : NewIds store.db.contacts}

/-- What the job is queued with, and reads its mapping from. -/
def queuedStore (site : Site) (store : ImportStore) (request : DryRunRequest) : ImportStore :=
  { (dryRun site request store).2 with
    csvImport := markCsvImportApplying (dryRun site request store).2.csvImport }

/-- The job's walk, from the store as the job has marked it. -/
def appliedStore (site : Site) (store : ImportStore) (request : DryRunRequest) (newIds : NewIds store.db.contacts) :
    ImportStore :=
  (applyLoop site (queuedStore site store request).csvImport newIds.idOf).walk pageSize (some 0)
    { queuedStore site store request with
      csvImport := markCsvImportApplying (queuedStore site store request).csvImport }

/-- How the job leaves a row, looked up by its number. -/
def ends (site : Site) (store : ImportStore) (request : DryRunRequest) (newIds : NewIds store.db.contacts)
    (rowNumber : Nat) : Option RowStatus :=
  ((appliedStore site store request newIds).rows.find? rowNumber).map StagedRow.status

theorem applyAfterDryRun_eq :
    applyAfterDryRun site store request newIds = .ok (recount (appliedStore site store request newIds)) := rfl

theorem RolesKept.ends (kept : RolesKept site store request newIds) {row : StagedRow} (stored : row ∈ store.rows.rows) :
    ends site store request newIds row.rowNumber = some (preview site store.db.contacts request row) := by
  obtain ⟨final, applied, kept⟩ := kept
  cases applyAfterDryRun_eq.symm.trans applied
  exact kept row stored

end Exactness

section Repetition

end Repetition

end LocalCrm.Imports
