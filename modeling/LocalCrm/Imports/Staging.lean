import LocalCrm.Imports.Mapping

/-! An import with its staged rows, and the statements that its two programs run on them. -/

set_option autoImplicit false

namespace LocalCrm.Imports

open Library Contacts

inductive RowStatus where
  | pending
  | created
  | updated
  | skipped
  | error
  deriving DecidableEq, Repr

structure StagedRow where
  rowNumber : Nat
  raw : CsvRecord
  status : RowStatus := .pending
  reason : Option String := none
  numbered : 0 < rowNumber := by decide
  deriving DecidableEq

abbrev StagedRows := Table StagedRow.rowNumber

inductive ImportStatus where
  | uploaded
  | validating
  | ready
  | applying
  | done
  | failed
  deriving DecidableEq, Repr

structure CsvDryRunSummary where
  willCreate : Nat := 0
  willUpdate : Nat := 0
  errorCount : Nat := 0
  deriving DecidableEq, Repr

structure CsvApplySummary where
  created : Nat
  updated : Nat
  skipped : Nat
  errorCount : Nat
  deriving DecidableEq, Repr

inductive ImportSummary where
  | dryRun (summary : CsvDryRunSummary)
  | applied (summary : CsvApplySummary)
  deriving DecidableEq, Repr

structure CsvImport where
  id : String
  status : ImportStatus := .uploaded
  duplicatePolicy : DuplicatePolicy := .update
  mapping : Option CsvColumnMapping := none
  defaultTimezone : Option String := none
  totalRows : Nat := 0
  processedRows : Nat := 0
  summary : Option ImportSummary := none
  deriving DecidableEq, Repr

structure ImportStore where
  csvImport : CsvImport
  rows : StagedRows
  db : Database

inductive RowRefusal where
  | contact (refusal : ContactError)
  | oversized
  deriving DecidableEq, Repr

/-- A `jsonb` column gives an object back with its keys in an order of its own; a value longer than an index
entry is refused. -/
structure Storage where
  restored : CsvColumnMapping → CsvColumnMapping
  restored_perm : ∀ mapping, (restored mapping).Perm mapping
  indexable : String → Bool
  message : RowRefusal → String

/-- Everything around an import that no run of it changes. -/
structure Site where
  platform : Platform
  boundary : Boundary
  storage : Storage
  workspaceId : WorkspaceId

def plainSite : Site where
  platform := pairedPlatform
  boundary := asciiBoundary
  storage :=
    { restored := fun mapping => mapping
      restored_perm := fun _ => List.Perm.refl _
      indexable := fun _ => true
      message := fun _ => "refused" }
  workspaceId := 1

section Statements

def setStagedRowClassification (rows : StagedRows) (rowNumber : Nat) (status : RowStatus) (reason : Option String) :
    StagedRows :=
  rows.update (fun row => row.rowNumber == rowNumber) fun row => { row with status, reason }

/-- The update of the apply job keeps the reason. -/
def setRowStatus (rows : StagedRows) (rowNumber : Nat) (status : RowStatus) : StagedRows :=
  rows.update (fun row => row.rowNumber == rowNumber) fun row => { row with status }

def saveDryRunResult (storage : Storage) (csvImport : CsvImport) (mapping : CsvColumnMapping)
    (duplicatePolicy : DuplicatePolicy) (defaultTimezone : Option String) (summary : CsvDryRunSummary) : CsvImport :=
  { csvImport with
    mapping := some (storage.restored mapping)
    duplicatePolicy
    defaultTimezone
    summary := some (.dryRun summary)
    status := .ready }

def markCsvImportApplying (csvImport : CsvImport) : CsvImport := { csvImport with status := .applying }

def countOf (rows : StagedRows) (status : RowStatus) : Nat := rows.count fun row => row.status == status

/-- The last transaction of the apply job: everything is counted anew. -/
def recount (store : ImportStore) : ImportStore :=
  let byStatus := countOf store.rows
  { store with
    csvImport := { store.csvImport with
      processedRows := byStatus .created + byStatus .updated + byStatus .skipped + byStatus .error
      summary := some (.applied
        { created := byStatus .created
          updated := byStatus .updated
          skipped := byStatus .skipped
          errorCount := byStatus .error })
      status := if byStatus .pending > 0 then .applying else .done } }

end Statements

section Counts

variable {rows : StagedRows} {row : StagedRow} {rowNumber : Nat} {status : RowStatus} {reason : Option String}

theorem find?_setStagedRowClassification (wanted : Nat) :
    (setStagedRowClassification rows rowNumber status reason).find? wanted =
      if wanted = rowNumber then (rows.find? wanted).map fun row => { row with status, reason }
      else rows.find? wanted := by
  rw [setStagedRowClassification, Table.find?_update_at]

theorem find?_setRowStatus (wanted : Nat) :
    (setRowStatus rows rowNumber status).find? wanted =
      if wanted = rowNumber then (rows.find? wanted).map fun row => { row with status } else rows.find? wanted := by
  rw [setRowStatus, Table.find?_update_at]

end Counts

end LocalCrm.Imports
