import LocalCrm.Imports.Staging
import LocalCrm.Library.CsvRecords

/-! The downloadable report of the rows an import rejected. -/

set_option autoImplicit false

namespace LocalCrm.Imports

open Library Library.CsvRecords

section Report

def formulaCharacters : List Char := ['=', '+', '-', '@', '\t', '\r']

def apostrophe : Char := Char.ofNat 39

def beginsFormula (cell : Field) : Bool := cell.head?.any formulaCharacters.contains

def neutralized (value : String) : Field :=
  if beginsFormula value.toList then apostrophe :: value.toList else value.toList

def needsQuotes (cell : Field) : Bool := cell.any fun char => char == '"' || char == '\n' || char == ','

def csvEscape (value : String) : List Char :=
  if needsQuotes (neutralized value) then quote (neutralized value) else neutralized value

variable (errorRows : List StagedRow)

def headerColumns : List String := (errorRows.flatMap fun row => row.raw.map Prod.fst).eraseDups

def rowCells (row : StagedRow) : List String :=
  (headerColumns errorRows).map (fun column => (row.raw.lookup column).getD "") ++ [row.reason.getD ""]

def reportCells : List (List String) :=
  (headerColumns errorRows ++ ["reason"]) :: errorRows.map (rowCells errorRows)

def errorReport : List Char := document ((reportCells errorRows).map fun cells => line (cells.map csvEscape))

/-- The report is read back as the header and one record for each row, with the neutralized cells. -/
structure ReadsBack (records : List (List Field)) : Prop where
  parsed : parse (errorReport errorRows) = some records
  cells : records = (reportCells errorRows).map fun cells => cells.map neutralized
  rows : records.length = errorRows.length + 1
  width : ∀ record ∈ records, record.length = (headerColumns errorRows).length + 1
  harmless : ∀ record ∈ records, ∀ cell ∈ record, beginsFormula cell = false

end Report

section Cells

variable {value : String} {cell : Field}

def returnQuoted (value : String) : Bool := !value.toList.contains '\r' || needsQuotes value.toList

theorem beginsFormula_neutralized : beginsFormula (neutralized value) = false := by
  unfold neutralized
  split
  · show formulaCharacters.contains apostrophe = false
    decide
  · next harmless => exact Bool.eq_false_iff.mpr harmless

theorem needsQuotes_neutralized : needsQuotes (neutralized value) = needsQuotes value.toList := by
  unfold neutralized
  split
  · rfl
  · rfl

theorem return_mem_neutralized : '\r' ∈ neutralized value ↔ '\r' ∈ value.toList := by
  unfold neutralized
  split
  · rw [List.mem_cons]
    exact or_iff_right (by decide)
  · rfl

theorem isTextData_of_unquoted (unquoted : needsQuotes cell = false) {char : Char} (member : char ∈ cell)
    (returns : char ≠ '\r') : isTextData char = true := by
  have plain := List.any_eq_false.mp unquoted char member
  simp only [Bool.or_eq_true, beq_iff_eq, not_or] at plain
  obtain ⟨⟨quote, feed⟩, comma⟩ := plain
  simp [isTextData, quote, feed, comma, returns]

theorem writing_csvEscape : Writing csvEscape neutralized fun value => returnQuoted value = true where
  reads value quoted := by
    unfold csvEscape
    split
    · exact readsAs_quote
    · next bare =>
      have unquoted := Bool.eq_false_iff.mpr bare
      rw [returnQuoted, ← needsQuotes_neutralized, unquoted, Bool.or_false, Bool.not_eq_true',
        List.contains_eq_mem, decide_eq_false_iff_not, ← return_mem_neutralized] at quoted
      apply readsAs_bare
      intro char member
      apply isTextData_of_unquoted unquoted member
      rintro rfl
      exact quoted member
  cuts value broken := by
    rw [returnQuoted, Bool.or_eq_true, not_or, Bool.not_eq_true', Bool.not_eq_false, List.contains_eq_mem,
      decide_eq_true_eq, ← return_mem_neutralized, ← needsQuotes_neutralized] at broken
    obtain ⟨returns, bare⟩ := broken
    have unquoted := Bool.eq_false_iff.mpr bare
    obtain ⟨kept, after, split, first⟩ := List.eq_append_cons_of_mem returns
    refine ⟨kept, after, ?_, ?_, ?_⟩
    · rw [csvEscape, unquoted]
      exact split
    · intro char member
      apply isTextData_of_unquoted unquoted
      · rw [split]
        exact List.mem_append_left _ member
      · rintro rfl
        exact first member
    · intro same
      have shorter := congrArg List.length (same.trans split)
      rw [List.length_append, List.length_cons] at shorter
      omega

theorem csvEscape_eq_nil_iff : csvEscape value = [] ↔ value = "" := by
  constructor
  · intro empty
    unfold csvEscape at empty
    split at empty
    · cases empty
    · unfold neutralized at empty
      split at empty
      · cases empty
      · exact String.toList_eq_nil_iff.mp empty
  · rintro rfl
    decide

end Cells

section Whole

variable {errorRows : List StagedRow}

/-- Every cell with a return is quoted for something else, and the last line is not empty. -/
def readable (errorRows : List StagedRow) : Bool :=
  ((reportCells errorRows).all fun cells => cells.all returnQuoted) &&
    !((headerColumns errorRows).isEmpty && errorRows.getLast?.any fun row => row.reason.getD "" == "")

theorem getLast?_reportCells : (reportCells errorRows).getLast? =
    some ((errorRows.getLast?.map (rowCells errorRows)).getD (headerColumns errorRows ++ ["reason"])) := by
  unfold reportCells
  rw [List.getLast?_cons, List.getLast?_map]

theorem line_rowCells_eq_nil_iff {row : StagedRow} : line ((rowCells errorRows row).map csvEscape) = [] ↔
    headerColumns errorRows = [] ∧ row.reason.getD "" = "" := by
  rw [line_eq_nil_iff, rowCells, List.map_append, List.map_singleton]
  constructor
  · rintro (none | single)
    · exact absurd none (by simp)
    · have lengths := congrArg List.length single
      simp only [List.length_append, List.length_map, List.length_singleton] at lengths
      have columns : headerColumns errorRows = [] := List.length_eq_zero_iff.mp (by omega)
      refine ⟨columns, csvEscape_eq_nil_iff.mp ?_⟩
      rw [columns] at single
      exact (List.cons.inj single).1
  · rintro ⟨columns, reason⟩
    right
    rw [columns, csvEscape_eq_nil_iff.mpr reason]
    rfl

theorem line_header_ne_nil : line ((headerColumns errorRows ++ ["reason"]).map csvEscape) ≠ [] := by
  rw [Ne, line_eq_nil_iff, List.map_append, List.map_singleton]
  rintro (none | single)
  · exact absurd none (by simp)
  · have lengths := congrArg List.length single
    simp only [List.length_append, List.length_map, List.length_singleton] at lengths
    have columns : headerColumns errorRows = [] := List.length_eq_zero_iff.mp (by omega)
    rw [columns] at single
    exact absurd (List.cons.inj single).1 (by decide +kernel)

theorem lastLine_iff : (∀ cells, (reportCells errorRows).getLast? = some cells → line (cells.map csvEscape) ≠ []) ↔
    ((headerColumns errorRows).isEmpty && errorRows.getLast?.any fun row => row.reason.getD "" == "") = false := by
  rw [getLast?_reportCells]
  simp only [Option.some.injEq, forall_eq']
  cases errorRows.getLast? with
  | none =>
    rw [Option.any_none, Bool.and_false]
    exact ⟨fun _ => rfl, fun _ => line_header_ne_nil⟩
  | some row =>
    rw [Option.map_some, Option.getD_some, Ne, line_rowCells_eq_nil_iff, Option.any_some, ← Bool.not_eq_true,
      Bool.and_eq_true, List.isEmpty_iff, beq_iff_eq]

theorem error_report_reads_back_iff (errorRows : List StagedRow) :
    (∃ records, ReadsBack errorRows records) ↔ readable errorRows = true := by
  have filled : ∀ cells ∈ reportCells errorRows, cells ≠ [] := by
    intro cells member
    rcases List.mem_cons.mp member with rfl | member
    · exact List.append_ne_nil_of_right_ne_nil _ (List.cons_ne_nil _ _)
    · obtain ⟨row, _, rfl⟩ := List.mem_map.mp member
      exact List.append_ne_nil_of_right_ne_nil _ (List.cons_ne_nil _ _)
  have headed : reportCells errorRows ≠ [] := List.cons_ne_nil _ _
  have parsed := parse_document_iff writing_csvEscape headed filled
  rw [lastLine_iff] at parsed
  have condition : readable errorRows = true ↔
      (∀ cells ∈ reportCells errorRows, ∀ value ∈ cells, returnQuoted value = true) ∧
        ((headerColumns errorRows).isEmpty && errorRows.getLast?.any fun row => row.reason.getD "" == "") = false := by
    rw [readable, Bool.and_eq_true, Bool.not_eq_true', List.all_eq_true]
    simp only [List.all_eq_true]
  rw [condition, ← parsed]
  constructor
  · rintro ⟨records, back⟩
    rw [← back.cells]
    exact back.parsed
  · intro reads
    refine ⟨_, reads, rfl, ?_, ?_, ?_⟩
    · rw [List.length_map, reportCells, List.length_cons, List.length_map]
    · intro record member
      obtain ⟨cells, listed, rfl⟩ := List.mem_map.mp member
      rw [List.length_map]
      rcases List.mem_cons.mp listed with rfl | listed
      · exact List.length_append
      · obtain ⟨row, _, rfl⟩ := List.mem_map.mp listed
        rw [rowCells, List.length_append, List.length_map]
        rfl
    · intro record member cell inside
      obtain ⟨cells, _, rfl⟩ := List.mem_map.mp member
      obtain ⟨value, _, rfl⟩ := List.mem_map.mp inside
      exact beginsFormula_neutralized

def rejectedRow : StagedRow where
  rowNumber := 1
  raw := [("name", "Ann\r=1+1")]
  reason := some "bad email"

/-- A return in the middle of a value starts a record with a formula. -/
theorem return_starts_record : ¬ ∀ errorRows, ∃ records, ReadsBack errorRows records := by
  intro always
  obtain ⟨records, back⟩ := always [rejectedRow]
  have three : (parse (errorReport [rejectedRow])).map List.length = some 3 := by decide +kernel
  rw [back.parsed, Option.map_some, back.rows] at three
  cases three

end Whole

end LocalCrm.Imports
