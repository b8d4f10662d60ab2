import LocalCrm.Partitions.Tables
import LocalCrm.Library.Transition
import Mathlib.Logic.Function.Basic

/-! Emptying default partitions, one statement after the other. -/

set_option autoImplicit false

namespace LocalCrm.Partitions

open Library

def relocateBatchSize : Nat := 500

structure MonthRelocationReport where
  month : Int
  rowsMoved : Nat
  batches : Nat
  deriving DecidableEq, Repr

structure TableRelocationReport (Name : Type) where
  table : Name
  months : List MonthRelocationReport
  totalRowsMoved : Nat
  residualDefaultCount : Nat
  deriving DecidableEq, Repr

structure Pass (Name : Type) where
  table : Name
  laterTables : List Name
  reports : List (TableRelocationReport Name)
  laterMonths : List Int
  monthReports : List MonthRelocationReport

inductive Process (Name : Type) where
  | idle
  | tables (later : List Name) (reports : List (TableRelocationReport Name))
  | months (pass : Pass Name)
  | moving (pass : Pass Name) (month : Int) (rowsMoved batches : Nat)
  | attaching (pass : Pass Name) (month : Int) (rowsMoved batches : Nat)
  | returned (reports : List (TableRelocationReport Name))

variable {Name Row Key : Type} [DecidableEq Name] [DecidableEq Key]

structure RelocationState (Name : Type) {Row Key : Type} (key : Row → Key) where
  db : Name → PartitionedTable key
  process : Process Name := .idle

inductive RelocationEvent (Name Key : Type) where
  | start (tables : List Name)
  | proceed (claimed : List Key)
  | crash

variable {key : Row → Key} (occurredAt : Row → Timestamp)

def RelocationState.written (state : RelocationState Name key) (table : Name) (next : PartitionedTable key)
    (process : Process Name) : RelocationState Name key :=
  { db := Function.update state.db table next, process }

/-- The next statement of the run; an error it throws ends the run. -/
def proceed (state : RelocationState Name key) (claimed : List Key) : Option (RelocationState Name key) :=
  match state.process with
  | .idle => none
  | .returned _ => none
  | .tables later reports =>
    match later with
    | [] => some { state with process := .returned reports }
    | table :: laterTables =>
      let laterMonths := (state.db table).discoverDefaultMonths occurredAt
      some { state with process := .months { table, laterTables, reports, laterMonths, monthReports := [] } }
  | .months pass =>
    match pass.laterMonths with
    | [] =>
      let report : TableRelocationReport Name :=
        { table := pass.table, months := pass.monthReports
          totalRowsMoved := (pass.monthReports.map (·.rowsMoved)).sum
          residualDefaultCount := (state.db pass.table).countDefaultRows }
      some { state with process := .tables pass.laterTables (pass.reports ++ [report]) }
    | month :: laterMonths =>
      some (state.written pass.table ((state.db pass.table).createChild month)
        (.moving { pass with laterMonths } month 0 0))
  | .moving pass month rowsMoved batches =>
    let moved := ((state.db pass.table).claimedRows occurredAt month claimed).length
    if moved ≤ relocateBatchSize then
      match (state.db pass.table).moveBatch occurredAt month claimed with
      | .error _ => some { state with process := .idle }
      | .ok next =>
        if moved < relocateBatchSize then
          some (state.written pass.table next (.attaching pass month (rowsMoved + moved) (batches + 1)))
        else some (state.written pass.table next (.moving pass month (rowsMoved + moved) (batches + 1)))
    else none
  | .attaching pass month rowsMoved batches =>
    match (state.db pass.table).attachPartitionCheckFirst occurredAt month with
    | .error _ => some { state with process := .idle }
    | .ok next =>
      let report : MonthRelocationReport := { month, rowsMoved, batches }
      some (state.written pass.table next
        (.months { pass with monthReports := pass.monthReports ++ [report] }))

def Process.running : Process Name → Bool
  | .idle | .returned _ => false
  | .tables _ _ | .months _ | .moving _ _ _ _ | .attaching _ _ _ _ => true

/-- The advisory lock lets one run in at a time; it goes with the session. -/
def relocationStep (state : RelocationState Name key) : RelocationEvent Name Key → Option (RelocationState Name key)
  | .start tables => if state.process.running then none else some { state with process := .tables tables [] }
  | .proceed claimed => proceed occurredAt state claimed
  | .crash => if state.process.running then some { state with process := .idle } else none

variable {occurredAt}

section Steps

inductive Proceeds (occurredAt : Row → Timestamp) (state : RelocationState Name key) :
    RelocationState Name key → Prop where
  | finish (reports : List (TableRelocationReport Name)) (here : state.process = .tables [] reports) :
    Proceeds occurredAt state { state with process := .returned reports }
  | discover (table : Name) (laterTables : List Name) (reports : List (TableRelocationReport Name))
      (here : state.process = .tables (table :: laterTables) reports) :
    Proceeds occurredAt state
      { state with
        process := .months
          { table, laterTables, reports, laterMonths := (state.db table).discoverDefaultMonths occurredAt
            monthReports := [] } }
  | report (pass : Pass Name) (here : state.process = .months pass) (done : pass.laterMonths = []) :
    Proceeds occurredAt state
      { state with
        process := .tables pass.laterTables (pass.reports ++
          [{ table := pass.table, months := pass.monthReports
             totalRowsMoved := (pass.monthReports.map (·.rowsMoved)).sum
             residualDefaultCount := (state.db pass.table).countDefaultRows }]) }
  | create (pass : Pass Name) (month : Int) (laterMonths : List Int) (here : state.process = .months pass)
      (remaining : pass.laterMonths = month :: laterMonths) :
    Proceeds occurredAt state (state.written pass.table ((state.db pass.table).createChild month)
      (.moving { pass with laterMonths } month 0 0))
  | batchFailed (pass : Pass Name) (month : Int) (rowsMoved batches : Nat) (claimed : List Key)
      (failure : PartitionError) (here : state.process = .moving pass month rowsMoved batches)
      (failed : (state.db pass.table).moveBatch occurredAt month claimed = .error failure) :
    Proceeds occurredAt state { state with process := .idle }
  | batch (pass : Pass Name) (month : Int) (rowsMoved batches : Nat) (claimed : List Key) (next : PartitionedTable key)
      (process : Process Name) (rowsNow batchesNow : Nat) (here : state.process = .moving pass month rowsMoved batches)
      (done : (state.db pass.table).moveBatch occurredAt month claimed = .ok next)
      (onward : process = .attaching pass month rowsNow batchesNow ∨ process = .moving pass month rowsNow batchesNow) :
    Proceeds occurredAt state (state.written pass.table next process)
  | attachFailed (pass : Pass Name) (month : Int) (rowsMoved batches : Nat) (failure : PartitionError)
      (here : state.process = .attaching pass month rowsMoved batches)
      (failed : (state.db pass.table).attachPartitionCheckFirst occurredAt month = .error failure) :
    Proceeds occurredAt state { state with process := .idle }
  | attach (pass : Pass Name) (month : Int) (rowsMoved batches : Nat) (next : PartitionedTable key)
      (here : state.process = .attaching pass month rowsMoved batches)
      (done : (state.db pass.table).attachPartitionCheckFirst occurredAt month = .ok next) :
    Proceeds occurredAt state (state.written pass.table next
      (.months { pass with monthReports := pass.monthReports ++ [{ month, rowsMoved, batches }] }))

variable {state next : RelocationState Name key} {claimed : List Key}

theorem proceeds (taken : proceed occurredAt state claimed = some next) : Proceeds occurredAt state next := by
  unfold proceed at taken
  split at taken
  · cases taken
  · cases taken
  · next later reports here =>
    split at taken
    · cases taken
      exact .finish reports here
    · next table laterTables =>
      cases taken
      exact .discover table laterTables reports here
  · next pass here =>
    split at taken
    · next done =>
      cases taken
      exact .report pass here done
    · next month laterMonths remaining =>
      cases taken
      exact .create pass month laterMonths here remaining
  · next pass month rowsMoved batches here =>
    simp only at taken
    split at taken
    · split at taken
      · next failure failed =>
        cases taken
        exact .batchFailed pass month rowsMoved batches claimed failure here failed
      · next table done =>
        split at taken
        · cases taken
          exact .batch pass month rowsMoved batches claimed table _ _ _ here done (.inl rfl)
        · cases taken
          exact .batch pass month rowsMoved batches claimed table _ _ _ here done (.inr rfl)
    · cases taken
  · next pass month rowsMoved batches here =>
    split at taken
    · next failure failed =>
      cases taken
      exact .attachFailed pass month rowsMoved batches failure here failed
    · next table done =>
      cases taken
      exact .attach pass month rowsMoved batches table here done

theorem relationStep_relates {relation : PartitionedTable key → PartitionedTable key → Prop}
    {event : RelocationEvent Name Key} (reflexive : ∀ table, relation table table)
    (created : ∀ table month, relation table (table.createChild month))
    (moved : ∀ table month claimed next, table.moveBatch occurredAt month claimed = .ok next → relation table next)
    (attached : ∀ table month next, table.attachPartitionCheckFirst occurredAt month = .ok next → relation table next)
    (taken : relocationStep occurredAt state event = some next) (name : Name) :
    relation (state.db name) (next.db name) := by
  have written : ∀ (table : Name) (changed : PartitionedTable key) (process : Process Name),
      relation (state.db table) changed → relation (state.db name) ((state.written table changed process).db name) := by
    intro table changed process related
    unfold RelocationState.written
    by_cases same : name = table
    · subst same
      simpa using related
    · simpa [Function.update_of_ne same] using reflexive (state.db name)
  cases event with
  | start tables =>
    simp only [relocationStep] at taken
    split at taken
    · cases taken
    · cases taken
      exact reflexive _
  | crash =>
    simp only [relocationStep] at taken
    split at taken
    · cases taken
      exact reflexive _
    · cases taken
  | proceed claimed =>
    cases proceeds taken with
    | finish | discover | report | batchFailed | attachFailed => exact reflexive _
    | create pass month laterMonths here remaining => exact written _ _ _ (created _ _)
    | batch pass month rowsMoved batches claimed table process rowsNow batchesNow here done onward =>
      exact written _ _ _ (moved _ _ _ _ done)
    | attach pass month rowsMoved batches table here done => exact written _ _ _ (attached _ _ _ done)

theorem stored_step {event : RelocationEvent Name Key} (taken : relocationStep occurredAt state event = some next)
    (name : Name) : (next.db name).stored.Perm (state.db name).stored := by
  refine @relationStep_relates _ _ _ _ _ _ occurredAt state next
    (fun table after => after.stored.Perm table.stored) event ?_ ?_ ?_ ?_ taken name
  · exact fun table => .refl _
  · intro table month
    rw [PartitionedTable.stored_createChild]
  · exact fun table month claimed after done => PartitionedTable.stored_moveBatch done
  · intro table month after done
    rw [PartitionedTable.stored_attachPartitionCheckFirst done]

theorem default_step {event : RelocationEvent Name Key} (taken : relocationStep occurredAt state event = some next)
    (name : Name) : (next.db name).defaultPartition.rows ⊆ (state.db name).defaultPartition.rows := by
  refine @relationStep_relates _ _ _ _ _ _ occurredAt state next
    (fun table after => after.defaultPartition.rows ⊆ table.defaultPartition.rows) event ?_ ?_ ?_ ?_ taken name
  · exact fun table => List.Subset.refl _
  · exact fun table month => List.Subset.refl _
  · intro table month claimed after done row member
    exact ((PartitionedTable.mem_default_moveBatch done).mp member).1
  · intro table month after done
    obtain ⟨_, _, _, _, _, rfl⟩ := PartitionedTable.attachPartitionCheckFirst_ok done
    exact List.Subset.refl _

theorem housed_step {event : RelocationEvent Name Key} (taken : relocationStep occurredAt state event = some next)
    (name : Name) (housed : (state.db name).Housed occurredAt) : (next.db name).Housed occurredAt := by
  refine @relationStep_relates _ _ _ _ _ _ occurredAt state next
    (fun table after => table.Housed occurredAt → after.Housed occurredAt) event ?_ ?_ ?_ ?_ taken name housed
  · exact fun table housed => housed
  · exact fun table month housed => PartitionedTable.housed_createChild housed
  · exact fun table month claimed after done housed => PartitionedTable.housed_moveBatch housed done
  · exact fun table month after done housed => PartitionedTable.housed_attach housed done

end Steps

section Progress

def Process.reports : Process Name → List (TableRelocationReport Name)
  | .idle => []
  | .tables _ reports | .returned reports => reports
  | .months pass | .moving pass _ _ _ | .attaching pass _ _ _ => pass.reports

/-- The months still to come hold all that is left in the default partition, and each of them holds some of it. -/
structure Pass.Covers (occurredAt : Row → Timestamp) (pass : Pass Name) (table : PartitionedTable key)
    (current : List Int) : Prop where
  distinct : (current ++ pass.laterMonths).Nodup
  covers : ∀ row ∈ table.defaultPartition.rows, utcMonth (occurredAt row) ∈ current ++ pass.laterMonths
  found : ∀ month ∈ pass.laterMonths, ∃ row ∈ table.defaultPartition.rows, utcMonth (occurredAt row) = month

def Process.Tracks (occurredAt : Row → Timestamp) (db : Name → PartitionedTable key) : Process Name → Prop
  | .months pass => pass.Covers occurredAt (db pass.table) []
  | .moving pass month _ _ | .attaching pass month _ _ => pass.Covers occurredAt (db pass.table) [month]
  | .idle | .tables _ _ | .returned _ => True

structure RelocationInvariant (occurredAt : Row → Timestamp) (state : RelocationState Name key) : Prop where
  housed : ∀ name, (state.db name).Housed occurredAt
  tracks : state.process.Tracks occurredAt state.db
  reported : ∀ report ∈ state.process.reports,
    report.residualDefaultCount = 0 ∧ (state.db report.table).defaultPartition.rows = []

variable {state next : RelocationState Name key} {event : RelocationEvent Name Key}

theorem relocationStep_tracks (holds : RelocationInvariant occurredAt state)
    (taken : relocationStep occurredAt state event = some next) : next.process.Tracks occurredAt next.db := by
  cases event with
  | start tables =>
    simp only [relocationStep] at taken
    split at taken
    · cases taken
    · cases taken
      trivial
  | crash =>
    simp only [relocationStep] at taken
    split at taken
    · cases taken
      trivial
    · cases taken
  | proceed claimed =>
    have tracks := holds.tracks
    cases proceeds taken with
    | finish | report | batchFailed | attachFailed => trivial
    | discover table laterTables reports here =>
      refine ⟨PartitionedTable.nodup_discoverDefaultMonths, fun row member => ?_, fun month member => ?_⟩
      · exact PartitionedTable.mem_discoverDefaultMonths.mpr ⟨row, member, rfl⟩
      · exact PartitionedTable.mem_discoverDefaultMonths.mp member
    | create pass month laterMonths here remaining =>
      rw [here] at tracks
      have covered : pass.Covers occurredAt (state.db pass.table) [] := tracks
      show Pass.Covers occurredAt _ _ [month]
      simp only [RelocationState.written, Function.update_self]
      have distinct := covered.distinct
      have covers := covered.covers
      have found := covered.found
      simp only [remaining, List.nil_append] at distinct covers found
      exact ⟨distinct, covers, fun later member => found later (List.mem_cons_of_mem _ member)⟩
    | batch pass month rowsMoved batches claimed table process rowsNow batchesNow here done onward =>
      rw [here] at tracks
      have covered : pass.Covers occurredAt (state.db pass.table) [month] := tracks
      have kept : pass.Covers occurredAt table [month] := by
        refine ⟨covered.distinct, fun row member => ?_, fun later member => ?_⟩
        · exact covered.covers row ((PartitionedTable.mem_default_moveBatch done).mp member).1
        · obtain ⟨row, stored, there⟩ := covered.found later member
          -- the months are distinct, so a later month's rows are not claimed
          have apart : later ≠ month := by
            intro same
            have distinct := covered.distinct
            rw [List.singleton_append, List.nodup_cons] at distinct
            exact distinct.1 (same ▸ member)
          exact ⟨row, PartitionedTable.mem_default_of_other done stored (there ▸ apart), there⟩
      have placed : pass.Covers occurredAt ((state.written pass.table table process).db pass.table) [month] := by
        simpa only [RelocationState.written, Function.update_self] using kept
      rcases onward with rfl | rfl
      · exact placed
      · exact placed
    | attach pass month rowsMoved batches table here done =>
      rw [here] at tracks
      have covered : pass.Covers occurredAt (state.db pass.table) [month] := tracks
      obtain ⟨_, _, _, _, clear, rfl⟩ := PartitionedTable.attachPartitionCheckFirst_ok done
      show Pass.Covers occurredAt _ _ []
      simp only [RelocationState.written, Function.update_self]
      have distinct := covered.distinct
      rw [List.singleton_append, List.nodup_cons] at distinct
      refine ⟨distinct.2, fun row member => ?_, covered.found⟩
      have listed := covered.covers row member
      rw [List.singleton_append, List.mem_cons] at listed
      exact listed.resolve_left (clear row member)

theorem relocationStep_invariant (holds : RelocationInvariant occurredAt state)
    (taken : relocationStep occurredAt state event = some next) : RelocationInvariant occurredAt next := by
  refine ⟨fun name => housed_step taken name (holds.housed name), relocationStep_tracks holds taken, ?_⟩
  have emptied : ∀ name, (state.db name).defaultPartition.rows = [] → (next.db name).defaultPartition.rows = [] := by
    intro name empty
    have fewer := default_step taken name
    rw [empty] at fewer
    exact List.eq_nil_of_subset_nil fewer
  have carried : ∀ report ∈ state.process.reports,
      report.residualDefaultCount = 0 ∧ (next.db report.table).defaultPartition.rows = [] :=
    fun report member => ⟨(holds.reported report member).1, emptied _ (holds.reported report member).2⟩
  cases event with
  | start tables =>
    simp only [relocationStep] at taken
    split at taken
    · cases taken
    · cases taken
      intro report member
      cases member
  | crash =>
    simp only [relocationStep] at taken
    split at taken
    · cases taken
      intro report member
      cases member
    · cases taken
  | proceed claimed =>
    intro report member
    cases proceeds taken with
    | finish reports here | discover table laterTables reports here | create pass month laterMonths here remaining
    | attach pass month rowsMoved batches table here done =>
      rw [here] at carried
      exact carried report member
    | report pass here done =>
      rw [here] at carried
      rcases List.mem_append.mp member with earlier | last
      · exact carried report earlier
      · have tracks := holds.tracks
        rw [here] at tracks
        have covers := Pass.Covers.covers tracks
        -- no month is left, so no row is
        have empty : (state.db pass.table).defaultPartition.rows = [] := by
          apply List.eq_nil_iff_forall_not_mem.mpr
          intro row stored
          have listed := covers row stored
          rw [done] at listed
          cases listed
        cases List.mem_singleton.mp last
        exact ⟨by rw [PartitionedTable.countDefaultRows, empty]; rfl, empty⟩
    | batchFailed | attachFailed => cases member
    | batch pass month rowsMoved batches claimed table process rowsNow batchesNow here done onward =>
      rw [here] at carried
      have same : (state.written pass.table table process).process.reports = pass.reports := by
        rcases onward with rfl | rfl <;> rfl
      rw [same] at member
      exact carried report member

end Progress

section Stranding

def Process.WorksOn (name : Name) (month : Int) : Process Name → Prop
  | .moving pass current _ _ | .attaching pass current _ _ => name = pass.table ∧ month = current
  | .idle | .tables _ _ | .months _ | .returned _ => False

/-- Only the month a run is working on may have its last rows outside the default partition and every partition. -/
def Unlost (occurredAt : Row → Timestamp) (name : Name) (state : RelocationState Name key) : Prop :=
  ∀ month, (state.db name).Stranded occurredAt month → state.process.WorksOn name month

/-- No crash strikes between the batch that takes a month's last row out of the default partition and
the attach of that month's child. -/
def CrashSpares (occurredAt : Row → Timestamp) (name : Name) (state : RelocationState Name key)
    (event : RelocationEvent Name Key) (_ : RelocationState Name key) : Prop :=
  match event with
  | .crash => ∀ month, ¬ (state.db name).Stranded occurredAt month
  | .start _ | .proceed _ => True

variable {state next : RelocationState Name key} {name : Name}

omit [DecidableEq Name] [DecidableEq Key] in
theorem unlost_of_not_working (elsewhere : ∀ month, ¬ state.process.WorksOn name month) :
    Unlost occurredAt name state ↔ ∀ month, ¬ (state.db name).Stranded occurredAt month := by
  constructor
  · exact fun unlost month stranded => elsewhere month (unlost month stranded)
  · exact fun spared month stranded => absurd stranded (spared month)

omit [DecidableEq Name] [DecidableEq Key] in
theorem unlost_of_resting (same : next.db = state.db) (before : ∀ month, ¬ state.process.WorksOn name month)
    (after : ∀ month, ¬ next.process.WorksOn name month) :
    Unlost occurredAt name next ↔ Unlost occurredAt name state := by
  rw [unlost_of_not_working before, unlost_of_not_working after, same]

omit [DecidableEq Name] [DecidableEq Key] in
theorem unlost_congr (others : ∀ month, ¬ state.process.WorksOn name month → ¬ next.process.WorksOn name month →
      ((next.db name).Stranded occurredAt month ↔ (state.db name).Stranded occurredAt month))
    (entered : ∀ month, next.process.WorksOn name month → (state.db name).Stranded occurredAt month →
      state.process.WorksOn name month)
    (left : ∀ month, state.process.WorksOn name month → (next.db name).Stranded occurredAt month →
      next.process.WorksOn name month) :
    Unlost occurredAt name next ↔ Unlost occurredAt name state := by
  constructor
  · intro unlost month stranded
    by_contra idle
    by_cases works : next.process.WorksOn name month
    · exact idle (entered month works stranded)
    · exact works (unlost month ((others month idle works).mpr stranded))
  · intro unlost month stranded
    by_contra idle
    by_cases works : state.process.WorksOn name month
    · exact idle (left month works stranded)
    · exact works (unlost month ((others month works idle).mp stranded))

theorem unlost_proceed (holds : RelocationInvariant occurredAt state) (taken : Proceeds occurredAt state next) :
    Unlost occurredAt name next ↔ Unlost occurredAt name state := by
  cases taken with
  | finish reports here | discover table laterTables reports here | report pass here done =>
    exact unlost_of_resting rfl (by simp [here, Process.WorksOn]) (by simp [Process.WorksOn])
  | create pass month laterMonths here remaining =>
    have same : ∀ wanted, ((state.written pass.table ((state.db pass.table).createChild month)
        (.moving { pass with laterMonths } month 0 0)).db name).Stranded occurredAt wanted ↔
          (state.db name).Stranded occurredAt wanted := by
      intro wanted
      by_cases table : name = pass.table
      · subst table
        simpa only [RelocationState.written, Function.update_self] using PartitionedTable.stranded_createChild
      · simp only [RelocationState.written, Function.update_of_ne table]
    apply unlost_congr
    · exact fun wanted _ _ => same wanted
    · -- the month was discovered in the default partition, and is still there
      rintro wanted ⟨rfl, rfl⟩ ⟨_, _, _, _, gone⟩
      have tracks := holds.tracks
      rw [here] at tracks
      obtain ⟨row, stored, there⟩ := Pass.Covers.found tracks wanted (by rw [remaining]; exact List.mem_cons_self)
      exact absurd there (gone row stored)
    · intro wanted works
      rw [here] at works
      cases works
  | batchFailed pass month rowsMoved batches claimed failure here failed =>
    apply unlost_congr
    · exact fun _ _ _ => Iff.rfl
    · intro wanted works
      cases works
    · intro wanted works stranded
      rw [here] at works
      obtain ⟨rfl, rfl⟩ := works
      exact absurd stranded (PartitionedTable.not_stranded_of_moveBatch_error failed)
  | batch pass month rowsMoved batches claimed table process rowsNow batchesNow here done onward =>
    have works : ∀ wanted, (state.written pass.table table process).process.WorksOn name wanted ↔
        state.process.WorksOn name wanted := by
      intro wanted
      rw [here]
      rcases onward with rfl | rfl
      · exact Iff.rfl
      · exact Iff.rfl
    apply unlost_congr
    · intro wanted idle _
      rw [here] at idle
      by_cases same : name = pass.table
      · subst same
        have other : wanted ≠ month := fun equal => idle ⟨rfl, equal⟩
        simpa only [RelocationState.written, Function.update_self] using
          PartitionedTable.stranded_moveBatch done other
      · simp only [RelocationState.written, Function.update_of_ne same]
    · exact fun wanted now _ => (works wanted).mp now
    · exact fun wanted before _ => (works wanted).mpr before
  | attachFailed pass month rowsMoved batches failure here failed =>
    apply unlost_congr
    · exact fun _ _ _ => Iff.rfl
    · intro wanted works
      cases works
    · intro wanted works stranded
      rw [here] at works
      obtain ⟨rfl, rfl⟩ := works
      exact absurd stranded (PartitionedTable.not_stranded_of_attach_error (holds.housed _) failed)
  | attach pass month rowsMoved batches table here done =>
    apply unlost_congr
    · intro wanted idle _
      rw [here] at idle
      by_cases same : name = pass.table
      · subst same
        have other : wanted ≠ month := fun equal => idle ⟨rfl, equal⟩
        simp only [RelocationState.written, Function.update_self]
        rw [PartitionedTable.stranded_attach done]
        exact and_iff_left other
      · simp only [RelocationState.written, Function.update_of_ne same]
    · intro wanted works
      cases works
    · intro wanted works stranded
      rw [here] at works
      obtain ⟨rfl, rfl⟩ := works
      simp only [RelocationState.written, Function.update_self] at stranded
      exact absurd rfl ((PartitionedTable.stranded_attach done).mp stranded).2

theorem unlost_step {event : RelocationEvent Name Key} (holds : RelocationInvariant occurredAt state)
    (taken : relocationStep occurredAt state event = some next) :
    Unlost occurredAt name next ↔ Unlost occurredAt name state ∧ CrashSpares occurredAt name state event next := by
  cases event with
  | start tables =>
    simp only [relocationStep] at taken
    split at taken
    · cases taken
    · next resting =>
      cases taken
      have idle : ∀ month, ¬ state.process.WorksOn name month := by
        intro month works
        cases here : state.process with
        | idle | tables | months | returned =>
          rw [here] at works
          cases works
        | moving | attaching =>
          rw [here] at resting
          exact resting rfl
      have resumed : Unlost occurredAt name { state with process := .tables tables [] } ↔
          Unlost occurredAt name state := unlost_of_resting rfl idle (by simp [Process.WorksOn])
      exact resumed.trans (and_iff_left trivial).symm
  | proceed claimed =>
    rw [unlost_proceed holds (proceeds taken)]
    exact (and_iff_left trivial).symm
  | crash =>
    simp only [relocationStep] at taken
    split at taken
    · cases taken
      constructor
      · intro spared
        exact ⟨fun month stranded => absurd stranded (spared month), spared⟩
      · exact fun both => both.2
    · cases taken

end Stranding

section Conservation

variable {start final : RelocationState Name key} {events : List (RelocationEvent Name Key)} {name : Name}

theorem stored_run (ran : run (relocationStep occurredAt) start events = some final) (name : Name) :
    (final.db name).stored.Perm (start.db name).stored := by
  have kept : ∀ (state : RelocationState Name key) (event : RelocationEvent Name Key) (next : RelocationState Name key),
      (state.db name).stored.Perm (start.db name).stored → relocationStep occurredAt state event = some next →
      (next.db name).stored.Perm (start.db name).stored := by
    intro state event next same taken
    exact (stored_step taken name).trans same
  exact invariant_of_every_run kept (.refl _) ran

omit [DecidableEq Name] [DecidableEq Key] in
theorem housed_of_bounded {table : PartitionedTable key} (bounded : table.Bounded occurredAt)
    (attached : table.freestanding = []) : table.Housed occurredAt := by
  intro child member row stored
  cases loose : child.attached with
  | true => exact bounded child member loose row stored
  | false =>
    rw [PartitionedTable.freestanding_eq_nil.mp attached child member loose] at stored
    cases stored

omit [DecidableEq Name] [DecidableEq Key] in
theorem not_stranded_iff {table : PartitionedTable key} (emptied : table.defaultPartition.rows = []) :
    (∀ month, ¬ table.Stranded occurredAt month) ↔ table.freestanding = [] := by
  rw [PartitionedTable.freestanding_eq_nil]
  constructor
  · intro spared child member loose
    by_contra filled
    have found : table.children.find? child.month = some child := Table.find?_of_mem member
    apply spared child.month
    refine ⟨child, found, loose, filled, ?_⟩
    rw [emptied]
    intro row stored
    cases stored
  · rintro none month ⟨child, found, loose, filled, _⟩
    exact filled (none child (Table.mem_of_find? found) loose)

omit [DecidableEq Name] [DecidableEq Key] in
theorem visible_perm_iff {table before : PartitionedTable key} (same : table.stored.Perm before.stored)
    (attached : before.freestanding = []) : table.visible.Perm before.visible ↔ table.freestanding = [] := by
  have parts : (table.visible ++ table.freestanding).Perm before.visible := by
    have whole : (before.visible ++ before.freestanding).Perm before.stored :=
      PartitionedTable.visible_append_freestanding
    rw [attached, List.append_nil] at whole
    exact (PartitionedTable.visible_append_freestanding.trans same).trans whole.symm
  constructor
  · intro shown
    have lengths := parts.length_eq
    rw [List.length_append, shown.length_eq] at lengths
    exact List.eq_nil_of_length_eq_zero (by omega)
  · intro none
    rwa [none, List.append_nil] at parts

/-- The parent shows the rows it showed at first, each from its own month's partition, and the default
partition is empty. -/
structure Conserved (occurredAt : Row → Timestamp) (before table : PartitionedTable key)
    (report : TableRelocationReport Name) : Prop where
  visible : table.visible.Perm before.visible
  placed : ∀ row ∈ table.visible, ∃ child ∈ table.children.rows,
    child.attached = true ∧ row ∈ child.rows.rows ∧ child.month = utcMonth (occurredAt row)
  residual : report.residualDefaultCount = 0

theorem relocation_conserves_iff {reports : List (TableRelocationReport Name)} (idle : start.process = .idle)
    (bounded : ∀ name, (start.db name).Bounded occurredAt) (attached : ∀ name, (start.db name).freestanding = [])
    (ran : run (relocationStep occurredAt) start events = some final) (returned : final.process = .returned reports) :
    ∀ report ∈ reports, Conserved occurredAt (start.db report.table) (final.db report.table) report ↔
      Along (relocationStep occurredAt) (CrashSpares occurredAt report.table) start events := by
  intro report member
  have started : RelocationInvariant occurredAt start := by
    refine ⟨fun name => housed_of_bounded (bounded name) (attached name), ?_, ?_⟩
    · rw [idle]
      trivial
    · rw [idle]
      intro report member
      cases member
  have ended : RelocationInvariant occurredAt final :=
    invariant_of_every_run (fun _ _ _ => relocationStep_invariant) started ran
  have reported := ended.reported report (by rw [returned]; exact member)
  have decided : ∀ (state : RelocationState Name key) (event : RelocationEvent Name Key)
      (next : RelocationState Name key), RelocationInvariant occurredAt state →
        relocationStep occurredAt state event = some next → (Unlost occurredAt report.table next ↔
          Unlost occurredAt report.table state ∧ CrashSpares occurredAt report.table state event next) :=
    fun _ _ _ holds taken => unlost_step holds taken
  have unlost := final_iff_along (fun _ _ _ => relocationStep_invariant) decided started ran
  have onset : Unlost occurredAt report.table start := by
    rw [unlost_of_not_working (by simp [idle, Process.WorksOn])]
    rintro month ⟨child, found, loose, filled, _⟩
    exact filled (PartitionedTable.freestanding_eq_nil.mp (attached _) child (Table.mem_of_find? found) loose)
  rw [unlost_of_not_working (by simp [returned, Process.WorksOn]), not_stranded_iff reported.2,
    and_iff_right onset] at unlost
  rw [← unlost, ← visible_perm_iff (stored_run ran report.table) (attached report.table)]
  constructor
  · exact fun conserved => conserved.visible
  · intro shown
    refine ⟨shown, fun row seen => ?_, reported.1⟩
    unfold PartitionedTable.visible at seen
    rw [reported.2, List.nil_append] at seen
    obtain ⟨child, stored, inside⟩ := List.mem_flatMap.mp seen
    split at inside
    · next linked => exact ⟨child, stored, linked, inside, (ended.housed _ child stored row inside).symm⟩
    · cases inside

end Conservation

section Examples

inductive PartitionedName where
  | events
  | sendEvents
  deriving DecidableEq, Repr

structure EventRow where
  workspaceId : WorkspaceId
  id : Nat
  occurredAt : Timestamp
  deriving DecidableEq, Repr

def EventRow.primaryKey (row : EventRow) : WorkspaceId × Nat × Timestamp := (row.workspaceId, row.id, row.occurredAt)

def lateEvent : EventRow := { workspaceId := 1, id := 7, occurredAt := 0 }

def lateEvents : RelocationState PartitionedName EventRow.primaryKey where
  db := fun name =>
    { defaultPartition := if name = .events then Table.empty.insert lateEvent else Table.empty
      children := Table.empty }

def relocated : List (RelocationEvent PartitionedName (WorkspaceId × Nat × Timestamp)) :=
  [.start [.events], .proceed [], .proceed [], .proceed [lateEvent.primaryKey]]

def Process.result {Name : Type} : Process Name → Option (List (TableRelocationReport Name))
  | .returned reports => some reports
  | .idle | .tables _ _ | .months _ | .moving _ _ _ _ | .attaching _ _ _ _ => none

theorem returned_of_result {Name : Type} {process : Process Name} {reports : List (TableRelocationReport Name)}
    (result : process.result = some reports) : process = .returned reports := by
  cases process with
  | returned known =>
    cases result
    rfl
  | idle | tables | months | moving | attaching => cases result

theorem lateEvents_bounded (name : PartitionedName) : (lateEvents.db name).Bounded EventRow.occurredAt := by
  intro child member
  cases member

theorem uninterrupted_relocation_conserves :
    ∃ final reports, run (relocationStep EventRow.occurredAt) lateEvents
        (relocated ++ [.proceed [], .proceed [], .proceed []]) = some final ∧
      final.process = .returned reports ∧ reports.length = 1 ∧
      ∀ report ∈ reports,
        Conserved EventRow.occurredAt (lateEvents.db report.table) (final.db report.table) report := by
  have ran : (run (relocationStep EventRow.occurredAt) lateEvents
      (relocated ++ [.proceed [], .proceed [], .proceed []])).any
        (fun final => final.process.result.any fun reports => reports.length == 1) = true := by decide +kernel
  obtain ⟨final, reached, ended⟩ := (Option.any_eq_true _ _).mp ran
  obtain ⟨reports, result, one⟩ := (Option.any_eq_true _ _).mp ended
  have returned := returned_of_result result
  refine ⟨final, reports, reached, returned, beq_iff_eq.mp one, fun report member => ?_⟩
  apply (relocation_conserves_iff rfl lateEvents_bounded (fun _ => rfl) reached returned report member).mpr
  apply along_of_labels
  intro event listed
  simp only [relocated, List.cons_append, List.nil_append, List.mem_cons, List.not_mem_nil, or_false] at listed
  rcases listed with rfl | rfl | rfl | rfl | rfl | rfl | rfl <;> exact fun _ _ => trivial

/-- A crash behind the last batch: the next run finds nothing to do, and the row is gone from the parent. -/
theorem crash_before_attach_loses_rows :
    lateEvents.process = .idle ∧ (∀ name, (lateEvents.db name).Bounded EventRow.occurredAt) ∧
      (∀ name, (lateEvents.db name).freestanding = []) ∧
      ∃ final reports report, run (relocationStep EventRow.occurredAt) lateEvents
          (relocated ++ [.crash, .start [.events], .proceed [], .proceed [], .proceed []]) = some final ∧
        final.process = .returned reports ∧ report ∈ reports ∧
        ¬ Conserved EventRow.occurredAt (lateEvents.db report.table) (final.db report.table) report := by
  refine ⟨rfl, lateEvents_bounded, fun _ => rfl, ?_⟩
  have ran : (run (relocationStep EventRow.occurredAt) lateEvents
      (relocated ++ [.crash, .start [.events], .proceed [], .proceed [], .proceed []])).any
        (fun final => final.process.result.any fun reports => reports.any fun report =>
          (final.db report.table).visible.length != (lateEvents.db report.table).visible.length) = true := by
    decide +kernel
  obtain ⟨final, reached, ended⟩ := (Option.any_eq_true _ _).mp ran
  obtain ⟨reports, result, some⟩ := (Option.any_eq_true _ _).mp ended
  obtain ⟨report, member, fewer⟩ := List.any_eq_true.mp some
  refine ⟨final, reports, report, reached, returned_of_result result, member, fun conserved => ?_⟩
  exact bne_iff_ne.mp fewer conserved.visible.length_eq

end Examples

end LocalCrm.Partitions
