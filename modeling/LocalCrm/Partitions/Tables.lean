import LocalCrm.Library.Calendar
import LocalCrm.Schema
import Mathlib.Algebra.Order.Group.Multiset
import Mathlib.Tactic.Abel

/-! A table partitioned by month, with a default partition for what fits no other. -/

set_option autoImplicit false

namespace LocalCrm.Partitions

open Library

def utcMonthStart (month : Int) : Timestamp := Calendar.monthStart month * millisecondsPerDay

def utcMonth (time : Timestamp) : Int := Calendar.monthOf (utcDay time)

/-- The half-open bounds `[monthStart, monthEnd)`. -/
def inMonth (month : Int) (time : Timestamp) : Bool :=
  decide (utcMonthStart month ≤ time) && decide (time < utcMonthStart (month + 1))

theorem inMonth_iff {month : Int} {time : Timestamp} : inMonth month time = true ↔ utcMonth time = month := by
  unfold inMonth utcMonth
  rw [Calendar.monthOf_iff, Bool.and_eq_true, decide_eq_true_eq, decide_eq_true_eq]
  have day : 0 < millisecondsPerDay := by decide
  exact and_congr (Int.le_ediv_iff_mul_le day).symm (Int.ediv_lt_iff_lt_mul day).symm

variable {Row Key : Type}

structure Partition (key : Row → Key) where
  month : Int
  rows : Table key
  attached : Bool

abbrev Children (key : Row → Key) := Table fun child : Partition key => child.month

structure PartitionedTable (key : Row → Key) where
  defaultPartition : Table key
  children : Children key

inductive PartitionError where
  | undefinedTable
  | uniqueViolation
  | checkViolation
  | alreadyAttached
  | outOfBounds
  deriving DecidableEq, Repr

namespace PartitionedTable

variable {key : Row → Key} [DecidableEq Key] (occurredAt : Row → Timestamp)

def discoverDefaultMonths (table : PartitionedTable key) : List Int :=
  let months := table.defaultPartition.rows.map fun row => utcMonth (occurredAt row)
  months.dedup.mergeSort fun one other => decide (one ≤ other)

def countDefaultRows (table : PartitionedTable key) : Nat := table.defaultPartition.rows.length

/-- `CREATE TABLE IF NOT EXISTS … (LIKE …)`. -/
def createChild (table : PartitionedTable key) (month : Int) : PartitionedTable key :=
  { table with children := table.children.insert { month, rows := Table.empty, attached := false } }

/-- Which of the month's rows a batch claims is up to the storage order and to
other sessions' row locks. -/
def claims (key : Row → Key) (month : Int) (claimed : List Key) (row : Row) : Bool :=
  inMonth month (occurredAt row) && decide (key row ∈ claimed)

def claimedRows (table : PartitionedTable key) (month : Int) (claimed : List Key) : List Row :=
  table.defaultPartition.rows.filter (claims occurredAt key month claimed)

def moveBatch (table : PartitionedTable key) (month : Int) (claimed : List Key) :
    Except PartitionError (PartitionedTable key) :=
  match table.children.find? month with
  | none => .error .undefinedTable
  | some child =>
    let moved := table.claimedRows occurredAt month claimed
    if moved.any fun row => decide (key row ∈ child.rows.rows.map key) then .error .uniqueViolation
    else
      .ok
        { defaultPartition := table.defaultPartition.delete (claims occurredAt key month claimed)
          children := table.children.update (fun existing => decide (existing.month = month))
            fun existing => { existing with rows := moved.foldl Table.insert existing.rows } }

/-- The check constraint on the default partition is validated before the attach and dropped behind it. -/
def attachPartitionCheckFirst (table : PartitionedTable key) (month : Int) :
    Except PartitionError (PartitionedTable key) :=
  let created := table.createChild month
  if created.defaultPartition.rows.any fun row => inMonth month (occurredAt row) then .error .checkViolation
  else
    match created.children.find? month with
    | none => .error .undefinedTable
    | some child =>
      if child.attached then .error .alreadyAttached
      else if child.rows.rows.all fun row => inMonth month (occurredAt row) then
        .ok
          { created with
            children := created.children.update (fun existing => decide (existing.month = month))
              fun existing => { existing with attached := true } }
      else .error .outOfBounds

/-- What the parent shows. -/
def visible (table : PartitionedTable key) : List Row :=
  table.defaultPartition.rows ++
    table.children.rows.flatMap fun child => if child.attached then child.rows.rows else []

def freestanding (table : PartitionedTable key) : List Row :=
  table.children.rows.flatMap fun child => if child.attached then [] else child.rows.rows

/-- What the database itself upholds: an attached partition has only rows of its month. -/
def Bounded (table : PartitionedTable key) : Prop :=
  ∀ child ∈ table.children.rows, child.attached = true →
    ∀ row ∈ child.rows.rows, utcMonth (occurredAt row) = child.month

/-- The same of every child, attached or not. -/
def Housed (table : PartitionedTable key) : Prop :=
  ∀ child ∈ table.children.rows, ∀ row ∈ child.rows.rows, utcMonth (occurredAt row) = child.month

/-- The month's rows are in a child nobody has attached, and none is left that would lead back to it. -/
def Stranded (table : PartitionedTable key) (month : Int) : Prop :=
  ∃ child, table.children.find? month = some child ∧ child.attached = false ∧ child.rows.rows ≠ [] ∧
    ∀ row ∈ table.defaultPartition.rows, utcMonth (occurredAt row) ≠ month

section Conservation

def stored (table : PartitionedTable key) : List Row :=
  table.defaultPartition.rows ++ table.children.rows.flatMap (·.rows.rows)

variable {occurredAt} {table next : PartitionedTable key} {month : Int} {claimed : List Key}

omit [DecidableEq Key] in
theorem visible_append_freestanding : (table.visible ++ table.freestanding).Perm table.stored := by
  unfold visible freestanding stored
  rw [List.append_assoc]
  apply List.Perm.append_left
  apply (List.flatMap_append_perm _ _ _).trans
  have whole : (fun child : Partition key => (if child.attached then child.rows.rows else []) ++
      if child.attached then [] else child.rows.rows) = fun child => child.rows.rows := by
    funext child
    cases child.attached with
    | true => exact List.append_nil _
    | false => rfl
  rw [whole]

omit [DecidableEq Key] in
theorem freestanding_eq_nil :
    table.freestanding = [] ↔ ∀ child ∈ table.children.rows, child.attached = false → child.rows.rows = [] := by
  unfold freestanding
  rw [List.flatMap_eq_nil_iff]
  constructor
  · intro none child member loose
    have nothing := none child member
    rwa [loose] at nothing
  · intro none child member
    cases loose : child.attached with
    | true => rfl
    | false => exact none child member loose

omit [DecidableEq Key] in
theorem stored_createChild : (table.createChild month).stored = table.stored := by
  show table.defaultPartition.rows ++ _ = table.defaultPartition.rows ++ _
  unfold createChild Table.insert
  split
  · rfl
  · rw [List.flatMap_append]
    exact congrArg _ (List.append_nil _)

theorem moveBatch_ok (done : table.moveBatch occurredAt month claimed = .ok next) :
    ∃ child, table.children.find? month = some child ∧
      next.defaultPartition = table.defaultPartition.delete (claims occurredAt key month claimed) ∧
      next.children = table.children.update (fun existing => decide (existing.month = month))
        (fun existing =>
          { existing with rows := (table.claimedRows occurredAt month claimed).foldl Table.insert existing.rows }) ∧
      ∀ row ∈ table.claimedRows occurredAt month claimed, key row ∉ child.rows.rows.map key := by
  unfold moveBatch at done
  cases found : table.children.find? month with
  | none =>
    rw [found] at done
    cases done
  | some child =>
    rw [found] at done
    simp only at done
    split at done
    · cases done
    · next fresh =>
      cases done
      simpa using fresh

theorem nodup_claimedRows : ((table.claimedRows occurredAt month claimed).map key).Nodup :=
  table.defaultPartition.unique.sublist (List.Sublist.map key List.filter_sublist)

theorem stored_moveBatch (done : table.moveBatch occurredAt month claimed = .ok next) :
    next.stored.Perm table.stored := by
  obtain ⟨child, found, defaults, children, fresh⟩ := moveBatch_ok done
  obtain ⟨before, after, split, updated⟩ := Table.exists_split found
  have grown := Table.rows_foldl_insert nodup_claimedRows fresh
  have parts := List.filter_append_perm (claims occurredAt key month claimed) table.defaultPartition.rows
  unfold stored
  rw [children, defaults, updated, split]
  simp only [List.flatMap_append, List.flatMap_cons, grown, Table.delete]
  rw [← Multiset.coe_eq_coe] at parts ⊢
  simp only [← Multiset.coe_add, ← parts, claimedRows]
  abel

omit [DecidableEq Key] in
theorem attachPartitionCheckFirst_ok (done : table.attachPartitionCheckFirst occurredAt month = .ok next) :
    ∃ child, (table.createChild month).children.find? month = some child ∧ child.attached = false ∧
      (∀ row ∈ child.rows.rows, utcMonth (occurredAt row) = month) ∧
      (∀ row ∈ table.defaultPartition.rows, utcMonth (occurredAt row) ≠ month) ∧
      next = { table.createChild month with
        children := (table.createChild month).children.update (fun existing => decide (existing.month = month))
          fun existing => { existing with attached := true } } := by
  unfold attachPartitionCheckFirst at done
  simp only at done
  split at done
  · cases done
  · next clear =>
    cases found : (table.createChild month).children.find? month with
    | none =>
      rw [found] at done
      cases done
    | some child =>
      rw [found] at done
      simp only at done
      split at done
      · cases done
      · next loose =>
        split at done
        · next fits =>
          cases done
          refine ⟨child, rfl, Bool.eq_false_iff.mpr loose, ?_, ?_, rfl⟩
          · intro row member
            exact inMonth_iff.mp (List.all_eq_true.mp fits row member)
          · intro row member same
            exact clear (List.any_eq_true.mpr ⟨row, member, inMonth_iff.mpr same⟩)
        · cases done

omit [DecidableEq Key] in
theorem stored_attachPartitionCheckFirst (done : table.attachPartitionCheckFirst occurredAt month = .ok next) :
    next.stored = table.stored := by
  obtain ⟨child, _, _, _, _, rfl⟩ := attachPartitionCheckFirst_ok done
  have created : (table.createChild month).stored = table.stored := stored_createChild
  rw [← created]
  unfold stored Table.update
  rw [List.flatMap_map]
  congr 1
  apply List.flatMap_congr
  intro existing _
  split <;> rfl

end Conservation

section Months

variable {occurredAt} {table next : PartitionedTable key} {month wanted : Int} {claimed : List Key}

omit [DecidableEq Key] in
theorem mem_discoverDefaultMonths :
    wanted ∈ table.discoverDefaultMonths occurredAt ↔
      ∃ row ∈ table.defaultPartition.rows, utcMonth (occurredAt row) = wanted := by
  unfold discoverDefaultMonths
  simp only [List.mem_mergeSort, List.mem_dedup, List.mem_map]

omit [DecidableEq Key] in
theorem nodup_discoverDefaultMonths : (table.discoverDefaultMonths occurredAt).Nodup :=
  (List.mergeSort_perm _ _).nodup_iff.mpr (List.nodup_dedup _)

theorem mem_default_moveBatch (done : table.moveBatch occurredAt month claimed = .ok next) {row : Row} :
    row ∈ next.defaultPartition.rows ↔
      row ∈ table.defaultPartition.rows ∧ claims occurredAt key month claimed row = false := by
  obtain ⟨_, _, defaults, _, _⟩ := moveBatch_ok done
  rw [defaults]
  simp [Table.delete]

theorem mem_default_of_other (done : table.moveBatch occurredAt month claimed = .ok next) {row : Row}
    (member : row ∈ table.defaultPartition.rows) (other : utcMonth (occurredAt row) ≠ month) :
    row ∈ next.defaultPartition.rows := by
  refine (mem_default_moveBatch done).mpr ⟨member, ?_⟩
  have outside : inMonth month (occurredAt row) = false :=
    Bool.eq_false_iff.mpr fun inside => other (inMonth_iff.mp inside)
  unfold claims
  rw [outside, Bool.false_and]

omit [DecidableEq Key] in
theorem stranded_createChild :
    (table.createChild month).Stranded occurredAt wanted ↔ table.Stranded occurredAt wanted := by
  unfold Stranded
  have looked : (table.createChild month).children.find? wanted = (table.children.find? wanted).or
      (if month = wanted then some { month, rows := Table.empty, attached := false } else none) :=
    Table.find?_insert
  rw [looked]
  cases table.children.find? wanted with
  | some child => rfl
  | none =>
    constructor
    · rintro ⟨child, found, _, filled, _⟩
      split at found
      · cases found
        exact absurd rfl filled
      · cases found
    · rintro ⟨_, found, _⟩
      cases found

theorem stranded_moveBatch (done : table.moveBatch occurredAt month claimed = .ok next) (other : wanted ≠ month) :
    next.Stranded occurredAt wanted ↔ table.Stranded occurredAt wanted := by
  obtain ⟨_, _, _, children, _⟩ := moveBatch_ok done
  have looked : next.children.find? wanted = table.children.find? wanted := by
    rw [children, Table.find?_update]
    cases found : table.children.find? wanted with
    | none => rfl
    | some child =>
      have keyed : child.month = wanted := Table.key_of_find? found
      have apart : ¬ child.month = month := fun same => other (keyed.symm.trans same)
      simp [apart]
  have remains : (∀ row ∈ next.defaultPartition.rows, utcMonth (occurredAt row) ≠ wanted) ↔
      ∀ row ∈ table.defaultPartition.rows, utcMonth (occurredAt row) ≠ wanted := by
    constructor
    · intro gone row member same
      exact gone row (mem_default_of_other done member (same ▸ other)) same
    · intro gone row member
      exact gone row ((mem_default_moveBatch done).mp member).1
  unfold Stranded
  rw [looked, remains]

omit [DecidableEq Key] in
theorem stranded_attach (done : table.attachPartitionCheckFirst occurredAt month = .ok next) :
    next.Stranded occurredAt wanted ↔ table.Stranded occurredAt wanted ∧ wanted ≠ month := by
  have created : (table.createChild month).Stranded occurredAt wanted ↔ table.Stranded occurredAt wanted :=
    stranded_createChild
  rw [← created]
  obtain ⟨child, found, _, _, _, rfl⟩ := attachPartitionCheckFirst_ok done
  unfold Stranded
  rw [Table.find?_update]
  by_cases same : wanted = month
  · subst same
    have keyed : child.month = wanted := Table.key_of_find? found
    simp [found, keyed]
  · cases looked : (table.createChild month).children.find? wanted with
    | none => simp
    | some other =>
      have keyed : other.month = wanted := Table.key_of_find? looked
      have apart : ¬ other.month = month := fun equal => same (keyed.symm.trans equal)
      simp [apart, same]

theorem not_stranded_of_moveBatch_error {failure : PartitionError}
    (failed : table.moveBatch occurredAt month claimed = .error failure) : ¬ table.Stranded occurredAt month := by
  rintro ⟨child, found, _, _, gone⟩
  have nothing : table.claimedRows occurredAt month claimed = [] := by
    apply List.filter_eq_nil_iff.mpr
    intro row member chosen
    unfold claims at chosen
    rw [Bool.and_eq_true] at chosen
    exact gone row member (inMonth_iff.mp chosen.1)
  simp [moveBatch, found, nothing] at failed

omit [DecidableEq Key] in
theorem not_stranded_of_attach_error {failure : PartitionError} (housed : table.Housed occurredAt)
    (failed : table.attachPartitionCheckFirst occurredAt month = .error failure) :
    ¬ table.Stranded occurredAt month := by
  rintro ⟨child, found, loose, _, gone⟩
  have keyed : child.month = month := Table.key_of_find? found
  have clear : (table.defaultPartition.rows.any fun row => inMonth month (occurredAt row)) = false := by
    apply Bool.eq_false_iff.mpr
    intro some
    obtain ⟨row, member, inside⟩ := List.any_eq_true.mp some
    exact gone row member (inMonth_iff.mp inside)
  have fits : (child.rows.rows.all fun row => inMonth month (occurredAt row)) = true := by
    apply List.all_eq_true.mpr
    intro row member
    exact inMonth_iff.mpr ((housed child (Table.mem_of_find? found) row member).trans keyed)
  have created : (table.createChild month).children.find? month = some child := by
    have looked : (table.createChild month).children.find? month = _ := Table.find?_insert
    rw [looked, found]
    rfl
  have defaults : (table.createChild month).defaultPartition = table.defaultPartition := rfl
  simp [attachPartitionCheckFirst, created, defaults, clear, fits, loose] at failed

omit [DecidableEq Key] in
theorem housed_createChild (housed : table.Housed occurredAt) : (table.createChild month).Housed occurredAt := by
  intro child member row stored
  rcases Table.mem_of_insert member with old | rfl
  · exact housed child old row stored
  · cases stored

theorem housed_moveBatch (housed : table.Housed occurredAt)
    (done : table.moveBatch occurredAt month claimed = .ok next) : next.Housed occurredAt := by
  obtain ⟨child, found, _, children, fresh⟩ := moveBatch_ok done
  obtain ⟨before, after, split, updated⟩ := Table.exists_split found
  have keyed : child.month = month := Table.key_of_find? found
  have grown := Table.rows_foldl_insert nodup_claimedRows fresh
  intro other member row stored
  rw [children, updated] at member
  rcases List.mem_append.mp member with earlier | here
  · exact housed other (by rw [split]; exact List.mem_append_left _ earlier) row stored
  · rcases List.mem_cons.mp here with rfl | later
    · have located : row ∈ child.rows.rows ++ table.claimedRows occurredAt month claimed := grown ▸ stored
      rcases List.mem_append.mp located with old | moved
      · exact housed child (Table.mem_of_find? found) row old
      · have chosen := List.of_mem_filter moved
        unfold claims at chosen
        rw [Bool.and_eq_true] at chosen
        exact (inMonth_iff.mp chosen.1).trans keyed.symm
    · exact housed other (by rw [split]; exact List.mem_append_right _ (List.mem_cons_of_mem _ later)) row stored

omit [DecidableEq Key] in
theorem housed_attach (housed : table.Housed occurredAt)
    (done : table.attachPartitionCheckFirst occurredAt month = .ok next) : next.Housed occurredAt := by
  obtain ⟨_, _, _, _, _, rfl⟩ := attachPartitionCheckFirst_ok done
  intro child member row stored
  obtain ⟨existing, old, rfl⟩ := List.mem_map.mp member
  have created : (table.createChild month).Housed occurredAt := housed_createChild housed
  have same := created existing old
  split at stored
  · next matched =>
    rw [if_pos matched]
    exact same row stored
  · next apart =>
    rw [if_neg apart]
    exact same row stored

end Months

end PartitionedTable

end LocalCrm.Partitions
