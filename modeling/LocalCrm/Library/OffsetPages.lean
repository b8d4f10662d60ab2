import Mathlib.Data.List.Count
import Mathlib.Data.List.Perm.Basic
import Mathlib.Data.List.Range
import Mathlib.Data.List.Sort

/-! Pages cut by offset from rows that are ordered by a key alone.

Every page is a query of its own and may find another order of the rows that share a key.
-/

set_option autoImplicit false

namespace LocalCrm.Library

variable {Row Key : Type} [LinearOrder Key]

/-- An order that `ORDER BY key DESC` permits. -/
structure Permits (key : Row → Key) (rows order : List Row) : Prop where
  same : order.Perm rows
  sorted : order.Pairwise fun first second => key second ≤ key first

/-- `LIMIT size OFFSET (number - 1) * size` -/
def offsetPage (size number : Nat) (order : List Row) : List Row := (order.drop ((number - 1) * size)).take size

/-- However each query sorts the rows, the pages together are the rows. -/
def PagesPartition (key : Row → Key) (rows : List Row) (size : Nat)
    (page : Nat → (List Row → List Row) → List Row) : Prop :=
  ∀ sorts : Nat → List Row → List Row, (∀ number, Permits key rows (sorts number rows)) →
    ∀ count, rows.length ≤ count * size →
      ((List.range count).flatMap fun index => page (index + 1) (sorts (index + 1))).Perm rows

def above (key : Row → Key) (rows : List Row) (bound : Key) : Nat := rows.countP fun row => bound < key row

def tied (key : Row → Key) (rows : List Row) (bound : Key) : Nat := rows.countP fun row => key row = bound

/-- The first rows end between two that differ and share their key. -/
def CutsTie (key : Row → Key) (rows : List Row) (boundary : Nat) : Prop :=
  ∃ first ∈ rows, ∃ second ∈ rows, first ≠ second ∧ key first = key second ∧
    above key rows (key first) < boundary ∧ boundary < above key rows (key first) + tied key rows (key first)

section Sorted

variable {key : Row → Key} {rows order : List Row}

theorem filter_above_of_le {bound : Key} (lower : ∀ row ∈ rows, key row ≤ bound) :
    (rows.filter fun row => bound < key row) = [] := by
  apply List.filter_eq_nil_iff.mpr
  intro row member
  simpa using lower row member

theorem filter_tied_of_ne {bound : Key} (apart : ∀ row ∈ rows, key row ≠ bound) :
    (rows.filter fun row => key row = bound) = [] := by
  apply List.filter_eq_nil_iff.mpr
  intro row member
  simpa using apart row member

theorem sorted_split (sorted : order.Pairwise fun first second => key second ≤ key first) (bound : Key) :
    order = (order.filter fun row => bound < key row) ++ ((order.filter fun row => key row = bound) ++
      order.filter fun row => key row < bound) := by
  induction order with
  | nil => rfl
  | cons row rest ih =>
    obtain ⟨highest, others⟩ := List.pairwise_cons.mp sorted
    have split := ih others
    rcases lt_trichotomy bound (key row) with higher | same | lower
    · simp only [List.filter_cons, higher, higher.ne', higher.not_gt, decide_true, decide_false, if_true,
        Bool.false_eq_true, if_false, List.cons_append]
      rw [← split]
    · have none : (rest.filter fun row => bound < key row) = [] :=
        filter_above_of_le fun other member => same ▸ highest other member
      simp only [List.filter_cons, ← same, lt_irrefl, decide_true, decide_false, if_true, Bool.false_eq_true, if_false,
        none, List.nil_append, List.cons_append]
      rw [none, List.nil_append] at split
      rw [← split]
    · have below : ∀ other ∈ rest, key other < bound := fun other member => (highest other member).trans_lt lower
      have none : (rest.filter fun row => bound < key row) = [] :=
        filter_above_of_le fun other member => (below other member).le
      have nothing : (rest.filter fun row => key row = bound) = [] :=
        filter_tied_of_ne fun other member => (below other member).ne
      simp only [List.filter_cons, lower, lower.ne, lower.not_gt, decide_true, decide_false, if_true,
        Bool.false_eq_true, if_false, none, nothing, List.nil_append]
      rw [none, nothing, List.nil_append, List.nil_append] at split
      rw [← split]

end Sorted

section Counted

variable [DecidableEq Row] {key : Row → Key} {rows order : List Row} {row : Row} {boundary : Nat}

theorem count_take_filter_ne {wanted : Row → Bool} (unwanted : wanted row = false) (boundary : Nat) :
    ((order.filter wanted).take boundary).count row = 0 := by
  apply List.count_eq_zero.mpr
  intro member
  have kept := (List.mem_filter.mp (List.mem_of_mem_take member)).2
  rw [unwanted] at kept
  cases kept

theorem count_take (permitted : Permits key rows order) :
    (order.take boundary).count row =
      ((order.filter fun other => key other = key row).take (boundary - above key rows (key row))).count row := by
  have higher : (order.filter fun other => key row < key other).length = above key rows (key row) := by
    rw [← List.countP_eq_length_filter]
    exact permitted.same.countP_eq _
  have none : ((order.filter fun other => key row < key other).take boundary).count row = 0 :=
    count_take_filter_ne (by simp) boundary
  have nothing : ∀ limit, ((order.filter fun other => key other < key row).take limit).count row = 0 :=
    count_take_filter_ne (by simp)
  conv_lhs => rw [sorted_split permitted.sorted (key row)]
  rw [List.take_append, List.take_append, List.count_append, List.count_append, higher, none, nothing, Nat.zero_add,
    Nat.add_zero]

omit [DecidableEq Row] in
theorem length_filter_tied (permitted : Permits key rows order) (bound : Key) :
    (order.filter fun other => key other = bound).length = tied key rows bound := by
  rw [← List.countP_eq_length_filter]
  exact permitted.same.countP_eq _

theorem count_take_uncut (permitted : Permits key rows order) (listed : row ∈ rows)
    (uncut : ¬ CutsTie key rows boundary) :
    (order.take boundary).count row =
      if boundary ≤ above key rows (key row) then 0
      else if above key rows (key row) + tied key rows (key row) ≤ boundary then rows.count row
      else boundary - above key rows (key row) := by
  rw [count_take permitted]
  have long := length_filter_tied permitted (key row)
  split
  · next before => rw [Nat.sub_eq_zero_of_le before, List.take_zero, List.count_nil]
  · next after =>
    split
    · next whole =>
      rw [List.take_of_length_le (by omega), ← permitted.same.count_eq]
      exact List.count_filter (p := fun other => decide (key other = key row)) (decide_eq_true rfl)
    · next inside =>
      -- the whole group is copies of the row
      have copies : ∀ other ∈ order.filter (fun other => key other = key row), other = row := by
        intro other member
        obtain ⟨stored, same⟩ := List.mem_filter.mp member
        by_contra differs
        exact uncut ⟨row, listed, other, permitted.same.mem_iff.mp stored, Ne.symm differs,
          (of_decide_eq_true same).symm, Nat.lt_of_not_le after, Nat.lt_of_not_le inside⟩
      rw [List.eq_replicate_of_mem copies, List.take_replicate, List.count_replicate_self, long]
      omega

theorem count_pages {size : Nat} {orders : Nat → List Row} (permitted : ∀ number, Permits key rows (orders number))
    (uncut : ∀ number, ¬ CutsTie key rows (number * size)) (listed : row ∈ rows) (count : Nat) :
    ((List.range count).flatMap fun index => offsetPage size (index + 1) (orders (index + 1))).count row =
      ((orders count).take (count * size)).count row := by
  induction count with
  | zero => rw [Nat.zero_mul, List.take_zero]; rfl
  | succ count ih =>
    have before : ((orders count).take (count * size)).count row =
        ((orders (count + 1)).take (count * size)).count row := by
      rw [count_take_uncut (permitted _) listed (uncut count), count_take_uncut (permitted _) listed (uncut count)]
    have extended : (orders (count + 1)).take ((count + 1) * size) =
        (orders (count + 1)).take (count * size) ++ offsetPage size (count + 1) (orders (count + 1)) := by
      rw [Nat.succ_mul, List.take_add]
      rfl
    rw [List.range_succ, List.flatMap_append, List.flatMap_singleton, List.count_append, ih, before, extended,
      List.count_append]

end Counted

section Rearranged

variable {key : Row → Key} {rows order : List Row} {row : Row}

theorem exists_permitted (key : Row → Key) (rows : List Row) : ∃ order, Permits key rows order := by
  refine ⟨rows.mergeSort fun first second => key second ≤ key first, List.mergeSort_perm _ _, ?_⟩
  have sorted := @List.pairwise_mergeSort Row (fun first second => key second ≤ key first)
    (fun first second third one two => decide_eq_true ((of_decide_eq_true two).trans (of_decide_eq_true one)))
    (fun first second => by simpa using le_total (key second) (key first)) rows
  exact sorted.imp of_decide_eq_true

theorem Permits.regroup (permitted : Permits key rows order) {bound : Key} {group : List Row}
    (moved : group.Perm (order.filter fun other => key other = bound)) :
    ∃ other, Permits key rows other ∧ (other.filter fun other => key other = bound) = group := by
  have tie : ∀ member ∈ group, key member = bound := by
    intro member listed
    exact of_decide_eq_true (List.mem_filter.mp (moved.mem_iff.mp listed)).2
  refine ⟨(order.filter fun row => bound < key row) ++ (group ++ order.filter fun row => key row < bound), ⟨?_, ?_⟩, ?_⟩
  · apply List.Perm.trans _ permitted.same
    conv_rhs => rw [sorted_split permitted.sorted bound]
    exact (moved.append_right _).append_left _
  · have grouped : group.Pairwise fun first second => key second ≤ key first := by
      apply List.pairwise_of_forall_mem_list
      intro first listed second other
      rw [tie first listed, tie second other]
    have lower : ∀ first ∈ group, ∀ second ∈ order.filter (fun row => key row < bound), key second ≤ key first := by
      intro first listed second other
      rw [tie first listed]
      exact (of_decide_eq_true (List.mem_filter.mp other).2).le
    have higher : ∀ first ∈ order.filter (fun row => bound < key row),
        ∀ second ∈ group ++ order.filter (fun row => key row < bound), key second ≤ key first := by
      intro first listed second other
      have beyond : bound < key first := of_decide_eq_true (List.mem_filter.mp listed).2
      rcases List.mem_append.mp other with inside | below
      · rw [tie second inside]
        exact beyond.le
      · exact (of_decide_eq_true (List.mem_filter.mp below).2).le.trans beyond.le
    exact List.pairwise_append.mpr ⟨permitted.sorted.filter _,
      List.pairwise_append.mpr ⟨grouped, permitted.sorted.filter _, lower⟩, higher⟩
  · have all : (group.filter fun other => key other = bound) = group := by
      apply List.filter_eq_self.mpr
      intro member listed
      exact decide_eq_true (tie member listed)
    have none : ((order.filter fun row => bound < key row).filter fun row => key row = bound) = [] :=
      filter_tied_of_ne fun row listed => (of_decide_eq_true (List.mem_filter.mp listed).2).ne'
    have nothing : ((order.filter fun row => key row < bound).filter fun row => key row = bound) = [] :=
      filter_tied_of_ne fun row listed => (of_decide_eq_true (List.mem_filter.mp listed).2).ne
    rw [List.filter_append, List.filter_append, all, none, nothing, List.nil_append, List.append_nil]

variable [DecidableEq Row]

theorem count_others (rows : List Row) (row : Row) (limit : Nat) :
    ((rows.filter fun other => !(other == row)).take limit).count row = 0 := by
  apply List.count_eq_zero.mpr
  intro member
  simpa using (List.mem_filter.mp (List.mem_of_mem_take member)).2

theorem count_group (permitted : Permits key rows order) (row : Row) :
    (order.filter fun other => key other = key row).count row = rows.count row := by
  rw [← permitted.same.count_eq]
  exact List.count_filter (p := fun other => decide (key other = key row)) (decide_eq_true rfl)

theorem exists_row_first (key : Row → Key) (rows : List Row) (row : Row) :
    ∃ order, Permits key rows order ∧ ∀ boundary, (order.take boundary).count row =
      min (boundary - above key rows (key row)) (rows.count row) := by
  obtain ⟨order, permitted⟩ := exists_permitted key rows
  obtain ⟨other, arranged, grouped⟩ := permitted.regroup (List.filter_append_perm (· == row) _)
  refine ⟨other, arranged, fun boundary => ?_⟩
  rw [count_take arranged, grouped, List.filter_beq, List.take_append, List.count_append, count_others,
    List.take_replicate, List.count_replicate_self, count_group permitted, Nat.add_zero]

theorem exists_row_last (key : Row → Key) (rows : List Row) (row : Row) :
    ∃ order, Permits key rows order ∧ ∀ boundary, (order.take boundary).count row =
      min (boundary - above key rows (key row) - (tied key rows (key row) - rows.count row)) (rows.count row) := by
  obtain ⟨order, permitted⟩ := exists_permitted key rows
  have split := List.filter_append_perm (· == row) (order.filter fun other => key other = key row)
  obtain ⟨other, arranged, grouped⟩ := permitted.regroup (List.perm_append_comm.trans split)
  refine ⟨other, arranged, fun boundary => ?_⟩
  have length := split.length_eq
  rw [List.length_append, List.filter_beq, List.length_replicate, count_group permitted,
    length_filter_tied permitted] at length
  rw [count_take arranged, grouped, List.filter_beq, List.take_append, List.count_append, count_others,
    List.take_replicate, List.count_replicate_self, count_group permitted, Nat.zero_add]
  omega

end Rearranged

section Partition

variable {key : Row → Key} {rows : List Row} {size : Nat}

theorem pages_same (order : List Row) (count : Nat) :
    ((List.range count).flatMap fun index => offsetPage size (index + 1) order) = order.take (count * size) := by
  induction count with
  | zero => rw [Nat.zero_mul, List.take_zero]; rfl
  | succ count ih =>
    rw [List.range_succ, List.flatMap_append, List.flatMap_singleton, ih, Nat.succ_mul, List.take_add]
    rfl

theorem pages_switched (first second : List Row) (number more : Nat) :
    ((List.range (number + more)).flatMap fun index =>
      offsetPage size (index + 1) (if index + 1 ≤ number then first else second)) =
      first.take (number * size) ++ (second.drop (number * size)).take (more * size) := by
  induction more with
  | zero =>
    rw [Nat.zero_mul, List.take_zero, List.append_nil, ← pages_same]
    apply List.flatMap_congr
    intro index member
    have early : index + 1 ≤ number := List.mem_range.mp member
    rw [if_pos early]
  | succ more ih =>
    rw [← Nat.add_assoc, List.range_succ, List.flatMap_append, List.flatMap_singleton, ih, if_neg (by omega),
      Nat.succ_mul more, List.take_add, ← List.append_assoc, List.drop_drop, ← Nat.add_mul]
    rfl

theorem count_lt_tied [DecidableEq Row] {row other : Row} (listed : other ∈ rows) (differs : row ≠ other)
    (same : key row = key other) : rows.count row < tied key rows (key row) := by
  have moved := List.perm_cons_erase listed
  have copies : (rows.erase other).count row ≤ tied key (rows.erase other) (key row) := by
    apply List.countP_mono_left
    intro copy _ equal
    rw [eq_of_beq equal]
    exact decide_eq_true rfl
  have counted : tied key rows (key row) = tied key (rows.erase other) (key row) + 1 := by
    rw [tied, moved.countP_eq]
    exact List.countP_cons_of_pos (decide_eq_true same.symm)
  rw [moved.count_eq, List.count_cons_of_ne differs.symm, counted]
  exact Nat.lt_succ_of_le copies

theorem not_partition_of_cut {number : Nat} (cut : CutsTie key rows (number * size)) :
    ¬ PagesPartition key rows size fun number sort => offsetPage size number (sort rows) := by
  classical
  intro partition
  obtain ⟨row, listed, other, otherListed, differs, same, after, before⟩ := cut
  obtain ⟨first, firstPermitted, firstCount⟩ := exists_row_first key rows row
  obtain ⟨last, lastPermitted, lastCount⟩ := exists_row_last key rows row
  have permitted : ∀ index, Permits key rows (if index ≤ number then first else last) := by
    intro index
    split
    · exact firstPermitted
    · exact lastPermitted
  have positive : 0 < size := by
    by_contra none
    rw [Nat.eq_zero_of_not_pos none, Nat.mul_zero] at after
    exact Nat.not_lt_zero _ after
  have covered : rows.length ≤ (number + rows.length) * size :=
    (Nat.le_add_left _ _).trans (Nat.le_mul_of_pos_right _ positive)
  have whole := (partition (fun index _ => if index ≤ number then first else last) permitted (number + rows.length)
    covered).count_eq row
  have rest : (last.drop (number * size)).take (rows.length * size) = last.drop (number * size) := by
    apply List.take_of_length_le
    rw [List.length_drop, lastPermitted.same.length_eq]
    exact (Nat.sub_le _ _).trans (Nat.le_mul_of_pos_right _ positive)
  rw [pages_switched, rest, List.count_append, firstCount] at whole
  have left : (last.take (number * size)).count row + (last.drop (number * size)).count row = rows.count row := by
    rw [← List.count_append, List.take_append_drop, lastPermitted.same.count_eq]
  rw [lastCount] at left
  have some_ : 0 < rows.count row := List.count_pos_iff.mpr listed
  have fewer := count_lt_tied otherListed differs same
  omega

/-- The pages are the rows, whatever the queries find, exactly if no page ends inside a group that differs. -/
theorem pages_partition_iff :
    (PagesPartition key rows size fun number sort => offsetPage size number (sort rows)) ↔
      ∀ number, ¬ CutsTie key rows (number * size) := by
  classical
  constructor
  · intro partition number cut
    exact not_partition_of_cut cut partition
  · intro uncut sorts permitted count covered
    apply List.perm_iff_count.mpr
    intro row
    by_cases listed : row ∈ rows
    · rw [@count_pages _ _ _ _ _ _ _ _ (fun number => sorts number rows) permitted uncut listed,
        List.take_of_length_le, (permitted count).same.count_eq]
      rw [(permitted count).same.length_eq]
      exact covered
    · have absent : row ∉ (List.range count).flatMap fun index =>
          offsetPage size (index + 1) (sorts (index + 1) rows) := by
        intro member
        obtain ⟨index, _, served⟩ := List.mem_flatMap.mp member
        exact listed ((permitted _).same.mem_iff.mp (List.mem_of_mem_drop (List.mem_of_mem_take served)))
      rw [List.count_eq_zero.mpr absent, List.count_eq_zero.mpr listed]

end Partition

end LocalCrm.Library
