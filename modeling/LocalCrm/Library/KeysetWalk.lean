import LocalCrm.Library.Keyset
import Mathlib.Order.RelIso.Basic

/-! A keyset walk over rows, from page to page until one is empty.

With a key for every row the walk lists each of them once, in order, whatever the size of its pages.
-/

set_option autoImplicit false

namespace LocalCrm.Library.Keyset

variable {Row Key : Type} [LinearOrder Key] (key : Row → Key) (rows : List Row)

def rowsAfter (cursor : Option Key) : List Row :=
  (rows.filter fun row => isAfter cursor (key row)).insertionSort fun left right => key left ≤ key right

/-- `WHERE key > cursor ORDER BY key LIMIT limit`. -/
def rowPage (limit : Nat) (cursor : Option Key) : List Row := (rowsAfter key rows cursor).take limit

section Rows

variable {key rows} {row last : Row} {limit : Nat} {cursor : Option Key}

theorem mem_rowsAfter : row ∈ rowsAfter key rows cursor ↔ row ∈ rows ∧ isAfter cursor (key row) = true := by
  rw [rowsAfter, List.mem_insertionSort, List.mem_filter]

theorem perm_rowsAfter : (rowsAfter key rows none).Perm rows := by
  have all : (rows.filter fun row => isAfter none (key row)) = rows := List.filter_eq_self.mpr fun _ _ => rfl
  rw [rowsAfter, all]
  exact List.perm_insertionSort _ rows

theorem isAfter_trans (after : isAfter cursor (key last) = true) (later : isAfter (some (key last)) (key row) = true) :
    isAfter cursor (key row) = true := by
  cases cursor with
  | none => rfl
  | some start => exact isAfter_some.mpr ((isAfter_some.mp after).trans (isAfter_some.mp later))

theorem length_rowsAfter_lt (member : last ∈ rowsAfter key rows cursor) :
    (rowsAfter key rows (some (key last))).length < (rowsAfter key rows cursor).length := by
  obtain ⟨inside, after⟩ := mem_rowsAfter.mp member
  have narrowed : (rows.filter fun row => isAfter (some (key last)) (key row)) =
      (rows.filter fun row => isAfter cursor (key row)).filter fun row => isAfter (some (key last)) (key row) := by
    rw [List.filter_filter]
    apply List.filter_congr
    intro row _
    by_cases later : isAfter (some (key last)) (key row) = true
    · rw [later, isAfter_trans after later, Bool.and_true]
    · rw [Bool.not_eq_true] at later
      rw [later, Bool.false_and]
  rw [rowsAfter, rowsAfter, List.length_insertionSort, List.length_insertionSort, narrowed,
    List.length_filter_lt_length_iff_exists]
  refine ⟨last, List.mem_filter.mpr ⟨inside, after⟩, ?_⟩
  rw [isAfter_some]
  exact lt_irrefl (key last)

theorem mem_rowsAfter_of_page (ends : (rowPage key rows limit cursor).getLast? = some last) :
    last ∈ rowsAfter key rows cursor := List.mem_of_mem_take (List.mem_of_getLast? ends)

theorem ascending_rowsAfter (distinct : (rows.map key).Nodup) :
    (rowsAfter key rows cursor).Pairwise fun left right => key left < key right := by
  have sorted := List.pairwise_insertionSort (fun left right : Row => key left ≤ key right)
    (rows.filter fun row => isAfter cursor (key row))
  have once : ((rowsAfter key rows cursor).map key).Nodup := by
    apply ((List.perm_insertionSort _ _).map key).nodup_iff.mpr
    exact distinct.sublist (List.filter_sublist.map key)
  apply List.Pairwise.imp₂ (fun _ _ le ne => lt_of_le_of_ne le ne) sorted
  exact List.pairwise_map.mp once

theorem nodup_of_ascending (ascending : rows.Pairwise fun left right => key left < key right) : rows.Nodup := by
  apply ascending.imp
  intro left right less same
  rw [same] at less
  exact lt_irrefl _ less

theorem rowsAfter_page (distinct : (rows.map key).Nodup)
    (ends : (rowPage key rows limit cursor).getLast? = some last) :
    rowPage key rows limit cursor ++ rowsAfter key rows (some (key last)) = rowsAfter key rows cursor := by
  have ascending : (rowsAfter key rows cursor).Pairwise fun left right => key left < key right :=
    ascending_rowsAfter distinct
  obtain ⟨before, whole⟩ := List.getLast?_eq_some_iff.mp ends
  have parts : before ++ ([last] ++ (rowsAfter key rows cursor).drop limit) = rowsAfter key rows cursor := by
    rw [← List.append_assoc, ← whole]
    exact List.take_append_drop limit _
  rw [← parts] at ascending
  obtain ⟨_, onward, earlier⟩ := List.pairwise_append.mp ascending
  obtain ⟨_, rest, later⟩ := List.pairwise_append.mp onward
  have left : rowsAfter key rows (some (key last)) = (rowsAfter key rows cursor).drop limit := by
    apply List.Perm.eq_of_pairwise _ (ascending_rowsAfter distinct) rest
    · apply (List.perm_ext_iff_of_nodup (nodup_of_ascending (ascending_rowsAfter distinct))
        (nodup_of_ascending rest)).mpr
      intro row
      constructor
      · intro member
        obtain ⟨inside, beyond⟩ := mem_rowsAfter.mp member
        have ahead : row ∈ before ++ ([last] ++ (rowsAfter key rows cursor).drop limit) := by
          rw [parts]
          exact mem_rowsAfter.mpr ⟨inside, isAfter_trans (mem_rowsAfter.mp (mem_rowsAfter_of_page ends)).2 beyond⟩
        -- the rows of the page are not behind its last one
        rcases List.mem_append.mp ahead with passed | onward
        · have less := earlier row passed last (List.mem_append_left _ (List.mem_singleton_self last))
          exact absurd less (lt_asymm (isAfter_some.mp beyond))
        · rcases List.mem_append.mp onward with same | dropped
          · rw [List.mem_singleton.mp same] at beyond
            exact absurd (isAfter_some.mp beyond) (lt_irrefl _)
          · exact dropped
      · intro dropped
        apply mem_rowsAfter.mpr
        exact ⟨(mem_rowsAfter.mp (List.mem_of_mem_drop dropped)).1,
          isAfter_some.mpr (later last (List.mem_singleton_self last) row dropped)⟩
    · intro left right _ _ less greater
      exact absurd less (lt_asymm greater)
  rw [left, rowPage, List.take_append_drop]

end Rows

/-- Pages are read and put together until one is empty. -/
def exhaust (limit : Nat) (cursor : Option Key) : List Row :=
  match _ends : (rowPage key rows limit cursor).getLast? with
  | none => []
  | some last => rowPage key rows limit cursor ++ exhaust limit (some (key last))
termination_by (rowsAfter key rows cursor).length
decreasing_by exact length_rowsAfter_lt (mem_rowsAfter_of_page ‹_›)

theorem exhaust_eq {limit : Nat} (positive : 0 < limit) (distinct : (rows.map key).Nodup) (cursor : Option Key) :
    exhaust key rows limit cursor = rowsAfter key rows cursor := by
  fun_induction exhaust with
  | case1 cursor ends =>
    cases List.take_eq_nil_iff.mp (List.getLast?_eq_none_iff.mp ends) with
    | inl none =>
      rw [none] at positive
      exact absurd positive (lt_irrefl 0)
    | inr none => exact none.symm
  | case2 cursor last ends ih =>
    rw [ih]
    exact rowsAfter_page distinct ends

theorem perm_exhaust {limit : Nat} (positive : 0 < limit) (distinct : (rows.map key).Nodup) :
    (exhaust key rows limit none).Perm rows := by
  rw [exhaust_eq key rows positive distinct]
  exact perm_rowsAfter

end LocalCrm.Library.Keyset
