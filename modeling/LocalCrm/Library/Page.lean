import Mathlib.Data.List.Count

/-! A page of rows that is filtered after it was read.

Rows that nobody wants take up places of the page.
-/

set_option autoImplicit false

namespace LocalCrm.Library

section Page

variable {Row : Type} {wanted : Row → Bool} {limit : Nat} {rows : List Row}

def ServesPage (wanted : Row → Bool) (limit : Nat) (rows : List Row) : Prop :=
  (∀ row ∈ rows.take limit, wanted row = true) ∨ ∀ row ∈ rows.drop limit, wanted row = false

instance : Decidable (ServesPage wanted limit rows) := inferInstanceAs (Decidable (_ ∨ _))

theorem countP_page_le : (rows.take limit).countP wanted ≤ min limit (rows.countP wanted) := by
  apply Nat.le_min.mpr
  constructor
  · exact Nat.le_trans List.countP_le_length (List.length_take_le limit rows)
  · exact (List.take_sublist limit rows).countP_le

theorem countP_page_add : rows.countP wanted = (rows.take limit).countP wanted + (rows.drop limit).countP wanted := by
  rw [← List.countP_append, List.take_append_drop]

theorem drop_of_short (short : (rows.take limit).length < limit) : rows.drop limit = [] := by
  rw [List.length_take] at short
  exact List.drop_eq_nil_of_le (by omega)

theorem countP_page_iff : (rows.take limit).countP wanted = min limit (rows.countP wanted) ↔
    ServesPage wanted limit rows := by
  have split := @countP_page_add Row wanted limit rows
  constructor
  · intro full
    by_cases behind : (rows.drop limit).countP wanted = 0
    · right
      intro row member
      exact Bool.eq_false_iff.mpr (List.countP_eq_zero.mp behind row member)
    · -- something is left behind, so the page is as long as its limit and all of it counts
      left
      have counted : (rows.take limit).countP wanted = (rows.take limit).length := by
        have most : (rows.take limit).countP wanted ≤ (rows.take limit).length := List.countP_le_length
        have bounded := List.length_take_le limit rows
        omega
      exact List.countP_eq_length.mp counted
  · rintro (all | none)
    · -- a page of wanted rows serves as many as it holds, and a short one holds them all
      have counted := List.countP_eq_length.mpr all
      by_cases short : (rows.take limit).length < limit
      · rw [drop_of_short short, List.countP_nil] at split
        omega
      · have bounded := List.length_take_le limit rows
        omega
    · have nothing : (rows.drop limit).countP wanted = 0 := by
        apply List.countP_eq_zero.mpr
        intro row member
        rw [none row member]
        exact Bool.false_ne_true
      have bounded := @countP_page_le Row wanted limit rows
      omega

end Page

end LocalCrm.Library
