import Mathlib.Data.List.Perm.Basic
import Mathlib.Data.PNat.Basic
import Mathlib.Logic.Function.Basic

/-! Rows grouped by a key, and keys taken in batches. -/

set_option autoImplicit false

namespace LocalCrm.Library

section Batches

variable {Item : Type}

/-- `slice(i, i + limit)` for `i` from 0 in steps of the limit. -/
def batches (limit : ℕ+) (items : List Item) : List (List Item) :=
  match items with
  | [] => []
  | item :: rest => (item :: rest).take limit :: batches limit ((item :: rest).drop limit)
termination_by items.length
decreasing_by
  rw [List.length_drop, List.length_cons]
  have positive : 0 < (limit : Nat) := limit.pos
  omega

theorem flatten_batches (limit : ℕ+) (items : List Item) : (batches limit items).flatten = items := by
  fun_induction batches with
  | case1 => rfl
  | case2 item rest ih => rw [List.flatten_cons, ih, List.take_append_drop]

end Batches

section Parts

variable {Row Key Entry : Type} [DecidableEq Key] {keyOf : Row → Key} {rows : List Row}

def groupBy (keyOf : Row → Key) (entry : Row → Entry) (rows : List Row) : Key → List Entry :=
  rows.foldl (fun groups row => Function.update groups (keyOf row) (groups (keyOf row) ++ [entry row])) fun _ => []

theorem groupBy_apply (entry : Row → Entry) (key : Key) :
    groupBy keyOf entry rows key = (rows.filter fun row => keyOf row = key).map entry := by
  have onto : ∀ groups : Key → List Entry, rows.foldl (fun groups row =>
      Function.update groups (keyOf row) (groups (keyOf row) ++ [entry row])) groups key =
        groups key ++ (rows.filter fun row => keyOf row = key).map entry := by
    induction rows with
    | nil => simp
    | cons row rest ih =>
      intro groups
      rw [List.foldl_cons, ih]
      by_cases same : keyOf row = key
      · subst same
        simp
      · simp [same, Function.update_of_ne (Ne.symm same)]
  exact onto _

theorem perm_filter_or {first second : Row → Bool} (apart : ∀ row ∈ rows, first row = true → second row = false) :
    (rows.filter first ++ rows.filter second).Perm (rows.filter fun row => first row || second row) := by
  induction rows with
  | nil => rfl
  | cons row rest ih =>
    have tail := ih fun other member => apart other (List.mem_cons_of_mem row member)
    cases one : first row with
    | true =>
      have two := apart row List.mem_cons_self one
      simpa [one, two] using tail
    | false =>
      cases two : second row with
      | true => simpa [one, two] using List.perm_middle.trans (tail.cons row)
      | false => simpa [one, two] using tail

theorem perm_flatMap_parts {parts : List (List Key)} (distinct : parts.flatten.Nodup) :
    (parts.flatMap fun part => rows.filter fun row => part.contains (keyOf row)).Perm
      (rows.filter fun row => parts.flatten.contains (keyOf row)) := by
  induction parts with
  | nil => simp
  | cons part rest ih =>
    obtain ⟨_, others, apart⟩ := List.nodup_append.mp distinct
    refine ((ih others).append_left _).trans ?_
    simp only [List.flatten_cons, List.contains_append]
    apply perm_filter_or
    intro row _ here
    rw [List.contains_eq_mem, decide_eq_true_eq] at here
    rw [List.contains_eq_mem, decide_eq_false_iff_not]
    intro elsewhere
    exact apart _ here _ elsewhere rfl

theorem perm_flatMap_groupBy {Parent : Type} {parents : List Parent} {idOf : Parent → Key} (entry : Row → Entry)
    (distinct : (parents.map idOf).Nodup) (owned : ∀ row ∈ rows, keyOf row ∈ parents.map idOf) :
    (parents.flatMap fun parent => groupBy keyOf entry rows (idOf parent)).Perm (rows.map entry) := by
  have singles : (parents.map fun parent => [idOf parent]).flatten = parents.map idOf := by
    rw [← List.flatMap_def, ← List.map_eq_flatMap]
  have whole : (parents.flatMap fun parent => rows.filter fun row => keyOf row = idOf parent).Perm rows := by
    have parted := @perm_flatMap_parts Row Key _ keyOf rows (parents.map fun parent => [idOf parent])
      (by rw [singles]; exact distinct)
    have all : (rows.filter fun row => (parents.map idOf).contains (keyOf row)) = rows := by
      apply List.filter_eq_self.mpr
      intro row member
      rw [List.contains_eq_mem, decide_eq_true_eq]
      exact owned row member
    rw [singles, all, List.flatMap_map] at parted
    simpa using parted
  have mapped := whole.map entry
  rw [List.map_flatMap] at mapped
  simpa only [groupBy_apply] using mapped

end Parts

end LocalCrm.Library
