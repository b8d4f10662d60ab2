import LocalCrm.Library.Table

/-! What a view shows of a table's rows, and the writes that do not change it. -/

set_option autoImplicit false

namespace LocalCrm.Library.Table

variable {Key Row Shown : Type} [DecidableEq Key] {key : Row → Key} {table : Table key} {wanted : Key} {row : Row}
  {view : Row → Option Shown}

def shown (table : Table key) (view : Row → Option Shown) (wanted : Key) : Option Shown :=
  (table.find? wanted).bind view

theorem shown_update {guard : Row → Bool} {set : Row → Row} {keeps : ∀ row, key (set row) = key row}
    (unseen : ∀ row ∈ table.rows, guard row = true → view (set row) = view row) :
    (table.update guard set keeps).shown view wanted = table.shown view wanted := by
  rw [shown, find?_update, shown]
  cases found : table.find? wanted with
  | none => rfl
  | some row =>
    by_cases chosen : guard row = true
    · rw [Option.map_some, if_pos chosen, Option.bind_some, Option.bind_some]
      exact unseen row (mem_of_find? found) chosen
    · rw [Option.map_some, if_neg chosen]

theorem shown_delete {guard : Row → Bool} (unseen : ∀ row ∈ table.rows, guard row = true → view row = none) :
    (table.delete guard).shown view wanted = table.shown view wanted := by
  rw [shown, find?_delete, shown]
  cases found : table.find? wanted with
  | none => rfl
  | some row =>
    cases chosen : guard row with
    | true => simp [Option.filter, chosen, unseen row (mem_of_find? found) chosen]
    | false => simp [Option.filter, chosen]

theorem shown_insert (unseen : view row = none) : (table.insert row).shown view wanted = table.shown view wanted := by
  rw [shown, find?_insert, shown]
  cases table.find? wanted with
  | none => by_cases same : key row = wanted <;> simp [same, unseen]
  | some found => rfl

theorem mem_iff_find? : row ∈ table.rows ↔ table.find? (key row) = some row := by
  rw [find?_iff]
  exact (and_iff_left rfl).symm

theorem mem_insert_of_fresh {other : Row} (fresh : table.find? (key row) = none) :
    other ∈ (table.insert row).rows ↔ other ∈ table.rows ∨ other = row := by
  rw [insert, dif_neg (find?_none.mp fresh), List.mem_append, List.mem_singleton]

section Keys

omit [DecidableEq Key]

variable {guard : Row → Bool} {set : Row → Row} {keeps : ∀ row, key (set row) = key row}

theorem keys_update : (table.update guard set keeps).rows.map key = table.rows.map key := by
  rw [update, List.map_map]
  apply List.map_congr_left
  intro row _
  rw [Function.comp_apply]
  split
  · exact keeps row
  · rfl

end Keys

end LocalCrm.Library.Table
