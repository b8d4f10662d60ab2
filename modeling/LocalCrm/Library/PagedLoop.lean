import LocalCrm.Library.KeysetWalk

/-! A keyset walk that acts on the rows of one page before it reads the next.

A later page is read from a store that the rows of the earlier ones have changed.
-/

set_option autoImplicit false

namespace LocalCrm.Library.Keyset

variable {State Row Key : Type} [LinearOrder Key] {key : Row → Key}

/-- The wanted rows of a store, and what is done on each; the keys stay. -/
structure PagedLoop (State Row : Type) {Key : Type} (key : Row → Key) where
  rows : State → List Row
  wanted : Row → Bool
  act : State → Row → State
  keeps : ∀ state row, (rows (act state row)).map key = (rows state).map key

namespace PagedLoop

variable (loop : PagedLoop State Row key)

def page (limit : Nat) (cursor : Option Key) (state : State) : List Row :=
  rowPage key ((loop.rows state).filter loop.wanted) limit cursor

omit [LinearOrder Key] in
theorem keys_foldl (rows : List Row) (state : State) :
    (loop.rows (rows.foldl loop.act state)).map key = (loop.rows state).map key := by
  induction rows generalizing state with
  | nil => rfl
  | cons row rest ih => exact (ih (loop.act state row)).trans (loop.keeps state row)

theorem mem_keys_of_page {limit : Nat} {cursor : Option Key} {state : State} {last : Row}
    (ends : (loop.page limit cursor state).getLast? = some last) :
    key last ∈ rowsAfter id ((loop.rows state).map key) cursor := by
  obtain ⟨member, after⟩ := mem_rowsAfter.mp (mem_rowsAfter_of_page ends)
  exact mem_rowsAfter.mpr ⟨List.mem_map_of_mem (List.mem_filter.mp member).1, after⟩

/-- Pages are read and acted on until one is empty. -/
def walk (limit : Nat) (cursor : Option Key) (state : State) : State :=
  match _ends : (loop.page limit cursor state).getLast? with
  | none => state
  | some last => walk limit (some (key last)) ((loop.page limit cursor state).foldl loop.act state)
termination_by (rowsAfter id ((loop.rows state).map key) cursor).length
decreasing_by
  rw [loop.keys_foldl]
  exact length_rowsAfter_lt (loop.mem_keys_of_page ‹_›)

/-- Acting on a row leaves those behind it as they are. -/
def Spares : Prop :=
  ∀ state row, (loop.rows (loop.act state row)).filter (fun other => key row < key other) =
    (loop.rows state).filter fun other => key row < key other

section Spares

variable {loop} {limit : Nat} {state : State} {row last : Row}

end Spares

end PagedLoop

end LocalCrm.Library.Keyset
