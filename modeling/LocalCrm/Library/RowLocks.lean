import Mathlib.Logic.Function.Basic

/-! Exclusive row locks, held until the transaction ends. -/

set_option autoImplicit false

namespace LocalCrm.Library.RowLocks

variable {Key : Type} [DecidableEq Key]

/-- `none` while another transaction holds the row. -/
def acquire (lockedBy : Key → Option Nat) (thread : Nat) (key : Key) : Option (Key → Option Nat) :=
  if (lockedBy key).all (· == thread) then some (Function.update lockedBy key (some thread)) else none

/-- The end of a transaction. -/
def releaseAll (lockedBy : Key → Option Nat) (thread : Nat) : Key → Option Nat :=
  fun key => (lockedBy key).filter (· != thread)

variable {lockedBy next : Key → Option Nat} {thread other : Nat} {key held : Key}

theorem acquire_some : acquire lockedBy thread key = some next ↔
    (∀ holder, lockedBy key = some holder → holder = thread) ∧ Function.update lockedBy key (some thread) = next := by
  simp only [acquire, Option.ite_none_right_eq_some, Option.some.injEq, Option.all_eq_true, beq_iff_eq]

theorem acquire_holds (acquired : acquire lockedBy thread key = some next) : next key = some thread := by
  obtain ⟨_, rfl⟩ := acquire_some.mp acquired
  exact Function.update_self key (some thread) lockedBy

theorem acquire_keeps (acquired : acquire lockedBy thread key = some next) (holds : lockedBy held = some other) :
    next held = some other := by
  obtain ⟨free, rfl⟩ := acquire_some.mp acquired
  by_cases same : held = key
  · subst same
    rw [free other holds, Function.update_self]
  · rw [Function.update_of_ne same]
    exact holds

omit [DecidableEq Key] in
theorem releaseAll_keeps (differs : other ≠ thread) (holds : lockedBy held = some other) :
    releaseAll lockedBy thread held = some other := by
  rw [releaseAll, holds, Option.filter_some, bne_iff_ne.mpr differs]
  rfl

end LocalCrm.Library.RowLocks
