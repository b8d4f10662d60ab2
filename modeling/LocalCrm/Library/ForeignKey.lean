import Mathlib.Data.List.Basic
import Mathlib.Logic.Function.Basic

/-! The row locks behind a foreign key that restricts deletion. -/

set_option autoImplicit false

namespace LocalCrm.Library

structure KeyLocks (Key : Type) where
  shares : List (Nat × Key) := []
  removing : Key → Option Nat := fun _ => none

inductive ReferenceCheck (Key : Type) where
  | violated
  | shared (locks : KeyLocks Key)

inductive Removal (Key : Type) where
  | absent
  | restricted
  | removed (locks : KeyLocks Key)

namespace KeyLocks

variable {Key : Type} [DecidableEq Key] (locks : KeyLocks Key)

/-- The check behind a statement that stores a reference; `none` while it waits. -/
def refer (present : Key → Bool) (thread : Nat) (key : Key) : Option (ReferenceCheck Key) :=
  match locks.removing key with
  | some _ => none
  | none => some (if present key then .shared { locks with shares := (thread, key) :: locks.shares } else .violated)

def remove (seen : Bool) (referenced : Key → Bool) (thread : Nat) (key : Key) : Option (Removal Key) :=
  if seen = false then some .absent
  else if (locks.removing key).isSome || locks.shares.any (·.2 == key) then none
  else if referenced key then some .restricted
  else some (.removed { locks with removing := Function.update locks.removing key (some thread) })

def release (thread : Nat) : KeyLocks Key := { locks with shares := locks.shares.filter (·.1 != thread) }

def settle (key : Key) : KeyLocks Key := { locks with removing := Function.update locks.removing key none }

/-- Committed references have a row, a row under deletion has none, and none that may still commit. -/
structure Guards (present referenced : Key → Bool) : Prop where
  referent : ∀ key, referenced key = true → present key = true
  shared : ∀ thread key, (thread, key) ∈ locks.shares → present key = true
  unreferenced : ∀ key, (locks.removing key).isSome → referenced key = false
  unshared : ∀ key thread, (locks.removing key).isSome → (thread, key) ∉ locks.shares

variable {locks} {present referenced : Key → Bool} {thread : Nat} {key : Key} {next : KeyLocks Key}

omit [DecidableEq Key] in
theorem guards_initial (none : ∀ key, referenced key = false) : ({} : KeyLocks Key).Guards present referenced where
  referent key refers := by
    rw [none key] at refers
    cases refers
  shared _ _ member := by cases member
  unreferenced _ removing := by cases removing
  unshared _ _ removing := by cases removing

omit [DecidableEq Key] in
theorem refer_shared (checked : locks.refer present thread key = some (.shared next)) :
    locks.removing key = none ∧ present key = true ∧ next = { locks with shares := (thread, key) :: locks.shares } := by
  unfold refer at checked
  split at checked
  · cases checked
  · next free =>
    split at checked
    · next there =>
      cases checked
      exact ⟨free, there, rfl⟩
    · cases checked

theorem remove_removed {seen : Bool} (done : locks.remove seen referenced thread key = some (.removed next)) :
    seen = true ∧ locks.removing key = none ∧ (∀ other, (other, key) ∉ locks.shares) ∧ referenced key = false ∧
      next = { locks with removing := Function.update locks.removing key (some thread) } := by
  unfold remove at done
  split at done
  · cases done
  · next there =>
    split at done
    · cases done
    · next quiet =>
      split at done
      · cases done
      · next unreferenced =>
        cases done
        rw [Bool.not_eq_true, Bool.or_eq_false_iff, Option.isSome_eq_false_iff, Option.isNone_iff_eq_none] at quiet
        refine ⟨Bool.not_eq_false _ |>.mp there, quiet.1, ?_, Bool.not_eq_true _ |>.mp unreferenced, rfl⟩
        intro other member
        have none := List.any_eq_false.mp quiet.2 (other, key) member
        exact none (beq_self_eq_true key)

theorem remove_absent {seen : Bool} (done : locks.remove seen referenced thread key = some .absent) : seen = false := by
  unfold remove at done
  split at done
  · assumption
  · split at done
    · cases done
    · split at done <;> cases done

omit [DecidableEq Key] in
theorem mem_release {other : Nat} :
    (other, key) ∈ (locks.release thread).shares ↔ (other, key) ∈ locks.shares ∧ other ≠ thread := by
  simp [release]

theorem removing_settle {gone : Key} :
    (locks.settle gone).removing key = if key = gone then none else locks.removing key := by
  simp only [settle, Function.update_apply]

namespace Guards

omit [DecidableEq Key] in
theorem refer (guards : locks.Guards present referenced)
    (checked : locks.refer present thread key = some (.shared next)) : next.Guards present referenced := by
  obtain ⟨free, there, rfl⟩ := refer_shared checked
  constructor
  · exact guards.referent
  · intro other wanted member
    rcases List.mem_cons.mp member with same | old
    · cases same
      exact there
    · exact guards.shared other wanted old
  · exact guards.unreferenced
  · intro wanted other removing member
    rcases List.mem_cons.mp member with same | old
    · cases same
      rw [free] at removing
      cases removing
    · exact guards.unshared wanted other removing old

theorem remove {seen : Bool} (guards : locks.Guards present referenced)
    (done : locks.remove seen referenced thread key = some (.removed next)) : next.Guards present referenced := by
  obtain ⟨_, _, unshared, unreferenced, rfl⟩ := remove_removed done
  constructor
  · exact guards.referent
  · exact guards.shared
  · intro wanted removing
    by_cases same : wanted = key
    · rw [same]
      exact unreferenced
    · simp only [Function.update_of_ne same] at removing
      exact guards.unreferenced wanted removing
  · intro wanted other removing
    by_cases same : wanted = key
    · rw [same]
      exact unshared other
    · simp only [Function.update_of_ne same] at removing
      exact guards.unshared wanted other removing

omit [DecidableEq Key] in
theorem commit {after : Key → Bool} (guards : locks.Guards present referenced)
    (stored : ∀ key, after key = true → referenced key = true ∨ (thread, key) ∈ locks.shares) :
    (locks.release thread).Guards present after := by
  constructor
  · intro wanted refers
    rcases stored wanted refers with old | shared
    · exact guards.referent wanted old
    · exact guards.shared thread wanted shared
  · intro other wanted member
    exact guards.shared other wanted (mem_release.mp member).1
  · intro wanted removing
    rw [← Bool.not_eq_true]
    intro refers
    rcases stored wanted refers with old | shared
    · rw [guards.unreferenced wanted removing] at old
      cases old
    · exact guards.unshared wanted thread removing shared
  · intro wanted other removing member
    exact guards.unshared wanted other removing (mem_release.mp member).1

omit [DecidableEq Key] in
theorem rollback (guards : locks.Guards present referenced) : (locks.release thread).Guards present referenced :=
  guards.commit fun _ refers => .inl refers

theorem settle {after : Key → Bool} (guards : locks.Guards present referenced) (removing : (locks.removing key).isSome)
    (kept : ∀ other, other ≠ key → after other = present other) : (locks.settle key).Guards after referenced := by
  constructor
  · intro wanted refers
    by_cases same : wanted = key
    · rw [same, guards.unreferenced key removing] at refers
      cases refers
    · rw [kept wanted same]
      exact guards.referent wanted refers
  · intro other wanted member
    by_cases same : wanted = key
    · subst same
      exact absurd member (guards.unshared wanted other removing)
    · rw [kept wanted same]
      exact guards.shared other wanted member
  · intro wanted taken
    rw [removing_settle] at taken
    split at taken
    · cases taken
    · exact guards.unreferenced wanted taken
  · intro wanted other taken
    rw [removing_settle] at taken
    split at taken
    · cases taken
    · exact guards.unshared wanted other taken

end Guards

end KeyLocks

end LocalCrm.Library
