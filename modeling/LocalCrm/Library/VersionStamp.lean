import LocalCrm.Library.Transition

/-! Rows that carry a version stamp, and what a reader may conclude from it.

Every change raises the stamp, so a stamp that stands vouches for the whole row.
-/

set_option autoImplicit false

namespace LocalCrm.Library

def Visited {State Label : Type} (step : State → Label → Option State) (start : State) (trace : List Label)
    (state : State) : Prop :=
  ∃ past, past <+: trace ∧ run step start past = some state

theorem Visited.comparable {State Label : Type} {step : State → Label → Option State} {start one other : State}
    {trace : List Label} (first : Visited step start trace one) (second : Visited step start trace other) :
    (∃ between, run step one between = some other) ∨ ∃ between, run step other between = some one := by
  obtain ⟨past, before, reached⟩ := first
  obtain ⟨otherPast, otherBefore, otherReached⟩ := second
  rcases List.prefix_or_prefix_of_prefix before otherBefore with earlier | later
  · obtain ⟨between, rfl⟩ := earlier
    obtain ⟨middle, there, onward⟩ := run_append.mp otherReached
    rw [reached] at there
    cases there
    exact .inl ⟨between, onward⟩
  · obtain ⟨between, rfl⟩ := later
    obtain ⟨middle, there, onward⟩ := run_append.mp reached
    rw [otherReached] at there
    cases there
    exact .inr ⟨between, onward⟩

variable {State Label Row : Type} {stamp : Row → Nat}

structure Follows (stamp : Row → Nat) (earlier later : Row) : Prop where
  rises : stamp earlier ≤ stamp later
  stands : stamp earlier = stamp later → later = earlier

namespace Follows

variable {first second third : Row}

protected theorem refl (row : Row) : Follows stamp row row := ⟨Nat.le_refl _, fun _ => rfl⟩

protected theorem trans (earlier : Follows stamp first second) (later : Follows stamp second third) :
    Follows stamp first third where
  rises := Nat.le_trans earlier.rises later.rises
  stands := by
    intro same
    have raised := earlier.rises
    have raisedAgain := later.rises
    rw [later.stands (by omega), earlier.stands (by omega)]

theorem of_raised (raised : stamp first < stamp second) : Follows stamp first second where
  rises := Nat.le_of_lt raised
  stands := fun same => absurd same (Nat.ne_of_lt raised)

theorem current {token : Nat} (known : token ≤ stamp first) (later : Follows stamp first second)
    (found : stamp second = token) : second = first := by
  have raised := later.rises
  exact later.stands (by omega)

end Follows

def Carries (stamp : Row → Nat) (view : State → Option Row) (state next : State) : Prop :=
  ∀ row, view state = some row → ∃ later, view next = some later ∧ Follows stamp row later

variable {step : State → Label → Option State} {view : State → Option Row}

theorem carries_of_eq {state next : State} (same : view next = view state) : Carries stamp view state next := by
  intro row stored
  exact ⟨row, same.trans stored, .refl row⟩

theorem carries_of_run
    (each : ∀ state label next, step state label = some next → Carries stamp view state next)
    {state final : State} {trace : List Label} (ran : run step state trace = some final) :
    Carries stamp view state final := by
  induction trace generalizing state with
  | nil =>
    cases ran
    exact carries_of_eq rfl
  | cons label rest ih =>
    obtain ⟨next, taken, remaining⟩ := run_cons.mp ran
    intro row stored
    obtain ⟨middle, kept, follows⟩ := each state label next taken row stored
    obtain ⟨last, present, onward⟩ := ih remaining middle kept
    exact ⟨last, present, follows.trans onward⟩

theorem eq_of_stamp
    (each : ∀ state label next, step state label = some next → Carries stamp view state next)
    {start one other : State} {trace : List Label} (first : Visited step start trace one)
    (second : Visited step start trace other) {row found : Row} (stored : view one = some row)
    (present : view other = some found) (same : stamp row = stamp found) : row = found := by
  rcases first.comparable second with ⟨between, onward⟩ | ⟨between, onward⟩
  · obtain ⟨later, there, follows⟩ := carries_of_run each onward row stored
    rw [present] at there
    cases there
    exact (follows.stands same).symm
  · obtain ⟨later, there, follows⟩ := carries_of_run each onward found present
    rw [stored] at there
    cases there
    exact follows.stands same.symm

end LocalCrm.Library
