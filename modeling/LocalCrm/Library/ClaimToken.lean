import LocalCrm.Library.Transition
import Mathlib.Logic.Function.Basic

/-! A claim under which at most one doubtful call is ever made. -/

set_option autoImplicit false

namespace LocalCrm.Library.ClaimToken

inductive Entry where
  | free
  | claimed
  | closed
  deriving DecidableEq, Repr

inductive Phase where
  | holding
  | calling
  | rejected
  deriving DecidableEq, Repr

@[ext]
structure State (Actor : Type) where
  entry : Entry
  phase : Actor → Option Phase
  doubtful : Nat

inductive Action (Actor : Type) where
  | claim (actor : Actor)
  | call (actor : Actor)
  | reject (actor : Actor)
  | accept (actor : Actor)
  | release (actor : Actor)
  | leave (actor : Actor)
  | close

variable {Actor : Type} [DecidableEq Actor]

def Entry.released : Entry → Entry
  | .claimed => .free
  | .free => .free
  | .closed => .closed

def State.moved (state : State Actor) (actor : Actor) (phase : Option Phase) : State Actor :=
  { state with phase := Function.update state.phase actor phase }

def act (state : State Actor) : Action Actor → Option (State Actor)
  | .claim actor =>
    if state.entry = .free then some { state.moved actor (some .holding) with entry := .claimed } else none
  | .call actor =>
    if state.phase actor = some .holding then
      some { state.moved actor (some .calling) with doubtful := state.doubtful + 1 }
    else none
  | .reject actor =>
    if state.phase actor = some .calling then
      some { state.moved actor (some .rejected) with doubtful := state.doubtful - 1 }
    else none
  | .accept actor => if state.phase actor = some .calling then some (state.moved actor none) else none
  | .release actor =>
    if state.phase actor = some .holding ∨ state.phase actor = some .rejected then
      some { state.moved actor none with entry := state.entry.released }
    else none
  | .leave actor => some (state.moved actor none)
  | .close => some { state with entry := .closed }

/-- One holder at most, who owns the entry, and no doubt beside a claim that may be given back. -/
structure Safe (state : State Actor) : Prop where
  alone : ∀ first second, (state.phase first).isSome → (state.phase second).isSome → first = second
  owned : ∀ actor, (state.phase actor).isSome → state.entry ≠ .free
  certain : ∀ actor, state.phase actor = some .holding ∨ state.phase actor = some .rejected → state.doubtful = 0
  untouched : state.entry = .free → state.doubtful = 0
  once : state.doubtful ≤ 1

omit [DecidableEq Actor] in
theorem safe_idle (entry : Entry) : Safe ({ entry, phase := fun _ => none, doubtful := 0 } : State Actor) where
  alone := by
    intro first second active
    cases active
  owned := by
    intro actor active
    cases active
  certain := by
    intro _ _
    rfl
  untouched := by
    intro _
    rfl
  once := Nat.zero_le 1

variable {state : State Actor} {phase : Option Phase}

theorem phase_moved_of_ne {actor other : Actor}
    (differs : other ≠ actor) : (state.moved actor phase).phase other = state.phase other :=
  Function.update_of_ne differs _ _

@[simp] theorem phase_moved_self (state : State Actor) (actor : Actor) (phase : Option Phase) :
    (state.moved actor phase).phase actor = phase := Function.update_self _ _ _

theorem active_moved {actor other : Actor}
    (active : ((state.moved actor phase).phase other).isSome) : other = actor ∨ (state.phase other).isSome := by
  by_cases same : other = actor
  · exact .inl same
  · rw [phase_moved_of_ne same] at active
    exact .inr active

theorem alone_moved {actor : Actor}
    (only : ∀ other, (state.phase other).isSome → other = actor) (first second : Actor)
    (firstActive : ((state.moved actor phase).phase first).isSome)
    (secondActive : ((state.moved actor phase).phase second).isSome) : first = second := by
  have unique : ∀ other, ((state.moved actor phase).phase other).isSome → other = actor := by
    intro other active
    rcases active_moved active with same | before
    · exact same
    · exact only other before
  exact (unique first firstActive).trans (unique second secondActive).symm

theorem idle_of_left {actor : Actor}
    (only : ∀ other, (state.phase other).isSome → other = actor) (other : Actor) :
    (state.moved actor none).phase other = none := by
  by_cases same : other = actor
  · rw [same, phase_moved_self]
  · rw [phase_moved_of_ne same]
    have inactive : ¬ (state.phase other).isSome := fun active => same (only other active)
    simpa using inactive

theorem safe_act {next : State Actor} {action : Action Actor} (safe : Safe state)
    (acted : act state action = some next) : Safe next := by
  cases action with
  | claim actor =>
    simp only [act, Option.ite_none_right_eq_some, Option.some.injEq] at acted
    obtain ⟨free, rfl⟩ := acted
    -- nobody is active on a free token
    have none_active : ∀ other, (state.phase other).isSome → other = actor := fun other active =>
      absurd free (safe.owned other active)
    have certain := safe.untouched free
    exact {
      alone := alone_moved none_active
      owned := by simp
      certain := fun _ _ => certain
      untouched := by simp
      once := by
        change state.doubtful ≤ 1
        omega }
  | call actor =>
    simp only [act, Option.ite_none_right_eq_some, Option.some.injEq] at acted
    obtain ⟨holding, rfl⟩ := acted
    have active : (state.phase actor).isSome := by rw [holding]; rfl
    have only : ∀ other, (state.phase other).isSome → other = actor := fun other present =>
      safe.alone other actor present active
    have certain := safe.certain actor (.inl holding)
    exact {
      alone := alone_moved only
      owned := fun _ _ => safe.owned actor active
      certain := by
        intro other waiting
        by_cases same : other = actor
        · subst same
          simp at waiting
        · have idle := mt (only other) same
          simp only [phase_moved_of_ne same] at waiting
          rcases waiting with waiting | waiting <;> simp [waiting] at idle
      untouched := fun free => absurd free (safe.owned actor active)
      once := by
        change state.doubtful + 1 ≤ 1
        omega }
  | reject actor =>
    simp only [act, Option.ite_none_right_eq_some, Option.some.injEq] at acted
    obtain ⟨calling, rfl⟩ := acted
    have active : (state.phase actor).isSome := by rw [calling]; rfl
    have only : ∀ other, (state.phase other).isSome → other = actor := fun other present =>
      safe.alone other actor present active
    have once := safe.once
    -- the one doubtful call was this one
    have gone : state.doubtful - 1 = 0 := by omega
    exact {
      alone := alone_moved only
      owned := fun _ _ => safe.owned actor active
      certain := fun _ _ => gone
      untouched := fun _ => gone
      once := by
        change state.doubtful - 1 ≤ 1
        omega }
  | accept actor =>
    simp only [act, Option.ite_none_right_eq_some, Option.some.injEq] at acted
    obtain ⟨calling, rfl⟩ := acted
    have active : (state.phase actor).isSome := by rw [calling]; rfl
    have idle := idle_of_left fun other present => safe.alone other actor present active
    exact {
      alone := by simp [idle]
      owned := by simp [idle]
      certain := by simp [idle]
      untouched := fun free => absurd free (safe.owned actor active)
      once := safe.once }
  | release actor =>
    simp only [act, Option.ite_none_right_eq_some, Option.some.injEq] at acted
    obtain ⟨revocable, rfl⟩ := acted
    have active : (state.phase actor).isSome := by
      rcases revocable with phase | phase <;> rw [phase] <;> rfl
    have idle := idle_of_left fun other present => safe.alone other actor present active
    exact {
      alone := by simp [idle]
      owned := by simp [idle]
      certain := by simp [idle]
      untouched := fun _ => safe.certain actor revocable
      once := safe.once }
  | leave actor =>
    simp only [act, Option.some.injEq] at acted
    subst acted
    have before : ∀ other, ((state.moved actor none).phase other).isSome → (state.phase other).isSome := by
      intro other active
      by_cases same : other = actor
      · rw [same, phase_moved_self] at active
        cases active
      · rwa [phase_moved_of_ne same] at active
    exact {
      alone := fun first second one two => safe.alone first second (before first one) (before second two)
      owned := fun other active => safe.owned other (before other active)
      certain := by
        intro other waiting
        by_cases same : other = actor
        · simp [same] at waiting
        · rw [phase_moved_of_ne same] at waiting
          exact safe.certain other waiting
      untouched := safe.untouched
      once := safe.once }
  | close =>
    simp only [act, Option.some.injEq] at acted
    subst acted
    exact {
      alone := safe.alone
      owned := by simp
      certain := safe.certain
      untouched := by simp
      once := safe.once }

theorem doubtful_le_one {final : State Actor} {actions : List (Action Actor)} (safe : Safe state)
    (ran : run act state actions = some final) : final.doubtful ≤ 1 :=
  (invariant_of_every_run (fun _ _ _ kept acted => safe_act kept acted) safe ran).once

end LocalCrm.Library.ClaimToken
