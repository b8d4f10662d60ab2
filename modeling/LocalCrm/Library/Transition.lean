import Mathlib.Data.List.Basic
import Mathlib.Data.List.Induction

/-! Runs of partial labelled transition functions.

A label that is not enabled in a state has no successor.
-/

set_option autoImplicit false

namespace LocalCrm.Library

variable {State Label : Type}

/-- Take the labels in order; `none` as soon as one of them is not enabled. -/
def run (step : State → Label → Option State) : State → List Label → Option State
  | state, [] => some state
  | state, label :: rest => (step state label).bind fun next => run step next rest

/-- Every step taken along the trace meets the condition. -/
def Along (step : State → Label → Option State) (condition : State → Label → State → Prop) :
    State → List Label → Prop
  | _, [] => True
  | state, label :: rest => ∀ next, step state label = some next →
      condition state label next ∧ Along step condition next rest

def totalAlong (step : State → Label → Option State) (weight : State → Label → State → Nat) :
    State → List Label → Nat
  | _, [] => 0
  | state, label :: rest =>
    match step state label with
    | none => 0
    | some next => weight state label next + totalAlong step weight next rest

variable {step : State → Label → Option State}

@[simp] theorem run_nil (state : State) : run step state [] = some state := rfl

theorem run_cons {state final : State} {label : Label} {rest : List Label} :
    run step state (label :: rest) = some final ↔
      ∃ next, step state label = some next ∧ run step next rest = some final := by
  simp only [run, Option.bind_eq_some_iff]

theorem run_append {state final : State} {first second : List Label} :
    run step state (first ++ second) = some final ↔
      ∃ middle, run step state first = some middle ∧ run step middle second = some final := by
  induction first generalizing state with
  | nil => simp
  | cons label rest ih =>
    simp only [List.cons_append, run_cons, ih]
    constructor
    · rintro ⟨next, taken, middle, reached, finished⟩
      exact ⟨middle, ⟨next, taken, reached⟩, finished⟩
    · rintro ⟨middle, ⟨next, taken, reached⟩, finished⟩
      exact ⟨next, taken, middle, reached, finished⟩

theorem run_total {act : State → Label → State} (state : State) (trace : List Label) :
    run (fun state label => some (act state label)) state trace = some (trace.foldl act state) := by
  induction trace generalizing state with
  | nil => rfl
  | cons label rest ih => exact ih (act state label)

theorem along_last {condition : State → Label → State → Prop} {state middle final : State} {trace : List Label}
    {label : Label} (along : Along step condition state (trace ++ [label])) (ran : run step state trace = some middle)
    (taken : step middle label = some final) : condition middle label final := by
  induction trace generalizing state with
  | nil =>
    cases ran
    exact (along final taken).1
  | cons first rest ih =>
    obtain ⟨next, stepped, remaining⟩ := run_cons.mp ran
    exact ih (along next stepped).2 remaining

theorem along_of_labels {condition : State → Label → State → Prop} {trace : List Label}
    (conform : ∀ label ∈ trace, ∀ state next, condition state label next) (state : State) :
    Along step condition state trace := by
  induction trace generalizing state with
  | nil => trivial
  | cons label rest ih =>
    intro next _
    exact ⟨conform label List.mem_cons_self state next,
      ih (fun later member => conform later (List.mem_cons_of_mem _ member)) next⟩

theorem along_append {condition : State → Label → State → Prop} {state : State} {first second : List Label}
    (before : Along step condition state first)
    (onward : ∀ middle, run step state first = some middle → Along step condition middle second) :
    Along step condition state (first ++ second) := by
  induction first generalizing state with
  | nil => exact onward state rfl
  | cons label rest ih =>
    intro next taken
    obtain ⟨met, remaining⟩ := before next taken
    exact ⟨met, ih remaining fun middle ran => onward middle (run_cons.mpr ⟨next, taken, ran⟩)⟩

theorem along_of_append {condition : State → Label → State → Prop} {state : State} {first second : List Label}
    (along : Along step condition state (first ++ second)) : Along step condition state first := by
  induction first generalizing state with
  | nil => trivial
  | cons label rest ih =>
    intro next taken
    exact ⟨(along next taken).1, ih (along next taken).2⟩

theorem along_after {condition : State → Label → State → Prop} {state middle : State} {first second : List Label}
    (along : Along step condition state (first ++ second)) (ran : run step state first = some middle) :
    Along step condition middle second := by
  induction first generalizing state with
  | nil =>
    cases ran
    exact along
  | cons label rest ih =>
    obtain ⟨next, taken, remaining⟩ := run_cons.mp ran
    exact ih (along next taken).2 remaining

theorem along_and {first second : State → Label → State → Prop} {state : State} {trace : List Label}
    (along : Along step first state trace) (other : Along step second state trace) :
    Along step (fun state label next => first state label next ∧ second state label next) state trace := by
  induction trace generalizing state with
  | nil => trivial
  | cons label rest ih =>
    intro next taken
    exact ⟨⟨(along next taken).1, (other next taken).1⟩, ih (along next taken).2 (other next taken).2⟩

theorem along_mono {first second : State → Label → State → Prop}
    (weaker : ∀ state label next, first state label next → second state label next) {state : State}
    {trace : List Label} (along : Along step first state trace) : Along step second state trace := by
  induction trace generalizing state with
  | nil => trivial
  | cons label rest ih =>
    intro next taken
    obtain ⟨met, onward⟩ := along next taken
    exact ⟨weaker state label next met, ih onward⟩

def checkAlong (step : State → Label → Option State) (check : State → Label → Bool) : State → List Label → Bool
  | _, [] => true
  | state, label :: rest =>
    match step state label with
    | none => true
    | some next => check state label && checkAlong step check next rest

theorem along_of_check {check : State → Label → Bool} {state : State} {trace : List Label}
    (checked : checkAlong step check state trace = true) :
    Along step (fun state label _ => check state label = true) state trace := by
  induction trace generalizing state with
  | nil => trivial
  | cons label rest ih =>
    intro next taken
    simp only [checkAlong, taken, Bool.and_eq_true] at checked
    exact ⟨checked.1, ih checked.2⟩

def checkSteps (step : State → Label → Option State) (check : State → Label → State → Bool) : State → List Label → Bool
  | _, [] => true
  | state, label :: rest =>
    match step state label with
    | none => true
    | some next => check state label next && checkSteps step check next rest

theorem along_of_steps {check : State → Label → State → Bool} {state : State} {trace : List Label}
    (checked : checkSteps step check state trace = true) :
    Along step (fun state label next => check state label next = true) state trace := by
  induction trace generalizing state with
  | nil => trivial
  | cons label rest ih =>
    intro next taken
    simp only [checkSteps, taken, Bool.and_eq_true] at checked
    exact ⟨checked.1, ih checked.2⟩

section Invariants

variable {condition : State → Label → State → Prop} {invariant : State → Prop}

theorem invariant_of_run
    (preserved : ∀ state label next, invariant state → condition state label next →
      step state label = some next → invariant next)
    {state final : State} {trace : List Label} (holds : invariant state)
    (conforms : Along step condition state trace) (ran : run step state trace = some final) :
    invariant final := by
  induction trace generalizing state with
  | nil =>
    cases ran
    exact holds
  | cons label rest ih =>
    obtain ⟨next, taken, remaining⟩ := run_cons.mp ran
    obtain ⟨meets, onward⟩ := conforms next taken
    exact ih (preserved state label next holds meets taken) onward remaining

theorem invariant_of_every_run
    (preserved : ∀ state label next, invariant state → step state label = some next → invariant next)
    {state final : State} {trace : List Label} (holds : invariant state)
    (ran : run step state trace = some final) : invariant final := by
  induction trace generalizing state with
  | nil =>
    cases ran
    exact holds
  | cons label rest ih =>
    obtain ⟨next, taken, remaining⟩ := run_cons.mp ran
    exact ih (preserved state label next holds taken) remaining

theorem along_of_invariant
    (preserved : ∀ state label next, invariant state → step state label = some next → invariant next)
    (meets : ∀ state label next, invariant state → step state label = some next →
      condition state label next)
    {state : State} (holds : invariant state) (trace : List Label) :
    Along step condition state trace := by
  induction trace generalizing state with
  | nil => trivial
  | cons label rest ih =>
    intro next taken
    exact ⟨meets state label next holds taken, ih (preserved state label next holds taken)⟩

theorem along_of_conforming {shown : State → Label → State → Prop}
    (preserved : ∀ state label next, invariant state → condition state label next →
      step state label = some next → invariant next)
    (meets : ∀ state label next, invariant state → condition state label next →
      step state label = some next → shown state label next)
    {state : State} {trace : List Label} (holds : invariant state) (conforms : Along step condition state trace) :
    Along step shown state trace := by
  induction trace generalizing state with
  | nil => trivial
  | cons label rest ih =>
    intro next taken
    obtain ⟨met, onward⟩ := conforms next taken
    exact ⟨meets state label next holds met taken, ih (preserved state label next holds met taken) onward⟩

/-- Conforming steps that pay their weight out of a potential weigh at most what it was at the start. -/
theorem totalAlong_le {weight : State → Label → State → Nat} {potential : State → Nat}
    (preserved : ∀ state label next, invariant state → condition state label next →
      step state label = some next → invariant next)
    (paid : ∀ state label next, invariant state → condition state label next →
      step state label = some next → weight state label next + potential next ≤ potential state)
    {state : State} {trace : List Label} (holds : invariant state) (conforms : Along step condition state trace) :
    totalAlong step weight state trace ≤ potential state := by
  induction trace generalizing state with
  | nil => exact Nat.zero_le _
  | cons label rest ih =>
    unfold totalAlong
    cases taken : step state label with
    | none => exact Nat.zero_le _
    | some next =>
      obtain ⟨met, onward⟩ := conforms next taken
      have remaining := ih (preserved state label next holds met taken) onward
      have spent := paid state label next holds met taken
      simp only
      omega

/-- Where each step balances weight and potential, whole runs do too. -/
theorem totalAlong_balance {weight other : State → Label → State → Nat} {potential : State → Nat}
    (preserved : ∀ state label next, invariant state → condition state label next →
      step state label = some next → invariant next)
    (balanced : ∀ state label next, invariant state → condition state label next → step state label = some next →
      weight state label next + potential state = other state label next + potential next)
    {state final : State} {trace : List Label} (holds : invariant state) (conforms : Along step condition state trace)
    (ran : run step state trace = some final) :
    totalAlong step weight state trace + potential state = totalAlong step other state trace + potential final := by
  induction trace generalizing state with
  | nil =>
    cases ran
    rfl
  | cons label rest ih =>
    obtain ⟨next, taken, remaining⟩ := run_cons.mp ran
    obtain ⟨met, onward⟩ := conforms next taken
    have later := ih (preserved state label next holds met taken) onward remaining
    have now := balanced state label next holds met taken
    simp only [totalAlong, taken]
    omega

theorem along_congr {other : State → Label → State → Prop}
    (preserved : ∀ state label next, invariant state → step state label = some next → invariant next)
    (agree : ∀ state label next, invariant state → step state label = some next →
      (condition state label next ↔ other state label next))
    {state : State} (holds : invariant state) (trace : List Label) :
    Along step condition state trace ↔ Along step other state trace := by
  induction trace generalizing state with
  | nil => exact Iff.rfl
  | cons label rest ih =>
    constructor
    · intro along next taken
      obtain ⟨meets, onward⟩ := along next taken
      exact ⟨(agree state label next holds taken).mp meets,
        (ih (preserved state label next holds taken)).mp onward⟩
    · intro along next taken
      obtain ⟨meets, onward⟩ := along next taken
      exact ⟨(agree state label next holds taken).mpr meets,
        (ih (preserved state label next holds taken)).mpr onward⟩

theorem along_congr_of_conforming {first second : State → Label → State → Prop}
    (preserved : ∀ state label next, invariant state → condition state label next →
      step state label = some next → invariant next)
    (agree : ∀ state label next, invariant state → condition state label next → step state label = some next →
      (first state label next ↔ second state label next))
    {state : State} {trace : List Label} (holds : invariant state) (conforms : Along step condition state trace) :
    Along step first state trace ↔ Along step second state trace := by
  constructor
  · intro along
    apply along_of_conforming (fun state label next holds both => preserved state label next holds both.1) _ holds
      (along_and conforms along)
    intro state label next holds both taken
    exact (agree state label next holds both.1 taken).mp both.2
  · intro along
    apply along_of_conforming (fun state label next holds both => preserved state label next holds both.1) _ holds
      (along_and conforms along)
    intro state label next holds both taken
    exact (agree state label next holds both.1 taken).mpr both.2

/-- What each step keeps exactly under a condition holds at the end exactly when it held and every step met
the condition. -/
theorem final_iff_along {kept : State → Prop}
    (preserved : ∀ state label next, invariant state → step state label = some next → invariant next)
    (decided : ∀ state label next, invariant state → step state label = some next →
      (kept next ↔ kept state ∧ condition state label next))
    {state final : State} {trace : List Label} (holds : invariant state) (ran : run step state trace = some final) :
    kept final ↔ kept state ∧ Along step condition state trace := by
  induction trace generalizing state with
  | nil =>
    cases ran
    exact (Eq.to_iff (and_true _)).symm
  | cons label rest ih =>
    obtain ⟨next, taken, remaining⟩ := run_cons.mp ran
    have along : Along step condition state (label :: rest) ↔
        condition state label next ∧ Along step condition next rest := by
      constructor
      · intro conforms
        exact conforms next taken
      · intro conforms other same
        obtain rfl := Option.some.inj (taken.symm.trans same)
        exact conforms
    rw [ih (preserved state label next holds taken) remaining, decided state label next holds taken, along, and_assoc]

/-- When each step keeps the invariant exactly under a condition, a run does exactly when its steps meet it. -/
theorem along_invariant_iff
    (decided : ∀ state label next, invariant state → step state label = some next →
      (invariant next ↔ condition state label next))
    {state : State} (holds : invariant state) (trace : List Label) :
    Along step (fun _ _ next => invariant next) state trace ↔ Along step condition state trace := by
  induction trace generalizing state with
  | nil => exact Iff.rfl
  | cons label rest ih =>
    constructor
    · intro along next taken
      obtain ⟨kept, onward⟩ := along next taken
      exact ⟨(decided state label next holds taken).mp kept, (ih kept).mp onward⟩
    · intro along next taken
      obtain ⟨meets, onward⟩ := along next taken
      have kept := (decided state label next holds taken).mpr meets
      exact ⟨kept, (ih kept).mpr onward⟩

end Invariants

/-- Nothing bad is reached from a marked state exactly when no step after a marked state escapes. -/
theorem never_bad_iff_never_escapes {marked inside bad : State → Prop} {escapes : State → Label → Prop}
    (enters : ∀ state, marked state → inside state) (harmless : ∀ state, inside state → ¬ bad state)
    (kept : ∀ state label next, inside state → ¬ escapes state label → step state label = some next → inside next)
    (leaves : ∀ state label, escapes state label → ∃ next, step state label = some next ∧ bad next)
    (state : State) (trace : List Label) :
    (∀ earlier middle later first second, trace = earlier ++ middle ++ later →
        run step state earlier = some first → run step first middle = some second → marked first → ¬ bad second) ↔
      ∀ earlier middle label later first second, trace = earlier ++ middle ++ label :: later →
        run step state earlier = some first → run step first middle = some second → marked first →
          ¬ escapes second label := by
  constructor
  · intro never earlier middle label later first second split before after mark escaped
    obtain ⟨third, taken, reached⟩ := leaves second label escaped
    have onward : run step first (middle ++ [label]) = some third :=
      run_append.mpr ⟨second, after, run_cons.mpr ⟨third, taken, rfl⟩⟩
    exact never earlier (middle ++ [label]) later first third (by simp [split]) before onward mark reached
  · intro never earlier middle later first second split before after mark
    apply harmless
    -- a run is extended at its end, where the next escape would be
    induction middle using List.reverseRecOn generalizing later second with
    | nil =>
      cases after
      exact enters first mark
    | append_singleton middle label ih =>
      obtain ⟨between, reached, last⟩ := run_append.mp after
      obtain ⟨next, taken, finished⟩ := run_cons.mp last
      cases finished
      have stayed := ih (label :: later) between (by simp [split]) reached
      exact kept between label second stayed
        (never earlier middle label later first between (by simp [split]) before reached mark) taken

section History

variable {start final state : State} {marked : Label → Prop} {trace : List Label} {label next : Label}

theorem history_of_run {known : List Label → State → Prop} (first : known [] start)
    (kept : ∀ past state label next, run step start past = some state → known past state →
      step state label = some next → known (past ++ [label]) next)
    (ran : run step start trace = some final) : known trace final := by
  induction trace using List.reverseRecOn generalizing final with
  | nil =>
    cases ran
    exact first
  | append_singleton past label ih =>
    obtain ⟨middle, reached, last⟩ := run_append.mp ran
    obtain ⟨after, taken, finished⟩ := run_cons.mp last
    cases finished
    exact kept past middle label final reached (ih reached) taken

def LastOf (step : State → Label → Option State) (start : State) (marked : Label → Prop) (trace : List Label)
    (state : State) (label : Label) : Prop :=
  ∃ before after, trace = before ++ label :: after ∧ run step start before = some state ∧ marked label ∧
    ∀ later ∈ after, ¬ marked later

theorem lastOf_append (ran : run step start trace = some state) (mark : marked label) :
    LastOf step start marked (trace ++ [label]) state label :=
  ⟨trace, [], rfl, ran, mark, fun _ member => by cases member⟩

theorem LastOf.append (last : LastOf step start marked trace state label) (unmarked : ¬ marked next) :
    LastOf step start marked (trace ++ [next]) state label := by
  obtain ⟨before, after, rfl, ran, mark, none_later⟩ := last
  refine ⟨before, after ++ [next], by simp, ran, mark, ?_⟩
  intro later member
  rcases List.mem_append.mp member with old | new
  · exact none_later later old
  · rw [List.mem_singleton.mp new]
    exact unmarked

theorem LastOf.unique {other : State} {second : Label} (last : LastOf step start marked trace state label)
    (again : LastOf step start marked trace other second) : state = other ∧ label = second := by
  obtain ⟨before, after, rfl, ran, mark, none_later⟩ := last
  obtain ⟨early, late, same, reached, marks, none_after⟩ := again
  rcases List.append_eq_append_iff.mp same with ⟨between, rfl, rest⟩ | ⟨between, rfl, rest⟩
  · cases between with
    | nil =>
      simp only [List.nil_append, List.append_nil, List.cons.injEq] at rest reached
      exact ⟨Option.some.inj (ran.symm.trans reached), rest.1⟩
    | cons first tail =>
      simp only [List.cons_append, List.cons.injEq] at rest
      exact absurd marks (none_later second (by rw [rest.2]; simp))
  · cases between with
    | nil =>
      simp only [List.nil_append, List.append_nil, List.cons.injEq] at rest ran
      exact ⟨Option.some.inj (ran.symm.trans reached), rest.1.symm⟩
    | cons first tail =>
      simp only [List.cons_append, List.cons.injEq] at rest
      exact absurd mark (none_after label (by rw [rest.2]; simp))

end History

section Simulation

variable {Abstract Action : Type} {act : Abstract → Action → Option Abstract}

/-- Each concrete step is matched by one abstract step or by none. -/
def Simulates (act : Abstract → Action → Option Abstract) (step : State → Label → Option State)
    (view : State → Abstract) (invariant : State → Prop) : Prop :=
  ∀ state label next, invariant state → step state label = some next →
    view next = view state ∨ ∃ action, act (view state) action = some (view next)

theorem run_of_simulates {view : State → Abstract} {invariant : State → Prop}
    (simulates : Simulates act step view invariant)
    (preserved : ∀ state label next, invariant state → step state label = some next → invariant next)
    {state final : State} {trace : List Label} (holds : invariant state)
    (ran : run step state trace = some final) :
    ∃ actions, run act (view state) actions = some (view final) := by
  induction trace generalizing state with
  | nil =>
    cases ran
    exact ⟨[], rfl⟩
  | cons label rest ih =>
    obtain ⟨next, taken, remaining⟩ := run_cons.mp ran
    obtain ⟨actions, projected⟩ := ih (preserved state label next holds taken) remaining
    rcases simulates state label next holds taken with same | ⟨action, acted⟩
    · exact ⟨actions, by rw [← same]; exact projected⟩
    · exact ⟨action :: actions, run_cons.mpr ⟨view next, acted, projected⟩⟩

end Simulation

end LocalCrm.Library
