import LocalCrm.Library.Transition

/-! What one party sees of a run depends on its own labels only. -/

set_option autoImplicit false

namespace LocalCrm.Library

variable {State Label View : Type} {step : State → Label → Option State} {view : State → View} {own : Label → Bool}

theorem view_of_purged {invariant : State → Prop}
    (preserved : ∀ state label next, invariant state → step state label = some next → invariant next)
    (respects : ∀ state label next, invariant state → own label = false → step state label = some next →
      view next = view state)
    (consistent : ∀ state other label next otherNext, invariant state → invariant other → own label = true →
      view state = view other → step state label = some next → step other label = some otherNext →
      view next = view otherNext)
    {state other final otherFinal : State} {trace : List Label} (holds : invariant state) (also : invariant other)
    (same : view state = view other) (ran : run step state trace = some final)
    (purged : run step other (trace.filter own) = some otherFinal) : view final = view otherFinal := by
  induction trace generalizing state other with
  | nil =>
    cases ran
    cases purged
    exact same
  | cons label rest ih =>
    obtain ⟨next, taken, remaining⟩ := run_cons.mp ran
    have kept := preserved state label next holds taken
    cases mine : own label with
    | false =>
      rw [List.filter_cons_of_neg (by simp [mine])] at purged
      exact ih kept also ((respects state label next holds mine taken).trans same) remaining purged
    | true =>
      rw [List.filter_cons_of_pos mine] at purged
      obtain ⟨otherNext, followed, onward⟩ := run_cons.mp purged
      exact ih kept (preserved other label otherNext also followed)
        (consistent state other label next otherNext holds also mine same taken followed) remaining onward

end LocalCrm.Library
