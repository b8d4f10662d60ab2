import LocalCrm.Webhooks.FactColumns
import LocalCrm.Webhooks.EventRules
import Mathlib.Data.List.Perm.Basic
import Mathlib.Logic.Function.Basic

/-! What is left of a send and its contact when only the order of its events matters. -/

set_option autoImplicit false

namespace LocalCrm.Webhooks

inductive DropOutcome where
  | suppresses
  | unsubscribes
  | nothing
  deriving DecidableEq, Repr

inductive Signal where
  | delivered
  | opened
  | clicked
  | hardBounce
  | softBounce
  | dropped (outcome : DropOutcome)
  | spam
  | unsubscribed
  deriving DecidableEq, Repr

@[ext] structure Standing where
  set : FactColumn → Bool
  streak : Nat
  status : SubscriptionStatus
  listed : Bool

namespace Standing

def record (standing : Standing) (column : FactColumn) : Standing :=
  { standing with set := Function.update standing.set column true }

def become (standing : Standing) (status : SubscriptionStatus) : Standing := { standing with status }

def suppress (standing : Standing) : Standing := { standing with status := .suppressed, listed := true }

def raise (standing : Standing) : Standing := { standing with streak := standing.streak + 1 }

def drop (standing : Standing) : DropOutcome → Standing
  | .suppresses => (standing.record .droppedAt).suppress
  | .unsubscribes => ((standing.record .droppedAt).record .unsubscribedAt).become .unsubscribed
  | .nothing => standing.record .droppedAt

def take (standing : Standing) : Signal → Standing
  | .delivered =>
    if standing.set .deliveredAt then standing else { standing.record .deliveredAt with streak := 0 }
  | .opened => standing.record .firstOpenedAt
  | .clicked => standing.record .firstClickedAt
  | .hardBounce =>
    if standing.set .bouncedAt then standing else (standing.record .bouncedAt).suppress
  | .softBounce =>
    if softBounceSuppressThreshold ≤ standing.streak + 1 ∧ standing.set .bouncedAt = false then
      (standing.raise.record .bouncedAt).suppress
    else standing.raise
  | .dropped outcome => if standing.set .droppedAt then standing else standing.drop outcome
  | .spam => if standing.set .spamReportedAt then standing else (standing.record .spamReportedAt).suppress
  | .unsubscribed => (standing.record .unsubscribedAt).become .unsubscribed

def run (standing : Standing) (signals : List Signal) : Standing := signals.foldl take standing

section Fields

variable (standing : Standing) (column other : FactColumn) (status : SubscriptionStatus)

@[simp] theorem set_record : (standing.record column).set other = (decide (other = column) || standing.set other) := by
  unfold record Function.update
  by_cases same : other = column <;> simp [same]

@[simp] theorem streak_record : (standing.record column).streak = standing.streak := rfl

@[simp] theorem status_record : (standing.record column).status = standing.status := rfl

@[simp] theorem set_become : (standing.become status).set = standing.set := rfl

@[simp] theorem streak_become : (standing.become status).streak = standing.streak := rfl

@[simp] theorem status_become : (standing.become status).status = status := rfl

@[simp] theorem listed_record : (standing.record column).listed = standing.listed := rfl

@[simp] theorem listed_become : (standing.become status).listed = standing.listed := rfl

@[simp] theorem listed_raise : standing.raise.listed = standing.listed := rfl

@[simp] theorem set_suppress : standing.suppress.set = standing.set := rfl

@[simp] theorem streak_suppress : standing.suppress.streak = standing.streak := rfl

@[simp] theorem status_suppress : standing.suppress.status = .suppressed := rfl

@[simp] theorem listed_suppress : standing.suppress.listed = true := rfl

@[simp] theorem set_raise : standing.raise.set = standing.set := rfl

@[simp] theorem streak_raise : standing.raise.streak = standing.streak + 1 := rfl

@[simp] theorem status_raise : standing.raise.status = standing.status := rfl

end Fields

end Standing

open Standing

section Conditions

variable (start : Standing) (signals : List Signal)

@[simp] def HardTakes : Prop := start.set .bouncedAt = false ∧ Signal.hardBounce ∈ signals

@[simp] def SoftTakes : Prop :=
  start.set .bouncedAt = false ∧ Signal.softBounce ∈ signals ∧
    softBounceSuppressThreshold ≤ start.streak + signals.count .softBounce

@[simp] def SpamTakes : Prop := start.set .spamReportedAt = false ∧ Signal.spam ∈ signals

@[simp] def DropTakes (outcome : DropOutcome) : Prop := start.set .droppedAt = false ∧ Signal.dropped outcome ∈ signals

@[simp] def Resets : Prop := start.set .deliveredAt = false ∧ Signal.delivered ∈ signals

@[simp] def Suppressible : Prop :=
  HardTakes start signals ∨ SoftTakes start signals ∨ SpamTakes start signals ∨ DropTakes start signals .suppresses

@[simp] def Unsubscribable : Prop := Signal.unsubscribed ∈ signals ∨ DropTakes start signals .unsubscribes

structure OrderFree : Prop where
  bounce : SoftTakes start signals → HardTakes start signals ∨ ¬ Resets start signals ∨
    softBounceSuppressThreshold ≤ signals.count .softBounce ∧
      2 * softBounceSuppressThreshold ≤ start.streak + signals.count .softBounce + 1
  /-- Not both statuses are written. -/
  sides : ¬ (Suppressible start signals ∧ Unsubscribable start signals)
  fact : ∀ outcome, outcome ≠ .unsubscribes → DropTakes start signals .unsubscribes → DropTakes start signals outcome →
    start.set .unsubscribedAt = true ∨ Signal.unsubscribed ∈ signals
  suppressed : ∀ outcome, outcome ≠ .suppresses → DropTakes start signals .suppresses →
    DropTakes start signals outcome → start.status = .suppressed ∧ start.listed = true ∨ HardTakes start signals ∨
      SoftTakes start signals ∨ SpamTakes start signals
  unsubscribed : ∀ outcome, outcome ≠ .unsubscribes → DropTakes start signals .unsubscribes →
    DropTakes start signals outcome → start.status = .unsubscribed ∨ Signal.unsubscribed ∈ signals

def Marks : FactColumn → Prop
  | .deliveredAt => Signal.delivered ∈ signals
  | .firstOpenedAt => Signal.opened ∈ signals
  | .firstClickedAt => Signal.clicked ∈ signals
  | .bouncedAt => Signal.hardBounce ∈ signals ∨ SoftTakes start signals
  | .droppedAt => ∃ outcome, Signal.dropped outcome ∈ signals
  | .unsubscribedAt => Unsubscribable start signals
  | .spamReportedAt => Signal.spam ∈ signals

/-- Where the events lead when their order does not matter. -/
structure Settles (final : Standing) : Prop where
  marked : ∀ column, final.set column = true ↔ start.set column = true ∨ Marks start signals column
  listed : final.listed = true ↔ start.listed = true ∨ Suppressible start signals
  suppressed : Suppressible start signals → final.status = .suppressed
  unsubscribed : Unsubscribable start signals → final.status = .unsubscribed
  unmoved : ¬ Suppressible start signals → ¬ Unsubscribable start signals → final.status = start.status

end Conditions

/-- What one event can do. -/
inductive Taken (start : Standing) : Signal → Standing → Prop where
  | deliveredAgain (old : start.set .deliveredAt = true) : Taken start .delivered start
  | delivered (new : start.set .deliveredAt = false) :
    Taken start .delivered { start.record .deliveredAt with streak := 0 }
  | opened : Taken start .opened (start.record .firstOpenedAt)
  | clicked : Taken start .clicked (start.record .firstClickedAt)
  | bouncedAgain (old : start.set .bouncedAt = true) : Taken start .hardBounce start
  | bounced (new : start.set .bouncedAt = false) :
    Taken start .hardBounce ((start.record .bouncedAt).suppress)
  | raised (quiet : start.streak + 1 < softBounceSuppressThreshold ∨ start.set .bouncedAt = true) :
    Taken start .softBounce start.raise
  | reached (streak : softBounceSuppressThreshold ≤ start.streak + 1) (new : start.set .bouncedAt = false) :
    Taken start .softBounce ((start.raise.record .bouncedAt).suppress)
  | droppedAgain (outcome : DropOutcome) (old : start.set .droppedAt = true) : Taken start (.dropped outcome) start
  | dropped (outcome : DropOutcome) (new : start.set .droppedAt = false) :
    Taken start (.dropped outcome) (start.drop outcome)
  | reportedAgain (old : start.set .spamReportedAt = true) : Taken start .spam start
  | reported (new : start.set .spamReportedAt = false) :
    Taken start .spam ((start.record .spamReportedAt).suppress)
  | unsubscribed : Taken start .unsubscribed ((start.record .unsubscribedAt).become .unsubscribed)

theorem taken_take (start : Standing) (signal : Signal) : Taken start signal (start.take signal) := by
  cases signal with
  | delivered =>
    rw [take]
    split
    · next old => exact .deliveredAgain old
    · next new => exact .delivered (Bool.eq_false_iff.mpr new)
  | opened => exact .opened
  | clicked => exact .clicked
  | hardBounce =>
    rw [take]
    split
    · next old => exact .bouncedAgain old
    · next new => exact .bounced (Bool.eq_false_iff.mpr new)
  | softBounce =>
    rw [take]
    split
    · next both => exact .reached both.1 both.2
    · next quiet =>
      apply Taken.raised
      rw [not_and_or, Bool.not_eq_false] at quiet
      exact quiet.imp_left Nat.lt_of_not_le
  | dropped outcome =>
    rw [take]
    split
    · next old => exact .droppedAgain outcome old
    · next new => exact .dropped outcome (Bool.eq_false_iff.mpr new)
  | spam =>
    rw [take]
    split
    · next old => exact .reportedAgain old
    · next new => exact .reported (Bool.eq_false_iff.mpr new)
  | unsubscribed => exact .unsubscribed

section Settling

variable {start next final : Standing} {signal : Signal} {signals : List Signal}

theorem suppressible_take (taken : Taken start signal next) (suppressible : Suppressible next signals) :
    Suppressible start (signal :: signals) := by
  cases taken with
  | dropped outcome new => cases outcome <;> simp [drop] at suppressible ⊢ <;> grind
  | _ =>
    simp [softBounceSuppressThreshold] at suppressible ⊢
    grind

theorem unsubscribable_take (taken : Taken start signal next) (unsubscribable : Unsubscribable next signals) :
    Unsubscribable start (signal :: signals) := by
  cases taken with
  | dropped outcome new => cases outcome <;> simp [drop] at unsubscribable ⊢ <;> grind
  | unsubscribed => exact .inl (List.mem_cons_self ..)
  | _ =>
    simp at unsubscribable ⊢
    grind

theorem suppressed_take (free : OrderFree start (signal :: signals)) (taken : Taken start signal next)
    (suppressible : Suppressible start (signal :: signals)) :
    Suppressible next signals ∨ next.status = .suppressed ∧ next.listed = true := by
  obtain ⟨bounce, sides, _, suppressed, _⟩ := free
  simp only [Suppressible, Unsubscribable, HardTakes, SoftTakes, SpamTakes, DropTakes, Resets, List.mem_cons,
    List.count_cons, softBounceSuppressThreshold] at bounce sides suppressed suppressible
  cases taken with
  | dropped outcome new => cases outcome <;> simp [drop, softBounceSuppressThreshold] <;> grind
  | raised quiet | reached streak new => simp <;> grind [softBounceSuppressThreshold]
  | _ => simp [softBounceSuppressThreshold] <;> grind

theorem unsubscribed_take (free : OrderFree start (signal :: signals)) (taken : Taken start signal next)
    (unsubscribable : Unsubscribable start (signal :: signals)) :
    Unsubscribable next signals ∨ next.status = .unsubscribed := by
  have unsuppressible := fun suppressible => free.sides ⟨suppressible, unsubscribable⟩
  have unsubscribed := free.unsubscribed
  simp only [Suppressible, Unsubscribable, HardTakes, SoftTakes, SpamTakes, DropTakes, List.mem_cons,
    List.count_cons, softBounceSuppressThreshold] at unsuppressible unsubscribed unsubscribable
  cases taken with
  | dropped outcome new => cases outcome <;> simp [drop] <;> grind
  | _ => simp <;> grind

theorem quiet_take (quiet : ¬ Suppressible start (signal :: signals)) (taken : Taken start signal next) :
    (start.status ≠ .suppressed → next.status ≠ .suppressed) ∧ next.listed = start.listed := by
  simp only [Suppressible, HardTakes, SoftTakes, SpamTakes, DropTakes, List.mem_cons, List.count_cons] at quiet
  cases taken with
  | dropped outcome new =>
    cases outcome <;> simp [drop]
    grind
  | _ => simp <;> grind [softBounceSuppressThreshold]

theorem consented_take (consented : ¬ Unsubscribable start (signal :: signals)) (taken : Taken start signal next) :
    (start.status ≠ .unsubscribed → next.status ≠ .unsubscribed) ∧
      next.set .unsubscribedAt = start.set .unsubscribedAt := by
  simp only [Unsubscribable, DropTakes, List.mem_cons] at consented
  cases taken with
  | dropped outcome new =>
    cases outcome <;> simp [drop]
    grind
  | _ => simp <;> grind

theorem unmoved_take (quiet : ¬ Suppressible start (signal :: signals))
    (consented : ¬ Unsubscribable start (signal :: signals)) (taken : Taken start signal next) :
    next.status = start.status := by
  simp only [Suppressible, Unsubscribable, HardTakes, SoftTakes, SpamTakes, DropTakes, List.mem_cons,
    List.count_cons] at quiet consented
  cases taken with
  | dropped outcome new => cases outcome <;> simp [drop] <;> grind
  | _ => simp <;> grind [softBounceSuppressThreshold]

theorem bounce_take (free : OrderFree start (signal :: signals)) (taken : Taken start signal next) :
    SoftTakes next signals → HardTakes next signals ∨ ¬ Resets next signals ∨
      softBounceSuppressThreshold ≤ signals.count .softBounce ∧
        2 * softBounceSuppressThreshold ≤ next.streak + signals.count .softBounce + 1 := by
  obtain ⟨bounce, sides, _, _, _⟩ := free
  simp only [Suppressible, Unsubscribable, HardTakes, SoftTakes, SpamTakes, DropTakes, Resets, List.mem_cons,
    List.count_cons, softBounceSuppressThreshold] at bounce sides
  cases taken with
  | dropped outcome new => cases outcome <;> simp [drop, softBounceSuppressThreshold] <;> grind
  -- a streak one longer and one soft bounce fewer add up to the same
  | raised quiet | reached streak new => simp <;> grind [softBounceSuppressThreshold]
  | _ => simp [softBounceSuppressThreshold] <;> grind

theorem drops_take {outcome : DropOutcome} (free : OrderFree start (signal :: signals))
    (taken : Taken start signal next) (drops : DropTakes next signals outcome) :
    (outcome ≠ .unsubscribes → DropTakes next signals .unsubscribes →
      (next.set .unsubscribedAt = true ∨ Signal.unsubscribed ∈ signals) ∧
        (next.status = .unsubscribed ∨ Signal.unsubscribed ∈ signals)) ∧
    (outcome ≠ .suppresses → DropTakes next signals .suppresses →
      next.status = .suppressed ∧ next.listed = true ∨ HardTakes next signals ∨ SoftTakes next signals ∨
        SpamTakes next signals) := by
  obtain ⟨bounce, sides, fact, suppressed, unsubscribed⟩ := free
  simp only [Suppressible, Unsubscribable, HardTakes, SoftTakes, SpamTakes, DropTakes, Resets, List.mem_cons,
    List.count_cons, softBounceSuppressThreshold] at bounce sides fact suppressed unsubscribed
  cases taken with
  | dropped outcome new => cases outcome <;> simp [drop] at drops
  | raised quiet | reached streak new =>
    simp at drops ⊢
    grind [softBounceSuppressThreshold]
  | _ =>
    simp [softBounceSuppressThreshold] at drops ⊢
    grind

theorem orderFree_take (free : OrderFree start (signal :: signals)) (taken : Taken start signal next) :
    OrderFree next signals where
  bounce := bounce_take free taken
  sides both := free.sides ⟨suppressible_take taken both.1, unsubscribable_take taken both.2⟩
  fact _ differs unsubscribes drops := ((drops_take free taken drops).1 differs unsubscribes).1
  suppressed _ differs suppresses drops := (drops_take free taken drops).2 differs suppresses
  unsubscribed _ differs unsubscribes drops := ((drops_take free taken drops).1 differs unsubscribes).2

theorem marks_take (free : OrderFree start (signal :: signals)) (taken : Taken start signal next)
    (column : FactColumn) :
    next.set column = true ∨ Marks next signals column ↔
      start.set column = true ∨ Marks start (signal :: signals) column := by
  obtain ⟨bounce, sides, fact, suppressed, unsubscribed⟩ := free
  simp only [Suppressible, Unsubscribable, HardTakes, SoftTakes, SpamTakes, DropTakes, Resets, List.mem_cons,
    List.count_cons, softBounceSuppressThreshold] at bounce sides fact suppressed unsubscribed
  cases taken with
  | dropped outcome new => cases outcome <;> cases column <;> simp [drop, Marks] <;> grind
  | deliveredAgain old | delivered old | bouncedAgain old | bounced old | droppedAgain outcome old | reportedAgain old
  | reported old | opened | clicked | unsubscribed =>
    cases column <;> simp [Marks, softBounceSuppressThreshold] <;> grind
  | raised quiet | reached streak new =>
    cases column <;> simp [Marks]
    all_goals grind [softBounceSuppressThreshold]

theorem settles_take (free : OrderFree start (signal :: signals)) (taken : Taken start signal next)
    (settles : Settles next signals final) : Settles start (signal :: signals) final where
  marked column := (settles.marked column).trans (marks_take free taken column)
  listed := by
    rw [settles.listed]
    by_cases suppressible : Suppressible start (signal :: signals)
    · refine iff_of_true ?_ (.inr suppressible)
      exact (suppressed_take free taken suppressible).symm.imp_left And.right
    · rw [(quiet_take suppressible taken).2]
      exact or_congr_right (iff_of_false (mt (suppressible_take taken) suppressible) suppressible)
  suppressed suppressible := by
    by_cases still : Suppressible next signals
    · exact settles.suppressed still
    · have became := (suppressed_take free taken suppressible).resolve_left still
      have consented := fun later => free.sides ⟨suppressible, unsubscribable_take taken later⟩
      exact (settles.unmoved still consented).trans became.1
  unsubscribed unsubscribable := by
    by_cases still : Unsubscribable next signals
    · exact settles.unsubscribed still
    · have became := (unsubscribed_take free taken unsubscribable).resolve_left still
      have quiet := fun later => free.sides ⟨suppressible_take taken later, unsubscribable⟩
      exact (settles.unmoved quiet still).trans became
  unmoved quiet consented :=
    (settles.unmoved (mt (suppressible_take taken) quiet) (mt (unsubscribable_take taken) consented)).trans
      (unmoved_take quiet consented taken)

theorem settles_run (free : OrderFree start signals) : Settles start signals (start.run signals) := by
  induction signals generalizing start with
  | nil =>
    refine ⟨?_, ?_, ?_, ?_, fun _ _ => rfl⟩
    · intro column
      cases column <;> simp [Standing.run, Marks]
    · simp [Standing.run]
    · simp
    · simp
  | cons signal rest ih =>
    have taken := taken_take start signal
    exact settles_take free taken (ih (orderFree_take free taken))

end Settling

section Arranging

variable {start : Standing} {signal : Signal} {signals rest : List Signal}

theorem run_append : start.run (signals ++ rest) = (start.run signals).run rest := List.foldl_append

theorem run_preserves {Kept : Standing → Prop} {Allowed : Signal → Prop}
    (step : ∀ standing signal, Allowed signal → Kept standing → Kept (standing.take signal))
    (allowed : ∀ signal ∈ signals, Allowed signal) (kept : Kept start) : Kept (start.run signals) := by
  induction signals generalizing start with
  | nil => exact kept
  | cons signal others ih =>
    obtain ⟨first, remaining⟩ := List.forall_mem_cons.mp allowed
    exact ih remaining (step start signal first kept)

theorem exists_arranged (late : Signal → Bool) (member : signal ∈ signals) (last : late signal = true) :
    ∃ before after, (before ++ signal :: after).Perm signals ∧ (∀ other ∈ before, late other = false) ∧
      ∀ other ∈ after, late other = true := by
  have kept : signal ∈ signals.filter late := List.mem_filter.mpr ⟨member, last⟩
  refine ⟨signals.filter fun other => !late other, (signals.filter late).erase signal, ?_, ?_, ?_⟩
  · calc (signals.filter fun other => !late other) ++ signal :: (signals.filter late).erase signal
      _ |>.Perm ((signals.filter fun other => !late other) ++ signals.filter late) :=
        (List.perm_cons_erase kept).symm.append_left _
      _ |>.Perm (signals.filter late ++ signals.filter fun other => !late other) := List.perm_append_comm
      _ |>.Perm signals := List.filter_append_perm late signals
  · intro other present
    simpa using (List.mem_filter.mp present).2
  · intro other present
    exact (List.mem_filter.mp (List.mem_of_mem_erase present)).2

theorem exists_last_word {Open Done : Standing → Prop} (late : Signal → Bool) (member : signal ∈ signals)
    (last : late signal = true) (opened : Open start)
    (stays : ∀ standing other, late other = false → Open standing → Open (standing.take other))
    (strikes : ∀ standing, Open standing → Done (standing.take signal))
    (respects : ∀ standing other, late other = true → Done standing → Done (standing.take other)) :
    ∃ order, order.Perm signals ∧ Done (start.run order) := by
  obtain ⟨before, after, arranged, early, later⟩ := exists_arranged late member last
  refine ⟨before ++ signal :: after, arranged, ?_⟩
  rw [run_append]
  have struck : Done ((start.run before).take signal) := strikes _ (run_preserves stays early opened)
  have kept : Done (((start.run before).take signal).run after) := run_preserves respects later struck
  exact kept

def Signal.columns : Signal → List FactColumn
  | .delivered => [.deliveredAt]
  | .opened => [.firstOpenedAt]
  | .clicked => [.firstClickedAt]
  | .hardBounce | .softBounce => [.bouncedAt]
  | .dropped _ => [.droppedAt, .unsubscribedAt]
  | .spam => [.spamReportedAt]
  | .unsubscribed => [.unsubscribedAt]

theorem set_take {column : FactColumn} (untouched : column ∉ signal.columns) :
    (start.take signal).set column = start.set column := by
  cases signal with
  | dropped outcome =>
    rw [take]
    split
    · rfl
    · cases outcome <;> simp_all [Signal.columns, drop]
  | opened | clicked | unsubscribed => simp_all [Signal.columns, take]
  | delivered | hardBounce | softBounce | spam =>
    rw [take]
    split
    · simp_all [Signal.columns]
    · simp_all [Signal.columns]

/-- A signal of `column` that suppresses the contact has the last word where the others of the column write no
other status after it. -/
theorem exists_suppressed_by {column : FactColumn} (unset : start.set column = false) (member : signal ∈ signals)
    (own : column ∈ signal.columns)
    (strikes : ∀ standing : Standing, standing.set column = false →
      (standing.take signal).set column = true ∧ (standing.take signal).status = .suppressed)
    (respects : ∀ (standing : Standing) other, column ∈ other.columns → standing.set column = true →
      standing.status = .suppressed → (standing.take other).set column = true ∧
        (standing.take other).status = .suppressed) :
    ∃ order, order.Perm signals ∧ (start.run order).status = .suppressed := by
  let late (other : Signal) := decide (column ∈ other.columns)
  let Done (standing : Standing) := standing.set column = true ∧ standing.status = .suppressed
  have stays : ∀ (standing : Standing) other, late other = false → standing.set column = false →
      (standing.take other).set column = false :=
    fun standing other early unset => (set_take (of_decide_eq_false early)).trans unset
  have kept : ∀ standing other, late other = true → Done standing → Done (standing.take other) :=
    fun standing other later done => respects standing other (of_decide_eq_true later) done.1 done.2
  have last : late signal = true := decide_eq_true own
  obtain ⟨order, arranged, _, suppressed⟩ := exists_last_word late member last unset stays strikes kept
  exact ⟨order, arranged, suppressed⟩

theorem exists_suppressed_hard (hard : HardTakes start signals) :
    ∃ order, order.Perm signals ∧ (start.run order).status = .suppressed := by
  apply exists_suppressed_by hard.1 hard.2 (by decide)
  · intro standing unset
    simp [take, unset]
  -- a bounce after the first one writes no status
  · intro standing other later bounced suppressed
    cases other <;> simp [Signal.columns] at later <;> simp [take, bounced, suppressed]

theorem exists_suppressed_spam (spam : SpamTakes start signals) :
    ∃ order, order.Perm signals ∧ (start.run order).status = .suppressed := by
  apply exists_suppressed_by spam.1 spam.2 (by decide)
  · intro standing unset
    simp [take, unset]
  · intro standing other later reported suppressed
    cases other <;> simp [Signal.columns] at later
    simp [take, reported, suppressed]

theorem exists_dropped {outcome : DropOutcome} (drop : DropTakes start signals outcome) :
    ∃ order, order.Perm signals ∧ ∃ before : Standing, start.run order = before.drop outcome ∧
      before.set .droppedAt = false := by
  obtain ⟨before, after, arranged, early, later⟩ :=
    exists_arranged (fun other => decide (FactColumn.droppedAt ∈ other.columns)) drop.2 rfl
  have stays : ∀ (standing : Standing) other, decide (FactColumn.droppedAt ∈ other.columns) = false →
      standing.set .droppedAt = false → (standing.take other).set .droppedAt = false :=
    fun standing other early unset => (set_take (of_decide_eq_false early)).trans unset
  have unset : (start.run before).set .droppedAt = false := run_preserves stays early drop.1
  have taken : (start.run before).take (.dropped outcome) = (start.run before).drop outcome := by
    rw [take, unset]
    rfl
  have dropped : ((start.run before).drop outcome).set .droppedAt = true := by
    cases outcome <;> simp [Standing.drop]
  -- the drops after the first one change nothing
  have idle : ∀ (standing : Standing) other, decide (FactColumn.droppedAt ∈ other.columns) = true →
      standing = (start.run before).drop outcome → standing.take other = (start.run before).drop outcome := by
    rintro standing other later rfl
    cases other <;> simp [Signal.columns] at later
    rw [take, if_pos dropped]
  refine ⟨_, arranged, start.run before, ?_, unset⟩
  rw [run_append]
  have first : ((start.run before).take (.dropped outcome)).run after = (start.run before).drop outcome :=
    run_preserves idle later taken
  exact first

theorem exists_unsubscribed (consent : Unsubscribable start signals) :
    ∃ order, order.Perm signals ∧ (start.run order).status = .unsubscribed := by
  rcases consent with asked | drop
  · have respects : ∀ (standing : Standing) other, decide (other = Signal.unsubscribed) = true →
        standing.status = SubscriptionStatus.unsubscribed → (standing.take other).status = .unsubscribed := by
      intro standing other later _
      rw [of_decide_eq_true later]
      rfl
    exact @exists_last_word start .unsubscribed signals (fun _ => True)
      (fun standing => standing.status = .unsubscribed) (fun other => decide (other = .unsubscribed)) asked rfl trivial
      (fun _ _ _ _ => trivial) (fun _ _ => rfl) respects
  · obtain ⟨order, arranged, before, led, _⟩ := exists_dropped drop
    exact ⟨order, arranged, by rw [led]; rfl⟩

theorem unsuppressed_run (never : ¬ Suppressible start signals) :
    (start.status ≠ .suppressed → (start.run signals).status ≠ .suppressed) ∧
      (start.run signals).listed = start.listed := by
  induction signals generalizing start with
  | nil => exact ⟨id, rfl⟩
  | cons signal rest ih =>
    have taken := taken_take start signal
    obtain ⟨status, listed⟩ := quiet_take never taken
    have still := mt (suppressible_take taken) never
    exact ⟨fun other => (ih still).1 (status other), (ih still).2.trans listed⟩

theorem consented_run (never : ¬ Unsubscribable start signals) :
    (start.status ≠ .unsubscribed → (start.run signals).status ≠ .unsubscribed) ∧
      (start.run signals).set .unsubscribedAt = start.set .unsubscribedAt := by
  induction signals generalizing start with
  | nil => exact ⟨id, rfl⟩
  | cons signal rest ih =>
    have taken := taken_take start signal
    obtain ⟨status, fact⟩ := consented_take never taken
    have still := mt (unsubscribable_take taken) never
    exact ⟨fun other => (ih still).1 (status other), (ih still).2.trans fact⟩

theorem exists_first_drop {outcome : DropOutcome} (drops : DropTakes start signals outcome) :
    ∃ rest, (Signal.dropped outcome :: rest).Perm signals ∧
      start.run (.dropped outcome :: rest) = (start.drop outcome).run rest ∧
      (start.drop outcome).set .droppedAt = true := by
  refine ⟨signals.erase (.dropped outcome), (List.perm_cons_erase drops.2).symm, ?_, ?_⟩
  · have taken : start.take (.dropped outcome) = start.drop outcome := by
      rw [take, drops.1]
      rfl
    show (start.take (.dropped outcome)).run _ = _
    rw [taken]
  · cases outcome <;> simp [drop]

theorem consented_after_drop {outcome : DropOutcome} (differs : outcome ≠ .unsubscribes)
    (drops : DropTakes start signals outcome) (silent : Signal.unsubscribed ∉ signals) :
    ∃ order, order.Perm signals ∧ (start.status ≠ .unsubscribed → (start.run order).status ≠ .unsubscribed) ∧
      (start.run order).set .unsubscribedAt = start.set .unsubscribedAt := by
  obtain ⟨rest, moved, led, dropped⟩ := exists_first_drop drops
  have never : ¬ Unsubscribable (start.drop outcome) rest := by
    rintro (asked | ⟨unset, _⟩)
    · exact silent (moved.mem_iff.mp (List.mem_cons_of_mem _ asked))
    · rw [dropped] at unset
      cases unset
  obtain ⟨status, fact⟩ := consented_run never
  refine ⟨_, moved, ?_, ?_⟩
  · intro other
    rw [led]
    apply status
    cases outcome with
    | suppresses => exact (by decide : SubscriptionStatus.suppressed ≠ .unsubscribed)
    | unsubscribes => exact absurd rfl differs
    | nothing => exact other
  · rw [led, fact]
    cases outcome with
    | suppresses | nothing => simp [drop]
    | unsubscribes => exact absurd rfl differs

theorem unsuppressed_after_drop {outcome : DropOutcome} (differs : outcome ≠ .suppresses)
    (drops : DropTakes start signals outcome)
    (never : ¬ HardTakes start signals ∧ ¬ SoftTakes start signals ∧ ¬ SpamTakes start signals) :
    ∃ order, order.Perm signals ∧ (start.status ≠ .suppressed → (start.run order).status ≠ .suppressed) ∧
      (start.run order).listed = start.listed := by
  obtain ⟨rest, moved, led, dropped⟩ := exists_first_drop drops
  obtain ⟨noHard, noSoft, noSpam⟩ := never
  have inside : ∀ signal, signal ∈ rest → signal ∈ signals :=
    fun signal member => moved.mem_iff.mp (List.mem_cons_of_mem _ member)
  have counted : rest.count .softBounce = signals.count .softBounce := by
    rw [← moved.count_eq]
    simp
  have kept : (start.drop outcome).set .bouncedAt = start.set .bouncedAt ∧
      (start.drop outcome).set .spamReportedAt = start.set .spamReportedAt ∧
      (start.drop outcome).streak = start.streak := by
    cases outcome <;> simp [drop]
  have still : ¬ Suppressible (start.drop outcome) rest := by
    rintro (hard | soft | spam | ⟨unset, _⟩)
    · exact noHard ⟨kept.1 ▸ hard.1, inside _ hard.2⟩
    · exact noSoft ⟨kept.1 ▸ soft.1, inside _ soft.2.1, by rw [← counted, ← kept.2.2]; exact soft.2.2⟩
    · exact noSpam ⟨kept.2.1 ▸ spam.1, inside _ spam.2⟩
    · rw [dropped] at unset
      cases unset
  obtain ⟨status, listed⟩ := unsuppressed_run still
  refine ⟨_, moved, ?_, ?_⟩
  · intro other
    rw [led]
    apply status
    cases outcome with
    | suppresses => exact absurd rfl differs
    | unsubscribes => exact (by decide : SubscriptionStatus.unsubscribed ≠ .suppressed)
    | nothing => exact other
  · rw [led, listed]
    cases outcome with
    | suppresses => exact absurd rfl differs
    | unsubscribes | nothing => rfl

section SoftBounces

variable {number : Nat}

theorem raised_below (below : start.streak + number < softBounceSuppressThreshold ∨ start.set .bouncedAt = true) :
    start.run (List.replicate number .softBounce) = { start with streak := start.streak + number } := by
  induction number generalizing start with
  | zero => rfl
  | succ number ih =>
    have quiet : ¬ (softBounceSuppressThreshold ≤ start.streak + 1 ∧ start.set .bouncedAt = false) := by
      rintro ⟨reached, unset⟩
      rcases below with below | bounced
      · omega
      · rw [bounced] at unset
        cases unset
    have next : start.take .softBounce = start.raise := by rw [take, if_neg quiet]
    show (start.take .softBounce).run (List.replicate number .softBounce) = _
    have still : start.raise.streak + number < softBounceSuppressThreshold ∨ start.raise.set .bouncedAt = true := by
      rw [streak_raise, set_raise]
      exact below.imp_left (by omega)
    rw [next, ih still]
    simp only [raise]
    congr 1
    omega

theorem raised_beyond (unset : start.set .bouncedAt = false) (some_ : 0 < number)
    (reached : softBounceSuppressThreshold ≤ start.streak + number) :
    (start.run (List.replicate number .softBounce)).set .bouncedAt = true ∧
      (start.run (List.replicate number .softBounce)).status = .suppressed := by
  induction number generalizing start with
  | zero => exact absurd some_ (Nat.lt_irrefl 0)
  | succ number ih =>
    show ((start.take .softBounce).run (List.replicate number .softBounce)).set .bouncedAt = true ∧
      ((start.take .softBounce).run (List.replicate number .softBounce)).status = .suppressed
    by_cases now : softBounceSuppressThreshold ≤ start.streak + 1
    · have struck : start.take .softBounce = (start.raise.record .bouncedAt).suppress := by
        rw [take, if_pos ⟨now, unset⟩]
      rw [struck, raised_below (.inr (by simp))]
      simp
    · have quiet : start.take .softBounce = start.raise := by
        rw [take, if_neg fun both => now both.1]
      rw [quiet]
      exact ih unset (by omega) (by simp only [streak_raise]; omega)

theorem delivered_again (delivered : start.set .deliveredAt = true) :
    start.run (List.replicate number .delivered) = start := by
  induction number with
  | zero => rfl
  | succ number ih =>
    have idle : start.take .delivered = start := if_pos delivered
    show (start.take .delivered).run (List.replicate number .delivered) = start
    rw [idle, ih]

theorem delivered_first (unset : start.set .deliveredAt = false) (some_ : 0 < number) :
    start.run (List.replicate number .delivered) = { start.record .deliveredAt with streak := 0 } := by
  cases number with
  | zero => exact absurd some_ (Nat.lt_irrefl 0)
  | succ number =>
    have first : start.take .delivered = { start.record .deliveredAt with streak := 0 } :=
      if_neg (by rw [unset]; exact Bool.false_ne_true)
    show (start.take .delivered).run (List.replicate number .delivered) = _
    rw [first]
    apply delivered_again
    show (start.record .deliveredAt).set .deliveredAt = true
    rw [set_record, decide_eq_true rfl, Bool.true_or]

def inStreak (signal : Signal) : Bool := signal = .softBounce || signal = .delivered

theorem grouped_perm : ((signals.filter fun signal => !inStreak signal) ++
    (List.replicate (signals.count .softBounce) Signal.softBounce ++
      List.replicate (signals.count .delivered) Signal.delivered)).Perm signals := by
  apply List.perm_iff_count.mpr
  intro signal
  rw [List.count_append, List.count_append, List.count_replicate, List.count_replicate]
  by_cases soft : signal = .softBounce
  · subst soft
    have none : (signals.filter fun signal => !inStreak signal).count .softBounce = 0 :=
      List.count_eq_zero.mpr fun member => by simpa [inStreak] using (List.mem_filter.mp member).2
    simp [none]
  by_cases delivered : signal = .delivered
  · subst delivered
    have none : (signals.filter fun signal => !inStreak signal).count .delivered = 0 :=
      List.count_eq_zero.mpr fun member => by simpa [inStreak] using (List.mem_filter.mp member).2
    simp [none]
  · have kept : (!inStreak signal) = true := by simp [inStreak, soft, delivered]
    rw [List.count_filter (p := fun signal => !inStreak signal) kept]
    simp [Ne.symm soft, Ne.symm delivered]

theorem streak_take (outside : inStreak signal = false) : (start.take signal).streak = start.streak := by
  cases signal with
  | softBounce | delivered => exact absurd outside (by decide)
  | opened | clicked | unsubscribed => rfl
  | dropped outcome =>
    rw [take]
    split
    · rfl
    · cases outcome <;> rfl
  | hardBounce | spam =>
    rw [take]
    split <;> rfl

theorem run_outside (noHard : Signal.hardBounce ∉ signals) :
    (start.run (signals.filter fun signal => !inStreak signal)).set .bouncedAt = start.set .bouncedAt ∧
      (start.run (signals.filter fun signal => !inStreak signal)).streak = start.streak ∧
      (start.run (signals.filter fun signal => !inStreak signal)).set .deliveredAt = start.set .deliveredAt := by
  let Kept (standing : Standing) := standing.set .bouncedAt = start.set .bouncedAt ∧ standing.streak = start.streak ∧
    standing.set .deliveredAt = start.set .deliveredAt
  have step : ∀ (standing : Standing) signal, inStreak signal = false ∧ signal ≠ .hardBounce → Kept standing →
      Kept (standing.take signal) := by
    rintro standing signal ⟨outside, notHard⟩ ⟨bounced, streak, delivered⟩
    refine ⟨(set_take ?_).trans bounced, (streak_take outside).trans streak, (set_take ?_).trans delivered⟩
    · cases signal <;> simp [Signal.columns, inStreak] at outside notHard ⊢
    · cases signal <;> simp [Signal.columns, inStreak] at outside notHard ⊢
  apply run_preserves step _ ⟨rfl, rfl, rfl⟩
  intro signal member
  obtain ⟨listed, outside⟩ := List.mem_filter.mp member
  exact ⟨by simpa using outside, fun hard => noHard (hard ▸ listed)⟩

theorem exists_bounced (soft : SoftTakes start signals) (noHard : Signal.hardBounce ∉ signals) :
    ∃ order, order.Perm signals ∧ (start.run order).set .bouncedAt = true ∧
      (start.run order).status = .suppressed := by
  obtain ⟨unset, listed, reached⟩ := soft
  obtain ⟨bounced, streak, _⟩ := @run_outside start signals noHard
  have struck := raised_beyond (bounced.trans unset) (List.count_pos_iff.mpr listed) (by rw [streak]; exact reached)
  -- deliveries write neither the fact nor the status
  have respects : ∀ (standing : Standing) other, other = Signal.delivered →
      standing.set .bouncedAt = true ∧ standing.status = .suppressed →
      (standing.take other).set .bouncedAt = true ∧ (standing.take other).status = .suppressed := by
    rintro standing other rfl ⟨bounced, suppressed⟩
    refine ⟨(set_take (by decide)).trans bounced, ?_⟩
    rw [take]
    split
    · exact suppressed
    · exact suppressed
  refine ⟨_, grouped_perm, ?_⟩
  rw [run_append, run_append]
  have delivered : ∀ signal ∈ List.replicate (signals.count .delivered) Signal.delivered, signal = Signal.delivered :=
    fun signal member => List.eq_of_mem_replicate member
  exact run_preserves respects delivered struck

theorem exists_unbounced (unset : start.set .bouncedAt = false) (noHard : Signal.hardBounce ∉ signals)
    (resets : Resets start signals)
    (short : signals.count .softBounce < softBounceSuppressThreshold ∨
      start.streak + signals.count .softBounce + 1 < 2 * softBounceSuppressThreshold) :
    ∃ order, order.Perm signals ∧ (start.run order).set .bouncedAt = false := by
  obtain ⟨bounced, streak, delivered⟩ := @run_outside start signals noHard
  obtain ⟨undelivered, listed⟩ := resets
  generalize counted : signals.count .softBounce = number at short
  let early := number + 1 - softBounceSuppressThreshold
  generalize reached : start.run (signals.filter fun signal => !inStreak signal) = middle at bounced streak delivered
  have raised : middle.run (List.replicate early .softBounce) = { middle with streak := middle.streak + early } := by
    by_cases none : early = 0
    · rw [none]
      rfl
    · apply raised_below
      left
      omega
  have ended : Standing.run { middle with streak := middle.streak + early }
      (List.replicate (signals.count .delivered) .delivered) =
        { ({ middle with streak := middle.streak + early } : Standing).record .deliveredAt with streak := 0 } :=
    delivered_first (delivered.trans undelivered) (List.count_pos_iff.mpr listed)
  have rest : Standing.run
      { ({ middle with streak := middle.streak + early } : Standing).record .deliveredAt with streak := 0 }
      (List.replicate (number - early) .softBounce) =
        { ({ middle with streak := middle.streak + early } : Standing).record .deliveredAt with
          streak := 0 + (number - early) } := by
    apply raised_below
    left
    simp only [early, softBounceSuppressThreshold] at short ⊢
    omega
  refine ⟨(signals.filter fun signal => !inStreak signal) ++ (List.replicate early .softBounce ++
    (List.replicate (signals.count .delivered) .delivered ++ List.replicate (number - early) .softBounce)), ?_, ?_⟩
  · have whole : early + (number - early) = number := by
      omega
    have moved : (List.replicate early Signal.softBounce ++
        (List.replicate (signals.count .delivered) Signal.delivered ++
          List.replicate (number - early) Signal.softBounce)).Perm
          (List.replicate (signals.count .softBounce) Signal.softBounce ++
            List.replicate (signals.count .delivered) Signal.delivered) := by
      rw [counted, ← whole, ← List.replicate_append_replicate, List.append_assoc, whole]
      exact List.perm_append_comm.append_left _
    exact (moved.append_left _).trans grouped_perm
  · rw [run_append, run_append, run_append, reached, raised, ended, rest]
    show (middle.record .deliveredAt).set .bouncedAt = false
    rw [set_record, bounced, unset]
    rfl

end SoftBounces

theorem exists_suppressed (suppressible : Suppressible start signals) :
    ∃ order, order.Perm signals ∧ (start.run order).status = .suppressed := by
  rcases suppressible with hard | soft | spam | drop
  · exact exists_suppressed_hard hard
  · by_cases hard : Signal.hardBounce ∈ signals
    · exact exists_suppressed_hard ⟨soft.1, hard⟩
    · obtain ⟨order, arranged, _, suppressed⟩ := exists_bounced soft hard
      exact ⟨order, arranged, suppressed⟩
  · exact exists_suppressed_spam spam
  · obtain ⟨order, arranged, before, led, _⟩ := exists_dropped drop
    exact ⟨order, arranged, by rw [led]; rfl⟩

end Arranging

section Characterisation

variable {start : Standing} {signals : List Signal}

/-- What the runs are compared by: which facts are set, and how the contact is suppressed. -/
def SameStanding (first second : Standing) : Prop :=
  first.set = second.set ∧ first.status = second.status ∧ first.listed = second.listed

section Permutations

variable {other : List Signal}

theorem suppressible_perm (moved : other.Perm signals) : Suppressible start other ↔ Suppressible start signals := by
  simp only [Suppressible, HardTakes, SoftTakes, SpamTakes, DropTakes, moved.mem_iff, moved.count_eq]

theorem unsubscribable_perm (moved : other.Perm signals) :
    Unsubscribable start other ↔ Unsubscribable start signals := by
  simp only [Unsubscribable, DropTakes, moved.mem_iff]

theorem orderFree_perm (moved : other.Perm signals) (free : OrderFree start signals) : OrderFree start other where
  bounce := by
    simpa only [SoftTakes, HardTakes, Resets, moved.mem_iff, moved.count_eq] using free.bounce
  sides := by
    rw [suppressible_perm moved, unsubscribable_perm moved]
    exact free.sides
  fact := by
    simpa only [DropTakes, moved.mem_iff] using free.fact
  suppressed := by
    simpa only [DropTakes, HardTakes, SoftTakes, SpamTakes, moved.mem_iff, moved.count_eq] using free.suppressed
  unsubscribed := by
    simpa only [DropTakes, moved.mem_iff] using free.unsubscribed

theorem settles_perm {final : Standing} (moved : other.Perm signals) (settles : Settles start other final) :
    Settles start signals final where
  marked column := by
    rw [settles.marked column]
    cases column <;> simp only [Marks, Unsubscribable, DropTakes, SoftTakes, moved.mem_iff, moved.count_eq]
  listed := by rw [settles.listed, suppressible_perm moved]
  suppressed suppressible := settles.suppressed ((suppressible_perm moved).mpr suppressible)
  unsubscribed unsubscribable := settles.unsubscribed ((unsubscribable_perm moved).mpr unsubscribable)
  unmoved suppressible unsubscribable :=
    settles.unmoved (fun some_ => suppressible ((suppressible_perm moved).mp some_)) fun some_ =>
      unsubscribable ((unsubscribable_perm moved).mp some_)

end Permutations

theorem Settles.unique {first second : Standing} (one : Settles start signals first)
    (two : Settles start signals second) : SameStanding first second := by
  refine ⟨?_, ?_, ?_⟩
  · funext column
    rw [Bool.eq_iff_iff, one.marked, two.marked]
  · by_cases suppressible : Suppressible start signals
    · rw [one.suppressed suppressible, two.suppressed suppressible]
    by_cases unsubscribable : Unsubscribable start signals
    · rw [one.unsubscribed unsubscribable, two.unsubscribed unsubscribable]
    · rw [one.unmoved suppressible unsubscribable, two.unmoved suppressible unsubscribable]
  · rw [Bool.eq_iff_iff, one.listed, two.listed]

theorem agree_iff_orderFree :
    (∀ first second, first.Perm signals → second.Perm signals →
      SameStanding (start.run first) (start.run second)) ↔ OrderFree start signals := by
  constructor
  · intro agree
    constructor
    · intro soft
      by_contra undecided
      push Not at undecided
      obtain ⟨noHard, resets, short⟩ := undecided
      have absent : Signal.hardBounce ∉ signals := fun hard => noHard ⟨soft.1, hard⟩
      obtain ⟨first, moved, bounced, _⟩ := exists_bounced soft absent
      obtain ⟨second, other, unbounced⟩ := exists_unbounced soft.1 absent resets (by omega)
      have same := congrFun (agree first second moved other).1 .bouncedAt
      rw [bounced, unbounced] at same
      cases same
    · rintro ⟨suppressible, unsubscribable⟩
      obtain ⟨first, moved, suppressed⟩ := exists_suppressed suppressible
      obtain ⟨second, other, unsubscribed⟩ := exists_unsubscribed unsubscribable
      have same := (agree first second moved other).2.1
      rw [suppressed, unsubscribed] at same
      cases same
    · intro outcome differs unsubscribes drops
      by_contra undecided
      rw [not_or, Bool.not_eq_true] at undecided
      obtain ⟨first, moved, before, led, _⟩ := exists_dropped unsubscribes
      obtain ⟨second, other, _, fact⟩ := consented_after_drop differs drops undecided.2
      have same := congrFun (agree first second moved other).1 .unsubscribedAt
      rw [led, fact, undecided.1] at same
      simp [drop] at same
    · intro outcome differs suppresses drops
      by_contra undecided
      push Not at undecided
      obtain ⟨first, moved, before, led, _⟩ := exists_dropped suppresses
      obtain ⟨second, other, status, listed⟩ := unsuppressed_after_drop differs drops undecided.2
      obtain ⟨_, sameStatus, sameListed⟩ := agree first second moved other
      rw [led] at sameStatus sameListed
      by_cases suppressed : start.status = .suppressed
      · exact undecided.1 suppressed (listed.symm.trans sameListed.symm)
      · exact status suppressed sameStatus.symm
    · intro outcome differs unsubscribes drops
      by_contra undecided
      rw [not_or] at undecided
      obtain ⟨first, moved, unsubscribed⟩ := exists_unsubscribed (.inr unsubscribes)
      obtain ⟨second, other, status, _⟩ := consented_after_drop differs drops undecided.2
      exact status undecided.1 ((agree first second moved other).2.1 ▸ unsubscribed)
  · intro free first second moved other
    have settled : ∀ order, order.Perm signals → Settles start signals (start.run order) :=
      fun order moved => settles_perm moved (settles_run (orderFree_perm moved free))
    exact (settled first moved).unique (settled second other)

end Characterisation

end LocalCrm.Webhooks
