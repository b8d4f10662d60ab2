import Mathlib.Data.List.Basic

/-! A durable job queue with client-chosen job ids and at-least-once delivery.

A job stays pending while it waits, runs or waits for a retry, so it may be handed out any number of times.
-/

set_option autoImplicit false

namespace LocalCrm.Library

structure JobQueue (Job : Type) where
  pending : List Job
  retained : List Job
  deriving DecidableEq, Repr

namespace JobQueue

variable {Job : Type} [DecidableEq Job]

def empty : JobQueue Job := ⟨[], []⟩

def Knows (queue : JobQueue Job) (job : Job) : Prop :=
  job ∈ queue.pending ∨ job ∈ queue.retained

instance (queue : JobQueue Job) (job : Job) : Decidable (queue.Knows job) :=
  inferInstanceAs (Decidable (_ ∨ _))

def add (queue : JobQueue Job) (job : Job) : JobQueue Job :=
  if queue.Knows job then queue else { queue with pending := queue.pending ++ [job] }

def finish (queue : JobQueue Job) (job : Job) : JobQueue Job where
  pending := queue.pending.filter (· ≠ job)
  retained := if job ∈ queue.pending then job :: queue.retained else queue.retained

def expire (queue : JobQueue Job) (job : Job) : JobQueue Job :=
  { queue with retained := queue.retained.filter (· ≠ job) }

variable {queue : JobQueue Job} {job other : Job}

theorem mem_pending_add :
    other ∈ (queue.add job).pending ↔ other ∈ queue.pending ∨ (other = job ∧ ¬ queue.Knows job) := by
  unfold add
  split
  · next known => simp [known]
  · next fresh => simp [fresh]

@[simp] theorem retained_add : (queue.add job).retained = queue.retained := by
  unfold add
  split <;> rfl

@[simp] theorem mem_pending_finish :
    other ∈ (queue.finish job).pending ↔ other ∈ queue.pending ∧ other ≠ job := by
  simp [finish]

theorem knows_add : (queue.add job).Knows other ↔ queue.Knows other ∨ other = job := by
  simp only [Knows, mem_pending_add, retained_add]
  by_cases same : other = job
  · subst same
    by_cases known : other ∈ queue.pending ∨ other ∈ queue.retained
    · simp [known]
    · simp [known]
  · simp [same]

theorem knows_of_finish (known : (queue.finish job).Knows other) : queue.Knows other := by
  rcases known with waiting | kept
  · exact .inl (mem_pending_finish.mp waiting).1
  · simp only [finish] at kept
    split at kept
    · next present =>
      rcases List.mem_cons.mp kept with rfl | kept
      · exact .inl present
      · exact .inr kept
    · exact .inr kept

theorem knows_of_expire (known : (queue.expire job).Knows other) : queue.Knows other := by
  rcases known with waiting | kept
  · exact .inl waiting
  · exact .inr (List.mem_filter.mp kept).1

end JobQueue

end LocalCrm.Library
