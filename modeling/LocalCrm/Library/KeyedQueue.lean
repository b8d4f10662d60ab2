import Mathlib.Data.List.Basic

/-! A durable queue of jobs that carry a payload under a client-chosen id.

As long as the queue knows an id, adding another job under it does nothing, whatever the other job carries.
-/

set_option autoImplicit false

namespace LocalCrm.Library

structure KeyedQueue {Job Id : Type} (id : Job → Id) where
  pending : List Job := []
  retained : List Id := []

namespace KeyedQueue

variable {Job Id : Type} {id : Job → Id}

def Knows (queue : KeyedQueue id) (wanted : Id) : Prop :=
  wanted ∈ queue.pending.map id ∨ wanted ∈ queue.retained

instance [DecidableEq Id] (queue : KeyedQueue id) (wanted : Id) : Decidable (queue.Knows wanted) :=
  inferInstanceAs (Decidable (_ ∨ _))

def add [DecidableEq Id] (queue : KeyedQueue id) (job : Job) : KeyedQueue id :=
  if queue.Knows (id job) then queue else { queue with pending := queue.pending ++ [job] }

/-- The acknowledgement of a job the queue has already let go does nothing. -/
def finish [DecidableEq Job] (queue : KeyedQueue id) (job : Job) : KeyedQueue id where
  pending := queue.pending.filter fun waiting => decide (waiting ≠ job)
  retained := if job ∈ queue.pending then id job :: queue.retained else queue.retained

def expire [DecidableEq Id] (queue : KeyedQueue id) (forgotten : Id) : KeyedQueue id :=
  { queue with retained := queue.retained.filter fun kept => decide (kept ≠ forgotten) }

def region (queue : KeyedQueue id) (inside : Id → Bool) : List Job × List Id :=
  (queue.pending.filter fun job => inside (id job), queue.retained.filter inside)

variable {queue : KeyedQueue id} {job other : Job} {done wanted : Id}
variable {inside : Id → Bool} {left right : KeyedQueue id}

theorem knows_region (belongs : inside wanted = true) (same : left.region inside = right.region inside) :
    left.Knows wanted ↔ right.Knows wanted := by
  have seen : ∀ queue : KeyedQueue id, queue.Knows wanted ↔
      wanted ∈ (queue.region inside).1.map id ∨ wanted ∈ (queue.region inside).2 := by
    intro queue
    simp only [Knows, region, List.mem_map, List.mem_filter]
    constructor
    · rintro (⟨job, waiting, rfl⟩ | kept)
      · exact .inl ⟨job, ⟨waiting, belongs⟩, rfl⟩
      · exact .inr ⟨kept, belongs⟩
    · rintro (⟨job, ⟨waiting, _⟩, rfl⟩ | ⟨kept, _⟩)
      · exact .inl ⟨job, waiting, rfl⟩
      · exact .inr kept
  rw [seen left, seen right, same]

section Acknowledgement

variable [DecidableEq Job]

@[simp] theorem mem_pending_finish : other ∈ (queue.finish job).pending ↔ other ∈ queue.pending ∧ other ≠ job := by
  simp [finish]

theorem mem_retained_finish : wanted ∈ (queue.finish job).retained ↔
    (wanted = id job ∧ job ∈ queue.pending) ∨ wanted ∈ queue.retained := by
  unfold finish
  split
  · next waiting => simp [waiting]
  · next gone => simp [gone]

theorem region_finish_outside (outside : inside (id job) = false) :
    (queue.finish job).region inside = queue.region inside := by
  have differs : ∀ waiting : Job, inside (id waiting) = true → waiting ≠ job := by
    intro waiting belongs same
    rw [same, outside] at belongs
    cases belongs
  apply Prod.ext
  · simp only [region, finish, List.filter_filter]
    apply List.filter_congr
    intro waiting _
    cases belongs : inside (id waiting) with
    | false => rfl
    | true => simp [differs waiting belongs]
  · simp only [region, finish]
    split
    · rw [List.filter_cons_of_neg (by simp [outside])]
    · rfl

theorem region_finish (belongs : inside (id job) = true) (same : left.region inside = right.region inside) :
    (left.finish job).region inside = (right.finish job).region inside := by
  have pending := congrArg Prod.fst same
  have retained := congrArg Prod.snd same
  simp only [region] at pending retained
  have swap : ∀ queue : KeyedQueue id, ((queue.finish job).region inside).1 =
      (queue.pending.filter fun waiting => inside (id waiting)).filter fun waiting => decide (waiting ≠ job) := by
    intro queue
    simp only [region, finish, List.filter_filter, Bool.and_comm]
  have waits : ∀ queue : KeyedQueue id, job ∈ queue.pending ↔
      job ∈ queue.pending.filter fun waiting => inside (id waiting) := by
    intro queue
    rw [List.mem_filter, and_iff_left belongs]
  have kept : ∀ queue : KeyedQueue id, ((queue.finish job).region inside).2 =
      (if job ∈ queue.pending.filter fun waiting => inside (id waiting) then [id job] else []) ++
        queue.retained.filter inside := by
    intro queue
    simp only [region, finish, waits queue]
    split
    · rw [List.filter_cons_of_pos belongs, List.singleton_append]
    · rfl
  apply Prod.ext
  · rw [swap, swap, pending]
  · rw [kept, kept, retained, pending]

end Acknowledgement

section Ids

variable [DecidableEq Id]

theorem mem_pending_add : other ∈ (queue.add job).pending ↔
    other ∈ queue.pending ∨ (other = job ∧ ¬ queue.Knows (id job)) := by
  unfold add
  split
  · next known => simp [known]
  · next fresh => simp [fresh]

@[simp] theorem retained_add : (queue.add job).retained = queue.retained := by
  unfold add
  split <;> rfl

theorem mem_retained_expire :
    wanted ∈ (queue.expire done).retained ↔ wanted ∈ queue.retained ∧ wanted ≠ done := by
  simp [expire]

theorem region_add_outside (outside : inside (id job) = false) :
    (queue.add job).region inside = queue.region inside := by
  unfold add
  split
  · rfl
  · simp [region, List.filter_append, outside]

theorem region_add (belongs : inside (id job) = true) (same : left.region inside = right.region inside) :
    (left.add job).region inside = (right.add job).region inside := by
  have known := knows_region belongs same
  have pending := congrArg Prod.fst same
  have retained := congrArg Prod.snd same
  simp only [region] at pending retained
  unfold add
  by_cases knows : left.Knows (id job)
  · rw [if_pos knows, if_pos (known.mp knows)]
    exact same
  · rw [if_neg knows, if_neg fun knows' => knows (known.mpr knows')]
    simp only [region, List.filter_append, pending, retained]

theorem region_expire_outside (outside : inside done = false) :
    (queue.expire done).region inside = queue.region inside := by
  simp only [region, expire, List.filter_filter]
  congr 1
  apply List.filter_congr
  intro kept _
  cases belongs : inside kept with
  | false => rfl
  | true =>
    have differs : kept ≠ done := by
      intro same
      rw [same, outside] at belongs
      cases belongs
    simp [differs]

theorem region_expire (same : left.region inside = right.region inside) :
    (left.expire done).region inside = (right.expire done).region inside := by
  have pending := congrArg Prod.fst same
  have retained := congrArg Prod.snd same
  simp only [region] at pending retained
  have swap : ∀ queue : KeyedQueue id, ((queue.expire done).region inside).2 =
      (queue.retained.filter inside).filter fun kept => decide (kept ≠ done) := by
    intro queue
    simp only [region, expire, List.filter_filter, Bool.and_comm]
  apply Prod.ext
  · exact pending
  · rw [swap, swap, retained]

end Ids

end KeyedQueue

end LocalCrm.Library
