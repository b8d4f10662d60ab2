import LocalCrm.Library.Transition
import Mathlib.Logic.Function.Basic

/-! Threads that share one state and each keep a state of their own. -/

set_option autoImplicit false

namespace LocalCrm.Library

structure Threads (Shared Own : Type) where
  shared : Shared
  own : Nat → Own

inductive Turn (Choice Event : Type) where
  | thread (id : Nat) (choice : Choice)
  | outside (event : Event)

section

variable {Shared Own Choice Event : Type}

/-- One turn; the other threads keep their own state. -/
def interleave (act : Nat → Shared → Own → Choice → Option (Shared × Own))
    (environment : Shared → Event → Option Shared) (threads : Threads Shared Own) :
    Turn Choice Event → Option (Threads Shared Own)
  | .thread id choice => (act id threads.shared (threads.own id) choice).map fun (shared, own) =>
    { shared := shared, own := Function.update threads.own id own }
  | .outside event => (environment threads.shared event).map fun shared => { threads with shared := shared }

variable {act : Nat → Shared → Own → Choice → Option (Shared × Own)} {environment : Shared → Event → Option Shared}

theorem interleave_thread {threads next : Threads Shared Own} {id : Nat} {choice : Choice} :
    interleave act environment threads (.thread id choice) = some next ↔
      ∃ shared own, act id threads.shared (threads.own id) choice = some (shared, own) ∧
        next = { shared := shared, own := Function.update threads.own id own } := by
  simp only [interleave, Option.map_eq_some_iff, Prod.exists]
  constructor
  · rintro ⟨shared, own, acted, rfl⟩
    exact ⟨shared, own, acted, rfl⟩
  · rintro ⟨shared, own, acted, rfl⟩
    exact ⟨shared, own, acted, rfl⟩

theorem interleave_outside {threads next : Threads Shared Own} {event : Event} :
    interleave act environment threads (.outside event) = some next ↔
      ∃ shared, environment threads.shared event = some shared ∧ next = { threads with shared := shared } := by
  simp only [interleave, Option.map_eq_some_iff]
  constructor
  · rintro ⟨shared, happened, rfl⟩
    exact ⟨shared, happened, rfl⟩
  · rintro ⟨shared, happened, rfl⟩
    exact ⟨shared, happened, rfl⟩

/-- What holds of the shared state, and what each thread knows of it from where it stands. -/
structure Threads.Sound (sharedOk : Shared → Prop) (knows : Nat → Shared → Own → Prop)
    (threads : Threads Shared Own) : Prop where
  shared : sharedOk threads.shared
  own : ∀ id, knows id threads.shared (threads.own id)

variable {sharedOk : Shared → Prop} {knows : Nat → Shared → Own → Prop} {tolerates : Nat → Shared → Shared → Prop}

/-- Threads that keep what holds, leave behind what they know next and disturb no other one beyond
what it tolerates stay sound. -/
theorem sound_interleave
    (acts : ∀ id shared own choice next after, sharedOk shared → knows id shared own →
      act id shared own choice = some (next, after) →
        sharedOk next ∧ knows id next after ∧ ∀ other, other ≠ id → tolerates other shared next)
    (disturbs : ∀ shared event next, sharedOk shared → environment shared event = some next →
      sharedOk next ∧ ∀ other, tolerates other shared next)
    (stable : ∀ id shared next own, knows id shared own → tolerates id shared next → knows id next own)
    (threads : Threads Shared Own) (turn : Turn Choice Event) (next : Threads Shared Own)
    (sound : Threads.Sound sharedOk knows threads) (taken : interleave act environment threads turn = some next) :
    Threads.Sound sharedOk knows next := by
  cases turn with
  | thread id choice =>
    obtain ⟨shared, own, acted, rfl⟩ := interleave_thread.mp taken
    obtain ⟨kept, knowing, harmless⟩ := acts id threads.shared (threads.own id) choice shared own
      sound.shared (sound.own id) acted
    constructor
    · exact kept
    · intro other
      by_cases same : other = id
      · subst same
        simpa only [Function.update_self] using knowing
      · simp only [Function.update_of_ne same]
        exact stable other threads.shared shared (threads.own other) (sound.own other) (harmless other same)
  | outside event =>
    obtain ⟨shared, happened, rfl⟩ := interleave_outside.mp taken
    obtain ⟨kept, harmless⟩ := disturbs threads.shared event shared sound.shared happened
    constructor
    · exact kept
    · intro id
      exact stable id threads.shared shared (threads.own id) (sound.own id) (harmless id)

end

end LocalCrm.Library
