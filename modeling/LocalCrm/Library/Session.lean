import Mathlib.Logic.Function.Basic

/-! A database session with settings that a transaction assigns for itself. -/

set_option autoImplicit false

namespace LocalCrm.Library

structure Transaction (Setting Value Level : Type) where
  level : Level
  aborted : Bool
  assigned : Setting → Option Value
  savepoints : List (Setting → Option Value)

structure Session (Setting Value Level : Type) where
  known : Setting → Bool
  transaction : Option (Transaction Setting Value Level)

namespace Session

variable {Setting Value Level : Type} (session : Session Setting Value Level)

def start : Session Setting Value Level := { known := fun _ => false, transaction := none }

/-- Inside a transaction it only warns. -/
def begin (level : Level) : Session Setting Value Level :=
  { session with
    transaction := session.transaction.or
      (some { level, aborted := false, assigned := fun _ => none, savepoints := [] }) }

/-- A commit and a rollback alike; outside a transaction either only warns. -/
def finish : Session Setting Value Level := { session with transaction := none }

def abort : Session Setting Value Level :=
  { session with transaction := session.transaction.map fun transaction => { transaction with aborted := true } }

def isAborted : Bool := session.transaction.any Transaction.aborted

def assign [DecidableEq Setting] (setting : Setting) (value : Value) : Session Setting Value Level where
  known := Function.update session.known setting true
  transaction := session.transaction.map fun transaction =>
    { transaction with assigned := Function.update transaction.assigned setting (some value) }

def savepoint : Session Setting Value Level :=
  { session with
    transaction := session.transaction.map fun transaction =>
      { transaction with savepoints := transaction.assigned :: transaction.savepoints } }

/-- The savepoint itself stays; those set after it are gone. -/
def rollbackTo (depth : Nat) : Session Setting Value Level :=
  { session with
    transaction := session.transaction.map fun transaction =>
      (transaction.savepoints[depth]?).elim { transaction with aborted := true } fun saved =>
        { transaction with aborted := false, assigned := saved, savepoints := transaction.savepoints.drop depth } }

/-- What a setting reads as; `none` where the session has never heard of it. -/
def current (blank : Value) (setting : Setting) : Option Value :=
  (session.transaction.bind fun transaction => transaction.assigned setting).or
    (if session.known setting then some blank else none)

/-- The transaction is open, and it and all its savepoints assign as they should. -/
def Assigns (wanted : (Setting → Option Value) → Prop) : Prop :=
  ∃ transaction, session.transaction = some transaction ∧ wanted transaction.assigned ∧
    ∀ saved ∈ transaction.savepoints, wanted saved

variable {session} {wanted : (Setting → Option Value) → Prop}

theorem Assigns.abort (assigns : session.Assigns wanted) : session.abort.Assigns wanted := by
  obtain ⟨transaction, opened, now, saved⟩ := assigns
  exact ⟨{ transaction with aborted := true }, congrArg (Option.map _) opened, now, saved⟩

theorem Assigns.assign [DecidableEq Setting] (assigns : session.Assigns wanted) {setting : Setting} {value : Value}
    (keeps : ∀ assigned, wanted assigned → wanted (Function.update assigned setting (some value))) :
    (session.assign setting value).Assigns wanted := by
  obtain ⟨transaction, opened, now, saved⟩ := assigns
  exact ⟨{ transaction with assigned := Function.update transaction.assigned setting (some value) },
    congrArg (Option.map _) opened, keeps transaction.assigned now, saved⟩

theorem Assigns.savepoint (assigns : session.Assigns wanted) : session.savepoint.Assigns wanted := by
  obtain ⟨transaction, opened, now, saved⟩ := assigns
  refine ⟨{ transaction with savepoints := transaction.assigned :: transaction.savepoints },
    congrArg (Option.map _) opened, now, ?_⟩
  intro assigned member
  rcases List.mem_cons.mp member with rfl | member
  · exact now
  · exact saved assigned member

theorem Assigns.rollbackTo (assigns : session.Assigns wanted) (depth : Nat) :
    (session.rollbackTo depth).Assigns wanted := by
  obtain ⟨transaction, opened, now, saved⟩ := assigns
  cases found : transaction.savepoints[depth]? with
  | none =>
    refine ⟨{ transaction with aborted := true }, ?_, now, saved⟩
    simp only [Session.rollbackTo, opened, Option.map_some, found, Option.elim_none]
  | some assigned =>
    refine ⟨{ transaction with aborted := false, assigned, savepoints := transaction.savepoints.drop depth }, ?_,
      saved assigned (List.mem_of_getElem? found), fun other member => saved other (List.mem_of_mem_drop member)⟩
    simp only [Session.rollbackTo, opened, Option.map_some, found, Option.elim_some]

end Session

end LocalCrm.Library
