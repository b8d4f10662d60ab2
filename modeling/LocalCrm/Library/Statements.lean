import Mathlib.Init

/-! Statements of one transaction over a connection that has no savepoints. -/

set_option autoImplicit false

namespace LocalCrm.Library

variable {Error Store Value Other Row : Type}

/-- Where the transaction stands; the working copy is what it has written so far. -/
inductive Connection (Store : Type) where
  | active (working : Store)
  | aborted

inductive SqlError (Error : Type) where
  | refused (error : Error)
  | inFailedTransaction
  deriving DecidableEq, Repr

abbrev Statements (Error Store : Type) := ExceptT (SqlError Error) (StateM (Connection Store))

namespace Statements

def runIn (body : Statements Error Store Value) (connection : Connection Store) :
    Except (SqlError Error) Value × Connection Store :=
  StateT.run (ExceptT.run body) connection

def answer : Except Error (Value × Store) → Except (SqlError Error) Value × Connection Store
  | .ok (value, written) => (.ok value, .active written)
  | .error error => (.error (.refused error), .aborted)

def execute (statement : Store → Except Error (Value × Store)) : Statements Error Store Value :=
  ExceptT.mk fun connection =>
    match connection with
    | .aborted => (.error .inFailedTransaction, .aborted)
    | .active working => answer (statement working)

def swallow (body : Statements Error Store Unit) : Statements Error Store Unit :=
  tryCatch body fun _ => pure ()

def transact (body : Statements Error Store Value) (store : Store) : Except (SqlError Error) Value × Store :=
  match body.runIn (.active store) with
  | (.ok value, .active written) => (.ok value, written)
  | (.ok value, .aborted) => (.ok value, store)
  | (.error error, _) => (.error error, store)

section Rules

variable {body : Statements Error Store Value} {next : Value → Statements Error Store Other}
  {connection reached : Connection Store} {store written : Store} {value : Value} {error : SqlError Error}
  {statement : Store → Except Error (Value × Store)}

@[simp] theorem runIn_pure :
    (pure value : Statements Error Store Value).runIn connection = (.ok value, connection) := rfl

theorem runIn_bind_ok (first : body.runIn connection = (.ok value, reached)) :
    (body >>= next).runIn connection = (next value).runIn reached := by
  unfold runIn ExceptT.run StateT.run at *
  simp only [bind, ExceptT.bind, ExceptT.mk, StateT.bind]
  rw [first]
  rfl

theorem runIn_bind_error (first : body.runIn connection = (.error error, reached)) :
    (body >>= next).runIn connection = (.error error, reached) := by
  unfold runIn ExceptT.run StateT.run at *
  simp only [bind, ExceptT.bind, ExceptT.mk, StateT.bind]
  rw [first]
  rfl

theorem runIn_execute_ok (accepted : statement store = .ok (value, written)) :
    (execute statement).runIn (.active store) = (.ok value, .active written) := by
  change answer (statement store) = _
  rw [accepted]
  rfl

theorem transact_ok (ran : body.runIn (.active store) = (.ok value, .active written)) :
    body.transact store = (.ok value, written) := by
  rw [transact, ran]

theorem transact_error (ran : body.runIn (.active store) = (.error error, reached)) :
    body.transact store = (.error error, store) := by
  rw [transact, ran]

end Rules

section Loops

variable {step : Row → Statements Error Store Unit} {rows : List Row} {store : Store}

theorem runIn_forM_ok {write : Store → Row → Store}
    (each : ∀ row ∈ rows, ∀ store, (step row).runIn (.active store) = (.ok (), .active (write store row))) :
    (rows.forM step).runIn (.active store) = (.ok (), .active (rows.foldl write store)) := by
  induction rows generalizing store with
  | nil => rfl
  | cons row rest ih =>
    rw [List.forM_eq_forM, List.forM_cons, runIn_bind_ok (each row List.mem_cons_self store)]
    apply ih
    intro other member
    exact each other (List.mem_cons_of_mem row member)

theorem runIn_forM_aborted (each : ∀ row ∈ rows, (step row).runIn .aborted = (.ok (), .aborted)) :
    (rows.forM step).runIn .aborted = (.ok (), .aborted) := by
  induction rows with
  | nil => rfl
  | cons row rest ih =>
    rw [List.forM_eq_forM, List.forM_cons, runIn_bind_ok (each row List.mem_cons_self)]
    apply ih
    intro other member
    exact each other (List.mem_cons_of_mem row member)

theorem runIn_forM_aborts {write : Store → Row → Store} {fails : Row → Prop}
    (caught : ∀ row, (step row).runIn .aborted = (.ok (), .aborted))
    (aborts : ∀ row, fails row → ∀ store, (step row).runIn (.active store) = (.ok (), .aborted))
    (writes : ∀ row, ¬ fails row → ∀ store, (step row).runIn (.active store) = (.ok (), .active (write store row)))
    (failing : ∃ row ∈ rows, fails row) :
    (rows.forM step).runIn (.active store) = (.ok (), .aborted) := by
  induction rows generalizing store with
  | nil =>
    obtain ⟨_, member, _⟩ := failing
    cases member
  | cons row rest ih =>
    rw [List.forM_eq_forM, List.forM_cons]
    by_cases fault : fails row
    · rw [runIn_bind_ok (aborts row fault store)]
      exact runIn_forM_aborted fun other _ => caught other
    · rw [runIn_bind_ok (writes row fault store)]
      apply ih
      obtain ⟨other, member, faulty⟩ := failing
      cases member with
      | head => exact absurd faulty fault
      | tail _ later => exact ⟨other, later, faulty⟩

end Loops

end Statements

end LocalCrm.Library
