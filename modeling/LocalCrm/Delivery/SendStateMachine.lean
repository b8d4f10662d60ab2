import LocalCrm.Schema

/-! The documented send-status matrix: which status may follow which, and who may write the change. -/

set_option autoImplicit false

namespace LocalCrm.Delivery

inductive SendStatusWriter where
  | worker
  | reconciler
  | preSendGate
  deriving DecidableEq, Repr

structure SendTransition where
  target : SendStatus
  writers : List SendStatusWriter
  trigger : String
  deriving DecidableEq, Repr

def sendStatusTransitions : SendStatus → List SendTransition
  | .dispatching =>
    [{ target := .sent, writers := [.worker], trigger := "unit 3, SendGrid 2xx response" },
     { target := .failed, writers := [.worker], trigger := "unit 3, SendGrid permanent 4xx response" },
     { target := .reconciling, writers := [.worker, .reconciler],
       trigger := "worker: unit 3 ambiguous throw (timeout/ECONNRESET/fail-closed default) or " ++
         "interrupted redelivery (a prior claim survived with no terminal write); reconciler: " ++
         "stale-dispatching sweep (age exceeds the max-job-lifetime threshold with no interrupted " ++
         "detection ever having run)" }]
  | .reconciling =>
    [{ target := .sent, writers := [.reconciler],
       trigger := "webhook evidence found in send_events for this send_id" },
     { target := .unknown, writers := [.reconciler],
       trigger := "resolution window (~24h) elapsed with no evidence" }]
  | .unknown =>
    [{ target := .sent, writers := [.reconciler],
       trigger := "late evidence found within the re-scan horizon (~72h)" }]
  | .sent | .failed | .excluded => []

def writersFor (source target : SendStatus) : List SendStatusWriter :=
  match (sendStatusTransitions source).find? fun transition => transition.target == target with
  | some transition => transition.writers
  | none => []

def Listed (writer : SendStatusWriter) (source target : SendStatus) : Prop :=
  writer ∈ writersFor source target

instance (writer : SendStatusWriter) (source target : SendStatus) : Decidable (Listed writer source target) :=
  inferInstanceAs (Decidable (_ ∈ _))

theorem worker_leaves_only_dispatching {source target : SendStatus} :
    Listed .worker source target ↔
      source = .dispatching ∧ (target = .sent ∨ target = .failed ∨ target = .reconciling) := by
  cases source <;> cases target <;> decide

end LocalCrm.Delivery
