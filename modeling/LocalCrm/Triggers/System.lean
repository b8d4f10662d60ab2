import LocalCrm.Events.Ingest
import LocalCrm.Triggers.TriggerCheck

/-! Every way into a flow over one state: the checks of ingested events, the sweeps and the enrolments of existing
members, among publishes, erasures and changes of contacts. -/

set_option autoImplicit false

namespace LocalCrm.Triggers

open Library Flows Segments Events Erasure Contacts Delivery

structure CheckDelivery where
  job : TriggerJob
  committed : Bool := false
  deriving DecidableEq, Repr

structure StartedRun where
  eventId : IngestJobId
  flowId : FlowId
  flowRunId : FlowRunId
  deriving DecidableEq, Repr

structure EntrySystem where
  ingest : IngestState
  erasureRecords : Table ErasureRecord.id := Table.empty
  conditions : SegmentDefinition → Contact → Bool
  flows : MembershipThreads
  deliveries : Nat → Option CheckDelivery := fun _ => none
  started : List StartedRun := []

inductive EntryAction where
  | ingest (event : IngestEvent)
  | contacts (arrival : Arrival)
  | conditions (conditions : SegmentDefinition → Contact → Bool)
  | flows (turn : Turn WorkerTurn MembershipEvent)
  | take (slot : Nat) (job : TriggerJob)
  | check (slot : Nat) (input : CheckInput)
  | finish (slot : Nat)
  | crash (slot : Nat)

/-- `c.workspace_id = $1 AND c.anonymized_at IS NULL AND …`. -/
def matchedBy (contacts : Table Contact.id) (conditions : SegmentDefinition → Contact → Bool)
    (workspaceId : WorkspaceId) (definition : SegmentDefinition) : List ContactId :=
  (contacts.rows.filter fun contact =>
    contact.workspaceId == workspaceId && contact.anonymizedAt.isNone && conditions definition contact).map Contact.id

namespace EntrySystem

variable (system : EntrySystem)

def members : SegmentMembers where
  matching := matchedBy system.ingest.db.contacts system.conditions
  distinct _ _ := system.ingest.db.contacts.unique.sublist (List.filter_sublist.map _)

def store : MembershipStore := { system.flows.shared with members := system.members }

def threads : MembershipThreads := { shared := system.store, own := system.flows.own }

def tables : FlowTables := system.flows.shared.store.tables

def erasure : ErasureStore :=
  { db := system.ingest.db, events := system.ingest.events, erasureRecords := system.erasureRecords }

def withErasure (store : ErasureStore) : EntrySystem :=
  { system with
    ingest := { system.ingest with db := store.db, events := store.events }
    erasureRecords := store.erasureRecords }

def withTables (tables : FlowTables) : EntrySystem :=
  { system with flows := { system.flows with shared := system.flows.shared.withTables tables } }

def delivered (slot : Nat) (delivery : Option CheckDelivery) : EntrySystem :=
  { system with deliveries := Function.update system.deliveries slot delivery }

end EntrySystem

def entersOtherwise (own : Nat → Worker) : Turn WorkerTurn MembershipEvent → Bool
  | .outside (.members _) | .outside (.triggerCheck _ _ _ _) => true
  | .outside (.advance _ _ _) | .outside (.segment _ _ _) => false
  | .thread id _ => (own id).entering

def writesContacts : Arrival → Bool
  | .deleteContact _ _ _ _ | .contacts _ => true
  | .ingest _ _ | .webhookRows _ _ | .dispatch _ => false

def acknowledges : IngestAction → Bool
  | .checked _ => true
  | .accept _ _ _ | .take _ _ | .store _ _ | .enqueue _ | .finish _ | .crash _ | .expire _ | .expireTrigger _ => false

section Attempts

variable (system : EntrySystem)

def checkedAttempts (attempts : TriggerJob → List EntryAttempt) (slot : Nat) : List EntryAttempt :=
  match system.deliveries slot with
  | none => []
  | some delivery =>
    if (contactOf system.ingest.db.contacts delivery.job.eventId.1 delivery.job.contactId).isSome then
      attempts delivery.job
    else []

def eventAttemptsOf : EntryAction → List EntryAttempt
  | .check slot input => checkedAttempts system (fun job =>
      eventAttempts input system.store job.eventId.1 job.contactId (some job.eventName)) slot
  | .ingest _ | .contacts _ | .conditions _ | .flows _ | .take _ _ | .finish _ | .crash _ => []

def walkOf : EntryAction → Option (EntryInput × SegmentWalk × List ContactId)
  | .flows (.thread id turn) => walkTurn system.store (system.flows.own id) turn
  | .flows (.outside _) | .ingest _ | .contacts _ | .conditions _ | .take _ _ | .check _ _ | .finish _ | .crash _ =>
    none

def walkAttempts : Option (EntryInput × SegmentWalk × List ContactId) → List EntryAttempt
  | none => []
  | some (input, walk, page) => pageAttempts input walk system.tables page

def segmentAttemptsOf : EntryAction → List EntryAttempt
  | .check slot input => checkedAttempts system (fun job =>
      segmentAttempts input system.store job.eventId.1 job.contactId) slot
  | .flows (.thread id turn) => walkAttempts system (walkTurn system.store (system.flows.own id) turn)
  | .flows (.outside _) | .ingest _ | .contacts _ | .conditions _ | .take _ _ | .finish _ | .crash _ => []

def attemptsOf (action : EntryAction) : List EntryAttempt :=
  eventAttemptsOf system action ++ segmentAttemptsOf system action

end Attempts

section Steps

variable (platform : Platform) (boundary : Boundary) (isEmail : String → Bool)

/-- The runs that the event branch of a check has inserted: those the insertion returned a row for. -/
def startedBy (job : TriggerJob) (tables : FlowTables) (attempts : List EntryAttempt) : List StartedRun :=
  (attempts.filter fun attempt => attempt.allowed tables).map fun attempt =>
    { eventId := job.eventId, flowId := attempt.flow.id, flowRunId := attempt.flowRunId }

def entryStep (system : EntrySystem) : EntryAction → Option EntrySystem
  | .ingest event =>
    if acknowledges event.action then none
    else (ingestStep platform boundary isEmail system.ingest event).map fun ingest => { system with ingest }
  | .contacts arrival =>
    if writesContacts arrival then (arrive platform boundary system.erasure arrival).map system.withErasure else none
  | .conditions conditions => some { system with conditions }
  | .flows turn =>
    if entersOtherwise system.flows.own turn then none
    else (membershipStep system.threads turn).map fun flows => { system with flows }
  | .take slot job =>
    if job ∈ system.ingest.triggers.pending ∧ system.deliveries slot = none then
      some (system.delivered slot (some { job }))
    else none
  | .check slot input =>
    match system.deliveries slot with
    | none => none
    | some delivery =>
      let job := delivery.job
      let workspaceId := job.eventId.1
      if delivery.committed then none
      else if input.fresh system.store workspaceId job.contactId (some job.eventName) then
        let checked := processFlowTriggerCheck input system.store workspaceId job.contactId (some job.eventName)
          system.ingest.db.contacts
        some
          { (system.withTables checked).delivered slot (some { delivery with committed := true }) with
            started := system.started ++
              startedBy job system.tables (eventAttemptsOf system (.check slot input)) }
      else none
  | .finish slot =>
    match system.deliveries slot with
    | none => none
    | some delivery =>
      if delivery.committed then
        some
          { system.delivered slot none with
            ingest := { system.ingest with triggers := system.ingest.triggers.finish delivery.job } }
      else none
  | .crash slot => (system.deliveries slot).map fun _ => system.delivered slot none

end Steps

end LocalCrm.Triggers
