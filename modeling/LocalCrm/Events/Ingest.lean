import LocalCrm.Erasure.Machine
import LocalCrm.Library.KeyedQueue
import LocalCrm.Webhooks.Uuid

/-! Ingested events, from the request to the trigger check. -/

set_option autoImplicit false

namespace LocalCrm.Events

open Library Webhooks Contacts Delivery Erasure

structure RawEvent where
  name : String
  properties : Option Properties := none
  occurredAt : Option Timestamp := none
  eventId : Option String := none
  externalId : Option String := none
  email : Option String := none
  deriving DecidableEq, Repr

def parseUuid (text : String) : Option EventId := (uuidDigits text).bind readHex

structure EventEnvelope where
  name : String
  properties : Properties
  occurredAt : Option Timestamp
  /-- As written, and the value the database reads from it. -/
  eventId : Option (String × EventId)
  externalId : Option String
  email : Option String
  deriving DecidableEq, Repr

/-- `none` is a rejected item. -/
def eventEnvelopeSchema (boundary : Boundary) (isEmail : String → Bool) (raw : RawEvent) : Option EventEnvelope :=
  let name := jsTrim raw.name
  let externalId := raw.externalId.map jsTrim
  let email := raw.email.map boundary.normalizeSuppressionEmail
  let eventId := raw.eventId.bind fun text => (parseUuid text).map fun value => (text, value)
  if name.isEmpty then none
  else if raw.eventId.isSome && eventId.isNone then none
  else if externalId.any fun text => text.isEmpty || 255 < text.length then none
  else if email.any fun text => !isEmail text then none
  else if !(truthy email || truthy externalId) then none
  else
    some
      { name, properties := raw.properties.getD [], occurredAt := raw.occurredAt, eventId, externalId, email }

structure IngestJob where
  spelling : String
  data : EventsIngestJob
  deriving DecidableEq, Repr

abbrev IngestJobId := WorkspaceId × String

def IngestJob.id (job : IngestJob) : IngestJobId := (job.data.workspaceId, job.spelling)

/-- An item without an event id gets a new one, an item without a time the request's. -/
def EventEnvelope.job (item : EventEnvelope) (workspaceId : WorkspaceId) (ingestedAt : Timestamp)
    (randomUUID : EventId) : IngestJob :=
  let eventId := item.eventId.getD (uuidTextOf randomUUID, randomUUID)
  { spelling := eventId.1
    data :=
      { workspaceId, eventId := eventId.2, occurredAt := item.occurredAt.getD ingestedAt, name := item.name
        properties := item.properties, externalId := item.externalId, email := item.email } }

structure TriggerJob where
  eventId : IngestJobId
  contactId : ContactId
  eventName : String
  deriving DecidableEq, Repr

inductive IngestStage where
  | taken
  | stored (contactId : ContactId)
  | enqueued
  deriving DecidableEq, Repr

structure IngestAttempt where
  job : IngestJob
  stage : IngestStage
  deriving DecidableEq, Repr

structure IngestState where
  db : Database
  events : Table EventRow.key := Table.empty
  jobs : KeyedQueue IngestJob.id := {}
  triggers : KeyedQueue TriggerJob.eventId := {}
  attempts : Nat → Option IngestAttempt := fun _ => none
  /-- The accepted items, in the order of their enqueues. -/
  accepted : List IngestJob := []

inductive IngestAction where
  | accept (ingestedAt : Timestamp) (randomUUID : EventId) (raw : RawEvent)
  | take (slot : Nat) (job : IngestJob)
  | store (slot : Nat) (newId : ContactId)
  | enqueue (slot : Nat)
  | finish (slot : Nat)
  | crash (slot : Nat)
  | expire (spelling : String)
  | checked (job : TriggerJob)
  | expireTrigger (spelling : String)

structure IngestEvent where
  workspaceId : WorkspaceId
  action : IngestAction

section Steps

variable (platform : Platform) (boundary : Boundary) (isEmail : String → Bool)

def eventRowOf (job : EventsIngestJob) (contactId : ContactId) : EventRow :=
  { workspaceId := job.workspaceId, id := job.eventId, occurredAt := job.occurredAt, contactId, name := job.name
    properties := job.properties }

def IngestState.attemptAt (state : IngestState) (workspaceId : WorkspaceId) (slot : Nat) (ready : IngestStage → Bool) :
    Option IngestAttempt :=
  (state.attempts slot).filter fun attempt => attempt.job.data.workspaceId == workspaceId && ready attempt.stage

def IngestState.moved (state : IngestState) (slot : Nat) (attempt : Option IngestAttempt) : IngestState :=
  { state with attempts := Function.update state.attempts slot attempt }

/-- A workspace deleted by now gets nothing, and an upsert that fails throws, which is a crash. -/
def storeAttempt (state : IngestState) (slot : Nat) (attempt : IngestAttempt) (newId : ContactId) :
    Option IngestState :=
  let job := attempt.job.data
  if isWorkspaceSoftDeleted state.db.organizations job.workspaceId then
    some (state.moved slot (some { attempt with stage := .enqueued }))
  else
    match upsertContactByIdentity platform state.db job.workspaceId newId
        { externalId := job.externalId, email := job.email, properties := some job.properties } with
    | .error _ => none
    | .ok (result, db) =>
      some
        { state.moved slot (some { attempt with stage := .stored result.contactId }) with
          db
          events := state.events.insert (eventRowOf job result.contactId) }

def ingestStep (state : IngestState) (event : IngestEvent) : Option IngestState :=
  let workspaceId := event.workspaceId
  match event.action with
  | .accept ingestedAt randomUUID raw =>
    if isWorkspaceSoftDeleted state.db.organizations workspaceId then none
    else if state.accepted.any (fun job => job.data.eventId == randomUUID) || 16 ^ 32 ≤ randomUUID then none
    else
      match eventEnvelopeSchema boundary isEmail raw with
      | none => some state
      | some item =>
        let job := item.job workspaceId ingestedAt randomUUID
        some { state with jobs := state.jobs.add job, accepted := state.accepted ++ [job] }
  | .take slot job =>
    if job ∈ state.jobs.pending ∧ job.data.workspaceId = workspaceId ∧ state.attempts slot = none then
      some (state.moved slot (some { job, stage := .taken }))
    else none
  | .store slot newId =>
    (state.attemptAt workspaceId slot (· == .taken)).bind fun attempt =>
      storeAttempt platform state slot attempt newId
  | .enqueue slot =>
    (state.attempts slot).bind fun attempt =>
      if attempt.job.data.workspaceId ≠ workspaceId then none
      else
        match attempt.stage with
        | .stored contactId =>
          let job : TriggerJob := { eventId := attempt.job.id, contactId, eventName := attempt.job.data.name }
          some { state.moved slot (some { attempt with stage := .enqueued }) with triggers := state.triggers.add job }
        | .taken | .enqueued => none
  | .finish slot =>
    (state.attemptAt workspaceId slot (· == .enqueued)).map fun attempt =>
      { state.moved slot none with jobs := state.jobs.finish attempt.job }
  | .crash slot => (state.attemptAt workspaceId slot fun _ => true).map fun _ => state.moved slot none
  | .expire spelling => some { state with jobs := state.jobs.expire (workspaceId, spelling) }
  | .checked job =>
    if job.eventId.1 = workspaceId then some { state with triggers := state.triggers.finish job } else none
  | .expireTrigger spelling => some { state with triggers := state.triggers.expire (workspaceId, spelling) }

end Steps

section Inversion

variable {platform : Platform} {boundary : Boundary} {isEmail : String → Bool}
variable {state next : IngestState} {workspaceId : WorkspaceId} {action : IngestAction}

inductive Ingests (boundary : Boundary) (isEmail : String → Bool) (state : IngestState) (workspaceId : WorkspaceId) :
    IngestAction → IngestState → Prop where
  | rejected (ingestedAt : Timestamp) (randomUUID : EventId) (raw : RawEvent)
      (refused : eventEnvelopeSchema boundary isEmail raw = none) :
    Ingests boundary isEmail state workspaceId (.accept ingestedAt randomUUID raw) state
  | accept (ingestedAt : Timestamp) (randomUUID : EventId) (raw : RawEvent) (item : EventEnvelope)
      (live : isWorkspaceSoftDeleted state.db.organizations workspaceId = false)
      (unused : ∀ job ∈ state.accepted, job.data.eventId ≠ randomUUID) (small : randomUUID < 16 ^ 32)
      (parsed : eventEnvelopeSchema boundary isEmail raw = some item) :
    Ingests boundary isEmail state workspaceId (.accept ingestedAt randomUUID raw)
      { state with
        jobs := state.jobs.add (item.job workspaceId ingestedAt randomUUID)
        accepted := state.accepted ++ [item.job workspaceId ingestedAt randomUUID] }
  | take (slot : Nat) (job : IngestJob) (waiting : job ∈ state.jobs.pending)
      (owned : job.data.workspaceId = workspaceId) (free : state.attempts slot = none) :
    Ingests boundary isEmail state workspaceId (.take slot job) (state.moved slot (some { job, stage := .taken }))
  | dropped (slot : Nat) (newId : ContactId) (attempt : IngestAttempt) (here : state.attempts slot = some attempt)
      (owned : attempt.job.data.workspaceId = workspaceId) (fresh : attempt.stage = .taken)
      (deleted : isWorkspaceSoftDeleted state.db.organizations workspaceId = true) :
    Ingests boundary isEmail state workspaceId (.store slot newId)
      (state.moved slot (some { attempt with stage := .enqueued }))
  | store (slot : Nat) (newId : ContactId) (attempt : IngestAttempt) (contactId : ContactId) (db : Database)
      (here : state.attempts slot = some attempt) (owned : attempt.job.data.workspaceId = workspaceId)
      (fresh : attempt.stage = .taken) (organizations : db.organizations = state.db.organizations) :
    Ingests boundary isEmail state workspaceId (.store slot newId)
      { state.moved slot (some { attempt with stage := .stored contactId }) with
        db
        events := state.events.insert (eventRowOf attempt.job.data contactId) }
  | enqueue (slot : Nat) (attempt : IngestAttempt) (contactId : ContactId) (here : state.attempts slot = some attempt)
      (owned : attempt.job.data.workspaceId = workspaceId) (stored : attempt.stage = .stored contactId) :
    Ingests boundary isEmail state workspaceId (.enqueue slot)
      { state.moved slot (some { attempt with stage := .enqueued }) with
        triggers := state.triggers.add
          { eventId := attempt.job.id, contactId, eventName := attempt.job.data.name } }
  | finish (slot : Nat) (attempt : IngestAttempt) (here : state.attempts slot = some attempt)
      (owned : attempt.job.data.workspaceId = workspaceId) (enqueued : attempt.stage = .enqueued) :
    Ingests boundary isEmail state workspaceId (.finish slot)
      { state.moved slot none with jobs := state.jobs.finish attempt.job }
  | crash (slot : Nat) (attempt : IngestAttempt) (here : state.attempts slot = some attempt)
      (owned : attempt.job.data.workspaceId = workspaceId) :
    Ingests boundary isEmail state workspaceId (.crash slot) (state.moved slot none)
  | expire (spelling : String) :
    Ingests boundary isEmail state workspaceId (.expire spelling)
      { state with jobs := state.jobs.expire (workspaceId, spelling) }
  | checked (job : TriggerJob) (owned : job.eventId.1 = workspaceId) :
    Ingests boundary isEmail state workspaceId (.checked job) { state with triggers := state.triggers.finish job }
  | expireTrigger (spelling : String) :
    Ingests boundary isEmail state workspaceId (.expireTrigger spelling)
      { state with triggers := state.triggers.expire (workspaceId, spelling) }

theorem upsertContactByIdentity_organizations {db after : Database} {newId : ContactId}
    {input : UpsertContactIdentityInput} {result : UpsertContactIdentityResult}
    (done : upsertContactByIdentity platform db workspaceId newId input = .ok (result, after)) :
    after.organizations = db.organizations := by
  unfold upsertContactByIdentity at done
  split at done
  · unfold insertContact at done
    split at done
    · cases done
    · split at done
      · cases done
      · cases done
        rfl
  · simp only at done
    split at done
    · cases done
    · cases done
      unfold writeContact recordSubscriptionStatusChange
      split <;> rfl

theorem attemptAt_some {slot : Nat} {ready : IngestStage → Bool} {attempt : IngestAttempt}
    (found : state.attemptAt workspaceId slot ready = some attempt) :
    state.attempts slot = some attempt ∧ attempt.job.data.workspaceId = workspaceId ∧ ready attempt.stage = true := by
  obtain ⟨here, passed⟩ := Option.filter_eq_some_iff.mp found
  rw [Bool.and_eq_true, beq_iff_eq] at passed
  exact ⟨here, passed⟩

theorem ingests (taken : ingestStep platform boundary isEmail state { workspaceId, action } = some next) :
    Ingests boundary isEmail state workspaceId action next := by
  cases action with
  | accept ingestedAt randomUUID raw =>
    simp only [ingestStep] at taken
    split at taken
    · cases taken
    · next live =>
      split at taken
      · cases taken
      · next unused =>
        split at taken
        · next refused =>
          cases taken
          exact .rejected ingestedAt randomUUID raw refused
        · next item parsed =>
          cases taken
          simp only [Bool.or_eq_true, List.any_eq_true, beq_iff_eq, decide_eq_true_eq, not_or, not_exists,
            not_and] at unused
          exact .accept ingestedAt randomUUID raw item (Bool.eq_false_iff.mpr live) unused.1
            (Nat.lt_of_not_le unused.2) parsed
  | take slot job =>
    simp only [ingestStep] at taken
    split at taken
    · next ready =>
      cases taken
      exact .take slot job ready.1 ready.2.1 ready.2.2
    · cases taken
  | store slot newId =>
    obtain ⟨attempt, found, stored⟩ := Option.bind_eq_some_iff.mp taken
    obtain ⟨here, owned, fresh⟩ := attemptAt_some found
    have stage := beq_iff_eq.mp fresh
    simp only at owned
    unfold storeAttempt at stored
    simp only at stored
    split at stored
    · next deleted =>
      cases stored
      exact .dropped slot newId attempt here owned stage (owned ▸ deleted)
    · split at stored
      · cases stored
      · next result db done =>
        cases stored
        exact .store slot newId attempt result.contactId db here owned stage
          (upsertContactByIdentity_organizations done)
  | enqueue slot =>
    obtain ⟨attempt, here, enqueued⟩ := Option.bind_eq_some_iff.mp taken
    split at enqueued
    · cases enqueued
    · next owned =>
      split at enqueued
      · next contactId stored =>
        cases enqueued
        exact .enqueue slot attempt contactId here (not_not.mp owned) stored
      · cases enqueued
      · cases enqueued
  | finish slot =>
    obtain ⟨attempt, found, rfl⟩ := Option.map_eq_some_iff.mp taken
    obtain ⟨here, owned, enqueued⟩ := attemptAt_some found
    exact .finish slot attempt here owned (beq_iff_eq.mp enqueued)
  | crash slot =>
    obtain ⟨attempt, found, rfl⟩ := Option.map_eq_some_iff.mp taken
    obtain ⟨here, owned, _⟩ := attemptAt_some found
    exact .crash slot attempt here owned
  | expire spelling =>
    cases taken
    exact .expire spelling
  | checked job =>
    simp only [ingestStep] at taken
    split at taken
    · next owned =>
      cases taken
      exact .checked job owned
    · cases taken
  | expireTrigger spelling =>
    cases taken
    exact .expireTrigger spelling

end Inversion

end LocalCrm.Events
