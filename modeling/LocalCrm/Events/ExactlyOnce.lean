import LocalCrm.Events.Ingest
import LocalCrm.Library.Unwinding

/-! When an event id stands for one stored event.

The queue tells a repeated item by its id as written and for a while only, the table by id and time.
-/

set_option autoImplicit false

namespace LocalCrm.Events

open Library Webhooks Contacts Delivery Erasure

variable {platform : Platform} {boundary : Boundary} {isEmail : String → Bool}

def firstAccepted (accepted : List IngestJob) (workspaceId : WorkspaceId) (eventId : EventId) : Option IngestJob :=
  accepted.find? fun job => job.data.workspaceId == workspaceId && job.data.eventId == eventId

theorem firstAccepted_append {accepted later : List IngestJob} {workspaceId : WorkspaceId} {eventId : EventId}
    {first : IngestJob} (found : firstAccepted accepted workspaceId eventId = some first) :
    firstAccepted (accepted ++ later) workspaceId eventId = some first := by
  unfold firstAccepted
  rw [List.find?_append]
  exact congrArg (fun found => Option.or found _) found

theorem firstAccepted_of_mem {accepted : List IngestJob} {job : IngestJob} (member : job ∈ accepted) :
    ∃ first ∈ accepted, firstAccepted accepted job.data.workspaceId job.data.eventId = some first ∧
      first.data.workspaceId = job.data.workspaceId ∧ first.data.eventId = job.data.eventId := by
  cases found : firstAccepted accepted job.data.workspaceId job.data.eventId with
  | none => exact absurd (List.find?_eq_none.mp found job member) (by simp)
  | some first =>
    have matching := List.find?_some found
    simp only [Bool.and_eq_true, beq_iff_eq] at matching
    exact ⟨first, List.mem_of_find?_eq_some found, rfl, matching⟩

def eventKey (job : EventsIngestJob) : WorkspaceId × ScrubKey := (job.workspaceId, scrubKey job.occurredAt job.eventId)

def Stored (events : Table EventRow.key) (job : IngestJob) : Prop := eventKey job.data ∈ events.rows.map EventRow.key

theorem stored_insert {events : Table EventRow.key} {job : IngestJob} {row : EventRow} (stored : Stored events job) :
    Stored (events.insert row) job := by
  obtain ⟨existing, member, keyed⟩ := List.mem_map.mp stored
  exact List.mem_map.mpr ⟨existing, Table.mem_insert member, keyed⟩

theorem stored_inserted (events : Table EventRow.key) (job : IngestJob) (contactId : ContactId) :
    Stored (events.insert (eventRowOf job.data contactId)) job := by
  unfold Table.insert
  split
  · next present => exact present
  · exact List.mem_map.mpr ⟨_, List.mem_append_right _ (List.mem_singleton_self _), rfl⟩

structure IngestInvariant (state : IngestState) : Prop where
  waiting : ∀ job ∈ state.jobs.pending, job ∈ state.accepted
  known : ∀ id ∈ state.jobs.retained, ∃ job ∈ state.accepted, job.id = id
  working : ∀ slot attempt, state.attempts slot = some attempt → attempt.job ∈ state.accepted
  live : ∀ job ∈ state.accepted, isWorkspaceSoftDeleted state.db.organizations job.data.workspaceId = false
  spelled : ∀ job ∈ state.accepted, parseUuid job.spelling = some job.data.eventId
  written : ∀ row ∈ state.events.rows, ∃ job ∈ state.accepted, ∃ contactId, row = eventRowOf job.data contactId
  done : ∀ slot attempt, state.attempts slot = some attempt → attempt.stage ≠ .taken → Stored state.events attempt.job
  first : ∀ workspaceId eventId job, firstAccepted state.accepted workspaceId eventId = some job →
    job ∈ state.jobs.pending ∨ Stored state.events job

theorem parseUuid_uuidTextOf {value : EventId} (small : value < 16 ^ 32) :
    parseUuid (uuidTextOf value) = some value := by
  unfold parseUuid
  rw [uuidDigits_uuidTextOf small, Option.bind_some, readHex_hexText, Nat.mod_eq_of_lt small]

theorem parseUuid_job {raw : RawEvent} {item : EventEnvelope} {workspaceId : WorkspaceId} {ingestedAt : Timestamp}
    {randomUUID : EventId} (parsed : eventEnvelopeSchema boundary isEmail raw = some item)
    (small : randomUUID < 16 ^ 32) :
    parseUuid (item.job workspaceId ingestedAt randomUUID).spelling =
      some (item.job workspaceId ingestedAt randomUUID).data.eventId := by
  have given : item.eventId = raw.eventId.bind fun text => (parseUuid text).map fun value => (text, value) := by
    unfold eventEnvelopeSchema at parsed
    simp only at parsed
    split at parsed
    · cases parsed
    split at parsed
    · cases parsed
    split at parsed
    · cases parsed
    split at parsed
    · cases parsed
    split at parsed
    · cases parsed
    cases parsed
    rfl
  unfold EventEnvelope.job
  cases written : item.eventId with
  | none => exact parseUuid_uuidTextOf small
  | some pair =>
    rw [written] at given
    obtain ⟨text, _, read⟩ := Option.bind_eq_some_iff.mp given.symm
    obtain ⟨value, valued, rfl⟩ := Option.map_eq_some_iff.mp read
    exact valued

section Invariant

variable {state next : IngestState} {workspaceId : WorkspaceId} {action : IngestAction}

theorem forall_moved {slot : Nat} {attempt : Option IngestAttempt} {property : IngestAttempt → Prop}
    (holds : ∀ slot attempt, state.attempts slot = some attempt → property attempt)
    (new : ∀ now, attempt = some now → property now) :
    ∀ other now, (state.moved slot attempt).attempts other = some now → property now := by
  intro other now here
  by_cases same : other = slot
  · subst same
    exact new now (by simpa [IngestState.moved] using here)
  · exact holds other now (by simpa [IngestState.moved, Function.update_of_ne same] using here)

theorem accept_first (holds : IngestInvariant state) {job : IngestJob}
    (spelled : parseUuid job.spelling = some job.data.eventId) (workspaceId : WorkspaceId) (eventId : EventId)
    (first : IngestJob) (found : firstAccepted (state.accepted ++ [job]) workspaceId eventId = some first) :
    first ∈ (state.jobs.add job).pending ∨ Stored state.events first := by
  cases before : firstAccepted state.accepted workspaceId eventId with
  | some older =>
    rw [firstAccepted_append before] at found
    cases found
    rcases holds.first workspaceId eventId first before with waiting | stored
    · exact .inl (KeyedQueue.mem_pending_add.mpr (.inl waiting))
    · exact .inr stored
  | none =>
    -- nothing under this event id was accepted before, so the queue cannot know its spelling
    unfold firstAccepted at found before
    rw [List.find?_append, before, Option.none_or] at found
    have matching := List.find?_some found
    obtain rfl := List.mem_singleton.mp (List.mem_of_find?_eq_some found)
    simp only [Bool.and_eq_true, beq_iff_eq] at matching
    refine .inl (KeyedQueue.mem_pending_add.mpr (.inr ⟨rfl, fun knows => ?_⟩))
    have accepted : ∃ older ∈ state.accepted, older.id = first.id := by
      rcases knows with waiting | kept
      · obtain ⟨older, member, same⟩ := List.mem_map.mp waiting
        exact ⟨older, holds.waiting older member, same⟩
      · exact holds.known _ kept
    obtain ⟨older, member, same⟩ := accepted
    have workspace : older.data.workspaceId = first.data.workspaceId := congrArg Prod.fst same
    have spelling : older.spelling = first.spelling := congrArg Prod.snd same
    have value := holds.spelled older member
    rw [spelling, spelled] at value
    apply List.find?_eq_none.mp before older member
    rw [workspace, ← Option.some.inj value, matching.1, matching.2]
    simp

/-- A job was accepted in a live workspace, and no step deletes one. -/
theorem IngestInvariant.undeleted {slot : Nat} {attempt : IngestAttempt} (holds : IngestInvariant state)
    (here : state.attempts slot = some attempt) (owned : attempt.job.data.workspaceId = workspaceId) :
    isWorkspaceSoftDeleted state.db.organizations workspaceId = false :=
  owned ▸ holds.live attempt.job (holds.working slot attempt here)

theorem IngestInvariant.first_of_row {row : EventRow} (holds : IngestInvariant state)
    (member : row ∈ state.events.rows) (own : row.workspaceId = workspaceId) :
    ∃ first, firstAccepted state.accepted workspaceId row.id = some first := by
  obtain ⟨job, old, _, written⟩ := holds.written row member
  obtain ⟨first, _, found, _⟩ := firstAccepted_of_mem old
  have workspace : job.data.workspaceId = workspaceId := by rw [← own, written]; rfl
  have id : job.data.eventId = row.id := by rw [written]; rfl
  exact ⟨first, workspace ▸ id ▸ found⟩

theorem ingestInvariant_step (holds : IngestInvariant state)
    (taken : ingestStep platform boundary isEmail state { workspaceId, action } = some next) :
    IngestInvariant next := by
  cases ingests taken with
  | rejected => exact holds
  | accept ingestedAt randomUUID raw item live unused small parsed =>
    have spelled : parseUuid (item.job workspaceId ingestedAt randomUUID).spelling =
        some (item.job workspaceId ingestedAt randomUUID).data.eventId := parseUuid_job parsed small
    refine
      { waiting := fun job member => ?_
        known := fun id kept => ?_
        working := fun slot attempt here => List.mem_append_left _ (holds.working slot attempt here)
        live := fun job member => ?_
        spelled := fun job member => ?_
        written := fun row member => ?_
        done := holds.done
        first := accept_first holds spelled }
    · rcases KeyedQueue.mem_pending_add.mp member with waiting | ⟨rfl, _⟩
      · exact List.mem_append_left _ (holds.waiting job waiting)
      · exact List.mem_append_right _ (List.mem_singleton_self _)
    · rw [KeyedQueue.retained_add] at kept
      obtain ⟨job, member, same⟩ := holds.known id kept
      exact ⟨job, List.mem_append_left _ member, same⟩
    · rcases List.mem_append.mp member with older | last
      · exact holds.live job older
      · obtain rfl := List.mem_singleton.mp last
        exact live
    · rcases List.mem_append.mp member with older | last
      · exact holds.spelled job older
      · obtain rfl := List.mem_singleton.mp last
        exact spelled
    · obtain ⟨job, older, contactId, same⟩ := holds.written row member
      exact ⟨job, List.mem_append_left _ older, contactId, same⟩
  | take slot job waiting owned free =>
    refine { holds with working := ?_, done := ?_ }
    · apply forall_moved holds.working
      intro now same
      cases same
      exact holds.waiting job waiting
    · apply forall_moved holds.done
      intro now same fresh
      cases same
      exact absurd rfl fresh
  | dropped slot newId attempt here owned fresh deleted =>
    cases deleted.symm.trans (holds.undeleted here owned)
  | store slot newId attempt contactId db here owned fresh organizations =>
    refine
      { waiting := holds.waiting
        known := holds.known
        working := ?_
        live := fun job member => ?_
        spelled := holds.spelled
        written := fun row member => ?_
        done := ?_
        first := fun workspaceId eventId job found => ?_ }
    · apply forall_moved holds.working
      intro now same
      cases same
      exact holds.working slot attempt here
    · show isWorkspaceSoftDeleted db.organizations _ = false
      rw [organizations]
      exact holds.live job member
    · rcases Table.mem_of_insert member with older | rfl
      · exact holds.written row older
      · exact ⟨attempt.job, holds.working slot attempt here, contactId, rfl⟩
    · apply forall_moved
      · exact fun other now there moved => stored_insert (holds.done other now there moved)
      · intro now same _
        cases same
        exact stored_inserted _ _ _
    · rcases holds.first workspaceId eventId job found with waiting | stored
      · exact .inl waiting
      · exact .inr (stored_insert stored)
  | enqueue slot attempt contactId here owned stored =>
    refine { holds with working := ?_, done := ?_ }
    · apply forall_moved holds.working
      intro now same
      cases same
      exact holds.working slot attempt here
    · apply forall_moved holds.done
      intro now same _
      cases same
      exact holds.done slot attempt here (by rw [stored]; exact IngestStage.noConfusion)
  | finish slot attempt here owned enqueued =>
    -- the job leaves the queue with its event stored, so the first of its id stays accounted for
    have finished := holds.done slot attempt here (by rw [enqueued]; decide)
    refine
      { holds with
        waiting := fun job member => ?_
        known := fun id kept => ?_
        working := ?_
        done := ?_
        first := fun workspaceId eventId job found => ?_ }
    · exact holds.waiting job (KeyedQueue.mem_pending_finish.mp member).1
    · rcases KeyedQueue.mem_retained_finish.mp kept with ⟨rfl, _⟩ | older
      · exact ⟨attempt.job, holds.working slot attempt here, rfl⟩
      · exact holds.known id older
    · apply forall_moved holds.working
      intro now same
      cases same
    · apply forall_moved holds.done
      intro now same
      cases same
    · rcases holds.first workspaceId eventId job found with waiting | stored
      · by_cases same : job = attempt.job
        · rw [same]
          exact .inr finished
        · exact .inl (KeyedQueue.mem_pending_finish.mpr ⟨waiting, same⟩)
      · exact .inr stored
  | crash slot attempt here owned =>
    refine { holds with working := ?_, done := ?_ }
    · apply forall_moved holds.working
      intro now same
      cases same
    · apply forall_moved holds.done
      intro now same
      cases same
  | expire spelling =>
    refine { holds with known := fun id kept => ?_ }
    exact holds.known id (KeyedQueue.mem_retained_expire.mp kept).1
  | checked | expireTrigger => exact { holds with }

end Invariant

section Faithful

structure Stores (row : EventRow) (job : IngestJob) : Prop where
  occurredAt : row.occurredAt = job.data.occurredAt
  name : row.name = job.data.name
  properties : row.properties = job.data.properties

def Faithful (workspaceId : WorkspaceId) (state : IngestState) : Prop :=
  ∀ row ∈ state.events.rows, row.workspaceId = workspaceId →
    ∃ first, firstAccepted state.accepted workspaceId row.id = some first ∧ Stores row first

/-- A delivery that stores repeats the first item accepted under its event id: its time always, its name and
properties where no row stands there yet. -/
def Repeats (workspaceId : WorkspaceId) (state : IngestState) (event : IngestEvent) (_ : IngestState) : Prop :=
  match event.action with
  | .store slot _ => event.workspaceId = workspaceId → ∀ attempt first, state.attempts slot = some attempt →
    firstAccepted state.accepted workspaceId attempt.job.data.eventId = some first →
      attempt.job.data.occurredAt = first.data.occurredAt ∧
        (Stored state.events attempt.job ∨
          (attempt.job.data.name = first.data.name ∧ attempt.job.data.properties = first.data.properties))
  | .accept _ _ _ | .take _ _ | .enqueue _ | .finish _ | .crash _ | .expire _ | .checked _ | .expireTrigger _ => True

variable {state next : IngestState} {workspaceId : WorkspaceId}

theorem faithful_append (holds : IngestInvariant state) {later : List IngestJob}
    (events : next.events = state.events) (accepted : next.accepted = state.accepted ++ later) :
    Faithful workspaceId next ↔ Faithful workspaceId state := by
  have same : ∀ row ∈ state.events.rows, row.workspaceId = workspaceId →
      firstAccepted next.accepted workspaceId row.id = firstAccepted state.accepted workspaceId row.id := by
    intro row member own
    obtain ⟨first, found⟩ := holds.first_of_row member own
    rw [accepted, firstAccepted_append found, found]
  constructor
  · intro faithful row member own
    rw [← same row member own]
    exact faithful row (events ▸ member) own
  · intro faithful row member own
    rw [events] at member
    rw [same row member own]
    exact faithful row member own

theorem faithful_same (holds : IngestInvariant state) (events : next.events = state.events)
    (accepted : next.accepted = state.accepted) : Faithful workspaceId next ↔ Faithful workspaceId state :=
  faithful_append holds events (accepted.trans (List.append_nil _).symm)

theorem stores_eventRowOf {job : EventsIngestJob} {first : IngestJob} {contactId : ContactId} :
    Stores (eventRowOf job contactId) first ↔ job.occurredAt = first.data.occurredAt ∧ job.name = first.data.name ∧
      job.properties = first.data.properties := by
  constructor
  · exact fun stores => ⟨stores.occurredAt, stores.name, stores.properties⟩
  · rintro ⟨occurredAt, name, properties⟩
    exact ⟨occurredAt, name, properties⟩

theorem faithful_store (holds : IngestInvariant state) {attempt : IngestAttempt} {contactId : ContactId} {slot : Nat}
    (here : state.attempts slot = some attempt) (owned : attempt.job.data.workspaceId = workspaceId)
    (events : next.events = state.events.insert (eventRowOf attempt.job.data contactId))
    (accepted : next.accepted = state.accepted) {newId : ContactId} :
    Faithful workspaceId next ↔
      Faithful workspaceId state ∧ Repeats workspaceId state { workspaceId, action := .store slot newId } next := by
  obtain ⟨first, _, found, _⟩ := firstAccepted_of_mem (holds.working slot attempt here)
  rw [owned] at found
  have repeats : Repeats workspaceId state { workspaceId, action := .store slot newId } next ↔
      attempt.job.data.occurredAt = first.data.occurredAt ∧
        (Stored state.events attempt.job ∨
          (attempt.job.data.name = first.data.name ∧ attempt.job.data.properties = first.data.properties)) := by
    constructor
    · exact fun repeats => repeats rfl attempt first here found
    · intro agrees _ other known there located
      rw [here] at there
      cases there
      rw [found] at located
      cases located
      exact agrees
  rw [repeats]
  by_cases stored : Stored state.events attempt.job
  · have unchanged : next.events = state.events := by
      rw [events]
      exact dif_pos stored
    rw [faithful_same holds unchanged accepted]
    refine (and_iff_left_of_imp fun faithful => ⟨?_, .inl stored⟩).symm
    -- the row in place has the item's own time, and it is the first one's
    obtain ⟨row, member, keyed⟩ := List.mem_map.mp stored
    have workspace : row.workspaceId = attempt.job.data.workspaceId := congrArg Prod.fst keyed
    have scrub : scrubKey row.occurredAt row.id = scrubKey attempt.job.data.occurredAt attempt.job.data.eventId :=
      congrArg Prod.snd keyed
    have parts := Prod.mk.inj (toLex.injective scrub)
    obtain ⟨known, located, stores⟩ := faithful row member (workspace.trans owned)
    rw [parts.2, found] at located
    cases located
    exact parts.1.symm.trans stores.occurredAt
  · have grown : next.events.rows = state.events.rows ++ [eventRowOf attempt.job.data contactId] := by
      rw [events]
      exact congrArg Table.rows (dif_neg stored)
    constructor
    · intro faithful
      refine ⟨fun row member own => ?_, ?_⟩
      · rw [← accepted]
        exact faithful row (by rw [grown]; exact List.mem_append_left _ member) own
      · have inserted : eventRowOf attempt.job.data contactId ∈ next.events.rows := by
          rw [grown]
          exact List.mem_append_right _ (List.mem_singleton_self _)
        obtain ⟨known, located, stores⟩ := faithful _ inserted owned
        rw [accepted] at located
        have same : known = first := Option.some.inj (located.symm.trans found)
        rw [same, stores_eventRowOf] at stores
        exact ⟨stores.1, .inr stores.2⟩
    · rintro ⟨faithful, time, agrees⟩ row member own
      rw [grown] at member
      rw [accepted]
      rcases List.mem_append.mp member with older | last
      · exact faithful row older own
      · cases List.mem_singleton.mp last
        exact ⟨first, found, stores_eventRowOf.mpr ⟨time, agrees.resolve_left stored⟩⟩

theorem faithful_store_elsewhere {row : EventRow} (apart : row.workspaceId ≠ workspaceId)
    (events : next.events = state.events.insert row) (accepted : next.accepted = state.accepted) :
    Faithful workspaceId next ↔ Faithful workspaceId state := by
  unfold Faithful
  rw [accepted, events]
  constructor
  · exact fun faithful other member own => faithful other (Table.mem_insert member) own
  · intro faithful other member own
    rcases Table.mem_of_insert member with older | rfl
    · exact faithful other older own
    · exact absurd own apart

theorem faithful_step {event : IngestEvent} (holds : IngestInvariant state)
    (taken : ingestStep platform boundary isEmail state event = some next) :
    Faithful workspaceId next ↔ Faithful workspaceId state ∧ Repeats workspaceId state event next := by
  obtain ⟨owner, action⟩ := event
  have unaffected : Repeats workspaceId state { workspaceId := owner, action } next →
      (Faithful workspaceId next ↔ Faithful workspaceId state) →
      (Faithful workspaceId next ↔
        Faithful workspaceId state ∧ Repeats workspaceId state { workspaceId := owner, action } next) :=
    fun repeats same => same.trans (and_iff_left repeats).symm
  cases ingests taken with
  | rejected => exact unaffected trivial Iff.rfl
  | accept => exact unaffected trivial (faithful_append holds rfl rfl)
  | take | enqueue | finish | crash | expire | checked | expireTrigger =>
    exact unaffected trivial (faithful_same holds rfl rfl)
  | dropped slot newId attempt here owned fresh deleted =>
    cases deleted.symm.trans (holds.undeleted here owned)
  | store slot newId attempt contactId db here owned fresh organizations =>
    by_cases same : owner = workspaceId
    · subst same
      apply faithful_store holds here owned
      · rfl
      · rfl
    · have apart : (eventRowOf attempt.job.data contactId).workspaceId ≠ workspaceId :=
        fun equal => same (owned.symm.trans equal)
      exact unaffected (fun equal => absurd equal same) (faithful_store_elsewhere apart rfl rfl)

end Faithful

section Workspaces

def IngestStage.progress : IngestStage → Nat
  | .taken => 0
  | .stored _ => 1
  | .enqueued => 2

structure StoredContent where
  eventId : EventId
  occurredAt : Timestamp
  name : String
  properties : Properties
  deriving DecidableEq, Repr

def storedContent (row : EventRow) : StoredContent :=
  { eventId := row.id, occurredAt := row.occurredAt, name := row.name, properties := row.properties }

structure IngestView where
  events : List StoredContent
  jobs : List IngestJob × List IngestJobId
  attempts : Nat → Option (IngestJob × Nat)
  accepted : List IngestJob

def ownEvents (workspaceId : WorkspaceId) (events : Table EventRow.key) : List StoredContent :=
  (events.rows.filter fun row => row.workspaceId == workspaceId).map storedContent

def ownJob (workspaceId : WorkspaceId) (id : IngestJobId) : Bool := id.1 == workspaceId

def ownAttempt (workspaceId : WorkspaceId) (attempt : Option IngestAttempt) : Option (IngestJob × Nat) :=
  (attempt.filter fun attempt => attempt.job.data.workspaceId == workspaceId).map fun attempt =>
    (attempt.job, attempt.stage.progress)

def ingestView (workspaceId : WorkspaceId) (state : IngestState) : IngestView where
  events := ownEvents workspaceId state.events
  jobs := state.jobs.region (ownJob workspaceId)
  attempts := fun slot => ownAttempt workspaceId (state.attempts slot)
  accepted := state.accepted.filter fun job => job.data.workspaceId == workspaceId

variable {state next : IngestState} {workspaceId owner : WorkspaceId}

theorem ingestView_congr {other : IngestState}
    (events : ownEvents workspaceId state.events = ownEvents workspaceId other.events)
    (jobs : state.jobs.region (ownJob workspaceId) = other.jobs.region (ownJob workspaceId))
    (attempts : ∀ slot, ownAttempt workspaceId (state.attempts slot) = ownAttempt workspaceId (other.attempts slot))
    (accepted : (state.accepted.filter fun job => job.data.workspaceId == workspaceId) =
      other.accepted.filter fun job => job.data.workspaceId == workspaceId) :
    ingestView workspaceId state = ingestView workspaceId other := by
  unfold ingestView
  rw [events, jobs, accepted, funext attempts]

theorem ownAttempt_elsewhere {attempt : IngestAttempt} (apart : attempt.job.data.workspaceId ≠ workspaceId) :
    ownAttempt workspaceId (some attempt) = none := by
  simp [ownAttempt, Option.filter, apart]

theorem moved_elsewhere {slot : Nat} {attempt : Option IngestAttempt}
    (before : ownAttempt workspaceId (state.attempts slot) = none) (after : ownAttempt workspaceId attempt = none)
    (other : Nat) :
    ownAttempt workspaceId ((state.moved slot attempt).attempts other) =
      ownAttempt workspaceId (state.attempts other) := by
  by_cases same : other = slot
  · subst same
    simp [IngestState.moved, before, after]
  · simp [IngestState.moved, Function.update_of_ne same]

theorem moved_alike {other : IngestState} {slot : Nat} {attempt also : Option IngestAttempt}
    (alike : ∀ slot, ownAttempt workspaceId (state.attempts slot) = ownAttempt workspaceId (other.attempts slot))
    (new : ownAttempt workspaceId attempt = ownAttempt workspaceId also) (seen : Nat) :
    ownAttempt workspaceId ((state.moved slot attempt).attempts seen) =
      ownAttempt workspaceId ((other.moved slot also).attempts seen) := by
  by_cases same : seen = slot
  · subst same
    simpa [IngestState.moved] using new
  · simpa [IngestState.moved, Function.update_of_ne same] using alike seen

theorem ownEvents_insert_elsewhere {events : Table EventRow.key} {row : EventRow}
    (apart : row.workspaceId ≠ workspaceId) :
    ownEvents workspaceId (events.insert row) = ownEvents workspaceId events := by
  unfold Table.insert ownEvents
  split
  · rfl
  · simp [List.filter_append, apart]

theorem ingestView_elsewhere (apart : owner ≠ workspaceId) {action : IngestAction}
    (taken : ingestStep platform boundary isEmail state { workspaceId := owner, action } = some next) :
    ingestView workspaceId next = ingestView workspaceId state := by
  have unseen : ∀ attempt : IngestAttempt, attempt.job.data.workspaceId = owner →
      ownAttempt workspaceId (some attempt) = none := fun attempt owned => ownAttempt_elsewhere (owned ▸ apart)
  have held : ∀ (slot : Nat) (attempt : IngestAttempt), state.attempts slot = some attempt →
      attempt.job.data.workspaceId = owner → ownAttempt workspaceId (state.attempts slot) = none := by
    intro slot attempt here owned
    rw [here]
    exact unseen attempt owned
  have outside : ∀ id : IngestJobId, id.1 = owner → ownJob workspaceId id = false := by
    rintro id rfl
    exact beq_eq_false_iff_ne.mpr apart
  cases ingests taken with
  | rejected | checked | expireTrigger => rfl
  | accept ingestedAt randomUUID raw item live unused small parsed =>
    have foreign : ((item.job owner ingestedAt randomUUID).data.workspaceId == workspaceId) = false :=
      beq_eq_false_iff_ne.mpr apart
    refine ingestView_congr rfl (KeyedQueue.region_add_outside (outside _ rfl)) (fun _ => rfl) ?_
    rw [List.filter_append, List.filter_cons_of_neg (by simp [foreign])]
    exact List.append_nil _
  | take slot job waiting owned free =>
    exact ingestView_congr rfl rfl (moved_elsewhere (by rw [free]; rfl) (unseen _ owned)) rfl
  | dropped slot newId attempt here owned fresh deleted | enqueue slot attempt contactId here owned stored =>
    exact ingestView_congr rfl rfl (moved_elsewhere (held slot attempt here owned) (unseen _ owned)) rfl
  | store slot newId attempt contactId db here owned fresh organizations =>
    have foreign : (eventRowOf attempt.job.data contactId).workspaceId ≠ workspaceId :=
      fun same => apart (owned.symm.trans same)
    exact ingestView_congr (ownEvents_insert_elsewhere foreign) rfl
      (moved_elsewhere (held slot attempt here owned) (unseen _ owned)) rfl
  | finish slot attempt here owned enqueued =>
    exact ingestView_congr rfl (KeyedQueue.region_finish_outside (outside _ owned))
      (moved_elsewhere (held slot attempt here owned) rfl) rfl
  | crash slot attempt here owned =>
    exact ingestView_congr rfl rfl (moved_elsewhere (held slot attempt here owned) rfl) rfl
  | expire spelling => exact ingestView_congr rfl (KeyedQueue.region_expire_outside (outside _ rfl)) (fun _ => rfl) rfl

theorem same_job {left right : Option IngestAttempt} {attempt also : IngestAttempt}
    (alike : ownAttempt workspaceId left = ownAttempt workspaceId right) (here : left = some attempt)
    (there : right = some also) (owned : attempt.job.data.workspaceId = workspaceId)
    (mine : also.job.data.workspaceId = workspaceId) : attempt.job = also.job := by
  rw [here, there] at alike
  simp only [ownAttempt, Option.filter_some, owned, mine, beq_self_eq_true, if_true, Option.map_some,
    Option.some.injEq, Prod.mk.injEq] at alike
  exact alike.1

theorem taken_iff {events : Table EventRow.key} {row : EventRow} (own : row.workspaceId = workspaceId) :
    row.key ∈ events.rows.map EventRow.key ↔
      ∃ content ∈ ownEvents workspaceId events, content.eventId = row.id ∧ content.occurredAt = row.occurredAt := by
  constructor
  · intro taken
    obtain ⟨existing, member, keyed⟩ := List.mem_map.mp taken
    have workspace : existing.workspaceId = row.workspaceId := congrArg Prod.fst keyed
    have scrub : scrubKey existing.occurredAt existing.id = scrubKey row.occurredAt row.id := congrArg Prod.snd keyed
    have parts := Prod.mk.inj (toLex.injective scrub)
    have inside : (existing.workspaceId == workspaceId) = true := beq_iff_eq.mpr (workspace.trans own)
    exact ⟨_, List.mem_map_of_mem (List.mem_filter.mpr ⟨member, inside⟩), parts.2, parts.1⟩
  · rintro ⟨content, listed, id, time⟩
    obtain ⟨existing, member, rfl⟩ := List.mem_map.mp listed
    obtain ⟨stored, inside⟩ := List.mem_filter.mp member
    have workspace : existing.workspaceId = row.workspaceId := (beq_iff_eq.mp inside).trans own.symm
    refine List.mem_map.mpr ⟨existing, stored, ?_⟩
    unfold EventRow.key
    rw [workspace, show existing.occurredAt = row.occurredAt from time, show existing.id = row.id from id]

theorem ownEvents_insert {left right : Table EventRow.key} {row also : EventRow} (own : row.workspaceId = workspaceId)
    (same : ownEvents workspaceId left = ownEvents workspaceId right) (content : storedContent row = storedContent also)
    (mine : also.workspaceId = workspaceId) :
    ownEvents workspaceId (left.insert row) = ownEvents workspaceId (right.insert also) := by
  have id : row.id = also.id := congrArg StoredContent.eventId content
  have time : row.occurredAt = also.occurredAt := congrArg StoredContent.occurredAt content
  have taken : row.key ∈ left.rows.map EventRow.key ↔ also.key ∈ right.rows.map EventRow.key := by
    rw [taken_iff own, taken_iff mine, same, id, time]
  have grown : ∀ (table : Table EventRow.key) (new : EventRow), new.workspaceId = workspaceId →
      new.key ∉ table.rows.map EventRow.key →
      ownEvents workspaceId (table.insert new) = ownEvents workspaceId table ++ [storedContent new] := by
    intro table new belongs fresh
    unfold Table.insert ownEvents
    rw [dif_neg fresh, List.filter_append, List.map_append]
    simp [belongs]
  by_cases present : row.key ∈ left.rows.map EventRow.key
  · unfold Table.insert
    rw [dif_pos present, dif_pos (taken.mp present)]
    exact same
  · rw [grown left row own present, grown right also mine fun found => present (taken.mpr found), same, content]

theorem ingestView_own {other otherNext : IngestState} {action : IngestAction} (holds : IngestInvariant state)
    (also : IngestInvariant other) (same : ingestView workspaceId state = ingestView workspaceId other)
    (taken : ingestStep platform boundary isEmail state { workspaceId, action } = some next)
    (followed : ingestStep platform boundary isEmail other { workspaceId, action } = some otherNext) :
    ingestView workspaceId next = ingestView workspaceId otherNext := by
  have events : ownEvents workspaceId state.events = ownEvents workspaceId other.events :=
    congrArg IngestView.events same
  have jobs : state.jobs.region (ownJob workspaceId) = other.jobs.region (ownJob workspaceId) :=
    congrArg IngestView.jobs same
  have attempts : ∀ slot, ownAttempt workspaceId (state.attempts slot) = ownAttempt workspaceId (other.attempts slot) :=
    congrFun (congrArg IngestView.attempts same)
  have accepted : (state.accepted.filter fun job => job.data.workspaceId == workspaceId) =
      other.accepted.filter fun job => job.data.workspaceId == workspaceId := congrArg IngestView.accepted same
  have inside : ∀ id : IngestJobId, id.1 = workspaceId → ownJob workspaceId id = true := fun id => beq_iff_eq.mpr
  have step := ingests followed
  cases ingests taken with
  | rejected ingestedAt randomUUID raw refused =>
    cases step with
    | rejected => exact same
    | accept _ _ _ item _ _ _ parsed =>
      rw [refused] at parsed
      cases parsed
  | accept ingestedAt randomUUID raw item live unused small parsed =>
    cases step with
    | rejected _ _ _ refused =>
      rw [refused] at parsed
      cases parsed
    | accept _ _ _ known _ _ _ read =>
      rw [parsed] at read
      cases read
      refine ingestView_congr events (KeyedQueue.region_add (inside _ rfl) jobs) attempts ?_
      simp only [List.filter_append, accepted]
  | take slot job waiting owned free =>
    cases step with
    | take => exact ingestView_congr events jobs (moved_alike attempts rfl) accepted
  | dropped slot newId attempt here owned fresh deleted =>
    cases deleted.symm.trans (holds.undeleted here owned)
  | store slot newId attempt contactId db here owned fresh organizations =>
    cases step with
    | dropped _ _ found there mine _ deleted =>
      cases deleted.symm.trans (also.undeleted there mine)
    | store _ _ found foundContact _ there mine _ _ =>
      have job := same_job (attempts slot) here there owned mine
      refine ingestView_congr (ownEvents_insert owned events ?_ mine) jobs (moved_alike attempts ?_) accepted
      · rw [job]
        rfl
      · rw [job]
        simp [ownAttempt, Option.filter, mine, IngestStage.progress]
  | enqueue slot attempt contactId here owned stored =>
    cases step with
    | enqueue _ found foundContact there mine _ =>
      have job := same_job (attempts slot) here there owned mine
      refine ingestView_congr events jobs (moved_alike attempts ?_) accepted
      rw [job]
  | finish slot attempt here owned enqueued =>
    cases step with
    | finish _ found there mine _ =>
      have job := same_job (attempts slot) here there owned mine
      refine ingestView_congr events ?_ (moved_alike attempts rfl) accepted
      show (state.jobs.finish attempt.job).region _ = (other.jobs.finish found.job).region _
      rw [job]
      exact KeyedQueue.region_finish (inside _ mine) jobs
  | crash slot attempt here owned =>
    cases step with
    | crash => exact ingestView_congr events jobs (moved_alike attempts rfl) accepted
  | expire spelling =>
    cases step with
    | expire => exact ingestView_congr events (KeyedQueue.region_expire jobs) attempts accepted
  | checked =>
    cases step with
    | checked => exact ingestView_congr events jobs attempts accepted
  | expireTrigger =>
    cases step with
    | expireTrigger => exact ingestView_congr events jobs attempts accepted

end Workspaces

section ExactlyOnce

def AtMostOneRow (workspaceId : WorkspaceId) (state : IngestState) : Prop :=
  ∀ row ∈ state.events.rows, ∀ other ∈ state.events.rows, row.workspaceId = workspaceId →
    other.workspaceId = workspaceId → row.id = other.id → row = other

def FirstsStored (workspaceId : WorkspaceId) (state : IngestState) : Prop :=
  ∀ eventId first, firstAccepted state.accepted workspaceId eventId = some first →
    ∃ row ∈ state.events.rows, row.workspaceId = workspaceId ∧ row.id = eventId ∧ Stores row first

variable {state : IngestState} {workspaceId : WorkspaceId}

theorem atMostOneRow_of_faithful (faithful : Faithful workspaceId state) : AtMostOneRow workspaceId state := by
  intro row member other listed own mine same
  obtain ⟨first, found, stores⟩ := faithful row member own
  obtain ⟨known, located, also⟩ := faithful other listed mine
  rw [← same, found] at located
  cases located
  have keyed : row.key = other.key := by
    unfold EventRow.key
    rw [own, mine, same, stores.occurredAt, also.occurredAt]
  have there := Table.find?_of_mem member
  rw [keyed, Table.find?_of_mem listed] at there
  exact (Option.some.inj there).symm

theorem faithful_iff (holds : IngestInvariant state) (processed : state.jobs.pending = []) :
    AtMostOneRow workspaceId state ∧ FirstsStored workspaceId state ↔ Faithful workspaceId state := by
  constructor
  · rintro ⟨single, stored⟩ row member own
    obtain ⟨first, found⟩ := holds.first_of_row member own
    obtain ⟨other, listed, mine, same, stores⟩ := stored row.id first found
    rw [single row member other listed own mine same.symm]
    exact ⟨first, same ▸ found, stores⟩
  · intro faithful
    refine ⟨atMostOneRow_of_faithful faithful, fun eventId first found => ?_⟩
    rcases holds.first workspaceId eventId first found with waiting | stored
    · rw [processed] at waiting
      cases waiting
    · obtain ⟨row, member, keyed⟩ := List.mem_map.mp stored
      have matching := List.find?_some found
      simp only [Bool.and_eq_true, beq_iff_eq] at matching
      have workspace : row.workspaceId = first.data.workspaceId := congrArg Prod.fst keyed
      have scrub : scrubKey row.occurredAt row.id = scrubKey first.data.occurredAt first.data.eventId :=
        congrArg Prod.snd keyed
      have id : row.id = eventId := (Prod.mk.inj (toLex.injective scrub)).2.trans matching.2
      obtain ⟨known, located, stores⟩ := faithful row member (workspace.trans matching.1)
      rw [id, found] at located
      cases located
      exact ⟨row, member, workspace.trans matching.1, id, stores⟩

structure NothingIngested (state : IngestState) : Prop where
  events : state.events.rows = []
  pending : state.jobs.pending = []
  retained : state.jobs.retained = []
  attempts : ∀ slot, state.attempts slot = none
  accepted : state.accepted = []

theorem NothingIngested.invariant (nothing : NothingIngested state) : IngestInvariant state where
  waiting := by simp [nothing.pending]
  known := by simp [nothing.retained]
  working := by simp [nothing.attempts]
  live := by simp [nothing.accepted]
  spelled := by simp [nothing.accepted]
  written := by simp [nothing.events]
  done := by simp [nothing.attempts]
  first := by simp [nothing.accepted, firstAccepted]

theorem event_ingestion_exactly_once {start final : IngestState} {trace : List IngestEvent}
    (nothing : NothingIngested start) (ran : run (ingestStep platform boundary isEmail) start trace = some final)
    (workspaceId : WorkspaceId) :
    (Along (ingestStep platform boundary isEmail) (Repeats workspaceId) start trace → AtMostOneRow workspaceId final) ∧
    (final.jobs.pending = [] →
      (AtMostOneRow workspaceId final ∧ FirstsStored workspaceId final ↔
        Along (ingestStep platform boundary isEmail) (Repeats workspaceId) start trace)) ∧
    ∀ alone, run (ingestStep platform boundary isEmail) start
        (trace.filter fun event => event.workspaceId == workspaceId) = some alone →
      ingestView workspaceId final = ingestView workspaceId alone := by
  have preserved : ∀ state event next, IngestInvariant state →
      ingestStep platform boundary isEmail state event = some next → IngestInvariant next :=
    fun _ _ _ holds taken => ingestInvariant_step holds taken
  have ended := invariant_of_every_run preserved nothing.invariant ran
  have decided : ∀ state event next, IngestInvariant state →
      ingestStep platform boundary isEmail state event = some next →
        (Faithful workspaceId next ↔ Faithful workspaceId state ∧ Repeats workspaceId state event next) :=
    fun _ _ _ holds taken => faithful_step holds taken
  have faithful := final_iff_along preserved decided nothing.invariant ran
  have onset : Faithful workspaceId start := by
    intro row member
    rw [nothing.events] at member
    cases member
  rw [and_iff_right onset] at faithful
  refine ⟨fun along => atMostOneRow_of_faithful (faithful.mpr along), ?_, fun alone purged => ?_⟩
  · intro processed
    rw [faithful_iff ended processed, faithful]
  · refine view_of_purged preserved ?_ ?_ nothing.invariant nothing.invariant rfl ran purged
    · intro state event next _ elsewhere taken
      exact ingestView_elsewhere (beq_eq_false_iff_ne.mp elsewhere) taken
    · intro state other event next otherNext holds also mine same taken followed
      obtain rfl := beq_iff_eq.mp mine
      exact ingestView_own holds also same taken followed

end ExactlyOnce

section Examples

def ingestDb : Database := { organizations := Table.empty.insert { id := 1, slug := "shop" } }

def ingestStart : IngestState := { db := ingestDb }

def orderUuid : String := "0d9f6a2e-5b1c-4c3d-8e7f-a1b2c3d4e5f6"

def orderPlaced : RawEvent := { name := "Order placed", eventId := some orderUuid, externalId := some "u-1" }

def orderJob (ingestedAt : Timestamp) : IngestJob :=
  { spelling := orderUuid
    data :=
      { workspaceId := 1, eventId := 0x0d9f6a2e5b1c4c3d8e7fa1b2c3d4e5f6, occurredAt := ingestedAt
        name := "Order placed", properties := [], externalId := some "u-1" } }

def orderProcessed (ingestedAt : Timestamp) (newId : ContactId) : List IngestEvent :=
  [.accept ingestedAt 0 orderPlaced, .take 0 (orderJob ingestedAt), .store 0 newId, .enqueue 0, .finish 0].map
    fun action => { workspaceId := 1, action }

def orderRepeated : List IngestEvent :=
  orderProcessed 0 5 ++ { workspaceId := 1, action := .expire orderUuid } :: orderProcessed 100000000 6

theorem ingestStart_nothing : NothingIngested ingestStart where
  events := rfl
  pending := rfl
  retained := rfl
  attempts := fun _ => rfl
  accepted := rfl

def sameEventTwice (state : IngestState) : Bool :=
  state.events.rows.any fun row => state.events.rows.any fun other =>
    row.workspaceId == 1 && other.workspaceId == 1 && row.id == other.id && row.occurredAt != other.occurredAt

theorem not_atMostOneRow {state : IngestState} (twice : sameEventTwice state = true) : ¬ AtMostOneRow 1 state := by
  intro single
  obtain ⟨row, member, some⟩ := List.any_eq_true.mp twice
  obtain ⟨other, listed, same⟩ := List.any_eq_true.mp some
  simp only [Bool.and_eq_true, beq_iff_eq, bne_iff_ne] at same
  exact same.2 (congrArg EventRow.occurredAt (single row member other listed same.1.1.1 same.1.1.2 same.1.2))

theorem orderRepeated_run :
    ∃ final, run (ingestStep pairedPlatform asciiBoundary fun _ => true) ingestStart orderRepeated = some final ∧
      final.jobs.pending = [] ∧ ¬ AtMostOneRow 1 final := by
  have ran : (run (ingestStep pairedPlatform asciiBoundary fun _ => true) ingestStart orderRepeated).any
      (fun final => final.jobs.pending.isEmpty && sameEventTwice final) = true := by decide +kernel
  obtain ⟨final, reached, ended⟩ := (Option.any_eq_true _ _).mp ran
  rw [Bool.and_eq_true] at ended
  exact ⟨final, reached, List.isEmpty_iff.mp ended.1, not_atMostOneRow ended.2⟩

theorem late_repeat_does_not_conform :
    ¬ Along (ingestStep pairedPlatform asciiBoundary fun _ => true) (Repeats 1) ingestStart orderRepeated := by
  obtain ⟨final, ran, _, twice⟩ := orderRepeated_run
  intro along
  exact twice ((event_ingestion_exactly_once ingestStart_nothing ran 1).1 along)

theorem repeated_item_stored_twice :
    NothingIngested ingestStart ∧
      ∃ final, run (ingestStep pairedPlatform asciiBoundary fun _ => true) ingestStart orderRepeated = some final ∧
        final.jobs.pending = [] ∧ ¬ AtMostOneRow 1 final := ⟨ingestStart_nothing, orderRepeated_run⟩

end Examples

end LocalCrm.Events
