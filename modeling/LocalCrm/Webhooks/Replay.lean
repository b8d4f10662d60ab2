import LocalCrm.Webhooks.EventDedup

/-! Batches that are delivered again.

A stored event of a send keeps its key for good, so a later event of the same key is skipped.
-/

set_option autoImplicit false

namespace LocalCrm.Webhooks

open Library Delivery

def settled (db : Database) : Database := withLogs (db.sendEvents.filter fun event => event.sendId.isSome) [] db

def storedKeys (db : Database) : List (WorkspaceId × SendId × String × Timestamp) := db.sendEvents.filterMap dedupKey

def AllStored (platform : Platform) (workspaceId : WorkspaceId) (db : Database) (batch : TimedBatch) : Prop :=
  ∀ row ∈ submittedRows platform batch.now db workspaceId batch.events, ∀ key,
    rowKey platform workspaceId row = some key → key ∈ storedKeys db

/-- The same events at another time, none of them accepted only now. -/
structure Repeats (platform : Platform) (first again : TimedBatch) : Prop where
  events : again.events = first.events
  accepted : ∀ raw ∈ again.events, (rowOf platform again.now raw).isSome → (rowOf platform first.now raw).isSome

/-- The second sequence is the first with further deliveries of batches that were already processed. -/
inductive Redelivered (platform : Platform) : List TimedBatch → List TimedBatch → List TimedBatch → Prop where
  | done (seen : List TimedBatch) : Redelivered platform seen [] []
  | first (seen original extended : List TimedBatch) (batch : TimedBatch)
      (rest : Redelivered platform (batch :: seen) original extended) :
      Redelivered platform seen (batch :: original) (batch :: extended)
  | again (seen original extended : List TimedBatch) (batch earlier : TimedBatch) (processed : earlier ∈ seen)
      (repeats : Repeats platform earlier batch) (rest : Redelivered platform seen original extended) :
      Redelivered platform seen original (batch :: extended)

section Acceptance

variable {platform : Platform}

theorem accepted_time {timestamp : Option JsonValue} {now occurredAt : Timestamp}
    (accepted : classifyOccurredAt platform timestamp now = .accepted occurredAt) :
    ∃ seconds, timestamp = some (.number seconds) ∧ occurredAt = truncateMs (platform.milliseconds seconds) := by
  unfold classifyOccurredAt at accepted
  split at accepted
  · cases accepted
  · cases accepted
  · simp only at accepted
    split at accepted
    · cases accepted
    · split at accepted
      · cases accepted
      · split at accepted
        · cases accepted
        · cases accepted
          exact ⟨_, rfl, rfl⟩
  · cases accepted

theorem rowOf_again {raw : JsonValue} {first again : Timestamp} {row other : ExtractedEvent}
    (accepted : rowOf platform first raw = some row) (repeated : rowOf platform again raw = some other) :
    other = row := by
  have left := extracted_of_rowOf accepted
  have right := extracted_of_rowOf repeated
  simp only [extractEventRow] at left right
  split at left
  · cases left
  · next identified =>
    rw [if_neg identified] at right
    split at left
    · cases left
    · cases left
    · next early =>
      split at right
      · cases right
      · cases right
      · next late =>
        obtain ⟨seconds, found, rfl⟩ := accepted_time early
        obtain ⟨same, located, rfl⟩ := accepted_time late
        cases found.symm.trans located
        cases left
        cases right
        rfl

theorem submittedRows_repeated {db : Database} {workspaceId : WorkspaceId} {first again : TimedBatch}
    (repeats : Repeats platform first again) {row : ExtractedEvent}
    (submitted : row ∈ submittedRows platform again.now db workspaceId again.events) :
    row ∈ submittedRows platform first.now db workspaceId first.events := by
  rw [submittedRows_filterMap] at submitted ⊢
  obtain ⟨raw, member, handed⟩ := List.mem_filterMap.mp submitted
  obtain ⟨other, accepted, kept⟩ := Option.bind_eq_some_iff.mp handed
  obtain ⟨early, received⟩ := Option.isSome_iff_exists.mp (repeats.accepted raw member (by rw [accepted]; rfl))
  rw [rowOf_again received accepted] at kept
  exact List.mem_filterMap.mpr ⟨raw, repeats.events ▸ member, Option.bind_eq_some_iff.mpr ⟨early, received, kept⟩⟩

end Acceptance

section Settled

variable {platform : Platform} {workspaceId : WorkspaceId} {db other : Database}

theorem storedKeys_settled (db : Database) : storedKeys (settled db) = storedKeys db := by
  rw [storedKeys, storedKeys, settled, withLogs, List.filterMap_filter]
  apply List.filterMap_congr
  intro event _
  rw [dedupKey]
  cases event.sendId <;> rfl

theorem newRows_settled (same : settled db = settled other) (now : Timestamp) (events : List JsonValue) :
    newRows platform now db workspaceId events = newRows platform now other workspaceId events := by
  have organizations : db.organizations = other.organizations := congrArg (·.organizations) same
  have sends : db.sends = other.sends := congrArg (·.sends) same
  have keys : storedKeys db = storedKeys other := by rw [← storedKeys_settled, same, storedKeys_settled]
  have rows : submittedRows platform now db workspaceId events = submittedRows platform now other workspaceId events := by
    rw [submittedRows_eq, submittedRows_eq, sends]
  cases deleted : isWorkspaceSoftDeleted db.organizations workspaceId with
  | true => rw [newRows, newRows, ← organizations, deleted, if_pos rfl, if_pos rfl]
  | false =>
    have live : isWorkspaceSoftDeleted other.organizations workspaceId = false := organizations ▸ deleted
    rw [newRows_live events deleted, newRows_live events live, ← storedKeys, ← storedKeys, keys, rows]

theorem settled_processWebhookEventBatch (now : Timestamp) (db : Database) (events : List JsonValue) :
    settled (processWebhookEventBatch platform now db workspaceId events) =
      withLogs
        ((db.sendEvents ++ (newRows platform now db workspaceId events).map (storedEvent platform workspaceId)).filter
          fun event => event.sendId.isSome)
        [] ((newRows platform now db workspaceId events).foldl (applyNewRow platform now workspaceId) (withoutLogs db)) := by
  rw [← withoutLogs_processWebhookEventBatch, ← sendEvents_processWebhookEventBatch]
  rfl

theorem settled_congr (same : settled db = settled other) (now : Timestamp) (events : List JsonValue) :
    settled (processWebhookEventBatch platform now db workspaceId events) =
      settled (processWebhookEventBatch platform now other workspaceId events) := by
  have without : withoutLogs db = withoutLogs other := by
    have logs := congrArg withoutLogs same
    exact logs
  have stored : db.sendEvents.filter (fun event => event.sendId.isSome) =
      other.sendEvents.filter fun event => event.sendId.isSome := congrArg (·.sendEvents) same
  rw [settled_processWebhookEventBatch, settled_processWebhookEventBatch, newRows_settled same, without,
    List.filter_append, List.filter_append, stored]

theorem applyNewRow_keyless {now : Timestamp} {row : ExtractedEvent}
    (keyless : rowKey platform workspaceId row = none) : applyNewRow platform now workspaceId db row = db := by
  rw [rowKey, dedupKey, Option.map_eq_none_iff] at keyless
  have unsent : row.sendId.bind platform.uuidValue = none := keyless
  unfold applyNewRow
  rw [unsent]
  split
  · rfl
  · split
    · next impossible => cases impossible
    · rfl

theorem applyNewRows_keyless {now : Timestamp} {rows : List ExtractedEvent}
    (keyless : ∀ row ∈ rows, rowKey platform workspaceId row = none) (db : Database) :
    rows.foldl (applyNewRow platform now workspaceId) db = db := by
  induction rows generalizing db with
  | nil => rfl
  | cons row rest ih =>
    rw [List.foldl_cons, applyNewRow_keyless (keyless row List.mem_cons_self)]
    exact ih (fun later member => keyless later (List.mem_cons_of_mem _ member)) db

theorem settled_stored {batch : TimedBatch}
    (stored : isWorkspaceSoftDeleted db.organizations workspaceId = false → AllStored platform workspaceId db batch) :
    settled (processWebhookEventBatch platform batch.now db workspaceId batch.events) = settled db := by
  have keyless : ∀ row ∈ newRows platform batch.now db workspaceId batch.events,
      rowKey platform workspaceId row = none := by
    cases deleted : isWorkspaceSoftDeleted db.organizations workspaceId with
    | true =>
      have none : newRows platform batch.now db workspaceId batch.events = [] := if_pos deleted
      rw [none]
      intro row member
      cases member
    | false =>
      rw [newRows_live batch.events deleted]
      exact keyless_of_taken (stored deleted)
  have orphaned : ((newRows platform batch.now db workspaceId batch.events).map (storedEvent platform workspaceId)).filter
      (fun event => event.sendId.isSome) = [] := by
    rw [List.filter_eq_nil_iff]
    intro event listed
    obtain ⟨row, member, rfl⟩ := List.mem_map.mp listed
    have none : (storedEvent platform workspaceId row).sendId = none := Option.map_eq_none_iff.mp (keyless row member)
    simp [none]
  rw [settled_processWebhookEventBatch, applyNewRows_keyless keyless, List.filter_append, orphaned, List.append_nil]
  rfl

theorem storedKeys_processWebhookEventBatch (now : Timestamp) (db : Database) (events : List JsonValue) :
    storedKeys (processWebhookEventBatch platform now db workspaceId events) =
      storedKeys db ++ (newRows platform now db workspaceId events).filterMap (rowKey platform workspaceId) := by
  rw [storedKeys, sendEvents_processWebhookEventBatch, List.filterMap_append, List.filterMap_map]
  rfl

theorem allStored_processed (batch : TimedBatch) (live : isWorkspaceSoftDeleted db.organizations workspaceId = false) :
    AllStored platform workspaceId (processWebhookEventBatch platform batch.now db workspaceId batch.events) batch := by
  intro row submitted key keyed
  rw [submittedRows_kept (kept_of_processWebhookEventBatch batch.events)] at submitted
  rw [storedKeys_processWebhookEventBatch, newRows_live batch.events live]
  exact key_taken submitted keyed

theorem allStored_kept {batch : TimedBatch} (stored : AllStored platform workspaceId db batch) (now : Timestamp)
    (events : List JsonValue) :
    AllStored platform workspaceId (processWebhookEventBatch platform now db workspaceId events) batch := by
  intro row submitted key keyed
  rw [submittedRows_kept (kept_of_processWebhookEventBatch events)] at submitted
  rw [storedKeys_processWebhookEventBatch]
  exact List.mem_append_left _ (stored row submitted key keyed)

theorem allStored_repeated {first again : TimedBatch} (repeats : Repeats platform first again)
    (stored : AllStored platform workspaceId db first) : AllStored platform workspaceId db again :=
  fun row submitted => stored row (submittedRows_repeated repeats submitted)

theorem allStored_settled {batch : TimedBatch} (same : settled other = settled db)
    (stored : AllStored platform workspaceId db batch) : AllStored platform workspaceId other batch := by
  have sends : other.sends = db.sends := congrArg (·.sends) same
  intro row submitted key keyed
  rw [submittedRows_eq, sends, ← submittedRows_eq] at submitted
  rw [← storedKeys_settled, same, storedKeys_settled]
  exact stored row submitted key keyed

/-- Two runs that have settled alike settle alike however often their stored batches are delivered again. -/
theorem settled_redelivered {seen original extended : List TimedBatch}
    (redelivered : Redelivered platform seen original extended) (db other : Database)
    (same : settled other = settled db)
    (stored : isWorkspaceSoftDeleted db.organizations workspaceId = false →
      ∀ batch ∈ seen, AllStored platform workspaceId db batch) :
    settled (processWebhookEventBatches platform workspaceId other extended) =
      settled (processWebhookEventBatches platform workspaceId db original) := by
  induction redelivered generalizing db other with
  | done seen => exact same
  | first seen original extended batch rest ih =>
    refine ih _ _ (settled_congr same batch.now batch.events) ?_
    rw [(kept_of_processWebhookEventBatch batch.events).organizations]
    intro live earlier member
    rcases List.mem_cons.mp member with rfl | processed
    · exact allStored_processed earlier live
    · exact allStored_kept (stored live earlier processed) batch.now batch.events
  | again seen original extended batch earlier processed repeats rest ih =>
    -- the repeated batch moves only the second run, and settles nothing new in it
    have organizations : other.organizations = db.organizations := congrArg (·.organizations) same
    have idle : settled (processWebhookEventBatch platform batch.now other workspaceId batch.events) =
        settled other := by
      apply settled_stored
      intro live
      rw [organizations] at live
      exact allStored_settled same (allStored_repeated repeats (stored live earlier processed))
    exact ih db _ (idle.trans same) stored

end Settled

/-- A batch of stored events settles nothing, nor does one delivered again, unless an event is accepted only
then. -/
theorem replay_settles_nothing (platform : Platform) (workspaceId : WorkspaceId) (db : Database) :
    (∀ batch, AllStored platform workspaceId db batch →
      settled (processWebhookEventBatch platform batch.now db workspaceId batch.events) = settled db) ∧
    (∀ original extended, Redelivered platform [] original extended →
      settled (processWebhookEventBatches platform workspaceId db extended) =
        settled (processWebhookEventBatches platform workspaceId db original)) := by
  constructor
  · intro batch stored
    exact settled_stored fun _ => stored
  · intro original extended redelivered
    apply settled_redelivered redelivered db db rfl
    intro _ batch member
    cases member

/-- The two bounces of one second, delivered again a second later. -/
theorem replay_settles_bounces :
    settled (processWebhookEventBatches uuidPlatform 1 bouncedDatabase
      (bounceBatches ++ [{ now := 1000, events := [bounceEvent "e1" "blocked", bounceEvent "e2" "bounce"] }])) =
      settled (processWebhookEventBatches uuidPlatform 1 bouncedDatabase bounceBatches) := by
  apply (replay_settles_nothing uuidPlatform 1 bouncedDatabase).2
  apply Redelivered.first
  apply Redelivered.again _ _ _ _ _ List.mem_cons_self
  · exact ⟨rfl, by decide +kernel⟩
  · exact Redelivered.done _

def deliveredAhead : JsonValue :=
  .object [("sg_event_id", .string "e1"), ("event", .string "delivered"), ("timestamp", .number 3600),
    ("send_id", .string "00000000-0000-0000-0000-00000000000a")]

/-- An event from an hour ahead is refused at first and applied when it is delivered again in time. -/
theorem replay_accepts_later :
    ¬ ∀ (platform : Platform) (workspaceId : WorkspaceId) (db : Database) (first again : Timestamp)
      (events : List JsonValue), first ≤ again →
      (processWebhookEventBatch platform again
        (processWebhookEventBatch platform first db workspaceId events) workspaceId events).sends =
        (processWebhookEventBatch platform first db workspaceId events).sends := by
  intro always
  have same := always uuidPlatform 1 bouncedDatabase 0 3600000 [deliveredAhead] (by decide)
  have facts := congrArg (fun sends : Sends => sends.rows.map fun row => row.facts.deliveredAt) same
  revert facts
  decide +kernel

end LocalCrm.Webhooks
