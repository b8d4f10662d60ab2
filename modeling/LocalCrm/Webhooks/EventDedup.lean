import LocalCrm.Webhooks.BatchSequence
import LocalCrm.Webhooks.Uuid

/-! Which events the deduplication loses. -/

set_option autoImplicit false

namespace LocalCrm.Webhooks

open Library Delivery

def receivedRows (platform : Platform) (batches : List TimedBatch) : List ExtractedEvent :=
  batches.flatMap fun batch => batch.events.filterMap (rowOf platform batch.now)

/-- Logs apart, the batches end in the side effects of the rows they apply, and each event on a send of the
workspace has one of its type and time there. -/
structure NothingLost (platform : Platform) (workspaceId : WorkspaceId) (db : Database) (batches : List TimedBatch) :
    Prop where
  effects : withoutLogs (processWebhookEventBatches platform workspaceId db batches) =
    (appliedRows platform workspaceId db batches).foldl
      (fun db applied => applyNewRow platform applied.1 workspaceId db applied.2) (withoutLogs db)
  covered : ∀ row ∈ receivedRows platform batches, ∀ send ∈ db.sends.rows, ∀ type,
    send.intent.workspaceId = workspaceId → denotes platform row send = true → row.isTest = false →
    row.normalizedType = some type →
    ∃ applied ∈ appliedRows platform workspaceId db batches, applied.2.isTest = false ∧
      applied.2.normalizedType = some type ∧ denotes platform applied.2 send = true ∧
      applied.2.occurredAt = row.occurredAt

def asksFor (platform : Platform) (send : Send) (eventType : String) (occurredAt : Timestamp)
    (row : ExtractedEvent) : Bool :=
  namesAsPrinted platform row send && row.eventType == eventType && row.occurredAt == occurredAt

/-- The first row received under the key of an event does what the event calls for. -/
def FirstServes (platform : Platform) (batches : List TimedBatch) (send : Send) (row : ExtractedEvent) : Prop :=
  ∃ first, (receivedRows platform batches).find? (asksFor platform send row.eventType row.occurredAt) = some first ∧
    first.isTest = false ∧ first.normalizedType = row.normalizedType

def rawName : NormalizedEventType → String
  | .delivered => "delivered"
  | .open => "open"
  | .click => "click"
  | .bounceHard | .bounceSoft => "bounce"
  | .dropped => "dropped"
  | .spamReport => "spamreport"
  | .unsubscribe => "unsubscribe"
  | .groupUnsubscribe => "group_unsubscribe"

theorem rawName_of_normalized {event : String} {subtype : Option String} {type : NormalizedEventType}
    (normalized : normalizeEventType event subtype = some type) : event = rawName type := by
  unfold normalizeEventType at normalized
  split at normalized
  case h_8 =>
    -- the one name with two types
    split at normalized <;> cases normalized <;> rfl
  case h_9 => cases normalized
  all_goals
    cases normalized
    rfl

section Keys

variable {platform : Platform} {workspaceId : WorkspaceId} {db : Database} {batches : List TimedBatch}
  {send : Send} {row : ExtractedEvent}

theorem submittedRowsOf_filterMap :
    submittedRowsOf platform workspaceId db batches =
      (receivedRows platform batches).filterMap (submission platform db.sends workspaceId) := by
  simp only [submittedRowsOf, receivedRows, submittedRows_filterMap, List.filterMap_flatMap, List.filterMap_filterMap]

theorem normalizedType_of_received (received : row ∈ receivedRows platform batches) :
    ∃ type, row.normalizedType = normalizeEventType row.eventType type := by
  obtain ⟨batch, _, accepted⟩ := List.mem_flatMap.mp received
  obtain ⟨raw, _, extracted⟩ := List.mem_filterMap.mp accepted
  have outcome := extracted_of_rowOf extracted
  simp only [extractEventRow] at outcome
  split at outcome
  · cases outcome
  · split at outcome
    · cases outcome
    · cases outcome
    · cases outcome
      exact ⟨_, rfl⟩

theorem denotes_of_printed (printed : namesAsPrinted platform row send = true) : denotes platform row send = true := by
  have text : row.sendId = some (platform.uuidText (platform.sendIds.derive send.intent)) := eq_of_beq printed
  rw [denotes, text, Option.bind_some, platform.uuidValue_text]
  exact beq_self_eq_true _

theorem submitted_of_submission {submitted : ExtractedEvent}
    (handed : submission platform db.sends workspaceId row = some submitted) :
    submitted = resolveRow platform db.sends workspaceId row := by
  rw [submission] at handed
  split at handed
  · exact (Option.some.inj handed).symm
  · cases handed

theorem denotes_of_submitted {submitted : ExtractedEvent}
    (handed : submission platform db.sends workspaceId row = some submitted)
    (denoted : denotes platform submitted send = true) : denotes platform row send = true := by
  rw [submitted_of_submission handed, denotes, resolveRow] at denoted
  have value := eq_of_beq denoted
  obtain ⟨text, kept, valued⟩ := Option.bind_eq_some_iff.mp value
  have spelled := (Option.filter_eq_some_iff.mp kept).1
  rw [denotes, spelled, Option.bind_some, valued]
  exact beq_self_eq_true _

theorem printed_of_submitted {submitted : ExtractedEvent}
    (handed : submission platform db.sends workspaceId row = some submitted)
    (denoted : denotes platform submitted send = true) : namesAsPrinted platform row send = true := by
  by_contra unprinted
  obtain ⟨other, same, orphaned⟩ : ∃ other,
      submission platform db.sends workspaceId row = some other ∧ other.sendId = none :=
    submission_unprinted (denotes_of_submitted handed denoted) (Bool.eq_false_of_not_eq_true unprinted)
  obtain rfl := Option.some.inj (handed.symm.trans same)
  rw [denotes, orphaned] at denoted
  cases denoted

theorem rowKey_eq_some {sendId : SendId} {eventType : String} {occurredAt : Timestamp} :
    rowKey platform workspaceId row = some (workspaceId, sendId, eventType, occurredAt) ↔
      row.sendId.bind platform.uuidValue = some sendId ∧ row.eventType = eventType ∧ row.occurredAt = occurredAt := by
  rw [rowKey, dedupKey, Option.map_eq_some_iff]
  simp only [storedEvent, Prod.mk.injEq, true_and]
  constructor
  · rintro ⟨value, found, rfl, typed, timed⟩
    exact ⟨found, typed, timed⟩
  · rintro ⟨found, typed, timed⟩
    exact ⟨sendId, found, rfl, typed, timed⟩

theorem find?_submitted (db : Database) (stored : send ∈ db.sends.rows) (own : send.intent.workspaceId = workspaceId)
    (eventType : String) (occurredAt : Timestamp) :
    ((submittedRowsOf platform workspaceId db batches).find? fun row => rowKey platform workspaceId row =
      some (workspaceId, platform.sendIds.derive send.intent, eventType, occurredAt)) =
      (receivedRows platform batches).find? (asksFor platform send eventType occurredAt) := by
  rw [submittedRowsOf_filterMap, List.find?_filterMap]
  have taken : ∀ row, ((submission platform db.sends workspaceId row).any fun submitted =>
      decide (rowKey platform workspaceId submitted =
        some (workspaceId, platform.sendIds.derive send.intent, eventType, occurredAt))) =
      asksFor platform send eventType occurredAt row := by
    intro row
    rw [Bool.eq_iff_iff, Option.any_eq_true, asksFor]
    simp only [decide_eq_true_eq, rowKey_eq_some, Bool.and_eq_true, beq_iff_eq]
    constructor
    · rintro ⟨submitted, handed, value, typed, timed⟩
      have printed := printed_of_submitted handed (beq_iff_eq.mpr value)
      rw [submission_printed stored printed, if_pos own] at handed
      cases handed
      exact ⟨⟨printed, typed⟩, timed⟩
    · rintro ⟨⟨printed, typed⟩, timed⟩
      refine ⟨row, ?_, eq_of_beq (denotes_of_printed printed), typed, timed⟩
      rw [submission_printed stored printed, if_pos own]
  simp only [taken]
  cases found : (receivedRows platform batches).find? (asksFor platform send eventType occurredAt) with
  | none => rfl
  | some first =>
    have asked := List.find?_some found
    simp only [asksFor, Bool.and_eq_true] at asked
    rw [Option.bind_some, submission_printed stored asked.1.1, if_pos own]

theorem received_of_admitted {taken : List (WorkspaceId × SendId × String × Timestamp)}
    (stored : send ∈ db.sends.rows) (own : send.intent.workspaceId = workspaceId)
    (denoted : denotes platform row send = true)
    (admitted : row ∈ winners (rowKey platform workspaceId) taken (submittedRowsOf platform workspaceId db batches)) :
    row ∈ receivedRows platform batches := by
  have submitted := winners_sublist.subset admitted
  rw [submittedRowsOf_filterMap] at submitted
  obtain ⟨other, received, handed⟩ := List.mem_filterMap.mp submitted
  have same := handed
  rw [submission_printed stored (printed_of_submitted handed denoted), if_pos own] at same
  exact Option.some.inj same ▸ received

end Keys

/-- Nothing is lost exactly when the workspace is live and the first row under each key does what its events
call for. -/
theorem nothingLost_iff_firstServes (platform : Platform) (workspaceId : WorkspaceId) (db : Database)
    (batches : List TimedBatch) :
    NothingLost platform workspaceId (withoutLogs db) batches ↔
      ∀ row ∈ receivedRows platform batches, ∀ send ∈ db.sends.rows, send.intent.workspaceId = workspaceId →
        denotes platform row send = true → row.isTest = false → row.normalizedType.isSome = true →
        isWorkspaceSoftDeleted db.organizations workspaceId = false ∧ FirstServes platform batches send row := by
  constructor
  · intro lossless row received send stored own denoted real normalized
    obtain ⟨type, called⟩ := Option.isSome_iff_exists.mp normalized
    obtain ⟨applied, listed, tested, typed, named, timed⟩ :=
      lossless.covered row received send stored type own denoted real called
    cases deleted : isWorkspaceSoftDeleted db.organizations workspaceId with
    | true =>
      rw [appliedRows_deleted batches (withoutLogs db) deleted] at listed
      cases listed
    | false =>
      refine ⟨rfl, applied.2, ?_, tested, typed.trans called.symm⟩
      have admitted : applied.2 ∈ (appliedRows platform workspaceId (withoutLogs db) batches).map Prod.snd :=
        List.mem_map_of_mem listed
      rw [appliedRows_live batches (withoutLogs db) deleted] at admitted
      have key : rowKey platform workspaceId applied.2 =
          some (workspaceId, platform.sendIds.derive send.intent, row.eventType, row.occurredAt) := by
        obtain ⟨left, spelled⟩ := normalizedType_of_received (received_of_admitted stored own named admitted)
        obtain ⟨right, spoken⟩ := normalizedType_of_received received
        have name := rawName_of_normalized (spelled.symm.trans typed)
        have other := rawName_of_normalized (spoken.symm.trans called)
        exact rowKey_eq_some.mpr ⟨eq_of_beq named, name.trans other.symm, timed⟩
      rw [← find?_submitted (withoutLogs db) stored own]
      exact ((mem_winners key).mp admitted).2
  · intro serves
    refine ⟨withoutLogs_batches batches (withoutLogs db), ?_⟩
    intro row received send stored type own denoted real called
    obtain ⟨live, first, found, tested, typed⟩ :=
      serves row received send stored own denoted real (Option.isSome_iff_exists.mpr ⟨type, called⟩)
    have asked := List.find?_some found
    simp only [asksFor, Bool.and_eq_true, beq_iff_eq] at asked
    obtain ⟨⟨printed, named⟩, timed⟩ := asked
    have key : rowKey platform workspaceId first =
        some (workspaceId, platform.sendIds.derive send.intent, row.eventType, row.occurredAt) :=
      rowKey_eq_some.mpr ⟨eq_of_beq (denotes_of_printed printed), named, timed⟩
    have admitted : first ∈ (appliedRows platform workspaceId (withoutLogs db) batches).map Prod.snd := by
      rw [appliedRows_live batches (withoutLogs db) live, mem_winners key]
      refine ⟨List.not_mem_nil, ?_⟩
      rw [find?_submitted (withoutLogs db) stored own]
      exact found
    obtain ⟨applied, listed, rfl⟩ := List.mem_map.mp admitted
    exact ⟨applied, listed, tested, typed.trans called, denotes_of_printed printed, timed⟩

def bouncedSend : Send :=
  { intent := .campaign 1 1 0, contactId := 0, status := .sent, queuedAt := 0 }

def bouncedDatabase : Database :=
  { organizations := Table.empty.insert { id := 1, slug := "sender" }
    contacts := Table.empty.insert { id := 0, workspaceId := 1, email := some "a@b.c" }
    sends := Table.empty.insert bouncedSend }

def bounceEvent (sgEventId type : String) : JsonValue :=
  .object [("sg_event_id", .string sgEventId), ("event", .string "bounce"), ("type", .string type),
    ("timestamp", .number 0), ("send_id", .string "00000000-0000-0000-0000-00000000000a")]

def hardBounceRow : ExtractedEvent where
  sgEventId := "e2"
  sendId := some "00000000-0000-0000-0000-00000000000a"
  eventType := "bounce"
  reason := none
  isTest := false
  occurredAt := 0
  normalizedType := some .bounceHard

def bounceBatches : List TimedBatch := [{ now := 0, events := [bounceEvent "e1" "blocked", bounceEvent "e2" "bounce"] }]

/-- A block and a hard bounce within one second: only the block is applied. -/
theorem loses_hard_bounce :
    ¬ ∀ (platform : Platform) (workspaceId : WorkspaceId) (db : Database) (batches : List TimedBatch),
      NothingLost platform workspaceId (withoutLogs db) batches := by
  intro always
  have lossless := always uuidPlatform 1 bouncedDatabase bounceBatches
  have received : hardBounceRow ∈ receivedRows uuidPlatform bounceBatches := by decide +kernel
  obtain ⟨applied, listed, _, typed, _⟩ := lossless.covered hardBounceRow received bouncedSend (by decide) .bounceHard
    rfl (by decide +kernel) rfl rfl
  have absent : ∀ applied ∈ appliedRows uuidPlatform 1 (withoutLogs bouncedDatabase) bounceBatches,
      applied.2.normalizedType ≠ some .bounceHard := by
    decide +kernel
  exact absent applied listed typed

end LocalCrm.Webhooks
