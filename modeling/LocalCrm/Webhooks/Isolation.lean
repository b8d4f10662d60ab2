import LocalCrm.Webhooks.EventLog
import LocalCrm.Webhooks.Uuid

/-! What keeps a batch inside its workspace. -/

set_option autoImplicit false

namespace LocalCrm.Webhooks

open Library Delivery

/-- An accepted event that denotes a send of another workspace. -/
def namesSibling (platform : Platform) (now : Timestamp) (db : Database) (workspaceId : WorkspaceId)
    (raw : JsonValue) : Bool :=
  (rowOf platform now raw).any fun row =>
    db.sends.rows.any fun send => denotes platform row send && send.intent.workspaceId != workspaceId

/-- The batch is processed as if it held no event of a sibling, and events of its own sends reach the insert. -/
structure Isolated (platform : Platform) (now : Timestamp) (db : Database) (workspaceId : WorkspaceId)
    (events : List JsonValue) : Prop where
  withheld : processWebhookEventBatch platform now db workspaceId events =
    processWebhookEventBatch platform now db workspaceId
      (events.filter fun raw => !namesSibling platform now db workspaceId raw)
  attributed : isWorkspaceSoftDeleted db.organizations workspaceId = false →
    ∀ raw ∈ events, ∀ row, rowOf platform now raw = some row → ∀ send ∈ db.sends.rows,
      denotes platform row send = true → send.intent.workspaceId = workspaceId →
      ∃ submitted, submission platform db.sends workspaceId row = some submitted ∧
        denotes platform submitted send = true

section Batches

variable {platform : Platform} {now : Timestamp} {db : Database} {workspaceId : WorkspaceId} {events : List JsonValue}

/-- The stored events of no send, whose keys are never taken. -/
def orphans (events : List SendEvent) : Nat := events.countP fun event => event.sendId.isNone

def submitsOrphan (platform : Platform) (now : Timestamp) (db : Database) (workspaceId : WorkspaceId)
    (raw : JsonValue) : Bool :=
  ((rowOf platform now raw).bind (submission platform db.sends workspaceId)).any fun row =>
    (row.sendId.bind platform.uuidValue).isNone

theorem orphans_processWebhookEventBatch (live : isWorkspaceSoftDeleted db.organizations workspaceId = false) :
    orphans (processWebhookEventBatch platform now db workspaceId events).sendEvents =
      orphans db.sendEvents + events.countP (submitsOrphan platform now db workspaceId) := by
  have keyless : ∀ row, (rowKey platform workspaceId row).isNone = (row.sendId.bind platform.uuidValue).isNone := by
    intro row
    rw [rowKey, dedupKey, Option.isNone_map]
    rfl
  rw [sendEvents_processWebhookEventBatch, newRows_live events live, orphans, List.countP_append, List.countP_map]
  congr 1
  have stored : (fun event : SendEvent => event.sendId.isNone) ∘ storedEvent platform workspaceId =
      fun row => (rowKey platform workspaceId row).isNone := by
    funext row
    rw [keyless]
    rfl
  rw [stored, countP_keyless_winners, submittedRows_filterMap, List.countP_filterMap]
  apply List.countP_congr
  intro raw _
  rw [submitsOrphan]
  cases (rowOf platform now raw).bind (submission platform db.sends workspaceId) <;> simp [keyless]

theorem processWebhookEventBatch_filter {kept : JsonValue → Bool}
    (silent : ∀ raw ∈ events, kept raw = false → ∃ row, extractEventRow platform raw now = .extracted row ∧
      submission platform db.sends workspaceId row = none) :
    processWebhookEventBatch platform now db workspaceId (events.filter kept) =
      processWebhookEventBatch platform now db workspaceId events := by
  have rows : submittedRows platform now db workspaceId (events.filter kept) =
      submittedRows platform now db workspaceId events := by
    rw [submittedRows_filterMap, submittedRows_filterMap, List.filterMap_filter]
    apply List.filterMap_congr
    intro raw member
    cases passes : kept raw with
    | true => rfl
    | false =>
      obtain ⟨row, extracted, dropped⟩ := silent raw member passes
      simp [rowOf, extracted, dropped]
  have candidates : quarantineCandidates ((events.filter kept).map fun raw => extractEventRow platform raw now) =
      quarantineCandidates (events.map fun raw => extractEventRow platform raw now) := by
    rw [quarantineCandidates_filterMap, quarantineCandidates_filterMap, List.filterMap_filter]
    apply List.filterMap_congr
    intro raw member
    cases passes : kept raw with
    | true => rfl
    | false =>
      obtain ⟨row, extracted, _⟩ := silent raw member passes
      simp [extracted]
  rw [processWebhookEventBatch, processWebhookEventBatch, rows, candidates]

theorem not_orphan_of_withheld {kept : JsonValue → Bool}
    (live : isWorkspaceSoftDeleted db.organizations workspaceId = false)
    (withheld : processWebhookEventBatch platform now db workspaceId events =
      processWebhookEventBatch platform now db workspaceId (events.filter kept))
    {raw : JsonValue} (member : raw ∈ events) (dropped : kept raw = false) :
    submitsOrphan platform now db workspaceId raw = false := by
  have counts := congrArg (fun db => orphans db.sendEvents) withheld
  simp only [orphans_processWebhookEventBatch live] at counts
  have split := List.countP_eq_countP_filter_add events (submitsOrphan platform now db workspaceId) kept
  have none : (events.filter fun raw => !kept raw).countP (submitsOrphan platform now db workspaceId) = 0 := by
    omega
  have absent := List.countP_eq_zero.mp none raw (List.mem_filter.mpr ⟨member, by simp [dropped]⟩)
  simpa using absent

/-- A batch is isolated exactly when each of its events writes a send's id the way the database prints it. -/
theorem isolated_iff_printed (platform : Platform) (now : Timestamp) (db : Database) (workspaceId : WorkspaceId)
    (events : List JsonValue) :
    Isolated platform now db workspaceId events ↔
      (isWorkspaceSoftDeleted db.organizations workspaceId = false →
        ∀ raw ∈ events, ∀ row, rowOf platform now raw = some row → ∀ send ∈ db.sends.rows,
          denotes platform row send = true → namesAsPrinted platform row send = true) := by
  constructor
  · intro isolated live raw member row accepted send stored denoted
    by_contra unprinted
    obtain ⟨submitted, handed, orphaned⟩ : ∃ submitted,
        submission platform db.sends workspaceId row = some submitted ∧ submitted.sendId = none :=
      submission_unprinted denoted (Bool.eq_false_of_not_eq_true unprinted)
    by_cases own : send.intent.workspaceId = workspaceId
    · obtain ⟨attributed, same, kept⟩ := isolated.attributed live raw member row accepted send stored denoted own
      obtain rfl := Option.some.inj (handed.symm.trans same)
      rw [denotes, orphaned] at kept
      cases kept
    · have sibling : namesSibling platform now db workspaceId raw = true := by
        rw [namesSibling, accepted, Option.any_some, List.any_eq_true]
        exact ⟨send, stored, Bool.and_eq_true_iff.mpr ⟨denoted, bne_iff_ne.mpr own⟩⟩
      have silent : submitsOrphan platform now db workspaceId raw = false :=
        not_orphan_of_withheld live isolated.withheld member (by rw [sibling]; rfl)
      rw [submitsOrphan, accepted, Option.bind_some, handed, Option.any_some, orphaned] at silent
      cases silent
  · intro printed
    cases deleted : isWorkspaceSoftDeleted db.organizations workspaceId with
    | true =>
      constructor
      · rw [processWebhookEventBatch, processWebhookEventBatch, deleted, if_pos rfl, if_pos rfl]
      · intro live
        rw [deleted] at live
        cases live
    | false =>
      constructor
      · apply Eq.symm
        apply processWebhookEventBatch_filter
        intro raw member sibling
        simp only [Bool.not_eq_false', namesSibling, Option.any_eq_true] at sibling
        obtain ⟨row, accepted, named⟩ := sibling
        obtain ⟨send, stored, both⟩ := List.any_eq_true.mp named
        obtain ⟨denoted, foreign⟩ := Bool.and_eq_true_iff.mp both
        refine ⟨row, extracted_of_rowOf accepted, ?_⟩
        rw [submission_printed stored (printed deleted raw member row accepted send stored denoted),
          if_neg (bne_iff_ne.mp foreign)]
      · intro _ raw member row accepted send stored denoted own
        refine ⟨row, ?_, denoted⟩
        rw [submission_printed stored (printed deleted raw member row accepted send stored denoted), if_pos own]

end Batches

def siblingDatabase : Database :=
  { organizations := Table.empty.insert { id := 0, slug := "receiver" }
    sends := Table.empty.insert { intent := .campaign 1 1 0, contactId := 0, status := .sent, queuedAt := 0 } }

def upperCaseEvent : JsonValue :=
  .object [("sg_event_id", .string "e1"), ("event", .string "open"), ("timestamp", .number 0),
    ("send_id", .string "00000000-0000-0000-0000-00000000000A")]

/-- An upper case digit in a send id stores the sibling's event. -/
theorem stores_sibling_event :
    ¬ ∀ (platform : Platform) (now : Timestamp) (db : Database) (workspaceId : WorkspaceId)
      (events : List JsonValue), Isolated platform now db workspaceId events := by
  intro always
  have isolated := always uuidPlatform 0 siblingDatabase 0 [upperCaseEvent]
  have lengths := congrArg (fun db => db.sendEvents.length) isolated.withheld
  revert lengths
  decide +kernel

end LocalCrm.Webhooks
