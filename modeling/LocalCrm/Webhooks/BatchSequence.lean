import LocalCrm.Webhooks.EventLog

/-! A workspace's batches one after another. -/

set_option autoImplicit false

namespace LocalCrm.Webhooks

open Library Delivery

structure TimedBatch where
  now : Timestamp
  events : List JsonValue

def processWebhookEventBatches (platform : Platform) (workspaceId : WorkspaceId) (db : Database)
    (batches : List TimedBatch) : Database :=
  batches.foldl (fun db batch => processWebhookEventBatch platform batch.now db workspaceId batch.events) db

def appliedRows (platform : Platform) (workspaceId : WorkspaceId) :
    Database → List TimedBatch → List (Timestamp × ExtractedEvent)
  | _, [] => []
  | db, batch :: rest =>
    (newRows platform batch.now db workspaceId batch.events).map (fun row => (batch.now, row)) ++
      appliedRows platform workspaceId (processWebhookEventBatch platform batch.now db workspaceId batch.events) rest

section Kept

variable {platform : Platform} {sends other : Sends} {db next : Database} {workspaceId : WorkspaceId}

theorem DeliveryKept.isSome_find? (kept : DeliveryKept db next) (intent : SendIntent) :
    (next.sends.find? intent).isSome = (db.sends.find? intent).isSome := by
  have columns := congrArg Option.isSome (kept.sends intent)
  rw [Option.isSome_map, Option.isSome_map] at columns
  exact columns

theorem mem_rows_of_isSome {intent : SendIntent} (present : (sends.find? intent).isSome = true) :
    ∃ row ∈ sends.rows, row.intent = intent := by
  obtain ⟨row, found⟩ := Option.isSome_iff_exists.mp present
  exact ⟨row, Table.mem_of_find? found, Table.key_of_find? found⟩

theorem isSome_of_mem_rows {row : Send} (stored : row ∈ sends.rows) : (sends.find? row.intent).isSome = true := by
  rw [Table.find?_of_mem stored]
  rfl

theorem ownerOfText_iff {text : String} {owner : WorkspaceId} :
    ownerOfText platform sends text = some owner ↔ ∃ intent, (sends.find? intent).isSome = true ∧
      platform.uuidText (platform.sendIds.derive intent) = text ∧ intent.workspaceId = owner := by
  constructor
  · intro owned
    obtain ⟨row, found, rfl⟩ := Option.map_eq_some_iff.mp owned
    have printed := List.find?_some found
    exact ⟨row.intent, isSome_of_mem_rows (List.mem_of_find?_eq_some found), eq_of_beq printed, rfl⟩
  · rintro ⟨intent, present, rfl, rfl⟩
    obtain ⟨row, stored, rfl⟩ := mem_rows_of_isSome present
    exact ownerOfText_printed stored

theorem mem_sendIdTexts {text : String} :
    text ∈ sendIdTexts platform sends (fun send => send.intent.workspaceId == workspaceId) ↔
      ∃ intent, (sends.find? intent).isSome = true ∧
        platform.uuidText (platform.sendIds.derive intent) = text ∧ intent.workspaceId = workspaceId := by
  constructor
  · intro listed
    obtain ⟨row, selected, rfl⟩ := List.mem_map.mp listed
    obtain ⟨stored, own⟩ := List.mem_filter.mp selected
    exact ⟨row.intent, isSome_of_mem_rows stored, rfl, eq_of_beq own⟩
  · rintro ⟨intent, present, rfl, own⟩
    obtain ⟨row, stored, rfl⟩ := mem_rows_of_isSome present
    exact List.mem_map.mpr ⟨row, List.mem_filter.mpr ⟨stored, beq_iff_eq.mpr own⟩, rfl⟩

theorem submission_congr (same : ∀ intent, (other.find? intent).isSome = (sends.find? intent).isSome) :
    submission platform other workspaceId = submission platform sends workspaceId := by
  have owners : ownerOfText platform other = ownerOfText platform sends := by
    funext text
    apply Option.ext
    intro owner
    rw [ownerOfText_iff, ownerOfText_iff]
    simp only [same]
  have texts : ∀ text, text ∈ sendIdTexts platform other (fun send => send.intent.workspaceId == workspaceId) ↔
      text ∈ sendIdTexts platform sends fun send => send.intent.workspaceId == workspaceId := by
    intro text
    rw [mem_sendIdTexts, mem_sendIdTexts]
    simp only [same]
  funext row
  simp only [submission, owners, resolveRow, texts]

theorem submittedRows_kept (kept : DeliveryKept db next) (now : Timestamp) (events : List JsonValue) :
    submittedRows platform now next workspaceId events = submittedRows platform now db workspaceId events := by
  rw [submittedRows_filterMap, submittedRows_filterMap, submission_congr kept.isSome_find?]

end Kept

section Sequences

variable {platform : Platform} {workspaceId : WorkspaceId}

theorem withoutLogs_batches (batches : List TimedBatch) (db : Database) :
    withoutLogs (processWebhookEventBatches platform workspaceId db batches) =
      (appliedRows platform workspaceId db batches).foldl
        (fun db applied => applyNewRow platform applied.1 workspaceId db applied.2) (withoutLogs db) := by
  induction batches generalizing db with
  | nil => rfl
  | cons batch rest ih =>
    rw [appliedRows, List.foldl_append, List.foldl_map, ← withoutLogs_processWebhookEventBatch]
    exact ih _

def submittedRowsOf (platform : Platform) (workspaceId : WorkspaceId) (db : Database) (batches : List TimedBatch) :
    List ExtractedEvent :=
  batches.flatMap fun batch => submittedRows platform batch.now db workspaceId batch.events

theorem submittedRowsOf_cons (db : Database) (batch : TimedBatch) (rest : List TimedBatch) :
    submittedRowsOf platform workspaceId db (batch :: rest) =
      submittedRows platform batch.now db workspaceId batch.events ++
        submittedRowsOf platform workspaceId db rest := rfl

theorem submittedRowsOf_kept {db next : Database} (kept : DeliveryKept db next) (batches : List TimedBatch) :
    submittedRowsOf platform workspaceId next batches = submittedRowsOf platform workspaceId db batches := by
  simp only [submittedRowsOf, submittedRows_kept kept]

theorem appliedRows_live (batches : List TimedBatch) (db : Database)
    (live : isWorkspaceSoftDeleted db.organizations workspaceId = false) :
    (appliedRows platform workspaceId db batches).map Prod.snd =
      winners (rowKey platform workspaceId) (db.sendEvents.filterMap dedupKey)
        (submittedRowsOf platform workspaceId db batches) := by
  induction batches generalizing db with
  | nil => rfl
  | cons batch rest ih =>
    have kept : DeliveryKept db (processWebhookEventBatch platform batch.now db workspaceId batch.events) :=
      kept_of_processWebhookEventBatch batch.events
    have onward := ih _ (by rw [kept.organizations]; exact live)
    have stored : (fun row => dedupKey (storedEvent platform workspaceId row)) = rowKey platform workspaceId := rfl
    rw [appliedRows, List.map_append, onward, submittedRowsOf_kept kept, sendEvents_processWebhookEventBatch,
      newRows_live batch.events live, submittedRowsOf_cons, winners_append, List.filterMap_append,
      List.filterMap_map, List.map_map]
    simp only [Function.comp_def, stored, List.map_id']

theorem appliedRows_deleted (batches : List TimedBatch) (db : Database)
    (deleted : isWorkspaceSoftDeleted db.organizations workspaceId = true) :
    appliedRows platform workspaceId db batches = [] := by
  induction batches generalizing db with
  | nil => rfl
  | cons batch rest ih =>
    have same : processWebhookEventBatch platform batch.now db workspaceId batch.events = db := if_pos deleted
    have none : newRows platform batch.now db workspaceId batch.events = [] := if_pos deleted
    rw [appliedRows, same, none, ih db deleted]
    rfl

end Sequences

end LocalCrm.Webhooks
