import LocalCrm.Schema
import Mathlib.Data.List.Flatten
import Mathlib.Data.List.Basic

/-! The tables a workspace owns and what deleting rows of them does. -/

set_option autoImplicit false

namespace LocalCrm.Purge

inductive PurgeTable where
  | sendEvents
  | flowRunSteps
  | campaignRecipients
  | subscriptionStatusHistory
  | flowSegmentMembershipSnapshot
  | flowSegmentSweepCheckpoint
  | events
  | sends
  | flowRuns
  | flowVersions
  | flows
  | campaigns
  | segments
  | contacts
  | csvImportRows
  | csvImports
  | workspacePropertyRegistry
  | sendEventQuarantine
  | ingressJournal
  | workspaceApiKeys
  | workspaceSendSettings
  | reputationAlertState
  | workspaceSendgridKeys
  | workspaceSuppressionKeys
  | workspaceWebhookEndpoints
  deriving DecidableEq, Repr

/-- The physical name; every table is scoped by its `workspace_id`. -/
def PurgeTable.name : PurgeTable → String
  | .sendEvents => "send_events"
  | .flowRunSteps => "flow_run_steps"
  | .campaignRecipients => "campaign_recipients"
  | .subscriptionStatusHistory => "subscription_status_history"
  | .flowSegmentMembershipSnapshot => "flow_segment_membership_snapshot"
  | .flowSegmentSweepCheckpoint => "flow_segment_sweep_checkpoint"
  | .events => "events"
  | .sends => "sends"
  | .flowRuns => "flow_runs"
  | .flowVersions => "flow_versions"
  | .flows => "flows"
  | .campaigns => "campaigns"
  | .segments => "segments"
  | .contacts => "contacts"
  | .csvImportRows => "csv_import_rows"
  | .csvImports => "csv_imports"
  | .workspacePropertyRegistry => "workspace_property_registry"
  | .sendEventQuarantine => "send_event_quarantine"
  | .ingressJournal => "ingress_journal"
  | .workspaceApiKeys => "workspace_api_keys"
  | .workspaceSendSettings => "workspace_send_settings"
  | .reputationAlertState => "reputation_alert_state"
  | .workspaceSendgridKeys => "workspace_sendgrid_keys"
  | .workspaceSuppressionKeys => "workspace_suppression_keys"
  | .workspaceWebhookEndpoints => "workspace_webhook_endpoints"

/-- The walk order of `PURGE_TABLE_ORDER`, leaf to root. -/
def purgeTableOrder : List PurgeTable :=
  [.sendEvents, .flowRunSteps, .campaignRecipients, .subscriptionStatusHistory, .flowSegmentMembershipSnapshot,
    .flowSegmentSweepCheckpoint, .events, .sends, .flowRuns, .flowVersions, .flows, .campaigns, .segments,
    .contacts, .csvImportRows, .csvImports, .workspacePropertyRegistry, .sendEventQuarantine, .ingressJournal,
    .workspaceApiKeys, .workspaceSendSettings, .reputationAlertState, .workspaceSendgridKeys,
    .workspaceSuppressionKeys, .workspaceWebhookEndpoints]

theorem mem_purgeTableOrder (table : PurgeTable) : table ∈ purgeTableOrder := by
  cases table <;> decide

/-- `PURGE_EVIDENCE_TABLES`: never deleted from. -/
inductive EvidenceTable where
  | erasureRecords
  | workspaceSuppressions
  | workspaceDailyRollup
  deriving DecidableEq, Repr

inductive AuthTable where
  | member
  | invitation
  deriving DecidableEq, Repr

inductive StoredTable where
  | purged (table : PurgeTable)
  | evidence (table : EvidenceTable)
  | auth (table : AuthTable)
  deriving DecidableEq, Repr

namespace StoredTable

def all : List StoredTable :=
  purgeTableOrder.map purged ++
    [.evidence .erasureRecords, .evidence .workspaceSuppressions, .evidence .workspaceDailyRollup,
      .auth .member, .auth .invitation]

theorem mem_all (table : StoredTable) : table ∈ all := by
  cases table with
  | purged table =>
    apply List.mem_append_left
    exact List.mem_map_of_mem (mem_purgeTableOrder table)
  | evidence table | auth table =>
    cases table <;> decide

def isEvidence : StoredTable → Bool
  | evidence _ => true
  | _ => false

end StoredTable

inductive OnDelete where
  | cascade
  | setNull
  | restrict
  deriving DecidableEq, Repr

structure ForeignKey where
  child : StoredTable
  column : String
  parent : StoredTable
  onDelete : OnDelete
  deriving DecidableEq, Repr

/-- The foreign keys between these tables. All of them also cascade from the organization, which is
never deleted. -/
def foreignKeys : List ForeignKey :=
  [⟨.purged .campaignRecipients, "campaign_id", .purged .campaigns, .cascade⟩,
    ⟨.purged .campaignRecipients, "contact_id", .purged .contacts, .cascade⟩,
    ⟨.purged .campaigns, "segment_id", .purged .segments, .restrict⟩,
    ⟨.purged .csvImportRows, "csv_import_id", .purged .csvImports, .cascade⟩,
    ⟨.evidence .erasureRecords, "contact_id", .purged .contacts, .setNull⟩,
    ⟨.purged .events, "contact_id", .purged .contacts, .cascade⟩,
    ⟨.purged .flowRunSteps, "flow_run_id", .purged .flowRuns, .cascade⟩,
    ⟨.purged .flowRunSteps, "send_id", .purged .sends, .setNull⟩,
    ⟨.purged .flowRuns, "flow_id", .purged .flows, .cascade⟩,
    ⟨.purged .flowRuns, "flow_version_id", .purged .flowVersions, .restrict⟩,
    ⟨.purged .flowRuns, "contact_id", .purged .contacts, .cascade⟩,
    ⟨.purged .flowSegmentMembershipSnapshot, "flow_id", .purged .flows, .cascade⟩,
    ⟨.purged .flowSegmentMembershipSnapshot, "contact_id", .purged .contacts, .cascade⟩,
    ⟨.purged .flowSegmentSweepCheckpoint, "flow_id", .purged .flows, .cascade⟩,
    ⟨.purged .flowVersions, "flow_id", .purged .flows, .cascade⟩,
    ⟨.purged .flows, "trigger_segment_id", .purged .segments, .restrict⟩,
    ⟨.purged .sendEvents, "send_id", .purged .sends, .setNull⟩,
    ⟨.purged .sends, "campaign_id", .purged .campaigns, .setNull⟩,
    ⟨.purged .sends, "contact_id", .purged .contacts, .cascade⟩,
    ⟨.purged .sends, "flow_run_id", .purged .flowRuns, .cascade⟩,
    ⟨.purged .subscriptionStatusHistory, "contact_id", .purged .contacts, .cascade⟩]

structure Reference where
  column : String
  target : Nat
  deriving DecidableEq, Repr

structure Row where
  id : Nat
  workspaceId : WorkspaceId
  references : List Reference := []
  deriving DecidableEq, Repr

def Row.refersTo (row : Row) (key : ForeignKey) (target : Row) : Bool :=
  row.references.any fun reference => reference.column == key.column && reference.target == target.id

abbrev Rows := StoredTable → List Row

/-- Rows reference rows of their own workspace only: row-level security shows a writer no others. -/
def WithinWorkspaces (rows : Rows) : Prop :=
  ∀ key ∈ foreignKeys, ∀ row ∈ rows key.child, ∀ target ∈ rows key.parent,
    row.refersTo key target = true → row.workspaceId = target.workspaceId

/-- The chosen rows of a table with everything that cascades from them, as many levels deep. -/
def doomed (rows : Rows) (table : StoredTable) (chosen : Row → Bool) : Nat → StoredTable → Row → Bool
  | 0, other, row => other == table && chosen row
  | level + 1, other, row => doomed rows table chosen level other row || foreignKeys.any fun key =>
      key.child == other && key.onDelete == .cascade && (rows key.parent).any fun target =>
        row.refersTo key target && doomed rows table chosen level key.parent target

/-- A restricting key still holds a doomed row. -/
def restricted (rows : Rows) (gone : StoredTable → Row → Bool) : Bool :=
  foreignKeys.any fun key => key.onDelete == .restrict && (rows key.child).any fun row =>
    !gone key.child row && (rows key.parent).any fun target => gone key.parent target && row.refersTo key target

/-- A row left behind loses the references that are set to null. -/
def detach (rows : Rows) (gone : StoredTable → Row → Bool) (table : StoredTable) (row : Row) : Row :=
  { row with references := row.references.filter fun reference => !foreignKeys.any fun key =>
      key.child == table && key.onDelete == .setNull && key.column == reference.column &&
        (rows key.parent).any fun target => gone key.parent target && target.id == reference.target }

/-- `DELETE FROM table WHERE …`: the rows left and the rows that went, or an error of a restricting key. -/
def deleteRows (rows : Rows) (table : StoredTable) (chosen : Row → Bool) :
    Option (Rows × List (StoredTable × Row)) :=
  let gone := doomed rows table chosen foreignKeys.length
  if restricted rows gone then none
  else some
    (fun other => ((rows other).filter fun row => !gone other row).map (detach rows gone other),
      StoredTable.all.flatMap fun other => ((rows other).filter (gone other)).map (other, ·))

/-- `countPurgeTableRows`, and the two counts of `countWorkspaceAuthRows`. -/
def countRows (rows : Rows) (table : StoredTable) (workspaceId : WorkspaceId) : Nat :=
  (rows table).countP fun row => row.workspaceId == workspaceId

def Emptied (rows : Rows) (table : StoredTable) (workspaceId : WorkspaceId) : Prop :=
  ∀ row ∈ rows table, row.workspaceId ≠ workspaceId

theorem countRows_eq_zero {rows : Rows} {table : StoredTable} {workspaceId : WorkspaceId} :
    countRows rows table workspaceId = 0 ↔ Emptied rows table workspaceId := by
  simp only [countRows, List.countP_eq_zero, beq_iff_eq, Emptied, ne_eq]

section Deletion

variable {rows left : Rows} {table : StoredTable} {chosen : Row → Bool} {removed : List (StoredTable × Row)}

theorem deleteRows_some (deleted : deleteRows rows table chosen = some (left, removed)) :
    let gone := doomed rows table chosen foreignKeys.length
    left = (fun other => ((rows other).filter fun row => !gone other row).map (detach rows gone other)) ∧
      removed = StoredTable.all.flatMap fun other => ((rows other).filter (gone other)).map (other, ·) := by
  unfold deleteRows at deleted
  simp only at deleted
  split at deleted
  · cases deleted
  · cases deleted
    exact ⟨rfl, rfl⟩

variable {other : StoredTable} {row : Row}

theorem mem_removed (deleted : deleteRows rows table chosen = some (left, removed)) :
    (other, row) ∈ removed ↔
      row ∈ rows other ∧ doomed rows table chosen foreignKeys.length other row = true := by
  obtain ⟨-, rfl⟩ := deleteRows_some deleted
  simp only [List.mem_flatMap, List.mem_map, List.mem_filter, Prod.mk.injEq]
  constructor
  · rintro ⟨named, -, found, ⟨stored, gone⟩, rfl, rfl⟩
    exact ⟨stored, gone⟩
  · rintro ⟨stored, gone⟩
    exact ⟨other, StoredTable.mem_all other, row, ⟨stored, gone⟩, rfl, rfl⟩

theorem of_mem_left (deleted : deleteRows rows table chosen = some (left, removed))
    (stays : row ∈ left other) :
    ∃ before ∈ rows other, doomed rows table chosen foreignKeys.length other before = false ∧
      row.id = before.id ∧ row.workspaceId = before.workspaceId ∧
        ∀ key target, row.refersTo key target = true → before.refersTo key target = true := by
  obtain ⟨rfl, -⟩ := deleteRows_some deleted
  simp only [List.mem_map, List.mem_filter, Bool.not_eq_true'] at stays
  obtain ⟨before, ⟨stored, kept⟩, rfl⟩ := stays
  refine ⟨before, stored, kept, rfl, rfl, ?_⟩
  intro key target refers
  simp only [Row.refersTo, detach, List.any_filter, List.any_eq_true] at refers ⊢
  obtain ⟨reference, member, held⟩ := refers
  exact ⟨reference, member, (Bool.and_eq_true_iff.mp held).2⟩

theorem chosen_doomed (level : Nat)
    (picked : doomed rows table chosen 0 other row = true) : doomed rows table chosen level other row = true := by
  induction level with
  | zero => exact picked
  | succ level ih =>
    rw [doomed, ih]
    rfl

theorem left_not_chosen (deleted : deleteRows rows table chosen = some (left, removed))
    (stays : row ∈ left table) (lasting : ∀ before : Row, before.id = row.id → before.workspaceId = row.workspaceId →
      chosen before = chosen row) : chosen row = false := by
  obtain ⟨before, -, kept, sameId, sameWorkspace, -⟩ := of_mem_left deleted stays
  by_contra picked
  have marked : doomed rows table chosen 0 table before = true := by
    simp only [doomed, beq_self_eq_true, Bool.true_and, lasting before sameId.symm sameWorkspace.symm]
    exact Bool.not_eq_false _ ▸ picked
  rw [chosen_doomed _ marked] at kept
  cases kept

theorem withinWorkspaces_left (within : WithinWorkspaces rows)
    (deleted : deleteRows rows table chosen = some (left, removed)) : WithinWorkspaces left := by
  intro key listed row stays target kept refers
  obtain ⟨before, stored, -, -, sameWorkspace, referred⟩ := of_mem_left deleted stays
  obtain ⟨parent, held, -, sameId, parentWorkspace, -⟩ := of_mem_left deleted kept
  have pointed : before.refersTo key parent = true := by
    have refersBefore := referred key target refers
    simp only [Row.refersTo, sameId] at refersBefore
    exact refersBefore
  rw [sameWorkspace, parentWorkspace]
  exact within key listed before stored parent held pointed

theorem doomed_owned (within : WithinWorkspaces rows) {workspaceId : WorkspaceId}
    (owned : ∀ row, chosen row = true → row.workspaceId = workspaceId) (destroys : table.isEvidence = false)
    (level : Nat) (stored : row ∈ rows other)
    (gone : doomed rows table chosen level other row = true) :
    row.workspaceId = workspaceId ∧ other.isEvidence = false := by
  induction level generalizing other row with
  | zero =>
    simp only [doomed, Bool.and_eq_true, beq_iff_eq] at gone
    exact ⟨owned row gone.2, gone.1 ▸ destroys⟩
  | succ level ih =>
    simp only [doomed, Bool.or_eq_true] at gone
    rcases gone with before | cascaded
    · exact ih stored before
    · obtain ⟨key, listed, taken⟩ := List.any_eq_true.mp cascaded
      simp only [Bool.and_eq_true, beq_iff_eq, List.any_eq_true] at taken
      obtain ⟨⟨rfl, cascades⟩, target, held, refers, parentGone⟩ := taken
      constructor
      · exact (within key listed row stored target held refers).trans (ih held parentGone).1
      · -- the one key of an evidence table sets its reference to null
        have spared : ∀ key ∈ foreignKeys, key.onDelete = .cascade → key.child.isEvidence = false := by decide
        exact spared key listed cascades

theorem doomed_auth (level : Nat) {auth : AuthTable}
    (gone : doomed rows table chosen level (.auth auth) row = true) : table = .auth auth := by
  induction level with
  | zero =>
    simp only [doomed, Bool.and_eq_true, beq_iff_eq] at gone
    exact gone.1.symm
  | succ level ih =>
    simp only [doomed, Bool.or_eq_true] at gone
    rcases gone with before | cascaded
    · exact ih before
    · obtain ⟨key, listed, taken⟩ := List.any_eq_true.mp cascaded
      simp only [Bool.and_eq_true, beq_iff_eq] at taken
      have children : ∀ key ∈ foreignKeys, key.child ≠ .auth .member ∧ key.child ≠ .auth .invitation := by decide
      cases auth with
      | member => exact absurd taken.1.1 (children key listed).1
      | invitation => exact absurd taken.1.1 (children key listed).2

theorem removed_owned (within : WithinWorkspaces rows) {workspaceId : WorkspaceId}
    (owned : ∀ row, chosen row = true → row.workspaceId = workspaceId) (destroys : table.isEvidence = false)
    (deleted : deleteRows rows table chosen = some (left, removed))
    (gone : (other, row) ∈ removed) : row.workspaceId = workspaceId ∧ other.isEvidence = false := by
  obtain ⟨stored, taken⟩ := (mem_removed deleted).mp gone
  exact doomed_owned within owned destroys _ stored taken

theorem emptied_left (deleted : deleteRows rows table chosen = some (left, removed))
    {workspaceId : WorkspaceId} (emptied : Emptied rows other workspaceId) : Emptied left other workspaceId := by
  intro row stays
  obtain ⟨before, stored, -, -, sameWorkspace, -⟩ := of_mem_left deleted stays
  rw [sameWorkspace]
  exact emptied before stored

end Deletion

end LocalCrm.Purge
