import LocalCrm.Library.Page
import LocalCrm.Webhooks.JournalSafety

/-! What one tick of the replay sweep takes up of what it could. -/

set_option autoImplicit false

namespace LocalCrm.Webhooks

open Library

section Tick

variable (thresholds : WorkspaceTickThresholds) (now : Timestamp) (store : IngressStore) (workspaceId : WorkspaceId)

def stuckRows : List IngressJournalRow :=
  (store.journal.rows.filter (IngressStore.isStuck thresholds now workspaceId)).insertionSort
    fun left right => left.receivedAt ≤ right.receivedAt

def replayable : Nat :=
  store.journal.count fun row =>
    IngressStore.isStuck thresholds now workspaceId row && IngressStore.isEligible thresholds row

def rowsEnqueued : Nat := (store.runWorkspaceTick thresholds now workspaceId).sweeping.length

variable {thresholds : WorkspaceTickThresholds} {now : Timestamp} {store : IngressStore} {workspaceId : WorkspaceId}

theorem replayable_eq : replayable thresholds now store workspaceId =
    (stuckRows thresholds now store workspaceId).countP (IngressStore.isEligible thresholds) := by
  rw [stuckRows, (List.perm_insertionSort _ _).countP_eq, List.countP_filter]
  apply List.countP_congr
  intro row _
  rw [Bool.and_comm]

/-- `ANY($1)` finds each id once. -/
theorem length_enqueueCandidates {ids : List JournalId} (distinct : ids.Nodup)
    (stored : ∀ id ∈ ids, ∃ row, store.journal.find? id = some row ∧ row.workspaceId = workspaceId) :
    (store.enqueueCandidates workspaceId ids).length = ids.length := by
  have same : (store.journal.rows.filter fun row => row.workspaceId == workspaceId && ids.contains row.id).map (·.id)
      |>.Perm ids := by
    apply (List.perm_ext_iff_of_nodup _ distinct).mpr
    · intro id
      constructor
      · intro member
        obtain ⟨row, chosen, rfl⟩ := List.mem_map.mp member
        have both := Bool.and_eq_true_iff.mp (List.mem_filter.mp chosen).2
        exact List.contains_iff_mem.mp both.2
      · intro member
        obtain ⟨row, found, owner⟩ := stored id member
        have keyed : row.id = id := Table.key_of_find? found
        apply List.mem_map.mpr
        refine ⟨row, List.mem_filter.mpr ⟨Table.mem_of_find? found, ?_⟩, keyed⟩
        rw [owner, beq_self_eq_true, Bool.true_and, keyed]
        exact List.contains_iff_mem.mpr member
    · exact store.journal.unique.sublist (List.Sublist.map _ List.filter_sublist)
  have lengths := same.length_eq
  rw [List.length_map] at lengths
  rw [IngressStore.enqueueCandidates, List.length_map]
  exact lengths

theorem nodup_eligibleIds : (store.eligibleIds thresholds now workspaceId).Nodup := by
  have sorted : ((stuckRows thresholds now store workspaceId).map (·.id)).Nodup := by
    apply ((List.perm_insertionSort _ _).map _).nodup_iff.mpr
    exact store.journal.unique.sublist (List.Sublist.map _ List.filter_sublist)
  exact sorted.sublist (List.Sublist.map _ (List.filter_sublist.trans (List.take_sublist _ _)))

theorem rowsEnqueued_eq : rowsEnqueued thresholds now store workspaceId =
    ((stuckRows thresholds now store workspaceId).take thresholds.pageLimit).countP
      (IngressStore.isEligible thresholds) := by
  have counted := @length_enqueueCandidates store workspaceId _ (@nodup_eligibleIds thresholds now store workspaceId)
    fun id member => by
      obtain ⟨row, found, _, owner, _⟩ := eligible_of_mem member
      exact ⟨row, found, owner⟩
  rw [rowsEnqueued, IngressStore.runWorkspaceTick, counted, IngressStore.eligibleIds, List.length_map,
    ← List.countP_eq_length_filter]
  rfl

/-- A tick takes up as many rows as its page admits exactly where no row that could be replayed stands behind
one that took its place. -/
theorem replay_sweep_serves_iff (thresholds : WorkspaceTickThresholds) (now : Timestamp) (store : IngressStore)
    (workspaceId : WorkspaceId) :
    rowsEnqueued thresholds now store workspaceId =
        min thresholds.pageLimit (replayable thresholds now store workspaceId) ↔
      ServesPage (IngressStore.isEligible thresholds) thresholds.pageLimit
        (stuckRows thresholds now store workspaceId) := by
  rw [rowsEnqueued_eq, replayable_eq]
  exact countP_page_iff

end Tick

section Starvation

def tombstone (id : JournalId) : IngressJournalRow where
  id
  workspaceId := 1
  rawBatch := none
  receivedAt := id
  payloadPurgedAt := some 0

def waitingRow : IngressJournalRow where
  id := webhookReplaySweepPageLimit
  workspaceId := 1
  rawBatch := some []
  receivedAt := webhookReplaySweepPageLimit

def starvedJournal : IngressStore where
  journal :=
    { rows := (List.range webhookReplaySweepPageLimit).map tombstone ++ [waitingRow]
      unique := by
        have ids : ((List.range webhookReplaySweepPageLimit).map tombstone ++ [waitingRow]).map
            IngressJournalRow.id = List.range (webhookReplaySweepPageLimit + 1) := by
          rw [List.range_succ, List.map_append, List.map_map]
          exact congrArg (· ++ _) (List.map_id _)
        rw [ids]
        exact List.nodup_range }

theorem waiting_row_starves :
    rowsEnqueued runThresholds millisecondsPerHour starvedJournal 1 = 0 ∧
      min runThresholds.pageLimit (replayable runThresholds millisecondsPerHour starvedJournal 1) = 1 := by
  decide +kernel

end Starvation

end LocalCrm.Webhooks
