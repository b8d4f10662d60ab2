import LocalCrm.Lists.Queries

/-! Whether the pages of a list give every matching row once.

No list breaks ties by an id, so this rests on where the page boundaries fall.
-/

set_option autoImplicit false

namespace LocalCrm.Lists

open Library

section Pages

variable (store : Store) (workspaceId : WorkspaceId) (now : Timestamp)

def SendLogPartitions (query : ListSendLogQuery) : Prop :=
  PagesPartition SendLogRow.loggedAt (store.sendLogRows workspaceId now query) sendLogPageSize fun page sort =>
    (listSendLog sort store workspaceId now { query with page }).items

def TimelinePartitions (contactId : ContactId) (type : TimelineTypeFilter) : Prop :=
  PagesPartition TimelineRow.occurredAt (store.timelineRows workspaceId contactId type) contactTimelinePageSize
    fun page sort => listContactTimeline sort store workspaceId contactId { page := some page, type := some type }

def RunsPartition (flowId : Flows.FlowId) (status : Option Flows.FlowRunStatus) (pageSize : Nat) : Prop :=
  PagesPartition FlowRunListRow.enteredAt (store.runRows workspaceId flowId status) pageSize fun page sort =>
    (listRuns sort store workspaceId flowId { page, pageSize, status }).items

def FlowsPartition (pageSize : Nat) : Prop :=
  PagesPartition FlowListRow.createdAt (store.flowRows workspaceId) pageSize fun page sort =>
    (listFlows sort store workspaceId { page, pageSize }).items

def SegmentsPartition (pageSize : Nat) : Prop :=
  PagesPartition SegmentRow.createdAt (store.segmentRows workspaceId) pageSize fun page sort =>
    (listSegments sort store workspaceId { page, pageSize }).items

/-- Each list gives every matching row once exactly if no page ends inside a group of rows that share the key
and differ. -/
theorem lists_partition_iff :
    (∀ query, SendLogPartitions store workspaceId now query ↔ ∀ number,
      ¬ CutsTie SendLogRow.loggedAt (store.sendLogRows workspaceId now query) (number * sendLogPageSize)) ∧
    (∀ contactId type, TimelinePartitions store workspaceId contactId type ↔ ∀ number,
      ¬ CutsTie TimelineRow.occurredAt (store.timelineRows workspaceId contactId type)
        (number * contactTimelinePageSize)) ∧
    (∀ flowId status pageSize, RunsPartition store workspaceId flowId status pageSize ↔ ∀ number,
      ¬ CutsTie FlowRunListRow.enteredAt (store.runRows workspaceId flowId status) (number * pageSize)) ∧
    (∀ pageSize, FlowsPartition store workspaceId pageSize ↔ ∀ number,
      ¬ CutsTie FlowListRow.createdAt (store.flowRows workspaceId) (number * pageSize)) ∧
    ∀ pageSize, SegmentsPartition store workspaceId pageSize ↔ ∀ number,
      ¬ CutsTie SegmentRow.createdAt (store.segmentRows workspaceId) (number * pageSize) := by
  refine ⟨?_, ?_, ?_, ?_, ?_⟩
  · intro query
    exact pages_partition_iff
  · intro contactId type
    unfold TimelinePartitions
    exact pages_partition_iff
  · intro flowId status pageSize
    exact pages_partition_iff
  · intro pageSize
    exact pages_partition_iff
  · intro pageSize
    exact pages_partition_iff

end Pages

def twinSegment (id : SegmentId) : SegmentRow where
  id
  workspaceId := 1
  name := "vip"
  definition := .null
  createdByUserId := "u"
  createdAt := 0
  updatedAt := 0

def twinStore : Store := { segments := (Table.empty.insert (twinSegment 1)).insert (twinSegment 2) }

/-- On pages of one row, the second query sorts the two the other way and serves the first again. -/
theorem twins_are_served_twice :
    ¬ ∀ (store : Store) (workspaceId : WorkspaceId) (now : Timestamp),
      (∀ query, SendLogPartitions store workspaceId now query) ∧
      (∀ contactId type, TimelinePartitions store workspaceId contactId type) ∧
      (∀ flowId status pageSize, RunsPartition store workspaceId flowId status pageSize) ∧
      (∀ pageSize, FlowsPartition store workspaceId pageSize) ∧
      ∀ pageSize, SegmentsPartition store workspaceId pageSize := by
  intro always
  have partitions := (always twinStore 1 0).2.2.2.2 1
  have permitted : ∀ number, Permits SegmentRow.createdAt (twinStore.segmentRows 1)
      (if number ≤ 1 then [twinSegment 1, twinSegment 2] else [twinSegment 2, twinSegment 1]) := by
    intro number
    split
    · exact ⟨.refl _, by decide⟩
    · exact ⟨.swap _ _ _, by decide⟩
  have served := partitions (fun number _ => if number ≤ 1 then [twinSegment 1, twinSegment 2]
    else [twinSegment 2, twinSegment 1]) permitted 2 (by decide +kernel)
  have listed : twinSegment 2 ∈ [twinSegment 1, twinSegment 1] :=
    served.mem_iff.mpr (by decide +kernel : twinSegment 2 ∈ twinStore.segmentRows 1)
  exact absurd listed (by decide)

end LocalCrm.Lists
