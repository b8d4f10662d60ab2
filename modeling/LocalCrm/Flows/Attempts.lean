import LocalCrm.Flows.EnrollExisting

/-! The entries that one transaction attempts, and the runs it leaves. -/

set_option autoImplicit false

namespace LocalCrm.Flows

open Library

structure EntryAttempt where
  flow : FlowRow
  liveVersionId : FlowVersionId
  contactId : ContactId
  now : Timestamp
  clock : Timestamp
  flowRunId : FlowRunId
  marks : Bool

namespace EntryAttempt

variable (attempt : EntryAttempt) (tables : FlowTables)

def target : WorkspaceId × FlowId × ContactId := (attempt.flow.workspaceId, attempt.flow.id, attempt.contactId)

def run : FlowRunRow :=
  tables.newRun attempt.now attempt.flowRunId attempt.flow.workspaceId attempt.flow.id attempt.liveVersionId
    attempt.contactId

def allowed : Bool := (tables.canEnterFlow attempt.clock (attempt.flow.entryParams attempt.contactId)).isOk

def insert : FlowTables := if attempt.allowed tables then tables.insertRun (attempt.run tables) else tables

def enter : FlowTables :=
  if attempt.marks then
    (attempt.insert tables).markSeen attempt.flow.workspaceId attempt.flow.id [attempt.contactId]
  else attempt.insert tables

end EntryAttempt

def enterAll (tables : FlowTables) (attempts : List EntryAttempt) : FlowTables :=
  attempts.foldl (fun tables attempt => attempt.enter tables) tables

structure Independent (tables : FlowTables) (attempts : List EntryAttempt) : Prop where
  targets : (attempts.map EntryAttempt.target).Nodup
  ids : (attempts.map EntryAttempt.flowRunId).Nodup
  unused : ∀ attempt ∈ attempts, tables.flowRuns.find? attempt.flowRunId = none

section Decisions

variable {tables other : FlowTables} {attempt later : EntryAttempt} {attempts : List EntryAttempt}
  {workspaceId : WorkspaceId} {flowId : FlowId} {contactId : ContactId} {run : FlowRunRow} {flowRunId : FlowRunId}

theorem canEnterFlow_congr {now : Timestamp} {params : CanEnterFlowParams}
    (same : other.runsOf params.workspaceId params.flowId params.contactId =
      tables.runsOf params.workspaceId params.flowId params.contactId) :
    other.canEnterFlow now params = tables.canEnterFlow now params := by
  unfold FlowTables.canEnterFlow FlowTables.hasActiveRun FlowTables.lastEntryAt
  rw [same]

theorem hasActiveRun_of_allowed (allowed : attempt.allowed tables = true) :
    tables.hasActiveRun attempt.flow.workspaceId attempt.flow.id attempt.contactId = false := by
  rw [Bool.eq_false_iff]
  intro active
  unfold EntryAttempt.allowed FlowTables.canEnterFlow at allowed
  rw [if_pos (show tables.hasActiveRun (attempt.flow.entryParams attempt.contactId).workspaceId
    (attempt.flow.entryParams attempt.contactId).flowId (attempt.flow.entryParams attempt.contactId).contactId = true
    from active)] at allowed
  cases allowed

@[simp] theorem enter_flows : (attempt.enter tables).flows = tables.flows := by
  unfold EntryAttempt.enter EntryAttempt.insert FlowTables.insertRun FlowTables.markSeen
  repeat' split
  all_goals rfl

@[simp] theorem enter_flowVersions : (attempt.enter tables).flowVersions = tables.flowVersions := by
  unfold EntryAttempt.enter EntryAttempt.insert FlowTables.insertRun FlowTables.markSeen
  repeat' split
  all_goals rfl

theorem enter_flowRuns : (attempt.enter tables).flowRuns =
    if attempt.allowed tables then tables.flowRuns.insert (attempt.run tables) else tables.flowRuns := by
  have inserted : (attempt.enter tables).flowRuns = (attempt.insert tables).flowRuns := by
    unfold EntryAttempt.enter FlowTables.markSeen
    split <;> rfl
  rw [inserted]
  unfold EntryAttempt.insert
  split
  · next allowed =>
    unfold FlowTables.insertRun
    rw [if_neg]
    exact Bool.eq_false_iff.mp (hasActiveRun_of_allowed allowed)
  · rfl

theorem enter_run (attempt later : EntryAttempt) : later.run (attempt.enter tables) = later.run tables := by
  unfold EntryAttempt.run FlowTables.newRun FlowTables.loadEntryNodeId FlowTables.definitionOf FlowTables.version?
  rw [enter_flowVersions]

theorem enter_runsOf (differs : attempt.target ≠ (workspaceId, flowId, contactId)) :
    (attempt.enter tables).runsOf workspaceId flowId contactId = tables.runsOf workspaceId flowId contactId := by
  unfold FlowTables.runsOf
  rw [enter_flowRuns]
  split
  · unfold Table.insert
    split
    · rfl
    · have away : (attempt.run tables).isFor workspaceId flowId contactId = false := by
        rw [Bool.eq_false_iff]
        intro pair
        obtain ⟨workspace, flow, contact⟩ := isFor_iff.mp pair
        exact differs (by rw [← workspace, ← flow, ← contact]; rfl)
      rw [List.filter_append, List.filter_singleton, away, Bool.cond_false, List.append_nil]
  · rfl

theorem allowed_enter (differs : attempt.target ≠ later.target) :
    later.allowed (attempt.enter tables) = later.allowed tables := by
  unfold EntryAttempt.allowed
  rw [canEnterFlow_congr (enter_runsOf differs)]

theorem find?_enter (unused : tables.flowRuns.find? attempt.flowRunId = none) :
    (attempt.enter tables).flowRuns.find? flowRunId = some run ↔
      tables.flowRuns.find? flowRunId = some run ∨
        (attempt.allowed tables = true ∧ attempt.run tables = run ∧ attempt.flowRunId = flowRunId) := by
  rw [enter_flowRuns]
  split
  · next allowed =>
    rw [Table.find?_insert]
    by_cases mine : attempt.flowRunId = flowRunId
    · subst mine
      have keyed : (attempt.run tables).id = attempt.flowRunId := rfl
      simp [unused, keyed, allowed]
    · have keyed : (attempt.run tables).id ≠ flowRunId := mine
      simp [keyed, mine]
  · next refused => simp [refused]

theorem independent_enter (independent : Independent tables (attempt :: attempts)) :
    Independent (attempt.enter tables) attempts := by
  obtain ⟨targets, ids, unused⟩ := independent
  rw [List.map_cons, List.nodup_cons] at targets ids
  refine ⟨targets.2, ids.2, ?_⟩
  intro later member
  rw [Option.eq_none_iff_forall_not_mem]
  intro run found
  rcases (find?_enter (unused attempt List.mem_cons_self)).mp found with old | ⟨_, _, same⟩
  · rw [unused later (List.mem_cons_of_mem _ member)] at old
    cases old
  · exact ids.1 (by rw [same]; exact List.mem_map_of_mem member)

theorem enterAll_cons : enterAll tables (attempt :: attempts) = enterAll (attempt.enter tables) attempts := rfl

theorem find?_enterAll (independent : Independent tables attempts) :
    (enterAll tables attempts).flowRuns.find? flowRunId = some run ↔
      tables.flowRuns.find? flowRunId = some run ∨
        ∃ attempt ∈ attempts, attempt.allowed tables = true ∧ attempt.run tables = run ∧
          attempt.flowRunId = flowRunId := by
  induction attempts generalizing tables with
  | nil => simp [enterAll]
  | cons head rest ih =>
    have onward : ∀ later ∈ rest, later.allowed (head.enter tables) = later.allowed tables := by
      intro later member
      apply allowed_enter
      intro same
      have targets := independent.targets
      rw [List.map_cons, List.nodup_cons] at targets
      exact targets.1 (by rw [same]; exact List.mem_map_of_mem member)
    have first := @find?_enter tables head run flowRunId (independent.unused head List.mem_cons_self)
    rw [enterAll_cons, ih (independent_enter independent), first, or_assoc]
    apply or_congr_right
    rw [List.exists_mem_cons_iff]
    apply or_congr_right
    apply exists_congr
    intro later
    apply and_congr_right
    intro member
    rw [onward later member, enter_run]

theorem new_enterAll (independent : Independent tables attempts) (missing : tables.flowRuns.find? flowRunId = none) :
    (enterAll tables attempts).flowRuns.find? flowRunId = some run ↔
      ∃ attempt ∈ attempts, attempt.allowed tables = true ∧ attempt.run tables = run ∧
        attempt.flowRunId = flowRunId := by
  rw [find?_enterAll independent, missing]
  simp

@[simp] theorem enterAll_flows : (enterAll tables attempts).flows = tables.flows := by
  induction attempts generalizing tables with
  | nil => rfl
  | cons head rest ih => exact ih.trans enter_flows

theorem enterAll_append {first second : List EntryAttempt} :
    enterAll tables (first ++ second) = enterAll (enterAll tables first) second := List.foldl_append

theorem enter_grows : Grows tables (attempt.enter tables) := by
  have inserted : Grows tables (attempt.insert tables) := by
    unfold EntryAttempt.insert
    split
    · exact insertRun_grows _
    · exact .refl tables
  unfold EntryAttempt.enter
  split
  · exact inserted.trans markSeen_grows
  · exact inserted

theorem enterAll_grows : Grows tables (enterAll tables attempts) := by
  induction attempts generalizing tables with
  | nil => exact .refl tables
  | cons head rest ih => exact enter_grows.trans ih

theorem enter_membershipSnapshot : (attempt.enter tables).membershipSnapshot =
    if attempt.marks then
      (tables.markSeen attempt.flow.workspaceId attempt.flow.id [attempt.contactId]).membershipSnapshot
    else tables.membershipSnapshot := by
  have inserted : (attempt.insert tables).membershipSnapshot = tables.membershipSnapshot := by
    unfold EntryAttempt.insert FlowTables.insertRun
    repeat' split
    all_goals rfl
  unfold EntryAttempt.enter
  split
  · unfold FlowTables.markSeen
    rw [inserted]
  · exact inserted

theorem hasSeenSnapshot_insert {snapshot : MembershipSnapshot} :
    ((tables.membershipSnapshot.insert snapshot).find? (workspaceId, flowId, contactId)).isSome =
      (tables.hasSeenSnapshot workspaceId flowId contactId ||
        decide (snapshot.key = (workspaceId, flowId, contactId))) := by
  rw [Table.find?_insert]
  unfold FlowTables.hasSeenSnapshot
  split
  · next same => simp [same]
  · next differs => simp [differs]

theorem hasSeenSnapshot_enterAttempt : (attempt.enter tables).hasSeenSnapshot workspaceId flowId contactId =
    (tables.hasSeenSnapshot workspaceId flowId contactId ||
      (attempt.marks && decide (attempt.target = (workspaceId, flowId, contactId)))) := by
  cases marks : attempt.marks with
  | false =>
    unfold FlowTables.hasSeenSnapshot
    rw [enter_membershipSnapshot, marks]
    simp
  | true =>
    have seen : (attempt.enter tables).hasSeenSnapshot workspaceId flowId contactId =
        ((tables.membershipSnapshot.insert ⟨attempt.flow.workspaceId, attempt.flow.id, attempt.contactId⟩).find?
          (workspaceId, flowId, contactId)).isSome := by
      unfold FlowTables.hasSeenSnapshot
      rw [enter_membershipSnapshot, marks]
      rfl
    rw [seen, hasSeenSnapshot_insert]
    rfl

theorem hasSeenSnapshot_enterAll : (enterAll tables attempts).hasSeenSnapshot workspaceId flowId contactId = true ↔
    tables.hasSeenSnapshot workspaceId flowId contactId = true ∨
      ∃ attempt ∈ attempts, attempt.marks = true ∧ attempt.target = (workspaceId, flowId, contactId) := by
  induction attempts generalizing tables with
  | nil => simp [enterAll]
  | cons head rest ih =>
    rw [enterAll_cons, ih, hasSeenSnapshot_enterAttempt, List.exists_mem_cons_iff, Bool.or_eq_true, Bool.and_eq_true,
      decide_eq_true_eq, or_assoc]

end Decisions

section Pages

variable {input : EntryInput} {walk : SegmentWalk} {tables : FlowTables} {page : List ContactId}
  {contactId : ContactId} {cursor : Option ContactId}

def walkAttempt (input : EntryInput) (walk : SegmentWalk) (contactId : ContactId) : EntryAttempt where
  flow := walk.flow
  liveVersionId := walk.liveVersionId
  contactId
  now := input.now
  clock := input.clock contactId
  flowRunId := input.flowRunId contactId
  marks := true

def pageAttempts (input : EntryInput) (walk : SegmentWalk) (tables : FlowTables) (page : List ContactId) :
    List EntryAttempt :=
  (page.filter fun contactId => !tables.hasSeenSnapshot walk.flow.workspaceId walk.flow.id contactId).map
    (walkAttempt input walk)

theorem enterSegmentTriggeredFlow_eq :
    enterSegmentTriggeredFlow input walk tables contactId = (walkAttempt input walk contactId).enter tables := by
  have decided : (walkAttempt input walk contactId).allowed tables =
      (tables.canEnterFlow (input.clock contactId) (walk.flow.entryParams contactId)).isOk := rfl
  unfold enterSegmentTriggeredFlow EntryAttempt.enter EntryAttempt.insert
  rw [decided]
  cases outcome : tables.canEnterFlow (input.clock contactId) (walk.flow.entryParams contactId) <;> rfl

theorem enterUnseen_eq :
    enterUnseen input walk tables page = enterAll tables (pageAttempts input walk tables page) := by
  unfold enterUnseen enterAll pageAttempts
  rw [List.foldl_map]
  congr 1
  funext tables contactId
  exact enterSegmentTriggeredFlow_eq

theorem foldl_enrollContact (distinct : page.Nodup) :
    page.foldl (enrollContact input walk) tables = enterUnseen input walk tables page := by
  induction page generalizing tables with
  | nil => rfl
  | cons head rest ih =>
    obtain ⟨away, once⟩ := List.nodup_cons.mp distinct
    rw [List.foldl_cons, ih once]
    unfold enrollContact enterUnseen
    cases seen : tables.hasSeenSnapshot walk.flow.workspaceId walk.flow.id head with
    | true =>
      rw [if_pos rfl, List.filter_cons_of_neg (by simp [seen])]
    | false =>
      have same : (rest.filter fun contactId => !(enterSegmentTriggeredFlow input walk tables head).hasSeenSnapshot
          walk.flow.workspaceId walk.flow.id contactId) =
          rest.filter fun contactId => !tables.hasSeenSnapshot walk.flow.workspaceId walk.flow.id contactId := by
        apply List.filter_congr
        intro contactId member
        have differs : contactId ≠ head := by
          rintro rfl
          exact away member
        rw [hasSeenSnapshot_enter, decide_eq_false differs, Bool.or_false]
      rw [if_neg Bool.false_ne_true, same, List.filter_cons_of_pos (by simp [seen]), List.foldl_cons]

theorem enrollBatch_eq (distinct : page.Nodup) : enrollBatch input walk tables page cursor =
    writeEnrollCursor (enterAll tables (pageAttempts input walk tables page)) walk.flow
      (Keyset.pageEnd cursor page) := by
  unfold enrollBatch
  rw [foldl_enrollContact distinct, enterUnseen_eq]

theorem mem_pageAttempts {attempt : EntryAttempt} : attempt ∈ pageAttempts input walk tables page ↔
    ∃ contactId ∈ page, tables.hasSeenSnapshot walk.flow.workspaceId walk.flow.id contactId = false ∧
      walkAttempt input walk contactId = attempt := by
  simp [pageAttempts, and_assoc]

theorem independent_page (distinct : page.Nodup) (fresh : input.fresh tables page = true) :
    Independent tables (pageAttempts input walk tables page) := by
  unfold EntryInput.fresh at fresh
  rw [Bool.and_eq_true, decide_eq_true_eq, List.all_eq_true] at fresh
  obtain ⟨apart, unused⟩ := fresh
  unfold pageAttempts
  constructor
  · rw [List.map_map]
    apply List.Nodup.map _ (distinct.filter _)
    intro first second same
    exact congrArg (fun target : WorkspaceId × FlowId × ContactId => target.2.2) same
  · rw [List.map_map]
    exact apart.sublist (List.filter_sublist.map input.flowRunId)
  · intro attempt member
    obtain ⟨contactId, inside, rfl⟩ := List.mem_map.mp member
    exact Option.isNone_iff_eq_none.mp (unused contactId (List.mem_of_mem_filter inside))

end Pages

def walkTurn (store : MembershipStore) : Worker → WorkerTurn → Option (EntryInput × SegmentWalk × List ContactId)
  | .sweeping walk cursor, .sweep (.page input) =>
    some (input, walk, Keyset.page sweepPageSize cursor (store.matching walk))
  | .enrolling job, .enroll (.batch input) => job.attempt.map fun walk =>
      (input, walk, Keyset.page enrollBatchSize job.cursor (store.matching walk))
  | _, _ => none

def Worker.entering : Worker → Bool
  | .session (.entering _ _ _) => true
  | .session _ | .enrolling _ | .draining _ | .sweeping _ _ => false

section Turns

variable {id : Nat} {store next : MembershipStore} {worker after : Worker} {turn : WorkerTurn}

theorem publishFlow_flowRuns {now : Timestamp} {members : SegmentId → Option (List ContactId)} {tables : FlowTables}
    {existing : FlowRow} {read : PublishRead} {enrollExisting : Bool} :
    (publishFlow now members tables existing read enrollExisting).flowRuns = tables.flowRuns := by
  unfold publishFlow
  dsimp only
  split <;> rfl

theorem committed_flowRuns {store : Store} {commit : Commit} {session : Session} {tables : FlowTables}
    (apart : (Worker.session session).entering = false) (done : committed store commit session = some tables) :
    tables.flowRuns = store.tables.flowRuns := by
  unfold committed at done
  split at done
  · exact (insertWithDraft_apart done).1
  · exact (updateFlowDraft_apart done).1
  · cases done
    exact publishFlow_flowRuns
  · obtain ⟨written, _, rfl⟩ := Option.map_eq_some_iff.mp done
    rfl
  · obtain ⟨written, _, rfl⟩ := Option.map_eq_some_iff.mp done
    rfl
  · exact (insertWithDraft_apart done).1
  · cases apart
  all_goals cases done

theorem sweepOneFlowPage_flowRuns {input : EntryInput} {walk : SegmentWalk} {page : List ContactId} :
    (store.sweepOneFlowPage input walk page).store.tables.flowRuns =
      (enterAll store.store.tables (pageAttempts input walk store.store.tables page)).flowRuns := by
  cases page with
  | nil => rfl
  | cons contactId rest =>
    rw [← enterUnseen_eq]
    rfl

theorem nodup_page (store : MembershipStore) (walk : SegmentWalk) (cursor : Option ContactId) (size : Nat) :
    (Keyset.page size cursor (store.matching walk)).Nodup :=
  (Keyset.ascending_page (store.members.distinct walk.flow.workspaceId walk.definition)).imp ne_of_lt

theorem workerTurn_flowRuns (apart : worker.entering = false)
    (turned : workerTurn id store worker turn = some (next, after)) :
    (walkTurn store worker turn = none ∧ next.store.tables.flowRuns = store.store.tables.flowRuns) ∨
      ∃ input walk page, walkTurn store worker turn = some (input, walk, page) ∧ page.Nodup ∧
        input.fresh store.store.tables page = true ∧
        next.store.tables.flowRuns =
          (enterAll store.store.tables (pageAttempts input walk store.store.tables page)).flowRuns := by
  unfold workerTurn at turned
  split at turned
  · obtain ⟨pair, moved, same⟩ := Option.map_eq_some_iff.mp turned
    cases same
    refine .inl ⟨rfl, ?_⟩
    rcases sessionTurn_tables moved with same | ⟨commit, _, done⟩
    · rw [same]
    · exact committed_flowRuns apart done
  · cases turned
    exact .inl ⟨rfl, rfl⟩
  · left
    unfold startSweep at turned
    split at turned
    · cases turned
    · split at turned <;> cases turned <;> exact ⟨rfl, rfl⟩
  · next job moved =>
    cases moved with
    | loadFlow =>
      left
      simp only [enrollTurn] at turned
      split at turned <;> cases turned <;> exact ⟨rfl, rfl⟩
    | batch input =>
      right
      simp only [enrollTurn] at turned
      split at turned
      · cases turned
      · next walk attempted =>
        have distinct := nodup_page store walk job.cursor enrollBatchSize
        split at turned
        · next allowed =>
          cases turned
          refine ⟨input, walk, _, by simp [walkTurn, attempted], distinct, allowed.2.2, ?_⟩
          simp only [MembershipStore.withTables, enrollBatch_eq distinct]
          rfl
        · cases turned
    | seed =>
      left
      simp only [enrollTurn] at turned
      split at turned
      · cases turned
      · split at turned <;> cases turned
        exact ⟨rfl, rfl⟩
    | crash =>
      cases turned
      exact .inl ⟨rfl, rfl⟩
  · next walk moved =>
    left
    cases moved with
    | deleteStale contactIds =>
      simp only [drainTurn] at turned
      split at turned <;> cases turned
      exact ⟨rfl, rfl⟩
    | loadCheckpoint | crash =>
      cases turned
      exact ⟨rfl, rfl⟩
    | page | budgetSpent => cases turned
  · next walk cursor moved =>
    cases moved with
    | page input =>
      right
      have distinct := nodup_page store walk cursor sweepPageSize
      simp only [sweepTurn] at turned
      split at turned
      · next fresh =>
        have kept : next.store.tables = (store.sweepOneFlowPage input walk
            (Keyset.page sweepPageSize cursor (store.matching walk))).store.tables := by
          split at turned <;> cases turned <;> rfl
        refine ⟨input, walk, _, rfl, distinct, fresh, ?_⟩
        rw [kept]
        exact sweepOneFlowPage_flowRuns
      · cases turned
    | budgetSpent | crash =>
      cases turned
      exact .inl ⟨rfl, rfl⟩
    | deleteStale | loadCheckpoint => cases turned
  · cases turned

theorem walkTurn_matches {input : EntryInput} {walk : SegmentWalk} {page : List ContactId}
    (walking : walkTurn store worker turn = some (input, walk, page)) : page ⊆ store.matching walk := by
  intro contactId member
  unfold walkTurn at walking
  split at walking
  · cases walking
    exact (Keyset.mem_page member).1
  · obtain ⟨_, _, same⟩ := Option.map_eq_some_iff.mp walking
    cases same
    exact (Keyset.mem_page member).1
  · cases walking

end Turns

section Snapshot

variable {id : Nat} {store next : MembershipStore} {worker after : Worker} {turn : WorkerTurn} {tables : FlowTables}
  {workspaceId : WorkspaceId} {flowId : FlowId} {contactId : ContactId}

def MembershipStore.matchesSome (store : MembershipStore) (contactId : ContactId) : Prop :=
  ∃ workspaceId definition, contactId ∈ store.members.matching workspaceId definition

theorem seen_of_markSeen {owner : WorkspaceId} {ownFlow : FlowId} {contactIds : List ContactId}
    (seen : (tables.markSeen owner ownFlow contactIds).hasSeenSnapshot workspaceId flowId contactId = true) :
    tables.hasSeenSnapshot workspaceId flowId contactId = true ∨ contactId ∈ contactIds := by
  unfold FlowTables.hasSeenSnapshot FlowTables.markSeen at seen
  unfold FlowTables.hasSeenSnapshot
  generalize tables.membershipSnapshot = snapshot at seen ⊢
  induction contactIds generalizing snapshot with
  | nil => exact .inl seen
  | cons head rest ih =>
    rcases ih _ seen with before | member
    · rw [Table.find?_insert, Option.isSome_or, Bool.or_eq_true] at before
      rcases before with old | new
      · exact .inl old
      · right
        split at new
        · next same =>
          simp only [MembershipSnapshot.key, Prod.mk.injEq] at same
          rw [← same.2.2]
          exact List.mem_cons_self
        · cases new
    · exact .inr (List.mem_cons_of_mem _ member)

theorem seen_of_same {other : FlowTables} (same : other.membershipSnapshot = tables.membershipSnapshot)
    (seen : other.hasSeenSnapshot workspaceId flowId contactId = true) :
    tables.hasSeenSnapshot workspaceId flowId contactId = true := by
  unfold FlowTables.hasSeenSnapshot at seen ⊢
  rw [← same]
  exact seen

theorem seen_of_committed {store : Store} {commit : Commit} {session : Session}
    (done : committed store commit session = some tables)
    (seen : tables.hasSeenSnapshot workspaceId flowId contactId = true) :
    store.tables.hasSeenSnapshot workspaceId flowId contactId = true ∨
      ∃ segmentId contactIds, commit.members segmentId = some contactIds ∧ contactId ∈ contactIds := by
  unfold committed at done
  split at done
  · exact .inl (seen_of_same (insertWithDraft_apart done).2 seen)
  · exact .inl (seen_of_same (updateFlowDraft_apart done).2 seen)
  · cases done
    unfold publishFlow at seen
    dsimp only at seen
    split at seen
    · next contactIds found =>
      rcases seen_of_markSeen seen with before | member
      · exact .inl (seen_of_same rfl before)
      · right
        split at found
        · cases found
        · obtain ⟨segmentId, _, listed⟩ := Option.bind_eq_some_iff.mp found
          exact ⟨segmentId, contactIds, listed, member⟩
    · exact .inl (seen_of_same rfl seen)
  · obtain ⟨written, _, rfl⟩ := Option.map_eq_some_iff.mp done
    exact .inl (seen_of_same rfl seen)
  · obtain ⟨written, _, rfl⟩ := Option.map_eq_some_iff.mp done
    exact .inl (seen_of_same rfl seen)
  · exact .inl (seen_of_same (insertWithDraft_apart done).2 seen)
  · cases done
    refine .inl (seen_of_same ?_ seen)
    unfold FlowTables.insertRun
    split <;> rfl
  all_goals cases done

theorem seen_of_deleteSnapshots {walk : SegmentWalk} {contactIds : List ContactId}
    (seen : (store.deleteSnapshots walk contactIds).store.tables.hasSeenSnapshot workspaceId flowId contactId = true) :
    store.store.tables.hasSeenSnapshot workspaceId flowId contactId = true := by
  have found : ((store.store.tables.membershipSnapshot.delete _).find? (workspaceId, flowId, contactId)).isSome =
      true := seen
  rw [Table.find?_delete, Option.isSome_filter] at found
  obtain ⟨snapshot, stored, _⟩ := (Option.any_eq_true _ _).mp found
  exact Option.isSome_iff_exists.mpr ⟨snapshot, stored⟩

theorem seen_of_page {input : EntryInput} {walk : SegmentWalk} {page : List ContactId}
    (seen : (enterAll tables (pageAttempts input walk tables page)).hasSeenSnapshot workspaceId flowId contactId =
      true) : tables.hasSeenSnapshot workspaceId flowId contactId = true ∨ contactId ∈ page := by
  rcases hasSeenSnapshot_enterAll.mp seen with before | ⟨attempt, member, _, target⟩
  · exact .inl before
  · obtain ⟨other, inside, _, rfl⟩ := mem_pageAttempts.mp member
    right
    have same : other = contactId :=
      congrArg (fun target : WorkspaceId × FlowId × ContactId => target.2.2) target
    rw [← same]
    exact inside

theorem enrollTurn_seen {job : EnrollJob} {moved : EnrollTurn}
    (turned : enrollTurn store job moved = some (next, after))
    (seen : next.store.tables.hasSeenSnapshot workspaceId flowId contactId = true) :
    store.store.tables.hasSeenSnapshot workspaceId flowId contactId = true ∨ store.matchesSome contactId := by
  cases moved with
  | loadFlow =>
    simp only [enrollTurn] at turned
    split at turned <;> cases turned <;> exact .inl seen
  | batch input =>
    simp only [enrollTurn] at turned
    split at turned
    · cases turned
    · next walk attempted =>
      have distinct := nodup_page store walk job.cursor enrollBatchSize
      split at turned
      · cases turned
        have entered : (enrollBatch input walk store.store.tables (Keyset.page enrollBatchSize job.cursor
            (store.matching walk)) job.cursor).hasSeenSnapshot workspaceId flowId contactId = true := seen
        rw [enrollBatch_eq distinct] at entered
        rcases seen_of_page (seen_of_same rfl entered) with before | inside
        · exact .inl before
        · exact .inr ⟨_, _, (Keyset.mem_page inside).1⟩
      · cases turned
  | seed =>
    simp only [enrollTurn] at turned
    split at turned
    · cases turned
    · split at turned <;> cases turned
      rcases seen_of_markSeen seen with before | inside
      · exact .inl before
      · exact .inr ⟨_, _, inside⟩
  | crash =>
    cases turned
    exact .inl seen

theorem sweepTurn_seen {walk : SegmentWalk} {cursor : Option ContactId} {moved : SweepTurn}
    (turned : sweepTurn store walk cursor moved = some (next, after))
    (seen : next.store.tables.hasSeenSnapshot workspaceId flowId contactId = true) :
    store.store.tables.hasSeenSnapshot workspaceId flowId contactId = true ∨ store.matchesSome contactId := by
  cases moved with
  | page input =>
    simp only [sweepTurn] at turned
    split at turned
    · have kept : next.store.tables = (store.sweepOneFlowPage input walk
          (Keyset.page sweepPageSize cursor (store.matching walk))).store.tables := by
        split at turned <;> cases turned <;> rfl
      rw [kept] at seen
      cases page : Keyset.page sweepPageSize cursor (store.matching walk) with
      | nil =>
        rw [page] at seen
        exact .inl seen
      | cons head rest =>
        rw [page] at seen
        have entered : (enterUnseen input walk store.store.tables (head :: rest)).hasSeenSnapshot workspaceId flowId
            contactId = true := seen
        rw [enterUnseen_eq] at entered
        rcases seen_of_page entered with before | inside
        · exact .inl before
        · rw [← page] at inside
          exact .inr ⟨_, _, (Keyset.mem_page inside).1⟩
    · cases turned
  | budgetSpent | crash =>
    cases turned
    exact .inl seen
  | deleteStale | loadCheckpoint => cases turned

theorem workerTurn_seen (turned : workerTurn id store worker turn = some (next, after))
    (seen : next.store.tables.hasSeenSnapshot workspaceId flowId contactId = true) :
    store.store.tables.hasSeenSnapshot workspaceId flowId contactId = true ∨ store.matchesSome contactId := by
  unfold workerTurn at turned
  split at turned
  · next session choice =>
    obtain ⟨pair, moved, same⟩ := Option.map_eq_some_iff.mp turned
    cases same
    rcases sessionTurn_tables moved with same | ⟨commit, given, done⟩
    · have seen : pair.1.tables.hasSeenSnapshot workspaceId flowId contactId = true := seen
      rw [same] at seen
      exact .inl seen
    · rcases seen_of_committed done seen with before | ⟨segmentId, contactIds, listed, member⟩
      · exact .inl before
      · right
        cases choice with
        | commit original =>
          cases given
          obtain ⟨existing, _, found⟩ := Option.bind_eq_some_iff.mp listed
          obtain ⟨definition, _, rfl⟩ := Option.map_eq_some_iff.mp found
          exact ⟨existing.workspaceId, definition, member⟩
        | start | read | rollback => cases given
  · cases turned
    exact .inl seen
  · unfold startSweep at turned
    split at turned
    · cases turned
    · split at turned <;> cases turned <;> exact .inl seen
  · exact enrollTurn_seen turned seen
  · next walk moved =>
    left
    cases moved with
    | deleteStale contactIds =>
      simp only [drainTurn] at turned
      split at turned <;> cases turned
      exact seen_of_deleteSnapshots seen
    | loadCheckpoint | crash =>
      cases turned
      exact seen
    | page | budgetSpent => cases turned
  · exact sweepTurn_seen turned seen
  · cases turned

end Snapshot

end LocalCrm.Flows
