import LocalCrm.Purge.Effects

/-! What a tick knows at each stage of its walk, and that its turns are effects. -/

set_option autoImplicit false

namespace LocalCrm.Purge

open Library

def Active (store : PurgeStore) (workspaceId : WorkspaceId) (completed : List PurgeStep) : Prop :=
  ∃ record, store.purgeRecords.find? workspaceId = some record ∧
    (record.status = .reported ∨ record.status = .purging) ∧ ∀ step ∈ completed, step ∈ record.completedTables

/-- Destruction has begun, the listed steps are done, and so is every table that is not pending. -/
def Walked (store : PurgeStore) (workspaceId : WorkspaceId) (completed : List PurgeStep)
    (pending : List PurgeTable) : Prop :=
  ∃ record, store.purgeRecords.find? workspaceId = some record ∧ record.status = .purging ∧
    record.firstDestructiveBatchAt.isSome ∧ (∀ step ∈ completed, step ∈ record.completedTables) ∧
      ∀ table, table ∈ pending ∨ .table table ∈ record.completedTables

def WalkKnows (store : PurgeStore) (workspaceId : WorkspaceId) : WalkStage → Prop
  | .loading => True
  | .checking completed => Active store workspaceId completed
  | .beginning completed => Active store workspaceId completed
  | .stamping completed =>
    Active store workspaceId completed ∧ (readOrganizationDeletedAt store workspaceId).isSome
  | .draining completed table rest _ => Walked store workspaceId completed (table :: rest)
  | .confirming completed table rest _ => Walked store workspaceId completed (table :: rest)
  | .marking completed table rest =>
    Walked store workspaceId completed (table :: rest) ∧ Emptied store.rows (.purged table) workspaceId
  | .countingMembers => Walked store workspaceId [] []
  | .countingInvitations _ => Walked store workspaceId [] []
  | .recordingAuth _ _ => Walked store workspaceId [] []
  | .deletingAuth => Walked store workspaceId [] [] ∧ ∀ auth, counted store workspaceId (.auth auth) = true
  | .markingAuth => Walked store workspaceId [] [] ∧ ∀ auth, Emptied store.rows (.auth auth) workspaceId
  | .tombstoning => Walked store workspaceId [.auth] []
  | .completing => Walked store workspaceId [.auth] []
  | .failing _ => True
  | .unlocking _ => True

section Records

variable {store next : PurgeStore} {workspaceId : WorkspaceId} {completed fewer : List PurgeStep}
  {pending : List PurgeTable}

theorem Walked.begun (walked : Walked store workspaceId completed pending) : begun store workspaceId = true := by
  obtain ⟨record, found, -, stamped, -⟩ := walked
  exact begun_iff.mpr ⟨record, found, stamped⟩

theorem Walked.restrict (walked : Walked store workspaceId completed pending) (subset : ∀ step ∈ fewer, step ∈ completed) :
    Walked store workspaceId fewer pending := by
  obtain ⟨record, found, status, stamped, done, tables⟩ := walked
  exact ⟨record, found, status, stamped, fun step listed => done step (subset step listed), tables⟩

theorem Walked.moved (walked : Walked store workspaceId completed pending)
    (kept : ∀ record, store.purgeRecords.find? workspaceId = some record → record.status ≠ .failed →
      next.purgeRecords.find? workspaceId = some record) : Walked next workspaceId completed pending := by
  obtain ⟨record, found, status, rest⟩ := walked
  refine ⟨record, kept record found ?_, status, rest⟩
  rw [status]
  decide

theorem Active.moved (active : Active store workspaceId completed)
    (kept : ∀ record, store.purgeRecords.find? workspaceId = some record → record.status ≠ .failed →
      next.purgeRecords.find? workspaceId = some record) : Active next workspaceId completed := by
  obtain ⟨record, found, status, done⟩ := active
  refine ⟨record, kept record found ?_, status, done⟩
  rcases status with status | status <;> rw [status] <;> decide

theorem walkKnows_nextTable (walked : Walked store workspaceId completed pending) :
    WalkKnows store workspaceId (nextTable completed pending) := by
  cases pending with
  | cons table rest => exact walked
  | nil =>
    by_cases done : .auth ∈ completed
    · rw [nextTable, if_pos done]
      apply walked.restrict
      intro step listed
      rw [List.mem_singleton.mp listed]
      exact done
    · rw [nextTable, if_neg done]
      apply walked.restrict
      intro step listed
      cases listed

end Records

section Sets

variable {store : PurgeStore} {record : PurgeRecord} {now : Timestamp}

theorem grows_beginDestruction : Grows record (beginDestruction now record) where
  softDeletedAt := rfl
  first at_ stamped := by
    unfold beginDestruction
    rw [stamped]
    rfl
  completed _ done := done
  counts _ _ counted := counted

theorem grows_markDone {step : PurgeStep} : Grows record (markDone step record) where
  softDeletedAt := rfl
  first _ stamped := stamped
  completed other done := by
    simp only [markDone]
    split
    · exact done
    · exact List.mem_append_left _ done
  counts _ _ counted := counted

theorem mem_markDone {step other : PurgeStep} :
    other ∈ (markDone step record).completedTables ↔ other = step ∨ other ∈ record.completedTables := by
  simp only [markDone]
  split
  · next present =>
    constructor
    · exact Or.inr
    · rintro (rfl | done)
      · exact present
      · exact done
  · simp only [List.mem_append, List.mem_singleton]
    exact Or.comm

theorem lookup_mergeCounts {fresh recorded : TableCounts} {key : StoredTable} {count : Nat}
    (present : recorded.lookup key = some count) : (mergeCounts fresh recorded).lookup key = some count := by
  rw [mergeCounts, List.lookup_append, present]
  rfl

theorem lookup_mergeCounts_isSome {fresh recorded : TableCounts} {key : StoredTable}
    (present : (fresh.lookup key).isSome) : ((mergeCounts fresh recorded).lookup key).isSome := by
  cases old : recorded.lookup key with
  | some count =>
    rw [lookup_mergeCounts old]
    rfl
  | none =>
    rw [mergeCounts, List.lookup_append, old, Option.none_or]
    induction fresh with
    | nil => cases present
    | cons entry rest ih =>
      by_cases same : key = entry.1
      · subst same
        simp [old]
      · have unequal : (key == entry.1) = false := beq_eq_false_iff_ne.mpr same
        rw [List.lookup_cons, unequal] at present
        rw [List.filter_cons]
        split
        · rw [List.lookup_cons, unequal]
          exact ih present
        · exact ih present

theorem recordOk_beginDestruction (ok : RecordOk store record)
    (deleted : (readOrganizationDeletedAt store record.workspaceId).isSome) :
    RecordOk store (beginDestruction now record) where
  reported := by
    intro pending
    cases pending
  deleted _ := deleted
  steps step done := ⟨rfl, (ok.steps step done).2⟩
  complete := by
    intro complete
    cases complete
  census := ok.census

theorem recordOk_markDone {step : PurgeStep} (ok : RecordOk store record)
    (stamped : record.firstDestructiveBatchAt.isSome) (done : StepDone store.rows record.workspaceId step) :
    RecordOk store (markDone step record) where
  reported := ok.reported
  deleted := ok.deleted
  steps := by
    intro other listed
    refine ⟨stamped, ?_⟩
    rcases mem_markDone.mp listed with rfl | before
    · exact done
    · exact (ok.steps other before).2
  complete := by
    intro complete other
    exact mem_markDone.mpr (Or.inr (ok.complete complete other))
  census := ok.census

end Sets

section Turns

variable {settings : PurgeSettings} {tick : Nat} {store next : PurgeStore} {workspaceId : WorkspaceId}
  {unlocked : List Nat} {completed : List PurgeStep}

theorem knows_loading (ok : StoreOk store) {stage : WalkStage}
    (proceeded : walkProceed settings tick workspaceId store unlocked .loading = some (next, stage)) :
    next = store ∧ WalkKnows store workspaceId stage := by
  simp only [walkProceed] at proceeded
  cases found : store.purgeRecords.find? workspaceId with
  | none =>
    simp only [loadWorkspacePurgeProgress, found, Option.map_none, Option.some.injEq, Prod.mk.injEq] at proceeded
    obtain ⟨rfl, rfl⟩ := proceeded
    exact ⟨rfl, trivial⟩
  | some record =>
    simp only [loadWorkspacePurgeProgress, found, Option.map_some] at proceeded
    have reported := (ok.records workspaceId record found).reported
    split at proceeded
    · cases proceeded
      exact ⟨rfl, trivial⟩
    · next running =>
      obtain ⟨unfinished, unfailed⟩ := not_or.mp running
      have active : Active store workspaceId record.completedTables := by
        refine ⟨record, found, ?_, fun step done => done⟩
        cases status : record.status with
        | pending => exact absurd status reported
        | reported => exact Or.inl rfl
        | purging => exact Or.inr rfl
        | complete => exact absurd status unfinished
        | failed => exact absurd status unfailed
      split at proceeded
      · cases proceeded
        exact ⟨rfl, active⟩
      · cases proceeded
        exact ⟨rfl, active⟩

theorem knows_stamping (held : Holds settings store tick workspaceId) (active : Active store workspaceId completed)
    (deleted : (readOrganizationDeletedAt store workspaceId).isSome) :
    Effect settings tick store (stampDestructivePhase store workspaceId) ∧
      Walked (stampDestructivePhase store workspaceId) workspaceId completed (remainingTables completed) := by
  constructor
  · refine Effect.wrote store workspaceId _ _ _ held (fun record => grows_beginDestruction) ?_
    intro record found ok _
    apply recordOk_beginDestruction ok
    rw [Table.key_of_find? found]
    exact deleted
  · obtain ⟨record, found, status, done⟩ := active
    refine ⟨beginDestruction store.now record, ?_, rfl, rfl, done, ?_⟩
    · rw [stampDestructivePhase, find?_updateRecord_self found, if_pos]
      rcases status with status | status <;> rw [status] <;> rfl
    · -- a table the loop skips is one the record lists
      intro table
      by_cases listed : .table table ∈ completed
      · exact Or.inr (done _ listed)
      · exact Or.inl (List.mem_filter.mpr ⟨mem_purgeTableOrder table, by simpa using listed⟩)

theorem effect_heartbeat (held : Holds settings store tick workspaceId) :
    Effect settings tick store (advanceWorkspacePurgeCheckpoint store workspaceId) := by
  refine Effect.wrote store workspaceId _ _ _ held ?_ ?_
  · intro record
    exact ⟨rfl, fun _ stamped => stamped, fun _ done => done, fun _ _ counted => counted⟩
  · intro record _ ok _
    exact ⟨ok.reported, ok.deleted, ok.steps, ok.complete, ok.census⟩

theorem walked_heartbeat {pending : List PurgeTable} (walked : Walked store workspaceId completed pending) :
    Walked (advanceWorkspacePurgeCheckpoint store workspaceId) workspaceId completed pending := by
  obtain ⟨record, found, status, stamped, done, tables⟩ := walked
  refine ⟨{ record with lastProgressAt := some store.now }, ?_, status, stamped, done, tables⟩
  rw [advanceWorkspacePurgeCheckpoint, find?_updateRecord_self found]
  rfl

theorem pageRow_owned {row : Row} (paged : pageRow workspaceId unlocked row = true) : row.workspaceId = workspaceId := by
  simp only [pageRow, Bool.and_eq_true, beq_iff_eq] at paged
  exact paged.1

theorem effect_page {table : PurgeTable} {paged : PurgeStore} {deleted : Nat}
    (held : Holds settings store tick workspaceId) (begins : begun store workspaceId = true)
    (page : deletePurgeBatch store tick table workspaceId unlocked = some (paged, deleted)) :
    Effect settings tick store (advanceWorkspacePurgeCheckpoint paged workspaceId) ∧ paged.locks = store.locks ∧
      paged.purgeRecords = store.purgeRecords := by
  obtain ⟨⟨left, removed⟩, taken, same⟩ := Option.map_eq_some_iff.mp page
  cases same
  refine ⟨?_, rfl, rfl⟩
  apply Effect.both
  · refine Effect.destroyed store workspaceId (.purged table) _ left removed held begins ?_ rfl ?_ taken
    · intro row
      exact pageRow_owned
    · intro auth is
      cases is
  · exact effect_heartbeat held

theorem knows_marked {step : PurgeStep} {pending rest : List PurgeTable} {after : List PurgeStep}
    (held : Holds settings store tick workspaceId) (walked : Walked store workspaceId completed pending)
    (emptied : StepDone store.rows workspaceId step) (marks : ∀ other ∈ after, other = step ∨ other ∈ completed)
    (left : ∀ table ∈ pending, .table table = step ∨ table ∈ rest) :
    Effect settings tick store (markPurgeTableDone store workspaceId step) ∧
      Walked (markPurgeTableDone store workspaceId step) workspaceId after rest := by
  obtain ⟨record, found, status, stamped, done, tables⟩ := walked
  constructor
  · refine Effect.wrote store workspaceId _ _ _ held (fun record => grows_markDone) ?_
    intro other same ok _
    rw [found] at same
    cases same
    apply recordOk_markDone ok stamped
    rw [Table.key_of_find? found]
    exact emptied
  · refine ⟨markDone step record, ?_, status, stamped, ?_, ?_⟩
    · rw [markPurgeTableDone, find?_updateRecord_self found]
      rfl
    · intro other listed
      exact mem_markDone.mpr ((marks other listed).imp_right (done other))
    · intro table
      rcases tables table with waiting | before
      · exact (left table waiting).symm.imp_right fun here => mem_markDone.mpr (Or.inl here)
      · exact Or.inr (mem_markDone.mpr (Or.inr before))

theorem knows_recordingAuth {memberCount invitationCount : Nat} (held : Holds settings store tick workspaceId)
    (walked : Walked store workspaceId [] []) :
    Effect settings tick store (recordAuthPurgeCounts store workspaceId memberCount invitationCount) ∧
      Walked (recordAuthPurgeCounts store workspaceId memberCount invitationCount) workspaceId [] [] ∧
        ∀ auth, counted (recordAuthPurgeCounts store workspaceId memberCount invitationCount) workspaceId
          (.auth auth) = true := by
  refine ⟨?_, ?_, ?_⟩
  · refine Effect.wrote store workspaceId _ _ _ held ?_ ?_
    · intro record
      exact ⟨rfl, fun _ stamped => stamped, fun _ done => done, fun _ _ present => lookup_mergeCounts present⟩
    · intro record _ ok _
      refine ⟨ok.reported, ok.deleted, ok.steps, ok.complete, ?_⟩
      intro table
      obtain ⟨count, present⟩ := Option.isSome_iff_exists.mp (ok.census table)
      rw [lookup_mergeCounts present]
      rfl
  · obtain ⟨record, found, rest⟩ := walked
    refine ⟨{ record with
      tableCounts := mergeCounts [(.auth .member, memberCount), (.auth .invitation, invitationCount)]
        record.tableCounts }, ?_, rest⟩
    rw [recordAuthPurgeCounts, find?_updateRecord_self found]
    rfl
  · intro auth
    obtain ⟨record, found, -⟩ := walked
    apply counted_iff.mpr
    refine ⟨_, find?_updateRecord_self found, ?_⟩
    apply lookup_mergeCounts_isSome
    cases auth <;> rfl

theorem effect_deleteAuthRows {table : AuthTable} (held : Holds settings store tick workspaceId)
    (begins : begun store workspaceId = true) (recorded : counted store workspaceId (.auth table) = true)
    (emptied : deleteAuthRows store tick workspaceId table = some next) :
    Effect settings tick store next ∧ next.locks = store.locks ∧ next.purgeRecords = store.purgeRecords ∧
      Emptied next.rows (.auth table) workspaceId ∧
        ∀ other, Emptied store.rows other workspaceId → Emptied next.rows other workspaceId := by
  obtain ⟨⟨left, removed⟩, taken, same⟩ := Option.map_eq_some_iff.mp emptied
  cases same
  refine ⟨?_, rfl, rfl, ?_, ?_⟩
  · refine Effect.destroyed store workspaceId (.auth table) _ left removed held begins ?_ rfl ?_ taken
    · intro row chosen
      exact eq_of_beq chosen
    · intro auth is
      exact recorded
  · intro row stays named
    have spared := left_not_chosen taken stays (fun before _ sameWorkspace => by rw [sameWorkspace])
    rw [named, beq_self_eq_true] at spared
    cases spared
  · intro other empty
    exact emptied_left taken empty

theorem knows_deletingAuth (held : Holds settings store tick workspaceId) (walked : Walked store workspaceId [] [])
    (recorded : ∀ auth, counted store workspaceId (.auth auth) = true)
    (deleted : deleteWorkspaceAuthRows store tick workspaceId = some next) :
    Effect settings tick store next ∧ next.locks = store.locks ∧ Walked next workspaceId [] [] ∧
      ∀ auth, Emptied next.rows (.auth auth) workspaceId := by
  obtain ⟨between, first, second⟩ := Option.bind_eq_some_iff.mp deleted
  obtain ⟨early, sameLocks, sameRecords, noInvitation, -⟩ :=
    effect_deleteAuthRows held walked.begun (recorded .invitation) first
  have heldBetween : Holds settings between tick workspaceId := by
    rw [Holds, sameLocks]
    exact held
  obtain ⟨late, locksAgain, recordsAgain, noMember, kept⟩ := effect_deleteAuthRows heldBetween
    (by rw [begun, sameRecords]; exact walked.begun) (by rw [counted, sameRecords]; exact recorded .member) second
  refine ⟨early.both late, locksAgain.trans sameLocks, ?_, ?_⟩
  · apply walked.moved
    intro record found _
    rw [recordsAgain, sameRecords]
    exact found
  · intro auth
    cases auth with
    | member => exact noMember
    | invitation => exact kept _ noInvitation

theorem effect_complete (held : Holds settings store tick workspaceId)
    (walked : Walked store workspaceId [.auth] []) :
    Effect settings tick store (markPurgeComplete store workspaceId) := by
  obtain ⟨record, found, -, -, done, tables⟩ := walked
  refine Effect.wrote store workspaceId _ _ _ held ?_ ?_
  · intro record
    exact ⟨rfl, fun _ stamped => stamped, fun _ done => done, fun _ _ counted => counted⟩
  · intro other same ok _
    rw [found] at same
    cases same
    refine ⟨?_, ok.deleted, ok.steps, ?_, ok.census⟩
    · intro pending
      cases pending
    · intro _ step
      cases step with
      | auth => exact done .auth List.mem_cons_self
      | table table =>
        rcases tables table with none | listed
        · cases none
        · exact listed

theorem effect_failed (held : Holds settings store tick workspaceId) (message : String) :
    Effect settings tick store (markPurgeFailed store workspaceId message) := by
  refine Effect.wrote store workspaceId _ _ _ held ?_ ?_
  · intro record
    exact ⟨rfl, fun _ stamped => stamped, fun _ done => done, fun _ _ counted => counted⟩
  · intro record _ ok _
    refine ⟨?_, ok.deleted, ok.steps, ?_, ok.census⟩
    · intro pending
      cases pending
    · intro complete
      cases complete

theorem walk_turn (ok : StoreOk store) (held : Holds settings store tick workspaceId) {stage after : WalkStage}
    (knows : WalkKnows store workspaceId stage)
    (proceeded : walkProceed settings tick workspaceId store unlocked stage = some (next, after)) :
    Effect settings tick store next ∧ Holds settings next tick workspaceId ∧ WalkKnows next workspaceId after := by
  cases stage with
  | loading =>
    obtain ⟨rfl, known⟩ := knows_loading ok proceeded
    exact ⟨Effect.unchanged _, held, known⟩
  | checking completed =>
    simp only [walkProceed] at proceeded
    split at proceeded
    · cases proceeded
      exact ⟨Effect.unchanged _, held, trivial⟩
    · cases proceeded
      exact ⟨Effect.unchanged _, held, knows⟩
  | beginning completed =>
    simp only [walkProceed] at proceeded
    split at proceeded
    · cases proceeded
      exact ⟨Effect.unchanged _, held, trivial⟩
    · next deletedAt read =>
      cases proceeded
      refine ⟨Effect.unchanged _, held, knows, ?_⟩
      rw [read]
      rfl
  | stamping completed =>
    cases proceeded
    obtain ⟨effect, walked⟩ := knows_stamping held knows.1 knows.2
    exact ⟨effect, held, walkKnows_nextTable walked⟩
  | draining completed table rest attempt =>
    simp only [walkProceed] at proceeded
    split at proceeded
    · cases proceeded
      exact ⟨Effect.unchanged _, held, trivial⟩
    · split at proceeded
      · cases proceeded
        exact ⟨Effect.unchanged _, held, trivial⟩
      · next paged deleted page =>
        -- a page deletes rows and nothing of the records; its checkpoint is a heartbeat
        obtain ⟨effect, sameLocks, sameRecords⟩ := effect_page held knows.begun page
        have walked : Walked paged workspaceId completed (table :: rest) := by
          apply knows.moved
          intro record found _
          rw [sameRecords]
          exact found
        have holding : Holds settings (advanceWorkspacePurgeCheckpoint paged workspaceId) tick workspaceId :=
          (congrFun sameLocks _).trans held
        split at proceeded
        · cases proceeded
        · cases proceeded
          refine ⟨effect, holding, ?_⟩
          split
          · exact walked_heartbeat walked
          · exact walked_heartbeat walked
  | confirming completed table rest attempt =>
    simp only [walkProceed] at proceeded
    split at proceeded
    · next none =>
      -- only a table counted empty is marked
      cases proceeded
      exact ⟨Effect.unchanged _, held, knows, countRows_eq_zero.mp none⟩
    · split at proceeded
      · cases proceeded
        exact ⟨Effect.unchanged _, held, knows⟩
      · cases proceeded
        exact ⟨Effect.unchanged _, held, trivial⟩
  | marking completed table rest =>
    cases proceeded
    obtain ⟨effect, walked⟩ := @knows_marked _ _ _ _ _ (.table table) _ rest completed held knows.1 knows.2
      (fun _ listed => .inr listed) fun _ waiting => (List.mem_cons.mp waiting).imp_left (congrArg _)
    exact ⟨effect, held, walkKnows_nextTable walked⟩
  | countingMembers | countingInvitations =>
    cases proceeded
    exact ⟨Effect.unchanged _, held, knows⟩
  | recordingAuth memberCount invitationCount =>
    cases proceeded
    obtain ⟨effect, walked, recorded⟩ := knows_recordingAuth held knows
    exact ⟨effect, held, walked, recorded⟩
  | deletingAuth =>
    simp only [walkProceed] at proceeded
    split at proceeded
    · cases proceeded
      exact ⟨Effect.unchanged _, held, trivial⟩
    · next emptied deleted =>
      cases proceeded
      obtain ⟨effect, sameLocks, walked, gone⟩ := knows_deletingAuth held knows.1 knows.2 deleted
      exact ⟨effect, (congrFun sameLocks _).trans held, walked, gone⟩
  | markingAuth =>
    cases proceeded
    obtain ⟨effect, walked⟩ := @knows_marked _ _ _ _ _ .auth [] [] [.auth] held knows.1 knows.2
      (fun _ listed => .inl (List.mem_singleton.mp listed)) fun _ none => absurd none List.not_mem_nil
    exact ⟨effect, held, walked⟩
  | tombstoning =>
    cases proceeded
    exact ⟨Effect.tombstoned store workspaceId, held, knows⟩
  | completing =>
    cases proceeded
    exact ⟨effect_complete held knows, held, trivial⟩
  | failing message =>
    cases proceeded
    exact ⟨effect_failed held message, held, trivial⟩
  | unlocking aborted => cases proceeded

end Turns

end LocalCrm.Purge
