import LocalCrm.Purge.Effects

/-! What a turn adds to the history, and which workspaces a thread still has before it. -/

set_option autoImplicit false

namespace LocalCrm.Purge

open Library

def reportedFor (store : PurgeStore) (workspaceId : WorkspaceId) : Option Timestamp :=
  (store.purgeRecords.find? workspaceId).map PurgeRecord.softDeletedAt

def PurgeEvent.thread? : PurgeEvent → Option Nat
  | .deleted _ => none
  | .restored _ => none
  | .started tick _ => some tick
  | .selected tick => some tick
  | .reported tick _ => some tick
  | .destroyed tick _ _ _ => some tick

def Process.queue : Process → List WorkspaceId
  | .ticking (.locking workspaceId rest) => workspaceId :: rest
  | .ticking (.walking workspaceId rest _) => workspaceId :: rest
  | _ => []

def Process.candidates : Process → List (WorkspaceId × Timestamp)
  | .ticking (.checking workspaceId deletedAt rest) => (workspaceId, deletedAt) :: rest
  | .ticking (.counting workspaceId deletedAt rest _ _) => (workspaceId, deletedAt) :: rest
  | _ => []

def Process.selects : Process → Bool
  | .unstarted => true
  | .ticking (.locking _ _) => true
  | .ticking (.walking _ _ _) => true
  | .ticking .selecting => true
  | _ => false

/-- The store moved on: the given events are new, and nothing but a deletion among them sets
`deletedAt`. -/
structure Ages (before after : PurgeStore) (fresh : List PurgeEvent) : Prop where
  now : before.now ≤ after.now
  history : after.history = fresh ++ before.history
  deleted : ∀ workspaceId deletedAt, readOrganizationDeletedAt after workspaceId = some deletedAt →
    (.deleted workspaceId ∉ fresh ∧ readOrganizationDeletedAt before workspaceId = some deletedAt) ∨
      (.deleted workspaceId ∈ fresh ∧ before.now ≤ deletedAt)

def Quiet (thread : Nat) (queue : List WorkspaceId) (event : PurgeEvent) : Prop :=
  (∃ workspaceId table row, event = .destroyed thread workspaceId table row ∧ workspaceId ∈ queue) ∨
    ∃ workspaceId, event = .restored workspaceId

inductive Turned (settings : PurgeSettings) (thread : Nat) (before after : PurgeStore) (process next : Process) : Prop
  | started (fresh : process = .unstarted)
      (noted : after = { before with history := .started thread before.now :: before.history })
      (queue : next.queue = loadDestructiblePurgeRecords before) (candidates : next.candidates = [])
      (running : next ≠ .unstarted)
  | selected (ready : process.selects = true)
      (noted : after = { before with history := .selected thread :: before.history }) (queue : next.queue = [])
      (candidates : ∀ candidate ∈ next.candidates, candidate ∈ findEligibleWorkspaces settings before)
      (past : next.selects = false)
  | reported (workspaceId : WorkspaceId) (deletedAt : Timestamp) (counts : TableCounts)
      (listed : (workspaceId, deletedAt) ∈ process.candidates)
      (inserted : after = insertReport settings before thread workspaceId deletedAt counts) (queue : next.queue = [])
      (candidates : ∀ candidate ∈ next.candidates, candidate ∈ process.candidates) (past : next.selects = false)
  | quiet (fresh : List PurgeEvent) (ages : Ages before after fresh)
      (events : ∀ event ∈ fresh, Quiet thread process.queue event)
      (records : ∀ workspaceId, reportedFor after workspaceId = reportedFor before workspaceId)
      (queue : ∀ workspaceId ∈ next.queue, workspaceId ∈ process.queue)
      (candidates : ∀ candidate ∈ next.candidates, candidate ∈ process.candidates)
      (selects : next.selects = true → process.selects = true) (running : next ≠ .unstarted)

section Ages

variable {store middle after : PurgeStore} {workspaceId : WorkspaceId}

theorem Ages.refl (store : PurgeStore) : Ages store store [] where
  now := Int.le_refl _
  history := rfl
  deleted _ _ read := Or.inl ⟨List.not_mem_nil, read⟩

theorem Ages.of_same (now : after.now = store.now) (history : after.history = store.history)
    (organizations : after.organizations = store.organizations) : Ages store after [] where
  now := Int.le_of_eq now.symm
  history := history
  deleted _ _ read := by
    rw [readOrganizationDeletedAt, organizations] at read
    exact Or.inl ⟨List.not_mem_nil, read⟩

theorem Ages.trans {early late : List PurgeEvent} (first : Ages store middle early) (second : Ages middle after late) :
    Ages store after (late ++ early) where
  now := Int.le_trans first.now second.now
  history := by rw [second.history, first.history, List.append_assoc]
  deleted := by
    intro workspaceId deletedAt read
    rcases second.deleted workspaceId deletedAt read with ⟨silent, between⟩ | ⟨deleted, later⟩
    · rcases first.deleted workspaceId deletedAt between with ⟨quiet, old⟩ | ⟨deleted, later⟩
      · exact Or.inl ⟨fun listed => (List.mem_append.mp listed).elim silent quiet, old⟩
      · exact Or.inr ⟨List.mem_append_right _ deleted, later⟩
    · exact Or.inr ⟨List.mem_append_left _ deleted, Int.le_trans first.now later⟩

theorem ages_destroyed {tick : Nat} {left : Rows} {removed : List (StoredTable × Row)} :
    Ages store (logDestroyed store tick workspaceId left removed)
      (removed.map fun gone => .destroyed tick workspaceId gone.1 gone.2) where
  now := Int.le_refl _
  history := rfl
  deleted other deletedAt read := by
    refine Or.inl ⟨?_, read⟩
    intro listed
    obtain ⟨gone, -, same⟩ := List.mem_map.mp listed
    cases same

theorem ages_tombstone : Ages store (tombstoneOrganization store workspaceId) [] where
  now := Int.le_refl _
  history := rfl
  deleted other deletedAt read := by
    rw [deletedAt_tombstone] at read
    exact Or.inl ⟨List.not_mem_nil, read⟩

end Ages

section Records

variable {store : PurgeStore} {workspaceId : WorkspaceId}

theorem reportedFor_updateRecord {guard : PurgeRecord → Bool} {set : PurgeRecord → PurgeRecord}
    {keeps : ∀ record, (set record).workspaceId = record.workspaceId}
    (same : ∀ record, (set record).softDeletedAt = record.softDeletedAt) (other : WorkspaceId) :
    reportedFor (updateRecord store workspaceId guard set keeps) other = reportedFor store other := by
  rw [reportedFor, find?_updateRecord, Option.map_map, reportedFor]
  congr 1
  funext record
  simp only [Function.comp_apply]
  split
  · exact same record
  · rfl

end Records

section Turns

variable {settings : PurgeSettings} {thread : Nat} {store next : PurgeStore} {workspaceId : WorkspaceId}
  {unlocked : List Nat}

def Destroys (thread : Nat) (workspaceId : WorkspaceId) (before after : PurgeStore) : Prop :=
  ∃ fresh, Ages before after fresh ∧
    (∀ event ∈ fresh, ∃ table row, event = .destroyed thread workspaceId table row) ∧
      ∀ other, reportedFor after other = reportedFor before other

theorem Destroys.refl : Destroys thread workspaceId store store :=
  ⟨[], Ages.refl store, fun _ listed => absurd listed List.not_mem_nil, fun _ => rfl⟩

theorem Destroys.trans {middle : PurgeStore} (early : Destroys thread workspaceId store middle)
    (late : Destroys thread workspaceId middle next) : Destroys thread workspaceId store next := by
  obtain ⟨first, ages, events, records⟩ := early
  obtain ⟨second, agesAgain, eventsAgain, recordsAgain⟩ := late
  refine ⟨second ++ first, ages.trans agesAgain, ?_, fun other => (recordsAgain other).trans (records other)⟩
  intro event listed
  rcases List.mem_append.mp listed with new | old
  · exact eventsAgain event new
  · exact events event old

theorem destroys_updateRecord {guard : PurgeRecord → Bool} {set : PurgeRecord → PurgeRecord}
    {keeps : ∀ record, (set record).workspaceId = record.workspaceId}
    (same : ∀ record, (set record).softDeletedAt = record.softDeletedAt) :
    Destroys thread workspaceId store (updateRecord store workspaceId guard set keeps) :=
  ⟨[], Ages.of_same rfl rfl rfl, fun _ listed => absurd listed List.not_mem_nil, reportedFor_updateRecord same⟩

theorem destroys_deletion {left : Rows} {removed : List (StoredTable × Row)} :
    Destroys thread workspaceId store (logDestroyed store thread workspaceId left removed) := by
  refine ⟨_, ages_destroyed, ?_, fun _ => rfl⟩
  intro event listed
  obtain ⟨gone, -, same⟩ := List.mem_map.mp listed
  exact ⟨gone.1, gone.2, same.symm⟩

theorem destroys_page {table : PurgeTable} {paged : PurgeStore} {deleted : Nat}
    (page : deletePurgeBatch store thread table workspaceId unlocked = some (paged, deleted)) :
    Destroys thread workspaceId store (advanceWorkspacePurgeCheckpoint paged workspaceId) := by
  obtain ⟨⟨left, removed⟩, -, same⟩ := Option.map_eq_some_iff.mp page
  cases same
  exact destroys_deletion.trans (destroys_updateRecord fun _ => rfl)

theorem destroys_deleteAuthRows {table : AuthTable}
    (emptied : deleteAuthRows store thread workspaceId table = some next) : Destroys thread workspaceId store next := by
  obtain ⟨⟨left, removed⟩, -, same⟩ := Option.map_eq_some_iff.mp emptied
  cases same
  exact destroys_deletion

theorem walk_destroys {stage after : WalkStage}
    (proceeded : walkProceed settings thread workspaceId store unlocked stage = some (next, after)) :
    Destroys thread workspaceId store next := by
  cases stage with
  | loading =>
    simp only [walkProceed] at proceeded
    split at proceeded
    · cases proceeded
      exact Destroys.refl
    · split at proceeded
      · cases proceeded
        exact Destroys.refl
      · split at proceeded <;> cases proceeded <;> exact Destroys.refl
  | checking | beginning =>
    simp only [walkProceed] at proceeded
    split at proceeded <;> cases proceeded <;> exact Destroys.refl
  | stamping | marking | recordingAuth | markingAuth | completing | failing =>
    cases proceeded
    exact destroys_updateRecord fun _ => rfl
  | draining completed table rest attempt =>
    simp only [walkProceed] at proceeded
    split at proceeded
    · cases proceeded
      exact Destroys.refl
    · split at proceeded
      · cases proceeded
        exact Destroys.refl
      · next paged deleted page =>
        split at proceeded
        · cases proceeded
        · cases proceeded
          exact destroys_page page
  | confirming completed table rest attempt =>
    simp only [walkProceed] at proceeded
    split at proceeded
    · cases proceeded
      exact Destroys.refl
    · split at proceeded <;> cases proceeded <;> exact Destroys.refl
  | countingMembers | countingInvitations =>
    cases proceeded
    exact Destroys.refl
  | deletingAuth =>
    simp only [walkProceed] at proceeded
    split at proceeded
    · cases proceeded
      exact Destroys.refl
    · next emptied deleted =>
      cases proceeded
      obtain ⟨between, first, second⟩ := Option.bind_eq_some_iff.mp deleted
      exact (destroys_deleteAuthRows first).trans (destroys_deleteAuthRows second)
  | tombstoning =>
    cases proceeded
    exact ⟨[], ages_tombstone, fun _ listed => absurd listed List.not_mem_nil, fun _ => rfl⟩
  | unlocking aborted => cases proceeded

structure Onward (process next : Process) : Prop where
  queue : ∀ workspaceId ∈ next.queue, workspaceId ∈ process.queue
  candidates : ∀ candidate ∈ next.candidates, candidate ∈ process.candidates
  selects : next.selects = true → process.selects = true
  running : next ≠ .unstarted

theorem onward_finished (process : Process) : Onward process .finished where
  queue _ listed := absurd listed List.not_mem_nil
  candidates _ listed := absurd listed List.not_mem_nil
  selects impossible := by cases impossible
  running := by
    intro same
    cases same

theorem onward_nextWalk {process : Process} {rest : List WorkspaceId}
    (queue : ∀ workspaceId ∈ rest, workspaceId ∈ process.queue) (selects : process.selects = true) :
    Onward process (.ticking (nextWalk rest)) := by
  cases rest with
  | nil =>
    refine ⟨fun _ listed => absurd listed List.not_mem_nil, fun _ listed => absurd listed List.not_mem_nil,
      fun _ => selects, ?_⟩
    intro same
    cases same
  | cons workspaceId rest =>
    refine ⟨queue, fun _ listed => absurd listed List.not_mem_nil, fun _ => selects, ?_⟩
    intro same
    cases same

theorem onward_afterWalk {process : Process} {rest : List WorkspaceId} (aborted : Bool)
    (queue : ∀ workspaceId ∈ rest, workspaceId ∈ process.queue) (selects : process.selects = true) :
    Onward process (afterWalk aborted rest) := by
  cases aborted with
  | true => exact onward_finished process
  | false => exact onward_nextWalk queue selects

theorem onward_walking {rest : List WorkspaceId} {stage after : WalkStage} :
    Onward (.ticking (.walking workspaceId rest stage)) (.ticking (.walking workspaceId rest after)) := by
  refine ⟨fun _ listed => listed, fun _ listed => listed, fun selects => selects, ?_⟩
  intro same
  cases same

theorem queue_nextReport (rest : List (WorkspaceId × Timestamp)) : (nextReport rest).queue = [] := by
  cases rest <;> rfl

theorem candidates_nextReport (rest : List (WorkspaceId × Timestamp)) : (nextReport rest).candidates = rest := by
  cases rest <;> rfl

theorem selects_nextReport (rest : List (WorkspaceId × Timestamp)) : (nextReport rest).selects = false := by
  cases rest <;> rfl

theorem onward_nextReport {process : Process} {rest : List (WorkspaceId × Timestamp)}
    (candidates : ∀ candidate ∈ rest, candidate ∈ process.candidates) : Onward process (nextReport rest) where
  queue workspaceId listed := by
    rw [queue_nextReport] at listed
    cases listed
  candidates candidate listed := by
    rw [candidates_nextReport] at listed
    exact candidates candidate listed
  selects := by
    rw [selects_nextReport]
    intro impossible
    cases impossible
  running := by cases rest <;> intro same <;> cases same

theorem Turned.still {process after : Process} (onward : Onward process after)
    (history : next.history = store.history) (now : next.now = store.now)
    (organizations : next.organizations = store.organizations) (records : next.purgeRecords = store.purgeRecords) :
    Turned settings thread store next process after :=
  .quiet [] (Ages.of_same now history organizations) (fun _ listed => absurd listed List.not_mem_nil)
    (fun other => by rw [reportedFor, records, reportedFor]) onward.queue onward.candidates onward.selects onward.running

theorem Turned.walked {process after : Process} (onward : Onward process after)
    (listed : workspaceId ∈ process.queue) (destroys : Destroys thread workspaceId store next) :
    Turned settings thread store next process after := by
  obtain ⟨fresh, ages, events, records⟩ := destroys
  refine .quiet fresh ages ?_ records onward.queue onward.candidates onward.selects onward.running
  intro event new
  obtain ⟨table, row, same⟩ := events event new
  exact Or.inl ⟨workspaceId, table, row, same, listed⟩

theorem onward_tickFail (message : String) (stage : TickStage) :
    Onward (.ticking stage) (tickFail message stage) := by
  cases stage with
  | walking workspaceId rest walk =>
    cases walk with
    | unlocking aborted => exact onward_afterWalk aborted (fun _ listed => List.mem_cons_of_mem _ listed) rfl
    | _ => exact onward_walking
  | _ => exact onward_finished _

theorem turned_lock {process after : Process} {locked : PurgeStore} (onward : Onward process after)
    (taken : tryAdvisoryLock settings store thread workspaceId = some locked) :
    Turned settings thread store locked process after := by
  unfold tryAdvisoryLock at taken
  split at taken
  · cases taken
  · cases taken
    exact Turned.still onward rfl rfl rfl rfl

theorem tick_turned {stage : TickStage} {process : Process}
    (proceeded : tickProceed settings thread store unlocked stage = some (next, process)) :
    Turned settings thread store next (.ticking stage) process ∧
      ∀ message, Turned settings thread store next (.ticking stage) (tickFail message stage) := by
  cases stage with
  | locking workspaceId rest =>
    have left : Onward (.ticking (.locking workspaceId rest)) (.ticking (nextWalk rest)) :=
      onward_nextWalk (fun _ listed => List.mem_cons_of_mem _ listed) rfl
    have failed := fun message => onward_tickFail message (.locking workspaceId rest)
    simp only [tickProceed] at proceeded
    split at proceeded
    · cases proceeded
      exact ⟨Turned.still left rfl rfl rfl rfl, fun message => Turned.still (failed message) rfl rfl rfl rfl⟩
    · next locked taken =>
      cases proceeded
      refine ⟨turned_lock ?_ taken, fun message => turned_lock (failed message) taken⟩
      refine ⟨fun _ listed => listed, fun _ listed => listed, fun selects => selects, ?_⟩
      intro same
      cases same
  | walking workspaceId rest stage =>
    have failed := fun message => onward_tickFail message (.walking workspaceId rest stage)
    have listed : workspaceId ∈ (Process.ticking (.walking workspaceId rest stage)).queue := List.mem_cons_self
    by_cases last : ∃ aborted, stage = .unlocking aborted
    · obtain ⟨aborted, rfl⟩ := last
      cases proceeded
      have left : Onward (.ticking (.walking workspaceId rest (.unlocking aborted))) (afterWalk aborted rest) :=
        onward_afterWalk aborted (fun _ listed => List.mem_cons_of_mem _ listed) rfl
      exact ⟨Turned.still left rfl rfl rfl rfl, fun message => Turned.still (failed message) rfl rfl rfl rfl⟩
    · rw [tickProceed_walking (not_exists.mp last)] at proceeded
      obtain ⟨⟨walked, after⟩, turned, same⟩ := Option.map_eq_some_iff.mp proceeded
      cases same
      have destroys := walk_destroys turned
      exact ⟨Turned.walked onward_walking listed destroys,
        fun message => Turned.walked (failed message) listed destroys⟩
  | selecting =>
    cases proceeded
    refine ⟨.selected rfl rfl (queue_nextReport _) ?_ (selects_nextReport _), ?_⟩
    · intro candidate listed
      rw [candidates_nextReport] at listed
      exact listed
    · intro message
      exact .selected rfl rfl rfl (fun _ listed => absurd listed List.not_mem_nil) rfl
  | checking workspaceId deletedAt rest =>
    have failed := fun message => onward_tickFail message (.checking workspaceId deletedAt rest)
    simp only [tickProceed] at proceeded
    split at proceeded
    · cases proceeded
      have left : Onward (.ticking (.checking workspaceId deletedAt rest)) (nextReport rest) :=
        onward_nextReport fun _ listed => List.mem_cons_of_mem _ listed
      exact ⟨Turned.still left rfl rfl rfl rfl, fun message => Turned.still (failed message) rfl rfl rfl rfl⟩
    · cases proceeded
      refine ⟨Turned.still ⟨fun _ listed => listed, fun _ listed => listed, fun selects => selects, ?_⟩ rfl rfl rfl rfl,
        fun message => Turned.still (failed message) rfl rfl rfl rfl⟩
      intro same
      cases same
  | counting workspaceId deletedAt rest counts tables =>
    have failed := fun message => onward_tickFail message (.counting workspaceId deletedAt rest counts tables)
    cases tables with
    | cons table tables =>
      cases proceeded
      refine ⟨Turned.still ⟨fun _ listed => listed, fun _ listed => listed, fun selects => selects, ?_⟩ rfl rfl rfl rfl,
        fun message => Turned.still (failed message) rfl rfl rfl rfl⟩
      intro same
      cases same
    | nil =>
      cases proceeded
      refine ⟨.reported workspaceId deletedAt counts List.mem_cons_self rfl (queue_nextReport rest) ?_
        (selects_nextReport rest), ?_⟩
      · intro candidate listed
        rw [candidates_nextReport] at listed
        exact List.mem_cons_of_mem _ listed
      · intro message
        exact .reported workspaceId deletedAt counts List.mem_cons_self rfl rfl
          (fun _ listed => absurd listed List.not_mem_nil) rfl

section Restores

variable {process after : Process}

theorem onward_restoring {stage : RestoreStage} : Onward process (.restoring workspaceId stage) where
  queue _ listed := absurd listed List.not_mem_nil
  candidates _ listed := absurd listed List.not_mem_nil
  selects impossible := by cases impossible
  running := by
    intro same
    cases same

theorem turned_restored (onward : Onward process after) (committed : restoreTransaction store workspaceId = some next) :
    Turned settings thread store next process after := by
  obtain ⟨-, -, rfl⟩ := restoreTransaction_some committed
  refine .quiet [] ⟨Int.le_refl _, rfl, ?_⟩ (fun _ listed => absurd listed List.not_mem_nil) (fun _ => rfl)
    onward.queue onward.candidates onward.selects onward.running
  intro other deletedAt read
  refine Or.inl ⟨List.not_mem_nil, ?_⟩
  by_cases same : other = workspaceId
  · subst same
    rw [readOrganizationDeletedAt, Table.find?_update] at read
    cases found : store.organizations.find? other with
    | none =>
      rw [found] at read
      cases read
    | some organization =>
      have named := Table.key_of_find? found
      simp [found, named] at read
  · rw [readOrganizationDeletedAt, deletedAt_restored same] at read
    exact read

theorem turned_transaction (onward : ∀ restored, Onward process (.restoring workspaceId (.returning restored))) :
    let turned := restoreProceed settings thread workspaceId store .transaction
    Turned settings thread store turned.1 process turned.2 ∧
      Turned settings thread store turned.1 process (.restoring workspaceId (.returning false)) := by
  unfold restoreProceed
  simp only
  split
  · exact ⟨Turned.still (onward false) rfl rfl rfl rfl, Turned.still (onward false) rfl rfl rfl rfl⟩
  · next restored committed => exact ⟨turned_restored (onward true) committed, turned_restored (onward false) committed⟩

theorem turned_returned {restored : Bool} {locks : Int → Option Nat} (onward : Onward process after) :
    Turned settings thread store
      { (if restored = true then { store with history := .restored workspaceId :: store.history } else store) with
        locks := locks } process after := by
  cases restored with
  | false => exact Turned.still onward rfl rfl rfl rfl
  | true =>
    refine .quiet [.restored workspaceId] ⟨Int.le_refl _, rfl, ?_⟩ ?_ (fun _ => rfl)
      onward.queue onward.candidates onward.selects onward.running
    · intro other deletedAt read
      exact Or.inl ⟨by simp, read⟩
    · intro event listed
      exact Or.inr ⟨workspaceId, List.mem_singleton.mp listed⟩

theorem restore_turned {stage : RestoreStage} :
    let turned := restoreProceed settings thread workspaceId store stage
    Turned settings thread store turned.1 (.restoring workspaceId stage) turned.2 := by
  cases stage with
  | locking =>
    unfold restoreProceed
    simp only
    split
    · exact Turned.still (onward_finished _) rfl rfl rfl rfl
    · next locked taken => exact turned_lock onward_restoring taken
  | transaction => exact (turned_transaction fun _ => onward_restoring).1
  | returning restored => exact turned_returned (onward_finished _)

theorem restoreFail_turned {stage : RestoreStage} :
    Turned settings thread store (restoreFail workspaceId store stage).1 (.restoring workspaceId stage)
      (restoreFail workspaceId store stage).2 := by
  cases stage with
  | locking => exact Turned.still (onward_finished _) rfl rfl rfl rfl
  | transaction => exact Turned.still onward_restoring rfl rfl rfl rfl
  | returning restored =>
    have turned : Turned settings thread store
        { (if restored = true then { store with history := .restored workspaceId :: store.history } else store) with
          locks := store.locks } (.restoring workspaceId (.returning restored)) .finished :=
      turned_returned (onward_finished _)
    cases restored <;> exact turned

end Restores

theorem start_turned (task : Task) :
    Turned settings thread store (startTask store thread task).1 .unstarted (startTask store thread task).2 := by
  cases task with
  | tick =>
    refine .started rfl rfl ?_ ?_ ?_
    · unfold startTask
      cases loadDestructiblePurgeRecords store <;> rfl
    · unfold startTask
      cases loadDestructiblePurgeRecords store <;> rfl
    · intro same
      cases same
  | restore workspaceId =>
    exact Turned.still onward_restoring rfl rfl rfl rfl

theorem act_turned {process after : Process} {choice : Choice}
    (acted : act settings thread store process choice = some (next, after)) :
    Turned settings thread store next process after := by
  cases choice with
  | start task =>
    simp only [act] at acted
    split at acted
    · next idle =>
      have turned : Turned settings thread store (startTask store thread task).1 .unstarted
          (startTask store thread task).2 := start_turned task
      rw [Option.some.inj acted] at turned
      rw [idle]
      exact turned
    · cases acted
  | proceed unlocked =>
    cases process with
    | ticking stage => exact (tick_turned acted).1
    | restoring workspaceId stage =>
      have turned : Turned settings thread store (restoreProceed settings thread workspaceId store stage).1
          (.restoring workspaceId stage) (restoreProceed settings thread workspaceId store stage).2 := restore_turned
      rw [Option.some.inj acted] at turned
      exact turned
    | unstarted | finished => cases acted
  | fail message =>
    cases process with
    | ticking stage =>
      cases acted
      exact Turned.still (onward_tickFail message stage) rfl rfl rfl rfl
    | restoring workspaceId stage =>
      have turned : Turned settings thread store (restoreFail workspaceId store stage).1
          (.restoring workspaceId stage) (restoreFail workspaceId store stage).2 := restoreFail_turned
      rw [Option.some.inj acted] at turned
      exact turned
    | unstarted | finished => cases acted
  | interrupted unlocked message =>
    cases process with
    | ticking stage =>
      obtain ⟨⟨reached, lost⟩, turned, same⟩ := Option.map_eq_some_iff.mp acted
      cases same
      exact (tick_turned turned).2 message
    | restoring workspaceId stage =>
      cases stage with
      | transaction =>
        cases acted
        exact (turned_transaction fun _ => onward_restoring).2
      | locking =>
        cases acted
        exact @restoreFail_turned _ _ _ workspaceId .locking
      | returning restored =>
        cases acted
        exact @restoreFail_turned _ _ _ workspaceId (.returning restored)
    | unstarted | finished => cases acted
  | crash =>
    cases process with
    | unstarted => cases acted
    | ticking | restoring | finished =>
      cases acted
      exact Turned.still (onward_finished _) rfl rfl rfl rfl

end Turns

end LocalCrm.Purge
