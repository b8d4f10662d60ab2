import LocalCrm.Purge.Walk

/-! Purge and restore exclude each other. -/

set_option autoImplicit false

namespace LocalCrm.Purge

open Library

def Destroyed (history : List PurgeEvent) (workspaceId : WorkspaceId) : Prop :=
  ∃ tick walked table row, .destroyed tick walked table row ∈ history ∧ row.workspaceId = workspaceId

def Knows (settings : PurgeSettings) (thread : Nat) (store : PurgeStore) : Process → Prop
  | .ticking (.walking workspaceId _ stage) =>
    Holds settings store thread workspaceId ∧ WalkKnows store workspaceId stage
  | .ticking (.counting _ _ _ counts tables) =>
    ∀ table, table ∈ tables ∨ (counts.lookup (.purged table)).isSome
  | .restoring workspaceId .transaction => Holds settings store thread workspaceId
  | .restoring workspaceId (.returning restored) => Holds settings store thread workspaceId ∧
      (restored = true → ∀ tick table row, .destroyed tick workspaceId table row ∉ store.history)
  | _ => True

section Threads

variable {settings : PurgeSettings} {thread : Nat} {store next : PurgeStore} {unlocked : List Nat}

theorem knows_nextWalk (rest : List WorkspaceId) : Knows settings thread store (.ticking (nextWalk rest)) := by
  cases rest <;> trivial

theorem knows_nextReport (rest : List (WorkspaceId × Timestamp)) : Knows settings thread store (nextReport rest) := by
  cases rest <;> trivial

theorem knows_afterWalk (aborted : Bool) (rest : List WorkspaceId) :
    Knows settings thread store (afterWalk aborted rest) := by
  cases aborted with
  | true => trivial
  | false => exact knows_nextWalk rest

theorem walkKnows_walkFail {workspaceId : WorkspaceId} (message : String) (stage : WalkStage) :
    WalkKnows store workspaceId (walkFail message stage) := by
  cases stage <;> trivial

theorem knows_tickFail (message : String) {stage : TickStage}
    (held : ∀ workspaceId rest walk, stage = .walking workspaceId rest walk → (∀ aborted, walk ≠ .unlocking aborted) →
      Holds settings store thread workspaceId) : Knows settings thread store (tickFail message stage) := by
  cases stage with
  | walking workspaceId rest walk =>
    cases walk with
    | unlocking aborted => exact knows_afterWalk aborted rest
    | _ =>
      refine ⟨held workspaceId rest _ rfl ?_, walkKnows_walkFail _ _⟩
      intro aborted same
      cases same
  | _ => trivial

theorem effect_tryAdvisoryLock {workspaceId : WorkspaceId}
    (taken : tryAdvisoryLock settings store thread workspaceId = some next) :
    Effect settings thread store next ∧ Holds settings next thread workspaceId := by
  unfold tryAdvisoryLock at taken
  split at taken
  · cases taken
  · next free =>
    cases taken
    exact ⟨Effect.locked store _ free, Function.update_self _ _ _⟩

theorem tick_turn (ok : StoreOk store) {stage : TickStage} {process : Process}
    (knows : Knows settings thread store (.ticking stage))
    (proceeded : tickProceed settings thread store unlocked stage = some (next, process)) :
    Effect settings thread store next ∧ Knows settings thread next process ∧
      ∀ message, Knows settings thread next (tickFail message stage) := by
  cases stage with
  | locking workspaceId rest =>
    simp only [tickProceed] at proceeded
    split at proceeded
    · cases proceeded
      exact ⟨Effect.unchanged _, knows_nextWalk rest, fun _ => trivial⟩
    · next locked taken =>
      cases proceeded
      obtain ⟨effect, held⟩ := effect_tryAdvisoryLock taken
      exact ⟨effect, ⟨held, trivial⟩, fun _ => trivial⟩
  | walking workspaceId rest stage =>
    by_cases last : ∃ aborted, stage = .unlocking aborted
    · obtain ⟨aborted, rfl⟩ := last
      cases proceeded
      exact ⟨Effect.unlocked store _ knows.1, knows_afterWalk aborted rest, fun _ => knows_afterWalk aborted rest⟩
    · rw [tickProceed_walking (not_exists.mp last)] at proceeded
      obtain ⟨⟨walked, after⟩, turned, same⟩ := Option.map_eq_some_iff.mp proceeded
      cases same
      obtain ⟨effect, held, known⟩ := walk_turn ok knows.1 knows.2 turned
      refine ⟨effect, ⟨held, known⟩, ?_⟩
      intro message
      apply knows_tickFail
      intro other queue walk same _
      cases same
      exact held
  | selecting =>
    cases proceeded
    exact ⟨Effect.selected store, knows_nextReport _, fun _ => trivial⟩
  | checking workspaceId deletedAt rest =>
    simp only [tickProceed] at proceeded
    split at proceeded
    · cases proceeded
      exact ⟨Effect.unchanged _, knows_nextReport rest, fun _ => trivial⟩
    · cases proceeded
      exact ⟨Effect.unchanged _, fun table => Or.inl (mem_purgeTableOrder table), fun _ => trivial⟩
  | counting workspaceId deletedAt rest counts tables =>
    cases tables with
    | cons table tables =>
      cases proceeded
      refine ⟨Effect.unchanged _, ?_, fun _ => trivial⟩
      intro other
      rw [List.lookup_append]
      rcases knows other with pending | present
      · rcases List.mem_cons.mp pending with rfl | later
        · exact Or.inr (by cases counts.lookup (.purged other) <;> simp)
        · exact Or.inl later
      · exact Or.inr (by rw [Option.isSome_or, present]; rfl)
    | nil =>
      cases proceeded
      refine ⟨Effect.reported store workspaceId deletedAt counts ?_, knows_nextReport rest, fun _ => trivial⟩
      intro table
      rcases knows table with none | present
      · cases none
      · exact present

theorem clean_of_not_begun {workspaceId : WorkspaceId} (ok : StoreOk store) (fresh : begun store workspaceId = false)
    (tick : Nat) (table : StoredTable) (row : Row) : .destroyed tick workspaceId table row ∉ store.history := by
  intro listed
  have begins := (ok.history.destroyed tick workspaceId table row listed).1
  rw [fresh] at begins
  cases begins

theorem effect_returned {workspaceId : WorkspaceId} {restored : Bool}
    (clean : restored = true → ∀ tick table row, .destroyed tick workspaceId table row ∉ store.history) :
    Effect settings thread store
      (if restored = true then { store with history := .restored workspaceId :: store.history } else store) := by
  cases restored with
  | true => exact Effect.returned store workspaceId (clean rfl)
  | false => exact Effect.unchanged store

theorem holds_returned {workspaceId : WorkspaceId} {restored : Bool} (held : Holds settings store thread workspaceId) :
    Holds settings (if restored = true then { store with history := .restored workspaceId :: store.history } else store)
      thread workspaceId := by
  cases restored <;> exact held

theorem restore_transaction_turn {workspaceId : WorkspaceId} (ok : StoreOk store)
    (held : Holds settings store thread workspaceId) :
    let turned := restoreProceed settings thread workspaceId store .transaction
    Effect settings thread store turned.1 ∧ Knows settings thread turned.1 turned.2 ∧
      Holds settings turned.1 thread workspaceId := by
  unfold restoreProceed
  simp only
  split
  · refine ⟨Effect.unchanged store, ⟨held, ?_⟩, held⟩
    intro impossible
    cases impossible
  · next restored committed =>
    obtain ⟨fresh, -, shape⟩ := restoreTransaction_some committed
    have holding : Holds settings restored thread workspaceId := by
      rw [shape]
      exact held
    refine ⟨Effect.restored store restored workspaceId held committed, ⟨holding, ?_⟩, holding⟩
    intro _ tick table row
    rw [shape]
    exact clean_of_not_begun ok fresh tick table row

theorem restore_turn {workspaceId : WorkspaceId} {stage : RestoreStage} (ok : StoreOk store)
    (knows : Knows settings thread store (.restoring workspaceId stage)) :
    let turned := restoreProceed settings thread workspaceId store stage
    Effect settings thread store turned.1 ∧ Knows settings thread turned.1 turned.2 := by
  cases stage with
  | locking =>
    unfold restoreProceed
    simp only
    split
    · exact ⟨Effect.unchanged store, trivial⟩
    · next locked taken => exact effect_tryAdvisoryLock taken
  | transaction =>
    obtain ⟨effect, known, -⟩ := restore_transaction_turn ok knows
    exact ⟨effect, known⟩
  | returning restored =>
    refine ⟨?_, trivial⟩
    exact (effect_returned knows.2).both (Effect.unlocked _ _ (holds_returned knows.1))

theorem restoreFail_turn {workspaceId : WorkspaceId} {stage : RestoreStage}
    (knows : Knows settings thread store (.restoring workspaceId stage)) :
    Effect settings thread store (restoreFail workspaceId store stage).1 ∧
      Knows settings thread (restoreFail workspaceId store stage).1 (restoreFail workspaceId store stage).2 := by
  cases stage with
  | locking => exact ⟨Effect.unchanged store, trivial⟩
  | transaction =>
    refine ⟨Effect.unchanged store, knows, ?_⟩
    intro impossible
    cases impossible
  | returning restored => exact ⟨effect_returned knows.2, trivial⟩

theorem start_turn (task : Task) :
    Effect settings thread store (startTask store thread task).1 ∧
      Knows settings thread (startTask store thread task).1 (startTask store thread task).2 := by
  cases task with
  | tick => exact ⟨Effect.started store, knows_nextWalk _⟩
  | restore workspaceId => exact ⟨Effect.unchanged store, trivial⟩

theorem act_turn (ok : StoreOk store) {process after : Process} {choice : Choice}
    (knows : Knows settings thread store process)
    (acted : act settings thread store process choice = some (next, after)) :
    Effect settings thread store next ∧ Knows settings thread next after := by
  cases choice with
  | start task =>
    simp only [act] at acted
    split at acted
    · have turned : Effect settings thread store (startTask store thread task).1 ∧
          Knows settings thread (startTask store thread task).1 (startTask store thread task).2 := start_turn task
      rw [Option.some.inj acted] at turned
      exact turned
    · cases acted
  | proceed unlocked =>
    cases process with
    | ticking stage =>
      obtain ⟨effect, known, -⟩ := tick_turn ok knows acted
      exact ⟨effect, known⟩
    | restoring workspaceId stage =>
      have turned := restore_turn ok knows
      rw [Option.some.inj acted] at turned
      exact turned
    | unstarted | finished => cases acted
  | fail message =>
    cases process with
    | ticking stage =>
      cases acted
      refine ⟨Effect.unchanged _, knows_tickFail message ?_⟩
      intro workspaceId rest walk same _
      subst same
      exact knows.1
    | restoring workspaceId stage =>
      have turned := restoreFail_turn knows
      rw [Option.some.inj acted] at turned
      exact turned
    | unstarted | finished => cases acted
  | interrupted unlocked message =>
    cases process with
    | ticking stage =>
      obtain ⟨⟨reached, lost⟩, turned, same⟩ := Option.map_eq_some_iff.mp acted
      cases same
      obtain ⟨effect, -, known⟩ := tick_turn ok knows turned
      exact ⟨effect, known message⟩
    | restoring workspaceId stage =>
      cases stage with
      | transaction =>
        cases acted
        obtain ⟨effect, -, held⟩ := restore_transaction_turn ok knows
        refine ⟨effect, held, ?_⟩
        intro impossible
        cases impossible
      | locking | returning =>
        cases acted
        exact restoreFail_turn knows
    | unstarted | finished => cases acted
  | crash =>
    cases process with
    | unstarted => cases acted
    | ticking | restoring | finished =>
      cases acted
      exact ⟨Effect.dropped store, trivial⟩

theorem walkKnows_stable {workspaceId : WorkspaceId} {stage : WalkStage}
    (held : Holds settings store thread workspaceId) (knows : WalkKnows store workspaceId stage)
    (tolerated : Tolerates settings thread store next) : WalkKnows next workspaceId stage := by
  have kept := fun record => tolerated.records workspaceId record held
  cases stage with
  | loading | failing | unlocking => trivial
  | checking | beginning => exact Active.moved knows kept
  | stamping completed => exact ⟨knows.1.moved kept, tolerated.deleted workspaceId held knows.2⟩
  | draining | confirming | countingMembers | countingInvitations | recordingAuth | tombstoning | completing =>
    exact Walked.moved knows kept
  | marking completed table rest =>
    exact ⟨knows.1.moved kept, tolerated.emptied workspaceId _ knows.1.begun knows.2⟩
  | deletingAuth =>
    refine ⟨knows.1.moved kept, ?_⟩
    intro auth
    -- the counts stand in the record the lock protects
    obtain ⟨record, found, status, -⟩ := knows.1
    obtain ⟨other, same, present⟩ := counted_iff.mp (knows.2 auth)
    rw [found] at same
    cases same
    apply counted_iff.mpr
    refine ⟨record, kept record found ?_, present⟩
    rw [status]
    decide
  | markingAuth =>
    refine ⟨knows.1.moved kept, ?_⟩
    intro auth
    exact tolerated.emptied workspaceId _ knows.1.begun (knows.2 auth)

theorem knows_stable {process : Process} (knows : Knows settings thread store process)
    (tolerated : Tolerates settings thread store next) : Knows settings thread next process := by
  cases process with
  | ticking stage =>
    cases stage with
    | walking workspaceId rest stage =>
      exact ⟨tolerated.locks _ knows.1, walkKnows_stable knows.1 knows.2 tolerated⟩
    | counting workspaceId deletedAt rest counts tables => exact knows
    | locking | selecting | checking => trivial
  | restoring workspaceId stage =>
    cases stage with
    | locking => trivial
    | transaction => exact tolerated.locks _ knows
    | returning restored =>
      refine ⟨tolerated.locks _ knows.1, ?_⟩
      intro committed tick table row listed
      exact knows.2 committed tick table row (tolerated.history workspaceId knows.1 tick table row listed)
  | unstarted | finished => trivial

end Threads

section Outside

variable {settings : PurgeSettings} {store next : PurgeStore} {event : Event}

theorem deletedAt_softDelete {workspaceId other : WorkspaceId}
    (deleted : (readOrganizationDeletedAt store other).isSome) :
    (readOrganizationDeletedAt (softDelete store workspaceId) other).isSome := by
  simp only [readOrganizationDeletedAt, softDelete, Table.find?_update] at deleted ⊢
  cases found : store.organizations.find? other with
  | none =>
    rw [found] at deleted
    cases deleted
  | some organization =>
    rw [found] at deleted
    simp only [Option.map_some, Option.bind_some]
    split
    · rfl
    · exact deleted

theorem grows_resume (record : PurgeRecord) : Grows record { record with status := .purging, purgeError := none } :=
  ⟨rfl, fun _ stamped => stamped, fun _ done => done, fun _ _ counted => counted⟩

theorem outside_grows (happened : outside store event = some next) : RecordsGrow store next := by
  cases event with
  | elapse | deleteWorkspace =>
    cases happened
    exact RecordsGrow.refl store
  | insertRow table row =>
    simp only [outside] at happened
    split at happened
    · cases happened
      exact RecordsGrow.refl store
    · cases happened
  | removeRows table workspaceId ids =>
    obtain ⟨⟨left, removed⟩, -, same⟩ := Option.map_eq_some_iff.mp happened
    cases same
    exact RecordsGrow.refl store
  | resumePurge workspaceId =>
    cases happened
    exact recordsGrow_updateRecord grows_resume

theorem mem_addRow {rows : Rows} {table other : StoredTable} {row stored : Row}
    (listed : stored ∈ addRow rows table row other) : stored ∈ rows other ∨ stored = row := by
  unfold addRow at listed
  by_cases same : other = table
  · subst same
    rw [Function.update_self] at listed
    rcases List.mem_append.mp listed with before | fresh
    · exact Or.inl before
    · exact Or.inr (List.mem_singleton.mp fresh)
  · rw [Function.update_of_ne same] at listed
    exact Or.inl listed

theorem emptied_addRow {table other : StoredTable} {row : Row} {workspaceId : WorkspaceId}
    (fresh : begun store row.workspaceId = false) (begins : begun store workspaceId = true)
    (emptied : Emptied store.rows other workspaceId) : Emptied (addRow store.rows table row) other workspaceId := by
  intro stored listed
  rcases mem_addRow listed with before | rfl
  · exact emptied stored before
  · intro same
    rw [same, begins] at fresh
    cases fresh

theorem begun_of_record {workspaceId : WorkspaceId} {record : PurgeRecord}
    (found : store.purgeRecords.find? workspaceId = some record) (stamped : record.firstDestructiveBatchAt.isSome) :
    begun store record.workspaceId = true := by
  rw [Table.key_of_find? found]
  exact begun_iff.mpr ⟨record, found, stamped⟩

theorem outside_ok (ok : StoreOk store) (happened : outside store event = some next) : StoreOk next := by
  cases event with
  | elapse milliseconds =>
    cases happened
    constructor
    · intro workspaceId record found
      exact (ok.records workspaceId record found).moved (fun _ deleted => deleted) (fun _ _ emptied => emptied)
    · exact ok.history.grown (RecordsGrow.refl store) rfl
    · exact ok.within
  | deleteWorkspace workspaceId =>
    cases happened
    constructor
    · intro other record found
      apply (ok.records other record found).moved
      · intro _ deleted
        exact deletedAt_softDelete deleted
      · intro table _ emptied
        exact emptied
    · have noted : HistoryOk { store with history := .deleted workspaceId :: store.history } := by
        apply historyOk_noted ok.history
        · intro tick other table row same
          cases same
        · intro other same
          cases same
      exact noted.grown (RecordsGrow.refl store) rfl
    · exact ok.within
  | insertRow table row =>
    simp only [outside] at happened
    split at happened
    · next allowed =>
      cases happened
      constructor
      · intro workspaceId record found
        apply (ok.records workspaceId record found).moved
        · intro _ deleted
          exact deleted
        · intro other stamped emptied
          exact emptied_addRow allowed.1 (begun_of_record found stamped) emptied
      · exact ok.history.grown (RecordsGrow.refl store) rfl
      · exact allowed.2
    · cases happened
  | removeRows table workspaceId ids =>
    obtain ⟨⟨left, removed⟩, taken, same⟩ := Option.map_eq_some_iff.mp happened
    cases same
    constructor
    · intro other record found
      apply (ok.records other record found).moved
      · intro _ deleted
        exact deleted
      · intro other _ emptied
        exact emptied_left taken emptied
    · exact ok.history.grown (RecordsGrow.refl store) rfl
    · exact withinWorkspaces_left ok.within taken
  | resumePurge workspaceId =>
    have grown := outside_grows happened
    cases happened
    constructor
    · intro other record found
      obtain ⟨old, stored, same⟩ := Option.map_eq_some_iff.mp (find?_updateRecord.symm.trans found)
      have right := ok.records other old stored
      split at same
      · subst same
        refine ⟨?_, right.deleted, right.steps, ?_, right.census⟩
        · intro pending
          cases pending
        · intro complete
          cases complete
      · subst same
        exact right.moved (fun _ deleted => deleted) (fun _ _ emptied => emptied)
    · exact ok.history.grown grown rfl
    · exact ok.within

theorem outside_tolerated (happened : outside store event = some next) (thread : Nat) :
    Tolerates settings thread store next := by
  have grown := outside_grows happened
  cases event with
  | elapse milliseconds =>
    cases happened
    exact ⟨fun _ held => held, fun _ stamped => stamped, fun _ _ _ emptied => emptied, fun _ _ _ found _ => found,
      fun _ _ deleted => deleted, fun _ _ _ _ _ listed => listed⟩
  | deleteWorkspace workspaceId =>
    cases happened
    refine ⟨fun _ held => held, fun _ stamped => stamped, fun _ _ _ emptied => emptied, fun _ _ _ found _ => found,
      fun _ _ deleted => deletedAt_softDelete deleted, ?_⟩
    intro other _ tick table row listed
    rcases List.mem_cons.mp listed with same | earlier
    · cases same
    · exact earlier
  | insertRow table row =>
    simp only [outside] at happened
    split at happened
    · next allowed =>
      cases happened
      refine ⟨fun _ held => held, fun _ stamped => stamped, ?_, fun _ _ _ found _ => found,
        fun _ _ deleted => deleted, fun _ _ _ _ _ listed => listed⟩
      intro workspaceId other begins emptied
      exact emptied_addRow allowed.1 begins emptied
    · cases happened
  | removeRows table workspaceId ids =>
    obtain ⟨⟨left, removed⟩, taken, same⟩ := Option.map_eq_some_iff.mp happened
    cases same
    exact ⟨fun _ held => held, fun _ stamped => stamped, fun _ _ _ emptied => emptied_left taken emptied,
      fun _ _ _ found _ => found, fun _ _ deleted => deleted, fun _ _ _ _ _ listed => listed⟩
  | resumePurge workspaceId =>
    cases happened
    refine ⟨fun _ held => held, fun _ stamped => grown.begun stamped, fun _ _ _ emptied => emptied, ?_,
      fun _ _ deleted => deleted, fun _ _ _ _ _ listed => listed⟩
    intro other record _ found active
    -- only a failed record is resumed
    rw [resumePurge, find?_updateRecord, found, Option.map_some, if_neg]
    intro resumed
    simp only [Bool.and_eq_true, beq_iff_eq] at resumed
    exact active resumed.2

end Outside

section Runs

variable {settings : PurgeSettings} {initial final : PurgeWorld} {turns : List (Turn Choice Event)}

theorem storeOk_initial (fresh : Initial initial) : StoreOk initial.shared where
  records := by
    intro workspaceId record found
    rw [fresh.purgeRecords] at found
    cases found
  history := by
    constructor
    · intro tick workspaceId table row listed
      rw [fresh.history] at listed
      cases listed
    · intro later earlier workspaceId shape
      rw [fresh.history] at shape
      cases later <;> cases shape
  within := fresh.within

theorem sound_step (before : PurgeWorld) (turn : Turn Choice Event) (after : PurgeWorld)
    (sound : Threads.Sound StoreOk (Knows settings) before) (taken : purgeStep settings before turn = some after) :
    Threads.Sound StoreOk (Knows settings) after := by
  refine @sound_interleave _ _ _ _ (act settings) outside StoreOk (Knows settings) (Tolerates settings) ?_ ?_ ?_
    before turn after sound taken
  · intro thread store process choice next after ok knows acted
    obtain ⟨effect, known⟩ := act_turn ok knows acted
    exact ⟨effect.ok ok, known, fun other differs => effect.tolerated differs⟩
  · intro store event next ok happened
    exact ⟨outside_ok ok happened, outside_tolerated happened⟩
  · intro thread store next process knows tolerated
    exact knows_stable knows tolerated

theorem sound_initial (fresh : Initial initial) : Threads.Sound StoreOk (Knows settings) initial := by
  constructor
  · exact storeOk_initial fresh
  · intro thread
    rw [fresh.unstarted]
    trivial

theorem sound_reached (fresh : Initial initial) (ran : run (purgeStep settings) initial turns = some final) :
    Threads.Sound StoreOk (Knows settings) final :=
  invariant_of_every_run sound_step (sound_initial fresh) ran

theorem effect_of_turn {before after : PurgeWorld} {thread : Nat} {choice : Choice}
    (sound : Threads.Sound StoreOk (Knows settings) before)
    (taken : purgeStep settings before (.thread thread choice) = some after) :
    Effect settings thread before.shared after.shared := by
  obtain ⟨shared, own, acted, rfl⟩ := interleave_thread.mp taken
  exact (act_turn sound.shared (sound.own thread) acted).1

theorem purge_excludes_restore (settings : PurgeSettings) (initial final : PurgeWorld)
    (turns : List (Turn Choice Event)) (fresh : Initial initial)
    (ran : run (purgeStep settings) initial turns = some final) (workspaceId : WorkspaceId) :
    (∀ organization, final.shared.organizations.find? workspaceId = some organization →
      organization.deletedAt = none → ¬ Destroyed final.shared.history workspaceId) ∧
    ∀ later earlier, final.shared.history = later ++ .restored workspaceId :: earlier →
      ¬ Destroyed earlier workspaceId := by
  have ok := (sound_reached fresh ran).shared
  constructor
  · rintro organization found live ⟨tick, walked, table, row, listed, owned⟩
    obtain ⟨begins, named, -⟩ := ok.history.destroyed tick walked table row listed
    -- destruction is stamped before it starts, and a stamped workspace stays deleted
    obtain ⟨record, stored, stamped⟩ := begun_iff.mp begins
    have deleted := (ok.records walked record stored).deleted stamped
    rw [Table.key_of_find? stored, ← named, owned, readOrganizationDeletedAt, found, Option.bind_some, live] at deleted
    cases deleted
  · rintro later earlier shape ⟨tick, walked, table, row, listed, owned⟩
    have whole : .destroyed tick walked table row ∈ final.shared.history := by
      rw [shape]
      exact List.mem_append_right _ (List.mem_cons_of_mem _ listed)
    obtain ⟨-, named, -⟩ := ok.history.destroyed tick walked table row whole
    rw [← named, owned] at listed
    exact ok.history.restored later earlier workspaceId shape tick table row listed

/-- A restore after the report hands the workspace back whole. -/
theorem restored_after_report_whole : ∃ final,
    run (purgeStep weekSettings) closedWorld (reporting ++ working 1 (.restore 1) 3) = some final ∧
      .restored 1 ∈ final.shared.history ∧ ¬ Destroyed final.shared.history 1 := by
  have reached : (run (purgeStep weekSettings) closedWorld (reporting ++ working 1 (.restore 1) 3)).any (fun final =>
      decide (.restored 1 ∈ final.shared.history) && (final.shared.organizations.find? 1).any fun organization =>
        organization.deletedAt.isNone) = true := by
    decide +kernel
  obtain ⟨final, ran, seen⟩ := Option.any_eq_true _ _ |>.mp reached
  simp only [Bool.and_eq_true, decide_eq_true_eq, Option.any_eq_true, Option.isNone_iff_eq_none] at seen
  obtain ⟨returned, organization, found, live⟩ := seen
  exact ⟨final, ran, returned,
    (purge_excludes_restore weekSettings closedWorld final _ closedWorld_initial ran 1).1 organization found live⟩

end Runs

end LocalCrm.Purge
