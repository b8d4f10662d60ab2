import LocalCrm.Purge.Machine

/-! What a turn may do to the store, and what every such effect keeps. -/

set_option autoImplicit false

namespace LocalCrm.Purge

open Library

def Holds (settings : PurgeSettings) (store : PurgeStore) (thread : Nat) (workspaceId : WorkspaceId) : Prop :=
  store.locks (settings.hashtext workspaceId) = some thread

structure Grows (before after : PurgeRecord) : Prop where
  softDeletedAt : after.softDeletedAt = before.softDeletedAt
  first : ∀ at_, before.firstDestructiveBatchAt = some at_ → after.firstDestructiveBatchAt = some at_
  completed : ∀ step ∈ before.completedTables, step ∈ after.completedTables
  counts : ∀ key count, before.tableCounts.lookup key = some count → after.tableCounts.lookup key = some count

theorem Grows.refl (record : PurgeRecord) : Grows record record :=
  ⟨rfl, fun _ stamped => stamped, fun _ done => done, fun _ _ counted => counted⟩

theorem Grows.trans {first second third : PurgeRecord} (early : Grows first second) (late : Grows second third) :
    Grows first third :=
  ⟨late.softDeletedAt.trans early.softDeletedAt, fun at_ stamped => late.first at_ (early.first at_ stamped),
    fun step done => late.completed step (early.completed step done),
    fun key count counted => late.counts key count (early.counts key count counted)⟩

def StepDone (rows : Rows) (workspaceId : WorkspaceId) : PurgeStep → Prop
  | .table table => Emptied rows (.purged table) workspaceId
  | .auth => ∀ auth, Emptied rows (.auth auth) workspaceId

structure RecordOk (store : PurgeStore) (record : PurgeRecord) : Prop where
  reported : record.status ≠ .pending
  deleted : record.firstDestructiveBatchAt.isSome → (readOrganizationDeletedAt store record.workspaceId).isSome
  steps : ∀ step ∈ record.completedTables,
    record.firstDestructiveBatchAt.isSome ∧ StepDone store.rows record.workspaceId step
  complete : record.status = .complete → ∀ step, step ∈ record.completedTables
  census : ∀ table, (record.tableCounts.lookup (.purged table)).isSome

def RecordsOk (store : PurgeStore) : Prop :=
  ∀ workspaceId record, store.purgeRecords.find? workspaceId = some record → RecordOk store record

def counted (store : PurgeStore) (workspaceId : WorkspaceId) (key : StoredTable) : Bool :=
  ((store.purgeRecords.find? workspaceId).bind fun record => record.tableCounts.lookup key).isSome

structure HistoryOk (store : PurgeStore) : Prop where
  destroyed : ∀ tick workspaceId table row, .destroyed tick workspaceId table row ∈ store.history →
    begun store workspaceId = true ∧ row.workspaceId = workspaceId ∧ table.isEvidence = false ∧
      ∀ auth, table = .auth auth → counted store workspaceId table = true
  restored : ∀ later earlier workspaceId, store.history = later ++ .restored workspaceId :: earlier →
    ∀ tick table row, .destroyed tick workspaceId table row ∉ earlier

structure StoreOk (store : PurgeStore) : Prop where
  records : RecordsOk store
  history : HistoryOk store
  within : WithinWorkspaces store.rows

structure Tolerates (settings : PurgeSettings) (thread : Nat) (before after : PurgeStore) : Prop where
  locks : ∀ key, before.locks key = some thread → after.locks key = some thread
  begun : ∀ workspaceId, begun before workspaceId = true → begun after workspaceId = true
  emptied : ∀ workspaceId table, Purge.begun before workspaceId = true →
    Emptied before.rows table workspaceId → Emptied after.rows table workspaceId
  records : ∀ workspaceId record, Holds settings before thread workspaceId →
    before.purgeRecords.find? workspaceId = some record → record.status ≠ .failed →
      after.purgeRecords.find? workspaceId = some record
  deleted : ∀ workspaceId, Holds settings before thread workspaceId →
    (readOrganizationDeletedAt before workspaceId).isSome → (readOrganizationDeletedAt after workspaceId).isSome
  history : ∀ workspaceId, Holds settings before thread workspaceId → ∀ tick table row,
    .destroyed tick workspaceId table row ∈ after.history → .destroyed tick workspaceId table row ∈ before.history

inductive Effect (settings : PurgeSettings) (thread : Nat) : PurgeStore → PurgeStore → Prop
  | unchanged (store : PurgeStore) : Effect settings thread store store
  | started (store : PurgeStore) :
      Effect settings thread store { store with history := .started thread store.now :: store.history }
  | selected (store : PurgeStore) :
      Effect settings thread store { store with history := .selected thread :: store.history }
  | returned (store : PurgeStore) (workspaceId : WorkspaceId)
      (clean : ∀ tick table row, .destroyed tick workspaceId table row ∉ store.history) :
      Effect settings thread store { store with history := .restored workspaceId :: store.history }
  | locked (store : PurgeStore) (key : Int) (free : store.locks key = none) :
      Effect settings thread store { store with locks := Function.update store.locks key (some thread) }
  | unlocked (store : PurgeStore) (key : Int) (held : store.locks key = some thread) :
      Effect settings thread store { store with locks := Function.update store.locks key none }
  | dropped (store : PurgeStore) : Effect settings thread store (dropSession store thread)
  | wrote (store : PurgeStore) (workspaceId : WorkspaceId) (guard : PurgeRecord → Bool)
      (set : PurgeRecord → PurgeRecord) (keeps : ∀ record, (set record).workspaceId = record.workspaceId)
      (held : Holds settings store thread workspaceId) (grows : ∀ record, Grows record (set record))
      (sound : ∀ record, store.purgeRecords.find? workspaceId = some record → RecordOk store record →
        guard record = true → RecordOk store (set record)) :
      Effect settings thread store (updateRecord store workspaceId guard set keeps)
  | destroyed (store : PurgeStore) (workspaceId : WorkspaceId) (table : StoredTable) (chosen : Row → Bool)
      (left : Rows) (removed : List (StoredTable × Row)) (held : Holds settings store thread workspaceId)
      (begins : begun store workspaceId = true) (owned : ∀ row, chosen row = true → row.workspaceId = workspaceId)
      (destroys : table.isEvidence = false) (recorded : ∀ auth, table = .auth auth → counted store workspaceId table = true)
      (deleted : deleteRows store.rows table chosen = some (left, removed)) :
      Effect settings thread store (logDestroyed store thread workspaceId left removed)
  | tombstoned (store : PurgeStore) (workspaceId : WorkspaceId) :
      Effect settings thread store (tombstoneOrganization store workspaceId)
  | reported (store : PurgeStore) (workspaceId : WorkspaceId) (deletedAt : Timestamp) (counts : TableCounts)
      (census : ∀ table, (counts.lookup (.purged table)).isSome) :
      Effect settings thread store (insertReport settings store thread workspaceId deletedAt counts)
  | restored (store next : PurgeStore) (workspaceId : WorkspaceId) (held : Holds settings store thread workspaceId)
      (committed : restoreTransaction store workspaceId = some next) : Effect settings thread store next
  | both {first second third : PurgeStore} (early : Effect settings thread first second)
      (late : Effect settings thread second third) : Effect settings thread first third

section Lookups

variable {settings : PurgeSettings} {store : PurgeStore} {workspaceId other : WorkspaceId} {thread : Nat}

theorem find?_updateRecord {guard : PurgeRecord → Bool} {set : PurgeRecord → PurgeRecord}
    {keeps : ∀ record, (set record).workspaceId = record.workspaceId} :
    (updateRecord store workspaceId guard set keeps).purgeRecords.find? other =
      (store.purgeRecords.find? other).map fun record =>
        if record.workspaceId == workspaceId && guard record then set record else record := by
  simp only [updateRecord, Table.find?_update]

theorem find?_updateRecord_other {guard : PurgeRecord → Bool} {set : PurgeRecord → PurgeRecord}
    {keeps : ∀ record, (set record).workspaceId = record.workspaceId} (differs : other ≠ workspaceId) :
    (updateRecord store workspaceId guard set keeps).purgeRecords.find? other = store.purgeRecords.find? other := by
  rw [find?_updateRecord]
  cases found : store.purgeRecords.find? other with
  | none => rfl
  | some record =>
    have named := Table.key_of_find? found
    simp [named, differs]

theorem find?_updateRecord_self {guard : PurgeRecord → Bool} {set : PurgeRecord → PurgeRecord}
    {keeps : ∀ record, (set record).workspaceId = record.workspaceId} {record : PurgeRecord}
    (found : store.purgeRecords.find? workspaceId = some record) :
    (updateRecord store workspaceId guard set keeps).purgeRecords.find? workspaceId =
      some (if guard record then set record else record) := by
  have named := Table.key_of_find? found
  rw [find?_updateRecord, found]
  simp [named]

theorem begun_iff : begun store workspaceId = true ↔
    ∃ record, store.purgeRecords.find? workspaceId = some record ∧ record.firstDestructiveBatchAt.isSome := by
  unfold begun
  cases store.purgeRecords.find? workspaceId <;> simp

theorem counted_iff {key : StoredTable} : counted store workspaceId key = true ↔
    ∃ record, store.purgeRecords.find? workspaceId = some record ∧ (record.tableCounts.lookup key).isSome := by
  unfold counted
  cases store.purgeRecords.find? workspaceId <;> simp

theorem deletedAt_tombstone : readOrganizationDeletedAt (tombstoneOrganization store workspaceId) other =
    readOrganizationDeletedAt store other := by
  have changed : (tombstoneOrganization store workspaceId).organizations.find? other =
      (store.organizations.find? other).map fun organization =>
        if organization.id == workspaceId then tombstone store.now organization else organization :=
    @Table.find?_update _ _ _ _ _ _ _ _ (tombstone_id store.now)
  unfold readOrganizationDeletedAt
  rw [changed]
  cases store.organizations.find? other with
  | none => rfl
  | some organization =>
    simp only [Option.map_some, Option.bind_some]
    split <;> rfl

theorem restoreTransaction_some {next : PurgeStore} (committed : restoreTransaction store workspaceId = some next) :
    begun store workspaceId = false ∧ (readOrganizationDeletedAt store workspaceId).isSome ∧
      next = { store with
        organizations := store.organizations.update (fun organization => organization.id == workspaceId)
          (fun organization => { organization with deletedAt := none }) } := by
  unfold restoreTransaction at committed
  split at committed
  · cases committed
  · split at committed
    · cases committed
    · cases committed
      next live fresh =>
        refine ⟨?_, ?_, rfl⟩
        · simpa [begun] using fresh
        · simpa [Option.isSome_iff_ne_none] using live

theorem deletedAt_restored (differs : other ≠ workspaceId) :
    ((store.organizations.update (fun organization => organization.id == workspaceId)
      (fun organization => { organization with deletedAt := none })).find? other).bind Organization.deletedAt =
      readOrganizationDeletedAt store other := by
  rw [Table.find?_update]
  unfold readOrganizationDeletedAt
  cases found : store.organizations.find? other with
  | none => rfl
  | some organization =>
    have named := Table.key_of_find? found
    simp [named, differs]

end Lookups

def RecordsGrow (before after : PurgeStore) : Prop :=
  ∀ workspaceId record, before.purgeRecords.find? workspaceId = some record →
    ∃ later, after.purgeRecords.find? workspaceId = some later ∧ Grows record later

theorem RecordsGrow.refl (store : PurgeStore) : RecordsGrow store store :=
  fun _ record found => ⟨record, found, Grows.refl record⟩

theorem RecordsGrow.trans {first second third : PurgeStore} (early : RecordsGrow first second)
    (late : RecordsGrow second third) : RecordsGrow first third := by
  intro workspaceId record found
  obtain ⟨between, reached, grown⟩ := early workspaceId record found
  obtain ⟨later, stored, regrown⟩ := late workspaceId between reached
  exact ⟨later, stored, grown.trans regrown⟩

theorem RecordsGrow.begun {before after : PurgeStore} (grows : RecordsGrow before after) {workspaceId : WorkspaceId}
    (stamped : Purge.begun before workspaceId = true) : Purge.begun after workspaceId = true := by
  obtain ⟨record, found, first⟩ := begun_iff.mp stamped
  obtain ⟨later, stored, grown⟩ := grows workspaceId record found
  obtain ⟨at_, stamp⟩ := Option.isSome_iff_exists.mp first
  exact begun_iff.mpr ⟨later, stored, by rw [grown.first at_ stamp]; rfl⟩

theorem RecordsGrow.counted {before after : PurgeStore} (grows : RecordsGrow before after)
    {workspaceId : WorkspaceId} {key : StoredTable} (recorded : Purge.counted before workspaceId key = true) :
    Purge.counted after workspaceId key = true := by
  obtain ⟨record, found, present⟩ := counted_iff.mp recorded
  obtain ⟨later, stored, grown⟩ := grows workspaceId record found
  obtain ⟨count, count_eq⟩ := Option.isSome_iff_exists.mp present
  exact counted_iff.mpr ⟨later, stored, by rw [grown.counts key count count_eq]; rfl⟩

theorem recordsGrow_updateRecord {store : PurgeStore} {workspaceId : WorkspaceId} {guard : PurgeRecord → Bool}
    {set : PurgeRecord → PurgeRecord} {keeps : ∀ record, (set record).workspaceId = record.workspaceId}
    (grows : ∀ record, Grows record (set record)) :
    RecordsGrow store (updateRecord store workspaceId guard set keeps) := by
  intro other record found
  refine ⟨if record.workspaceId == workspaceId && guard record then set record else record, ?_, ?_⟩
  · rw [find?_updateRecord, found]
    rfl
  split
  · exact grows record
  · exact Grows.refl record

theorem recordsGrow_insertReport {settings : PurgeSettings} {store : PurgeStore} {tick : Nat}
    {workspaceId : WorkspaceId} {deletedAt : Timestamp} {counts : TableCounts} :
    RecordsGrow store (insertReport settings store tick workspaceId deletedAt counts) := by
  unfold insertReport
  cases absent : store.purgeRecords.find? workspaceId with
  | some _ => exact RecordsGrow.refl store
  | none =>
    intro other record found
    refine ⟨record, ?_, Grows.refl record⟩
    simp only [Table.find?_insert]
    rw [found]
    rfl

section Effects

variable {settings : PurgeSettings} {thread : Nat} {before after : PurgeStore}

theorem Effect.grows (effect : Effect settings thread before after) : RecordsGrow before after := by
  induction effect with
  | wrote store workspaceId guard set keeps held grows sound => exact recordsGrow_updateRecord grows
  | reported store workspaceId deletedAt counts census => exact recordsGrow_insertReport
  | restored store next workspaceId held committed =>
    obtain ⟨-, -, rfl⟩ := restoreTransaction_some committed
    exact RecordsGrow.refl store
  | both early late earlier later => exact earlier.trans later
  | _ => exact RecordsGrow.refl _

theorem Tolerates.refl (settings : PurgeSettings) (thread : Nat) (store : PurgeStore) :
    Tolerates settings thread store store :=
  ⟨fun _ held => held, fun _ stamped => stamped, fun _ _ _ emptied => emptied, fun _ _ _ found _ => found,
    fun _ _ deleted => deleted, fun _ _ _ _ _ listed => listed⟩

theorem Tolerates.trans {first second third : PurgeStore} (early : Tolerates settings thread first second)
    (late : Tolerates settings thread second third) : Tolerates settings thread first third where
  locks key held := late.locks key (early.locks key held)
  begun workspaceId stamped := late.begun workspaceId (early.begun workspaceId stamped)
  emptied workspaceId table stamped emptied :=
    late.emptied workspaceId table (early.begun workspaceId stamped) (early.emptied workspaceId table stamped emptied)
  records workspaceId record held found active :=
    late.records workspaceId record (early.locks _ held) (early.records workspaceId record held found active) active
  deleted workspaceId held deleted :=
    late.deleted workspaceId (early.locks _ held) (early.deleted workspaceId held deleted)
  history workspaceId held tick table row listed :=
    early.history workspaceId held tick table row
      (late.history workspaceId (early.locks _ held) tick table row listed)

theorem tolerates_noted {store : PurgeStore} {event : PurgeEvent}
    (harmless : ∀ tick workspaceId table row, event ≠ .destroyed tick workspaceId table row) :
    Tolerates settings thread store { store with history := event :: store.history } where
  locks _ held := held
  begun _ stamped := stamped
  emptied _ _ _ emptied := emptied
  records _ _ _ found _ := found
  deleted _ _ deleted := deleted
  history workspaceId _ tick table row listed := by
    rcases List.mem_cons.mp listed with same | earlier
    · exact absurd same.symm (harmless tick workspaceId table row)
    · exact earlier

theorem tolerates_locks {store : PurgeStore} {locks : Int → Option Nat}
    (kept : ∀ key, store.locks key = some thread → locks key = some thread) :
    Tolerates settings thread store { store with locks := locks } where
  locks := kept
  begun _ stamped := stamped
  emptied _ _ _ emptied := emptied
  records _ _ _ found _ := found
  deleted _ _ deleted := deleted
  history _ _ _ _ _ listed := listed

theorem Holds.unique {store : PurgeStore} {other : Nat} {workspaceId : WorkspaceId}
    (held : Holds settings store thread workspaceId) (also : Holds settings store other workspaceId) :
    other = thread :=
  Option.some.inj (also.symm.trans held)

theorem Effect.tolerated (effect : Effect settings thread before after) {other : Nat} (differs : other ≠ thread) :
    Tolerates settings other before after := by
  induction effect with
  | unchanged store => exact Tolerates.refl settings other store
  | started | selected | returned store workspaceId clean =>
    apply tolerates_noted
    intro tick workspaceId table row same
    cases same
  | locked store key free =>
    apply tolerates_locks
    intro wanted held
    have distinct : wanted ≠ key := by
      intro same
      rw [same, free] at held
      cases held
    rw [Function.update_of_ne distinct]
    exact held
  | unlocked store key held =>
    apply tolerates_locks
    intro wanted mine
    have distinct : wanted ≠ key := by
      intro same
      rw [same, held] at mine
      exact differs (Option.some.inj mine).symm
    rw [Function.update_of_ne distinct]
    exact mine
  | dropped store =>
    apply tolerates_locks
    intro wanted mine
    have distinct : store.locks wanted ≠ some thread := by
      intro same
      exact differs (Option.some.inj (mine.symm.trans same))
    rw [if_neg distinct]
    exact mine
  | wrote store workspaceId guard set keeps held grows sound =>
    -- the writer holds the lock, so the record is no other thread's
    exact
      { locks := fun _ mine => mine
        begun := fun _ stamped => (recordsGrow_updateRecord grows).begun stamped
        emptied := fun _ _ _ emptied => emptied
        records := by
          intro wanted record mine found _
          have apart : wanted ≠ workspaceId := by
            intro same
            subst same
            exact differs (held.unique mine)
          rw [find?_updateRecord_other apart]
          exact found
        deleted := fun _ _ deleted => deleted
        history := fun _ _ _ _ _ listed => listed }
  | destroyed store workspaceId table chosen left removed held begins owned destroys recorded deleted =>
    exact
      { locks := fun _ mine => mine
        begun := fun _ stamped => stamped
        emptied := fun _ _ _ emptied => emptied_left deleted emptied
        records := fun _ _ _ found _ => found
        deleted := fun _ _ deleted => deleted
        history := by
          intro wanted mine tick taken row listed
          rcases List.mem_append.mp listed with fresh | earlier
          · obtain ⟨gone, -, same⟩ := List.mem_map.mp fresh
            injection same with _ sameWorkspace
            subst sameWorkspace
            exact absurd (held.unique mine) differs
          · exact earlier }
  | tombstoned store workspaceId =>
    exact
      { locks := fun _ mine => mine
        begun := fun _ stamped => stamped
        emptied := fun _ _ _ emptied => emptied
        records := fun _ _ _ found _ => found
        deleted := by
          intro wanted _ deleted
          rw [deletedAt_tombstone]
          exact deleted
        history := fun _ _ _ _ _ listed => listed }
  | reported store workspaceId deletedAt counts census =>
    -- `ON CONFLICT DO NOTHING`: a record that is there stays
    unfold insertReport
    cases absent : store.purgeRecords.find? workspaceId with
    | some _ => exact Tolerates.refl settings other store
    | none =>
      have grown : RecordsGrow store (insertReport settings store thread workspaceId deletedAt counts) :=
        recordsGrow_insertReport
      simp only [insertReport, absent] at grown
      exact
        { locks := fun _ mine => mine
          begun := fun _ stamped => grown.begun stamped
          emptied := fun _ _ _ emptied => emptied
          records := by
            intro wanted record _ found _
            simp only [Table.find?_insert]
            rw [found]
            rfl
          deleted := fun _ _ deleted => deleted
          history := by
            intro wanted _ tick table row listed
            rcases List.mem_cons.mp listed with same | earlier
            · cases same
            · exact earlier }
  | restored store next workspaceId held committed =>
    obtain ⟨-, -, rfl⟩ := restoreTransaction_some committed
    exact
      { locks := fun _ mine => mine
        begun := fun _ stamped => stamped
        emptied := fun _ _ _ emptied => emptied
        records := fun _ _ _ found _ => found
        deleted := by
          intro wanted mine deleted
          have apart : wanted ≠ workspaceId := by
            intro same
            subst same
            exact differs (held.unique mine)
          rw [readOrganizationDeletedAt, deletedAt_restored apart]
          exact deleted
        history := fun _ _ _ _ _ listed => listed }
  | both early late earlier later => exact earlier.trans later

end Effects

section Sound

variable {settings : PurgeSettings} {thread : Nat} {before after store : PurgeStore}

theorem event_split {fresh history later earlier : List PurgeEvent} {event : PurgeEvent}
    (shape : fresh ++ history = later ++ event :: earlier) :
    (∃ between, history = between ++ event :: earlier) ∨
      ∃ between, fresh = later ++ event :: between ∧ earlier = between ++ history := by
  rcases List.append_eq_append_iff.mp shape with ⟨between, -, rest⟩ | ⟨between, whole, rest⟩
  · exact Or.inl ⟨between, rest⟩
  · cases between with
    | nil => exact Or.inl ⟨[], rest.symm⟩
    | cons first between =>
      injection rest with same tail
      subst same
      exact Or.inr ⟨between, whole, tail⟩

theorem RecordOk.moved {record : PurgeRecord} (ok : RecordOk before record)
    (deleted : record.firstDestructiveBatchAt.isSome → (readOrganizationDeletedAt before record.workspaceId).isSome →
      (readOrganizationDeletedAt after record.workspaceId).isSome)
    (emptied : ∀ table, record.firstDestructiveBatchAt.isSome → Emptied before.rows table record.workspaceId →
      Emptied after.rows table record.workspaceId) : RecordOk after record where
  reported := ok.reported
  deleted stamped := deleted stamped (ok.deleted stamped)
  steps := by
    intro step done
    obtain ⟨stamped, was⟩ := ok.steps step done
    refine ⟨stamped, ?_⟩
    cases step with
    | table table => exact emptied (.purged table) stamped was
    | auth =>
      intro auth
      exact emptied (.auth auth) stamped (was auth)
  complete := ok.complete
  census := ok.census

theorem historyOk_noted {event : PurgeEvent} (ok : HistoryOk store)
    (harmless : ∀ tick workspaceId table row, event ≠ .destroyed tick workspaceId table row)
    (clean : ∀ workspaceId, event = .restored workspaceId →
      ∀ tick table row, .destroyed tick workspaceId table row ∉ store.history) :
    HistoryOk { store with history := event :: store.history } where
  destroyed := by
    intro tick workspaceId table row listed
    rcases List.mem_cons.mp listed with same | earlier
    · exact absurd same.symm (harmless tick workspaceId table row)
    · exact ok.destroyed tick workspaceId table row earlier
  restored := by
    intro later earlier workspaceId shape
    rcases event_split (show [event] ++ store.history = _ from shape) with ⟨between, old⟩ | ⟨between, whole, rfl⟩
    · exact ok.restored between earlier workspaceId old
    · -- the event itself is the restore, so all of the old history is before it
      obtain ⟨rfl, singleton⟩ : later = [] ∧ [event] = .restored workspaceId :: between := by
        cases later with
        | nil => exact ⟨rfl, whole⟩
        | cons first rest => simp at whole
      injection singleton with same none
      subst none
      exact clean workspaceId same

theorem HistoryOk.grown (ok : HistoryOk before) (grows : RecordsGrow before after)
    (same : after.history = before.history) : HistoryOk after where
  destroyed := by
    intro tick workspaceId table row listed
    rw [same] at listed
    obtain ⟨stamped, named, destroys, recorded⟩ := ok.destroyed tick workspaceId table row listed
    exact ⟨grows.begun stamped, named, destroys, fun auth is => grows.counted (recorded auth is)⟩
  restored := by
    intro later earlier workspaceId shape
    rw [same] at shape
    exact ok.restored later earlier workspaceId shape

theorem historyOk_destroyed {workspaceId : WorkspaceId} {table : StoredTable} {chosen : Row → Bool} {left : Rows}
    {removed : List (StoredTable × Row)} (ok : HistoryOk store) (within : WithinWorkspaces store.rows)
    (begins : begun store workspaceId = true) (owned : ∀ row, chosen row = true → row.workspaceId = workspaceId)
    (destroys : table.isEvidence = false) (recorded : ∀ auth, table = .auth auth → counted store workspaceId table = true)
    (deleted : deleteRows store.rows table chosen = some (left, removed)) :
    HistoryOk (logDestroyed store thread workspaceId left removed) where
  destroyed := by
    intro tick wanted other row listed
    rcases List.mem_append.mp listed with fresh | earlier
    · obtain ⟨gone, taken, same⟩ := List.mem_map.mp fresh
      injection same with _ sameWorkspace sameTable sameRow
      subst sameWorkspace sameTable sameRow
      obtain ⟨named, spared⟩ := removed_owned within owned destroys deleted taken
      refine ⟨begins, named, spared, ?_⟩
      intro auth is
      have picked := ((mem_removed deleted).mp taken).2
      rw [is] at picked
      have only := doomed_auth _ picked
      rw [is, ← only]
      exact recorded auth only
    · exact ok.destroyed tick wanted other row earlier
  restored := by
    intro later earlier wanted shape
    rcases event_split shape with ⟨between, old⟩ | ⟨between, whole, -⟩
    · exact ok.restored between earlier wanted old
    · -- no deletion is a restore
      have listed : .restored wanted ∈ removed.map fun gone =>
          PurgeEvent.destroyed thread workspaceId gone.1 gone.2 := by
        rw [whole]
        simp
      obtain ⟨gone, -, same⟩ := List.mem_map.mp listed
      cases same

theorem storeOk_noted {event : PurgeEvent} (ok : StoreOk store)
    (harmless : ∀ tick workspaceId table row, event ≠ .destroyed tick workspaceId table row)
    (clean : ∀ workspaceId, event = .restored workspaceId →
      ∀ tick table row, .destroyed tick workspaceId table row ∉ store.history) :
    StoreOk { store with history := event :: store.history } where
  records workspaceId record found :=
    (ok.records workspaceId record found).moved (fun _ deleted => deleted) (fun _ _ emptied => emptied)
  history := historyOk_noted ok.history harmless clean
  within := ok.within

theorem storeOk_locks {locks : Int → Option Nat} (ok : StoreOk store) : StoreOk { store with locks := locks } where
  records workspaceId record found :=
    (ok.records workspaceId record found).moved (fun _ deleted => deleted) (fun _ _ emptied => emptied)
  history := ok.history.grown (RecordsGrow.refl store) rfl
  within := ok.within

theorem recordOk_of_report {workspaceId : WorkspaceId} {deletedAt : Timestamp} {counts : TableCounts}
    (census : ∀ table, (counts.lookup (.purged table)).isSome) :
    RecordOk store (reportedRecord settings store workspaceId deletedAt counts) where
  reported := by
    intro pending
    cases pending
  deleted := by
    intro stamped
    cases stamped
  steps := by
    intro step done
    cases done
  complete := by
    intro complete
    cases complete
  census := census

theorem Effect.ok (effect : Effect settings thread before after) (ok : StoreOk before) : StoreOk after := by
  induction effect with
  | unchanged store => exact ok
  | started | selected =>
    apply storeOk_noted ok
    · intro tick workspaceId table row same
      cases same
    · intro workspaceId same
      cases same
  | returned store workspaceId clean =>
    apply storeOk_noted ok
    · intro tick wanted table row same
      cases same
    · intro wanted same
      cases same
      exact clean
  | locked | unlocked | dropped => exact storeOk_locks ok
  | wrote store workspaceId guard set keeps held grows sound =>
    constructor
    · intro wanted record found
      by_cases same : wanted = workspaceId
      · -- the guard decides whether the statement writes the record or finds no row
        subst same
        obtain ⟨old, stored, -⟩ := Option.map_eq_some_iff.mp (find?_updateRecord.symm.trans found)
        have right := ok.records wanted old stored
        rw [find?_updateRecord_self stored] at found
        cases found
        cases chosen : guard old with
        | true =>
          exact (sound old stored right chosen).moved (fun _ deleted => deleted) (fun _ _ emptied => emptied)
        | false => exact right.moved (fun _ deleted => deleted) (fun _ _ emptied => emptied)
      · rw [find?_updateRecord_other same] at found
        exact (ok.records wanted record found).moved (fun _ deleted => deleted) (fun _ _ emptied => emptied)
    · exact ok.history.grown (recordsGrow_updateRecord grows) rfl
    · exact ok.within
  | destroyed store workspaceId table chosen left removed held begins owned destroys recorded deleted =>
    constructor
    · intro wanted record found
      apply (ok.records wanted record found).moved
      · intro _ deleted
        exact deleted
      · intro other _ emptied
        exact emptied_left deleted emptied
    · exact historyOk_destroyed ok.history ok.within begins owned destroys recorded deleted
    · exact withinWorkspaces_left ok.within deleted
  | tombstoned store workspaceId =>
    constructor
    · intro wanted record found
      apply (ok.records wanted record found).moved
      · intro _ deleted
        rw [deletedAt_tombstone]
        exact deleted
      · intro other _ emptied
        exact emptied
    · exact ok.history.grown (RecordsGrow.refl store) rfl
    · exact ok.within
  | reported store workspaceId deletedAt counts census =>
    unfold insertReport
    cases absent : store.purgeRecords.find? workspaceId with
    | some _ => exact ok
    | none =>
      have grown : RecordsGrow store (insertReport settings store thread workspaceId deletedAt counts) :=
        recordsGrow_insertReport
      simp only [insertReport, absent] at grown
      constructor
      · intro wanted record found
        simp only [Table.find?_insert] at found
        have right : RecordOk store record := by
          cases old : store.purgeRecords.find? wanted with
          | some stored =>
            rw [old] at found
            cases found
            exact ok.records wanted record old
          | none =>
            rw [old, Option.none_or] at found
            split at found
            · cases found
              exact recordOk_of_report census
            · cases found
        exact right.moved (fun _ deleted => deleted) (fun _ _ emptied => emptied)
      · have noted : HistoryOk { store with history := .reported thread workspaceId :: store.history } := by
          apply historyOk_noted ok.history
          · intro tick wanted table row same
            cases same
          · intro wanted same
            cases same
        exact noted.grown grown rfl
      · exact ok.within
  | restored store next workspaceId held committed =>
    obtain ⟨fresh, -, rfl⟩ := restoreTransaction_some committed
    constructor
    · intro wanted record found
      apply (ok.records wanted record found).moved
      · intro stamped deleted
        -- only a workspace whose destruction never began is restored
        have apart : record.workspaceId ≠ workspaceId := by
          intro same
          have begins : begun store workspaceId = true := by
            apply begun_iff.mpr
            refine ⟨record, ?_, stamped⟩
            rw [← same, Table.key_of_find? found]
            exact found
          rw [fresh] at begins
          cases begins
        rw [readOrganizationDeletedAt, deletedAt_restored apart]
        exact deleted
      · intro other _ emptied
        exact emptied
    · exact ok.history.grown (RecordsGrow.refl store) rfl
    · exact ok.within
  | both early late earlier later => exact later (earlier ok)

end Sound

end LocalCrm.Purge
