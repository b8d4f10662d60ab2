import LocalCrm.Partitions.Catalog

/-! Dropping partitions that have grown too old, and the record of what was dropped.

A partition is detached and dropped in a transaction of its own.
-/

set_option autoImplicit false

namespace LocalCrm.Partitions

open Library

def partitionRetentionMonths : Nat := 12

def retentionEligibleTables : List PartitionedTableConfig := partitionedTableConfigs

def retentionExcludedTables : List String :=
  ["sends", "workspace_daily_rollup", "subscription_status_history", "erasure_records", "workspace_suppressions"]

structure ExpiredPartitionInfo where
  parentTable : String
  partitionName : String
  rangeStart : Timestamp
  rangeEnd : Timestamp
  deriving DecidableEq, Repr

structure PartitionDropRecord where
  parentTable : String
  partitionName : String
  rangeStart : Timestamp
  rangeEnd : Timestamp
  horizonMonths : Nat
  droppedAt : Timestamp
  deriving DecidableEq, Repr

section Eligibility

/-- The range partitions of a table, by the catalog's inheritance and not by name; the default one is left out. -/
def partitionsOf (catalog : Catalog) (parentTable : String) : List (String × PartitionBound) :=
  catalog.rows.filterMap fun relation =>
    match relation.attachment with
    | none => none
    | some attachment =>
      if attachment.parent = parentTable ∧ attachment.bound ≠ .default then some (relation.relname, attachment.bound)
      else none

def readPartition (parentTable : String) (entry : String × PartitionBound) :
    Except RetentionError ExpiredPartitionInfo := do
  let (rangeStart, rangeEnd) ← parsePartitionBoundExpression (pgGetExpr entry.2)
  return { parentTable, partitionName := entry.1, rangeStart, rangeEnd }

def expiredOf (catalog : Catalog) (horizonBoundary : Timestamp) (table : PartitionedTableConfig) :
    Except RetentionError (List ExpiredPartitionInfo) :=
  if retentionExcludedTables.contains table.parentTable then .error (.excludedTable table.parentTable)
  else
    ((partitionsOf catalog table.parentTable).mapM (readPartition table.parentTable)).map
      (·.filter fun partition => decide (partition.rangeEnd ≤ horizonBoundary))

def findExpiredPartitions (catalog : Catalog) (tables : List PartitionedTableConfig) (now : Timestamp)
    (retentionMonths : Nat) : Except RetentionError (List ExpiredPartitionInfo) :=
  (tables.mapM (expiredOf catalog (monthStartUtc now (-retentionMonths)))).map List.flatten

end Eligibility

section Dropping

/-- How a drop can fail: undone, or done without the caller learning of it. -/
inductive DropFault where
  | refused (message : String)
  | unacknowledged (message : String)
  deriving DecidableEq, Repr

/-- What goes wrong around a run, by partition. -/
structure Faults where
  drop : String → Option DropFault := fun _ => none
  record : String → Option String := fun _ => none

inductive DropOutcome where
  | dropped
  | refused (failure : RetentionError)
  | unacknowledged (failure : RetentionError)
  deriving DecidableEq, Repr

/-- `/^[a-z_][a-z0-9_]*$/`. -/
def safeIdentifier (identifier : String) : Bool :=
  match identifier.toList with
  | [] => false
  | first :: rest =>
    (first.isLower || first == '_') && rest.all fun char => char.isLower || char.isDigit || char == '_'

def dropOutcome (faults : Faults) (partition : ExpiredPartitionInfo) : DropOutcome :=
  if !safeIdentifier partition.parentTable then .refused (.unsafeIdentifier partition.parentTable "parentTable")
  else if !safeIdentifier partition.partitionName then
    .refused (.unsafeIdentifier partition.partitionName "partitionName")
  else
    match faults.drop partition.partitionName with
    | none => .dropped
    | some (.refused message) => .refused (.database message)
    | some (.unacknowledged message) => .unacknowledged (.database message)

def dropRecord (retentionMonths : Nat) (now : Timestamp) (partition : ExpiredPartitionInfo) : PartitionDropRecord where
  parentTable := partition.parentTable
  partitionName := partition.partitionName
  rangeStart := partition.rangeStart
  rangeEnd := partition.rangeEnd
  horizonMonths := retentionMonths
  droppedAt := now

/-- One transaction for each; the first error ends the loop, and with it the list of what was dropped. -/
def dropEach (faults : Faults) (retentionMonths : Nat) (now : Timestamp) (catalog : Catalog)
    (drops : List PartitionDropRecord) :
    List ExpiredPartitionInfo → Catalog × Except RetentionError (List PartitionDropRecord)
  | [] => (catalog, .ok drops)
  | partition :: rest =>
    match dropOutcome faults partition with
    | .refused failure => (catalog, .error failure)
    | .unacknowledged failure => (catalog.erase partition.partitionName, .error failure)
    | .dropped =>
      dropEach faults retentionMonths now (catalog.erase partition.partitionName)
        (drops ++ [dropRecord retentionMonths now partition]) rest

def dropExpiredPartitions (faults : Faults) (catalog : Catalog) (tables : List PartitionedTableConfig) (now : Timestamp)
    (retentionMonths : Nat) : Catalog × Except RetentionError (List PartitionDropRecord) :=
  match findExpiredPartitions catalog tables now retentionMonths with
  | .error failure => (catalog, .error failure)
  | .ok expired => dropEach faults retentionMonths now catalog [] expired

/-- One `INSERT` for each drop, each committed as it is. -/
def recordPartitionDrops (faults : Faults) (rows : List PartitionDropRecord) :
    List PartitionDropRecord → List PartitionDropRecord × Except RetentionError Unit
  | [] => (rows, .ok ())
  | drop :: rest =>
    match faults.record drop.partitionName with
    | some message => (rows, .error (.database message))
    | none => recordPartitionDrops faults (rows ++ [drop]) rest

end Dropping

section Run

inductive RetentionRunStatus where
  | disabled
  | ok
  | failed
  deriving DecidableEq, Repr

structure PartitionEnsureResult where
  table : String
  created : List String
  bufferMonths : Int
  deriving DecidableEq, Repr

structure MaintenanceRunSnapshot where
  lastRunAt : Timestamp
  lookaheadMonths : Nat
  bufferAlertThresholdMonths : Nat
  eventsBufferMonths : Int
  sendEventsBufferMonths : Int
  bufferMonthsRemaining : Int
  eventsDefaultCount : Nat
  sendEventsDefaultCount : Nat
  partitionsCreated : List String
  retentionStatus : RetentionRunStatus
  retentionError : Option String
  partitionsDropped : List String
  deriving DecidableEq, Repr

structure MaintenanceDb where
  catalog : Catalog
  partitionRetentionDrops : List PartitionDropRecord := []
  latestRun : Option MaintenanceRunSnapshot := none

structure RunPartitionMaintenanceOptions where
  lookaheadMonths : Nat
  bufferAlertThresholdMonths : Nat
  retentionEnabled : Bool

/-- What the steps of a run around its retention end with: the creation of partitions, and the health row. -/
structure RunSurroundings where
  ensured : Except String (List PartitionEnsureResult)
  health : Option String := none
  faults : Faults := {}

def countDefaultRows (catalog : Catalog) (tables : List PartitionedTableConfig) : Except String (List (String × Nat)) :=
  tables.mapM fun table =>
    match catalog.find? table.defaultPartition with
    | none => .error ("relation \"" ++ table.defaultPartition ++ "\" does not exist")
    | some relation => .ok (table.parentTable, relation.occurredAt.length)

structure RetentionReport where
  status : RetentionRunStatus
  error : Option String := none
  dropped : List String := []
  deriving DecidableEq, Repr

/-- The step in its own `try`: whatever is thrown in it is noted and does not end the run. -/
def retentionStep (faults : Faults) (enabled : Bool) (now : Timestamp) (db : MaintenanceDb) :
    MaintenanceDb × RetentionReport :=
  if !enabled then (db, { status := .disabled })
  else
    let (catalog, result) :=
      dropExpiredPartitions faults db.catalog retentionEligibleTables now partitionRetentionMonths
    match result with
    | .error failure => ({ db with catalog }, { status := .failed, error := failure.message })
    | .ok drops =>
      let (partitionRetentionDrops, recorded) := recordPartitionDrops faults db.partitionRetentionDrops drops
      match recorded with
      | .error failure =>
        ({ db with catalog, partitionRetentionDrops }, { status := .failed, error := failure.message })
      | .ok _ =>
        ({ db with catalog, partitionRetentionDrops }, { status := .ok, dropped := drops.map (·.partitionName) })

def beforeRetention (surroundings : RunSurroundings) (catalog : Catalog) :
    Except String (PartitionEnsureResult × PartitionEnsureResult × List (String × Nat)) := do
  let results ← surroundings.ensured
  match results.find? (·.table == "events"), results.find? (·.table == "send_events") with
  | some events, some sendEvents => return (events, sendEvents, ← countDefaultRows catalog partitionedTableConfigs)
  | _, _ => throw "runPartitionMaintenance expects PARTITIONED_TABLES to include both 'events' and 'send_events'"

def runPartitionMaintenance (surroundings : RunSurroundings) (options : RunPartitionMaintenanceOptions)
    (now : Timestamp) (db : MaintenanceDb) : MaintenanceDb × Except String MaintenanceRunSnapshot :=
  match beforeRetention surroundings db.catalog with
  | .error message => (db, .error message)
  | .ok (events, sendEvents, counts) =>
    let (after, report) := retentionStep surroundings.faults options.retentionEnabled now db
    let snapshot : MaintenanceRunSnapshot :=
      { lastRunAt := now
        lookaheadMonths := options.lookaheadMonths
        bufferAlertThresholdMonths := options.bufferAlertThresholdMonths
        eventsBufferMonths := events.bufferMonths
        sendEventsBufferMonths := sendEvents.bufferMonths
        bufferMonthsRemaining := min events.bufferMonths sendEvents.bufferMonths
        eventsDefaultCount := (counts.lookup "events").getD 0
        sendEventsDefaultCount := (counts.lookup "send_events").getD 0
        partitionsCreated := events.created ++ sendEvents.created
        retentionStatus := report.status
        retentionError := report.error
        partitionsDropped := report.dropped }
    match surroundings.health with
    | some message => (after, .error message)
    | none => ({ after with latestRun := some snapshot }, .ok snapshot)

end Run

section Found

variable {catalog : Catalog} {tables : List PartitionedTableConfig} {now : Timestamp} {retentionMonths : Nat}
  {expired : List ExpiredPartitionInfo} {partition : ExpiredPartitionInfo}

theorem mem_partitionsOf {parentTable relname : String} {bound : PartitionBound}
    (member : (relname, bound) ∈ partitionsOf catalog parentTable) :
    ∃ relation ∈ catalog.rows, relation.relname = relname ∧ relation.attachment = some ⟨parentTable, bound⟩ ∧
      bound ≠ .default := by
  obtain ⟨relation, stored, chosen⟩ := List.mem_filterMap.mp member
  cases attached : relation.attachment with
  | none =>
    rw [attached] at chosen
    cases chosen
  | some attachment =>
    rw [attached] at chosen
    dsimp only at chosen
    split at chosen
    · next fits =>
      cases chosen
      refine ⟨relation, stored, rfl, ?_, fits.2⟩
      rw [attached, ← fits.1]
    · cases chosen

theorem mem_of_mapM {Item Failure Result : Type} {act : Item → Except Failure Result} {items : List Item}
    {results : List Result} (done : items.mapM act = .ok results) {result : Result} (member : result ∈ results) :
    ∃ item ∈ items, act item = .ok result := by
  induction items generalizing results with
  | nil =>
    cases done
    cases member
  | cons item rest ih =>
    rw [List.mapM_cons] at done
    cases first : act item with
    | error failure =>
      rw [first] at done
      cases done
    | ok value =>
      cases remaining : rest.mapM act with
      | error failure =>
        rw [first, remaining] at done
        cases done
      | ok values =>
        rw [first, remaining] at done
        cases done
        rcases List.mem_cons.mp member with rfl | later
        · exact ⟨item, List.mem_cons_self, first⟩
        · obtain ⟨other, inside, acted⟩ := ih remaining later
          exact ⟨other, List.mem_cons_of_mem _ inside, acted⟩

theorem map_ok {Failure Value Result : Type} {change : Value → Result} {outcome : Except Failure Value}
    {result : Result} (done : outcome.map change = .ok result) :
    ∃ value, outcome = .ok value ∧ change value = result := by
  cases outcome with
  | error failure => cases done
  | ok value =>
    cases done
    exact ⟨value, rfl, rfl⟩

theorem findExpiredPartitions_sound (found : findExpiredPartitions catalog tables now retentionMonths = .ok expired)
    (member : partition ∈ expired) :
    ∃ table ∈ tables, table.parentTable ∉ retentionExcludedTables ∧ ∃ relation ∈ catalog.rows,
      relation.relname = partition.partitionName ∧ ∃ lower upper,
        relation.attachment = some ⟨table.parentTable, .range (.moment lower) (.moment upper)⟩ ∧
        upper ≤ momentOf (monthStartUtc now (-retentionMonths)) := by
  obtain ⟨lists, collected, rfl⟩ := map_ok found
  obtain ⟨list, listed, inside⟩ := List.mem_flatten.mp member
  obtain ⟨table, managed, searched⟩ := mem_of_mapM collected listed
  unfold expiredOf at searched
  split at searched
  · cases searched
  · next allowed =>
    obtain ⟨read, parsedAll, rfl⟩ := map_ok searched
    obtain ⟨readMember, old⟩ := List.mem_filter.mp inside
    obtain ⟨entry, listedEntry, parsed⟩ := mem_of_mapM parsedAll readMember
    obtain ⟨relation, stored, named, attached, _⟩ := mem_partitionsOf listedEntry
    refine ⟨table, managed, by simpa using allowed, relation, stored, ?_⟩
    unfold readPartition at parsed
    cases bounds : parsePartitionBoundExpression (pgGetExpr entry.2) with
    | error failure =>
      rw [bounds] at parsed
      cases parsed
    | ok range =>
      rw [bounds] at parsed
      cases parsed
      obtain ⟨lower, upper, same, ends, _⟩ := parse_bound bounds
      refine ⟨named, lower, upper, by rw [attached, same], ends.trans ?_⟩
      exact Int.mul_le_mul_of_nonneg_right (of_decide_eq_true old) (by decide)

end Found

section Outcome

variable {faults : Faults} {retentionMonths : Nat} {now : Timestamp}

def goneOf (faults : Faults) : List ExpiredPartitionInfo → List ExpiredPartitionInfo
  | [] => []
  | partition :: rest =>
    match dropOutcome faults partition with
    | .dropped => partition :: goneOf faults rest
    | .unacknowledged _ => [partition]
    | .refused _ => []

def eraseAll (catalog : Catalog) (gone : List ExpiredPartitionInfo) : Catalog :=
  gone.foldl (fun catalog partition => catalog.erase partition.partitionName) catalog

theorem mem_eraseAll {catalog : Catalog} {gone : List ExpiredPartitionInfo} {relation : Relation} :
    relation ∈ (eraseAll catalog gone).rows ↔
      relation ∈ catalog.rows ∧ ∀ partition ∈ gone, partition.partitionName ≠ relation.relname := by
  induction gone generalizing catalog with
  | nil => simp [eraseAll]
  | cons partition rest ih =>
    have erased : relation ∈ (catalog.erase partition.partitionName).rows ↔
        relation ∈ catalog.rows ∧ partition.partitionName ≠ relation.relname := by
      simp only [Table.erase, Table.delete, List.mem_filter, Bool.not_eq_true', decide_eq_false_iff_not]
      exact and_congr_right fun _ => ne_comm
    show relation ∈ (eraseAll (catalog.erase partition.partitionName) rest).rows ↔ _
    rw [ih, erased, List.forall_mem_cons, and_assoc]

theorem dropEach_catalog (catalog : Catalog) (drops : List PartitionDropRecord) (expired : List ExpiredPartitionInfo) :
    (dropEach faults retentionMonths now catalog drops expired).1 = eraseAll catalog (goneOf faults expired) := by
  induction expired generalizing catalog drops with
  | nil => rfl
  | cons partition rest ih =>
    unfold dropEach goneOf
    cases dropOutcome faults partition with
    | dropped => exact ih _ _
    | refused | unacknowledged => rfl

theorem dropEach_ok_iff {catalog : Catalog} {drops result : List PartitionDropRecord}
    {expired : List ExpiredPartitionInfo} :
    (dropEach faults retentionMonths now catalog drops expired).2 = .ok result ↔
      (∀ partition ∈ expired, dropOutcome faults partition = .dropped) ∧
        result = drops ++ expired.map (dropRecord retentionMonths now) := by
  induction expired generalizing catalog drops with
  | nil => simp [dropEach, eq_comm]
  | cons partition rest ih =>
    unfold dropEach
    cases outcome : dropOutcome faults partition with
    | dropped => simp [ih, outcome]
    | refused | unacknowledged => simp [outcome]

theorem goneOf_all {expired : List ExpiredPartitionInfo}
    (all : ∀ partition ∈ expired, dropOutcome faults partition = .dropped) : goneOf faults expired = expired := by
  induction expired with
  | nil => rfl
  | cons partition rest ih =>
    obtain ⟨here, later⟩ := List.forall_mem_cons.mp all
    unfold goneOf
    rw [here]
    exact congrArg _ (ih later)

theorem goneOf_nil_iff {expired : List ExpiredPartitionInfo} :
    goneOf faults expired = [] ↔
      expired = [] ∨ ∃ first rest failure, expired = first :: rest ∧ dropOutcome faults first = .refused failure := by
  cases expired with
  | nil => simp [goneOf]
  | cons partition rest =>
    unfold goneOf
    cases outcome : dropOutcome faults partition <;> simp [outcome]

theorem goneOf_subset {expired : List ExpiredPartitionInfo} : goneOf faults expired ⊆ expired := by
  induction expired with
  | nil => exact List.Subset.refl _
  | cons partition rest ih =>
    unfold goneOf
    cases dropOutcome faults partition with
    | dropped => exact List.cons_subset_cons _ ih
    | refused failure => exact List.nil_subset _
    | unacknowledged failure => simp

theorem recordPartitionDrops_rows (rows drops : List PartitionDropRecord) :
    (recordPartitionDrops faults rows drops).1 =
      rows ++ drops.takeWhile fun drop => (faults.record drop.partitionName).isNone := by
  induction drops generalizing rows with
  | nil => simp [recordPartitionDrops]
  | cons drop rest ih =>
    unfold recordPartitionDrops
    cases faulty : faults.record drop.partitionName with
    | some message => simp [faulty]
    | none => simp [faulty, ih]

theorem retentionStep_tables {db : MaintenanceDb} {expired : List ExpiredPartitionInfo}
    (found : findExpiredPartitions db.catalog retentionEligibleTables now partitionRetentionMonths = .ok expired) :
    (retentionStep faults true now db).1.catalog = eraseAll db.catalog (goneOf faults expired) ∧
      ∃ written, (retentionStep faults true now db).1.partitionRetentionDrops = db.partitionRetentionDrops ++ written ∧
        ((∀ partition ∈ expired, dropOutcome faults partition = .dropped) →
          written = (expired.map (dropRecord partitionRetentionMonths now)).takeWhile
            fun drop => (faults.record drop.partitionName).isNone) ∧
        ((¬ ∀ partition ∈ expired, dropOutcome faults partition = .dropped) → written = []) := by
  have dropped : dropExpiredPartitions faults db.catalog retentionEligibleTables now partitionRetentionMonths =
      dropEach faults partitionRetentionMonths now db.catalog [] expired := by
    unfold dropExpiredPartitions
    rw [found]
  have catalog := @dropEach_catalog faults partitionRetentionMonths now db.catalog [] expired
  have listed : ∀ result, (dropEach faults partitionRetentionMonths now db.catalog [] expired).2 = .ok result ↔ _ :=
    fun result => dropEach_ok_iff
  unfold retentionStep
  rw [dropped]
  generalize dropEach faults partitionRetentionMonths now db.catalog [] expired = looped at *
  obtain ⟨left, result⟩ := looped
  subst catalog
  cases result with
  | error failure =>
    refine ⟨rfl, [], (List.append_nil _).symm, ?_, fun _ => rfl⟩
    intro all
    cases (listed _).mpr ⟨all, rfl⟩
  | ok drops =>
    obtain ⟨all, same⟩ := (listed drops).mp rfl
    have rows := @recordPartitionDrops_rows faults db.partitionRetentionDrops drops
    subst same
    simp only [Bool.not_true, Bool.false_eq_true, if_false]
    generalize recordPartitionDrops faults db.partitionRetentionDrops _ = wrote at *
    obtain ⟨after, recorded⟩ := wrote
    subst rows
    cases recorded with
    | error | ok => exact ⟨rfl, _, rfl, fun _ => rfl, fun some => absurd all some⟩

end Outcome

structure RetentionKept (surroundings : RunSurroundings) (options : RunPartitionMaintenanceOptions) (now : Nat)
    (db : MaintenanceDb) : Prop where
  old : ∀ relation ∈ db.catalog.rows,
    relation ∉ (runPartitionMaintenance surroundings options now db).1.catalog.rows →
      ∃ table ∈ retentionEligibleTables, ∃ lower upper,
        relation.attachment = some ⟨table.parentTable, .range (.moment lower) (.moment upper)⟩ ∧
        upper ≤ momentOf (monthStartUtc now (-partitionRetentionMonths))
  recorded : ∀ relation ∈ db.catalog.rows,
    relation ∉ (runPartitionMaintenance surroundings options now db).1.catalog.rows →
      ∃ row ∈ (runPartitionMaintenance surroundings options now db).1.partitionRetentionDrops.drop
          db.partitionRetentionDrops.length, row.partitionName = relation.relname

/-- No drop and no record of one fails, or the very first drop is refused. -/
def DropsAllOrNothing (faults : Faults) (expired : List ExpiredPartitionInfo) : Prop :=
  (∀ partition ∈ expired, dropOutcome faults partition = .dropped ∧ faults.record partition.partitionName = none) ∨
    ∃ first rest failure, expired = first :: rest ∧ dropOutcome faults first = .refused failure

section Kept

variable {surroundings : RunSurroundings} {options : RunPartitionMaintenanceOptions} {now : Nat} {db : MaintenanceDb}

theorem run_tables {learnt : PartitionEnsureResult × PartitionEnsureResult × List (String × Nat)}
    (reached : beforeRetention surroundings db.catalog = .ok learnt) :
    (runPartitionMaintenance surroundings options now db).1.catalog =
        (retentionStep surroundings.faults options.retentionEnabled now db).1.catalog ∧
      (runPartitionMaintenance surroundings options now db).1.partitionRetentionDrops =
        (retentionStep surroundings.faults options.retentionEnabled now db).1.partitionRetentionDrops := by
  unfold runPartitionMaintenance
  rw [reached]
  dsimp only
  split <;> exact ⟨rfl, rfl⟩

theorem kept_of_unchanged (same : (runPartitionMaintenance surroundings options now db).1.catalog = db.catalog) :
    RetentionKept surroundings options now db := by
  constructor
  · intro relation stored gone
    rw [same] at gone
    exact absurd stored gone
  · intro relation stored gone
    rw [same] at gone
    exact absurd stored gone

variable {expired : List ExpiredPartitionInfo}

theorem relation_of_expired
    (found : findExpiredPartitions db.catalog retentionEligibleTables now partitionRetentionMonths = .ok expired)
    {partition : ExpiredPartitionInfo} (member : partition ∈ expired) :
    ∃ relation ∈ db.catalog.rows, relation.relname = partition.partitionName ∧
      ∃ table ∈ retentionEligibleTables, ∃ lower upper,
        relation.attachment = some ⟨table.parentTable, .range (.moment lower) (.moment upper)⟩ ∧
        upper ≤ momentOf (monthStartUtc now (-partitionRetentionMonths)) := by
  obtain ⟨table, managed, _, relation, stored, named, range⟩ := findExpiredPartitions_sound found member
  exact ⟨relation, stored, named, table, managed, range⟩

theorem kept_iff_written {written : List PartitionDropRecord}
    (found : findExpiredPartitions db.catalog retentionEligibleTables now partitionRetentionMonths = .ok expired)
    (catalog : (runPartitionMaintenance surroundings options now db).1.catalog =
      eraseAll db.catalog (goneOf surroundings.faults expired))
    (rows : (runPartitionMaintenance surroundings options now db).1.partitionRetentionDrops =
      db.partitionRetentionDrops ++ written) :
    RetentionKept surroundings options now db ↔
      ∀ partition ∈ goneOf surroundings.faults expired,
        ∃ row ∈ written, row.partitionName = partition.partitionName := by
  have gone : ∀ relation ∈ db.catalog.rows,
      relation ∉ (runPartitionMaintenance surroundings options now db).1.catalog.rows ↔
        ∃ partition ∈ goneOf surroundings.faults expired, partition.partitionName = relation.relname := by
    intro relation stored
    rw [catalog, mem_eraseAll]
    simp [stored]
  have added : (db.partitionRetentionDrops ++ written).drop db.partitionRetentionDrops.length = written :=
    List.drop_left
  constructor
  · intro kept partition member
    obtain ⟨relation, stored, named, _⟩ := relation_of_expired found (goneOf_subset member)
    have missing := (gone relation stored).mpr ⟨partition, member, named.symm⟩
    obtain ⟨row, recorded, same⟩ := kept.recorded relation stored missing
    rw [rows, added] at recorded
    exact ⟨row, recorded, same.trans named⟩
  · intro covered
    constructor
    · intro relation stored missing
      obtain ⟨partition, member, named⟩ := (gone relation stored).mp missing
      obtain ⟨other, also, sameName, range⟩ := relation_of_expired found (goneOf_subset member)
      have same : relation = other :=
        Table.eq_of_find? (Table.find?_of_mem also) stored (named.symm.trans sameName.symm)
      rw [same]
      exact range
    · intro relation stored missing
      obtain ⟨partition, member, named⟩ := (gone relation stored).mp missing
      obtain ⟨row, recorded, same⟩ := covered partition member
      rw [rows, added]
      exact ⟨row, recorded, same.trans named⟩

theorem written_covers_iff {faults : Faults} {written : List PartitionDropRecord}
    (whole : (∀ partition ∈ expired, dropOutcome faults partition = .dropped) →
      written = (expired.map (dropRecord partitionRetentionMonths now)).takeWhile
        fun drop => (faults.record drop.partitionName).isNone)
    (partial_ : (¬ ∀ partition ∈ expired, dropOutcome faults partition = .dropped) → written = []) :
    (∀ partition ∈ goneOf faults expired, ∃ row ∈ written, row.partitionName = partition.partitionName) ↔
      DropsAllOrNothing faults expired := by
  by_cases all : ∀ partition ∈ expired, dropOutcome faults partition = .dropped
  · rw [goneOf_all all, whole all]
    constructor
    · intro covered
      left
      intro partition member
      obtain ⟨row, recorded, same⟩ := covered partition member
      have unfailing := List.mem_takeWhile_imp recorded
      rw [same, Option.isNone_iff_eq_none] at unfailing
      exact ⟨all partition member, unfailing⟩
    · rintro (clean | ⟨first, rest, failure, rfl, refused⟩)
      · intro partition member
        refine ⟨dropRecord partitionRetentionMonths now partition, ?_, rfl⟩
        rw [List.takeWhile_eq_self_iff.mpr]
        · exact List.mem_map_of_mem member
        · intro drop listed
          obtain ⟨other, inside, rfl⟩ := List.mem_map.mp listed
          exact Option.isNone_iff_eq_none.mpr (clean other inside).2
      · have dropped := all first List.mem_cons_self
        rw [refused] at dropped
        cases dropped
  · rw [partial_ all]
    constructor
    · intro covered
      right
      have nothing : goneOf faults expired = [] := by
        apply List.eq_nil_iff_forall_not_mem.mpr
        intro partition member
        obtain ⟨row, recorded, _⟩ := covered partition member
        cases recorded
      rcases goneOf_nil_iff.mp nothing with rfl | refused
      · exact absurd (fun _ member => by cases member) all
      · exact refused
    · rintro (clean | refused)
      · exact absurd (fun partition member => (clean partition member).1) all
      · rw [goneOf_nil_iff.mpr (.inr refused)]
        intro partition member
        cases member

end Kept

/-- A run keeps its promise except where some drop or record fails after a partition is already gone. -/
theorem retention_kept_iff (surroundings : RunSurroundings) (options : RunPartitionMaintenanceOptions) (now : Nat)
    (db : MaintenanceDb) :
    RetentionKept surroundings options now db ↔
      (options.retentionEnabled = true → (beforeRetention surroundings db.catalog).isOk = true →
        ∀ expired,
          findExpiredPartitions db.catalog retentionEligibleTables now partitionRetentionMonths = .ok expired →
            DropsAllOrNothing surroundings.faults expired) := by
  cases reached : beforeRetention surroundings db.catalog with
  | error message =>
    have same : (runPartitionMaintenance surroundings options now db).1 = db := by
      unfold runPartitionMaintenance
      rw [reached]
    exact iff_of_true (kept_of_unchanged (congrArg MaintenanceDb.catalog same)) fun _ never => by cases never
  | ok learnt =>
    obtain ⟨catalog, rows⟩ := @run_tables surroundings options now db learnt reached
    cases enabled : options.retentionEnabled with
    | false =>
      rw [enabled] at catalog
      exact iff_of_true (kept_of_unchanged catalog) fun never => by cases never
    | true =>
      rw [enabled] at catalog rows
      cases found : findExpiredPartitions db.catalog retentionEligibleTables now partitionRetentionMonths with
      | error failure =>
        have unchanged : (retentionStep surroundings.faults true now db).1.catalog = db.catalog := by
          unfold retentionStep dropExpiredPartitions
          rw [found]
          rfl
        refine iff_of_true (kept_of_unchanged (catalog.trans unchanged)) ?_
        intro _ _ expired never
        cases never
      | ok expired =>
        obtain ⟨left, written, added, whole, partial_⟩ := @retentionStep_tables surroundings.faults now db expired found
        rw [kept_iff_written found (catalog.trans left) (rows.trans added), written_covers_iff whole partial_]
        constructor
        · intro kept _ _ other same
          cases same
          exact kept
        · intro kept
          exact kept rfl rfl expired rfl

def monthOfEvents (relname : String) (start stop : Int) : Relation where
  relname
  attachment := some ⟨"events", .range (.moment start) (.moment stop)⟩

def january : Relation := monthOfEvents "events_2024_01" 1704067200000000 1706745600000000

def oldPartitions : Catalog :=
  ⟨[{ relname := "events_default", attachment := some ⟨"events", .default⟩ }, january,
    monthOfEvents "events_2024_02" 1706745600000000 1709251200000000,
    { relname := "send_events_default", attachment := some ⟨"send_events", .default⟩ }], by decide⟩

def lockedSecond : RunSurroundings where
  ensured := .ok [{ table := "events", created := [], bufferMonths := 3 },
    { table := "send_events", created := [], bufferMonths := 3 }]
  faults := { drop := fun name =>
    if name = "events_2024_02" then some (.refused "canceling statement due to lock timeout") else none }

def dailyTick : RunPartitionMaintenanceOptions where
  lookaheadMonths := 3
  bufferAlertThresholdMonths := 2
  retentionEnabled := true

/-- On 2025-09-03 the first month is dropped, the second is locked, and the run ends without a record of the first. -/
theorem locked_partition_loses_evidence : ¬ ∀ (surroundings : RunSurroundings)
    (options : RunPartitionMaintenanceOptions) (now : Nat) (db : MaintenanceDb),
    RetentionKept surroundings options now db := by
  intro always
  have kept := always lockedSecond dailyTick 1756857600000 { catalog := oldPartitions }
  have stored : january ∈ oldPartitions.rows := by decide
  have gone : january ∉ (runPartitionMaintenance lockedSecond dailyTick (1756857600000 : Nat)
      { catalog := oldPartitions }).1.catalog.rows := by
    decide +kernel
  have unrecorded : (runPartitionMaintenance lockedSecond dailyTick (1756857600000 : Nat)
      { catalog := oldPartitions }).1.partitionRetentionDrops = [] := by
    decide +kernel
  obtain ⟨row, recorded, _⟩ := kept.recorded january stored gone
  cases recorded

end LocalCrm.Partitions
