import LocalCrm.Partitions.Retention
import LocalCrm.Partitions.Relocation

/-! The months ahead that have a partition, whatever ran before.

Creation, relocation and retention run one after the other, and each may stop between two of its statements.
-/

set_option autoImplicit false

namespace LocalCrm.Partitions

open Library

inductive CatalogError where
  | undefinedTable
  | checkViolation
  | alreadyAttached
  | overlap
  | outOfBounds
  deriving DecidableEq, Repr

def BoundDatum.rank : BoundDatum → Nat
  | .minvalue => 0
  | .negInfinity => 1
  | .moment _ => 2
  | .infinity => 3
  | .maxvalue => 4

def BoundDatum.before : BoundDatum → BoundDatum → Bool
  | .moment first, .moment second => decide (first < second)
  | first, second => decide (first.rank < second.rank)

/-- Two ranges with the lower bound included and the upper one not. -/
def PartitionBound.overlaps : PartitionBound → PartitionBound → Bool
  | .range lower upper, .range other above => lower.before above && other.before upper
  | .default, .default => true
  | .default, .range _ _ | .range _ _, .default => false

def rangeOf (start stop : Timestamp) : PartitionBound := .range (.moment (momentOf start)) (.moment (momentOf stop))

def within (start stop time : Timestamp) : Bool := decide (start ≤ time) && decide (time < stop)

/-- `to_regclass`: by the name alone. -/
def partitionExists (catalog : Catalog) (name : String) : Bool := (catalog.find? name).isSome

/-- `CREATE TABLE IF NOT EXISTS`. -/
def createTable (catalog : Catalog) (name : String) : Catalog := catalog.insert { relname := name }

def setAttachment (catalog : Catalog) (name : String) (attachment : Attachment) : Catalog :=
  catalog.update (fun relation => relation.relname == name) fun relation =>
    { relation with attachment := some attachment }

def attachPartition (catalog : Catalog) (table : PartitionedTableConfig) (monthStart monthEnd : Timestamp) :
    Except CatalogError Catalog :=
  let childName := monthPartitionName table.parentTable monthStart
  let created := createTable catalog childName
  match created.find? table.defaultPartition, created.find? childName with
  | some defaultPartition, some child =>
    if defaultPartition.occurredAt.any (within monthStart monthEnd) then .error .checkViolation
    else if child.attachment.isSome then .error .alreadyAttached
    else if created.rows.any fun relation => relation.attachment.any fun attachment =>
        attachment.parent == table.parentTable && attachment.bound.overlaps (rangeOf monthStart monthEnd) then
      .error .overlap
    else if child.occurredAt.all (within monthStart monthEnd) then
      .ok (setAttachment created childName ⟨table.parentTable, rangeOf monthStart monthEnd⟩)
    else .error .outOfBounds
  | _, _ => .error .undefinedTable

def setRows (catalog : Catalog) (name : String) (rows : List Timestamp → List Timestamp) : Catalog :=
  catalog.update (fun relation => relation.relname == name) fun relation =>
    { relation with occurredAt := rows relation.occurredAt }

def rowsOf (catalog : Catalog) (name : String) : List Timestamp := (catalog.find? name).elim [] (·.occurredAt)

def claimedAt (start stop : Timestamp) (ctids : List Nat) (rows : List Timestamp) : List Timestamp × List Timestamp :=
  let (moved, kept) := rows.zipIdx.partition fun (time, ctid) => within start stop time && ctids.contains ctid
  (moved.map Prod.fst, kept.map Prod.fst)

/-- Delete from the default partition and insert into the child, in one statement. -/
def moveRows (catalog : Catalog) (table : PartitionedTableConfig) (monthStart : Timestamp) (ctids : List Nat) :
    Catalog :=
  let (moved, kept) := claimedAt monthStart (monthStartUtc monthStart 1) ctids (rowsOf catalog table.defaultPartition)
  setRows (setRows catalog table.defaultPartition fun _ => kept) (monthPartitionName table.parentTable monthStart)
    (· ++ moved)

def defaultMonths (catalog : Catalog) (table : PartitionedTableConfig) : List Timestamp :=
  let months := (rowsOf catalog table.defaultPartition).map fun time => monthStartUtc time 0
  months.dedup.mergeSort fun one other => decide (one ≤ other)

def insertRow (catalog : Catalog) (table : PartitionedTableConfig) (time : Timestamp) : Catalog :=
  let holds : Relation → Bool := fun relation => relation.attachment.any fun attachment =>
    attachment.parent == table.parentTable && attachment.bound.overlaps (rangeOf time (time + 1))
  setRows catalog ((catalog.rows.find? holds).elim table.defaultPartition (·.relname)) (· ++ [time])

/-- Consecutive months from the current one on, less the current one. -/
def computeBufferMonths (monthPresence : List Bool) : Int := (monthPresence.takeWhile id).length - 1

/-- A call of `ensurePartitions`, with the catalog it started from. -/
structure EnsureCall where
  now : Nat
  lookaheadMonths : Nat
  before : Catalog
  results : List PartitionEnsureResult := []

structure EnsureWalk where
  call : EnsureCall
  table : PartitionedTableConfig
  laterTables : List PartitionedTableConfig
  offset : Nat := 0
  created : List String := []
  monthPresence : List Bool := []

structure RelocationWalk where
  table : PartitionedTableConfig
  laterTables : List PartitionedTableConfig
  laterMonths : List Timestamp

inductive Program where
  | idle
  | ensuring (call : EnsureCall) (laterTables : List PartitionedTableConfig)
  | checking (walk : EnsureWalk)
  | creating (walk : EnsureWalk)
  | ensured (call : EnsureCall)
  | relocating (laterTables : List PartitionedTableConfig)
  | months (walk : RelocationWalk)
  | moving (walk : RelocationWalk) (monthStart : Timestamp)
  | joining (walk : RelocationWalk) (monthStart : Timestamp)
  | dropping (expired : List ExpiredPartitionInfo)

structure Maintained where
  catalog : Catalog
  program : Program := .idle

inductive MaintenanceEvent where
  | ensurePartitions (now lookaheadMonths : Nat)
  | relocateAllDefaultRows
  | dropExpiredPartitions (now retentionMonths : Nat)
  | proceed (ctids : List Nat)
  | crash
  | ingest (table : PartitionedTableConfig) (occurredAt : Timestamp)

def Program.running : Program → Bool
  | .idle | .ensured _ => false
  | .ensuring _ _ | .checking _ | .creating _ => true
  | .relocating _ | .months _ | .moving _ _ | .joining _ _ | .dropping _ => true

namespace EnsureWalk

variable (walk : EnsureWalk)

def monthStart : Timestamp := monthStartUtc walk.call.now walk.offset

def monthEnd : Timestamp := monthStartUtc walk.call.now (walk.offset + 1)

def childName : String := monthPartitionName walk.table.parentTable walk.monthStart

def result : PartitionEnsureResult where
  table := walk.table.parentTable
  created := walk.created
  bufferMonths := computeBufferMonths walk.monthPresence

def next (existedBefore : Bool) : EnsureWalk :=
  { walk with
    offset := walk.offset + 1
    monthPresence := walk.monthPresence ++ [existedBefore]
    created := if existedBefore then walk.created else walk.created ++ [walk.childName] }

end EnsureWalk

def proceedProgram (state : Maintained) (ctids : List Nat) : Option Maintained :=
  let go (program : Program) : Option Maintained := some { state with program }
  match state.program with
  | .idle | .ensured _ => none
  | .ensuring call [] => go (.ensured call)
  | .ensuring call (table :: laterTables) => go (.checking { call, table, laterTables })
  | .checking walk =>
    if walk.call.lookaheadMonths < walk.offset then
      go (.ensuring { walk.call with results := walk.call.results ++ [walk.result] } walk.laterTables)
    else if partitionExists state.catalog walk.childName then go (.checking (walk.next true))
    else go (.creating walk)
  | .creating walk =>
    match attachPartition state.catalog walk.table walk.monthStart walk.monthEnd with
    | .error _ => go .idle
    | .ok catalog => some { catalog, program := .checking (walk.next false) }
  | .relocating [] => go .idle
  | .relocating (table :: laterTables) =>
    go (.months { table, laterTables, laterMonths := defaultMonths state.catalog table })
  | .months walk =>
    match walk.laterMonths with
    | [] => go (.relocating walk.laterTables)
    | monthStart :: laterMonths =>
      some
        { catalog := createTable state.catalog (monthPartitionName walk.table.parentTable monthStart)
          program := .moving { walk with laterMonths } monthStart }
  | .moving walk monthStart =>
    let moved := (claimedAt monthStart (monthStartUtc monthStart 1) ctids
      (rowsOf state.catalog walk.table.defaultPartition)).1.length
    let catalog := moveRows state.catalog walk.table monthStart ctids
    if relocateBatchSize < moved then none
    else
      let program := if moved < relocateBatchSize then Program.joining walk monthStart else .moving walk monthStart
      some { catalog, program }
  | .joining walk monthStart =>
    match attachPartition state.catalog walk.table monthStart (monthStartUtc monthStart 1) with
    | .error _ => go .idle
    | .ok catalog => some { catalog, program := .months walk }
  | .dropping [] => go .idle
  | .dropping (partition :: rest) =>
    match dropOutcome {} partition with
    | .dropped => some { catalog := state.catalog.erase partition.partitionName, program := .dropping rest }
    | .refused _ | .unacknowledged _ => go .idle

def maintenanceStep (state : Maintained) : MaintenanceEvent → Option Maintained
  | .ensurePartitions now lookaheadMonths =>
    if state.program.running then none
    else
      let call : EnsureCall := { now, lookaheadMonths, before := state.catalog }
      some { state with program := .ensuring call partitionedTableConfigs }
  | .relocateAllDefaultRows =>
    if state.program.running then none else some { state with program := .relocating partitionedTableConfigs }
  | .dropExpiredPartitions now retentionMonths =>
    if state.program.running then none
    else
      match findExpiredPartitions state.catalog retentionEligibleTables now retentionMonths with
      | .error _ => some { state with program := .idle }
      | .ok expired => some { state with program := .dropping expired }
  | .proceed ctids => proceedProgram state ctids
  | .crash => if state.program.running then some { state with program := .idle } else none
  | .ingest table occurredAt => some { state with catalog := insertRow state.catalog table occurredAt }

def standing (catalog : Catalog) (name : String) : Option (Option Attachment) := (catalog.find? name).map (·.attachment)

def monthBound (month : Int) : PartitionBound := rangeOf (utcMonthStart month) (utcMonthStart (month + 1))

def childOf (table : PartitionedTableConfig) (month : Int) : String :=
  monthPartitionName table.parentTable (utcMonthStart month)

/-- The children of a managed table are its months under their names, and nothing else is attached under such a name. -/
structure CatalogOk (catalog : Catalog) : Prop where
  monthly : ∀ table ∈ partitionedTableConfigs, ∀ name bound,
    standing catalog name = some (some ⟨table.parentTable, bound⟩) →
      (bound = .default ∧ name = table.defaultPartition) ∨
        ∃ month, name = childOf table month ∧ bound = monthBound month
  named : ∀ table ∈ partitionedTableConfigs, ∀ month attachment,
    standing catalog (childOf table month) = some (some attachment) →
      attachment = ⟨table.parentTable, monthBound month⟩

inductive Restands (catalog : Catalog) (name : String) : Option (Option Attachment) → Prop where
  | kept : Restands catalog name (standing catalog name)
  | gone : Restands catalog name none
  | created : Restands catalog name (some none)
  | attached (table : PartitionedTableConfig) (month : Int) (managed : table ∈ partitionedTableConfigs)
      (named : name = childOf table month) : Restands catalog name (some (some ⟨table.parentTable, monthBound month⟩))

section Names

variable {table other : PartitionedTableConfig} {month later : Int}

theorem table_of_parent (managed : table ∈ partitionedTableConfigs) (also : other ∈ partitionedTableConfigs)
    (same : table.parentTable = other.parentTable) : table = other := by
  have all : ∀ table ∈ partitionedTableConfigs, ∀ other ∈ partitionedTableConfigs,
      table.parentTable = other.parentTable → table = other := by
    decide
  exact all table managed other also same

theorem childOf_inj (managed : table ∈ partitionedTableConfigs) (also : other ∈ partitionedTableConfigs)
    (same : childOf table month = childOf other later) : table = other ∧ month = later := by
  obtain ⟨parents, months⟩ := monthPartitionName_inj same
  exact ⟨table_of_parent managed also parents, months⟩

theorem monthBound_inj (same : monthBound month = monthBound later) : month = later := by
  unfold monthBound rangeOf momentOf at same
  simp only [PartitionBound.range.injEq, BoundDatum.moment.injEq] at same
  have starts : utcMonthStart month = utcMonthStart later := Int.eq_of_mul_eq_mul_right (by decide) same.1
  rw [← utcMonth_monthStart month, starts, utcMonth_monthStart]

theorem monthBound_apart (differs : month ≠ later) : (monthBound month).overlaps (monthBound later) = false := by
  have ordered : ∀ {first second : Int}, first < second →
      ¬ momentOf (utcMonthStart second) < momentOf (utcMonthStart (first + 1)) := by
    intro first second less overlapping
    have starts : utcMonthStart (first + 1) ≤ utcMonthStart second := utcMonthStart_le_iff.mpr less
    exact absurd (Int.lt_of_mul_lt_mul_right overlapping (by decide)) (Int.not_lt.mpr starts)
  unfold monthBound rangeOf PartitionBound.overlaps BoundDatum.before
  rcases lt_or_gt_of_ne differs with less | more
  · simp [ordered less]
  · simp [ordered more]

end Names

section Statements

variable {catalog next : Catalog} {table : PartitionedTableConfig} {name changed : String} {month : Int}

theorem standing_createTable :
    standing (createTable catalog changed) name =
      (standing catalog name).or (if changed = name then some none else none) := by
  have found : (createTable catalog changed).find? name =
      (catalog.find? name).or (if changed = name then some { relname := changed } else none) := Table.find?_insert
  unfold standing
  rw [found]
  cases catalog.find? name with
  | some relation => rfl
  | none =>
    split <;> rfl

theorem standing_setRows {rows : List Timestamp → List Timestamp} :
    standing (setRows catalog changed rows) name = standing catalog name := by
  unfold standing setRows
  rw [@Table.find?_update _ _ _ _ catalog name (fun relation => relation.relname == changed)
    (fun relation => { relation with occurredAt := rows relation.occurredAt }) fun _ => rfl, Option.map_map]
  congr 1
  funext relation
  dsimp only [Function.comp_apply]
  split <;> rfl

theorem standing_setAttachment {attachment : Attachment} (there : (standing catalog changed).isSome) :
    standing (setAttachment catalog changed attachment) name =
      if name = changed then some (some attachment) else standing catalog name := by
  unfold standing setAttachment at *
  rw [@Table.find?_update _ _ _ _ catalog name (fun relation => relation.relname == changed)
    (fun relation => { relation with attachment := some attachment }) fun _ => rfl, Option.map_map]
  cases found : catalog.find? name with
  | none =>
    split
    · next same =>
      subst same
      rw [found] at there
      cases there
    · rfl
  | some relation =>
    have keyed : relation.relname = name := Table.key_of_find? found
    by_cases same : name = changed
    · simp [keyed, same]
    · simp [keyed, same]

theorem standing_erase :
    standing (catalog.erase changed) name = if name = changed then none else standing catalog name := by
  unfold standing
  rw [Table.find?_erase]
  split <;> rfl

theorem standing_insertRow {time : Timestamp} : standing (insertRow catalog table time) name = standing catalog name :=
  standing_setRows

theorem standing_moveRows {monthStart : Timestamp} {ctids : List Nat} :
    standing (moveRows catalog table monthStart ctids) name = standing catalog name :=
  standing_setRows.trans standing_setRows

theorem attachPartition_ok
    (done : attachPartition catalog table (utcMonthStart month) (utcMonthStart (month + 1)) = .ok next) :
    (∀ attachment, standing catalog (childOf table month) ≠ some (some attachment)) ∧
      ∀ name, standing next name =
        if name = childOf table month then some (some ⟨table.parentTable, monthBound month⟩)
        else standing catalog name := by
  unfold attachPartition at done
  dsimp only at done
  split at done
  · next defaultPartition child _ found =>
    split at done
    · cases done
    · split at done
      · cases done
      · next loose =>
        split at done
        · cases done
        · split at done
          · cases done
            have created : standing (createTable catalog (childOf table month)) (childOf table month) = some none := by
              unfold standing
              rw [show (createTable catalog (childOf table month)).find? (childOf table month) = some child from found]
              rw [Bool.not_eq_true, Option.isSome_eq_false_iff, Option.isNone_iff_eq_none] at loose
              exact congrArg some loose
            constructor
            · intro attachment already
              rw [standing_createTable, already] at created
              cases created
            · intro name
              have stands := @standing_setAttachment (createTable catalog (childOf table month)) name
                (childOf table month) ⟨table.parentTable, monthBound month⟩ (by rw [created]; rfl)
              refine Eq.trans stands ?_
              split
              · rfl
              · next other =>
                rw [standing_createTable, if_neg (Ne.symm other), Option.or_none]
          · cases done
  · cases done

theorem ok_of_restands (ok : CatalogOk catalog) (changes : ∀ name, Restands catalog name (standing next name)) :
    CatalogOk next := by
  constructor
  · intro table managed name bound stands
    generalize became : standing next name = value at *
    have change := changes name
    rw [became] at change
    cases change with
    | kept => exact ok.monthly table managed name bound stands
    | gone | created => cases stands
    | attached other month also named =>
      simp only [Option.some.injEq, Attachment.mk.injEq] at stands
      obtain ⟨parents, rfl⟩ := stands
      rw [table_of_parent also managed parents] at named
      exact .inr ⟨month, named, rfl⟩
  · intro table managed month attachment stands
    generalize became : standing next (childOf table month) = value at *
    have change := changes (childOf table month)
    rw [became] at change
    cases change with
    | kept => exact ok.named table managed month attachment stands
    | gone | created => cases stands
    | attached other later also same =>
      obtain ⟨rfl, rfl⟩ := childOf_inj managed also same
      exact (Option.some.inj (Option.some.inj stands)).symm

end Statements

def CountsPresent (call : EnsureCall) (result : PartitionEnsureResult) : Prop :=
  result.bufferMonths ≤ call.lookaheadMonths ∧
    ∃ table ∈ partitionedTableConfigs, result.table = table.parentTable ∧
      ∀ offset : Nat, (offset : Int) ≤ result.bufferMonths →
        (standing call.before (childOf table (utcMonth call.now + offset))).isSome

structure Progress (catalog : Catalog) (call : EnsureCall) (seen : PartitionedTableConfig → Nat → Prop) : Prop where
  start : CatalogOk call.before
  kept : ∀ name, (standing call.before name).isSome → standing catalog name = standing call.before name
  made : ∀ name value, standing call.before name = none → standing catalog name = some value →
    ∃ table ∈ partitionedTableConfigs, ∃ offset ≤ call.lookaheadMonths, seen table offset ∧
      name = childOf table (utcMonth call.now + offset) ∧
      value = some ⟨table.parentTable, monthBound (utcMonth call.now + offset)⟩
  there : ∀ table ∈ partitionedTableConfigs, ∀ offset ≤ call.lookaheadMonths, seen table offset →
    (standing catalog (childOf table (utcMonth call.now + offset))).isSome
  counted : ∀ result ∈ call.results, CountsPresent call result

def EnsureWalk.seen (walk : EnsureWalk) (table : PartitionedTableConfig) (offset : Nat) : Prop :=
  table ∉ walk.table :: walk.laterTables ∨ (table = walk.table ∧ offset < walk.offset)

structure WalkOk (catalog : Catalog) (walk : EnsureWalk) : Prop where
  tables : walk.table :: walk.laterTables <:+ partitionedTableConfigs
  progress : Progress catalog walk.call walk.seen
  length : walk.monthPresence.length = walk.offset
  bounded : walk.offset ≤ walk.call.lookaheadMonths + 1
  present : ∀ offset : Nat, walk.monthPresence[offset]? = some true →
    (standing walk.call.before (childOf walk.table (utcMonth walk.call.now + offset))).isSome

def RelocationWalk.Ok (walk : RelocationWalk) : Prop :=
  walk.table ∈ partitionedTableConfigs ∧ walk.laterTables ⊆ partitionedTableConfigs ∧
    ∀ monthStart ∈ walk.laterMonths, ∃ month, monthStart = utcMonthStart month

def ProgramOk (catalog : Catalog) : Program → Prop
  | .idle | .dropping _ => True
  | .ensuring call laterTables =>
    laterTables <:+ partitionedTableConfigs ∧ Progress catalog call fun table _ => table ∉ laterTables
  | .checking walk => WalkOk catalog walk
  | .creating walk =>
    WalkOk catalog walk ∧ walk.offset ≤ walk.call.lookaheadMonths ∧ standing catalog walk.childName = none
  | .ensured call => Progress catalog call fun _ _ => True
  | .relocating laterTables => laterTables ⊆ partitionedTableConfigs
  | .months walk => walk.Ok
  | .moving walk monthStart | .joining walk monthStart => walk.Ok ∧ ∃ month, monthStart = utcMonthStart month

structure MaintainedOk (state : Maintained) : Prop where
  catalog : CatalogOk state.catalog
  program : ProgramOk state.catalog state.program

section Progressing

variable {catalog next : Catalog} {call : EnsureCall} {seen later : PartitionedTableConfig → Nat → Prop}
  {walk : EnsureWalk}

theorem progress_standing (progress : Progress catalog call seen)
    (same : ∀ name, standing next name = standing catalog name) : Progress next call seen where
  start := progress.start
  kept name there := (same name).trans (progress.kept name there)
  made name value absent stands := progress.made name value absent ((same name).symm.trans stands)
  there table managed offset inside been := by
    rw [same]
    exact progress.there table managed offset inside been
  counted := progress.counted

theorem progress_seen (progress : Progress catalog call seen)
    (same : ∀ table ∈ partitionedTableConfigs, ∀ offset ≤ call.lookaheadMonths,
      seen table offset ↔ later table offset) :
    Progress catalog call later where
  start := progress.start
  kept := progress.kept
  made name value absent stands := by
    obtain ⟨table, managed, offset, inside, been, rest⟩ := progress.made name value absent stands
    exact ⟨table, managed, offset, inside, (same table managed offset inside).mp been, rest⟩
  there table managed offset inside been :=
    progress.there table managed offset inside ((same table managed offset inside).mpr been)
  counted := progress.counted

theorem childName_eq : walk.childName = childOf walk.table (utcMonth walk.call.now + walk.offset) := rfl

theorem managed_of_suffix {table : PartitionedTableConfig} {laterTables : List PartitionedTableConfig}
    (suffix : table :: laterTables <:+ partitionedTableConfigs) : table ∈ partitionedTableConfigs :=
  suffix.subset List.mem_cons_self

theorem notMem_of_suffix {table : PartitionedTableConfig} {laterTables : List PartitionedTableConfig}
    (suffix : table :: laterTables <:+ partitionedTableConfigs) : table ∉ laterTables := by
  have distinct : partitionedTableConfigs.Nodup := by decide
  exact (List.nodup_cons.mp (distinct.sublist suffix.sublist)).1

theorem seen_next {existedBefore : Bool} {table : PartitionedTableConfig} {offset : Nat} :
    (walk.next existedBefore).seen table offset ↔
      walk.seen table offset ∨ (table = walk.table ∧ offset = walk.offset) := by
  show (table ∉ walk.table :: walk.laterTables ∨ (table = walk.table ∧ offset < walk.offset + 1)) ↔ _
  unfold EnsureWalk.seen
  rw [Nat.lt_succ_iff_lt_or_eq, and_or_left, or_assoc]

theorem fresh_name (ok : WalkOk catalog walk) {table : PartitionedTableConfig} {offset : Nat}
    (managed : table ∈ partitionedTableConfigs) (been : walk.seen table offset) :
    childOf table (utcMonth walk.call.now + offset) ≠ walk.childName := by
  intro same
  obtain ⟨rfl, months⟩ := childOf_inj managed (managed_of_suffix ok.tables) same
  rcases been with elsewhere | ⟨_, earlier⟩
  · exact elsewhere List.mem_cons_self
  · omega

theorem walk_present (ok : WalkOk catalog walk) (inside : walk.offset ≤ walk.call.lookaheadMonths)
    (exists_ : partitionExists catalog walk.childName = true) :
    WalkOk catalog (walk.next true) := by
  have stands : (standing catalog walk.childName).isSome := by
    unfold standing
    rw [Option.isSome_map]
    exact exists_
  refine ⟨ok.tables, ⟨ok.progress.start, ok.progress.kept, ?_, ?_, ok.progress.counted⟩, ?_,
    Nat.succ_le_succ inside, ?_⟩
  · intro name value absent became
    obtain ⟨table, managed, offset, inside, been, rest⟩ := ok.progress.made name value absent became
    exact ⟨table, managed, offset, inside, seen_next.mpr (.inl been), rest⟩
  · intro table managed offset inside been
    rcases seen_next.mp been with before | ⟨rfl, rfl⟩
    · exact ok.progress.there table managed offset inside before
    · exact stands
  · show (walk.monthPresence ++ [true]).length = walk.offset + 1
    rw [List.length_append, ok.length]
    rfl
  · intro offset here
    change (walk.monthPresence ++ [true])[offset]? = some true at here
    by_cases earlier : offset < walk.offset
    · rw [List.getElem?_append_left (by rw [ok.length]; exact earlier)] at here
      exact ok.present offset here
    · have last : offset = walk.offset := by
        have inside := (List.getElem?_eq_some_iff.mp here).1
        rw [List.length_append, ok.length, List.length_singleton] at inside
        omega
      subst last
      -- nothing under this name has been made by the call itself
      by_contra missing
      rw [Bool.not_eq_true, Option.isSome_eq_false_iff, Option.isNone_iff_eq_none] at missing
      obtain ⟨value, became⟩ := Option.isSome_iff_exists.mp stands
      obtain ⟨table, managed, offset, _, been, same, _⟩ := ok.progress.made walk.childName value missing became
      exact fresh_name ok managed been same.symm

theorem monthEnd_eq : walk.monthEnd = utcMonthStart (utcMonth walk.call.now + walk.offset + 1) :=
  congrArg utcMonthStart (Int.add_assoc ..).symm

theorem walk_created (ok : WalkOk catalog walk) (inside : walk.offset ≤ walk.call.lookaheadMonths)
    (absent : standing catalog walk.childName = none)
    (done : attachPartition catalog walk.table walk.monthStart walk.monthEnd = .ok next) :
    WalkOk next (walk.next false) := by
  have managed := managed_of_suffix ok.tables
  rw [monthEnd_eq] at done
  obtain ⟨_, stands⟩ := attachPartition_ok done
  have here : standing next walk.childName =
      some (some ⟨walk.table.parentTable, monthBound (utcMonth walk.call.now + walk.offset)⟩) := by
    rw [stands]
    exact if_pos rfl
  have elsewhere : ∀ name, name ≠ walk.childName → standing next name = standing catalog name := by
    intro name other
    rw [stands]
    exact if_neg other
  have progress : Progress next walk.call (walk.next false).seen := by
    refine ⟨ok.progress.start, ?_, ?_, ?_, ok.progress.counted⟩
    · intro name before
      by_cases same : name = walk.childName
      · subst same
        -- it would still be there
        have still := ok.progress.kept walk.childName before
        rw [absent] at still
        rw [← still] at before
        cases before
      · exact (elsewhere name same).trans (ok.progress.kept name before)
    · intro name value missing became
      by_cases same : name = walk.childName
      · subst same
        rw [here] at became
        cases became
        exact ⟨walk.table, managed, walk.offset, inside, seen_next.mpr (.inr ⟨rfl, rfl⟩), rfl, rfl⟩
      · rw [elsewhere name same] at became
        obtain ⟨table, also, offset, within_, been, rest⟩ := ok.progress.made name value missing became
        exact ⟨table, also, offset, within_, seen_next.mpr (.inl been), rest⟩
    · intro table also offset within_ been
      rcases seen_next.mp been with before | ⟨rfl, rfl⟩
      · rw [elsewhere _ (fresh_name ok also before)]
        exact ok.progress.there table also offset within_ before
      · rw [← childName_eq, here]
        rfl
  refine ⟨ok.tables, progress, ?_, Nat.succ_le_succ inside, ?_⟩
  · show (walk.monthPresence ++ [false]).length = walk.offset + 1
    rw [List.length_append, ok.length]
    rfl
  · intro offset noted
    change (walk.monthPresence ++ [false])[offset]? = some true at noted
    by_cases earlier : offset < walk.offset
    · rw [List.getElem?_append_left (by rw [ok.length]; exact earlier)] at noted
      exact ok.present offset noted
    · -- the last month noted is the one that was missing
      rw [List.getElem?_append_right (by rw [ok.length]; omega), List.getElem?_singleton] at noted
      split at noted <;> cases noted

theorem getElem?_of_takeWhile {presence : List Bool} {offset : Nat} (inside : offset < (presence.takeWhile id).length) :
    presence[offset]? = some true := by
  have front : (presence.takeWhile id)[offset]? = some (presence.takeWhile id)[offset] :=
    List.getElem?_eq_getElem inside
  have true_ := List.mem_takeWhile_imp (List.getElem_mem inside)
  rw [← List.takeWhile_append_dropWhile (p := id) (l := presence), List.getElem?_append_left inside, front]
  exact congrArg some true_

theorem walk_counted (ok : WalkOk catalog walk) : CountsPresent walk.call walk.result := by
  have buffer : walk.result.bufferMonths = (walk.monthPresence.takeWhile id).length - 1 := rfl
  refine ⟨?_, walk.table, managed_of_suffix ok.tables, rfl, ?_⟩
  · have noted := (List.takeWhile_prefix (p := id) (l := walk.monthPresence)).length_le
    have bounded := ok.bounded
    rw [ok.length] at noted
    omega
  · intro offset counted
    apply ok.present
    apply getElem?_of_takeWhile
    omega

theorem progress_finished (ok : WalkOk catalog walk) (beyond : walk.call.lookaheadMonths < walk.offset) :
    Progress catalog { walk.call with results := walk.call.results ++ [walk.result] }
      fun table _ => table ∉ walk.laterTables := by
  have seen : Progress catalog walk.call fun table _ => table ∉ walk.laterTables := by
    apply progress_seen ok.progress
    intro table managed offset inside
    unfold EnsureWalk.seen
    rw [List.mem_cons, not_or]
    constructor
    · rintro (⟨_, later⟩ | ⟨rfl, _⟩)
      · exact later
      · exact notMem_of_suffix ok.tables
    · intro later
      by_cases same : table = walk.table
      · exact .inr ⟨same, by omega⟩
      · exact .inl ⟨same, later⟩
  refine ⟨seen.start, seen.kept, seen.made, seen.there, ?_⟩
  intro result member
  rcases List.mem_append.mp member with before | last
  · exact seen.counted result before
  · rw [List.mem_singleton.mp last]
    exact walk_counted ok

theorem walk_begins {table : PartitionedTableConfig} {laterTables : List PartitionedTableConfig}
    (suffix : table :: laterTables <:+ partitionedTableConfigs)
    (progress : Progress catalog call fun other _ => other ∉ table :: laterTables) :
    WalkOk catalog { call, table, laterTables } := by
  refine ⟨suffix, progress_seen progress ?_, rfl, Nat.zero_le _, ?_⟩
  · intro other managed offset inside
    unfold EnsureWalk.seen
    simp
  · intro offset noted
    cases noted

theorem progress_begins {now lookaheadMonths : Nat} (ok : CatalogOk catalog) :
    Progress catalog { now, lookaheadMonths, before := catalog } fun table _ => table ∉ partitionedTableConfigs := by
  refine ⟨ok, fun _ _ => rfl, ?_, fun table managed _ _ absent => absurd managed absent, ?_⟩
  · intro name value absent became
    cases absent.symm.trans became
  · intro result member
    cases member

end Progressing

section Steps

variable {catalog next : Catalog} {state after : Maintained}

theorem ok_standing (ok : CatalogOk catalog) (same : ∀ name, standing next name = standing catalog name) :
    CatalogOk next := by
  apply ok_of_restands ok
  intro name
  rw [same]
  exact .kept

theorem ok_createTable (ok : CatalogOk catalog) {name : String} : CatalogOk (createTable catalog name) := by
  apply ok_of_restands ok
  intro other
  have stands := @standing_createTable catalog other name
  cases before : standing catalog other with
  | some value =>
    rw [before, Option.some_or, ← before] at stands
    rw [stands]
    exact .kept
  | none =>
    rw [before, Option.none_or] at stands
    rw [stands]
    split
    · exact .created
    · exact .gone

theorem ok_erase (ok : CatalogOk catalog) {name : String} : CatalogOk (catalog.erase name) := by
  apply ok_of_restands ok
  intro other
  rw [standing_erase]
  split
  · exact .gone
  · exact .kept

theorem ok_attach (ok : CatalogOk catalog) {table : PartitionedTableConfig} {month : Int}
    (managed : table ∈ partitionedTableConfigs)
    (done : attachPartition catalog table (utcMonthStart month) (utcMonthStart (month + 1)) = .ok next) :
    CatalogOk next := by
  obtain ⟨_, stands⟩ := attachPartition_ok done
  apply ok_of_restands ok
  intro name
  rw [stands]
  split
  · next same => exact .attached table month managed same
  · exact .kept

theorem program_standing {program : Program} (ok : ProgramOk catalog program)
    (same : ∀ name, standing next name = standing catalog name) : ProgramOk next program := by
  have walked : ∀ {walk : EnsureWalk}, WalkOk catalog walk → WalkOk next walk := by
    intro walk holds
    exact ⟨holds.tables, progress_standing holds.progress same, holds.length, holds.bounded, holds.present⟩
  cases program with
  | ensuring call laterTables => exact ⟨ok.1, progress_standing ok.2 same⟩
  | checking walk => exact walked ok
  | creating walk => exact ⟨walked ok.1, ok.2.1, (same _).trans ok.2.2⟩
  | ensured call => exact progress_standing ok same
  | idle | dropping _ => trivial
  | relocating _ | months _ | moving _ _ | joining _ _ => exact ok

theorem months_of_default {table : PartitionedTableConfig} {monthStart : Timestamp}
    (member : monthStart ∈ defaultMonths catalog table) : ∃ month, monthStart = utcMonthStart month := by
  unfold defaultMonths at member
  simp only [List.mem_mergeSort, List.mem_dedup, List.mem_map] at member
  obtain ⟨time, _, rfl⟩ := member
  exact ⟨_, rfl⟩

theorem monthStartUtc_next {month : Int} : monthStartUtc (utcMonthStart month) 1 = utcMonthStart (month + 1) := by
  unfold monthStartUtc
  rw [utcMonth_monthStart]

theorem proceed_ok {ctids : List Nat} (ok : MaintainedOk state) (taken : proceedProgram state ctids = some after) :
    MaintainedOk after := by
  obtain ⟨catalog, program⟩ := state
  obtain ⟨catalogOk, programOk⟩ := ok
  cases program with
  | idle | ensured => cases taken
  | ensuring call laterTables =>
    cases laterTables with
    | nil =>
      cases taken
      refine ⟨catalogOk, progress_seen programOk.2 ?_⟩
      simp
    | cons table laterTables =>
      cases taken
      exact ⟨catalogOk, walk_begins programOk.1 programOk.2⟩
  | checking walk =>
    simp only [proceedProgram] at taken
    split at taken
    · next beyond =>
      cases taken
      exact ⟨catalogOk, (List.suffix_cons _ _).trans programOk.tables, progress_finished programOk beyond⟩
    · next inside =>
      split at taken
      · next exists_ =>
        cases taken
        exact ⟨catalogOk, walk_present programOk (Nat.le_of_not_lt inside) exists_⟩
      · next missing =>
        cases taken
        refine ⟨catalogOk, programOk, Nat.le_of_not_lt inside, ?_⟩
        unfold standing
        rw [Option.map_eq_none_iff]
        unfold partitionExists at missing
        rwa [Bool.not_eq_true, Option.isSome_eq_false_iff, Option.isNone_iff_eq_none] at missing
  | creating walk =>
    simp only [proceedProgram] at taken
    split at taken
    · cases taken
      exact ⟨catalogOk, trivial⟩
    · next made done =>
      cases taken
      obtain ⟨walkOk, inside, absent⟩ := programOk
      have attached := done
      rw [monthEnd_eq] at attached
      exact ⟨ok_attach catalogOk (managed_of_suffix walkOk.tables) attached, walk_created walkOk inside absent done⟩
  | relocating laterTables =>
    cases laterTables with
    | nil =>
      cases taken
      exact ⟨catalogOk, trivial⟩
    | cons table laterTables =>
      cases taken
      exact ⟨catalogOk, programOk List.mem_cons_self, fun _ member => programOk (List.mem_cons_of_mem _ member),
        fun _ member => months_of_default member⟩
  | months walk =>
    simp only [proceedProgram] at taken
    obtain ⟨managed, later, starts⟩ := programOk
    split at taken
    · cases taken
      exact ⟨catalogOk, later⟩
    · next monthStart laterMonths remaining =>
      cases taken
      rw [remaining] at starts
      exact ⟨ok_createTable catalogOk,
        ⟨managed, later, fun month member => starts month (List.mem_cons_of_mem _ member)⟩,
        starts monthStart List.mem_cons_self⟩
  | moving walk monthStart =>
    simp only [proceedProgram] at taken
    split at taken
    · cases taken
    · -- rows go from the default partition to a table that is not attached yet
      cases taken
      refine ⟨ok_standing catalogOk fun _ => standing_moveRows, ?_⟩
      split <;> exact programOk
  | joining walk monthStart =>
    simp only [proceedProgram] at taken
    split at taken
    · cases taken
      exact ⟨catalogOk, trivial⟩
    · next made done =>
      cases taken
      obtain ⟨walkOk, month, rfl⟩ := programOk
      rw [monthStartUtc_next] at done
      exact ⟨ok_attach catalogOk walkOk.1 done, walkOk⟩
  | dropping expired =>
    cases expired with
    | nil =>
      cases taken
      exact ⟨catalogOk, trivial⟩
    | cons partition rest =>
      simp only [proceedProgram] at taken
      split at taken
      · cases taken
        exact ⟨ok_erase catalogOk, trivial⟩
      · cases taken
        exact ⟨catalogOk, trivial⟩
      · cases taken
        exact ⟨catalogOk, trivial⟩

theorem maintenanceStep_ok (state : Maintained) (event : MaintenanceEvent) (after : Maintained)
    (ok : MaintainedOk state) (taken : maintenanceStep state event = some after) : MaintainedOk after := by
  cases event with
  | ensurePartitions now lookaheadMonths =>
    simp only [maintenanceStep] at taken
    split at taken
    · cases taken
    · cases taken
      exact ⟨ok.catalog, List.suffix_refl _, progress_begins ok.catalog⟩
  | relocateAllDefaultRows =>
    simp only [maintenanceStep] at taken
    split at taken
    · cases taken
    · cases taken
      exact ⟨ok.catalog, List.Subset.refl _⟩
  | dropExpiredPartitions now retentionMonths =>
    simp only [maintenanceStep] at taken
    split at taken
    · cases taken
    · split at taken
      · cases taken
        exact ⟨ok.catalog, trivial⟩
      · cases taken
        exact ⟨ok.catalog, trivial⟩
  | proceed ctids => exact proceed_ok ok taken
  | crash =>
    simp only [maintenanceStep] at taken
    split at taken
    · cases taken
      exact ⟨ok.catalog, trivial⟩
    · cases taken
  | ingest table occurredAt =>
    cases taken
    have same : ∀ name, standing (insertRow state.catalog table occurredAt) name = standing state.catalog name :=
      fun _ => standing_insertRow
    exact ⟨ok_standing ok.catalog same, program_standing ok.program same⟩

end Steps

def HasPartition (catalog : Catalog) (table : PartitionedTableConfig) (start stop : Timestamp) : Prop :=
  ∃ relation ∈ catalog.rows, relation.attachment = some ⟨table.parentTable, rangeOf start stop⟩

/-- What a call that has returned leaves: each month its own partition, and a buffer that was there before. -/
structure Covered (catalog : Catalog) (call : EnsureCall) : Prop where
  months : ∀ table ∈ partitionedTableConfigs, ∀ offset : Nat, offset ≤ call.lookaheadMonths →
    HasPartition catalog table (monthStartUtc call.now offset) (monthStartUtc call.now (offset + 1))
  apart : ∀ table ∈ partitionedTableConfigs, ∀ first ∈ catalog.rows, ∀ second ∈ catalog.rows, ∀ one other,
    first.attachment = some ⟨table.parentTable, one⟩ → second.attachment = some ⟨table.parentTable, other⟩ →
      first ≠ second → one.overlaps other = false
  buffer : ∀ result ∈ call.results, ∃ table ∈ partitionedTableConfigs, result.table = table.parentTable ∧
    ∀ offset : Nat, (offset : Int) ≤ result.bufferMonths →
      HasPartition call.before table (monthStartUtc call.now offset) (monthStartUtc call.now (offset + 1))

/-- No month the call looks at has a table of its name that is not attached. -/
def NothingLoose (call : EnsureCall) : Prop :=
  ∀ table ∈ partitionedTableConfigs, ∀ offset : Nat, offset ≤ call.lookaheadMonths →
    standing call.before (monthPartitionName table.parentTable (monthStartUtc call.now offset)) ≠ some none

section Coverage

variable {catalog : Catalog} {call : EnsureCall} {table : PartitionedTableConfig} {month : Int}

theorem standing_of_mem {relation : Relation} (stored : relation ∈ catalog.rows) :
    standing catalog relation.relname = some relation.attachment := by
  unfold standing
  rw [Table.find?_of_mem stored, Option.map_some]

theorem hasPartition_iff (ok : CatalogOk catalog) (managed : table ∈ partitionedTableConfigs) :
    HasPartition catalog table (utcMonthStart month) (utcMonthStart (month + 1)) ↔
      standing catalog (childOf table month) = some (some ⟨table.parentTable, monthBound month⟩) := by
  constructor
  · rintro ⟨relation, stored, attached⟩
    have stands := standing_of_mem stored
    rw [attached] at stands
    rcases ok.monthly table managed relation.relname _ stands with ⟨never, _⟩ | ⟨other, named, bound⟩
    · cases never
    · have same : month = other := monthBound_inj bound
      rw [same, ← named, stands, ← bound]
  · intro stands
    obtain ⟨relation, found, attached⟩ := Option.map_eq_some_iff.mp stands
    exact ⟨relation, Table.mem_of_find? found, attached⟩

theorem apart_of_ok (ok : CatalogOk catalog) (managed : table ∈ partitionedTableConfigs) {first second : Relation}
    {one other : PartitionBound} (stored : first ∈ catalog.rows) (also : second ∈ catalog.rows)
    (attached : first.attachment = some ⟨table.parentTable, one⟩)
    (attachedToo : second.attachment = some ⟨table.parentTable, other⟩) (differs : first ≠ second) :
    one.overlaps other = false := by
  have named : first.relname ≠ second.relname := by
    intro same
    exact differs (Table.eq_of_find? (Table.find?_of_mem also) stored same)
  have stands := standing_of_mem stored
  have standsToo := standing_of_mem also
  rw [attached] at stands
  rw [attachedToo] at standsToo
  rcases ok.monthly table managed _ _ stands with ⟨rfl, default⟩ | ⟨month, named₁, rfl⟩
  · rcases ok.monthly table managed _ _ standsToo with ⟨rfl, defaultToo⟩ | ⟨later, _, rfl⟩
    · exact absurd (default.trans defaultToo.symm) named
    · rfl
  · rcases ok.monthly table managed _ _ standsToo with ⟨rfl, _⟩ | ⟨later, named₂, rfl⟩
    · rfl
    · apply monthBound_apart
      rintro rfl
      exact named (named₁.trans named₂.symm)

theorem monthStartUtc_offset {now : Nat} {offset : Nat} :
    monthStartUtc now (offset + 1) = utcMonthStart (utcMonth now + offset + 1) :=
  congrArg utcMonthStart (Int.add_assoc ..).symm

/-- The call has come through; what it left decides about nothing but the tables that stood loose before it. -/
theorem covered_iff (ok : CatalogOk catalog) (through : Progress catalog call fun _ _ => True) :
    Covered catalog call ↔ NothingLoose call := by
  constructor
  · intro covered table managed offset inside loose
    have has := covered.months table managed offset inside
    rw [monthStartUtc_offset] at has
    have attached := (hasPartition_iff ok managed).mp has
    have still := through.kept _ (by rw [loose]; rfl)
    rw [loose] at still
    cases still.symm.trans attached
  · intro clear
    have before : ∀ table ∈ partitionedTableConfigs, ∀ offset ≤ call.lookaheadMonths,
        (standing call.before (childOf table (utcMonth call.now + offset))).isSome →
        standing call.before (childOf table (utcMonth call.now + offset)) =
          some (some ⟨table.parentTable, monthBound (utcMonth call.now + offset)⟩) := by
      intro table managed offset inside there
      cases stands : standing call.before (childOf table (utcMonth call.now + offset)) with
      | none =>
        rw [stands] at there
        cases there
      | some value =>
        cases value with
        | none => exact absurd stands (clear table managed offset inside)
        | some attachment => rw [through.start.named table managed _ attachment stands]
    refine ⟨?_, ?_, ?_⟩
    · intro table managed offset inside
      rw [monthStartUtc_offset]
      apply (hasPartition_iff ok managed).mpr
      cases stood : standing call.before (childOf table (utcMonth call.now + offset)) with
      | some value =>
        have there : (standing call.before (childOf table (utcMonth call.now + offset))).isSome := by
          rw [stood]
          rfl
        rw [through.kept _ there]
        exact before table managed offset inside there
      | none =>
        obtain ⟨value, stands⟩ := Option.isSome_iff_exists.mp (through.there table managed offset inside trivial)
        obtain ⟨other, also, later, _, _, named, rfl⟩ := through.made _ value stood stands
        obtain ⟨rfl, months⟩ := childOf_inj managed also named
        rw [stands, months]
    · intro table managed first stored second also one other attached attachedToo differs
      exact apart_of_ok ok managed stored also attached attachedToo differs
    · intro result member
      obtain ⟨few, table, managed, named, counted⟩ := through.counted result member
      refine ⟨table, managed, named, ?_⟩
      intro offset inside
      rw [monthStartUtc_offset]
      apply (hasPartition_iff through.start managed).mpr
      exact before table managed offset (by omega) (counted offset inside)

end Coverage

def Program.returned : Program → Option EnsureCall
  | .ensured call => some call
  | .idle | .ensuring _ _ | .checking _ | .creating _ => none
  | .relocating _ | .months _ | .moving _ _ | .joining _ _ | .dropping _ => none

def ReturnsCovered (_ : Maintained) (_ : MaintenanceEvent) (next : Maintained) : Prop :=
  ∀ call, next.program.returned = some call → Covered next.catalog call

def ReturnsClear (_ : Maintained) (_ : MaintenanceEvent) (next : Maintained) : Prop :=
  ∀ call, next.program.returned = some call → NothingLoose call

/-- The calls that return have covered their months exactly where each of them started with no table of such a
month standing loose. -/
theorem coverage_iff {start : Maintained} (ok : CatalogOk start.catalog) (idle : start.program = .idle)
    (trace : List MaintenanceEvent) :
    Along maintenanceStep ReturnsCovered start trace ↔ Along maintenanceStep ReturnsClear start trace := by
  have agree : ∀ state event next, MaintainedOk state → maintenanceStep state event = some next →
      (ReturnsCovered state event next ↔ ReturnsClear state event next) := by
    intro state event next stateOk taken
    have nextOk := maintenanceStep_ok state event next stateOk taken
    apply forall_congr'
    intro call
    apply imp_congr_right
    intro returned
    have through : Progress next.catalog call fun _ _ => True := by
      have programOk := nextOk.program
      cases program : next.program with
      | ensured other =>
        rw [program] at returned programOk
        cases returned
        exact programOk
      | _ =>
        rw [program] at returned
        cases returned
    exact covered_iff nextOk.catalog through
  apply along_congr maintenanceStep_ok agree
  refine ⟨ok, ?_⟩
  rw [idle]
  trivial

section Traces

instance (call : EnsureCall) : Decidable (NothingLoose call) := by
  unfold NothingLoose
  infer_instance

instance (catalog : Catalog) (table : PartitionedTableConfig) (start stop : Timestamp) :
    Decidable (HasPartition catalog table start stop) := by
  unfold HasPartition
  infer_instance

def july : Int := 12 * 2026 + 6

def monthRelation (table : PartitionedTableConfig) (month : Int) : Relation where
  relname := childOf table month
  attachment := some ⟨table.parentTable, monthBound month⟩

def defaultRelation (table : PartitionedTableConfig) : Relation where
  relname := table.defaultPartition
  attachment := some ⟨table.parentTable, .default⟩

def oneMonth : Catalog :=
  ⟨partitionedTableConfigs.flatMap fun table => [defaultRelation table, monthRelation table july], by decide +kernel⟩

theorem default_ne_child {table other : PartitionedTableConfig} {month : Int}
    (managed : table ∈ partitionedTableConfigs) : table.defaultPartition ≠ childOf other month := by
  intro same
  have ends : ∀ table ∈ partitionedTableConfigs, table.defaultPartition.toList.getLast? = some 't' := by decide
  have last := ends table managed
  have digits : padded 2 (utcMonthIndex (utcMonthStart month) + 1).toNat ≠ [] :=
    List.ne_nil_of_length_pos (lt_of_lt_of_le (by decide) length_padded)
  rw [same, childOf, monthPartitionName, pad, String.toList_append, String.toList_ofList,
    List.getLast?_append_of_ne_nil _ digits] at last
  have digit := isDigit_of_mem_padded (List.mem_of_getLast? last)
  revert digit
  decide

theorem oneMonth_ok : CatalogOk oneMonth := by
  have rows : ∀ relation ∈ oneMonth.rows, ∃ table ∈ partitionedTableConfigs,
      relation = defaultRelation table ∨ relation = monthRelation table july := by
    intro relation member
    obtain ⟨table, managed, inside⟩ := List.mem_flatMap.mp member
    refine ⟨table, managed, ?_⟩
    simpa using inside
  have found : ∀ name attachment, standing oneMonth name = some (some attachment) →
      ∃ table ∈ partitionedTableConfigs,
        (name = table.defaultPartition ∧ attachment = ⟨table.parentTable, .default⟩) ∨
        (name = childOf table july ∧ attachment = ⟨table.parentTable, monthBound july⟩) := by
    intro name attachment stands
    obtain ⟨relation, stored, attached⟩ := Option.map_eq_some_iff.mp stands
    have keyed : relation.relname = name := Table.key_of_find? stored
    obtain ⟨table, managed, kind⟩ := rows relation (Table.mem_of_find? stored)
    refine ⟨table, managed, ?_⟩
    rcases kind with rfl | rfl
    · exact .inl ⟨keyed.symm, (Option.some.inj attached).symm⟩
    · exact .inr ⟨keyed.symm, (Option.some.inj attached).symm⟩
  constructor
  · intro table managed name bound stands
    obtain ⟨other, also, ⟨rfl, same⟩ | ⟨rfl, same⟩⟩ := found name _ stands
    · obtain ⟨parents, bounds⟩ := Attachment.mk.inj same
      exact .inl ⟨bounds, congrArg _ (table_of_parent also managed parents.symm)⟩
    · obtain ⟨parents, bounds⟩ := Attachment.mk.inj same
      exact .inr ⟨july, congrArg (childOf · july) (table_of_parent also managed parents.symm), bounds⟩
  · intro table managed month attachment stands
    obtain ⟨other, also, ⟨named, _⟩ | ⟨named, same⟩⟩ := found _ attachment stands
    · exact absurd named.symm (default_ne_child also)
    · obtain ⟨rfl, rfl⟩ := childOf_inj managed also named
      exact same

def midJuly : Nat := 1784073600000

def augustAhead : List MaintenanceEvent := .ensurePartitions midJuly 1 :: List.replicate 11 (.proceed [])

def checkClear (_ : Maintained) (_ : MaintenanceEvent) (next : Maintained) : Bool :=
  next.program.returned.all fun call => decide (NothingLoose call)

theorem returnsClear_of_check {state next : Maintained} {event : MaintenanceEvent}
    (checked : checkClear state event next = true) : ReturnsClear state event next := by
  intro call returned
  unfold checkClear at checked
  rw [returned] at checked
  exact of_decide_eq_true checked

/-- August is created for both tables, and both are covered. -/
theorem august_is_covered : Along maintenanceStep ReturnsCovered { catalog := oneMonth } augustAhead := by
  have checked : checkSteps maintenanceStep checkClear { catalog := oneMonth } augustAhead = true := by decide +kernel
  apply (coverage_iff oneMonth_ok rfl augustAhead).mpr
  exact along_mono (fun _ _ _ => returnsClear_of_check) (along_of_steps checked)

def eventsTable : PartitionedTableConfig where
  parentTable := "events"
  defaultPartition := "events_default"

/-- An early event of August waits in the default partition; its relocation stops once the table is created. -/
def stoppedRelocation : List MaintenanceEvent :=
  [.ingest eventsTable 1786752000000, .relocateAllDefaultRows, .proceed [], .proceed [], .crash]

def ensureAfterwards : List MaintenanceEvent := .ensurePartitions midJuly 1 :: List.replicate 9 (.proceed [])

/-- The next call takes August for covered and returns, while its table is attached to nothing. -/
theorem stopped_relocation_leaves_gap : ¬ ∀ (start : Maintained), CatalogOk start.catalog → start.program = .idle →
    ∀ trace, Along maintenanceStep ReturnsCovered start trace := by
  intro always
  have along := always { catalog := oneMonth } oneMonth_ok rfl
    ((stoppedRelocation ++ ensureAfterwards) ++ [.proceed []])
  have runs : (run maintenanceStep { catalog := oneMonth }
      ((stoppedRelocation ++ ensureAfterwards) ++ [.proceed []])).any (fun final =>
        final.program.returned.any fun call => decide (call.lookaheadMonths = 1 ∧
          ¬ HasPartition final.catalog eventsTable (monthStartUtc call.now 1) (monthStartUtc call.now 2))) = true := by
    decide +kernel
  obtain ⟨final, ran, gap⟩ := (Option.any_eq_true _ _).mp runs
  obtain ⟨call, returned, decided⟩ := (Option.any_eq_true _ _).mp gap
  obtain ⟨lookahead, uncovered⟩ := of_decide_eq_true decided
  obtain ⟨middle, before, last⟩ := run_append.mp ran
  obtain ⟨after, taken, done⟩ := run_cons.mp last
  cases done
  have covered := along_last along before taken call returned
  exact uncovered (covered.months eventsTable (by decide) 1 (by omega))


end Traces

end LocalCrm.Partitions
