import LocalCrm.Flows.Enrolment
import LocalCrm.Flows.Repository
import LocalCrm.Library.Interleaving

/-! The re-entry limits over concurrent enrolments. -/

set_option autoImplicit false

namespace LocalCrm.Flows

open Library

structure Enrolments where
  tables : FlowTables
  pending : List (Nat × FlowRunRow) := []
  clock : Timestamp := 0

structure Enroller where
  loaded : List FlowRow := []
  startedAt : Option Timestamp := none
  admitted : Option (FlowRow × ContactId) := none
  deriving DecidableEq

inductive EnrolTurn where
  | load (workspaceId : WorkspaceId) (flowId : FlowId)
  | begin
  | check (flow : FlowRow) (contactId : ContactId)
  | insert (flowRunId : FlowRunId)
  | commit
  | rollback
  | finish
  deriving DecidableEq

inductive EnrolEvent where
  | elapse (milliseconds : Nat)
  | advance (workspaceId : WorkspaceId) (flowRunId : FlowRunId) (seen : Observed)
  | setReentry (flowId : FlowId) (mode : ReentryMode) (windowDays : Option Nat)

def FlowRow.entryParams (flow : FlowRow) (contactId : ContactId) : CanEnterFlowParams where
  workspaceId := flow.workspaceId
  flowId := flow.id
  contactId
  reentryMode := flow.reentryMode
  reentryWindowDays := flow.reentryWindowDays

section Turns

variable (id : Nat) (store : Enrolments)

def Enrolments.own : List FlowRunRow := (store.pending.filter fun entry => entry.1 == id).map Prod.snd

/-- A transaction sees what is committed and what it wrote itself. -/
def Enrolments.view : FlowTables :=
  { store.tables with flowRuns := (store.own id).foldl Table.insert store.tables.flowRuns }

/-- The unique index makes an insertion wait for another transaction's uncommitted run. -/
def Enrolments.blocked (flow : FlowRow) (contactId : ContactId) : Bool :=
  store.pending.any fun entry => entry.1 != id && entry.2.isFor flow.workspaceId flow.id contactId

def Enrolments.taken (flowRunId : FlowRunId) : Bool :=
  (store.tables.flowRuns.find? flowRunId).isSome || store.pending.any fun entry => entry.2.id == flowRunId

def checkEntry (enroller : Enroller) (flow : FlowRow) (contactId : ContactId) : Enroller :=
  match (store.view id).canEnterFlow store.clock (flow.entryParams contactId) with
  | .ok _ => { enroller with admitted := some (flow, contactId) }
  | .error _ => { enroller with admitted := none }

def insertAdmitted (startedAt : Timestamp) (flow : FlowRow) (contactId : ContactId) (flowRunId : FlowRunId) :
    Enrolments :=
  match flow.liveVersionId with
  | none => store
  | some liveVersionId =>
    if (store.view id).hasActiveRun flow.workspaceId flow.id contactId then store
    else
      let run := store.tables.newRun startedAt flowRunId flow.workspaceId flow.id liveVersionId contactId
      { store with pending := store.pending ++ [(id, run)] }

def dropPending : Enrolments := { store with pending := store.pending.filter fun entry => entry.1 != id }

def enrolTurn (enroller : Enroller) : EnrolTurn → Option (Enrolments × Enroller)
  | .load workspaceId flowId =>
    some (store, { enroller with loaded := enroller.loaded ++ (store.tables.flow? workspaceId flowId).toList })
  | .begin =>
    match enroller.startedAt with
    | some _ => none
    | none => some (store, { enroller with startedAt := some store.clock })
  | .check flow contactId =>
    if enroller.startedAt.isSome ∧ flow ∈ enroller.loaded then some (store, checkEntry id store enroller flow contactId)
    else none
  | .insert flowRunId =>
    match enroller.startedAt, enroller.admitted with
    | some startedAt, some (flow, contactId) =>
      if store.blocked id flow contactId ∨ store.taken flowRunId then none
      else some (insertAdmitted id store startedAt flow contactId flowRunId, { enroller with admitted := none })
    | _, _ => none
  | .commit =>
    some ({ dropPending id store with tables := store.view id }, { enroller with startedAt := none, admitted := none })
  | .rollback => some (dropPending id store, { enroller with startedAt := none, admitted := none })
  | .finish => some (dropPending id store, {})

def enrolEvent (store : Enrolments) : EnrolEvent → Option Enrolments
  | .elapse milliseconds => some { store with clock := store.clock + milliseconds }
  | .advance workspaceId flowRunId seen =>
    match advanceStored seen store.tables workspaceId flowRunId with
    | .ok tables => some { store with tables }
    | .error _ => some store
  | .setReentry flowId reentryMode reentryWindowDays =>
    let flows := store.tables.flows.update (fun flow => flow.id == flowId) fun flow =>
      { flow with reentryMode, reentryWindowDays }
    some { store with tables := { store.tables with flows } }

end Turns

abbrev EnrolThreads := Threads Enrolments Enroller

def enrolStep : EnrolThreads → Turn EnrolTurn EnrolEvent → Option EnrolThreads := interleave enrolTurn enrolEvent

def enrolStart (flows : Table FlowRow.id) (versions : Table FlowVersionRow.id) (clock : Timestamp) : EnrolThreads where
  shared := { tables := { flows, flowVersions := versions }, clock }
  own _ := {}

def FlowRunRow.samePair (run other : FlowRunRow) : Prop :=
  run.workspaceId = other.workspaceId ∧ run.flowId = other.flowId ∧ run.contactId = other.contactId

theorem isFor_iff {run : FlowRunRow} {workspaceId : WorkspaceId} {flowId : FlowId} {contactId : ContactId} :
    run.isFor workspaceId flowId contactId = true ↔
      run.workspaceId = workspaceId ∧ run.flowId = flowId ∧ run.contactId = contactId := by
  simp [FlowRunRow.isFor, and_assoc]

section Uniqueness

variable {id : Nat} {store next : Enrolments} {enroller after : Enroller} {run other : FlowRunRow}

def Enrolments.Committed (store : Enrolments) (run : FlowRunRow) : Prop :=
  store.tables.flowRuns.find? run.id = some run

def Enrolments.Exists (store : Enrolments) (run : FlowRunRow) : Prop :=
  store.Committed run ∨ ∃ thread, (thread, run) ∈ store.pending

structure Indexed (store : Enrolments) : Prop where
  oneActive : ∀ run other, store.Exists run → store.Exists other → run.status.active → other.status.active →
    run.samePair other → run.id = other.id
  entry : ∀ run, store.Exists run → run.enteredAt = run.lastEntryAt
  active : ∀ entry ∈ store.pending, entry.2.status.active
  once : ∀ entry ∈ store.pending, ∀ other ∈ store.pending, entry.2.id = other.2.id → entry = other
  fresh : ∀ entry ∈ store.pending, store.tables.flowRuns.find? entry.2.id = none

theorem mem_own : run ∈ store.own id ↔ (id, run) ∈ store.pending := by
  simp [Enrolments.own]

variable {flowRunId : FlowRunId}

theorem view_old (found : store.tables.flowRuns.find? flowRunId = some run) :
    (store.view id).flowRuns.find? flowRunId = some run := Table.find?_foldl_insert_old found

theorem view_own (indexed : Indexed store) (mine : (id, run) ∈ store.pending) :
    (store.view id).flowRuns.find? run.id = some run := by
  apply Table.find?_foldl_insert
  · intro row member
    exact .inl (indexed.fresh (id, row) (mem_own.mp member))
  · intro row member other also same
    exact congrArg Prod.snd (indexed.once (id, row) (mem_own.mp member) (id, other) (mem_own.mp also) same)
  · exact mem_own.mpr mine

theorem of_view (found : (store.view id).flowRuns.find? flowRunId = some run) :
    store.Committed run ∨ (id, run) ∈ store.pending := by
  have keyed := Table.key_of_find? found
  subst keyed
  exact (Table.mem_of_find?_foldl_insert found).imp_right mem_own.mp

theorem mem_runsOf {tables : FlowTables} {workspaceId : WorkspaceId} {flowId : FlowId} {contactId : ContactId} :
    run ∈ tables.runsOf workspaceId flowId contactId ↔
      tables.flowRuns.find? run.id = some run ∧ run.isFor workspaceId flowId contactId = true := by
  unfold FlowTables.runsOf
  rw [List.mem_filter, Table.find?_iff]
  simp

theorem hasActiveRun_iff {tables : FlowTables} {workspaceId : WorkspaceId} {flowId : FlowId} {contactId : ContactId} :
    tables.hasActiveRun workspaceId flowId contactId = true ↔
      ∃ run, tables.flowRuns.find? run.id = some run ∧ run.isFor workspaceId flowId contactId = true ∧
        run.status.active = true := by
  unfold FlowTables.hasActiveRun
  rw [List.any_eq_true]
  constructor
  · rintro ⟨run, member, active⟩
    exact ⟨run, (mem_runsOf.mp member).1, (mem_runsOf.mp member).2, active⟩
  · rintro ⟨run, found, pair, active⟩
    exact ⟨run, mem_runsOf.mpr ⟨found, pair⟩, active⟩

theorem indexed_of_fewer (indexed : Indexed store) (tables : store.tables.flowRuns = next.tables.flowRuns)
    (pending : next.pending ⊆ store.pending) : Indexed next := by
  have exists_ : ∀ run, next.Exists run → store.Exists run := by
    intro run there
    rcases there with committed | ⟨thread, member⟩
    · exact .inl (by rw [Enrolments.Committed, tables]; exact committed)
    · exact .inr ⟨thread, pending member⟩
  constructor
  · intro run other first second
    exact indexed.oneActive run other (exists_ run first) (exists_ other second)
  · intro run there
    exact indexed.entry run (exists_ run there)
  · intro entry member
    exact indexed.active entry (pending member)
  · intro entry member other also
    exact indexed.once entry (pending member) other (pending also)
  · intro entry member
    rw [← tables]
    exact indexed.fresh entry (pending member)

theorem indexed_commit (indexed : Indexed store) : Indexed { dropPending id store with tables := store.view id } := by
  have exists_ : ∀ run, Enrolments.Exists { dropPending id store with tables := store.view id } run →
      store.Exists run := by
    intro run there
    rcases there with committed | ⟨thread, member⟩
    · exact (of_view committed).imp_right fun mine => ⟨id, mine⟩
    · exact .inr ⟨thread, (List.mem_filter.mp member).1⟩
  constructor
  · intro run other first second
    exact indexed.oneActive run other (exists_ run first) (exists_ other second)
  · intro run there
    exact indexed.entry run (exists_ run there)
  · intro entry member
    exact indexed.active entry (List.mem_filter.mp member).1
  · intro entry member other also
    exact indexed.once entry (List.mem_filter.mp member).1 other (List.mem_filter.mp also).1
  · intro entry member
    obtain ⟨inside, others⟩ := List.mem_filter.mp member
    cases found : (store.view id).flowRuns.find? entry.2.id with
    | none => rfl
    | some row =>
      have keyed := Table.key_of_find? found
      rcases of_view found with committed | mine
      · have missing := indexed.fresh entry inside
        rw [← keyed] at missing
        rw [Enrolments.Committed, missing] at committed
        cases committed
      · have same := indexed.once (id, row) mine entry inside keyed
        simp [← same] at others

theorem indexed_insert {startedAt : Timestamp} {flow : FlowRow} {contactId : ContactId}
    (indexed : Indexed store) (free : store.blocked id flow contactId = false) (unused : store.taken flowRunId = false) :
    Indexed (insertAdmitted id store startedAt flow contactId flowRunId) := by
  unfold insertAdmitted
  split
  · exact indexed
  · next liveVersionId live =>
    split
    · exact indexed
    · next inactive =>
      simp only [Enrolments.taken, Bool.or_eq_false_iff, List.any_eq_false, beq_iff_eq] at unused
      obtain ⟨missing, unclaimed⟩ := unused
      rw [Option.isSome_eq_false_iff, Option.isNone_iff_eq_none] at missing
      simp only [Enrolments.blocked, List.any_eq_false, Bool.and_eq_true, bne_iff_ne, not_and] at free
      generalize inserted : store.tables.newRun startedAt flowRunId flow.workspaceId flow.id liveVersionId contactId = new
      have named : new.id = flowRunId := by rw [← inserted]; rfl
      have pair : ∀ run : FlowRunRow, run.samePair new → run.isFor flow.workspaceId flow.id contactId = true := by
        intro run same
        rw [← inserted] at same
        exact isFor_iff.mpr same
      -- nothing that exists is an active run of the same contact in the same flow
      have alone : ∀ run, store.Exists run → run.status.active → ¬ run.samePair new := by
        intro run there active same
        have shown : ∀ found : (store.view id).flowRuns.find? run.id = some run, False := by
          intro found
          exact inactive (hasActiveRun_iff.mpr ⟨run, found, pair run same, active⟩)
        rcases there with committed | ⟨thread, member⟩
        · exact shown (view_old committed)
        · by_cases mine : thread = id
          · subst mine
            exact shown (view_own indexed member)
          · exact free (thread, run) member mine (pair run same)
      have exists_ : ∀ run, Enrolments.Exists { store with pending := store.pending ++ [(id, new)] } run →
          store.Exists run ∨ run = new := by
        intro run there
        rcases there with committed | ⟨thread, member⟩
        · exact .inl (.inl committed)
        · rcases List.mem_append.mp member with old | last
          · exact .inl (.inr ⟨thread, old⟩)
          · rw [List.mem_singleton] at last
            exact .inr (congrArg Prod.snd last)
      constructor
      · intro run other first second activeRun activeOther same
        rcases exists_ run first with old | rfl
        · rcases exists_ other second with also | rfl
          · exact indexed.oneActive run other old also activeRun activeOther same
          · exact absurd same (alone run old activeRun)
        · rcases exists_ other second with also | rfl
          · exact absurd ⟨same.1.symm, same.2.1.symm, same.2.2.symm⟩ (alone other also activeOther)
          · rfl
      · intro run there
        rcases exists_ run there with old | rfl
        · exact indexed.entry run old
        · rw [← inserted]
          rfl
      · intro entry member
        rcases List.mem_append.mp member with old | last
        · exact indexed.active entry old
        · rw [List.mem_singleton.mp last, ← inserted]
          rfl
      · intro entry member other also same
        rcases List.mem_append.mp member with old | last
        · rcases List.mem_append.mp also with alsoOld | alsoLast
          · exact indexed.once entry old other alsoOld same
          · rw [List.mem_singleton.mp alsoLast] at same
            exact absurd (same.trans named) (unclaimed entry old)
        · rcases List.mem_append.mp also with alsoOld | alsoLast
          · rw [List.mem_singleton.mp last] at same
            exact absurd (same.symm.trans named) (unclaimed other alsoOld)
          · rw [List.mem_singleton.mp last, List.mem_singleton.mp alsoLast]
      · intro entry member
        rcases List.mem_append.mp member with old | last
        · exact indexed.fresh entry old
        · rw [List.mem_singleton.mp last]
          show store.tables.flowRuns.find? new.id = none
          rw [named]
          exact missing

theorem advanceStored_runs {seen : Observed} {tables next : FlowTables} {workspaceId : WorkspaceId}
    (advanced : advanceStored seen tables workspaceId flowRunId = .ok next) : next.flows = tables.flows ∧
    (∀ wanted, (tables.flowRuns.find? wanted).isSome = (next.flowRuns.find? wanted).isSome) ∧
    ∀ wanted run, next.flowRuns.find? wanted = some run → ∃ old, tables.flowRuns.find? wanted = some old ∧
      run.samePair old ∧ run.enteredAt = old.enteredAt ∧ run.lastEntryAt = old.lastEntryAt ∧
      (run.status.active → old.status.active) := by
  rcases advanceStored_cases advanced with rfl | ⟨old, result, stored, executes, found, rfl⟩
  · exact ⟨rfl, fun _ => rfl, fun wanted run found => ⟨run, found, ⟨rfl, rfl, rfl⟩, rfl, rfl, id⟩⟩
  · refine ⟨rfl, ?_, ?_⟩
    · intro wanted
      rw [found]
      split
      · next same =>
        rw [same, stored]
        rfl
      · rfl
    · intro wanted run after
      rw [found] at after
      split at after
      · next same =>
        cases after
        refine ⟨old, same ▸ stored, executes.flow, executes.entry.1, executes.entry.2, ?_⟩
        intro active
        cases before : old.status.active with
        | true => rfl
        | false =>
          rw [executes.ended before] at active
          cases active
      · exact ⟨run, after, ⟨rfl, rfl, rfl⟩, rfl, rfl, fun active => active⟩

theorem advanceStored_snapshot {seen : Observed} {tables next : FlowTables} {workspaceId : WorkspaceId}
    (advanced : advanceStored seen tables workspaceId flowRunId = .ok next) :
    next.membershipSnapshot = tables.membershipSnapshot := by
  rcases advanceStored_cases advanced with rfl | ⟨_, _, _, _, _, rfl⟩ <;> rfl

theorem advanceEvent_taken {next : Enrolments} {workspaceId : WorkspaceId} {seen : Observed}
    (happened : enrolEvent store (.advance workspaceId flowRunId seen) = some next) :
    next = store ∨
      ∃ tables, advanceStored seen store.tables workspaceId flowRunId = .ok tables ∧ next = { store with tables } := by
  simp only [enrolEvent] at happened
  split at happened
  · next tables advanced =>
    cases happened
    exact .inr ⟨tables, advanced, rfl⟩
  · cases happened
    exact .inl rfl

theorem exists_advance {seen : Observed} {tables : FlowTables} {workspaceId : WorkspaceId}
    (advanced : advanceStored seen store.tables workspaceId flowRunId = .ok tables)
    (there : Enrolments.Exists { store with tables } run) : ∃ old, store.Exists old ∧ run.id = old.id ∧
      run.samePair old ∧ run.enteredAt = old.enteredAt ∧ run.lastEntryAt = old.lastEntryAt ∧
      (run.status.active → old.status.active) := by
  obtain ⟨_, _, runs⟩ := advanceStored_runs advanced
  rcases there with committed | pending
  · obtain ⟨old, stored, pair, entered, entry, active⟩ := runs run.id run committed
    have keyed := Table.key_of_find? stored
    exact ⟨old, .inl (by rw [Enrolments.Committed, keyed]; exact stored), keyed.symm, pair, entered, entry, active⟩
  · exact ⟨run, .inr pending, rfl, ⟨rfl, rfl, rfl⟩, rfl, rfl, fun active => active⟩

theorem indexed_advance {seen : Observed} {tables : FlowTables} {workspaceId : WorkspaceId}
    (indexed : Indexed store) (advanced : advanceStored seen store.tables workspaceId flowRunId = .ok tables) :
    Indexed { store with tables } := by
  constructor
  · intro run other first second activeRun activeOther same
    obtain ⟨old, there, named, pair, _, _, active⟩ := exists_advance advanced first
    obtain ⟨oldOther, also, namedOther, pairOther, _, _, activeToo⟩ := exists_advance advanced second
    rw [named, namedOther]
    apply indexed.oneActive old oldOther there also (active activeRun) (activeToo activeOther)
    exact ⟨pair.1.symm.trans (same.1.trans pairOther.1), pair.2.1.symm.trans (same.2.1.trans pairOther.2.1),
      pair.2.2.symm.trans (same.2.2.trans pairOther.2.2)⟩
  · intro run there
    obtain ⟨old, before, _, _, entered, entry, _⟩ := exists_advance advanced there
    rw [entered, entry]
    exact indexed.entry old before
  · exact indexed.active
  · exact indexed.once
  · intro entry member
    have missing := indexed.fresh entry member
    rw [← Option.isNone_iff_eq_none, ← Option.not_isSome] at missing ⊢
    rw [(advanceStored_runs advanced).2.1] at missing
    exact missing

end Uniqueness

def FlowRow.windowMs (flow : FlowRow) : Int := flow.reentryWindowDays.getD 0 * millisecondsPerDay

def FlowRow.allows (flow : FlowRow) (earlier : FlowRunRow) (startedAt : Timestamp) : Prop :=
  match flow.reentryMode with
  | .everyTime => True
  | .onceEver => False
  | .oncePerNDays => earlier.lastEntryAt + flow.windowMs ≤ startedAt

def FlowRow.sameRule (flow other : FlowRow) : Prop :=
  flow.reentryMode = other.reentryMode ∧ flow.reentryWindowDays = other.reentryWindowDays

/-- No enrolment, end of a window or change of the rule comes between the check and the insertion of another
enrolment. -/
def Undisturbed (threads : EnrolThreads) (turn : Turn EnrolTurn EnrolEvent) (_ : EnrolThreads) : Prop :=
  match turn with
  | .thread id (.check flow contactId) =>
    ∀ startedAt, (threads.own id).startedAt = some startedAt →
      ∀ run ∈ (threads.shared.view id).runsOf flow.workspaceId flow.id contactId,
        run.lastEntryAt + flow.windowMs ≤ threads.shared.clock → run.lastEntryAt + flow.windowMs ≤ startedAt
  | .thread id .commit =>
    ∀ other, other ≠ id → ∀ flow contactId, (threads.own other).admitted = some (flow, contactId) →
      ∀ run, (id, run) ∈ threads.shared.pending → run.isFor flow.workspaceId flow.id contactId = false
  | .outside (.setReentry flowId _ _) =>
    (∀ id, ∀ flow ∈ (threads.own id).loaded, flow.id ≠ flowId) ∧
      ∀ entry ∈ threads.shared.pending, entry.2.flowId ≠ flowId
  | .thread _ (.load _ _) | .thread _ .begin | .thread _ (.insert _) | .thread _ .rollback | .thread _ .finish |
    .outside (.elapse _) | .outside (.advance _ _ _) => True

section Limits

variable {id : Nat} {store next : Enrolments} {enroller after : Enroller}

def PendingAllowed (store : Enrolments) : Prop :=
  ∀ thread run, (thread, run) ∈ store.pending → ∀ flow, store.tables.flows.find? run.flowId = some flow →
    ∀ earlier, store.Committed earlier → earlier.samePair run → flow.allows earlier run.lastEntryAt

structure EnrollerKnows (id : Nat) (store : Enrolments) (enroller : Enroller) : Prop where
  rule : ∀ flow ∈ enroller.loaded, ∃ current, store.tables.flows.find? flow.id = some current ∧ flow.sameRule current
  admitted : ∀ flow contactId, enroller.admitted = some (flow, contactId) → flow ∈ enroller.loaded ∧
    ∃ startedAt, enroller.startedAt = some startedAt ∧
      ∀ run ∈ (store.view id).runsOf flow.workspaceId flow.id contactId, flow.allows run startedAt

variable {flow : FlowRow} {startedAt : Timestamp} {mode : ReentryMode} {windowDays : Option Nat}

theorem allows_sameRule {current : FlowRow} {earlier : FlowRunRow}
    (same : flow.sameRule current) : flow.allows earlier startedAt ↔ current.allows earlier startedAt := by
  unfold FlowRow.allows FlowRow.windowMs
  rw [same.1, same.2]

theorem allows_entry {earlier other : FlowRunRow}
    (same : earlier.lastEntryAt = other.lastEntryAt) : flow.allows earlier startedAt ↔ flow.allows other startedAt := by
  unfold FlowRow.allows
  rw [same]

theorem canEnterFlow_ok {tables : FlowTables} {now : Timestamp} {contactId : ContactId}
    (entered : tables.canEnterFlow now (flow.entryParams contactId) = .ok ()) :
    ∀ run ∈ tables.runsOf flow.workspaceId flow.id contactId, flow.allows run now := by
  intro run member
  unfold FlowTables.canEnterFlow at entered
  split at entered
  · cases entered
  · unfold FlowRow.allows
    simp only [FlowRow.entryParams] at entered
    cases mode : flow.reentryMode with
    | everyTime => trivial
    | onceEver =>
      rw [mode] at entered
      simp only [List.isEmpty_iff] at entered
      split at entered
      · next empty =>
        rw [empty] at member
        cases member
      · cases entered
    | oncePerNDays =>
      rw [mode] at entered
      have listed : run.lastEntryAt ∈
          (tables.runsOf flow.workspaceId flow.id contactId).map FlowRunRow.lastEntryAt := List.mem_map_of_mem member
      cases latest : tables.lastEntryAt flow.workspaceId flow.id contactId with
      | none =>
        unfold FlowTables.lastEntryAt at latest
        rw [List.max?_eq_none_iff] at latest
        rw [latest] at listed
        cases listed
      | some last =>
        rw [latest] at entered
        have bound := (List.max?_le_iff latest).mp (Int.le_refl last) run.lastEntryAt listed
        by_cases passed : flow.reentryWindowDays.getD 0 * millisecondsPerDay ≤ now - last
        · unfold FlowRow.windowMs
          have sum : flow.reentryWindowDays.getD 0 * millisecondsPerDay + last ≤ now := by
            have moved := Int.add_le_add_right passed last
            rwa [Int.sub_add_cancel] at moved
          calc run.lastEntryAt + flow.reentryWindowDays.getD 0 * millisecondsPerDay
              ≤ last + flow.reentryWindowDays.getD 0 * millisecondsPerDay := Int.add_le_add_right bound _
            _ = flow.reentryWindowDays.getD 0 * millisecondsPerDay + last := Int.add_comm _ _
            _ ≤ now := sum
        · change (if flow.reentryWindowDays.getD 0 * millisecondsPerDay ≤ now - last then Except.ok ()
            else Except.error EntryRefusal.reentryWindow) = _ at entered
          rw [if_neg passed] at entered
          cases entered

theorem knows_initial : EnrollerKnows id store {} where
  rule _ member := by cases member
  admitted _ _ same := by cases same

theorem knows_of_pending (knows : EnrollerKnows id store enroller) (tables : next.tables = store.tables)
    (own : next.own id = store.own id) : EnrollerKnows id next enroller where
  rule := by
    rw [tables]
    exact knows.rule
  admitted := by
    intro flow contactId same
    obtain ⟨loaded, startedAt, started, allowed⟩ := knows.admitted flow contactId same
    refine ⟨loaded, startedAt, started, ?_⟩
    have view : next.view id = store.view id := by
      unfold Enrolments.view
      rw [own, tables]
    rw [view]
    exact allowed

theorem own_filter {thread : Nat} (differs : id ≠ thread) : (dropPending thread store).own id = store.own id := by
  unfold dropPending Enrolments.own
  rw [List.filter_filter]
  congr 1
  apply List.filter_congr
  intro entry _
  by_cases mine : entry.1 = id
  · simp [mine, differs]
  · simp [mine]

theorem knows_commit {thread : Nat} (indexed : Indexed store)
    (knows : EnrollerKnows id store enroller)
    (apart : ∀ flow contactId, enroller.admitted = some (flow, contactId) →
      ∀ run, (thread, run) ∈ store.pending → run.isFor flow.workspaceId flow.id contactId = false) :
    EnrollerKnows id { dropPending thread store with tables := store.view thread } enroller where
  rule := knows.rule
  admitted := by
    intro flow contactId same
    obtain ⟨loaded, startedAt, started, allowed⟩ := knows.admitted flow contactId same
    refine ⟨loaded, startedAt, started, ?_⟩
    intro run member
    obtain ⟨found, pair⟩ := mem_runsOf.mp member
    rcases of_view found with committed | mine
    · rcases of_view committed with old | theirs
      · exact allowed run (mem_runsOf.mpr ⟨view_old old, pair⟩)
      · rw [apart flow contactId same run theirs] at pair
        cases pair
    · have own : (id, run) ∈ store.pending := (List.mem_filter.mp mine).1
      exact allowed run (mem_runsOf.mpr ⟨view_own indexed own, pair⟩)

theorem knows_event (knows : EnrollerKnows id store enroller) (pending : next.pending = store.pending)
    (rules : ∀ flow ∈ enroller.loaded, ∀ current, store.tables.flows.find? flow.id = some current →
      ∃ later, next.tables.flows.find? flow.id = some later ∧ current.sameRule later)
    (runs : ∀ wanted run, next.tables.flowRuns.find? wanted = some run →
      ∃ old, store.tables.flowRuns.find? wanted = some old ∧ run.samePair old ∧ run.lastEntryAt = old.lastEntryAt)
    (fresh : Indexed store) : EnrollerKnows id next enroller where
  rule := by
    intro flow member
    obtain ⟨current, found, same⟩ := knows.rule flow member
    obtain ⟨later, kept, still⟩ := rules flow member current found
    exact ⟨later, kept, same.1.trans still.1, same.2.trans still.2⟩
  admitted := by
    intro flow contactId same
    obtain ⟨loaded, startedAt, started, allowed⟩ := knows.admitted flow contactId same
    refine ⟨loaded, startedAt, started, ?_⟩
    intro run member
    obtain ⟨found, pair⟩ := mem_runsOf.mp member
    rcases of_view found with committed | mine
    · obtain ⟨old, stored, samePair, entry⟩ := runs run.id run committed
      have keyed := Table.key_of_find? stored
      have oldPair : old.isFor flow.workspaceId flow.id contactId = true := by
        rw [isFor_iff] at pair ⊢
        exact ⟨samePair.1.symm.trans pair.1, samePair.2.1.symm.trans pair.2.1, samePair.2.2.symm.trans pair.2.2⟩
      rw [allows_entry entry]
      exact allowed old (mem_runsOf.mpr ⟨view_old (by rw [keyed]; exact stored), oldPair⟩)
    · rw [pending] at mine
      exact allowed run (mem_runsOf.mpr ⟨view_own fresh mine, pair⟩)

theorem pendingAllowed_insert {contactId : ContactId} {flowRunId : FlowRunId}
    (allowed : PendingAllowed store) (knows : EnrollerKnows id store enroller)
    (started : enroller.startedAt = some startedAt) (admitted : enroller.admitted = some (flow, contactId)) :
    PendingAllowed (insertAdmitted id store startedAt flow contactId flowRunId) := by
  unfold insertAdmitted
  split
  · exact allowed
  · next liveVersionId live =>
    split
    · exact allowed
    · intro thread run member current found earlier committed same
      rcases List.mem_append.mp member with old | last
      · exact allowed thread run old current found earlier committed same
      · rw [List.mem_singleton] at last
        have new := congrArg Prod.snd last
        subst new
        obtain ⟨loaded, began, startedHere, passed⟩ := knows.admitted flow contactId admitted
        cases started.symm.trans startedHere
        obtain ⟨stored, stands, rule⟩ := knows.rule flow loaded
        cases stands.symm.trans found
        exact (allows_sameRule rule).mp (passed earlier (mem_runsOf.mpr ⟨view_old committed, isFor_iff.mpr same⟩))

theorem pendingAllowed_commit (allowed : PendingAllowed store) (indexed : Indexed store) :
    PendingAllowed { dropPending id store with tables := store.view id } := by
  intro thread run member flow found earlier committed same
  obtain ⟨inside, others⟩ := List.mem_filter.mp member
  rcases of_view committed with old | mine
  · exact allowed thread run inside flow found earlier old same
  · -- two waiting insertions for one contact would break the unique index
    have one := indexed.oneActive earlier run (.inr ⟨id, mine⟩) (.inr ⟨thread, inside⟩)
      (indexed.active _ mine) (indexed.active _ inside) same
    have equal := indexed.once (id, earlier) mine (thread, run) inside one
    exact absurd (congrArg Prod.fst equal).symm (by simpa using others)

structure Ordered (threads : EnrolThreads) : Prop where
  indexed : Indexed threads.shared
  allowed : PendingAllowed threads.shared
  knows : ∀ id, EnrollerKnows id threads.shared (threads.own id)

theorem ordered_update {threads : EnrolThreads} {shared : Enrolments} {own : Enroller} (indexed : Indexed shared)
    (allowed : PendingAllowed shared) (mine : EnrollerKnows id shared own)
    (others : ∀ other, other ≠ id → EnrollerKnows other shared (threads.own other)) :
    Ordered { shared := shared, own := Function.update threads.own id own } where
  indexed := indexed
  allowed := allowed
  knows other := by
    by_cases same : other = id
    · subst same
      simpa only [Function.update_self] using mine
    · simpa only [Function.update_of_ne same] using others other same

theorem checkEntry_knows {contactId : ContactId}
    (knows : EnrollerKnows id store enroller) (started : enroller.startedAt = some startedAt)
    (loaded : flow ∈ enroller.loaded)
    (window : ∀ run ∈ (store.view id).runsOf flow.workspaceId flow.id contactId,
      run.lastEntryAt + flow.windowMs ≤ store.clock → run.lastEntryAt + flow.windowMs ≤ startedAt) :
    EnrollerKnows id store (checkEntry id store enroller flow contactId) := by
  unfold checkEntry
  split
  · next entered =>
    constructor
    · exact knows.rule
    · intro other otherContact same
      cases same
      refine ⟨loaded, startedAt, started, ?_⟩
      intro run member
      have allowed := canEnterFlow_ok entered run member
      unfold FlowRow.allows at allowed ⊢
      cases mode : flow.reentryMode with
      | everyTime => trivial
      | onceEver =>
        rw [mode] at allowed
        exact allowed
      | oncePerNDays =>
        rw [mode] at allowed
        exact window run member allowed
  · exact ⟨knows.rule, fun _ _ same => by cases same⟩

theorem own_append {thread : Nat} {run : FlowRunRow} (differs : id ≠ thread) :
    Enrolments.own id { store with pending := store.pending ++ [(thread, run)] } = store.own id := by
  unfold Enrolments.own
  simp [Ne.symm differs]

theorem insertAdmitted_others {thread : Nat} {startedAt : Timestamp} {flow : FlowRow} {contactId : ContactId}
    {flowRunId : FlowRunId} (differs : id ≠ thread) :
    (insertAdmitted thread store startedAt flow contactId flowRunId).tables = store.tables ∧
      (insertAdmitted thread store startedAt flow contactId flowRunId).own id = store.own id := by
  unfold insertAdmitted
  split
  · exact ⟨rfl, rfl⟩
  · split
    · exact ⟨rfl, rfl⟩
    · exact ⟨rfl, own_append differs⟩

theorem insertAdmitted_tables {startedAt : Timestamp} {flow : FlowRow} {contactId : ContactId} {flowRunId : FlowRunId} :
    (insertAdmitted id store startedAt flow contactId flowRunId).tables = store.tables := by
  unfold insertAdmitted
  split
  · rfl
  · split <;> rfl

theorem insertAdmitted_pending {contactId : ContactId} {flowRunId : FlowRunId}
    {entry : Nat × FlowRunRow} (member : entry ∈ (insertAdmitted id store startedAt flow contactId flowRunId).pending) :
    entry ∈ store.pending ∨ entry.1 = id ∧ entry.2.id = flowRunId ∧
      entry.2.isFor flow.workspaceId flow.id contactId = true ∧
      (store.view id).hasActiveRun flow.workspaceId flow.id contactId = false := by
  unfold insertAdmitted at member
  split at member
  · exact .inl member
  · split at member
    · exact .inl member
    · next inactive =>
      rcases List.mem_append.mp member with old | last
      · exact .inl old
      · rw [List.mem_singleton.mp last]
        exact .inr ⟨rfl, rfl, isFor_iff.mpr ⟨rfl, rfl, rfl⟩, Bool.eq_false_iff.mpr inactive⟩

theorem drop_ordered {threads : EnrolThreads} {own : Enroller} (ordered : Ordered threads)
    (loaded : own.loaded ⊆ (threads.own id).loaded) (unadmitted : own.admitted = none) :
    Ordered { shared := dropPending id threads.shared, own := Function.update threads.own id own } := by
  apply ordered_update
  · exact indexed_of_fewer ordered.indexed rfl (List.filter_subset_self _)
  · intro thread run member
    exact ordered.allowed thread run (List.mem_filter.mp member).1
  · constructor
    · intro flow member
      exact (ordered.knows id).rule flow (loaded member)
    · intro flow contactId same
      rw [unadmitted] at same
      cases same
  · intro other differs
    exact knows_of_pending (ordered.knows other) rfl (own_filter differs)

theorem ordered_turn {threads : EnrolThreads} {shared : Enrolments} {own : Enroller} {choice : EnrolTurn}
    (ordered : Ordered threads)
    (undisturbed : Undisturbed threads (.thread id choice)
      { shared := shared, own := Function.update threads.own id own })
    (acted : enrolTurn id threads.shared (threads.own id) choice = some (shared, own)) :
    Ordered { shared := shared, own := Function.update threads.own id own } := by
  have knows := ordered.knows id
  cases choice with
  | load workspaceId flowId =>
    cases acted
    apply ordered_update ordered.indexed ordered.allowed _ (fun other _ => ordered.knows other)
    constructor
    · intro flow member
      rcases List.mem_append.mp member with old | new
      · exact knows.rule flow old
      · obtain ⟨stored, _⟩ := Option.filter_eq_some_iff.mp (Option.mem_toList.mp new)
        have keyed := Table.key_of_find? stored
        exact ⟨flow, by rw [keyed]; exact stored, rfl, rfl⟩
    · intro flow contactId same
      obtain ⟨loaded, rest⟩ := knows.admitted flow contactId same
      exact ⟨List.mem_append_left _ loaded, rest⟩
  | begin =>
    simp only [enrolTurn] at acted
    split at acted
    · cases acted
    · next idle =>
      cases acted
      apply ordered_update ordered.indexed ordered.allowed _ (fun other _ => ordered.knows other)
      constructor
      · exact knows.rule
      · intro flow contactId same
        obtain ⟨_, startedAt, started, _⟩ := knows.admitted flow contactId same
        rw [idle] at started
        cases started
  | check flow contactId =>
    simp only [enrolTurn] at acted
    split at acted
    · next ready =>
      cases acted
      obtain ⟨startedAt, started⟩ := Option.isSome_iff_exists.mp ready.1
      apply ordered_update ordered.indexed ordered.allowed _ (fun other _ => ordered.knows other)
      exact checkEntry_knows knows started ready.2 (undisturbed startedAt started)
    · cases acted
  | insert flowRunId =>
    simp only [enrolTurn] at acted
    split at acted
    · next startedAt flow contactId started admitted =>
      split at acted
      · cases acted
      · next clear =>
        cases acted
        simp only [not_or, Bool.not_eq_true] at clear
        apply ordered_update
        · exact indexed_insert ordered.indexed clear.1 clear.2
        · exact pendingAllowed_insert ordered.allowed knows started admitted
        · constructor
          · rw [insertAdmitted_tables]
            exact knows.rule
          · intro other otherContact same
            cases same
        · intro other differs
          obtain ⟨tables, same⟩ := @insertAdmitted_others other threads.shared id startedAt flow contactId flowRunId differs
          exact knows_of_pending (ordered.knows other) tables same
    · cases acted
  | commit =>
    cases acted
    apply ordered_update
    · exact indexed_commit ordered.indexed
    · exact pendingAllowed_commit ordered.allowed ordered.indexed
    · constructor
      · exact knows.rule
      · intro flow contactId same
        cases same
    · intro other differs
      exact knows_commit ordered.indexed (ordered.knows other) (undisturbed other differs)
  | rollback =>
    cases acted
    exact drop_ordered ordered (List.Subset.refl _) rfl
  | finish =>
    cases acted
    exact drop_ordered ordered (List.nil_subset _) rfl

theorem ordered_event {threads : EnrolThreads} {shared : Enrolments} {event : EnrolEvent} (ordered : Ordered threads)
    (undisturbed : Undisturbed threads (.outside event) { threads with shared := shared })
    (happened : enrolEvent threads.shared event = some shared) : Ordered { threads with shared := shared } := by
  cases event with
  | elapse milliseconds =>
    cases happened
    exact ⟨indexed_of_fewer ordered.indexed rfl (List.Subset.refl _), ordered.allowed,
      fun id => knows_of_pending (ordered.knows id) rfl rfl⟩
  | advance workspaceId flowRunId seen =>
    rcases advanceEvent_taken happened with rfl | ⟨tables, advanced, rfl⟩
    · exact ordered
    · obtain ⟨flows, _, runs⟩ := advanceStored_runs advanced
      constructor
      · exact indexed_advance ordered.indexed advanced
      · intro thread run member flow found earlier committed same
        obtain ⟨old, stored, pair, _, entry, _⟩ := runs earlier.id earlier committed
        have keyed := Table.key_of_find? stored
        rw [allows_entry entry]
        apply ordered.allowed thread run member flow (by rw [← flows]; exact found) old
        · rw [Enrolments.Committed, keyed]
          exact stored
        · exact ⟨pair.1.symm.trans same.1, pair.2.1.symm.trans same.2.1, pair.2.2.symm.trans same.2.2⟩
      · intro id
        refine knows_event (ordered.knows id) ?_ ?_ ?_ ordered.indexed
        · rfl
        · intro flow _ current found
          exact ⟨current, by rw [flows]; exact found, rfl, rfl⟩
        · intro wanted run found
          obtain ⟨old, stored, pair, _, entry, _⟩ := runs wanted run found
          exact ⟨old, stored, pair, entry⟩
  | setReentry flowId mode windowDays =>
    cases happened
    obtain ⟨unread, unclaimed⟩ := undisturbed
    have elsewhere : ∀ other, other ≠ flowId →
        (threads.shared.tables.flows.update (fun flow => flow.id == flowId)
          fun flow => { flow with reentryMode := mode, reentryWindowDays := windowDays }).find? other =
          threads.shared.tables.flows.find? other := by
      intro other differs
      rw [Table.find?_update]
      cases found : threads.shared.tables.flows.find? other with
      | none => rfl
      | some flow =>
        have keyed := Table.key_of_find? found
        simp [keyed, differs]
    constructor
    · exact indexed_of_fewer ordered.indexed rfl (List.Subset.refl _)
    · intro thread run member flow found earlier committed same
      apply ordered.allowed thread run member flow _ earlier committed same
      rw [← elsewhere run.flowId (unclaimed (thread, run) member)]
      exact found
    · intro id
      refine knows_event (ordered.knows id) ?_ ?_ ?_ ordered.indexed
      · rfl
      · intro flow member current found
        exact ⟨current, (elsewhere flow.id (unread id flow member)).trans found, rfl, rfl⟩
      · intro wanted run found
        exact ⟨run, found, ⟨rfl, rfl, rfl⟩, rfl⟩

theorem ordered_step (threads : EnrolThreads) (turn : Turn EnrolTurn EnrolEvent) (next : EnrolThreads)
    (ordered : Ordered threads) (undisturbed : Undisturbed threads turn next) (taken : enrolStep threads turn = some next) :
    Ordered next := by
  cases turn with
  | thread id choice =>
    obtain ⟨shared, own, acted, rfl⟩ := interleave_thread.mp taken
    exact ordered_turn ordered undisturbed acted
  | outside event =>
    obtain ⟨shared, happened, rfl⟩ := interleave_outside.mp taken
    exact ordered_event ordered undisturbed happened

theorem ordered_start (flows : Table FlowRow.id) (versions : Table FlowVersionRow.id) (clock : Timestamp) :
    Ordered (enrolStart flows versions clock) where
  indexed := by
    have none : ∀ run, ¬ (enrolStart flows versions clock).shared.Exists run := by
      rintro run (committed | ⟨thread, member⟩)
      · cases committed
      · cases member
    constructor
    · intro run _ there
      exact absurd there (none run)
    · intro run there
      exact absurd there (none run)
    · intro entry member
      cases member
    · intro entry member
      cases member
    · intro entry member
      cases member
  allowed thread run member := by cases member
  knows _ := knows_initial

def Stays (flowId : FlowId) (mode : ReentryMode) (windowDays : Option Nat) (threads : EnrolThreads) : Prop :=
  ∃ flow, threads.shared.tables.flows.find? flowId = some flow ∧ flow.reentryMode = mode ∧
    flow.reentryWindowDays = windowDays

/-- How far apart the rule keeps two runs of one contact: never two once ever, and a window between starts. -/
def Apart (mode : ReentryMode) (windowDays : Option Nat) (run other : FlowRunRow) : Prop :=
  match mode with
  | .everyTime => True
  | .onceEver => False
  | .oncePerNDays => run.enteredAt + windowDays.getD 0 * millisecondsPerDay ≤ other.enteredAt ∨
      other.enteredAt + windowDays.getD 0 * millisecondsPerDay ≤ run.enteredAt

theorem apart_comm {run other : FlowRunRow}
    (apart : Apart mode windowDays run other) : Apart mode windowDays other run := by
  cases mode with
  | everyTime => trivial
  | onceEver => exact apart
  | oncePerNDays => exact apart.symm

theorem apart_of_allows {run earlier : FlowRunRow} (allowed : flow.allows earlier run.lastEntryAt)
    (starts : run.enteredAt = run.lastEntryAt) (startsEarlier : earlier.enteredAt = earlier.lastEntryAt) :
    Apart flow.reentryMode flow.reentryWindowDays run earlier := by
  unfold FlowRow.allows at allowed
  unfold Apart
  cases mode : flow.reentryMode with
  | everyTime => trivial
  | onceEver =>
    rw [mode] at allowed
    exact allowed
  | oncePerNDays =>
    rw [mode] at allowed
    rw [starts, startsEarlier]
    exact .inr allowed

def ApartSince (first : EnrolThreads) (flowId : FlowId) (mode : ReentryMode) (windowDays : Option Nat)
    (threads : EnrolThreads) : Prop :=
  ∀ run other, threads.shared.Committed run → threads.shared.Committed other → run.flowId = flowId →
    run.samePair other → run.id ≠ other.id → first.shared.tables.flowRuns.find? run.id = none →
    Apart mode windowDays run other

theorem apartSince_kept {first threads next : EnrolThreads} {flowId : FlowId}
    (apart : ApartSince first flowId mode windowDays threads)
    (kept : ∀ run, next.shared.Committed run → ∃ old, threads.shared.Committed old ∧ run.id = old.id ∧
      run.samePair old ∧ run.enteredAt = old.enteredAt) : ApartSince first flowId mode windowDays next := by
  intro run other first_ second flow pair differs new
  obtain ⟨old, stored, named, samePair, entered⟩ := kept run first_
  obtain ⟨oldOther, storedOther, namedOther, samePairOther, enteredOther⟩ := kept other second
  have still : Apart mode windowDays old oldOther := by
    apply apart old oldOther stored storedOther (samePair.2.1.symm.trans flow)
    · exact ⟨samePair.1.symm.trans (pair.1.trans samePairOther.1),
        samePair.2.1.symm.trans (pair.2.1.trans samePairOther.2.1),
        samePair.2.2.symm.trans (pair.2.2.trans samePairOther.2.2)⟩
    · rw [← named, ← namedOther]
      exact differs
    · rw [← named]
      exact new
  unfold Apart at still ⊢
  rw [entered, enteredOther]
  exact still

theorem apartSince_commit {first threads : EnrolThreads} {flowId : FlowId}
    {own : Nat → Enroller} (ordered : Ordered threads) (stays : Stays flowId mode windowDays threads)
    (apart : ApartSince first flowId mode windowDays threads) :
    ApartSince first flowId mode windowDays
      { shared := { dropPending id threads.shared with tables := threads.shared.view id }, own := own } := by
  obtain ⟨flow, found, sameMode, sameWindow⟩ := stays
  have indexed := ordered.indexed
  -- a run that was waiting keeps apart from every committed one
  have waiting : ∀ run earlier, (id, run) ∈ threads.shared.pending → threads.shared.Committed earlier →
      run.flowId = flowId → run.samePair earlier → Apart mode windowDays run earlier := by
    intro run earlier mine committed mineFlow pair
    have allowed := ordered.allowed id run mine flow (by rw [mineFlow]; exact found) earlier committed
      ⟨pair.1.symm, pair.2.1.symm, pair.2.2.symm⟩
    have separate := apart_of_allows allowed (indexed.entry run (.inr ⟨id, mine⟩)) (indexed.entry earlier (.inl committed))
    rwa [sameMode, sameWindow] at separate
  intro run other first_ second mineFlow pair differs new
  rcases of_view first_ with committed | mine
  · rcases of_view second with also | theirs
    · exact apart run other committed also mineFlow pair differs new
    · exact apart_comm (waiting other run theirs committed (pair.2.1.symm.trans mineFlow)
        ⟨pair.1.symm, pair.2.1.symm, pair.2.2.symm⟩)
  · rcases of_view second with also | theirs
    · exact waiting run other mine also mineFlow pair
    · have one := indexed.oneActive run other (.inr ⟨id, mine⟩) (.inr ⟨id, theirs⟩) (indexed.active _ mine)
        (indexed.active _ theirs) pair
      exact absurd one differs

theorem apartSince_step {first threads next : EnrolThreads} {turn : Turn EnrolTurn EnrolEvent}
    {flowId : FlowId} (ordered : Ordered threads) (stays : Stays flowId mode windowDays threads) (apart : ApartSince first flowId mode windowDays threads)
    (taken : enrolStep threads turn = some next) : ApartSince first flowId mode windowDays next := by
  have same : ∀ {next : EnrolThreads}, next.shared.tables.flowRuns = threads.shared.tables.flowRuns →
      ApartSince first flowId mode windowDays next := by
    intro next runs
    apply apartSince_kept apart
    intro run committed
    exact ⟨run, by rw [Enrolments.Committed, ← runs]; exact committed, rfl, ⟨rfl, rfl, rfl⟩, rfl⟩
  cases turn with
  | thread id choice =>
    obtain ⟨shared, own, acted, rfl⟩ := interleave_thread.mp taken
    cases choice with
    | load | rollback | finish =>
      cases acted
      exact same rfl
    | begin | check =>
      simp only [enrolTurn] at acted
      split at acted <;> cases acted
      exact same rfl
    | insert flowRunId =>
      simp only [enrolTurn] at acted
      split at acted
      · split at acted <;> cases acted
        exact same (by rw [insertAdmitted_tables])
      · cases acted
    | commit =>
      cases acted
      exact apartSince_commit ordered stays apart
  | outside event =>
    obtain ⟨shared, happened, rfl⟩ := interleave_outside.mp taken
    cases event with
    | elapse | setReentry =>
      cases happened
      exact same rfl
    | advance workspaceId flowRunId seen =>
      rcases advanceEvent_taken happened with rfl | ⟨tables, advanced, rfl⟩
      · exact same rfl
      · obtain ⟨_, _, runs⟩ := advanceStored_runs advanced
        apply apartSince_kept apart
        intro run committed
        obtain ⟨old, stored, pair, entered, _⟩ := runs run.id run committed
        have keyed := Table.key_of_find? stored
        exact ⟨old, by rw [Enrolments.Committed, keyed]; exact stored, keyed.symm, pair, entered⟩

end Limits

theorem flows_kept {threads next : EnrolThreads} {turn : Turn EnrolTurn EnrolEvent}
    (taken : enrolStep threads turn = some next)
    (other : ∀ flowId mode windowDays, turn ≠ .outside (.setReentry flowId mode windowDays)) :
    next.shared.tables.flows = threads.shared.tables.flows := by
  cases turn with
  | thread id choice =>
    obtain ⟨shared, own, acted, rfl⟩ := interleave_thread.mp taken
    cases choice with
    | load | commit | rollback | finish =>
      cases acted
      rfl
    | begin | check =>
      simp only [enrolTurn] at acted
      split at acted <;> cases acted
      rfl
    | insert flowRunId =>
      simp only [enrolTurn] at acted
      split at acted
      · split at acted <;> cases acted
        rw [insertAdmitted_tables]
      · cases acted
  | outside event =>
    obtain ⟨shared, happened, rfl⟩ := interleave_outside.mp taken
    cases event with
    | elapse milliseconds =>
      cases happened
      rfl
    | advance workspaceId flowRunId seen =>
      rcases advanceEvent_taken happened with rfl | ⟨tables, advanced, rfl⟩
      · rfl
      · exact (advanceStored_runs advanced).1
    | setReentry flowId mode windowDays => exact absurd rfl (other flowId mode windowDays)

/-- In a run in which no enrolment is disturbed, runs of one contact and flow keep apart as the rule says. -/
theorem reentry_limits {flows : Table FlowRow.id} {versions : Table FlowVersionRow.id} {clock : Timestamp}
    {before during : List (Turn EnrolTurn EnrolEvent)} {middle final : EnrolThreads}
    (undisturbedBefore : Along enrolStep Undisturbed (enrolStart flows versions clock) before)
    (reached : run enrolStep (enrolStart flows versions clock) before = some middle)
    (undisturbed : Along enrolStep Undisturbed middle during) (ran : run enrolStep middle during = some final) :
    (∀ run other, final.shared.Committed run → final.shared.Committed other → run.status.active →
      other.status.active → run.samePair other → run = other) ∧
    ∀ flowId mode windowDays, Stays flowId mode windowDays middle →
      Along enrolStep (fun _ _ next => Stays flowId mode windowDays next) middle during →
      ∀ run other, final.shared.Committed run → final.shared.Committed other → run.flowId = flowId →
        run.samePair other → run.id ≠ other.id → middle.shared.tables.flowRuns.find? run.id = none →
        Apart mode windowDays run other := by
  have orderedMiddle : Ordered middle :=
    invariant_of_run ordered_step (ordered_start flows versions clock) undisturbedBefore reached
  have orderedFinal : Ordered final := invariant_of_run ordered_step orderedMiddle undisturbed ran
  constructor
  · intro run other first second activeRun activeOther pair
    have one := orderedFinal.indexed.oneActive run other (.inl first) (.inl second) activeRun activeOther pair
    unfold Enrolments.Committed at first second
    rw [← one] at second
    exact Option.some.inj (first.symm.trans second)
  · intro flowId mode windowDays stays staying
    have kept : ∀ threads turn next,
        (Ordered threads ∧ Stays flowId mode windowDays threads ∧ ApartSince middle flowId mode windowDays threads) →
        (Undisturbed threads turn next ∧ Stays flowId mode windowDays next) → enrolStep threads turn = some next →
        Ordered next ∧ Stays flowId mode windowDays next ∧ ApartSince middle flowId mode windowDays next := by
      rintro threads turn next ⟨ordered, staysHere, apart⟩ ⟨calm, staysNext⟩ taken
      exact ⟨ordered_step threads turn next ordered calm taken, staysNext,
        apartSince_step ordered staysHere apart taken⟩
    have started : ApartSince middle flowId mode windowDays middle := by
      intro run other first _ _ _ _ new
      rw [Enrolments.Committed, new] at first
      cases first
    exact (invariant_of_run kept ⟨orderedMiddle, stays, started⟩ (along_and undisturbed staying) ran).2.2

section Traces

def alone (threads : EnrolThreads) : Turn EnrolTurn EnrolEvent → Bool
  | .thread id (.check flow contactId) => id == 0 && (threads.own id).startedAt.all fun startedAt =>
    ((threads.shared.view id).runsOf flow.workspaceId flow.id contactId).all fun run =>
      decide (run.lastEntryAt + flow.windowMs ≤ startedAt)
  | .thread id _ => id == 0
  | .outside (.setReentry _ _ _) => false
  | .outside _ => true

def OnlyFirst (threads : EnrolThreads) : Prop := ∀ id, id ≠ 0 → threads.own id = {}

theorem undisturbed_of_alone {threads : EnrolThreads} {trace : List (Turn EnrolTurn EnrolEvent)}
    (idle : OnlyFirst threads) (checked : checkAlong enrolStep alone threads trace = true) :
    Along enrolStep Undisturbed threads trace := by
  apply along_of_conforming ?_ ?_ idle (along_of_check checked)
  · intro threads turn next idle ok taken id other
    cases turn with
    | thread worker choice =>
      have first : worker = 0 := by cases choice <;> simp_all [alone]
      obtain ⟨shared, own, _, rfl⟩ := interleave_thread.mp taken
      rw [first]
      simp only [Function.update_of_ne other]
      exact idle id other
    | outside event =>
      obtain ⟨shared, _, rfl⟩ := interleave_outside.mp taken
      exact idle id other
  · intro threads turn next idle ok taken
    cases turn with
    | thread worker choice =>
      cases choice with
      | check flow contactId =>
        intro startedAt begun run member _
        simp only [alone, Bool.and_eq_true, begun, Option.all_some, List.all_eq_true, decide_eq_true_eq] at ok
        exact ok.2 run member
      | commit =>
        intro other differs flow contactId admitted
        have first : worker = 0 := by simpa [alone] using ok
        rw [idle other (first ▸ differs)] at admitted
        cases admitted
      | load | begin | insert | rollback | finish => trivial
    | outside event =>
      cases event with
      | setReentry => cases ok
      | elapse | advance => trivial

def setsRule : Turn EnrolTurn EnrolEvent → Bool
  | .outside (.setReentry _ _ _) => true
  | _ => false

theorem stays_along {threads : EnrolThreads} {trace : List (Turn EnrolTurn EnrolEvent)} {flowId : FlowId}
    {mode : ReentryMode} {windowDays : Option Nat} (stays : Stays flowId mode windowDays threads)
    (unset : trace.all (fun turn => !setsRule turn) = true) :
    Along enrolStep (fun _ _ next => Stays flowId mode windowDays next) threads trace := by
  induction trace generalizing threads with
  | nil => trivial
  | cons turn rest ih =>
    intro next taken
    rw [List.all_cons, Bool.and_eq_true, Bool.not_eq_true'] at unset
    obtain ⟨flow, found, same⟩ := stays
    have flows : next.shared.tables.flows = threads.shared.tables.flows := by
      apply flows_kept taken
      rintro changed newMode days rfl
      cases unset.1
    have staysNext : Stays flowId mode windowDays next := ⟨flow, by rw [flows]; exact found, same⟩
    exact ⟨staysNext, ih staysNext unset.2⟩

def welcomeFlow : FlowRow where
  id := 7
  workspaceId := 1
  name := "welcome"
  status := .live
  triggerType := some .event
  triggerEventName := some "signup"
  liveVersionId := some 10
  createdByUserId := "owner"

def exitAtOnce : FlowVersionRow where
  id := 10
  workspaceId := 1
  flowId := 7
  versionNumber := 1
  definition := { nodes := [⟨1, .trigger .event (some "signup") none⟩, ⟨2, .exit⟩], edges := [{ source := 1, target := 2 }] }
  publishedAt := some 0

def observed (now : Timestamp) : Observed where
  now
  flowStatus := .live
  exitSatisfied := false
  quietUntil := none
  inSegment _ := false
  nextWaitUntil _ _ := 0

def liveFlow (reentryMode : ReentryMode) (reentryWindowDays : Option Nat) : EnrolThreads :=
  enrolStart (Table.empty.insert { welcomeFlow with reentryMode, reentryWindowDays }) (Table.empty.insert exitAtOnce) 0

def enrolment (id : Nat) (flow : FlowRow) (flowRunId : FlowRunId) : List (Turn EnrolTurn EnrolEvent) :=
  [.thread id .begin, .thread id (.load 1 7), .thread id (.check flow 3), .thread id (.insert flowRunId)]

def weekly : FlowRow := { welcomeFlow with reentryMode := .oncePerNDays, reentryWindowDays := some 7 }

def returningContact : List (Turn EnrolTurn EnrolEvent) :=
  enrolment 0 weekly 100 ++ [.thread 0 .commit, .outside (.advance 1 100 (observed 0)),
    .outside (.elapse (8 * 86400000))] ++ enrolment 0 weekly 101 ++ [.thread 0 .commit]

theorem returning_contact_apart : ∃ final, run enrolStep (liveFlow .oncePerNDays (some 7)) returningContact = some final ∧
    final.shared.tables.flowRuns.rows.length = 2 ∧
    (∀ run other, final.shared.Committed run → final.shared.Committed other → run.status.active →
      other.status.active → run.samePair other → run = other) ∧
    ∀ run other, final.shared.Committed run → final.shared.Committed other → run.flowId = 7 →
      run.samePair other → run.id ≠ other.id → Apart .oncePerNDays (some 7) run other := by
  have runs : (run enrolStep (liveFlow .oncePerNDays (some 7)) returningContact).any (fun final =>
      decide (final.shared.tables.flowRuns.rows.length = 2)) = true := by
    decide +kernel
  obtain ⟨final, ran, both⟩ := Option.any_eq_true _ _ |>.mp runs
  have checked : checkAlong enrolStep alone (liveFlow .oncePerNDays (some 7)) returningContact = true := by
    decide +kernel
  have start : Stays 7 .oncePerNDays (some 7) (liveFlow .oncePerNDays (some 7)) := ⟨weekly, rfl, rfl, rfl⟩
  have before : Along enrolStep Undisturbed (liveFlow .oncePerNDays (some 7)) [] := trivial
  obtain ⟨oneActive, apart⟩ := reentry_limits before rfl (undisturbed_of_alone (fun _ _ => rfl) checked) ran
  refine ⟨final, ran, of_decide_eq_true both, oneActive, ?_⟩
  intro run other first second ours pair differs
  exact apart 7 .oncePerNDays (some 7) start (stays_along start rfl) run other first second ours pair differs rfl

def once : FlowRow := { welcomeFlow with reentryMode := .onceEver }

def overtakenCheck : List (Turn EnrolTurn EnrolEvent) :=
  [.thread 0 .begin, .thread 0 (.load 1 7), .thread 0 (.check once 3)] ++ enrolment 1 once 100 ++
    [.thread 1 .commit, .outside (.advance 1 100 (observed 0)), .thread 0 (.insert 101), .thread 0 .commit]

/-- The limits as claimed, of every run: the contact above has two runs of a flow that is entered once ever. -/
theorem overtaken_check_enters_twice : ¬ ∀ (flows : Table FlowRow.id) (versions : Table FlowVersionRow.id)
    (clock : Timestamp) (trace : List (Turn EnrolTurn EnrolEvent)) (final : EnrolThreads),
    run enrolStep (enrolStart flows versions clock) trace = some final →
    ∀ flowId mode windowDays, Stays flowId mode windowDays (enrolStart flows versions clock) →
      Along enrolStep (fun _ _ next => Stays flowId mode windowDays next) (enrolStart flows versions clock) trace →
      ∀ run other, final.shared.Committed run → final.shared.Committed other → run.flowId = flowId →
        run.samePair other → run.id ≠ other.id → Apart mode windowDays run other := by
  intro always
  have runs : (run enrolStep (liveFlow .onceEver none) overtakenCheck).any (fun final =>
      (final.shared.tables.flowRuns.find? 100).any fun run => (final.shared.tables.flowRuns.find? 101).any fun other =>
        decide (run.flowId = 7) && other.isFor run.workspaceId run.flowId run.contactId) = true := by
    decide +kernel
  obtain ⟨final, ran, both⟩ := Option.any_eq_true _ _ |>.mp runs
  obtain ⟨first, found, second⟩ := Option.any_eq_true _ _ |>.mp both
  obtain ⟨second, alsoFound, pair⟩ := Option.any_eq_true _ _ |>.mp second
  rw [Bool.and_eq_true, decide_eq_true_eq, isFor_iff] at pair
  obtain ⟨ours, workspace, flow, contact⟩ := pair
  have firstId : first.id = 100 := Table.key_of_find? found
  have secondId : second.id = 101 := Table.key_of_find? alsoFound
  have start : Stays 7 .onceEver none (liveFlow .onceEver none) := ⟨once, rfl, rfl, rfl⟩
  exact always _ _ 0 overtakenCheck final ran 7 .onceEver none start (stays_along start rfl) first second
    (by rw [Enrolments.Committed, firstId]; exact found) (by rw [Enrolments.Committed, secondId]; exact alsoFound)
    ours ⟨workspace.symm, flow.symm, contact.symm⟩ (by rw [firstId, secondId]; decide)

end Traces

end LocalCrm.Flows
