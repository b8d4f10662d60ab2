import LocalCrm.Flows.Reentry

/-! Entries into a segment-triggered flow, statement by statement. -/

set_option autoImplicit false

namespace LocalCrm.Flows

open Library

inductive EntryPath where
  | recheck
  | sweepPage
  | enrollBatch
  deriving DecidableEq

structure EntryStore where
  runs : Enrolments
  pendingSeen : List (Nat × MembershipSnapshot) := []
  members : WorkspaceId → FlowId → ContactId → Bool
  issued : List FlowRunId := []

inductive EntryStage where
  | between
  | untested (flow : FlowRow) (contactId : ContactId)
  | allowed (flow : FlowRow) (contactId : ContactId)
  | marking (flow : FlowRow) (contactId : ContactId)
  deriving DecidableEq

/-- What one worker has read: of its page the contacts whose snapshot it has still to look up, and those
it found without one. -/
structure Entering where
  loaded : List (EntryPath × FlowRow) := []
  startedAt : Option Timestamp := none
  path : EntryPath := .recheck
  page : List (FlowRow × ContactId) := []
  unseen : List (FlowRow × ContactId) := []
  stage : EntryStage := .between

inductive EntryTurn where
  | load (path : EntryPath) (workspaceId : WorkspaceId) (flowId : FlowId)
  | begin
  | lookUpContact (flow : FlowRow) (contactId : ContactId)
  | testMember
  | matchPage (path : EntryPath) (flow : FlowRow) (page : List ContactId)
  | lookUpPage
  | check
  | insert (flowRunId : FlowRunId)
  | markSeen
  | commit
  | rollback
  | finish

inductive EntryEvent where
  | elapse (milliseconds : Nat)
  | advance (workspaceId : WorkspaceId) (flowRunId : FlowRunId) (seen : Observed)
  | deleteStale (workspaceId : WorkspaceId) (flowId : FlowId) (contactIds : List ContactId)
  | members (members : WorkspaceId → FlowId → ContactId → Bool)

def FlowRow.snapshotOf (flow : FlowRow) (contactId : ContactId) : MembershipSnapshot where
  workspaceId := flow.workspaceId
  flowId := flow.id
  contactId

def FlowRow.enteredBy (flow : FlowRow) : EntryPath → Bool
  | .recheck | .sweepPage => flow.status == .live && flow.triggerType == some .segment &&
      flow.triggerSegmentId.isSome && flow.liveVersionId.isSome
  | .enrollBatch => flow.triggerSegmentId.isSome && flow.liveVersionId.isSome

section Turns

variable (id : Nat) (store : EntryStore)

def EntryStore.ownSeen : List MembershipSnapshot :=
  (store.pendingSeen.filter fun entry => entry.1 == id).map Prod.snd

def EntryStore.view : FlowTables :=
  { store.runs.view id with
    membershipSnapshot := (store.ownSeen id).foldl Table.insert store.runs.tables.membershipSnapshot }

def EntryStore.seen (flow : FlowRow) (contactId : ContactId) : Bool :=
  (store.view id).hasSeenSnapshot flow.workspaceId flow.id contactId

/-- The unique key makes an insertion wait for another transaction's uncommitted snapshot. -/
def EntryStore.blockedSeen (flow : FlowRow) (contactId : ContactId) : Bool :=
  store.pendingSeen.any fun entry => entry.1 != id && entry.2 == flow.snapshotOf contactId

def markEntry (flow : FlowRow) (contactId : ContactId) : EntryStore :=
  if store.seen id flow contactId then store
  else { store with pendingSeen := store.pendingSeen ++ [(id, flow.snapshotOf contactId)] }

def dropEntries : EntryStore :=
  { store with
    runs := dropPending id store.runs
    pendingSeen := store.pendingSeen.filter fun entry => entry.1 != id }

def commitEntries : EntryStore :=
  { dropEntries id store with runs := { dropPending id store.runs with tables := store.view id } }

def Entering.lookUpCount (entering : Entering) : Nat :=
  match entering.path with
  | .sweepPage => entering.page.length
  | .recheck | .enrollBatch => 1

def Entering.atRest (entering : Entering) : Bool :=
  entering.stage == .between && entering.page.isEmpty && entering.unseen.isEmpty

def entryTurn (entering : Entering) : EntryTurn → Option (EntryStore × Entering)
  | .load path workspaceId flowId =>
    let found := (store.runs.tables.flow? workspaceId flowId).filter fun flow => flow.enteredBy path
    some (store, { entering with loaded := entering.loaded ++ found.toList.map fun flow => (path, flow) })
  | .begin =>
    match entering.startedAt with
    | some _ => none
    | none => some (store, { entering with startedAt := some store.runs.clock })
  | .lookUpContact flow contactId =>
    if entering.startedAt.isSome ∧ entering.atRest ∧ (.recheck, flow) ∈ entering.loaded then
      if store.seen id flow contactId then some (store, entering)
      else some (store, { entering with path := .recheck, stage := .untested flow contactId })
    else none
  | .testMember =>
    match entering.stage with
    | .untested flow contactId =>
      let matched := store.members flow.workspaceId flow.id contactId
      some (store, { entering with unseen := if matched then [(flow, contactId)] else [], stage := .between })
    | .between | .allowed _ _ | .marking _ _ => none
  | .matchPage path flow page =>
    if entering.startedAt.isSome ∧ entering.atRest ∧ path ≠ .recheck ∧ (path, flow) ∈ entering.loaded ∧
        page.all (store.members flow.workspaceId flow.id) then
      some (store, { entering with path, page := page.map fun contactId => (flow, contactId) })
    else none
  | .lookUpPage =>
    if entering.stage = .between ∧ entering.unseen = [] then
      let found := (entering.page.take entering.lookUpCount).filter fun entry => !store.seen id entry.1 entry.2
      some (store, { entering with page := entering.page.drop entering.lookUpCount, unseen := found })
    else none
  | .check =>
    match entering.stage, entering.unseen with
    | .between, (flow, contactId) :: rest =>
      match (store.view id).canEnterFlow store.runs.clock (flow.entryParams contactId) with
      | .ok _ => some (store, { entering with unseen := rest, stage := .allowed flow contactId })
      | .error _ => some (store, { entering with unseen := rest, stage := .marking flow contactId })
    | _, _ => none
  | .insert flowRunId =>
    match entering.startedAt, entering.stage with
    | some startedAt, .allowed flow contactId =>
      if store.runs.blocked id flow contactId ∨ store.runs.taken flowRunId ∨ flowRunId ∈ store.issued then none
      else
        some ({ store with
          runs := insertAdmitted id store.runs startedAt flow contactId flowRunId
          issued := flowRunId :: store.issued }, { entering with stage := .marking flow contactId })
    | _, _ => none
  | .markSeen =>
    match entering.stage with
    | .marking flow contactId =>
      if store.blockedSeen id flow contactId then none
      else some (markEntry id store flow contactId, { entering with stage := .between })
    | .between | .untested _ _ | .allowed _ _ => none
  | .commit =>
    if entering.atRest then some (commitEntries id store, { loaded := entering.loaded }) else none
  | .rollback => some (dropEntries id store, { loaded := entering.loaded })
  | .finish => some (dropEntries id store, {})

def entryEvent (store : EntryStore) : EntryEvent → Option EntryStore
  | .elapse milliseconds =>
    some { store with runs := { store.runs with clock := store.runs.clock + milliseconds } }
  | .advance workspaceId flowRunId seen =>
    match advanceStored seen store.runs.tables workspaceId flowRunId with
    | .ok tables => some { store with runs := { store.runs with tables } }
    | .error _ => some store
  | .deleteStale workspaceId flowId contactIds =>
    if contactIds.any (store.members workspaceId flowId) then none
    else
      let membershipSnapshot := store.runs.tables.membershipSnapshot.delete fun snapshot =>
        snapshot.workspaceId == workspaceId && snapshot.flowId == flowId && contactIds.contains snapshot.contactId
      some { store with runs := { store.runs with tables := { store.runs.tables with membershipSnapshot } } }
  | .members members => some { store with members }

end Turns

abbrev EntryThreads := Threads EntryStore Entering

def entryTurns : EntryThreads → Turn EntryTurn EntryEvent → Option EntryThreads := interleave entryTurn entryEvent

def entryStart (flows : Table FlowRow.id) (versions : Table FlowVersionRow.id) (clock : Timestamp)
    (members : WorkspaceId → FlowId → ContactId → Bool) : EntryThreads where
  shared := { runs := { tables := { flows, flowVersions := versions }, clock }, members }
  own _ := {}

theorem snapshot_of_key {snapshot other : MembershipSnapshot} (same : snapshot.key = other.key) : snapshot = other := by
  cases snapshot
  cases other
  cases same
  rfl

section Views

variable {id : Nat} {store : EntryStore} {entering after : Entering} {workspaceId : WorkspaceId} {flowId : FlowId}
  {contactId : ContactId}

theorem hasSeen_view : (store.view id).hasSeenSnapshot workspaceId flowId contactId = true ↔
    store.runs.tables.hasSeenSnapshot workspaceId flowId contactId = true ∨
      (id, (⟨workspaceId, flowId, contactId⟩ : MembershipSnapshot)) ∈ store.pendingSeen := by
  unfold FlowTables.hasSeenSnapshot EntryStore.view
  rw [Option.isSome_iff_exists, Option.isSome_iff_exists]
  constructor
  · rintro ⟨row, found⟩
    have keyed := Table.key_of_find? found
    rcases Table.mem_of_find?_foldl_insert found with old | own
    · exact .inl ⟨row, old⟩
    · obtain ⟨entry, mine, rfl⟩ := List.mem_map.mp own
      obtain ⟨inside, named⟩ := List.mem_filter.mp mine
      have whole : entry = (id, (⟨workspaceId, flowId, contactId⟩ : MembershipSnapshot)) :=
        Prod.ext (beq_iff_eq.mp named) (snapshot_of_key keyed)
      exact .inr (whole ▸ inside)
  · rintro (⟨row, found⟩ | mine)
    · exact ⟨row, Table.find?_foldl_insert_old found⟩
    · refine ⟨⟨workspaceId, flowId, contactId⟩, ?_⟩
      show ((store.ownSeen id).foldl Table.insert store.runs.tables.membershipSnapshot).find?
        (MembershipSnapshot.key ⟨workspaceId, flowId, contactId⟩) = _
      apply Table.find?_foldl_insert
      · intro row _
        cases found : store.runs.tables.membershipSnapshot.find? row.key with
        | none => exact .inl rfl
        | some other => exact .inr (congrArg some (snapshot_of_key (Table.key_of_find? found)))
      · intro row _ other _ same
        exact snapshot_of_key same
      · exact List.mem_map.mpr ⟨_, List.mem_filter.mpr ⟨mine, beq_self_eq_true id⟩, rfl⟩

theorem markEntry_runs {flow : FlowRow} : (markEntry id store flow contactId).runs = store.runs := by
  unfold markEntry
  split <;> rfl

theorem markEntry_issued {flow : FlowRow} : (markEntry id store flow contactId).issued = store.issued := by
  unfold markEntry
  split <;> rfl

theorem markEntry_subset {flow : FlowRow} : store.pendingSeen ⊆ (markEntry id store flow contactId).pendingSeen := by
  unfold markEntry
  split
  · exact List.Subset.refl _
  · exact List.subset_append_left _ _

theorem markEntry_seen {flow : FlowRow} : (markEntry id store flow contactId).seen id flow contactId = true := by
  unfold markEntry
  split
  · assumption
  · exact hasSeen_view.mpr (.inr (List.mem_append_right _ (List.mem_singleton_self _)))

end Views

/-- What a turn of a path comes to: nothing is written, a run is inserted, a contact is marked, or the
transaction ends. -/
inductive Enters (id : Nat) (store : EntryStore) (entering : Entering) : EntryTurn → EntryStore → Entering → Prop where
  | moved {turn : EntryTurn} {after : Entering} :
      (∀ flow contactId, entering.stage = .marking flow contactId → after.stage = .marking flow contactId) →
      Enters id store entering turn store after
  | inserted {startedAt : Timestamp} {flow : FlowRow} {contactId : ContactId} {flowRunId : FlowRunId}
      {after : Entering} :
      entering.stage = .allowed flow contactId → store.runs.blocked id flow contactId = false →
      store.runs.taken flowRunId = false → flowRunId ∉ store.issued → after.stage = .marking flow contactId →
      Enters id store entering (.insert flowRunId) { store with
        runs := insertAdmitted id store.runs startedAt flow contactId flowRunId
        issued := flowRunId :: store.issued } after
  | marked {turn : EntryTurn} {flow : FlowRow} {contactId : ContactId} {after : Entering} :
      entering.stage = .marking flow contactId →
      Enters id store entering turn (markEntry id store flow contactId) after
  | committed {turn : EntryTurn} {after : Entering} :
      entering.stage = .between → Enters id store entering turn (commitEntries id store) after
  | dropped {turn : EntryTurn} {after : Entering} : Enters id store entering turn (dropEntries id store) after

section Runs

variable {id : Nat} {store next : EntryStore} {entering after : Entering}

theorem stage_of_atRest (rest : entering.atRest = true) : entering.stage = .between := by
  unfold Entering.atRest at rest
  rw [Bool.and_eq_true, Bool.and_eq_true, beq_iff_eq] at rest
  exact rest.1.1

theorem enters_of_between {turn : EntryTurn} (between : entering.stage = .between) :
    Enters id store entering turn store after := by
  apply Enters.moved
  intro flow contactId marking
  rw [between] at marking
  cases marking

theorem enters {turn : EntryTurn} (taken : entryTurn id store entering turn = some (next, after)) :
    Enters id store entering turn next after := by
  cases turn with
  | load path workspaceId flowId =>
    cases taken
    exact .moved fun _ _ marking => marking
  | begin | matchPage | lookUpPage =>
    simp only [entryTurn] at taken
    split at taken <;> cases taken
    exact .moved fun _ _ marking => marking
  | lookUpContact flow contactId =>
    simp only [entryTurn] at taken
    split at taken
    · next ready =>
      split at taken <;> cases taken
      · exact .moved fun _ _ marking => marking
      · exact enters_of_between (stage_of_atRest ready.2.1)
    · cases taken
  | testMember =>
    simp only [entryTurn] at taken
    split at taken
    · next untested =>
      cases taken
      apply Enters.moved
      intro flow contactId marking
      rw [untested] at marking
      cases marking
    all_goals cases taken
  | check =>
    simp only [entryTurn] at taken
    split at taken
    · next between _ =>
      split at taken <;> cases taken <;> exact enters_of_between between
    · cases taken
  | insert flowRunId =>
    simp only [entryTurn] at taken
    split at taken
    · next allowed =>
      split at taken
      · cases taken
      · next open_ =>
        cases taken
        simp only [not_or, Bool.not_eq_true] at open_
        exact .inserted allowed open_.1 open_.2.1 open_.2.2 rfl
    · cases taken
  | markSeen =>
    simp only [entryTurn] at taken
    split at taken
    · next marking =>
      split at taken <;> cases taken
      exact .marked marking
    all_goals cases taken
  | commit =>
    simp only [entryTurn] at taken
    split at taken
    · next rest =>
      cases taken
      exact .committed (stage_of_atRest rest)
    · cases taken
  | rollback | finish =>
    cases taken
    exact .dropped

structure EntryStore.Sound (store : EntryStore) : Prop where
  indexed : Indexed store.runs
  issued : ∀ run, store.runs.Exists run → run.id ∈ store.issued

theorem sound_enters {turn : EntryTurn} (sound : store.Sound) (entered : Enters id store entering turn next after) :
    next.Sound := by
  cases entered with
  | moved => exact sound
  | inserted _ free unused _ _ =>
    constructor
    · exact indexed_insert sound.indexed free unused
    · rintro run (committed | ⟨thread, member⟩)
      · rw [Enrolments.Committed, insertAdmitted_tables] at committed
        exact List.mem_cons_of_mem _ (sound.issued run (.inl committed))
      · rcases insertAdmitted_pending member with old | ⟨_, named, _⟩
        · exact List.mem_cons_of_mem _ (sound.issued run (.inr ⟨thread, old⟩))
        · exact named ▸ List.mem_cons_self
  | marked =>
    constructor
    · rw [markEntry_runs]
      exact sound.indexed
    · rw [markEntry_runs, markEntry_issued]
      exact sound.issued
  | committed =>
    constructor
    · exact indexed_of_fewer (indexed_commit sound.indexed) rfl (List.Subset.refl _)
    · rintro run (committed | ⟨thread, member⟩)
      · exact sound.issued run ((of_view committed).imp_right fun mine => ⟨id, mine⟩)
      · exact sound.issued run (.inr ⟨thread, (List.mem_filter.mp member).1⟩)
  | dropped =>
    constructor
    · exact indexed_of_fewer sound.indexed rfl (List.filter_subset_self _)
    · rintro run (committed | ⟨thread, member⟩)
      · exact sound.issued run (.inl committed)
      · exact sound.issued run (.inr ⟨thread, (List.mem_filter.mp member).1⟩)

theorem sound_event {event : EntryEvent} (sound : store.Sound) (happened : entryEvent store event = some next) :
    next.Sound := by
  cases event with
  | elapse milliseconds =>
    cases happened
    exact ⟨indexed_of_fewer sound.indexed rfl (List.Subset.refl _), sound.issued⟩
  | advance workspaceId flowRunId seen =>
    simp only [entryEvent] at happened
    split at happened <;> cases happened
    · next tables advanced =>
      constructor
      · exact indexed_advance sound.indexed advanced
      · intro run there
        obtain ⟨old, before, named, _⟩ := exists_advance advanced there
        rw [named]
        exact sound.issued old before
    · exact sound
  | deleteStale workspaceId flowId contactIds =>
    simp only [entryEvent] at happened
    split at happened <;> cases happened
    exact ⟨indexed_of_fewer sound.indexed rfl (List.Subset.refl _), sound.issued⟩
  | members members =>
    cases happened
    exact ⟨sound.indexed, sound.issued⟩

theorem sound_turns (threads : EntryThreads) (turn : Turn EntryTurn EntryEvent) (next : EntryThreads)
    (sound : threads.shared.Sound) (taken : entryTurns threads turn = some next) : next.shared.Sound := by
  cases turn with
  | thread id choice =>
    obtain ⟨shared, own, acted, rfl⟩ := interleave_thread.mp taken
    exact sound_enters sound (enters acted)
  | outside event =>
    obtain ⟨shared, happened, rfl⟩ := interleave_outside.mp taken
    exact sound_event sound happened

theorem sound_start (flows : Table FlowRow.id) (versions : Table FlowVersionRow.id) (clock : Timestamp)
    (members : WorkspaceId → FlowId → ContactId → Bool) : (entryStart flows versions clock members).shared.Sound where
  indexed := (ordered_start flows versions clock).indexed
  issued run there := by
    rcases there with committed | ⟨thread, member⟩
    · cases committed
    · cases member

end Runs

section Period

variable (first : EntryStore) (workspaceId : WorkspaceId) (flowId : FlowId) (contactId : ContactId)

def EntryStore.createdSince (store : EntryStore) : List FlowRunRow :=
  (store.runs.tables.runsOf workspaceId flowId contactId).filter fun run => decide (run.id ∉ first.issued)

/-- A run is inserted on a look-up that an entry of the contact has overtaken: its snapshot and its run are
committed by now. -/
def overtaken (threads : EntryThreads) : Turn EntryTurn EntryEvent → Bool
  | .thread id (.insert _) =>
    match (threads.own id).stage with
    | .allowed flow entering =>
      flow.workspaceId == workspaceId && flow.id == flowId && entering == contactId &&
        threads.shared.runs.tables.hasSeenSnapshot workspaceId flowId contactId &&
        !(threads.shared.view id).hasActiveRun workspaceId flowId contactId &&
        !(first.createdSince workspaceId flowId contactId threads.shared).isEmpty
    | .between | .untested _ _ | .marking _ _ => false
  | .thread _ _ | .outside _ => false

def EntryStore.Since (run : FlowRunRow) : Prop :=
  run.isFor workspaceId flowId contactId = true ∧ run.id ∉ first.issued

def Marks (id : Nat) (threads : EntryThreads) : Prop :=
  (∃ flow : FlowRow, (threads.own id).stage = .marking flow contactId ∧ flow.workspaceId = workspaceId ∧
    flow.id = flowId) ∨
    (threads.shared.view id).hasSeenSnapshot workspaceId flowId contactId = true

/-- One run since then is committed, and its snapshot with it; while another one waits for its commit none is. -/
structure Single (threads : EntryThreads) : Prop where
  one : ∀ run other, threads.shared.runs.Committed run → first.Since workspaceId flowId contactId run →
    threads.shared.runs.Committed other → first.Since workspaceId flowId contactId other → run.id = other.id
  seen : ∀ run, threads.shared.runs.Committed run → first.Since workspaceId flowId contactId run →
    threads.shared.runs.tables.hasSeenSnapshot workspaceId flowId contactId = true
  alone : ∀ thread run, (thread, run) ∈ threads.shared.runs.pending → first.Since workspaceId flowId contactId run →
    ∀ other, threads.shared.runs.Committed other → ¬ first.Since workspaceId flowId contactId other
  marks : ∀ thread run, (thread, run) ∈ threads.shared.runs.pending → first.Since workspaceId flowId contactId run →
    Marks workspaceId flowId contactId thread threads

end Period

section Single

variable {first : EntryStore} {workspaceId : WorkspaceId} {flowId : FlowId} {contactId : ContactId}
  {threads next : EntryThreads} {id : Nat}

theorem mem_createdSince {store : EntryStore} {run : FlowRunRow} :
    run ∈ first.createdSince workspaceId flowId contactId store ↔
      store.runs.Committed run ∧ first.Since workspaceId flowId contactId run := by
  unfold EntryStore.createdSince
  rw [List.mem_filter, mem_runsOf, decide_eq_true_eq, and_assoc]
  rfl

theorem single_kept (single : Single first workspaceId flowId contactId threads)
    (runs : ∀ run, next.shared.runs.Committed run → first.Since workspaceId flowId contactId run →
      ∃ old, threads.shared.runs.Committed old ∧ first.Since workspaceId flowId contactId old ∧ old.id = run.id)
    (pending : next.shared.runs.pending ⊆ threads.shared.runs.pending)
    (snapshot : threads.shared.runs.tables.hasSeenSnapshot workspaceId flowId contactId = true →
      next.shared.runs.tables.hasSeenSnapshot workspaceId flowId contactId = true)
    (marks : ∀ thread run, (thread, run) ∈ next.shared.runs.pending →
      Marks workspaceId flowId contactId thread threads → Marks workspaceId flowId contactId thread next) :
    Single first workspaceId flowId contactId next where
  one run other committed since alsoCommitted alsoSince := by
    obtain ⟨old, there, sinceOld, same⟩ := runs run committed since
    obtain ⟨oldOther, also, sinceOther, sameOther⟩ := runs other alsoCommitted alsoSince
    rw [← same, ← sameOther]
    exact single.one old oldOther there sinceOld also sinceOther
  seen run committed since := by
    obtain ⟨old, there, sinceOld, _⟩ := runs run committed since
    exact snapshot (single.seen old there sinceOld)
  alone thread run member since other committed sinceOther := by
    obtain ⟨old, there, sinceOld, _⟩ := runs other committed sinceOther
    exact single.alone thread run (pending member) since old there sinceOld
  marks thread run member since := marks thread run member (single.marks thread run (pending member) since)

theorem waiting_once {store : EntryStore} {thread other : Nat} {run also : FlowRunRow} (sound : store.Sound)
    (member : (thread, run) ∈ store.runs.pending) (since : first.Since workspaceId flowId contactId run)
    (alsoMember : (other, also) ∈ store.runs.pending) (alsoSince : first.Since workspaceId flowId contactId also) :
    (thread, run) = (other, also) := by
  apply sound.indexed.once _ member _ alsoMember
  apply sound.indexed.oneActive run also (.inr ⟨thread, member⟩) (.inr ⟨other, alsoMember⟩)
    (sound.indexed.active _ member) (sound.indexed.active _ alsoMember)
  have ours := isFor_iff.mp since.1
  have theirs := isFor_iff.mp alsoSince.1
  exact ⟨ours.1.trans theirs.1.symm, ours.2.1.trans theirs.2.1.symm, ours.2.2.trans theirs.2.2.symm⟩

theorem single_commit {after : Entering} (sound : threads.shared.Sound)
    (single : Single first workspaceId flowId contactId threads) (between : (threads.own id).stage = .between) :
    Single first workspaceId flowId contactId
      { shared := commitEntries id threads.shared, own := Function.update threads.own id after } := by
  have marked : ∀ run, (id, run) ∈ threads.shared.runs.pending → first.Since workspaceId flowId contactId run →
      (threads.shared.view id).hasSeenSnapshot workspaceId flowId contactId = true := by
    intro run mine since
    rcases single.marks id run mine since with ⟨flow, marking, _⟩ | seen
    · rw [between] at marking
      cases marking
    · exact seen
  constructor
  · intro run other committed since alsoCommitted alsoSince
    rcases of_view committed with old | mine
    · rcases of_view alsoCommitted with alsoOld | alsoMine
      · exact single.one run other old since alsoOld alsoSince
      · exact absurd since (single.alone id other alsoMine alsoSince run old)
    · rcases of_view alsoCommitted with alsoOld | alsoMine
      · exact absurd alsoSince (single.alone id run mine since other alsoOld)
      · have same := waiting_once sound mine since alsoMine alsoSince
        cases same
        rfl
  · intro run committed since
    rcases of_view committed with old | mine
    · exact hasSeen_view.mpr (.inl (single.seen run old since))
    · exact marked run mine since
  · intro thread run member since other committed alsoSince
    obtain ⟨inside, others⟩ := List.mem_filter.mp member
    rcases of_view committed with old | mine
    · exact single.alone thread run inside since other old alsoSince
    · have same := waiting_once sound inside since mine alsoSince
      cases same
      simp at others
  · intro thread run member since
    obtain ⟨inside, others⟩ := List.mem_filter.mp member
    have differs : thread ≠ id := by simpa using others
    rcases single.marks thread run inside since with ⟨flow, marking, ours⟩ | seen
    · exact .inl ⟨flow, (congrArg Entering.stage (Function.update_of_ne differs _ _)).trans marking, ours⟩
    · rcases hasSeen_view.mp seen with committed | own
      · exact .inr (hasSeen_view.mpr (.inl (hasSeen_view.mpr (.inl committed))))
      · exact .inr (hasSeen_view.mpr (.inr (List.mem_filter.mpr ⟨own, others⟩)))

theorem overtaken_insert {flow : FlowRow} {flowRunId : FlowRunId} {other : FlowRunRow}
    (allowed : (threads.own id).stage = .allowed flow contactId) (workspace : flow.workspaceId = workspaceId)
    (same : flow.id = flowId)
    (seen : threads.shared.runs.tables.hasSeenSnapshot workspaceId flowId contactId = true)
    (inactive : (threads.shared.view id).hasActiveRun workspaceId flowId contactId = false)
    (created : other ∈ first.createdSince workspaceId flowId contactId threads.shared) :
    overtaken first workspaceId flowId contactId threads (.thread id (.insert flowRunId)) = true := by
  have some_ : (first.createdSince workspaceId flowId contactId threads.shared).isEmpty = false :=
    List.isEmpty_eq_false_iff.mpr (List.ne_nil_of_mem created)
  simp [overtaken, allowed, workspace, same, seen, inactive, some_]

theorem single_insert {startedAt : Timestamp} {flow : FlowRow} {entering : ContactId} {flowRunId : FlowRunId}
    {after : Entering} (single : Single first workspaceId flowId contactId threads)
    (allowed : (threads.own id).stage = .allowed flow entering) (marking : after.stage = .marking flow entering)
    (current : overtaken first workspaceId flowId contactId threads (.thread id (.insert flowRunId)) = false) :
    Single first workspaceId flowId contactId {
      shared := { threads.shared with
        runs := insertAdmitted id threads.shared.runs startedAt flow entering flowRunId
        issued := flowRunId :: threads.shared.issued }
      own := Function.update threads.own id after } := by
  have committed_ : ∀ run, (insertAdmitted id threads.shared.runs startedAt flow entering flowRunId).Committed run →
      threads.shared.runs.Committed run := by
    intro run committed
    rw [Enrolments.Committed, insertAdmitted_tables] at committed
    exact committed
  have seen_ : ∀ thread, (threads.shared.view thread).hasSeenSnapshot workspaceId flowId contactId = true →
      (EntryStore.view thread { threads.shared with
        runs := insertAdmitted id threads.shared.runs startedAt flow entering flowRunId
        issued := flowRunId :: threads.shared.issued }).hasSeenSnapshot workspaceId flowId contactId = true := by
    intro thread seen
    rw [hasSeen_view] at seen ⊢
    rw [insertAdmitted_tables]
    exact seen
  constructor
  · intro run other committed since alsoCommitted alsoSince
    exact single.one run other (committed_ run committed) since (committed_ other alsoCommitted) alsoSince
  · intro run committed since
    simp only [insertAdmitted_tables]
    exact single.seen run (committed_ run committed) since
  · intro thread run member since other committed alsoSince
    have there := committed_ other committed
    rcases insertAdmitted_pending member with old | ⟨_, _, pair, inactive⟩
    · exact single.alone thread run old since other there alsoSince
    · have ours : run.isFor flow.workspaceId flow.id entering = true := pair
      obtain ⟨workspace, flowOf, contact⟩ := isFor_iff.mp ours
      obtain ⟨rfl, rfl, rfl⟩ := isFor_iff.mp since.1
      rw [← workspace, ← flowOf, ← contact] at inactive
      rw [← contact] at allowed
      rw [overtaken_insert allowed workspace.symm flowOf.symm (single.seen other there alsoSince) inactive
        (mem_createdSince.mpr ⟨there, alsoSince⟩)] at current
      cases current
  · intro thread run member since
    rcases insertAdmitted_pending member with old | ⟨named, _, pair, _⟩
    · by_cases same : thread = id
      · subst same
        rcases single.marks thread run old since with ⟨other, marked, _⟩ | seen
        · rw [allowed] at marked
          cases marked
        · exact .inr (seen_ thread seen)
      · rcases single.marks thread run old since with ⟨other, marked, ours⟩ | seen
        · exact .inl ⟨other, (congrArg Entering.stage (Function.update_of_ne same _ _)).trans marked, ours⟩
        · exact .inr (seen_ thread seen)
    · have same : thread = id := named
      subst same
      obtain ⟨workspace, flowOf, contact⟩ := isFor_iff.mp pair
      obtain ⟨rfl, rfl, rfl⟩ := isFor_iff.mp since.1
      have stage := (congrArg Entering.stage (Function.update_self thread after threads.own)).trans marking
      rw [← contact] at stage
      exact .inl ⟨flow, stage, workspace.symm, flowOf.symm⟩

theorem single_enters {choice : EntryTurn} {shared : EntryStore} {after : Entering} (sound : threads.shared.Sound)
    (single : Single first workspaceId flowId contactId threads)
    (current : overtaken first workspaceId flowId contactId threads (.thread id choice) = false)
    (taken : entryTurn id threads.shared (threads.own id) choice = some (shared, after)) :
    Single first workspaceId flowId contactId { shared := shared, own := Function.update threads.own id after } := by
  cases enters taken with
  | moved stage =>
    apply single_kept single
    · exact fun run committed since => ⟨run, committed, since, rfl⟩
    · exact List.Subset.refl _
    · exact fun seen => seen
    · intro thread run member marks
      rcases marks with ⟨flow, marking, ours⟩ | seen
      · refine .inl ⟨flow, ?_, ours⟩
        by_cases same : thread = id
        · subst same
          exact (congrArg Entering.stage (Function.update_self _ _ _)).trans (stage flow contactId marking)
        · exact (congrArg Entering.stage (Function.update_of_ne same _ _)).trans marking
      · exact .inr seen
  | inserted allowed _ _ _ marking => exact single_insert single allowed marking current
  | @marked _ flow entering _ marking =>
    apply single_kept single
    · intro run committed since
      rw [markEntry_runs] at committed
      exact ⟨run, committed, since, rfl⟩
    · intro entry member
      rw [markEntry_runs] at member
      exact member
    · intro seen
      rw [markEntry_runs]
      exact seen
    · intro thread run member marks
      have seen_ : (threads.shared.view thread).hasSeenSnapshot workspaceId flowId contactId = true →
          ((markEntry id threads.shared flow entering).view thread).hasSeenSnapshot workspaceId flowId contactId =
            true := by
        intro seen
        rw [hasSeen_view] at seen ⊢
        rw [markEntry_runs]
        exact seen.imp_right fun own => markEntry_subset own
      rcases marks with ⟨other, marked, workspace, same⟩ | seen
      · by_cases mine : thread = id
        · subst mine
          -- its own contact is the one that it has just marked
          rw [marking] at marked
          cases marked
          have marked := @markEntry_seen thread threads.shared contactId flow
          rw [EntryStore.seen, workspace, same] at marked
          exact .inr marked
        · exact .inl ⟨other, (congrArg Entering.stage (Function.update_of_ne mine _ _)).trans marked, workspace, same⟩
      · exact .inr (seen_ seen)
  | committed between => exact single_commit sound single between
  | dropped =>
    apply single_kept single
    · exact fun run committed since => ⟨run, committed, since, rfl⟩
    · exact List.filter_subset_self _
    · exact fun seen => seen
    · intro thread run member marks
      obtain ⟨_, others⟩ := List.mem_filter.mp member
      have differs : thread ≠ id := by simpa using others
      rcases marks with ⟨flow, marking, ours⟩ | seen
      · exact .inl ⟨flow, (congrArg Entering.stage (Function.update_of_ne differs _ _)).trans marking, ours⟩
      · rw [hasSeen_view] at seen
        exact .inr (hasSeen_view.mpr (seen.imp_right fun own => List.mem_filter.mpr ⟨own, others⟩))

theorem single_event {event : EntryEvent} {shared : EntryStore}
    (single : Single first workspaceId flowId contactId threads)
    (member : threads.shared.members workspaceId flowId contactId = true)
    (happened : entryEvent threads.shared event = some shared) :
    Single first workspaceId flowId contactId { threads with shared := shared } := by
  -- an event touches no transaction, and none that spares the snapshot changes what one finds
  have kept : ∀ {shared : EntryStore}, shared.pendingSeen = threads.shared.pendingSeen →
      (threads.shared.runs.tables.hasSeenSnapshot workspaceId flowId contactId = true →
        shared.runs.tables.hasSeenSnapshot workspaceId flowId contactId = true) → ∀ thread,
      Marks workspaceId flowId contactId thread threads →
        Marks workspaceId flowId contactId thread { threads with shared := shared } := by
    intro shared pending rows thread marks
    rcases marks with marking | seen
    · exact .inl marking
    · apply Or.inr
      rw [hasSeen_view] at seen ⊢
      rw [pending]
      exact seen.imp_left rows
  cases event with
  | elapse | members =>
    cases happened
    apply single_kept single
    · exact fun run committed since => ⟨run, committed, since, rfl⟩
    · exact List.Subset.refl _
    · exact fun seen => seen
    · exact fun thread _ _ => kept rfl (fun seen => seen) thread
  | advance workspace flowRunId seen =>
    simp only [entryEvent] at happened
    split at happened <;> cases happened
    · next tables advanced =>
      have rows : threads.shared.runs.tables.hasSeenSnapshot workspaceId flowId contactId = true →
          tables.hasSeenSnapshot workspaceId flowId contactId = true := by
        intro seen
        unfold FlowTables.hasSeenSnapshot at seen ⊢
        rw [advanceStored_snapshot advanced]
        exact seen
      apply single_kept single
      · intro run committed since
        obtain ⟨_, _, runs⟩ := advanceStored_runs advanced
        obtain ⟨old, stored, pair, _⟩ := runs run.id run committed
        have keyed := Table.key_of_find? stored
        obtain ⟨workspace, flow, contact⟩ := isFor_iff.mp since.1
        have ours : old.isFor workspaceId flowId contactId = true :=
          isFor_iff.mpr ⟨pair.1.symm.trans workspace, pair.2.1.symm.trans flow, pair.2.2.symm.trans contact⟩
        exact ⟨old, by rw [Enrolments.Committed, keyed]; exact stored, ⟨ours, keyed ▸ since.2⟩, keyed⟩
      · exact List.Subset.refl _
      · exact rows
      · intro thread _ _
        apply kept
        · rfl
        · exact rows
    · exact single
  | deleteStale workspace flow contactIds =>
    simp only [entryEvent] at happened
    split at happened <;> cases happened
    next stale =>
      have rows : threads.shared.runs.tables.hasSeenSnapshot workspaceId flowId contactId = true →
          FlowTables.hasSeenSnapshot { threads.shared.runs.tables with
            membershipSnapshot := threads.shared.runs.tables.membershipSnapshot.delete fun snapshot =>
              snapshot.workspaceId == workspace && snapshot.flowId == flow && contactIds.contains snapshot.contactId }
            workspaceId flowId contactId = true := by
        apply hasSeenSnapshot_delete
        -- a member is not among the contacts that do not match
        rw [Bool.eq_false_iff]
        intro deleted
        simp only [Bool.and_eq_true, beq_iff_eq, List.contains_iff_mem] at deleted
        obtain ⟨⟨rfl, rfl⟩, inside⟩ := deleted
        exact stale (List.any_eq_true.mpr ⟨contactId, inside, member⟩)
      apply single_kept single
      · exact fun run committed since => ⟨run, committed, since, rfl⟩
      · exact List.Subset.refl _
      · exact rows
      · intro thread _ _
        apply kept
        · rfl
        · exact rows

theorem single_turns {turn : Turn EntryTurn EntryEvent} (sound : threads.shared.Sound)
    (single : Single first workspaceId flowId contactId threads)
    (member : threads.shared.members workspaceId flowId contactId = true)
    (current : overtaken first workspaceId flowId contactId threads turn = false)
    (taken : entryTurns threads turn = some next) : Single first workspaceId flowId contactId next := by
  cases turn with
  | thread id choice =>
    obtain ⟨shared, own, acted, rfl⟩ := interleave_thread.mp taken
    exact single_enters sound single current acted
  | outside event =>
    obtain ⟨shared, happened, rfl⟩ := interleave_outside.mp taken
    exact single_event single member happened

theorem single_first (sound : threads.shared.Sound) :
    Single threads.shared workspaceId flowId contactId threads where
  one run _ committed since := absurd (sound.issued run (.inl committed)) since.2
  seen run committed since := absurd (sound.issued run (.inl committed)) since.2
  alone thread run member since := absurd (sound.issued run (.inr ⟨thread, member⟩)) since.2
  marks thread run member since := absurd (sound.issued run (.inr ⟨thread, member⟩)) since.2

theorem createdSince_le_one (single : Single first workspaceId flowId contactId threads) :
    (first.createdSince workspaceId flowId contactId threads.shared).length ≤ 1 := by
  have distinct : (first.createdSince workspaceId flowId contactId threads.shared).Nodup :=
    ((List.Nodup.of_map _ threads.shared.runs.tables.flowRuns.unique).filter _).filter _
  have same : ∀ run ∈ first.createdSince workspaceId flowId contactId threads.shared,
      ∀ other ∈ first.createdSince workspaceId flowId contactId threads.shared, run = other := by
    intro run member other also
    obtain ⟨committed, since⟩ := mem_createdSince.mp member
    obtain ⟨alsoCommitted, alsoSince⟩ := mem_createdSince.mp also
    have one := single.one run other committed since alsoCommitted alsoSince
    rw [Enrolments.Committed, one] at committed
    exact Option.some.inj (committed.symm.trans alsoCommitted)
  generalize first.createdSince workspaceId flowId contactId threads.shared = created at distinct same
  cases created with
  | nil => exact Nat.zero_le 1
  | cons run rest =>
    cases rest with
    | nil => exact Nat.le_refl 1
    | cons other rest =>
      have equal := same run List.mem_cons_self other (List.mem_cons_of_mem _ List.mem_cons_self)
      exact absurd (equal ▸ List.mem_cons_self) (List.nodup_cons.mp distinct).1

end Single

/-- While a contact stays a member, it gets one run of the flow, unless an insertion rests on a look-up that
another entry has overtaken. -/
theorem one_run_while_member {flows : Table FlowRow.id} {versions : Table FlowVersionRow.id} {clock : Timestamp}
    {members : WorkspaceId → FlowId → ContactId → Bool} {before during : List (Turn EntryTurn EntryEvent)}
    {middle final : EntryThreads} {workspaceId : WorkspaceId} {flowId : FlowId} {contactId : ContactId}
    (reached : run entryTurns (entryStart flows versions clock members) before = some middle)
    (ran : run entryTurns middle during = some final)
    (stays : Along entryTurns (fun threads _ _ => threads.shared.members workspaceId flowId contactId = true)
      middle during)
    (current : Along entryTurns (fun threads turn _ =>
      overtaken middle.shared workspaceId flowId contactId threads turn = false) middle during) :
    (middle.shared.createdSince workspaceId flowId contactId final.shared).length ≤ 1 := by
  have sound : middle.shared.Sound :=
    invariant_of_every_run sound_turns (sound_start flows versions clock members) reached
  have kept : ∀ threads turn next,
      (threads.shared.Sound ∧ Single middle.shared workspaceId flowId contactId threads) →
      (threads.shared.members workspaceId flowId contactId = true ∧
        overtaken middle.shared workspaceId flowId contactId threads turn = false) →
      entryTurns threads turn = some next →
      next.shared.Sound ∧ Single middle.shared workspaceId flowId contactId next := by
    rintro threads turn next ⟨soundHere, single⟩ ⟨member, fresh⟩ taken
    exact ⟨sound_turns threads turn next soundHere taken, single_turns soundHere single member fresh taken⟩
  exact createdSince_le_one (invariant_of_run kept ⟨sound, single_first sound⟩ (along_and stays current) ran).2

section Traces

def vipFlow : FlowRow :=
  { welcomeFlow with name := "vip", triggerType := some .segment, triggerEventName := none, triggerSegmentId := some 5 }

def vipVersion : FlowVersionRow where
  id := 10
  workspaceId := 1
  flowId := 7
  versionNumber := 1
  definition := { nodes := [⟨1, .trigger .segment none (some 5)⟩, ⟨2, .exit⟩], edges := [{ source := 1, target := 2 }] }
  publishedAt := some 0

def vipStart : EntryThreads :=
  entryStart (Table.empty.insert vipFlow) (Table.empty.insert vipVersion) 0 fun _ _ contactId => contactId == 3

def onWorker (id : Nat) (turns : List EntryTurn) : List (Turn EntryTurn EntryEvent) := turns.map (.thread id)

def lookedUpPage : List EntryTurn := [.load .sweepPage 1 7, .begin, .matchPage .sweepPage vipFlow [3], .lookUpPage]

def recheckTurns (flowRunId : FlowRunId) : List EntryTurn :=
  [.begin, .load .recheck 1 7, .lookUpContact vipFlow 3, .testMember, .check, .insert flowRunId, .markSeen, .commit]

def refusedPage : List (Turn EntryTurn EntryEvent) :=
  onWorker 0 (lookedUpPage ++ [.check]) ++ onWorker 1 (recheckTurns 100) ++
    onWorker 0 [.insert 101, .markSeen, .commit] ++ [.outside (.advance 1 100 (observed 0))]

theorem refused_page_creates_none : ∃ final, run entryTurns vipStart refusedPage = some final ∧
    (final.shared.runs.tables.flowRuns.find? 100).isSome = true ∧
    (vipStart.shared.createdSince 1 7 3 final.shared).length ≤ 1 := by
  have runs : (run entryTurns vipStart refusedPage).any (fun final =>
      (final.shared.runs.tables.flowRuns.find? 100).isSome) = true := by
    decide +kernel
  obtain ⟨final, ran, entered⟩ := Option.any_eq_true _ _ |>.mp runs
  have checked : checkAlong entryTurns (fun threads turn => threads.shared.members 1 7 3 &&
      !overtaken vipStart.shared 1 7 3 threads turn) vipStart refusedPage = true := by
    decide +kernel
  have along := along_of_check checked
  refine ⟨final, ran, entered, one_run_while_member (run_nil vipStart) ran ?_ ?_⟩
  · apply along_mono _ along
    intro threads turn next both
    exact (Bool.and_eq_true_iff.mp both).1
  · apply along_mono _ along
    intro threads turn next both
    exact Bool.not_eq_true' _ |>.mp (Bool.and_eq_true_iff.mp both).2

def overtakenPage : List (Turn EntryTurn EntryEvent) :=
  onWorker 0 lookedUpPage ++ onWorker 1 (recheckTurns 100) ++ [.outside (.advance 1 100 (observed 0))] ++
    onWorker 0 [.check, .insert 101, .markSeen, .commit]

/-- One run as claimed, of every interleaving: the member has two runs of a flow that may be entered every time. -/
theorem overtaken_page_enters_again : ¬ ∀ (flows : Table FlowRow.id) (versions : Table FlowVersionRow.id)
    (clock : Timestamp) (members : WorkspaceId → FlowId → ContactId → Bool)
    (before during : List (Turn EntryTurn EntryEvent)) (middle final : EntryThreads) (flow : FlowRow)
    (contactId : ContactId), flows.find? flow.id = some flow → flow.reentryMode = .everyTime →
    run entryTurns (entryStart flows versions clock members) before = some middle →
    run entryTurns middle during = some final →
    Along entryTurns (fun threads _ _ => threads.shared.members flow.workspaceId flow.id contactId = true)
      middle during →
    (middle.shared.createdSince flow.workspaceId flow.id contactId final.shared).length ≤ 1 := by
  intro always
  have runs : (run entryTurns vipStart overtakenPage).any (fun final =>
      decide ((vipStart.shared.createdSince 1 7 3 final.shared).length = 2)) = true := by
    decide +kernel
  obtain ⟨final, ran, both⟩ := Option.any_eq_true _ _ |>.mp runs
  have stays : checkAlong entryTurns (fun threads _ => threads.shared.members 1 7 3) vipStart overtakenPage = true := by
    decide +kernel
  have one := always _ _ 0 _ [] overtakenPage vipStart final vipFlow 3 rfl rfl (run_nil vipStart) ran
    (along_of_check stays)
  have two : (vipStart.shared.createdSince 1 7 3 final.shared).length = 2 := of_decide_eq_true both
  change (vipStart.shared.createdSince 1 7 3 final.shared).length ≤ 1 at one
  omega

end Traces

end LocalCrm.Flows
