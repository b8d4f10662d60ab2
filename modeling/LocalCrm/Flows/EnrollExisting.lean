import LocalCrm.Flows.Membership

/-! Which members an enrolment of existing ones has considered when it returns. -/

set_option autoImplicit false

namespace LocalCrm.Flows

open Library Segments

namespace FlowTables

variable (tables : FlowTables) (workspaceId : WorkspaceId) (flowId : FlowId) (contactId : ContactId)

def hasRun : Bool := !(tables.runsOf workspaceId flowId contactId).isEmpty

/-- A snapshot row and a run; the re-entry rule refuses nobody without a run. -/
def considered : Bool :=
  tables.hasSeenSnapshot workspaceId flowId contactId && tables.hasRun workspaceId flowId contactId

end FlowTables

section Entries

variable {tables before after : FlowTables} {workspaceId : WorkspaceId} {flowId : FlowId} {contactId other : ContactId}
  {input : EntryInput} {walk : SegmentWalk} {page : List ContactId} {flowRunId : FlowRunId}

theorem hasRun_iff : tables.hasRun workspaceId flowId contactId = true ↔
    ∃ run, tables.flowRuns.find? run.id = some run ∧ run.isFor workspaceId flowId contactId = true := by
  unfold FlowTables.hasRun
  rw [Bool.not_eq_true', List.isEmpty_eq_false_iff_exists_mem]
  exact exists_congr fun run => mem_runsOf

theorem hasRun_of_active (active : tables.hasActiveRun workspaceId flowId contactId = true) :
    tables.hasRun workspaceId flowId contactId = true := by
  obtain ⟨run, found, pair, _⟩ := hasActiveRun_iff.mp active
  exact hasRun_iff.mpr ⟨run, found, pair⟩

theorem hasRun_of_refused {now : Timestamp} {params : CanEnterFlowParams} {refusal : EntryRefusal}
    (refused : tables.canEnterFlow now params = .error refusal) :
    tables.hasRun params.workspaceId params.flowId params.contactId = true := by
  unfold FlowTables.canEnterFlow at refused
  split at refused
  · next active => exact hasRun_of_active active
  · split at refused
    · cases refused
    · split at refused
      · cases refused
      · next present => simpa [FlowTables.hasRun] using present
    · cases last : tables.lastEntryAt params.workspaceId params.flowId params.contactId with
      | none =>
        rw [last] at refused
        cases refused
      | some lastEntryAt =>
        unfold FlowTables.hasRun
        cases runs : tables.runsOf params.workspaceId params.flowId params.contactId with
        | nil => simp [FlowTables.lastEntryAt, runs] at last
        | cons run rest => rfl

/-- Runs and snapshot rows stay. -/
structure Grows (before after : FlowTables) : Prop where
  runs : ∀ workspaceId flowId contactId, before.hasRun workspaceId flowId contactId = true →
    after.hasRun workspaceId flowId contactId = true
  seen : ∀ workspaceId flowId contactId, before.hasSeenSnapshot workspaceId flowId contactId = true →
    after.hasSeenSnapshot workspaceId flowId contactId = true

theorem Grows.refl (tables : FlowTables) : Grows tables tables := ⟨fun _ _ _ => id, fun _ _ _ => id⟩

theorem Grows.trans {middle : FlowTables} (first : Grows before middle) (second : Grows middle after) :
    Grows before after :=
  ⟨fun _ _ _ has => second.runs _ _ _ (first.runs _ _ _ has), fun _ _ _ has => second.seen _ _ _ (first.seen _ _ _ has)⟩

theorem Grows.considered (grows : Grows before after)
    (has : before.considered workspaceId flowId contactId = true) :
    after.considered workspaceId flowId contactId = true := by
  unfold FlowTables.considered at has ⊢
  rw [Bool.and_eq_true] at has ⊢
  exact ⟨grows.seen _ _ _ has.1, grows.runs _ _ _ has.2⟩

theorem grows_of_same (runs : after.flowRuns = before.flowRuns)
    (snapshot : after.membershipSnapshot = before.membershipSnapshot) : Grows before after := by
  constructor
  · intro workspaceId flowId contactId has
    unfold FlowTables.hasRun FlowTables.runsOf at has ⊢
    rw [runs]
    exact has
  · intro workspaceId flowId contactId has
    unfold FlowTables.hasSeenSnapshot at has ⊢
    rw [snapshot]
    exact has

theorem insertRun_grows (run : FlowRunRow) : Grows tables (tables.insertRun run) := by
  unfold FlowTables.insertRun
  split
  · exact .refl tables
  · constructor
    · intro workspaceId flowId contactId has
      obtain ⟨old, found, pair⟩ := hasRun_iff.mp has
      apply hasRun_iff.mpr
      refine ⟨old, ?_, pair⟩
      show (tables.flowRuns.insert run).find? old.id = some old
      rw [Table.find?_insert, found]
      rfl
    · exact fun _ _ _ => id

theorem foldl_grows {contactIds : List ContactId} {act : FlowTables → ContactId → FlowTables}
    (grows : ∀ tables contactId, Grows tables (act tables contactId)) : Grows tables (contactIds.foldl act tables) := by
  induction contactIds generalizing tables with
  | nil => exact .refl tables
  | cons contactId rest ih => exact (grows tables contactId).trans ih

theorem hasSeenSnapshot_markSeen {contactIds : List ContactId} :
    (tables.markSeen workspaceId flowId contactIds).hasSeenSnapshot workspaceId flowId contactId =
      (tables.hasSeenSnapshot workspaceId flowId contactId || contactIds.contains contactId) := by
  unfold FlowTables.hasSeenSnapshot FlowTables.markSeen
  generalize tables.membershipSnapshot = snapshot
  induction contactIds generalizing snapshot with
  | nil => simp
  | cons head rest ih =>
    rw [List.foldl_cons, ih, Table.find?_insert]
    by_cases same : contactId = head
    · subst same
      simp [MembershipSnapshot.key]
    · simp [MembershipSnapshot.key, same, Ne.symm same]

theorem markSeen_grows {contactIds : List ContactId} : Grows tables (tables.markSeen workspaceId flowId contactIds) := by
  constructor
  · exact fun _ _ _ => id
  · intro otherWorkspace otherFlow contactId has
    unfold FlowTables.hasSeenSnapshot FlowTables.markSeen at *
    generalize tables.membershipSnapshot = snapshot at has ⊢
    induction contactIds generalizing snapshot with
    | nil => exact has
    | cons head rest ih =>
      apply ih
      rw [Table.find?_insert, Option.isSome_or, has]
      rfl

theorem enterSegmentTriggeredFlow_grows : Grows tables (enterSegmentTriggeredFlow input walk tables contactId) := by
  unfold enterSegmentTriggeredFlow
  split
  · exact (insertRun_grows _).trans markSeen_grows
  · exact markSeen_grows

theorem enrollContact_grows : Grows tables (enrollContact input walk tables contactId) := by
  unfold enrollContact
  split
  · exact .refl tables
  · exact enterSegmentTriggeredFlow_grows

theorem writeEnrollCursor_grows {flow : FlowRow} {cursor : Option ContactId} :
    Grows tables (writeEnrollCursor tables flow cursor) := grows_of_same rfl rfl

theorem enrollBatch_grows {cursor : Option ContactId} : Grows tables (enrollBatch input walk tables page cursor) :=
  (foldl_grows fun _ _ => enrollContact_grows).trans writeEnrollCursor_grows

theorem enterSegmentTriggeredFlow_considers (fresh : tables.flowRuns.find? (input.flowRunId contactId) = none) :
    (enterSegmentTriggeredFlow input walk tables contactId).considered walk.flow.workspaceId walk.flow.id contactId =
      true := by
  unfold enterSegmentTriggeredFlow FlowTables.considered
  rw [Bool.and_eq_true, hasSeenSnapshot_markSeen]
  refine ⟨by simp, markSeen_grows.runs _ _ _ ?_⟩
  split
  · unfold FlowTables.insertRun
    split
    · next active => exact hasRun_of_active active
    · apply hasRun_iff.mpr
      refine ⟨tables.newRun input.now (input.flowRunId contactId) walk.flow.workspaceId walk.flow.id
        walk.liveVersionId contactId, ?_, isFor_iff.mpr ⟨rfl, rfl, rfl⟩⟩
      show (tables.flowRuns.insert _).find? (input.flowRunId contactId) = _
      rw [Table.find?_insert, fresh, Option.none_or]
      exact if_pos rfl
  · next refused => exact hasRun_of_refused refused

theorem enterSegmentTriggeredFlow_fresh (differs : flowRunId ≠ input.flowRunId contactId)
    (fresh : tables.flowRuns.find? flowRunId = none) :
    (enterSegmentTriggeredFlow input walk tables contactId).flowRuns.find? flowRunId = none := by
  unfold enterSegmentTriggeredFlow
  split
  · show (tables.insertRun _).flowRuns.find? flowRunId = none
    unfold FlowTables.insertRun
    split
    · exact fresh
    · show (tables.flowRuns.insert _).find? flowRunId = none
      rw [Table.find?_insert, fresh, Option.none_or, if_neg]
      intro same
      exact differs same.symm
  · exact fresh

theorem enrollContact_fresh (differs : flowRunId ≠ input.flowRunId contactId)
    (fresh : tables.flowRuns.find? flowRunId = none) :
    (enrollContact input walk tables contactId).flowRuns.find? flowRunId = none := by
  unfold enrollContact
  split
  · exact fresh
  · exact enterSegmentTriggeredFlow_fresh differs fresh

theorem foldl_considers {act : FlowTables → ContactId → FlowTables} {ready : FlowTables → ContactId → Prop}
    (grows : ∀ tables contactId, Grows tables (act tables contactId))
    (considers : ∀ tables contactId, ready tables contactId →
      (act tables contactId).considered workspaceId flowId contactId = true)
    (stays : ∀ tables contactId other, other ∈ page → contactId ∈ page → other ≠ contactId → ready tables other →
      ready (act tables contactId) other)
    (distinct : page.Nodup) (holds : ready tables contactId) (member : contactId ∈ page) :
    (page.foldl act tables).considered workspaceId flowId contactId = true := by
  have suffix : ∀ (rest : List ContactId) tables, rest ⊆ page → rest.Nodup → ready tables contactId →
      contactId ∈ rest → (rest.foldl act tables).considered workspaceId flowId contactId = true := by
    intro rest
    induction rest with
    | nil =>
      intro tables _ _ _ inside
      cases inside
    | cons head tail ih =>
      intro tables within once holds inside
      obtain ⟨away, once⟩ := List.nodup_cons.mp once
      rcases List.mem_cons.mp inside with rfl | later
      · rw [List.foldl_cons]
        exact (foldl_grows grows).considered (considers tables _ holds)
      · apply ih _ (fun _ inTail => within (List.mem_cons_of_mem _ inTail)) once _ later
        apply stays tables head contactId member (within List.mem_cons_self) _ holds
        rintro rfl
        exact away later
  exact suffix page tables (List.Subset.refl page) distinct holds member

theorem hasSeenSnapshot_enter : (enterSegmentTriggeredFlow input walk tables contactId).hasSeenSnapshot
    walk.flow.workspaceId walk.flow.id other =
      (tables.hasSeenSnapshot walk.flow.workspaceId walk.flow.id other || decide (other = contactId)) := by
  unfold enterSegmentTriggeredFlow
  rw [hasSeenSnapshot_markSeen]
  split
  · unfold FlowTables.insertRun
    split <;> simp [FlowTables.hasSeenSnapshot]
  · simp

theorem enrollBatch_considers {cursor : Option ContactId} (fresh : input.fresh tables page = true)
    (distinct : page.Nodup) (member : contactId ∈ page)
    (entered : tables.hasSeenSnapshot walk.flow.workspaceId walk.flow.id contactId = true →
      tables.hasRun walk.flow.workspaceId walk.flow.id contactId = true) :
    (enrollBatch input walk tables page cursor).considered walk.flow.workspaceId walk.flow.id contactId = true := by
  unfold EntryInput.fresh at fresh
  rw [Bool.and_eq_true, decide_eq_true_eq, List.all_eq_true] at fresh
  obtain ⟨apart, unused⟩ := fresh
  -- until its turn comes a contact's run id is unused, and whoever is seen has a run
  apply @foldl_considers _ _ _ _ _ (enrollContact input walk) (fun tables contactId =>
    tables.flowRuns.find? (input.flowRunId contactId) = none ∧
      (tables.hasSeenSnapshot walk.flow.workspaceId walk.flow.id contactId = true →
        tables.hasRun walk.flow.workspaceId walk.flow.id contactId = true))
    (fun _ _ => enrollContact_grows) _ _ distinct ⟨Option.isNone_iff_eq_none.mp (unused contactId member), entered⟩ member
  · intro tables contactId ready
    unfold enrollContact
    split
    · next seen =>
      unfold FlowTables.considered
      rw [seen, ready.2 seen]
      rfl
    · exact enterSegmentTriggeredFlow_considers ready.1
  · intro tables contactId other inside also differs ready
    constructor
    · apply enrollContact_fresh _ ready.1
      intro same
      exact differs (List.inj_on_of_nodup_map apart inside also same)
    · intro seen
      apply enrollContact_grows.runs
      apply ready.2
      unfold enrollContact at seen
      split at seen
      · exact seen
      · rw [hasSeenSnapshot_enter] at seen
        simpa [differs] using seen

end Entries

section Turns

variable {id : Nat} {store next : Store} {session after : Session}

theorem insertWithDraft_apart {tables written : FlowTables} {flow : FlowRow} {versionId : FlowVersionId}
    {definition : FlowDefinition} (inserted : insertWithDraft tables flow versionId definition = some written) :
    written.flowRuns = tables.flowRuns ∧ written.membershipSnapshot = tables.membershipSnapshot := by
  unfold insertWithDraft insertFlow insertVersion at inserted
  simp only [Option.bind_eq_bind] at inserted
  split at inserted
  · cases inserted
  · rw [Option.bind_some] at inserted
    split at inserted <;> cases inserted
    exact ⟨rfl, rfl⟩

theorem writeDefinition_apart {tables : FlowTables} {workspaceId : WorkspaceId} {versionId : FlowVersionId}
    {definition : Option FlowDefinition} :
    (writeDefinition tables workspaceId versionId definition).flowRuns = tables.flowRuns ∧
      (writeDefinition tables workspaceId versionId definition).membershipSnapshot = tables.membershipSnapshot := by
  unfold writeDefinition
  split <;> exact ⟨rfl, rfl⟩

theorem updateFlowDraft_apart {tables written : FlowTables} {existing : FlowRow} {patch : UpdateFlowDraftInput}
    {read : DraftRead} {versionId : FlowVersionId}
    (updated : updateFlowDraft tables existing patch read versionId = some written) :
    written.flowRuns = tables.flowRuns ∧ written.membershipSnapshot = tables.membershipSnapshot := by
  unfold updateFlowDraft at updated
  split at updated
  · cases updated
    exact writeDefinition_apart
  · obtain ⟨inserted, stored, rfl⟩ := Option.map_eq_some_iff.mp updated
    obtain ⟨runs, snapshot⟩ := @writeDefinition_apart inserted existing.workspaceId versionId patch.definition
    unfold insertVersion at stored
    split at stored <;> cases stored
    exact ⟨runs, snapshot⟩

theorem writeFlow_grows {tables : FlowTables} {flow : FlowRow} : Grows tables (writeFlow tables flow) :=
  grows_of_same rfl rfl

theorem publishFlow_grows {now : Timestamp} {members : SegmentId → Option (List ContactId)} {tables : FlowTables}
    {existing : FlowRow} {read : PublishRead} {enrollExisting : Bool} :
    Grows tables (publishFlow now members tables existing read enrollExisting) := by
  unfold publishFlow
  dsimp only
  have published : Grows tables (writeFlow (snapshotDraftToVersion now tables existing.workspaceId read.draftVersionId)
      (publishedFlow existing read)) := grows_of_same rfl rfl
  split
  · exact published.trans markSeen_grows
  · exact published

theorem committed_grows {commit : Commit} {tables : FlowTables} (done : committed store commit session = some tables) :
    Grows store.tables tables := by
  unfold committed at done
  split at done
  · exact grows_of_same (insertWithDraft_apart done).1 (insertWithDraft_apart done).2
  · exact grows_of_same (updateFlowDraft_apart done).1 (updateFlowDraft_apart done).2
  · cases done
    exact publishFlow_grows
  · obtain ⟨written, _, rfl⟩ := Option.map_eq_some_iff.mp done
    exact writeFlow_grows
  · obtain ⟨written, _, rfl⟩ := Option.map_eq_some_iff.mp done
    exact writeFlow_grows
  · exact grows_of_same (insertWithDraft_apart done).1 (insertWithDraft_apart done).2
  · cases done
    exact insertRun_grows _
  all_goals cases done

theorem sessionTurn_grows {turn : SessionTurn} (turned : sessionTurn id store session turn = some (next, after)) :
    Grows store.tables next.tables := by
  rcases sessionTurn_tables turned with same | ⟨commit, _, done⟩
  · rw [same]
    exact .refl _
  · exact committed_grows done

end Turns

def MembershipStore.isMember (store : MembershipStore) (workspaceId : WorkspaceId) (flowId : FlowId)
    (contactId : ContactId) : Bool :=
  (store.loadFlow workspaceId flowId).any fun walk => decide (contactId ∈ store.matching walk)

section Completeness

variable (id : Nat) (contactId : ContactId)

/-- From the delivery of the job to its return. -/
def staysMember (threads : MembershipThreads) (_ : Turn WorkerTurn MembershipEvent) : Bool :=
  match threads.own id with
  | .enrolling job => threads.shared.isMember job.workspaceId job.flowId contactId
  | .session _ | .draining _ | .sweeping _ _ => true

/-- A set-up passes over the contact only if it is considered already or the last attempt got that far, and a
batch finds it seen only with a run. -/
def passesNobody (store : MembershipStore) (job : EnrollJob) : EnrollTurn → Bool
  | .loadFlow =>
    (store.loadFlow job.workspaceId job.flowId).all fun walk =>
      Keyset.isAfter walk.flow.enrollCursor contactId || !Keyset.isAfter job.cursor contactId ||
        store.store.tables.considered job.workspaceId job.flowId contactId
  | .batch _ => job.attempt.all fun walk =>
      let page := Keyset.page enrollBatchSize job.cursor (store.matching walk)
      decide (contactId ∈ store.matching walk) &&
        (!page.contains contactId || !store.store.tables.hasSeenSnapshot job.workspaceId job.flowId contactId ||
          store.store.tables.hasRun job.workspaceId job.flowId contactId)
  | .seed | .crash => true

/-- The same of the job of one worker, and no sweep drains the contact for a definition it does not match. -/
def walksFaithfully (threads : MembershipThreads) : Turn WorkerTurn MembershipEvent → Bool
  | .thread thread (.enroll turn) =>
    match threads.own id with
    | .enrolling job => thread != id || passesNobody contactId threads.shared job turn
    | .session _ | .draining _ | .sweeping _ _ => true
  | .thread thread (.sweep (.deleteStale _)) =>
    match threads.own id, threads.own thread with
    | .enrolling job, .draining walk =>
      walk.flow.workspaceId != job.workspaceId || walk.flow.id != job.flowId ||
        decide (contactId ∈ threads.shared.matching walk)
    | _, _ => true
  | .thread _ (.session _) | .thread _ (.enrollJob _ _ _) | .thread _ (.sweepJob _ _) |
    .thread _ (.sweep .loadCheckpoint) | .thread _ (.sweep (.page _)) | .thread _ (.sweep .budgetSpent) |
    .thread _ (.sweep .crash) | .outside _ => true

def returnsFrom (job : EnrollJob) (threads next : MembershipThreads) : Prop :=
  threads.own id = .enrolling job ∧ job.enrollExisting = true ∧ next.own id = .idle

end Completeness

section Steps

variable {id : Nat} {contactId : ContactId} {store next : MembershipStore} {worker after : Worker}
  {workspaceId : WorkspaceId} {flowId : FlowId} {walk : SegmentWalk} {job : EnrollJob}

theorem mem_staleSnapshots (stale : contactId ∈ store.staleSnapshots walk) : contactId ∉ store.matching walk := by
  obtain ⟨snapshot, member, rfl⟩ := List.mem_map.mp stale
  have both := (List.mem_filter.mp member).2
  simp only [Bool.and_eq_true, Bool.not_eq_true', List.contains_eq_mem, decide_eq_false_iff_not] at both
  exact both.2

theorem deleteSnapshots_seen {contactIds : List ContactId}
    (spared : walk.flow.workspaceId = workspaceId → walk.flow.id = flowId → contactId ∉ contactIds)
    (seen : store.store.tables.hasSeenSnapshot workspaceId flowId contactId = true) :
    (store.deleteSnapshots walk contactIds).store.tables.hasSeenSnapshot workspaceId flowId contactId = true := by
  apply hasSeenSnapshot_delete ?_ seen
  by_cases within : workspaceId = walk.flow.workspaceId
  · by_cases owned : flowId = walk.flow.id
    · simp [spared within.symm owned.symm]
    · simp [owned]
  · simp [within]

theorem deleteSnapshots_considered {contactIds : List ContactId}
    (spared : walk.flow.workspaceId = workspaceId → walk.flow.id = flowId → contactId ∉ contactIds)
    (has : store.store.tables.considered workspaceId flowId contactId = true) :
    (store.deleteSnapshots walk contactIds).store.tables.considered workspaceId flowId contactId = true := by
  unfold FlowTables.considered at has ⊢
  rw [Bool.and_eq_true] at has ⊢
  exact ⟨deleteSnapshots_seen spared has.1, has.2⟩

theorem enrollTurn_grows {turn : EnrollTurn} (turned : enrollTurn store job turn = some (next, after)) :
    Grows store.store.tables next.store.tables := by
  cases turn with
  | loadFlow =>
    simp only [enrollTurn] at turned
    split at turned <;> cases turned <;> exact .refl _
  | batch input =>
    simp only [enrollTurn] at turned
    split at turned
    · cases turned
    · split at turned
      · cases turned
        exact enrollBatch_grows
      · cases turned
  | seed =>
    simp only [enrollTurn] at turned
    split at turned
    · cases turned
    · split at turned
      · cases turned
      · cases turned
        exact markSeen_grows
  | crash =>
    cases turned
    exact .refl _

theorem sweepOneFlowPage_grows {input : EntryInput} {page : List ContactId} :
    Grows store.store.tables (store.sweepOneFlowPage input walk page).store.tables := by
  cases page with
  | nil => exact .refl _
  | cons contactId rest => exact foldl_grows fun _ _ => enterSegmentTriggeredFlow_grows

theorem sweepTurn_grows {cursor : Option ContactId} {turn : SweepTurn}
    (turned : sweepTurn store walk cursor turn = some (next, after)) :
    Grows store.store.tables next.store.tables := by
  cases turn with
  | page input =>
    simp only [sweepTurn] at turned
    split at turned
    · split at turned <;> cases turned <;> exact sweepOneFlowPage_grows
    · cases turned
  | budgetSpent | crash =>
    cases turned
    exact .refl _
  | deleteStale | loadCheckpoint => cases turned

theorem workerTurn_grows {turn : WorkerTurn} (turned : workerTurn id store worker turn = some (next, after)) :
    Grows store.store.tables next.store.tables ∨
      ∃ walk contactIds, worker = .draining walk ∧ turn = .sweep (.deleteStale contactIds) ∧
        next = store.deleteSnapshots walk contactIds ∧ ∀ contactId ∈ contactIds, contactId ∉ store.matching walk := by
  unfold workerTurn at turned
  split at turned
  · obtain ⟨pair, moved, same⟩ := Option.map_eq_some_iff.mp turned
    cases same
    exact .inl (sessionTurn_grows moved)
  · cases turned
    exact .inl (.refl _)
  · left
    unfold startSweep at turned
    split at turned
    · cases turned
    · split at turned <;> cases turned <;> exact .refl _
  · exact .inl (enrollTurn_grows turned)
  · next walk turn =>
    cases turn with
    | deleteStale contactIds =>
      right
      simp only [drainTurn] at turned
      split at turned
      · next allowed =>
        cases turned
        exact ⟨walk, contactIds, rfl, rfl, rfl, fun contactId member => mem_staleSnapshots (allowed.2.1 contactId member)⟩
      · cases turned
    | loadCheckpoint | crash =>
      cases turned
      exact .inl (.refl _)
    | page | budgetSpent => cases turned
  · exact .inl (sweepTurn_grows turned)
  · cases turned

theorem membershipEvent_grows {event : MembershipEvent} (happened : membershipEvent store event = some next) :
    Grows store.store.tables next.store.tables := by
  cases event with
  | advance workspaceId flowRunId seen =>
    simp only [membershipEvent, engineEvent] at happened
    cases advanced : advanceStored seen store.store.tables workspaceId flowRunId with
    | error message =>
      rw [advanced] at happened
      cases happened
      exact .refl _
    | ok tables =>
      rw [advanced] at happened
      cases happened
      obtain ⟨_, present, origin⟩ := advanceStored_runs advanced
      constructor
      · intro workspaceId flowId contactId has
        obtain ⟨old, found, pair⟩ := hasRun_iff.mp has
        have still := present old.id
        rw [found] at still
        obtain ⟨run, stored⟩ := Option.isSome_iff_exists.mp still.symm
        obtain ⟨before, there, same, _⟩ := origin old.id run stored
        cases found.symm.trans there
        apply hasRun_iff.mpr
        refine ⟨run, by rw [Table.key_of_find? stored]; exact stored, isFor_iff.mpr ?_⟩
        obtain ⟨workspace, flow, contact⟩ := isFor_iff.mp pair
        exact ⟨same.1.trans workspace, same.2.1.trans flow, same.2.2.trans contact⟩
      · intro workspaceId flowId contactId has
        unfold FlowTables.hasSeenSnapshot at has ⊢
        rw [advanceStored_snapshot advanced]
        exact has
  | triggerCheck workspaceId flowId contactId input =>
    simp only [membershipEvent, triggerCheck] at happened
    split at happened
    · cases happened
      exact .refl _
    · split at happened
      · split at happened <;> cases happened
        · exact .refl _
        · exact enterSegmentTriggeredFlow_grows
      · cases happened
  | members | segment =>
    cases happened
    exact .refl _

end Steps

section Run

variable {id : Nat} {contactId : ContactId} {threads next : MembershipThreads} {turn : Turn WorkerTurn MembershipEvent}

structure WalkSound (id : Nat) (contactId : ContactId) (threads : MembershipThreads) : Prop where
  loaded : ∀ job walk, threads.own id = .enrolling job → job.attempt = some walk →
    walk.flow.workspaceId = job.workspaceId ∧ walk.flow.id = job.flowId
  behind : ∀ job, threads.own id = .enrolling job → Keyset.isAfter job.cursor contactId = false →
    threads.shared.store.tables.considered job.workspaceId job.flowId contactId = true

theorem loadWalk_some {store : MembershipStore} {found : Option FlowRow} {walk : SegmentWalk}
    (loaded : store.loadWalk found = some walk) :
    found = some walk.flow ∧ walk.flow.liveVersionId = some walk.liveVersionId ∧
      ∃ segmentId, walk.flow.triggerSegmentId = some segmentId ∧
        store.segments walk.flow.workspaceId segmentId = some walk.definition := by
  simp only [MembershipStore.loadWalk, Option.bind_eq_bind, Option.bind_eq_some_iff] at loaded
  obtain ⟨flow, there, liveVersionId, live, triggerSegmentId, triggered, definition, defined, same⟩ := loaded
  cases same
  exact ⟨there, live, triggerSegmentId, triggered, defined⟩

theorem loadWalk_flow {store : MembershipStore} {found : Option FlowRow} {walk : SegmentWalk}
    (loaded : store.loadWalk found = some walk) : found = some walk.flow := (loadWalk_some loaded).1

theorem loadFlow_keyed {store : MembershipStore} {workspaceId : WorkspaceId} {flowId : FlowId} {walk : SegmentWalk}
    (loaded : store.loadFlow workspaceId flowId = some walk) :
    walk.flow.workspaceId = workspaceId ∧ walk.flow.id = flowId := by
  obtain ⟨_, keyed, within⟩ := flow?_some (loadWalk_flow loaded)
  exact ⟨within, keyed⟩

section Inversion

variable {store stored : MembershipStore} {worker : Worker} {job after : EnrollJob} {moved : EnrollTurn}

theorem enrollTurn_continues (turned : enrollTurn store job moved = some (stored, .enrolling after)) :
    (moved = .loadFlow ∧ stored = store ∧ ∃ walk, store.loadFlow job.workspaceId job.flowId = some walk ∧
      after = { job with attempt := some walk, cursor := walk.flow.enrollCursor }) ∨
    (∃ input walk page, moved = .batch input ∧ job.attempt = some walk ∧
      page = Keyset.page enrollBatchSize job.cursor (store.matching walk) ∧ input.fresh store.store.tables page = true ∧
      stored = store.withTables (enrollBatch input walk store.store.tables page job.cursor) ∧
      after = { job with cursor := Keyset.pageEnd job.cursor page }) ∨
    (moved = .crash ∧ stored = store ∧ after = { job with attempt := none }) := by
  cases moved with
  | loadFlow =>
    simp only [enrollTurn] at turned
    split at turned
    · cases turned
    · cases turned
    · next walk _ loaded =>
      cases turned
      exact .inl ⟨rfl, rfl, walk, loaded, rfl⟩
  | batch input =>
    simp only [enrollTurn] at turned
    split at turned
    · cases turned
    · next walk attempted =>
      split at turned
      · next allowed =>
        split at turned
        · cases turned
        · cases turned
          exact .inr (.inl ⟨input, walk, _, rfl, attempted, rfl, allowed.2.2, rfl, rfl⟩)
      · cases turned
  | seed =>
    simp only [enrollTurn] at turned
    split at turned
    · cases turned
    · split at turned <;> cases turned
  | crash =>
    cases turned
    exact .inr (.inr ⟨rfl, rfl, rfl⟩)

theorem enrollTurn_returns (existing : job.enrollExisting = true)
    (turned : enrollTurn store job moved = some (stored, .idle)) :
    (moved = .loadFlow ∧ store.loadFlow job.workspaceId job.flowId = none) ∨
    (∃ input walk, moved = .batch input ∧ job.attempt = some walk ∧
      Keyset.page enrollBatchSize job.cursor (store.matching walk) = []) := by
  cases moved with
  | loadFlow =>
    simp only [enrollTurn] at turned
    split at turned
    · cases turned
    · next missing => exact .inl ⟨rfl, missing⟩
    · cases turned
  | batch input =>
    simp only [enrollTurn] at turned
    split at turned
    · cases turned
    · next walk attempted =>
      split at turned
      · split at turned
        · next empty => exact .inr ⟨input, walk, rfl, attempted, List.isEmpty_iff.mp empty⟩
        · cases turned
      · cases turned
  | seed =>
    simp only [enrollTurn, existing] at turned
    split at turned <;> cases turned
  | crash => cases turned

theorem workerTurn_enrolling {turn : WorkerTurn}
    (turned : workerTurn id store worker turn = some (stored, .enrolling after)) :
    (after.attempt = none ∧ after.cursor = none) ∨
      ∃ job moved, worker = .enrolling job ∧ turn = .enroll moved ∧
        enrollTurn store job moved = some (stored, .enrolling after) := by
  unfold workerTurn at turned
  split at turned
  · obtain ⟨pair, _, same⟩ := Option.map_eq_some_iff.mp turned
    cases same
  · cases turned
    exact .inl ⟨rfl, rfl⟩
  · unfold startSweep at turned
    split at turned
    · cases turned
    · split at turned <;> cases turned
  · next job moved => exact .inr ⟨job, moved, rfl, rfl, turned⟩
  · next walk turn =>
    cases turn <;> simp only [drainTurn] at turned
    case deleteStale =>
      split at turned <;> cases turned
    all_goals cases turned
  · next walk cursor turn =>
    cases turn <;> simp only [sweepTurn] at turned
    case page =>
      split at turned
      · split at turned <;> cases turned
      · cases turned
    all_goals cases turned
  · cases turned

end Inversion

theorem considered_kept (taken : membershipStep threads turn = some next)
    (met : walksFaithfully id contactId threads turn = true) {job : EnrollJob} (mine : threads.own id = .enrolling job)
    (has : threads.shared.store.tables.considered job.workspaceId job.flowId contactId = true) :
    next.shared.store.tables.considered job.workspaceId job.flowId contactId = true := by
  cases turn with
  | outside event =>
    obtain ⟨shared, happened, rfl⟩ := interleave_outside.mp taken
    exact (membershipEvent_grows happened).considered has
  | thread thread choice =>
    obtain ⟨shared, own, acted, rfl⟩ := interleave_thread.mp taken
    rcases workerTurn_grows acted with grows | ⟨walk, contactIds, draining, rfl, rfl, stale⟩
    · exact grows.considered has
    · apply deleteSnapshots_considered _ has
      intro within owned member
      simp only [walksFaithfully, mine, draining, within, owned, bne_self_eq_false, Bool.false_or,
        decide_eq_true_eq] at met
      exact stale contactId member met

theorem walkSound_of_own (holds : ∀ job, threads.own id = .enrolling job →
    (∀ walk, job.attempt = some walk → walk.flow.workspaceId = job.workspaceId ∧ walk.flow.id = job.flowId) ∧
    (Keyset.isAfter job.cursor contactId = false →
      threads.shared.store.tables.considered job.workspaceId job.flowId contactId = true)) :
    WalkSound id contactId threads where
  loaded job walk mine := (holds job mine).1 walk
  behind job mine := (holds job mine).2

theorem walkSound_step (sound : WalkSound id contactId threads) (met : walksFaithfully id contactId threads turn = true)
    (taken : membershipStep threads turn = some next) : WalkSound id contactId next := by
  have kept : ∀ job, threads.own id = .enrolling job → Keyset.isAfter job.cursor contactId = false →
      next.shared.store.tables.considered job.workspaceId job.flowId contactId = true := by
    intro job mine behind
    exact considered_kept taken met mine (sound.behind job mine behind)
  cases turn with
  | outside event =>
    obtain ⟨shared, happened, rfl⟩ := interleave_outside.mp taken
    exact ⟨sound.loaded, kept⟩
  | thread thread choice =>
    obtain ⟨shared, own, acted, rfl⟩ := interleave_thread.mp taken
    by_cases mine : id = thread
    · subst mine
      apply walkSound_of_own
      intro after enrolling
      simp only [Function.update_self] at enrolling
      subst enrolling
      rcases workerTurn_enrolling acted with ⟨fresh, start⟩ | ⟨job, moved, running, rfl, turned⟩
      · refine ⟨fun walk attempted => ?_, fun behind => ?_⟩
        · rw [fresh] at attempted
          cases attempted
        · rw [start] at behind
          cases behind
      · have keyed : ∀ walk, job.attempt = some walk →
            walk.flow.workspaceId = job.workspaceId ∧ walk.flow.id = job.flowId :=
          fun walk => sound.loaded job walk running
        simp only [walksFaithfully, running, bne_self_eq_false, Bool.false_or] at met
        rcases enrollTurn_continues turned with ⟨rfl, rfl, walk, loaded, rfl⟩ |
          ⟨input, walk, page, rfl, attempted, rfl, fresh, rfl, rfl⟩ | ⟨rfl, rfl, rfl⟩
        · refine ⟨fun other same => ?_, fun behind => ?_⟩
          · cases same
            exact loadFlow_keyed loaded
          · simp only [passesNobody, loaded, Option.all_some, Bool.or_eq_true, Bool.not_eq_true'] at met
            rcases met with (ahead | reached) | already
            · rw [behind] at ahead
              cases ahead
            · exact sound.behind job running reached
            · exact already
        · refine ⟨keyed, fun behind => ?_⟩
          obtain ⟨within, owned⟩ := keyed walk attempted
          simp only [passesNobody, attempted, Option.all_some, Bool.and_eq_true, decide_eq_true_eq, Bool.or_eq_true,
            Bool.not_eq_true'] at met
          obtain ⟨matches_, found⟩ := met
          have distinct := threads.shared.members.distinct walk.flow.workspaceId walk.definition
          cases ahead : Keyset.isAfter job.cursor contactId with
          | false => exact enrollBatch_grows.considered (sound.behind job running ahead)
          | true =>
            -- ahead of the old cursor and behind the new one: the contact is on the page
            rcases @Keyset.mem_page_or_isAfter _ _ _ _ _ enrollBatchSize distinct matches_ ahead with member | beyond
            · rw [← within, ← owned]
              apply enrollBatch_considers fresh ((Keyset.ascending_page distinct).imp ne_of_lt) member
              intro seen
              rw [within, owned] at seen ⊢
              rcases found with (absent | unseen) | entered
              · rw [List.contains_eq_mem, decide_eq_false_iff_not] at absent
                exact absurd member absent
              · rw [seen] at unseen
                cases unseen
              · exact entered
            · cases behind.symm.trans beyond
        · refine ⟨fun walk same => ?_, sound.behind job running⟩
          cases same
    · constructor
      · intro job walk enrolling attempted
        simp only [Function.update_of_ne mine] at enrolling
        exact sound.loaded job walk enrolling attempted
      · intro job enrolling behind
        simp only [Function.update_of_ne mine] at enrolling
        exact kept job enrolling behind

theorem returns_considered (sound : WalkSound id contactId threads)
    (stays : staysMember id contactId threads turn = true) (met : walksFaithfully id contactId threads turn = true)
    (taken : membershipStep threads turn = some next) {job : EnrollJob} (returns : returnsFrom id job threads next) :
    next.shared.store.tables.considered job.workspaceId job.flowId contactId = true := by
  obtain ⟨running, existing, ended⟩ := returns
  apply considered_kept taken met running
  cases turn with
  | outside event =>
    obtain ⟨shared, _, rfl⟩ := interleave_outside.mp taken
    cases running.symm.trans ended
  | thread thread choice =>
    obtain ⟨shared, own, acted, rfl⟩ := interleave_thread.mp taken
    by_cases mine : id = thread
    · subst mine
      simp only [Function.update_self] at ended
      subst ended
      rw [running] at acted
      unfold workerTurn at acted
      split at acted
      case h_4 current moved same =>
        cases same
        rcases enrollTurn_returns existing acted with ⟨_, missing⟩ | ⟨input, walk, rfl, attempted, empty⟩
        · simp [staysMember, running, MembershipStore.isMember, missing] at stays
        · simp only [walksFaithfully, running, bne_self_eq_false, Bool.false_or, passesNobody, attempted, Option.all_some,
            Bool.and_eq_true, decide_eq_true_eq] at met
          exact sound.behind job running (Keyset.not_isAfter_of_empty (by decide) empty met.1)
      case h_7 => cases acted
      all_goals
        next same => cases same
    · simp only [Function.update_of_ne mine] at ended
      cases running.symm.trans ended

end Run

/-- A contact that stays a member is considered whenever a job that passes over nobody returns. -/
theorem enroll_existing_considers {start : MembershipThreads} {turns : List (Turn WorkerTurn MembershipEvent)} {id : Nat}
    {contactId : ContactId} (idle : start.own id = .idle)
    (throughout : Along membershipStep (fun threads turn _ => staysMember id contactId threads turn = true) start turns)
    (faithful : Along membershipStep (fun threads turn _ => walksFaithfully id contactId threads turn = true) start turns) :
    Along membershipStep (fun threads _ next => ∀ job, returnsFrom id job threads next →
      next.shared.store.tables.considered job.workspaceId job.flowId contactId = true) start turns := by
  have started : WalkSound id contactId start := by
    apply walkSound_of_own
    intro job running
    cases idle.symm.trans running
  apply along_of_conforming _ _ started (along_and throughout faithful)
  · intro threads turn next sound both taken
    exact walkSound_step sound both.2 taken
  · intro threads turn next sound both taken job returns
    exact returns_considered sound both.1 both.2 taken returns

section Traces

def segmentTrigger (segmentId : SegmentId) : FlowDefinition where
  nodes := [⟨1, .trigger .segment none (some segmentId)⟩, ⟨2, .exit⟩]
  edges := [{ source := 1, target := 2 }]

def tagged (tag : String) : SegmentDefinition where
  groups := [{ conditions := [.ofAttribute { source := .standard, field := "tags", operator := .hasTag
                                             value := some (.string tag) }]
               nonempty := List.cons_ne_nil _ _ }]
  nonempty := List.cons_ne_nil _ _

def twoSegments : MembershipThreads where
  shared :=
    { store := { tables := {}, lockedBy := fun _ => none }
      segments := fun _ segmentId =>
        some (if segmentId = 1 then tagged "vip" else { tagged "vip" with groupCombinator := some .or })
      members :=
        { matching := fun _ definition => if definition.groupCombinator.isNone then [9] else [3, 9]
          distinct := by
            intro workspaceId definition
            split <;> decide } }
  own _ := .idle

def publishWith (segmentId : SegmentId) (versionId : FlowVersionId) : List (Turn WorkerTurn MembershipEvent) :=
  [.start 1 (.update 7 { definition := some (segmentTrigger segmentId) }), .read, .commit { now := 1, versionId },
    .start 1 (.publish 7 true), .read, .commit { now := 2 }].map fun turn => .thread 0 (.session turn)

def createFlowTurns : List (Turn WorkerTurn MembershipEvent) :=
  [.start 1 (.create "welcome" "owner"), .commit { now := 0, flowId := 7, versionId := 10 }].map fun turn =>
    .thread 0 (.session turn)

def entries : EntryInput where
  now := 3
  clock _ := 3
  flowRunId contactId := 100 + contactId

def enrollPage : EnrollTurn := .batch entries

def jobTurns (id : Nat) (turns : List EnrollTurn) : List (Turn WorkerTurn MembershipEvent) :=
  .thread id (.enrollJob 1 7 true) :: turns.map fun turn => .thread id (.enroll turn)

def crashedJob : List (Turn WorkerTurn MembershipEvent) :=
  createFlowTurns ++ publishWith 2 10 ++ jobTurns 1 [.loadFlow, enrollPage, .crash, .loadFlow, enrollPage]

theorem crashed_job_considers :
    ((run membershipStep twoSegments crashedJob).any fun final => final.shared.store.tables.considered 1 7 3) = true ∧
    Along membershipStep (fun threads _ next => ∀ job, returnsFrom 1 job threads next →
      next.shared.store.tables.considered job.workspaceId job.flowId 3 = true) twoSegments crashedJob :=
  ⟨by decide +kernel,
    enroll_existing_considers rfl (along_of_check (by decide +kernel)) (along_of_check (by decide +kernel))⟩

def republished : List (Turn WorkerTurn MembershipEvent) :=
  createFlowTurns ++ publishWith 1 10 ++ jobTurns 1 [.loadFlow, enrollPage, enrollPage] ++ publishWith 2 11 ++
    jobTurns 2 [.loadFlow]

def putDown : (before after : Worker) → Option EnrollJob
  | .enrolling job, .session .idle => some job
  | _, _ => none

theorem putDown_eq_some {before after : Worker} {job : EnrollJob} (down : putDown before after = some job) :
    before = .enrolling job ∧ after = .idle := by
  unfold putDown at down
  split at down
  · cases down
    exact ⟨rfl, rfl⟩
  · cases down

/-- The second job starts behind the last contact of the first, and never looks at the contact before it. -/
theorem stale_cursor_skips : twoSegments.own 2 = .idle ∧
    Along membershipStep (fun threads turn _ => staysMember 2 3 threads turn = true) twoSegments
      (republished ++ [.thread 2 (.enroll enrollPage)]) ∧
    ∃ threads next job, run membershipStep twoSegments republished = some threads ∧
      membershipStep threads (.thread 2 (.enroll enrollPage)) = some next ∧ returnsFrom 2 job threads next ∧
      next.shared.store.tables.considered job.workspaceId job.flowId 3 = false := by
  refine ⟨rfl, along_of_check (by decide +kernel), ?_⟩
  have runs : (run membershipStep twoSegments republished).any (fun threads =>
      (membershipStep threads (.thread 2 (.enroll enrollPage))).any fun next =>
        (putDown (threads.own 2) (next.own 2)).any fun job =>
          job.enrollExisting && !next.shared.store.tables.considered job.workspaceId job.flowId 3) = true := by
    decide +kernel
  obtain ⟨threads, ran, onward⟩ := Option.any_eq_true _ _ |>.mp runs
  obtain ⟨next, taken, ended⟩ := Option.any_eq_true _ _ |>.mp onward
  obtain ⟨job, down, skipped⟩ := Option.any_eq_true _ _ |>.mp ended
  obtain ⟨running, idle⟩ := putDown_eq_some down
  rw [Bool.and_eq_true, Bool.not_eq_true'] at skipped
  exact ⟨threads, next, job, ran, taken, ⟨running, skipped.1, idle⟩, skipped.2⟩

end Traces

end LocalCrm.Flows
