import LocalCrm.Flows.Versions

/-! The flow repository and the engine over one store. -/

set_option autoImplicit false

namespace LocalCrm.Flows

open Library

structure Store where
  tables : FlowTables
  lockedBy : FlowId → Option Nat

inductive FlowCommand where
  | create (name createdByUserId : String)
  | update (flowId : FlowId) (patch : UpdateFlowDraftInput)
  | publish (flowId : FlowId) (enrollExisting : Bool)
  | pause (flowId : FlowId)
  | resume (flowId : FlowId)
  | duplicate (flowId : FlowId) (createdByUserId : String)
  | enter (flowId : FlowId) (contactId : ContactId)
  deriving DecidableEq

inductive Session where
  | idle
  | creating (workspaceId : WorkspaceId) (name createdByUserId : String)
  | updating (existing : FlowRow) (patch : UpdateFlowDraftInput)
  | writingDraft (existing : FlowRow) (patch : UpdateFlowDraftInput) (read : DraftRead)
  | publishing (existing : FlowRow) (enrollExisting : Bool)
  | writingPublish (existing : FlowRow) (enrollExisting : Bool) (read : PublishRead)
  | pausing (existing : FlowRow)
  | resuming (existing : FlowRow)
  | copying (existing : FlowRow) (createdByUserId : String)
  | writingCopy (existing : FlowRow) (createdByUserId : String) (definition : FlowDefinition)
  | entering (flow : FlowRow) (liveVersionId : FlowVersionId) (contactId : ContactId)
  deriving DecidableEq

def Session.holds : Session → Option FlowRow
  | .updating existing _ | .writingDraft existing _ _ | .publishing existing _ | .writingPublish existing _ _ |
    .pausing existing | .resuming existing => some existing
  | .idle | .creating _ _ _ | .copying _ _ | .writingCopy _ _ _ | .entering _ _ _ => none

def Session.writes : Session → Bool
  | .writingDraft _ _ _ | .writingPublish _ _ _ => true
  | .idle | .creating _ _ _ | .updating _ _ | .publishing _ _ | .pausing _ | .resuming _ | .copying _ _ |
    .writingCopy _ _ _ | .entering _ _ _ => false

structure Commit where
  now : Timestamp
  members : SegmentId → Option (List ContactId) := fun _ => none
  flowId : FlowId := 0
  versionId : FlowVersionId := 0
  flowRunId : FlowRunId := 0

inductive SessionTurn where
  | start (workspaceId : WorkspaceId) (command : FlowCommand)
  | read
  | commit (commit : Commit)
  | rollback

inductive EngineEvent where
  | advance (workspaceId : WorkspaceId) (flowRunId : FlowRunId) (seen : Observed)

section Turns

variable (id : Nat) (store : Store)

/-- `SELECT … FOR UPDATE`: waits for the row, then reads it; a row that is not there ends the call. -/
def lockFlow (workspaceId : WorkspaceId) (flowId : FlowId) (next : FlowRow → Session) : Option (Store × Session) :=
  match store.lockedBy flowId with
  | some _ => none
  | none =>
    match store.tables.flow? workspaceId flowId with
    | none => some (store, .idle)
    | some existing => some ({ store with lockedBy := Function.update store.lockedBy flowId (some id) }, next existing)

def readFlow (workspaceId : WorkspaceId) (flowId : FlowId) (next : FlowRow → Session) : Store × Session :=
  match store.tables.flow? workspaceId flowId with
  | none => (store, .idle)
  | some existing => (store, next existing)

def readLiveFlow (workspaceId : WorkspaceId) (flowId : FlowId) (contactId : ContactId) : Store × Session :=
  match (store.tables.flow? workspaceId flowId).filter (·.status == .live) with
  | none => (store, .idle)
  | some flow =>
    match flow.liveVersionId with
    | none => (store, .idle)
    | some liveVersionId => (store, .entering flow liveVersionId contactId)

def startCall (workspaceId : WorkspaceId) : FlowCommand → Option (Store × Session)
  | .create name createdByUserId => some (store, .creating workspaceId name createdByUserId)
  | .update flowId patch => lockFlow id store workspaceId flowId fun existing => .updating existing patch
  | .publish flowId enrollExisting =>
    lockFlow id store workspaceId flowId fun existing => .publishing existing enrollExisting
  | .pause flowId => lockFlow id store workspaceId flowId .pausing
  | .resume flowId => lockFlow id store workspaceId flowId .resuming
  | .duplicate flowId createdByUserId =>
    some (readFlow store workspaceId flowId fun existing => .copying existing createdByUserId)
  | .enter flowId contactId => some (readLiveFlow store workspaceId flowId contactId)

def release (tables : FlowTables) (session : Session) : Store × Session :=
  match session.holds with
  | none => ({ store with tables }, .idle)
  | some existing => ({ tables, lockedBy := Function.update store.lockedBy existing.id none }, .idle)

/-- What the session reads of the versions; a definition that fails validation rolls back. -/
def readVersions : Session → Option (Store × Session)
  | .updating existing patch => some (store, .writingDraft existing patch (readDraft store.tables existing))
  | .publishing existing enrollExisting =>
    match readPublish store.tables existing with
    | .ok read => some (store, .writingPublish existing enrollExisting read)
    | .error _ => some (release store store.tables (.publishing existing enrollExisting))
  | .copying existing createdByUserId =>
    some (store, .writingCopy existing createdByUserId (readSource store.tables existing))
  | .idle | .creating _ _ _ | .writingDraft _ _ _ | .writingPublish _ _ _ | .pausing _ | .resuming _ |
    .writingCopy _ _ _ | .entering _ _ _ => none

def committed (commit : Commit) : Session → Option FlowTables
  | .creating workspaceId name createdByUserId =>
    createFlow store.tables workspaceId name createdByUserId commit.flowId commit.versionId
  | .writingDraft existing patch read => updateFlowDraft store.tables existing patch read commit.versionId
  | .writingPublish existing enrollExisting read =>
    some (publishFlow commit.now commit.members store.tables existing read enrollExisting)
  | .pausing existing => (pauseFlow existing).toOption.map (writeFlow store.tables)
  | .resuming existing => (resumeFlow existing).toOption.map (writeFlow store.tables)
  | .writingCopy existing createdByUserId definition =>
    duplicateFlow store.tables existing definition createdByUserId commit.flowId commit.versionId
  | .entering flow liveVersionId contactId =>
    some (store.tables.insertRun
      (store.tables.newRun commit.now commit.flowRunId flow.workspaceId flow.id liveVersionId contactId))
  | .idle | .updating _ _ | .publishing _ _ | .copying _ _ => none

def sessionTurn (session : Session) : SessionTurn → Option (Store × Session)
  | .start workspaceId command => if session = .idle then startCall id store workspaceId command else none
  | .read => readVersions store session
  | .commit commit => some (release store ((committed store commit session).getD store.tables) session)
  | .rollback => some (release store store.tables session)

end Turns

/-- An advance that throws rolls back. -/
def engineEvent (store : Store) : EngineEvent → Option Store
  | .advance workspaceId flowRunId seen =>
    match advanceStored seen store.tables workspaceId flowRunId with
    | .ok tables => some { store with tables }
    | .error _ => some store

abbrev FlowThreads := Threads Store Session

def flowStep : FlowThreads → Turn SessionTurn EngineEvent → Option FlowThreads := interleave sessionTurn engineEvent

def emptyStore : FlowThreads where
  shared := { tables := {}, lockedBy := fun _ => none }
  own _ := .idle

section Soundness

variable {id : Nat} {store next : Store} {session after : Session}

/-- What a call knows: it holds the row as it read it, its draft is the flow's, and the version it enrols into
is published. -/
structure Knows (id : Nat) (store : Store) (session : Session) : Prop where
  held : ∀ existing, session.holds = some existing →
    store.lockedBy existing.id = some id ∧ Holds store.tables existing
  draft : ∀ existing patch versionId, session = .writingDraft existing patch (.existing versionId) →
    existing.draftVersionId = some versionId
  publish : ∀ existing enrollExisting read, session = .writingPublish existing enrollExisting read →
    existing.draftVersionId = some read.draftVersionId
  entering : ∀ flow liveVersionId contactId, session = .entering flow liveVersionId contactId →
    ∃ version, store.tables.flowVersions.find? liveVersionId = some version ∧ version.publishedAt.isSome

structure Tolerates (id : Nat) (store next : Store) : Prop where
  held : ∀ flowId, store.lockedBy flowId = some id →
    next.lockedBy flowId = some id ∧ next.tables.flows.find? flowId = store.tables.flows.find? flowId
  published : KeepsPublished store.tables next.tables

theorem knows_idle : Knows id store .idle where
  held _ holding := by cases holding
  draft _ _ _ same := by cases same
  publish _ _ _ same := by cases same
  entering _ _ _ same := by cases same

theorem knows_stable (knows : Knows id store session) (tolerates : Tolerates id store next) : Knows id next session where
  held existing holding := by
    obtain ⟨locked, stored⟩ := knows.held existing holding
    obtain ⟨still, same⟩ := tolerates.held existing.id locked
    exact ⟨still, same.trans stored⟩
  draft := knows.draft
  publish := knows.publish
  entering flow liveVersionId contactId same := by
    obtain ⟨version, stored, published⟩ := knows.entering flow liveVersionId contactId same
    exact ⟨version, tolerates.published liveVersionId version stored published, published⟩

structure StoreOk (store : Store) : Prop where
  versioned : Versioned store.tables
  locked : ∀ flowId thread, store.lockedBy flowId = some thread → (store.tables.flows.find? flowId).isSome

structure Commits (session : Session) (before after : FlowTables) : Prop where
  versioned : Versioned after
  published : KeepsPublished before after
  pins : KeepsPins before after
  flows : ∀ flowId, (before.flows.find? flowId).isSome →
    (∀ existing, session.holds = some existing → flowId ≠ existing.id) →
    after.flows.find? flowId = before.flows.find? flowId

theorem pins_of_same {before after : FlowTables} (same : after.flowRuns = before.flowRuns) : KeepsPins before after := by
  intro runId run found
  exact ⟨run, by rw [same]; exact found, rfl⟩

theorem commits_status {existing written : FlowRow} {status : FlowStatus} (holding : session.holds = some existing)
    (ok : StoreOk store) (knows : Knows id store session) (changed : written = { existing with status }) :
    Commits session store.tables (writeFlow store.tables written) := by
  subst changed
  obtain ⟨versioned, published, runs⟩ := @writeStatus_versioned _ _ status ok.versioned (knows.held existing holding).2
  exact ⟨versioned, published, pins_of_same runs, fun _ _ away => writeFlow_frame (away existing holding)⟩

theorem commits_of_committed {commit : Commit} {tables : FlowTables} (ok : StoreOk store)
    (knows : Knows id store session) (done : committed store commit session = some tables) :
    Commits session store.tables tables := by
  unfold committed at done
  split at done
  · obtain ⟨versioned, published, runs⟩ := insertWithDraft_versioned ok.versioned rfl done
    exact ⟨versioned, published, pins_of_same runs, fun _ stored _ => insertWithDraft_frame stored done⟩
  · next existing patch read =>
    obtain ⟨versioned, published, runs⟩ := updateFlowDraft_versioned ok.versioned (knows.held existing rfl).2
      (fun versionId same => knows.draft existing patch versionId (by rw [same])) done
    exact ⟨versioned, published, pins_of_same runs, fun _ _ away => updateFlowDraft_frame (away existing rfl) done⟩
  · next existing enrollExisting read =>
    cases done
    obtain ⟨versioned, published, runs⟩ := @publishFlow_versioned _ _ commit.now commit.members _ enrollExisting
      ok.versioned (knows.held existing rfl).2 (knows.publish existing enrollExisting read rfl)
    exact ⟨versioned, published, pins_of_same runs, fun _ _ away => publishFlow_frame (away existing rfl)⟩
  · next existing =>
    obtain ⟨written, allowed, rfl⟩ := Option.map_eq_some_iff.mp done
    unfold pauseFlow at allowed
    split at allowed
    · cases allowed
      exact commits_status rfl ok knows rfl
    · cases allowed
  · next existing =>
    obtain ⟨written, allowed, rfl⟩ := Option.map_eq_some_iff.mp done
    unfold resumeFlow at allowed
    split at allowed
    · cases allowed
      exact commits_status rfl ok knows rfl
    · cases allowed
  · next existing createdByUserId definition =>
    obtain ⟨versioned, published, runs⟩ := insertWithDraft_versioned ok.versioned rfl done
    exact ⟨versioned, published, pins_of_same runs, fun _ stored _ => insertWithDraft_frame stored done⟩
  · next flow liveVersionId contactId =>
    cases done
    obtain ⟨version, stored, published⟩ := knows.entering flow liveVersionId contactId rfl
    refine ⟨insertRun_versioned ok.versioned stored published, ?_, insertRun_pins, ?_⟩
    · intro versionId row found _
      unfold FlowTables.insertRun
      split <;> exact found
    · intro flowId _ _
      unfold FlowTables.insertRun
      split <;> rfl
  all_goals cases done

theorem commits_self (ok : StoreOk store) : Commits session store.tables store.tables where
  versioned := ok.versioned
  published _ _ found _ := found
  pins _ run found := ⟨run, found, rfl⟩
  flows _ _ _ := rfl

structure Leaves (id : Nat) (store next : Store) (after : Session) : Prop where
  ok : StoreOk next
  knows : Knows id next after
  harmless : ∀ other, other ≠ id → Tolerates other store next
  published : KeepsPublished store.tables next.tables
  pins : KeepsPins store.tables next.tables

theorem release_leaves {tables : FlowTables} (ok : StoreOk store) (knows : Knows id store session)
    (commits : Commits session store.tables tables) (released : release store tables session = (next, after)) :
    Leaves id store next after := by
  unfold release at released
  cases holding : session.holds with
  | none =>
    rw [holding] at released
    cases released
    have same : ∀ flowId thread, store.lockedBy flowId = some thread →
        tables.flows.find? flowId = store.tables.flows.find? flowId := by
      intro flowId thread locked
      apply commits.flows flowId (ok.locked flowId thread locked)
      intro existing held
      rw [holding] at held
      cases held
    constructor
    · constructor
      · exact commits.versioned
      · intro flowId thread locked
        rw [same flowId thread locked]
        exact ok.locked flowId thread locked
    · exact knows_idle
    · intro other _
      exact ⟨fun flowId locked => ⟨locked, same flowId other locked⟩, commits.published⟩
    · exact commits.published
    · exact commits.pins
  | some existing =>
    rw [holding] at released
    cases released
    obtain ⟨mine, _⟩ := knows.held existing holding
    have same : ∀ flowId thread, flowId ≠ existing.id → store.lockedBy flowId = some thread →
        tables.flows.find? flowId = store.tables.flows.find? flowId := by
      intro flowId thread away locked
      apply commits.flows flowId (ok.locked flowId thread locked)
      intro held holds
      rw [holding] at holds
      cases holds
      exact away
    constructor
    · constructor
      · exact commits.versioned
      · intro flowId thread locked
        by_cases away : flowId = existing.id
        · subst away
          simp only [Function.update_self] at locked
          cases locked
        · simp only [Function.update_of_ne away] at locked
          show (tables.flows.find? flowId).isSome
          rw [same flowId thread away locked]
          exact ok.locked flowId thread locked
    · exact knows_idle
    · intro other differs
      constructor
      · intro flowId locked
        have away : flowId ≠ existing.id := by
          rintro rfl
          rw [mine] at locked
          exact differs (Option.some.inj locked).symm
        exact ⟨by simpa only [Function.update_of_ne away] using locked, same flowId other away locked⟩
      · exact commits.published
    · exact commits.published
    · exact commits.pins

theorem leaves_of_reading (ok : StoreOk store) (knows : Knows id store after) : Leaves id store store after where
  ok := ok
  knows := knows
  harmless _ _ := ⟨fun _ locked => ⟨locked, rfl⟩, fun _ _ found _ => found⟩
  published _ _ found _ := found
  pins _ run found := ⟨run, found, rfl⟩

theorem flow?_some {tables : FlowTables} {workspaceId : WorkspaceId} {flowId : FlowId} {flow : FlowRow}
    (found : tables.flow? workspaceId flowId = some flow) :
    tables.flows.find? flowId = some flow ∧ flow.id = flowId ∧ flow.workspaceId = workspaceId := by
  obtain ⟨stored, owned⟩ := Option.filter_eq_some_iff.mp found
  exact ⟨stored, Table.key_of_find? stored, by simpa using owned⟩

theorem lockFlow_leaves {workspaceId : WorkspaceId} {flowId : FlowId} {proceed : FlowRow → Session}
    (ok : StoreOk store) (holding : ∀ existing, (proceed existing).holds = some existing)
    (fresh : ∀ existing, (proceed existing).writes = false)
    (locked : lockFlow id store workspaceId flowId proceed = some (next, after)) : Leaves id store next after := by
  unfold lockFlow at locked
  split at locked
  · cases locked
  · next free =>
    split at locked
    · cases locked
      exact leaves_of_reading ok knows_idle
    · next existing found =>
      cases locked
      obtain ⟨stored, keyed, _⟩ := flow?_some found
      constructor
      · constructor
        · exact ok.versioned
        · intro other thread held
          by_cases same : other = flowId
          · subst same
            exact Option.isSome_iff_exists.mpr ⟨existing, stored⟩
          · simp only [Function.update_of_ne same] at held
            exact ok.locked other thread held
      · constructor
        · intro held holds
          rw [holding existing] at holds
          cases holds
          exact ⟨by simp only [keyed, Function.update_self], by rw [Holds, keyed]; exact stored⟩
        · intro held patch versionId same
          have reading := fresh existing
          rw [same] at reading
          cases reading
        · intro held enrollExisting read same
          have reading := fresh existing
          rw [same] at reading
          cases reading
        · intro flow liveVersionId contactId same
          have none := holding existing
          rw [same] at none
          cases none
      · intro other _
        constructor
        · intro otherFlow held
          have away : otherFlow ≠ flowId := by
            rintro rfl
            rw [free] at held
            cases held
          exact ⟨by simpa only [Function.update_of_ne away] using held, rfl⟩
        · exact fun _ _ found _ => found
      · exact fun _ _ found _ => found
      · exact fun _ run found => ⟨run, found, rfl⟩

theorem knows_free (free : session.holds = none) (outside : ∀ flow liveVersionId contactId,
    session ≠ .entering flow liveVersionId contactId) : Knows id store session where
  held existing holding := by
    rw [free] at holding
    cases holding
  draft existing patch versionId same := by
    rw [same] at free
    cases free
  publish existing enrollExisting read same := by
    rw [same] at free
    cases free
  entering flow liveVersionId contactId same := absurd same (outside flow liveVersionId contactId)

theorem startCall_leaves {workspaceId : WorkspaceId} {command : FlowCommand} (ok : StoreOk store)
    (started : startCall id store workspaceId command = some (next, after)) : Leaves id store next after := by
  cases command with
  | create name createdByUserId =>
    cases started
    exact leaves_of_reading ok (knows_free rfl (fun _ _ _ same => by cases same))
  | update | publish | pause | resume =>
    exact lockFlow_leaves ok (fun _ => rfl) (fun _ => rfl) started
  | duplicate flowId createdByUserId =>
    simp only [startCall, readFlow, Option.some.injEq] at started
    split at started
    · cases started
      exact leaves_of_reading ok knows_idle
    · cases started
      exact leaves_of_reading ok (knows_free rfl (fun _ _ _ same => by cases same))
  | enter flowId contactId =>
    simp only [startCall, readLiveFlow, Option.some.injEq] at started
    split at started
    · cases started
      exact leaves_of_reading ok knows_idle
    · next flow found =>
      split at started
      · cases started
        exact leaves_of_reading ok knows_idle
      · next liveVersionId live =>
        cases started
        obtain ⟨stored, _⟩ := flow?_some (Option.filter_eq_some_iff.mp found).1
        obtain ⟨version, pinned, _, published⟩ := ok.versioned.live flowId flow liveVersionId stored live
        apply leaves_of_reading ok
        constructor
        · intro existing holding
          cases holding
        · intro existing patch versionId same
          cases same
        · intro existing enrollExisting read same
          cases same
        · intro other otherVersion otherContact same
          cases same
          exact ⟨version, pinned, published⟩

theorem readVersions_leaves (ok : StoreOk store) (knows : Knows id store session)
    (read : readVersions store session = some (next, after)) : Leaves id store next after := by
  unfold readVersions at read
  split at read
  · next existing patch =>
    cases read
    apply leaves_of_reading ok
    constructor
    · intro held holding
      cases holding
      exact knows.held existing rfl
    · intro held other versionId same
      obtain ⟨rfl, rfl, drafted⟩ := Session.writingDraft.inj same
      unfold readDraft at drafted
      split at drafted
      · next pointed =>
        cases drafted
        exact pointed
      · cases drafted
    · intro held enrollExisting published same
      cases same
    · intro flow liveVersionId contactId same
      cases same
  · next existing enrollExisting =>
    split at read
    · next published checked =>
      cases read
      apply leaves_of_reading ok
      constructor
      · intro held holding
        cases holding
        exact knows.held existing rfl
      · intro held patch versionId same
        cases same
      · intro held enrolling other same
        cases same
        unfold readPublish at checked
        split at checked
        · cases checked
        · next pointed =>
          dsimp only at checked
          split at checked
          · cases checked
            exact pointed
          · cases checked
      · intro flow liveVersionId contactId same
        cases same
    · exact release_leaves ok knows (commits_self ok) (Option.some.inj read)
  · cases read
    exact leaves_of_reading ok (knows_free rfl (fun _ _ _ same => by cases same))
  all_goals cases read

theorem release_tables {tables : FlowTables} (released : release store tables session = (next, after)) :
    next.tables = tables := by
  unfold release at released
  split at released <;> cases released <;> rfl

theorem sessionTurn_tables {turn : SessionTurn}
    (turned : sessionTurn id store session turn = some (next, after)) :
    next.tables = store.tables ∨
      ∃ commit, turn = .commit commit ∧ committed store commit session = some next.tables := by
  cases turn with
  | start workspaceId command =>
    left
    simp only [sessionTurn] at turned
    split at turned
    · cases command <;> simp only [startCall, lockFlow, readFlow, readLiveFlow] at turned <;>
        repeat' split at turned
      all_goals cases turned
      all_goals rfl
    · cases turned
  | read =>
    left
    simp only [sessionTurn, readVersions] at turned
    split at turned
    · cases turned
      rfl
    · split at turned
      · cases turned
        rfl
      · exact release_tables (Option.some.inj turned)
    · cases turned
      rfl
    all_goals cases turned
  | commit commit =>
    have kept := release_tables (Option.some.inj turned)
    cases done : committed store commit session with
    | none =>
      rw [done] at kept
      exact .inl kept
    | some tables =>
      exact .inr ⟨commit, rfl, by rw [kept, done]; rfl⟩
  | rollback => exact .inl (release_tables (Option.some.inj turned))

theorem sessionTurn_leaves {choice : SessionTurn} (ok : StoreOk store) (knows : Knows id store session)
    (turned : sessionTurn id store session choice = some (next, after)) : Leaves id store next after := by
  cases choice with
  | start workspaceId command =>
    simp only [sessionTurn] at turned
    split at turned
    · exact startCall_leaves ok turned
    · cases turned
  | read => exact readVersions_leaves ok knows turned
  | commit commit =>
    apply release_leaves ok knows _ (Option.some.inj turned)
    cases done : committed store commit session with
    | none => exact commits_self ok
    | some tables => exact commits_of_committed ok knows done
  | rollback => exact release_leaves ok knows (commits_self ok) (Option.some.inj turned)

theorem engineEvent_kept {event : EngineEvent} (ok : StoreOk store) (happened : engineEvent store event = some next) :
    StoreOk next ∧ (∀ thread, Tolerates thread store next) ∧ KeepsPublished store.tables next.tables ∧
      KeepsPins store.tables next.tables := by
  cases event with
  | advance workspaceId flowRunId seen =>
    simp only [engineEvent] at happened
    cases advanced : advanceStored seen store.tables workspaceId flowRunId with
    | error message =>
      rw [advanced] at happened
      cases happened
      exact ⟨ok, fun _ => ⟨fun _ locked => ⟨locked, rfl⟩, fun _ _ found _ => found⟩, fun _ _ found _ => found,
        fun _ run found => ⟨run, found, rfl⟩⟩
    | ok tables =>
      rw [advanced] at happened
      cases happened
      obtain ⟨versioned, flows, versions, pins⟩ := advanceStored_versioned ok.versioned advanced
      have published : KeepsPublished store.tables tables := by
        intro versionId version found _
        rw [versions]
        exact found
      refine ⟨⟨versioned, ?_⟩, fun thread => ⟨fun flowId locked => ⟨locked, by rw [flows]⟩, published⟩, published, pins⟩
      intro flowId thread locked
      rw [flows]
      exact ok.locked flowId thread locked

abbrev SoundThreads (threads : FlowThreads) : Prop := Threads.Sound StoreOk Knows threads

theorem emptyStore_sound : SoundThreads emptyStore where
  shared := by
    constructor
    · constructor
      · intro flowId flow versionId found
        cases found
      · intro flowId flow versionId found
        cases found
      · intro runId run found
        cases found
      · intro step member
        cases member
    · intro flowId thread locked
      cases locked
  own _ := knows_idle

theorem flowStep_sound (threads : FlowThreads) (turn : Turn SessionTurn EngineEvent) (next : FlowThreads)
    (sound : SoundThreads threads) (taken : flowStep threads turn = some next) : SoundThreads next := by
  refine @sound_interleave _ _ _ _ _ _ _ _ Tolerates ?_ ?_ ?_ threads turn next sound taken
  · intro id store session choice next after ok knows turned
    have leaves := sessionTurn_leaves ok knows turned
    exact ⟨leaves.ok, leaves.knows, leaves.harmless⟩
  · intro store event next ok happened
    obtain ⟨okNext, harmless, _⟩ := engineEvent_kept ok happened
    exact ⟨okNext, harmless⟩
  · intro id store next session knows tolerates
    exact knows_stable knows tolerates

theorem flowStep_keeps {threads next : FlowThreads} {turn : Turn SessionTurn EngineEvent}
    (sound : SoundThreads threads) (taken : flowStep threads turn = some next) :
    KeepsPublished threads.shared.tables next.shared.tables ∧ KeepsPins threads.shared.tables next.shared.tables := by
  cases turn with
  | thread id choice =>
    obtain ⟨shared, own, acted, rfl⟩ := interleave_thread.mp taken
    have leaves := sessionTurn_leaves sound.shared (sound.own id) acted
    exact ⟨leaves.published, leaves.pins⟩
  | outside event =>
    obtain ⟨shared, happened, rfl⟩ := interleave_outside.mp taken
    exact (engineEvent_kept sound.shared happened).2.2

theorem keeps_of_run {middle final : FlowThreads} {turns : List (Turn SessionTurn EngineEvent)}
    (sound : SoundThreads middle) (ran : run flowStep middle turns = some final) :
    SoundThreads final ∧ KeepsPublished middle.shared.tables final.shared.tables ∧
      KeepsPins middle.shared.tables final.shared.tables := by
  have kept : ∀ before turn after, (SoundThreads before ∧ KeepsPublished middle.shared.tables before.shared.tables ∧
      KeepsPins middle.shared.tables before.shared.tables) → flowStep before turn = some after →
      SoundThreads after ∧ KeepsPublished middle.shared.tables after.shared.tables ∧
        KeepsPins middle.shared.tables after.shared.tables := by
    rintro before turn after ⟨soundBefore, published, pins⟩ taken
    obtain ⟨publishedStep, pinsStep⟩ := flowStep_keeps soundBefore taken
    refine ⟨flowStep_sound before turn after soundBefore taken, ?_, ?_⟩
    · intro versionId version found stamped
      exact publishedStep versionId version (published versionId version found stamped) stamped
    · intro runId run found
      obtain ⟨later, stored, same⟩ := pins runId run found
      obtain ⟨last, kept, again⟩ := pinsStep runId later stored
      exact ⟨last, kept, again.trans same⟩
  exact invariant_of_every_run kept
    ⟨sound, fun _ _ found _ => found, fun _ run found => ⟨run, found, rfl⟩⟩ ran

end Soundness

/-- Published versions never change, a draft is never the live version, and a run executes nodes of the
version it was enrolled in. -/
theorem published_versions_immutable {middle final : FlowThreads} {before after : List (Turn SessionTurn EngineEvent)}
    (reached : run flowStep emptyStore before = some middle) (ran : run flowStep middle after = some final) :
    (∀ versionId version, middle.shared.tables.flowVersions.find? versionId = some version →
      version.publishedAt.isSome → final.shared.tables.flowVersions.find? versionId = some version) ∧
    (∀ flowId flow, final.shared.tables.flows.find? flowId = some flow → flow.liveVersionId.isSome →
      flow.draftVersionId ≠ flow.liveVersionId) ∧
    ∀ runId run, middle.shared.tables.flowRuns.find? runId = some run →
      ∃ later version, final.shared.tables.flowRuns.find? runId = some later ∧
        later.flowVersionId = run.flowVersionId ∧
        middle.shared.tables.flowVersions.find? run.flowVersionId = some version ∧
        ∀ step ∈ final.shared.tables.flowRunSteps, step.flowRunId = runId →
          ∃ node ∈ version.definition.nodes, node.id = step.nodeId := by
  have soundMiddle : SoundThreads middle := (keeps_of_run emptyStore_sound reached).1
  obtain ⟨soundFinal, published, pins⟩ := keeps_of_run soundMiddle ran
  refine ⟨published, ?_, ?_⟩
  · intro flowId flow found live same
    obtain ⟨versionId, pointed⟩ := Option.isSome_iff_exists.mp live
    obtain ⟨version, stored, _, stamped⟩ := soundFinal.shared.versioned.live flowId flow versionId found pointed
    obtain ⟨draft, again, _, _, unstamped⟩ :=
      soundFinal.shared.versioned.draft flowId flow versionId found (same.trans pointed)
    cases stored.symm.trans again
    rw [unstamped] at stamped
    cases stamped
  · intro runId run found
    obtain ⟨later, kept, same⟩ := pins runId run found
    obtain ⟨version, stored, stamped⟩ := soundMiddle.shared.versioned.runs runId run found
    refine ⟨later, version, kept, same, stored, ?_⟩
    intro step member mine
    obtain ⟨owner, pinned, foundOwner, storedPin, executed⟩ := soundFinal.shared.versioned.steps step member
    rw [mine] at foundOwner
    cases kept.symm.trans foundOwner
    rw [same] at storedPin
    cases (published _ version stored stamped).symm.trans storedPin
    exact executed

def exitFlow : FlowDefinition where
  nodes := [⟨1, .trigger .event (some "signup") none⟩, ⟨2, .exit⟩]
  edges := [{ source := 1, target := 2 }]

def firstPublish : List (Turn SessionTurn EngineEvent) :=
  [.thread 0 (.start 1 (.create "welcome" "owner")), .thread 0 (.commit { now := 0, flowId := 7, versionId := 10 }),
    .thread 0 (.start 1 (.update 7 { definition := some exitFlow })), .thread 0 .read, .thread 0 (.commit { now := 1 }),
    .thread 0 (.start 1 (.publish 7 false)), .thread 0 .read, .thread 0 (.commit { now := 2 }),
    .thread 1 (.start 1 (.enter 7 3)), .thread 1 (.commit { now := 3, flowRunId := 20 })]

def secondPublish : List (Turn SessionTurn EngineEvent) :=
  [.thread 0 (.start 1 (.update 7 { definition := some { exitFlow with nodes := exitFlow.nodes.reverse } })),
    .thread 0 .read,
    .outside (.advance 1 20 { now := 4, flowStatus := .live, exitSatisfied := false, quietUntil := none
                              inSegment := fun _ => false, nextWaitUntil := fun _ _ => 0 }),
    .thread 0 (.commit { now := 5, versionId := 11 }),
    .thread 0 (.start 1 (.publish 7 false)), .thread 0 .read, .thread 0 (.commit { now := 6 })]

theorem republished_flow : ∃ middle final, run flowStep emptyStore firstPublish = some middle ∧
    run flowStep middle secondPublish = some final ∧
    (∀ versionId version, middle.shared.tables.flowVersions.find? versionId = some version →
      version.publishedAt.isSome → final.shared.tables.flowVersions.find? versionId = some version) ∧
    (∀ flowId flow, final.shared.tables.flows.find? flowId = some flow → flow.liveVersionId.isSome →
      flow.draftVersionId ≠ flow.liveVersionId) ∧
    ∀ runId run, middle.shared.tables.flowRuns.find? runId = some run →
      ∃ later version, final.shared.tables.flowRuns.find? runId = some later ∧
        later.flowVersionId = run.flowVersionId ∧
        middle.shared.tables.flowVersions.find? run.flowVersionId = some version ∧
        ∀ step ∈ final.shared.tables.flowRunSteps, step.flowRunId = runId →
          ∃ node ∈ version.definition.nodes, node.id = step.nodeId := by
  have runs : (run flowStep emptyStore (firstPublish ++ secondPublish)).any (fun final =>
      decide (final.shared.tables.flowRunSteps.length = 1) &&
        decide ((final.shared.tables.flows.find? 7).bind FlowRow.liveVersionId = some 11)) = true := by
    decide +kernel
  obtain ⟨final, ran, _⟩ := Option.any_eq_true _ _ |>.mp runs
  obtain ⟨middle, reached, onward⟩ := run_append.mp ran
  exact ⟨middle, final, reached, onward, published_versions_immutable reached onward⟩

end LocalCrm.Flows
