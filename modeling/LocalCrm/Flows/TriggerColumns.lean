import LocalCrm.Flows.Sessions

/-! The trigger columns of a flow against the trigger of its definition.

Before the first publish they follow the draft, afterwards the live version, which a publish alone changes.
-/

set_option autoImplicit false

namespace LocalCrm.Flows

open Library

def FlowRow.triggerColumns (flow : FlowRow) : TriggerColumns where
  triggerType := flow.triggerType
  triggerEventName := flow.triggerEventName
  triggerSegmentId := flow.triggerSegmentId

def FlowTables.Mirrors (tables : FlowTables) (flow : FlowRow) (versionId : Option FlowVersionId) : Prop :=
  ∃ definition, tables.definitionOf flow.workspaceId versionId = some definition ∧
    flow.triggerColumns = extractTriggerColumns definition

structure FlowTables.MirrorsTrigger (tables : FlowTables) (flow : FlowRow) : Prop where
  draft : flow.liveVersionId = none → tables.Mirrors flow flow.draftVersionId
  live : flow.status = .live ∨ flow.status = .paused → tables.Mirrors flow flow.liveVersionId

def TriggersMirrored (tables : FlowTables) : Prop :=
  ∀ flowId flow, tables.flows.find? flowId = some flow → tables.MirrorsTrigger flow

/-- A duplicate that goes through has read columns that are those of the definition it copies. -/
def copiesMirrored (threads : FlowThreads) : Turn SessionTurn EngineEvent → Bool
  | .thread id (.commit commit) =>
    match threads.own id with
    | .writingCopy existing createdByUserId definition =>
      (duplicateFlow threads.shared.tables existing definition createdByUserId commit.flowId commit.versionId).isNone ||
        existing.triggerColumns == extractTriggerColumns definition
    | .idle | .creating _ _ _ | .updating _ _ | .writingDraft _ _ _ | .publishing _ _ | .writingPublish _ _ _ |
      .pausing _ | .resuming _ | .copying _ _ | .entering _ _ _ => true
  | .thread _ (.start _ _) | .thread _ .read | .thread _ .rollback | .outside _ => true

structure FlowTables.Staged (tables : FlowTables) (flow : FlowRow) : Prop where
  unpublished : flow.liveVersionId = none → flow.status = .draft ∧ flow.draftVersionId.isSome
  published : flow.liveVersionId.isSome →
    flow.status ≠ .draft ∧ (tables.definitionOf flow.workspaceId flow.liveVersionId).isSome

def AllStaged (tables : FlowTables) : Prop :=
  ∀ flowId flow, tables.flows.find? flowId = some flow → tables.Staged flow

/-- A publish under way holds the row, so the draft is still the one it read. An update copies the live
definition where there was none. -/
structure KnowsDraft (store : Store) (session : Session) : Prop where
  publish : ∀ existing enrollExisting read, session = .writingPublish existing enrollExisting read →
    store.tables.definitionOf existing.workspaceId (some read.draftVersionId) = some read.definition
  copied : ∀ existing patch versionNumber definition,
    session = .writingDraft existing patch (.copied versionNumber definition) → existing.draftVersionId = none

structure FirstDraft (before : FlowTables) (flowId : FlowId) (versionId : FlowVersionId) (flow : FlowRow)
    (version : FlowVersionRow) : Prop where
  fresh : before.flows.find? flowId = none
  workspace : version.workspaceId = flow.workspaceId
  draft : flow.draftVersionId = some versionId
  live : flow.liveVersionId = none
  status : flow.status = .draft

inductive Writes (before : FlowTables) : Session → FlowTables → Prop where
  | created {workspaceId : WorkspaceId} {name createdByUserId : String} {flowId : FlowId} {versionId : FlowVersionId}
      {flow : FlowRow} {version : FlowVersionRow} {after : FlowTables} :
      Rewrites before after flowId versionId flow version → FirstDraft before flowId versionId flow version →
      flow.triggerColumns = extractTriggerColumns version.definition →
      Writes before (.creating workspaceId name createdByUserId) after
  | copied {existing : FlowRow} {createdByUserId : String} {definition : FlowDefinition} {flowId : FlowId}
      {versionId : FlowVersionId} {flow : FlowRow} {version : FlowVersionRow} {after : FlowTables} :
      Rewrites before after flowId versionId flow version → FirstDraft before flowId versionId flow version →
      flow.triggerColumns = existing.triggerColumns → version.definition = definition →
      Writes before (.writingCopy existing createdByUserId definition) after
  | redrafted {existing : FlowRow} {patch : UpdateFlowDraftInput} {read : DraftRead} {id : FlowVersionId}
      {version : FlowVersionRow} {after : FlowTables} :
      Redrafts before existing patch read id version → version.workspaceId = existing.workspaceId →
      Rewrites before after existing.id id
        { updatedFlow existing patch id with enrollCursor := existing.enrollCursor } version →
      Writes before (.writingDraft existing patch read) after
  | published {existing : FlowRow} {enrollExisting : Bool} {read : PublishRead} {version : FlowVersionRow}
      {after : FlowTables} {now : Timestamp} :
      before.flowVersions.find? read.draftVersionId = some version → version.workspaceId = existing.workspaceId →
      Rewrites before after existing.id read.draftVersionId
        { publishedFlow existing read with enrollCursor := existing.enrollCursor }
        { version with publishedAt := some now } →
      Writes before (.writingPublish existing enrollExisting read) after
  | switched {session : Session} {existing : FlowRow} {status : FlowStatus} :
      session.holds = some existing → existing.status ≠ .draft → status ≠ .draft →
      Writes before session (writeFlow before { existing with status })
  | entered {session : Session} {after : FlowTables} :
      after.flows = before.flows → after.flowVersions = before.flowVersions → Writes before session after

section Steps

variable {id : Nat} {store next : Store} {session after : Session} {tables : FlowTables}

theorem insertWithDraft_fresh {flow : FlowRow} {versionId : FlowVersionId} {definition : FlowDefinition}
    {before : FlowTables} (inserted : insertWithDraft before flow versionId definition = some tables) :
    before.flows.find? flow.id = none := by
  obtain ⟨middle, first, _⟩ := Option.bind_eq_some_iff.mp inserted
  exact (insertFlow_find first).1

theorem committed_writes {commit : Commit} (ok : StoreOk store) (knows : Knows id store session)
    (done : committed store commit session = some tables) : Writes store.tables session tables := by
  unfold committed at done
  split at done
  · next workspaceId name createdByUserId =>
    exact .created (insertWithDraft_rewrites done) ⟨insertWithDraft_fresh done, rfl, rfl, rfl, rfl⟩ rfl
  · next existing patch read =>
    obtain ⟨versionId, version, redrafts, _, within, rewrites⟩ := updateFlowDraft_rewrites ok.versioned
      (knows.held existing rfl).2 (fun versionId same => knows.draft existing patch versionId (by rw [same])) done
    exact .redrafted redrafts within rewrites
  · next existing enrollExisting read =>
    cases done
    have held := (knows.held existing rfl).2
    obtain ⟨version, stored, owned, within, unstamped⟩ := ok.versioned.draft existing.id existing _ held
      (knows.publish existing enrollExisting read rfl)
    exact .published stored within (publishFlow_rewrites held stored within owned unstamped)
  · next existing =>
    obtain ⟨written, allowed, rfl⟩ := Option.map_eq_some_iff.mp done
    unfold pauseFlow at allowed
    split at allowed
    · next live =>
      cases allowed
      exact .switched rfl (by rw [live]; decide) (by decide)
    · cases allowed
  · next existing =>
    obtain ⟨written, allowed, rfl⟩ := Option.map_eq_some_iff.mp done
    unfold resumeFlow at allowed
    split at allowed
    · next paused =>
      cases allowed
      exact .switched rfl (by rw [paused]; decide) (by decide)
    · cases allowed
  · next existing createdByUserId definition =>
    exact .copied (insertWithDraft_rewrites done) ⟨insertWithDraft_fresh done, rfl, rfl, rfl, rfl⟩ rfl rfl
  · next flow liveVersionId contactId =>
    cases done
    apply Writes.entered
    · unfold FlowTables.insertRun
      split <;> rfl
    · unfold FlowTables.insertRun
      split <;> rfl
  all_goals cases done

theorem definitionOf_some {workspaceId : WorkspaceId} {versionId : Option FlowVersionId} {definition : FlowDefinition} :
    tables.definitionOf workspaceId versionId = some definition ↔
      ∃ wanted version, versionId = some wanted ∧ tables.flowVersions.find? wanted = some version ∧
        version.workspaceId = workspaceId ∧ version.definition = definition := by
  unfold FlowTables.definitionOf FlowTables.version?
  rw [Option.map_eq_some_iff]
  constructor
  · rintro ⟨version, chosen, rfl⟩
    obtain ⟨wanted, rfl, located⟩ := Option.bind_eq_some_iff.mp chosen
    obtain ⟨found, owned⟩ := Option.filter_eq_some_iff.mp located
    exact ⟨wanted, version, rfl, found, beq_iff_eq.mp owned, rfl⟩
  · rintro ⟨wanted, version, rfl, found, owned, rfl⟩
    exact ⟨version, Option.filter_eq_some_iff.mpr ⟨found, beq_iff_eq.mpr owned⟩, rfl⟩

section Rewritten

variable {before after : FlowTables} {flowId : FlowId} {versionId : FlowVersionId} {flow : FlowRow}
  {version : FlowVersionRow} {workspaceId : WorkspaceId} {wanted : FlowVersionId}

theorem Rewrites.definitionOf_written (rewrites : Rewrites before after flowId versionId flow version)
    (within : version.workspaceId = workspaceId) :
    after.definitionOf workspaceId (some versionId) = some version.definition :=
  definitionOf_some.mpr ⟨versionId, version, rfl, by rw [rewrites.versions, if_pos rfl], within, rfl⟩

theorem Rewrites.definitionOf_away {definition : FlowDefinition}
    (rewrites : Rewrites before after flowId versionId flow version) (differs : wanted ≠ versionId)
    (found : before.definitionOf workspaceId (some wanted) = some definition) :
    after.definitionOf workspaceId (some wanted) = some definition := by
  obtain ⟨other, row, same, stored, rest⟩ := definitionOf_some.mp found
  cases same
  exact definitionOf_some.mpr ⟨wanted, row, rfl, by rw [rewrites.versions, if_neg differs]; exact stored, rest⟩

theorem Rewrites.away_of_flow {row : FlowVersionRow} (rewrites : Rewrites before after flowId versionId flow version)
    (found : before.flowVersions.find? wanted = some row) (other : row.flowId ≠ flowId ∨ row.publishedAt.isSome) :
    wanted ≠ versionId := by
  rintro rfl
  obtain ⟨unstamped, owned⟩ := rewrites.unpublished row found
  rcases other with elsewhere | stamped
  · exact elsewhere owned
  · rw [unstamped] at stamped
    cases stamped

theorem Rewrites.definitionOf_live {row : FlowRow} {id : FlowId} {definition : FlowDefinition}
    (rewrites : Rewrites before after flowId versionId flow version) (versioned : Versioned before)
    (found : before.flows.find? id = some row)
    (read : before.definitionOf workspaceId row.liveVersionId = some definition) :
    after.definitionOf workspaceId row.liveVersionId = some definition := by
  obtain ⟨live, _, pointed, _⟩ := definitionOf_some.mp read
  obtain ⟨stored, at_, _, stamped⟩ := versioned.live id row live found pointed
  rw [pointed] at read ⊢
  exact rewrites.definitionOf_away (rewrites.away_of_flow at_ (.inr stamped)) read

theorem Rewrites.definitionOf_draft {row : FlowRow} {id : FlowId} {definition : FlowDefinition}
    (rewrites : Rewrites before after flowId versionId flow version) (versioned : Versioned before)
    (found : before.flows.find? id = some row) (differs : id ≠ flowId)
    (read : before.definitionOf workspaceId row.draftVersionId = some definition) :
    after.definitionOf workspaceId row.draftVersionId = some definition := by
  obtain ⟨draft, _, pointed, _⟩ := definitionOf_some.mp read
  obtain ⟨stored, at_, owned, _⟩ := versioned.draft id row draft found pointed
  rw [pointed] at read ⊢
  exact rewrites.definitionOf_away (rewrites.away_of_flow at_ (.inl (owned ▸ differs))) read

theorem Rewrites.staged (rewrites : Rewrites before after flowId versionId flow version) (versioned : Versioned before)
    (staged : AllStaged before) (written : after.Staged flow) : AllStaged after := by
  intro id row found
  rw [rewrites.flows] at found
  split at found
  · cases found
    exact written
  · have stage := staged id row found
    constructor
    · exact stage.unpublished
    · intro live
      obtain ⟨started, read⟩ := stage.published live
      obtain ⟨definition, read⟩ := Option.isSome_iff_exists.mp read
      exact ⟨started, Option.isSome_iff_exists.mpr ⟨definition, rewrites.definitionOf_live versioned found read⟩⟩

theorem Rewrites.mirrored (rewrites : Rewrites before after flowId versionId flow version)
    (versioned : Versioned before) (mirrored : TriggersMirrored before) (written : after.MirrorsTrigger flow) :
    TriggersMirrored after := by
  intro id row found
  rw [rewrites.flows] at found
  split at found
  · cases found
    exact written
  · next differs =>
    have mirrors := mirrored id row found
    constructor
    · intro unpublished
      obtain ⟨definition, read, same⟩ := mirrors.draft unpublished
      exact ⟨definition, rewrites.definitionOf_draft versioned found differs read, same⟩
    · intro started
      obtain ⟨definition, read, same⟩ := mirrors.live started
      exact ⟨definition, rewrites.definitionOf_live versioned found read, same⟩

theorem Rewrites.stored (rewrites : Rewrites before after flowId versionId flow version) :
    after.flows.find? flowId = some flow := by
  rw [rewrites.flows, if_pos rfl]

theorem Rewrites.first (rewrites : Rewrites before after flowId versionId flow version)
    (first : FirstDraft before flowId versionId flow version) :
    after.Staged flow ∧
      (after.MirrorsTrigger flow ↔ flow.triggerColumns = extractTriggerColumns version.definition) := by
  have read := rewrites.definitionOf_written first.workspace
  constructor
  · constructor
    · intro _
      exact ⟨first.status, by rw [first.draft]; rfl⟩
    · intro live
      rw [first.live] at live
      cases live
  · constructor
    · intro mirrors
      obtain ⟨definition, found, same⟩ := mirrors.draft first.live
      rw [first.draft, read] at found
      cases found
      exact same
    · intro same
      constructor
      · intro _
        exact ⟨version.definition, by rw [first.draft]; exact read, same⟩
      · intro started
        rw [first.status] at started
        rcases started with wrong | wrong <;> cases wrong

end Rewritten

theorem updatedFlow_status {existing : FlowRow} {patch : UpdateFlowDraftInput} {versionId : FlowVersionId} :
    (updatedFlow existing patch versionId).status = existing.status := by
  unfold updatedFlow
  cases patch.definition with
  | none => rfl
  | some definition =>
    dsimp only
    split <;> rfl

theorem updatedFlow_columns {existing : FlowRow} {patch : UpdateFlowDraftInput} {versionId : FlowVersionId} :
    (updatedFlow existing patch versionId).triggerColumns =
      match patch.definition with
      | some definition =>
        if existing.status = .draft then extractTriggerColumns definition else existing.triggerColumns
      | none => existing.triggerColumns := by
  unfold updatedFlow
  cases patch.definition with
  | none => rfl
  | some definition =>
    dsimp only
    split <;> rfl

theorem publishedFlow_status {existing : FlowRow} {read : PublishRead} :
    (publishedFlow existing read).status ≠ .draft := by
  show (if existing.status = .paused then FlowStatus.paused else .live) ≠ .draft
  split <;> decide

theorem writeStatus_find {before : FlowTables} {existing : FlowRow} {status : FlowStatus} (held : Holds before existing)
    (flowId : FlowId) : (writeFlow before { existing with status }).flows.find? flowId =
      if flowId = existing.id then some { existing with status } else before.flows.find? flowId :=
  @writeFlow_find existing.id { existing with status } before existing held rfl rfl flowId

theorem writes_staged (ok : StoreOk store) (knows : Knows id store session) (staged : AllStaged store.tables)
    (writes : Writes store.tables session tables) : AllStaged tables := by
  cases writes with
  | created rewrites first _ | copied rewrites first _ _ =>
    exact rewrites.staged ok.versioned staged (rewrites.first first).1
  | @redrafted existing patch read versionId version _ redrafts within rewrites =>
    obtain ⟨_, workspace, draft, live⟩ := updatedFlow_pointers existing patch versionId
    have held := (knows.held existing rfl).2
    have stage := staged existing.id existing held
    apply rewrites.staged ok.versioned staged
    constructor
    · intro unpublished
      exact ⟨updatedFlow_status.trans (stage.unpublished (live.symm.trans unpublished)).1, by
        show (updatedFlow existing patch versionId).draftVersionId.isSome
        rw [draft]
        rfl⟩
    · intro published
      have published : existing.liveVersionId.isSome := by
        rw [← live]
        exact published
      obtain ⟨started, read⟩ := stage.published published
      obtain ⟨definition, read⟩ := Option.isSome_iff_exists.mp read
      refine ⟨updatedFlow_status.trans_ne started, Option.isSome_iff_exists.mpr ⟨definition, ?_⟩⟩
      show tables.definitionOf (updatedFlow existing patch versionId).workspaceId
        (updatedFlow existing patch versionId).liveVersionId = some definition
      rw [workspace, live]
      exact rewrites.definitionOf_live ok.versioned held read
  | @published existing _ read version _ _ _ within rewrites =>
    apply rewrites.staged ok.versioned staged
    constructor
    · intro unpublished
      cases unpublished
    · intro _
      exact ⟨publishedFlow_status, Option.isSome_iff_exists.mpr ⟨_, rewrites.definitionOf_written within⟩⟩
  | @switched _ existing status holding _ started =>
    have held := (knows.held existing holding).2
    intro flowId row found
    rw [writeStatus_find held] at found
    split at found
    · cases found
      have stage := staged existing.id existing held
      constructor
      · intro unpublished
        exact absurd (stage.unpublished unpublished).1 ‹_›
      · intro published
        exact ⟨started, (stage.published published).2⟩
    · exact ⟨(staged flowId row found).unpublished, (staged flowId row found).published⟩
  | entered flows versions =>
    intro flowId row found
    rw [flows] at found
    have stage := staged flowId row found
    constructor
    · exact stage.unpublished
    · intro published
      obtain ⟨started, read⟩ := stage.published published
      unfold FlowTables.definitionOf FlowTables.version? at read ⊢
      rw [versions]
      exact ⟨started, read⟩

theorem writes_mirrored (ok : StoreOk store) (knows : Knows id store session) (drafts : KnowsDraft store session)
    (staged : AllStaged store.tables) (mirrored : TriggersMirrored store.tables)
    (writes : Writes store.tables session tables)
    (copies : ∀ existing createdByUserId definition, session = .writingCopy existing createdByUserId definition →
      existing.triggerColumns = extractTriggerColumns definition) : TriggersMirrored tables := by
  cases writes with
  | created rewrites first same => exact rewrites.mirrored ok.versioned mirrored ((rewrites.first first).2.mpr same)
  | @copied existing createdByUserId _ _ _ _ _ _ rewrites first same copied =>
    apply rewrites.mirrored ok.versioned mirrored
    rw [(rewrites.first first).2, same, copied]
    exact copies existing createdByUserId _ rfl
  | @redrafted existing patch read versionId version _ redrafts within rewrites =>
    obtain ⟨_, workspace, draft, live⟩ := updatedFlow_pointers existing patch versionId
    have held := (knows.held existing rfl).2
    have stage := staged existing.id existing held
    have before := mirrored existing.id existing held
    apply rewrites.mirrored ok.versioned mirrored
    constructor
    · intro unpublished
      have unpublished : existing.liveVersionId = none := live.symm.trans unpublished
      obtain ⟨isDraft, drafted⟩ := stage.unpublished unpublished
      refine ⟨version.definition, ?_, ?_⟩
      · show tables.definitionOf (updatedFlow existing patch versionId).workspaceId
          (updatedFlow existing patch versionId).draftVersionId = _
        rw [workspace, draft]
        exact rewrites.definitionOf_written within
      · show (updatedFlow existing patch versionId).triggerColumns = _
        rw [updatedFlow_columns]
        cases redrafts with
        | @existing _ old stored pointed =>
          obtain ⟨definition, read, same⟩ := before.draft unpublished
          obtain ⟨_, row, there, found, _, rfl⟩ := definitionOf_some.mp read
          cases pointed.symm.trans there
          cases stored.symm.trans found
          cases patch.definition with
          | none => exact same
          | some definition => exact if_pos isDraft
        | copied _ =>
          rw [drafts.copied existing patch _ _ rfl] at drafted
          cases drafted
    · intro started
      have started : existing.status = .live ∨ existing.status = .paused := by
        rw [← @updatedFlow_status existing patch versionId]
        exact started
      obtain ⟨definition, read, same⟩ := before.live started
      refine ⟨definition, ?_, ?_⟩
      · show tables.definitionOf (updatedFlow existing patch versionId).workspaceId
          (updatedFlow existing patch versionId).liveVersionId = _
        rw [workspace, live]
        exact rewrites.definitionOf_live ok.versioned held read
      · show (updatedFlow existing patch versionId).triggerColumns = _
        -- an edit of a flow that has been published leaves its columns alone
        have notDraft : existing.status ≠ .draft := by
          rintro isDraft
          rw [isDraft] at started
          rcases started with wrong | wrong <;> cases wrong
        rw [updatedFlow_columns]
        cases patch.definition with
        | none => exact same
        | some other => exact (if_neg notDraft).trans same
  | @published existing enrollExisting read version _ now stored within rewrites =>
    apply rewrites.mirrored ok.versioned mirrored
    constructor
    · intro unpublished
      cases unpublished
    · intro _
      refine ⟨version.definition, rewrites.definitionOf_written within, ?_⟩
      obtain ⟨_, row, there, found, _, same⟩ := definitionOf_some.mp (drafts.publish existing enrollExisting read rfl)
      cases there
      cases stored.symm.trans found
      rw [same]
      rfl
  | @switched _ existing status holding began started =>
    have held := (knows.held existing holding).2
    intro flowId row found
    rw [writeStatus_find held] at found
    have before := mirrored existing.id existing held
    split at found
    · cases found
      constructor
      · exact before.draft
      · intro _
        apply before.live
        cases status : existing.status with
        | draft => exact absurd status began
        | live => exact .inl rfl
        | paused => exact .inr rfl
    · exact ⟨(mirrored flowId row found).draft, (mirrored flowId row found).live⟩
  | entered flows versions =>
    intro flowId row found
    rw [flows] at found
    have before := mirrored flowId row found
    have same : ∀ versionId, tables.definitionOf row.workspaceId versionId =
        store.tables.definitionOf row.workspaceId versionId := by
      intro versionId
      unfold FlowTables.definitionOf FlowTables.version?
      rw [versions]
    constructor
    · intro unpublished
      obtain ⟨definition, read, columns⟩ := before.draft unpublished
      exact ⟨definition, (same _).trans read, columns⟩
    · intro started
      obtain ⟨definition, read, columns⟩ := before.live started
      exact ⟨definition, (same _).trans read, columns⟩

theorem knowsDraft_of_reading (quiet : session.writes = false) : KnowsDraft store session where
  publish existing enrollExisting read same := by
    rw [same] at quiet
    cases quiet
  copied existing patch versionNumber definition same := by
    rw [same] at quiet
    cases quiet

theorem startCall_quiet {workspaceId : WorkspaceId} {command : FlowCommand}
    (started : startCall id store workspaceId command = some (next, after)) : after.writes = false := by
  cases command <;> simp only [startCall, lockFlow, readFlow, readLiveFlow] at started <;> repeat' split at started
  all_goals cases started
  all_goals rfl

theorem release_quiet (released : release store tables session = (next, after)) : after = .idle := by
  unfold release at released
  split at released <;> cases released <;> rfl

theorem sessionTurn_knowsDraft {turn : SessionTurn} (ok : StoreOk store) (knows : Knows id store session)
    (turned : sessionTurn id store session turn = some (next, after)) : KnowsDraft next after := by
  cases turn with
  | start workspaceId command =>
    simp only [sessionTurn] at turned
    split at turned
    · exact knowsDraft_of_reading (startCall_quiet turned)
    · cases turned
  | read =>
    simp only [sessionTurn, readVersions] at turned
    split at turned
    · next existing patch =>
      cases turned
      constructor
      · intro other enrollExisting read same
        cases same
      · intro other otherPatch versionNumber definition same
        obtain ⟨rfl, rfl, read⟩ := Session.writingDraft.inj same
        unfold readDraft at read
        split at read
        · cases read
        · assumption
    · next existing enrollExisting =>
      split at turned
      · next published checked =>
        cases turned
        constructor
        · intro other enrolling read same
          cases same
          have held := (knows.held existing rfl).2
          unfold readPublish at checked
          split at checked
          · cases checked
          · next draftVersionId pointed =>
            obtain ⟨version, stored, _, within, _⟩ := ok.versioned.draft existing.id existing _ held pointed
            have found := definitionOf_some.mpr ⟨draftVersionId, version, rfl, stored, within, rfl⟩
            dsimp only at checked
            split at checked
            · cases checked
              rw [found]
              rfl
            · cases checked
        · intro other otherPatch versionNumber definition same
          cases same
      · exact knowsDraft_of_reading (by rw [release_quiet (Option.some.inj turned)]; rfl)
    · cases turned
      exact knowsDraft_of_reading rfl
    all_goals cases turned
  | commit | rollback => exact knowsDraft_of_reading (by rw [release_quiet (Option.some.inj turned)]; rfl)

def ToleratesDraft (id : Nat) (store next : Store) : Prop :=
  ∀ flowId flow definition, store.lockedBy flowId = some id → store.tables.flows.find? flowId = some flow →
    store.tables.definitionOf flow.workspaceId flow.draftVersionId = some definition →
    next.tables.definitionOf flow.workspaceId flow.draftVersionId = some definition

theorem toleratesDraft_of_same (same : next.tables.flowVersions = store.tables.flowVersions) :
    ToleratesDraft id store next := by
  intro flowId flow definition _ _ read
  unfold FlowTables.definitionOf FlowTables.version? at read ⊢
  rw [same]
  exact read

theorem toleratesDraft_of_rewrites {other : Nat} {flowId : FlowId} {versionId : FlowVersionId} {flow : FlowRow}
    {version : FlowVersionRow} (ok : StoreOk store)
    (rewrites : Rewrites store.tables next.tables flowId versionId flow version)
    (free : store.lockedBy flowId ≠ some other) : ToleratesDraft other store next := by
  intro held row definition locked found read
  apply rewrites.definitionOf_draft ok.versioned found _ read
  rintro rfl
  exact free locked

theorem writes_toleratesDraft {other : Nat} (ok : StoreOk store) (knows : Knows id store session) (differs : other ≠ id)
    (writes : Writes store.tables session next.tables) : ToleratesDraft other store next := by
  have unlocked : ∀ flowId, store.tables.flows.find? flowId = none → store.lockedBy flowId ≠ some other := by
    intro flowId fresh locked
    have stored := ok.locked flowId other locked
    rw [fresh] at stored
    cases stored
  have away : ∀ existing, session.holds = some existing → store.lockedBy existing.id ≠ some other := by
    intro existing holding locked
    rw [(knows.held existing holding).1] at locked
    exact differs (Option.some.inj locked).symm
  generalize reached : next.tables = tables at writes
  cases writes with
  | created rewrites first _ | copied rewrites first _ _ =>
    exact toleratesDraft_of_rewrites ok (reached ▸ rewrites) (unlocked _ first.fresh)
  | redrafted _ _ rewrites | published _ _ rewrites =>
    exact toleratesDraft_of_rewrites ok (reached ▸ rewrites) (away _ rfl)
  | switched holding began started => exact toleratesDraft_of_same (by rw [reached]; rfl)
  | entered _ versions => exact toleratesDraft_of_same (by rw [reached]; exact versions)

abbrev DraftsSound (threads : FlowThreads) : Prop :=
  Threads.Sound (fun store => StoreOk store ∧ AllStaged store.tables)
    (fun id store session => Knows id store session ∧ KnowsDraft store session) threads

theorem allStaged_of_same (staged : AllStaged store.tables) (flows : next.tables.flows = store.tables.flows)
    (versions : next.tables.flowVersions = store.tables.flowVersions) : AllStaged next.tables := by
  intro flowId row found
  rw [flows] at found
  have stage := staged flowId row found
  constructor
  · exact stage.unpublished
  · intro published
    have read := stage.published published
    unfold FlowTables.definitionOf FlowTables.version? at read ⊢
    rw [versions]
    exact read

theorem engineEvent_flows {event : EngineEvent} (ok : StoreOk store) (happened : engineEvent store event = some next) :
    next.tables.flows = store.tables.flows ∧ next.tables.flowVersions = store.tables.flowVersions := by
  cases event with
  | advance workspaceId flowRunId seen =>
    simp only [engineEvent] at happened
    split at happened <;> cases happened
    · next advanced =>
      obtain ⟨_, flows, versions, _⟩ := advanceStored_versioned ok.versioned advanced
      exact ⟨flows, versions⟩
    · exact ⟨rfl, rfl⟩

theorem knowsDraft_stable (knows : Knows id store session) (drafts : KnowsDraft store session)
    (kept : ToleratesDraft id store next) : KnowsDraft next session := by
  refine ⟨?_, drafts.copied⟩
  intro existing enrollExisting read same
  subst same
  obtain ⟨locked, held⟩ := knows.held existing rfl
  have pointed := knows.publish existing enrollExisting read rfl
  have found := drafts.publish existing enrollExisting read rfl
  rw [← pointed] at found ⊢
  exact kept existing.id existing read.definition locked held found

theorem sessionTurn_sound {turn : SessionTurn} (ok : StoreOk store) (staged : AllStaged store.tables)
    (knows : Knows id store session) (turned : sessionTurn id store session turn = some (next, after)) :
    (StoreOk next ∧ AllStaged next.tables) ∧ (Knows id next after ∧ KnowsDraft next after) ∧
      ∀ other, other ≠ id → Tolerates other store next ∧ ToleratesDraft other store next := by
  have leaves := sessionTurn_leaves ok knows turned
  have drafts := sessionTurn_knowsDraft ok knows turned
  rcases sessionTurn_tables turned with same | ⟨commit, _, done⟩
  · refine ⟨⟨leaves.ok, same ▸ staged⟩, ⟨leaves.knows, drafts⟩, ?_⟩
    intro other differs
    exact ⟨leaves.harmless other differs, toleratesDraft_of_same (by rw [same])⟩
  · have writes := committed_writes ok knows done
    refine ⟨⟨leaves.ok, writes_staged ok knows staged writes⟩, ⟨leaves.knows, drafts⟩, ?_⟩
    intro other differs
    exact ⟨leaves.harmless other differs, writes_toleratesDraft ok knows differs writes⟩

theorem draftsSound_step (threads : FlowThreads) (turn : Turn SessionTurn EngineEvent) (next : FlowThreads)
    (sound : DraftsSound threads) (taken : flowStep threads turn = some next) : DraftsSound next := by
  refine @sound_interleave _ _ _ _ _ _ _ _ (fun id store next => Tolerates id store next ∧ ToleratesDraft id store next)
    ?_ ?_ ?_ threads turn next sound taken
  · rintro id store session choice next after ⟨ok, staged⟩ ⟨knows, _⟩ turned
    exact sessionTurn_sound ok staged knows turned
  · rintro store event next ⟨ok, staged⟩ happened
    obtain ⟨okNext, harmless, _⟩ := engineEvent_kept ok happened
    obtain ⟨flows, versions⟩ := engineEvent_flows ok happened
    exact ⟨⟨okNext, allStaged_of_same staged flows versions⟩,
      fun thread => ⟨harmless thread, toleratesDraft_of_same versions⟩⟩
  · rintro id store next session ⟨knows, drafts⟩ ⟨tolerates, kept⟩
    exact ⟨knows_stable knows tolerates, knowsDraft_stable knows drafts kept⟩

theorem mirrored_of_same (mirrored : TriggersMirrored store.tables) (flows : next.tables.flows = store.tables.flows)
    (versions : next.tables.flowVersions = store.tables.flowVersions) : TriggersMirrored next.tables := by
  have same : ∀ workspaceId versionId,
      next.tables.definitionOf workspaceId versionId = store.tables.definitionOf workspaceId versionId := by
    intro workspaceId versionId
    unfold FlowTables.definitionOf FlowTables.version?
    rw [versions]
  intro flowId row found
  rw [flows] at found
  have before := mirrored flowId row found
  constructor
  · intro unpublished
    obtain ⟨definition, read, columns⟩ := before.draft unpublished
    exact ⟨definition, (same _ _).trans read, columns⟩
  · intro started
    obtain ⟨definition, read, columns⟩ := before.live started
    exact ⟨definition, (same _ _).trans read, columns⟩

theorem copied_of_mirrored {commit : Commit} {existing : FlowRow} {createdByUserId : String}
    {definition : FlowDefinition} (duplicated : duplicateFlow store.tables existing definition createdByUserId
      commit.flowId commit.versionId = some tables) (mirrored : TriggersMirrored tables) :
    existing.triggerColumns = extractTriggerColumns definition := by
  have rewrites := insertWithDraft_rewrites duplicated
  have first := @Rewrites.first _ _ _ _ _ _ rewrites ⟨insertWithDraft_fresh duplicated, rfl, rfl, rfl, rfl⟩
  exact first.2.mp (mirrored _ _ rewrites.stored)

end Steps

/-- A commit keeps all columns mirrored exactly if it is no duplicate that copies columns of another
definition. -/
theorem mirrored_step_iff {threads next : FlowThreads} {turn : Turn SessionTurn EngineEvent}
    (sound : DraftsSound threads) (mirrored : TriggersMirrored threads.shared.tables)
    (taken : flowStep threads turn = some next) :
    TriggersMirrored next.shared.tables ↔ copiesMirrored threads turn = true := by
  obtain ⟨ok, staged⟩ := sound.shared
  cases turn with
  | outside event =>
    obtain ⟨shared, happened, rfl⟩ := interleave_outside.mp taken
    obtain ⟨flows, versions⟩ := engineEvent_flows ok happened
    exact iff_of_true (mirrored_of_same mirrored flows versions) rfl
  | thread id choice =>
    obtain ⟨shared, own, acted, rfl⟩ := interleave_thread.mp taken
    obtain ⟨knows, drafts⟩ := sound.own id
    have kept := fun tables =>
      @writes_mirrored id threads.shared (threads.own id) tables ok knows drafts staged mirrored
    cases choice with
    | start | read | rollback =>
      have same : shared.tables = threads.shared.tables := by
        rcases sessionTurn_tables acted with same | ⟨commit, wrong, _⟩
        · exact same
        · cases wrong
      apply iff_of_true _ rfl
      show TriggersMirrored shared.tables
      rw [same]
      exact mirrored
    | commit commit =>
      have tables := release_tables (Option.some.inj acted)
      show TriggersMirrored shared.tables ↔ _
      rw [tables]
      cases done : committed threads.shared commit (threads.own id) with
      | none =>
        apply iff_of_true mirrored
        simp only [copiesMirrored]
        split
        · next copying =>
          rw [copying] at done
          rw [show duplicateFlow _ _ _ _ _ _ = none from done]
          rfl
        all_goals rfl
      | some after =>
        have writes := committed_writes ok knows done
        simp only [copiesMirrored]
        split
        · next existing createdByUserId definition copying =>
          rw [copying] at done
          have duplicated : duplicateFlow threads.shared.tables existing definition createdByUserId commit.flowId
              commit.versionId = some after := done
          rw [duplicated]
          simp only [Option.isNone_some, Bool.false_or, beq_iff_eq, Option.getD_some]
          constructor
          · exact copied_of_mirrored duplicated
          · intro same
            apply kept after writes
            intro other user copied now
            rw [copying] at now
            cases now
            exact same
        all_goals
          next elsewhere =>
            apply iff_of_true _ rfl
            apply kept after writes
            intro other user copied now
            rw [elsewhere] at now
            cases now

theorem emptyStore_drafts : DraftsSound emptyStore where
  shared := ⟨emptyStore_sound.shared, fun _ _ found => by cases found⟩
  own id := ⟨emptyStore_sound.own id, knowsDraft_of_reading rfl⟩

/-- The columns of every flow mirror its draft before its first publish and its live version afterwards
exactly if no duplicate copies other ones. -/
theorem trigger_columns_mirrored_iff (turns : List (Turn SessionTurn EngineEvent)) :
    Along flowStep (fun _ _ next => TriggersMirrored next.shared.tables) emptyStore turns ↔
      Along flowStep (fun threads turn _ => copiesMirrored threads turn = true) emptyStore turns := by
  have decided : ∀ threads turn next, (DraftsSound threads ∧ TriggersMirrored threads.shared.tables) →
      flowStep threads turn = some next →
      ((DraftsSound next ∧ TriggersMirrored next.shared.tables) ↔ copiesMirrored threads turn = true) := by
    rintro threads turn next ⟨sound, mirrored⟩ taken
    rw [← mirrored_step_iff sound mirrored taken]
    exact and_iff_right (draftsSound_step threads turn next sound taken)
  have start : DraftsSound emptyStore ∧ TriggersMirrored emptyStore.shared.tables :=
    ⟨emptyStore_drafts, fun _ _ found => by cases found⟩
  rw [← along_invariant_iff decided start turns]
  constructor
  · intro along
    exact along_and (along_of_invariant draftsSound_step draftsSound_step emptyStore_drafts turns) along
  · intro along
    exact along_mono (fun _ _ _ both => both.2) along

section Traces

def wholeCall (command : FlowCommand) (commit : Commit) : List (Turn SessionTurn EngineEvent) :=
  [.thread 0 (.start 1 command), .thread 0 .read, .thread 0 (.commit commit)]

def purchaseFlow : FlowDefinition where
  nodes := [⟨1, .trigger .event (some "purchase") none⟩, ⟨2, .exit⟩]
  edges := [{ source := 1, target := 2 }]

def redraftedFlow : List (Turn SessionTurn EngineEvent) :=
  [.thread 0 (.start 1 (.create "welcome" "owner")), .thread 0 (.commit { now := 0, flowId := 7, versionId := 10 })] ++
    wholeCall (.update 7 { definition := some exitFlow }) { now := 1 } ++ wholeCall (.publish 7 false) { now := 2 } ++
    wholeCall (.update 7 { definition := some purchaseFlow }) { now := 3, versionId := 11 }

/-- The copy is triggered by the published event, and its draft says another one. -/
theorem duplicate_keeps_live_trigger : ¬ ∀ (turns : List (Turn SessionTurn EngineEvent)) (final : FlowThreads),
    run flowStep emptyStore turns = some final → TriggersMirrored final.shared.tables := by
  intro always
  have runs : (run flowStep emptyStore (redraftedFlow ++
      wholeCall (.duplicate 7 "owner") { now := 4, flowId := 8, versionId := 12 })).any (fun final =>
        (final.shared.tables.flows.find? 8).any fun flow => flow.liveVersionId.isNone &&
          (final.shared.tables.definitionOf flow.workspaceId flow.draftVersionId).any fun definition =>
            flow.triggerColumns != extractTriggerColumns definition) = true := by
    decide +kernel
  obtain ⟨final, ran, both⟩ := Option.any_eq_true _ _ |>.mp runs
  obtain ⟨flow, found, both⟩ := Option.any_eq_true _ _ |>.mp both
  obtain ⟨unpublished, both⟩ := Bool.and_eq_true_iff.mp both
  obtain ⟨definition, read, differs⟩ := Option.any_eq_true _ _ |>.mp both
  obtain ⟨other, again, same⟩ := (always _ final ran 8 flow found).draft (Option.isNone_iff_eq_none.mp unpublished)
  cases read.symm.trans again
  exact bne_iff_ne.mp differs same

end Traces

end LocalCrm.Flows
