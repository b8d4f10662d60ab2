import LocalCrm.Flows.Enrolment
import LocalCrm.Flows.Repository
import LocalCrm.Library.Interleaving

/-! Published versions are immutable, and runs are pinned to them. -/

set_option autoImplicit false

namespace LocalCrm.Flows

open Library

/-- The draft of a flow is an unpublished version of its own, its live version a published one, and runs
execute nodes of the one they are pinned to. -/
structure Versioned (tables : FlowTables) : Prop where
  draft : ∀ flowId flow versionId, tables.flows.find? flowId = some flow → flow.draftVersionId = some versionId →
    ∃ version, tables.flowVersions.find? versionId = some version ∧ version.flowId = flowId ∧
      version.workspaceId = flow.workspaceId ∧ version.publishedAt = none
  live : ∀ flowId flow versionId, tables.flows.find? flowId = some flow → flow.liveVersionId = some versionId →
    ∃ version, tables.flowVersions.find? versionId = some version ∧ version.flowId = flowId ∧
      version.publishedAt.isSome
  runs : ∀ runId run, tables.flowRuns.find? runId = some run →
    ∃ version, tables.flowVersions.find? run.flowVersionId = some version ∧ version.publishedAt.isSome
  steps : ∀ step ∈ tables.flowRunSteps, ∃ run version, tables.flowRuns.find? step.flowRunId = some run ∧
    tables.flowVersions.find? run.flowVersionId = some version ∧
    ∃ node ∈ version.definition.nodes, node.id = step.nodeId

def KeepsPublished (before after : FlowTables) : Prop :=
  ∀ versionId version, before.flowVersions.find? versionId = some version → version.publishedAt.isSome →
    after.flowVersions.find? versionId = some version

/-- Runs stay pinned where they are. -/
def KeepsPins (before after : FlowTables) : Prop :=
  ∀ runId run, before.flowRuns.find? runId = some run →
    ∃ later, after.flowRuns.find? runId = some later ∧ later.flowVersionId = run.flowVersionId

section Changes

variable {before after : FlowTables} {flowId : FlowId} {versionId : FlowVersionId} {flow : FlowRow}
  {version : FlowVersionRow}

structure Rewrites (before after : FlowTables) (flowId : FlowId) (versionId : FlowVersionId) (flow : FlowRow)
    (version : FlowVersionRow) : Prop where
  flows : ∀ id, after.flows.find? id = if id = flowId then some flow else before.flows.find? id
  versions : ∀ id, after.flowVersions.find? id = if id = versionId then some version else before.flowVersions.find? id
  runs : after.flowRuns = before.flowRuns
  steps : after.flowRunSteps = before.flowRunSteps
  unpublished : ∀ old, before.flowVersions.find? versionId = some old → old.publishedAt = none ∧ old.flowId = flowId
  owned : version.flowId = flowId

theorem Rewrites.keepsPublished (rewrites : Rewrites before after flowId versionId flow version) :
    KeepsPublished before after := by
  intro id row found published
  rw [rewrites.versions]
  by_cases same : id = versionId
  · subst same
    rw [(rewrites.unpublished row found).1] at published
    cases published
  · rw [if_neg same]
    exact found

theorem Rewrites.versioned (rewrites : Rewrites before after flowId versionId flow version)
    (holds : Versioned before)
    (draft : ∀ id, flow.draftVersionId = some id →
      id = versionId ∧ version.workspaceId = flow.workspaceId ∧ version.publishedAt = none)
    (live : ∀ id, flow.liveVersionId = some id →
      (id = versionId ∧ version.publishedAt.isSome) ∨
        ∃ row, before.flowVersions.find? id = some row ∧ row.flowId = flowId ∧ row.publishedAt.isSome) :
    Versioned after := by
  have keeps := rewrites.keepsPublished
  constructor
  · intro id row draftId found pointed
    rw [rewrites.flows] at found
    split at found
    · next same =>
      cases found
      obtain ⟨rfl, within, unstamped⟩ := draft draftId pointed
      exact ⟨version, by rw [rewrites.versions, if_pos rfl], same ▸ rewrites.owned, within, unstamped⟩
    · next other =>
      obtain ⟨old, stored, owned, within, unstamped⟩ := holds.draft id row draftId found pointed
      refine ⟨old, ?_, owned, within, unstamped⟩
      rw [rewrites.versions, if_neg]
      · exact stored
      · rintro rfl
        exact other (owned.symm.trans (rewrites.unpublished old stored).2)
  · intro id row liveId found pointed
    rw [rewrites.flows] at found
    split at found
    · next same =>
      cases found
      rcases live liveId pointed with ⟨rfl, published⟩ | ⟨old, stored, owned, published⟩
      · exact ⟨version, by rw [rewrites.versions, if_pos rfl], same ▸ rewrites.owned, published⟩
      · exact ⟨old, keeps liveId old stored published, same ▸ owned, published⟩
    · obtain ⟨old, stored, owned, published⟩ := holds.live id row liveId found pointed
      exact ⟨old, keeps liveId old stored published, owned, published⟩
  · intro runId run found
    rw [rewrites.runs] at found
    obtain ⟨old, stored, published⟩ := holds.runs runId run found
    exact ⟨old, keeps _ old stored published, published⟩
  · intro step member
    rw [rewrites.steps] at member
    obtain ⟨run, old, found, stored, executed⟩ := holds.steps step member
    obtain ⟨same, again, published⟩ := holds.runs _ run found
    cases stored.symm.trans again
    exact ⟨run, old, by rw [rewrites.runs]; exact found, keeps _ old stored published, executed⟩

variable {tables : FlowTables} {existing row : FlowRow}

theorem writeFlow_find (found : tables.flows.find? flowId = some row) (written : flow.id = flowId)
    (within : row.workspaceId = flow.workspaceId) (id : FlowId) :
    (writeFlow tables flow).flows.find? id =
      if id = flowId then some { flow with enrollCursor := row.enrollCursor } else tables.flows.find? id := by
  subst written
  unfold writeFlow
  rw [Table.find?_update]
  by_cases same : id = flow.id
  · subst same
    have keyed := Table.key_of_find? found
    simp [found, within, keyed]
  · rw [if_neg same]
    cases other : tables.flows.find? id with
    | none => rfl
    | some stored =>
      have keyed := Table.key_of_find? other
      simp [keyed, same]

theorem update_version_find {set : FlowVersionRow → FlowVersionRow} {keeps : ∀ row, (set row).id = row.id}
    {workspaceId : WorkspaceId} (found : tables.flowVersions.find? versionId = some version)
    (within : version.workspaceId = workspaceId) (id : FlowVersionId) :
    (tables.flowVersions.update (fun row => row.id == versionId && row.workspaceId == workspaceId) set keeps).find? id =
      if id = versionId then some (set version) else tables.flowVersions.find? id := by
  rw [Table.find?_update]
  by_cases same : id = versionId
  · subst same
    have keyed := Table.key_of_find? found
    simp [found, within, keyed]
  · rw [if_neg same]
    cases other : tables.flowVersions.find? id with
    | none => rfl
    | some stored =>
      have keyed := Table.key_of_find? other
      simp [keyed, same]

theorem writeDefinition_find {workspaceId : WorkspaceId} {definition : Option FlowDefinition}
    (found : tables.flowVersions.find? versionId = some version) (within : version.workspaceId = workspaceId)
    (id : FlowVersionId) :
    (writeDefinition tables workspaceId versionId definition).flowVersions.find? id =
      if id = versionId then some { version with definition := definition.getD version.definition }
      else tables.flowVersions.find? id := by
  unfold writeDefinition
  cases definition with
  | none =>
    by_cases same : id = versionId
    · subst same
      simp [found]
    · simp [same]
  | some definition =>
    exact @update_version_find _ _ _ (fun version => { version with definition }) (fun _ => rfl) _ found within id

theorem insertVersion_find (inserted : insertVersion tables version = some after) :
    tables.flowVersions.find? version.id = none ∧ after.flows = tables.flows ∧ after.flowRuns = tables.flowRuns ∧
      after.flowRunSteps = tables.flowRunSteps ∧
      ∀ id, after.flowVersions.find? id = if id = version.id then some version else tables.flowVersions.find? id := by
  unfold insertVersion at inserted
  split at inserted
  · cases inserted
  · next fresh =>
    cases inserted
    exact ⟨fresh, rfl, rfl, rfl, fun _ => Table.find?_insert_fresh fresh⟩

theorem insertFlow_find (inserted : insertFlow tables flow = some after) :
    tables.flows.find? flow.id = none ∧ after.flowVersions = tables.flowVersions ∧ after.flowRuns = tables.flowRuns ∧
      after.flowRunSteps = tables.flowRunSteps ∧
      ∀ id, after.flows.find? id = if id = flow.id then some flow else tables.flows.find? id := by
  unfold insertFlow at inserted
  split at inserted
  · cases inserted
  · next fresh =>
    cases inserted
    exact ⟨fresh, rfl, rfl, rfl, fun _ => Table.find?_insert_fresh fresh⟩

theorem insertWithDraft_rewrites {definition : FlowDefinition}
    (inserted : insertWithDraft tables flow versionId definition = some after) :
    Rewrites tables after flow.id versionId { flow with draftVersionId := some versionId }
      { id := versionId, workspaceId := flow.workspaceId, flowId := flow.id, versionNumber := 1, definition } := by
  obtain ⟨middle, first, second⟩ := Option.bind_eq_some_iff.mp inserted
  obtain ⟨_, versions, runs, steps, flows⟩ := insertFlow_find first
  obtain ⟨fresh, kept, runsAfter, stepsAfter, versionsAfter⟩ := insertVersion_find second
  rw [versions] at fresh
  constructor
  · intro id
    rw [kept]
    exact flows id
  · intro id
    rw [versionsAfter, versions]
  · exact runsAfter.trans runs
  · exact stepsAfter.trans steps
  · intro old found
    rw [fresh] at found
    cases found
  · rfl

theorem insertWithDraft_versioned {definition : FlowDefinition} (holds : Versioned tables)
    (unpublished : flow.liveVersionId = none) (inserted : insertWithDraft tables flow versionId definition = some after) :
    Versioned after ∧ KeepsPublished tables after ∧ after.flowRuns = tables.flowRuns := by
  have rewrites := insertWithDraft_rewrites inserted
  refine ⟨rewrites.versioned holds ?_ ?_, rewrites.keepsPublished, rewrites.runs⟩
  · intro id pointed
    cases pointed
    exact ⟨rfl, rfl, rfl⟩
  · intro id pointed
    simp only [unpublished] at pointed
    cases pointed

section Frame

variable {other : FlowId}

theorem writeFlow_frame (differs : other ≠ flow.id) :
    (writeFlow tables flow).flows.find? other = tables.flows.find? other := by
  unfold writeFlow
  rw [Table.find?_update]
  cases found : tables.flows.find? other with
  | none => rfl
  | some stored =>
    have keyed := Table.key_of_find? found
    simp [keyed, differs]

theorem writeDefinition_flows {workspaceId : WorkspaceId} {definition : Option FlowDefinition} :
    (writeDefinition tables workspaceId versionId definition).flows = tables.flows := by
  cases definition <;> rfl

theorem insertWithDraft_frame {definition : FlowDefinition} (stored : (tables.flows.find? other).isSome)
    (inserted : insertWithDraft tables flow versionId definition = some after) :
    after.flows.find? other = tables.flows.find? other := by
  obtain ⟨middle, first, second⟩ := Option.bind_eq_some_iff.mp inserted
  obtain ⟨fresh, _, _, _, flows⟩ := insertFlow_find first
  obtain ⟨_, kept, _⟩ := insertVersion_find second
  rw [kept, flows, if_neg]
  rintro rfl
  rw [fresh] at stored
  cases stored

theorem updateFlowDraft_frame {patch : UpdateFlowDraftInput} {read : DraftRead} (differs : other ≠ existing.id)
    (written : updateFlowDraft tables existing patch read versionId = some after) :
    after.flows.find? other = tables.flows.find? other := by
  have away : ∀ id, other ≠ (updatedFlow existing patch id).id := by
    intro id
    have keyed : (updatedFlow existing patch id).id = existing.id := by
      unfold updatedFlow
      cases patch.definition with
      | none => rfl
      | some definition =>
        dsimp only
        split <;> rfl
    rw [keyed]
    exact differs
  cases read with
  | existing id =>
    cases written
    rw [writeFlow_frame (away id), writeDefinition_flows]
  | copied versionNumber definition =>
    obtain ⟨middle, inserted, rfl⟩ := Option.map_eq_some_iff.mp written
    obtain ⟨_, flows, _⟩ := insertVersion_find inserted
    rw [writeFlow_frame (away versionId), writeDefinition_flows, flows]

theorem publishFlow_frame {now : Timestamp} {members : SegmentId → Option (List ContactId)} {read : PublishRead}
    {enrollExisting : Bool} (differs : other ≠ existing.id) :
    (publishFlow now members tables existing read enrollExisting).flows.find? other = tables.flows.find? other := by
  have written := @writeFlow_frame (publishedFlow existing read)
    (snapshotDraftToVersion now tables existing.workspaceId read.draftVersionId) other differs
  unfold publishFlow
  dsimp only
  split <;> exact written

end Frame

def Holds (tables : FlowTables) (existing : FlowRow) : Prop := tables.flows.find? existing.id = some existing

theorem updatedFlow_pointers (existing : FlowRow) (patch : UpdateFlowDraftInput) (draftVersionId : FlowVersionId) :
    (updatedFlow existing patch draftVersionId).id = existing.id ∧
      (updatedFlow existing patch draftVersionId).workspaceId = existing.workspaceId ∧
      (updatedFlow existing patch draftVersionId).draftVersionId = some draftVersionId ∧
      (updatedFlow existing patch draftVersionId).liveVersionId = existing.liveVersionId := by
  unfold updatedFlow
  cases patch.definition with
  | none => exact ⟨rfl, rfl, rfl, rfl⟩
  | some definition =>
    dsimp only
    split <;> exact ⟨rfl, rfl, rfl, rfl⟩

theorem writeDraft_rewrites {patch : UpdateFlowDraftInput} (held : Holds tables existing)
    (found : tables.flowVersions.find? versionId = some version) (within : version.workspaceId = existing.workspaceId)
    (owned : version.flowId = existing.id) (unstamped : version.publishedAt = none) :
    Rewrites tables (writeFlow (writeDefinition tables existing.workspaceId versionId patch.definition)
        (updatedFlow existing patch versionId)) existing.id versionId
      { updatedFlow existing patch versionId with enrollCursor := existing.enrollCursor }
      { version with definition := patch.definition.getD version.definition } := by
  obtain ⟨keyed, sameWorkspace, _, _⟩ := updatedFlow_pointers existing patch versionId
  have flows : (writeDefinition tables existing.workspaceId versionId patch.definition).flows = tables.flows := by
    cases patch.definition <;> rfl
  constructor
  · intro id
    have written := @writeFlow_find existing.id (updatedFlow existing patch versionId)
      (writeDefinition tables existing.workspaceId versionId patch.definition) existing
      (by rw [flows]; exact held) keyed sameWorkspace.symm id
    rw [flows] at written
    exact written
  · intro id
    exact writeDefinition_find found within id
  · unfold writeDefinition
    cases patch.definition <;> rfl
  · unfold writeDefinition
    cases patch.definition <;> rfl
  · intro old stored
    cases found.symm.trans stored
    exact ⟨unstamped, owned⟩
  · exact owned

inductive Redrafts (tables : FlowTables) (existing : FlowRow) (patch : UpdateFlowDraftInput) : DraftRead →
    FlowVersionId → FlowVersionRow → Prop where
  | existing {versionId : FlowVersionId} {version : FlowVersionRow} :
      tables.flowVersions.find? versionId = some version → existing.draftVersionId = some versionId →
      Redrafts tables existing patch (.existing versionId) versionId
        { version with definition := patch.definition.getD version.definition }
  | copied {versionNumber : Nat} {definition : FlowDefinition} {versionId : FlowVersionId} :
      tables.flowVersions.find? versionId = none →
      Redrafts tables existing patch (.copied versionNumber definition) versionId
        { id := versionId, workspaceId := existing.workspaceId, flowId := existing.id, versionNumber
          definition := patch.definition.getD definition }

theorem updateFlowDraft_rewrites {patch : UpdateFlowDraftInput} {read : DraftRead} (holds : Versioned tables)
    (held : Holds tables existing) (drafted : ∀ id, read = .existing id → existing.draftVersionId = some id)
    (written : updateFlowDraft tables existing patch read versionId = some after) :
    ∃ id version, Redrafts tables existing patch read id version ∧ version.publishedAt = none ∧
      version.workspaceId = existing.workspaceId ∧
      Rewrites tables after existing.id id
        { updatedFlow existing patch id with enrollCursor := existing.enrollCursor } version := by
  cases read with
  | existing id =>
    cases written
    have pointed := drafted id rfl
    obtain ⟨row, stored, owned, within, unstamped⟩ := holds.draft existing.id existing id held pointed
    exact ⟨id, _, .existing stored pointed, unstamped, within,
      @writeDraft_rewrites _ _ _ _ patch held stored within owned unstamped⟩
  | copied versionNumber definition =>
    obtain ⟨middle, inserted, rfl⟩ := Option.map_eq_some_iff.mp written
    obtain ⟨fresh, flows, runs, steps, versions⟩ := insertVersion_find inserted
    have stored := versions versionId
    rw [if_pos rfl] at stored
    have rewrites := @writeDraft_rewrites _ _ _ _ patch (by rw [Holds, flows]; exact held) stored rfl rfl rfl
    refine ⟨versionId, _, .copied fresh, rfl, rfl, ?_⟩
    constructor
    · intro id
      rw [rewrites.flows, flows]
    · intro id
      rw [rewrites.versions]
      by_cases same : id = versionId
      · simp only [if_pos same]
      · rw [if_neg same, if_neg same, versions, if_neg same]
    · exact rewrites.runs.trans runs
    · exact rewrites.steps.trans steps
    · intro old found
      rw [fresh] at found
      cases found
    · rfl

theorem updateFlowDraft_versioned {patch : UpdateFlowDraftInput} {read : DraftRead} (holds : Versioned tables)
    (held : Holds tables existing) (drafted : ∀ id, read = .existing id → existing.draftVersionId = some id)
    (written : updateFlowDraft tables existing patch read versionId = some after) :
    Versioned after ∧ KeepsPublished tables after ∧ after.flowRuns = tables.flowRuns := by
  obtain ⟨id, version, _, unstamped, within, rewrites⟩ := updateFlowDraft_rewrites holds held drafted written
  obtain ⟨_, sameWorkspace, draft, live⟩ := updatedFlow_pointers existing patch id
  refine ⟨rewrites.versioned holds ?_ ?_, rewrites.keepsPublished, rewrites.runs⟩
  · intro other pointed
    cases draft.symm.trans pointed
    exact ⟨rfl, within.trans sameWorkspace.symm, unstamped⟩
  · intro other pointed
    obtain ⟨row, stored, mine, published⟩ := holds.live existing.id existing other held (live.symm.trans pointed)
    exact .inr ⟨row, stored, mine, published⟩

theorem publishFlow_rewrites {now : Timestamp} {members : SegmentId → Option (List ContactId)} {read : PublishRead}
    {enrollExisting : Bool} (held : Holds tables existing)
    (stored : tables.flowVersions.find? read.draftVersionId = some version)
    (within : version.workspaceId = existing.workspaceId) (owned : version.flowId = existing.id)
    (unstamped : version.publishedAt = none) :
    Rewrites tables (publishFlow now members tables existing read enrollExisting) existing.id read.draftVersionId
      { publishedFlow existing read with enrollCursor := existing.enrollCursor }
      { version with publishedAt := some now } := by
  have base : ∀ after : FlowTables,
      after.flows = (writeFlow (snapshotDraftToVersion now tables existing.workspaceId read.draftVersionId)
        (publishedFlow existing read)).flows →
      after.flowVersions =
        (snapshotDraftToVersion now tables existing.workspaceId read.draftVersionId).flowVersions →
      after.flowRuns = tables.flowRuns → after.flowRunSteps = tables.flowRunSteps →
      Rewrites tables after existing.id read.draftVersionId
        { publishedFlow existing read with enrollCursor := existing.enrollCursor }
        { version with publishedAt := some now } := by
    intro after flows versions runs steps
    constructor
    · intro id
      rw [flows]
      exact @writeFlow_find existing.id (publishedFlow existing read)
        (snapshotDraftToVersion now tables existing.workspaceId read.draftVersionId) existing held rfl rfl id
    · intro id
      rw [versions]
      exact @update_version_find _ _ _ (fun version => { version with publishedAt := some now }) (fun _ => rfl) _
        stored within id
    · exact runs
    · exact steps
    · intro old found
      cases stored.symm.trans found
      exact ⟨unstamped, owned⟩
    · exact owned
  unfold publishFlow
  dsimp only
  split
  · exact base _ rfl rfl rfl rfl
  · exact base _ rfl rfl rfl rfl

theorem publishFlow_versioned {now : Timestamp} {members : SegmentId → Option (List ContactId)} {read : PublishRead}
    {enrollExisting : Bool} (holds : Versioned tables) (held : Holds tables existing)
    (drafted : existing.draftVersionId = some read.draftVersionId) :
    Versioned (publishFlow now members tables existing read enrollExisting) ∧
      KeepsPublished tables (publishFlow now members tables existing read enrollExisting) ∧
      (publishFlow now members tables existing read enrollExisting).flowRuns = tables.flowRuns := by
  obtain ⟨version, stored, owned, within, unstamped⟩ := holds.draft existing.id existing _ held drafted
  have rewrites := @publishFlow_rewrites _ _ _ now members read enrollExisting held stored within owned unstamped
  refine ⟨rewrites.versioned holds ?_ ?_, rewrites.keepsPublished, rewrites.runs⟩
  · intro id pointed
    cases pointed
  · intro id pointed
    cases pointed
    exact .inl ⟨rfl, rfl⟩

theorem writeStatus_versioned {status : FlowStatus} (holds : Versioned tables) (held : Holds tables existing) :
    Versioned (writeFlow tables { existing with status }) ∧
      KeepsPublished tables (writeFlow tables { existing with status }) ∧
      (writeFlow tables { existing with status }).flowRuns = tables.flowRuns := by
  have written := @writeFlow_find existing.id { existing with status } tables existing held rfl rfl
  have same : ∀ id row, (writeFlow tables { existing with status }).flows.find? id = some row →
      ∃ old, tables.flows.find? id = some old ∧ row.draftVersionId = old.draftVersionId ∧
        row.liveVersionId = old.liveVersionId ∧ row.workspaceId = old.workspaceId := by
    intro id row found
    rw [written] at found
    split at found
    · next keyed =>
      cases found
      exact ⟨existing, keyed ▸ held, rfl, rfl, rfl⟩
    · exact ⟨row, found, rfl, rfl, rfl⟩
  refine ⟨?_, fun id row found _ => found, rfl⟩
  constructor
  · intro id row draftId found pointed
    obtain ⟨old, stored, draft, _, within⟩ := same id row found
    rw [within]
    exact holds.draft id old draftId stored (draft ▸ pointed)
  · intro id row liveId found pointed
    obtain ⟨old, stored, _, live, _⟩ := same id row found
    exact holds.live id old liveId stored (live ▸ pointed)
  · exact holds.runs
  · exact holds.steps

theorem versioned_of_runs (holds : Versioned before) (flows : after.flows = before.flows)
    (versions : after.flowVersions = before.flowVersions) (pins : KeepsPins before after)
    (runs : ∀ runId run, after.flowRuns.find? runId = some run →
      ∃ version, before.flowVersions.find? run.flowVersionId = some version ∧ version.publishedAt.isSome)
    (steps : ∀ step ∈ after.flowRunSteps, step ∈ before.flowRunSteps ∨
      ∃ run version, after.flowRuns.find? step.flowRunId = some run ∧
        before.flowVersions.find? run.flowVersionId = some version ∧
        ∃ node ∈ version.definition.nodes, node.id = step.nodeId) : Versioned after := by
  constructor
  · rw [flows, versions]
    exact holds.draft
  · rw [flows, versions]
    exact holds.live
  · rw [versions]
    exact runs
  · intro step member
    rw [versions]
    rcases steps step member with old | new
    · obtain ⟨run, version, found, stored, executed⟩ := holds.steps step old
      obtain ⟨later, kept, same⟩ := pins _ run found
      exact ⟨later, version, kept, by rw [same]; exact stored, executed⟩
    · exact new

theorem insertRun_find {run : FlowRunRow} (id : FlowRunId) :
    (tables.insertRun run).flowRuns.find? id = tables.flowRuns.find? id ∨
      (tables.flowRuns.find? id = none ∧ (tables.insertRun run).flowRuns.find? id = some run) := by
  unfold FlowTables.insertRun
  split
  · exact .inl rfl
  · rw [Table.find?_insert]
    cases found : tables.flowRuns.find? id with
    | some row => exact .inl rfl
    | none =>
      by_cases same : run.id = id
      · exact .inr ⟨rfl, by simp [same]⟩
      · exact .inl (by simp [same])

theorem insertRun_pins {run : FlowRunRow} : KeepsPins tables (tables.insertRun run) := by
  intro id row found
  rcases @insertRun_find tables run id with same | ⟨missing, _⟩
  · exact ⟨row, same.trans found, rfl⟩
  · rw [missing] at found
    cases found

theorem insertRun_versioned {run : FlowRunRow} (holds : Versioned tables)
    (pinned : tables.flowVersions.find? run.flowVersionId = some version) (published : version.publishedAt.isSome) :
    Versioned (tables.insertRun run) := by
  have kept : (tables.insertRun run).flows = tables.flows ∧
      (tables.insertRun run).flowVersions = tables.flowVersions ∧
      (tables.insertRun run).flowRunSteps = tables.flowRunSteps := by
    unfold FlowTables.insertRun
    split <;> exact ⟨rfl, rfl, rfl⟩
  apply versioned_of_runs holds kept.1 kept.2.1 insertRun_pins
  · intro id row found
    rcases @insertRun_find tables run id with same | ⟨_, inserted⟩
    · exact holds.runs id row (same.symm.trans found)
    · cases inserted.symm.trans found
      exact ⟨version, pinned, published⟩
  · intro step member
    rw [kept.2.2] at member
    exact .inl member

theorem advanceStored_versioned {seen : Observed} {workspaceId : WorkspaceId} {flowRunId : FlowRunId}
    (holds : Versioned tables) (advanced : advanceStored seen tables workspaceId flowRunId = .ok after) :
    Versioned after ∧ after.flows = tables.flows ∧ after.flowVersions = tables.flowVersions ∧ KeepsPins tables after := by
  rcases advanceStored_cases advanced with rfl | ⟨run, result, stored, executes, found, rfl⟩
  · exact ⟨holds, rfl, rfl, fun id row found => ⟨row, found, rfl⟩⟩
  · obtain ⟨version, pinned, published⟩ := holds.runs flowRunId run stored
    have pins : KeepsPins tables { tables with
        flowRuns := tables.flowRuns.put result.run
        flowRunSteps := tables.flowRunSteps ++ result.step.toList } := by
      intro id row before
      by_cases same : id = flowRunId
      · subst same
        cases stored.symm.trans before
        exact ⟨result.run, by rw [found, if_pos rfl], executes.version⟩
      · exact ⟨row, by rw [found, if_neg same]; exact before, rfl⟩
    refine ⟨?_, rfl, rfl, pins⟩
    refine versioned_of_runs holds ?_ ?_ pins ?_ ?_
    · rfl
    · rfl
    · intro id row after
      rw [found] at after
      split at after
      · cases after
        rw [executes.version]
        exact ⟨version, pinned, published⟩
      · exact holds.runs id row after
    · intro step member
      rcases List.mem_append.mp member with old | new
      · exact .inl old
      · obtain ⟨mine, _, definition, read, executed⟩ := executes.step step (Option.mem_toList.mp new)
        refine .inr ⟨result.run, version, ?_, by rw [executes.version]; exact pinned, ?_⟩
        · rw [found, if_pos (mine.trans (Table.key_of_find? stored))]
        · have same : definition = version.definition := by
            simp only [FlowTables.definitionOf, FlowTables.version?, Option.bind_some, pinned, Option.map_eq_some_iff,
              Option.filter_eq_some_iff] at read
            obtain ⟨row, ⟨chosen, _⟩, rfl⟩ := read
            cases chosen
            rfl
          rw [← same]
          exact executed

end Changes

end LocalCrm.Flows
