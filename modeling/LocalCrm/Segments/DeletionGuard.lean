import LocalCrm.Segments.References

/-! A deleted segment and the references to it. -/

set_option autoImplicit false

namespace LocalCrm.Segments

open Library Flows Campaigns

structure Written where
  workspaceId : WorkspaceId
  definition : Option FlowDefinition := none
  exitConditions : Option (List FlowExitCondition) := none
  trigger : Option SegmentId := none
  campaign : Option SegmentId := none

section Conditions

variable (uuid : SegmentId → SegmentId)

def writtenDefinition (patch : UpdateFlowDraftInput) : DraftRead → Option FlowDefinition
  | .existing _ => patch.definition
  | .copied _ definition => some (patch.definition.getD definition)

def writtenBySession (session : Session) : Option Written :=
  match session with
  | .creating workspaceId _ _ =>
    some { workspaceId, definition := some emptyDefinition, exitConditions := some [] }
  | .writingDraft existing patch read =>
    some
      { workspaceId := existing.workspaceId, definition := writtenDefinition patch read
        exitConditions := patch.exitConditions, trigger := storedTrigger uuid session }
  | .writingPublish existing _ _ =>
    some { workspaceId := existing.workspaceId, trigger := storedTrigger uuid session }
  | .writingCopy existing _ definition =>
    some
      { workspaceId := existing.workspaceId, definition := some definition
        exitConditions := some existing.exitConditions, trigger := storedTrigger uuid session }
  | .idle | .updating _ _ | .publishing _ _ | .pausing _ | .resuming _ | .copying _ _ | .entering _ _ _ => none

def CampaignCall.workspaceId : CampaignCall → WorkspaceId
  | .creating workspaceId _ => workspaceId
  | .copying existing => existing.workspaceId
  | .editing workspaceId _ _ => workspaceId

def Client.written (store : SegmentStore) : Client → Option Written
  | .flow session => writtenBySession uuid session
  | .campaign call =>
    some { workspaceId := call.workspaceId, campaign := call.storedSegment uuid store.campaigns }
  | .deletion _ _ _ => none

def DeletionStage.checkedCampaigns : DeletionStage → Bool
  | .checkingFlows | .checkingVersions | .deleting | .done _ => true
  | .checkingCampaigns | .recheckingFlows | .recheckingVersions | .refused _ => false

def DeletionStage.checkedFlows : DeletionStage → Bool
  | .checkingVersions | .deleting | .done _ => true
  | .checkingCampaigns | .checkingFlows | .recheckingFlows | .recheckingVersions | .refused _ => false

def DeletionStage.checkedVersions : DeletionStage → Bool
  | .deleting | .done _ => true
  | .checkingCampaigns | .checkingFlows | .checkingVersions | .recheckingFlows | .recheckingVersions |
    .refused _ => false

def names (segmentId text : SegmentId) : Bool := uuid text == uuid segmentId

def SegmentStore.foreign (store : SegmentStore) (workspaceId : WorkspaceId) (segmentId : SegmentId) : Bool :=
  (store.segments.find? (uuid segmentId)).any (·.workspaceId != workspaceId)

/-- The commit stores a reference where the deletion has already looked and the foreign keys do not. -/
def Written.slipsPast (written : Written) (foreign : Bool) (workspaceId : WorkspaceId) (segmentId : SegmentId)
    (stage : DeletionStage) : Bool :=
  written.workspaceId == workspaceId &&
    (stage.checkedVersions && written.definition.any (·.mentions (names uuid segmentId)) ||
      stage.checkedFlows && written.exitConditions.any (exitsMention · (names uuid segmentId)) ||
      foreign && stage.checkedFlows && written.trigger.any (names uuid segmentId) ||
      foreign && stage.checkedCampaigns && written.campaign.any (names uuid segmentId))

/-- Every text that a check compares and that names the segment is spelled as the check spells it. -/
def spelledAlike (tables : FlowTables) (workspaceId : WorkspaceId) (segmentId : SegmentId) : DeletionStage → Prop
  | .checkingFlows => ∀ flow ∈ tables.flows.rows, flow.workspaceId = workspaceId →
      ∀ condition ∈ flow.exitConditions, ∀ text, condition.segmentId = some text →
        names uuid segmentId text = true → text = uuid segmentId
  | .checkingVersions => ∀ version ∈ tables.flowVersions.rows, version.workspaceId = workspaceId →
      ∀ node ∈ version.definition.nodes, ∀ text, node.config.segmentId = some text →
        names uuid segmentId text = true → text = segmentId
  | .checkingCampaigns | .deleting | .recheckingFlows | .recheckingVersions | .refused _ | .done _ => True

def ClientTurn.commits : ClientTurn → Bool
  | .flow (.commit _) | .commit _ _ => true
  | .flow (.start _ _) | .flow .read | .flow .rollback | .startCampaign _ _ | .startDeletion _ _ | .refer |
    .statement | .rollback => false

/-- No commit slips past a deletion, and the checks read ids as they are spelled. -/
structure Guarded (threads : ClientThreads) (turn : Turn ClientTurn EngineEvent) : Prop where
  commits : ∀ id choice written other workspaceId segmentId stage, turn = .thread id choice →
    choice.commits = true → (threads.own id).written uuid threads.shared = some written →
    threads.own other = .deletion workspaceId segmentId stage →
    written.slipsPast uuid (threads.shared.foreign uuid workspaceId segmentId) workspaceId segmentId stage = false
  reads : ∀ id workspaceId segmentId stage, turn = .thread id .statement →
    threads.own id = .deletion workspaceId segmentId stage →
    spelledAlike uuid threads.shared.flows.tables workspaceId segmentId stage

/-- No node, trigger or exit condition and no campaign that is not canceled refers to the segment. -/
structure Unreferenced (store : SegmentStore) (workspaceId : WorkspaceId) (segmentId : SegmentId) : Prop where
  nodes : ∀ version ∈ store.flows.tables.flowVersions.rows, version.workspaceId = workspaceId →
    version.definition.mentions (names uuid segmentId) = false
  exits : ∀ flow ∈ store.flows.tables.flows.rows, flow.workspaceId = workspaceId →
    exitsMention flow.exitConditions (names uuid segmentId) = false
  triggers : ∀ flow ∈ store.flows.tables.flows.rows, flow.workspaceId = workspaceId →
    flow.triggerSegmentId.any (names uuid segmentId) = false
  campaigns : ∀ campaign ∈ store.campaigns.rows, campaign.workspaceId = workspaceId →
    campaign.status ≠ .canceled → names uuid segmentId campaign.segmentId = false

def DeletesUnreferenced (threads : ClientThreads) (turn : Turn ClientTurn EngineEvent) (next : ClientThreads) : Prop :=
  ∀ id now newId workspaceId segmentId deleted, turn = .thread id (.commit now newId) →
    threads.own id = .deletion workspaceId segmentId (.done deleted) →
    Unreferenced uuid next.shared workspaceId segmentId

end Conditions

section Knowledge

variable (uuid : SegmentId → SegmentId)

def VersionsOwned (tables : FlowTables) : Prop :=
  ∀ versionId version, tables.flowVersions.find? versionId = some version →
    ∃ flow, tables.flows.find? version.flowId = some flow ∧ flow.workspaceId = version.workspaceId

structure DeletionKnows (id : Nat) (store : SegmentStore) (workspaceId : WorkspaceId) (segmentId : SegmentId)
    (stage : DeletionStage) : Prop where
  campaigns : stage.checkedCampaigns = true → store.foreign uuid workspaceId segmentId = true →
    ∀ campaign ∈ store.campaigns.rows, campaign.workspaceId = workspaceId → campaign.status ≠ .canceled →
      names uuid segmentId campaign.segmentId = false
  triggers : stage.checkedFlows = true → store.foreign uuid workspaceId segmentId = true →
    ∀ flow ∈ store.flows.tables.flows.rows, flow.workspaceId = workspaceId →
      flow.triggerSegmentId.any (names uuid segmentId) = false
  exits : stage.checkedFlows = true → ∀ flow ∈ store.flows.tables.flows.rows, flow.workspaceId = workspaceId →
    exitsMention flow.exitConditions (names uuid segmentId) = false
  nodes : stage.checkedVersions = true → ∀ version ∈ store.flows.tables.flowVersions.rows,
    version.workspaceId = workspaceId → version.definition.mentions (names uuid segmentId) = false
  absent : stage = .done false → store.owns workspaceId (uuid segmentId) = false
  removed : stage = .done true → store.locks.removing (uuid segmentId) = some id

def ClientKnows (id : Nat) (store : SegmentStore) : Client → Prop
  | .flow session => Knows id store.flows session
  | .campaign _ => True
  | .deletion workspaceId segmentId stage => DeletionKnows uuid id store workspaceId segmentId stage

def NodesFrom (before : FlowTables) (stored : Option Written) (version : FlowVersionRow) : Prop :=
  (∃ old ∈ before.flowVersions.rows, old.workspaceId = version.workspaceId ∧ old.definition = version.definition) ∨
    ∃ written, stored = some written ∧ written.workspaceId = version.workspaceId ∧
      written.definition = some version.definition

def ExitsFrom (before : FlowTables) (stored : Option Written) (flow : FlowRow) : Prop :=
  (∃ old ∈ before.flows.rows, old.workspaceId = flow.workspaceId ∧ old.exitConditions = flow.exitConditions) ∨
    ∃ written, stored = some written ∧ written.workspaceId = flow.workspaceId ∧
      written.exitConditions = some flow.exitConditions

def TriggerFrom (before : FlowTables) (stored : Option Written) (flow : FlowRow) : Prop :=
  ∀ text, flow.triggerSegmentId = some text →
    (∃ old ∈ before.flows.rows, old.workspaceId = flow.workspaceId ∧
      old.triggerSegmentId.any (names uuid text) = true) ∨
    ∃ written, stored = some written ∧ written.workspaceId = flow.workspaceId ∧ written.trigger = some text

structure AddsFlows (before : FlowTables) (stored : Option Written) (after : FlowTables) : Prop where
  nodes : ∀ version ∈ after.flowVersions.rows, NodesFrom before stored version
  exits : ∀ flow ∈ after.flows.rows, ExitsFrom before stored flow
  triggers : ∀ flow ∈ after.flows.rows, TriggerFrom uuid before stored flow

def CampaignFrom (campaigns : Campaigns) (stored : Option Written)
    (campaign : Campaign) : Prop :=
  (∃ old ∈ campaigns.rows, old.workspaceId = campaign.workspaceId ∧ uuid old.segmentId = uuid campaign.segmentId ∧
      (old.status = .canceled → campaign.status = .canceled)) ∨
    ∃ written, stored = some written ∧ written.workspaceId = campaign.workspaceId ∧
      written.campaign = some campaign.segmentId

structure Adds (id : Nat) (store : SegmentStore) (stored : Option Written) (next : SegmentStore) : Prop where
  segments : ∀ key row, next.segments.find? key = some row → store.segments.find? key = some row
  removing : ∀ key other, other ≠ id → store.locks.removing key = some other → next.locks.removing key = some other
  flows : AddsFlows uuid store.flows.tables stored next.flows.tables
  campaigns : ∀ campaign ∈ next.campaigns.rows, CampaignFrom uuid store.campaigns stored campaign

end Knowledge

section Steps

variable {uuid : SegmentId → SegmentId} {id other : Nat} {store next : SegmentStore} {client after : Client}
  {stored : Option Written} {workspaceId : WorkspaceId} {segmentId : SegmentId} {stage : DeletionStage}

theorem names_trans {text middle : SegmentId} (same : names uuid text middle = true) :
    names uuid segmentId middle = names uuid segmentId text := by
  unfold names at same ⊢
  rw [beq_iff_eq.mp same]

theorem any_false_of_names {held : Option SegmentId} {text : SegmentId}
    (none : held.any (names uuid segmentId) = false) (same : held.any (names uuid text) = true) :
    names uuid segmentId text = false := by
  obtain ⟨middle, rfl, named⟩ := (Option.any_eq_true _ _).mp same
  rw [← names_trans named]
  exact none

theorem unslipped {written : Written} {foreign : Bool} (owned : written.workspaceId = workspaceId)
    (spared : written.slipsPast uuid foreign workspaceId segmentId stage = false) :
    (stage.checkedVersions = true → written.definition.any (·.mentions (names uuid segmentId)) = false) ∧
    (stage.checkedFlows = true → written.exitConditions.any (exitsMention · (names uuid segmentId)) = false) ∧
    (foreign = true → stage.checkedFlows = true → written.trigger.any (names uuid segmentId) = false) ∧
    (foreign = true → stage.checkedCampaigns = true → written.campaign.any (names uuid segmentId) = false) := by
  simp only [Written.slipsPast, owned, beq_self_eq_true, Bool.true_and, Bool.or_eq_false_iff] at spared
  obtain ⟨⟨⟨nodes, exits⟩, trigger⟩, campaign⟩ := spared
  refine ⟨fun checked => ?_, fun checked => ?_, fun elsewhere checked => ?_, fun elsewhere checked => ?_⟩
  · simpa only [checked, Bool.true_and] using nodes
  · simpa only [checked, Bool.true_and] using exits
  · simpa only [elsewhere, checked, Bool.true_and] using trigger
  · simpa only [elsewhere, checked, Bool.true_and] using campaign

theorem deletionKnows_stable (knows : DeletionKnows uuid other store workspaceId segmentId stage)
    (adds : Adds uuid id store stored next) (differs : other ≠ id)
    (spared : ∀ written, stored = some written →
      written.slipsPast uuid (store.foreign uuid workspaceId segmentId) workspaceId segmentId stage = false) :
    DeletionKnows uuid other next workspaceId segmentId stage := by
  have foreign : next.foreign uuid workspaceId segmentId = true → store.foreign uuid workspaceId segmentId = true := by
    intro elsewhere
    obtain ⟨row, found, away⟩ := (Option.any_eq_true _ _).mp elsewhere
    exact (Option.any_eq_true _ _).mpr ⟨row, adds.segments _ row found, away⟩
  constructor
  · intro checked elsewhere campaign member owned live
    rcases adds.campaigns campaign member with ⟨old, kept, same, key, canceled⟩ | ⟨written, storing, same, holds⟩
    · have before := knows.campaigns checked (foreign elsewhere) old kept (same.trans owned) (mt canceled live)
      unfold names at before ⊢
      rw [← key]
      exact before
    · have slips := (unslipped (same.trans owned) (spared written storing)).2.2.2 (foreign elsewhere) checked
      rwa [holds] at slips
  · intro checked elsewhere flow member owned
    cases trigger : flow.triggerSegmentId with
    | none => rfl
    | some text =>
      rcases adds.flows.triggers flow member text trigger with ⟨old, kept, same, key⟩ | ⟨written, storing, same, holds⟩
      · exact any_false_of_names (knows.triggers checked (foreign elsewhere) old kept (same.trans owned)) key
      · have slips := (unslipped (same.trans owned) (spared written storing)).2.2.1 (foreign elsewhere) checked
        rwa [holds] at slips
  · intro checked flow member owned
    rcases adds.flows.exits flow member with ⟨old, kept, same, key⟩ | ⟨written, storing, same, holds⟩
    · rw [← key]
      exact knows.exits checked old kept (same.trans owned)
    · have slips := (unslipped (same.trans owned) (spared written storing)).2.1 checked
      rwa [holds] at slips
  · intro checked version member owned
    rcases adds.flows.nodes version member with ⟨old, kept, same, key⟩ | ⟨written, storing, same, holds⟩
    · rw [← key]
      exact knows.nodes checked old kept (same.trans owned)
    · have slips := (unslipped (same.trans owned) (spared written storing)).1 checked
      rwa [holds] at slips
  · intro finished
    rw [← Bool.not_eq_true]
    intro owned
    obtain ⟨row, found, mine⟩ := (Option.any_eq_true _ _).mp owned
    have before := knows.absent finished
    rw [SegmentStore.owns, adds.segments _ row found, Option.any_some, mine] at before
    cases before
  · intro finished
    exact adds.removing _ other differs (knows.removed finished)

inductive Stated (uuid : SegmentId → SegmentId) (id : Nat) (store : SegmentStore) (workspaceId : WorkspaceId)
    (segmentId : SegmentId) : DeletionStage → SegmentStore → DeletionStage → Prop where
  | campaigns : referencingCampaign uuid store.campaigns workspaceId segmentId = none →
      Stated uuid id store workspaceId segmentId .checkingCampaigns store .checkingFlows
  | flows : directFlow uuid store.flows.tables workspaceId segmentId = none →
      Stated uuid id store workspaceId segmentId .checkingFlows store .checkingVersions
  | versions : versionFlow store.flows.tables workspaceId segmentId = none →
      Stated uuid id store workspaceId segmentId .checkingVersions store .deleting
  | absent : store.owns workspaceId (uuid segmentId) = false →
      Stated uuid id store workspaceId segmentId .deleting store (.done false)
  | removed {locks : KeyLocks SegmentId} :
      store.locks.remove (store.owns workspaceId (uuid segmentId)) (store.referenced uuid) id (uuid segmentId) =
        some (.removed locks) →
      Stated uuid id store workspaceId segmentId .deleting { store with locks } (.done true)
  | lost {stage after : DeletionStage} : after.checkedCampaigns = false →
      Stated uuid id store workspaceId segmentId stage store after

theorem stated_of_statement {ended : DeletionStage}
    (stepped : deletionStatement uuid id store workspaceId segmentId stage = some (next, ended)) :
    Stated uuid id store workspaceId segmentId stage next ended := by
  cases stage with
  | checkingCampaigns =>
    simp only [deletionStatement] at stepped
    split at stepped
    · cases stepped
      exact .lost rfl
    · next clear =>
      cases stepped
      exact .campaigns clear
  | checkingFlows =>
    simp only [deletionStatement] at stepped
    split at stepped
    · cases stepped
      exact .lost rfl
    · next clear =>
      cases stepped
      exact .flows clear
  | checkingVersions =>
    simp only [deletionStatement] at stepped
    split at stepped
    · cases stepped
      exact .lost rfl
    · next clear =>
      cases stepped
      exact .versions clear
  | deleting =>
    obtain ⟨outcome, deleted, result⟩ := Option.map_eq_some_iff.mp stepped
    cases outcome with
    | absent =>
      cases result
      exact .absent (KeyLocks.remove_absent deleted)
    | restricted =>
      cases result
      exact .lost rfl
    | removed locks =>
      cases result
      exact .removed deleted
  | recheckingFlows | recheckingVersions =>
    simp only [deletionStatement] at stepped
    split at stepped <;> cases stepped <;> exact .lost rfl
  | refused | done => cases stepped

theorem referencingCampaign_none (clear : referencingCampaign uuid store.campaigns workspaceId segmentId = none)
    {campaign : Campaign} (member : campaign ∈ store.campaigns.rows) (owned : campaign.workspaceId = workspaceId)
    (live : campaign.status ≠ .canceled) : names uuid segmentId campaign.segmentId = false := by
  have unnamed := List.find?_eq_none.mp clear campaign member
  simpa [owned, live, names] using unnamed

theorem directFlow_none (clear : directFlow uuid store.flows.tables workspaceId segmentId = none) {flow : FlowRow}
    (member : flow ∈ store.flows.tables.flows.rows) (owned : flow.workspaceId = workspaceId) :
    flow.triggerSegmentId.any (names uuid segmentId) = false ∧
      exitsMention flow.exitConditions (· == uuid segmentId) = false := by
  have unnamed := List.find?_eq_none.mp clear flow member
  rw [owned, beq_self_eq_true, Bool.true_and, Bool.not_eq_true, Bool.or_eq_false_iff] at unnamed
  exact unnamed

theorem versionFlow_none (owned : VersionsOwned store.flows.tables)
    (clear : versionFlow store.flows.tables workspaceId segmentId = none) {version : FlowVersionRow}
    (member : version ∈ store.flows.tables.flowVersions.rows) (within : version.workspaceId = workspaceId) :
    version.definition.mentions (· == segmentId) = false := by
  have unnamed := List.findSome?_eq_none_iff.mp clear version member
  obtain ⟨flow, found, _⟩ := owned version.id version (Table.find?_of_mem member)
  rw [found, within, beq_self_eq_true, Bool.true_and] at unnamed
  rw [← Bool.not_eq_true]
  intro mentioned
  rw [if_pos mentioned] at unnamed
  cases unnamed

theorem any_names_of_spelled {Item : Type} {items : List Item} {segmentIdOf : Item → Option SegmentId}
    {spelling : SegmentId} (spelled : ∀ item ∈ items, ∀ text, segmentIdOf item = some text →
      names uuid segmentId text = true → text = spelling)
    (none : (items.any fun item => (segmentIdOf item).any (· == spelling)) = false) :
    (items.any fun item => (segmentIdOf item).any (names uuid segmentId)) = false := by
  rw [← Bool.not_eq_true]
  intro mentioned
  obtain ⟨item, member, named⟩ := List.any_eq_true.mp mentioned
  obtain ⟨text, holds, named⟩ := (Option.any_eq_true _ _).mp named
  have unnamed := List.any_eq_false.mp none item member
  rw [holds, spelled item member text holds named] at unnamed
  exact unnamed (beq_self_eq_true spelling)

theorem deletionKnows_lost (lost : stage.checkedCampaigns = false) :
    DeletionKnows uuid id store workspaceId segmentId stage := by
  have past : stage.checkedFlows = false ∧ stage.checkedVersions = false ∧ stage ≠ .done false ∧
      stage ≠ .done true := by
    cases stage with
    | checkingCampaigns | recheckingFlows | recheckingVersions | refused _ => exact ⟨rfl, rfl, by simp, by simp⟩
    | checkingFlows | checkingVersions | deleting | done _ => cases lost
  obtain ⟨flows, versions, absent, removed⟩ := past
  have unchecked : ∀ {check : Bool}, check = false → check ≠ true := by
    rintro check rfl
    exact Bool.false_ne_true
  exact ⟨fun checked => absurd checked (unchecked lost), fun checked => absurd checked (unchecked flows),
    fun checked => absurd checked (unchecked flows), fun checked => absurd checked (unchecked versions),
    fun same => absurd same absent, fun same => absurd same removed⟩

theorem stated_knows {ended : DeletionStage} (owned : VersionsOwned store.flows.tables)
    (knows : DeletionKnows uuid id store workspaceId segmentId stage)
    (spelled : spelledAlike uuid store.flows.tables workspaceId segmentId stage)
    (stated : Stated uuid id store workspaceId segmentId stage next ended) :
    DeletionKnows uuid id next workspaceId segmentId ended := by
  cases stated with
  | campaigns clear =>
    exact ⟨fun _ _ campaign member within live => referencingCampaign_none clear member within live,
      fun checked => (by cases checked), fun checked => (by cases checked), fun checked => (by cases checked),
      fun same => (by cases same), fun same => (by cases same)⟩
  | flows clear =>
    refine ⟨fun _ => knows.campaigns rfl, ?_, ?_, fun checked => (by cases checked), fun same => (by cases same),
      fun same => (by cases same)⟩
    · intro _ _ flow member within
      exact (directFlow_none clear member within).1
    · intro _ flow member within
      exact any_names_of_spelled (spelled flow member within) (directFlow_none clear member within).2
  | versions clear =>
    refine ⟨fun _ => knows.campaigns rfl, fun _ => knows.triggers rfl, fun _ => knows.exits rfl, ?_,
      fun same => (by cases same), fun same => (by cases same)⟩
    intro _ version member within
    exact any_names_of_spelled (spelled version member within) (versionFlow_none owned clear member within)
  | absent none =>
    exact ⟨fun _ => knows.campaigns rfl, fun _ => knows.triggers rfl, fun _ => knows.exits rfl,
      fun _ => knows.nodes rfl, fun _ => none, fun same => (by cases same)⟩
  | removed deleted =>
    obtain ⟨_, _, _, _, rfl⟩ := KeyLocks.remove_removed deleted
    exact ⟨fun _ => knows.campaigns rfl, fun _ => knows.triggers rfl, fun _ => knows.exits rfl,
      fun _ => knows.nodes rfl, fun same => (by cases same), fun _ => Function.update_self _ _ _⟩
  | lost refused => exact deletionKnows_lost refused

section Tables

variable {before tables : FlowTables} {session : Session}

theorem nodesFrom_old {version : FlowVersionRow} (member : version ∈ before.flowVersions.rows) :
    NodesFrom before stored version := .inl ⟨version, member, rfl, rfl⟩

theorem exitsFrom_old {flow old : FlowRow} (member : old ∈ before.flows.rows)
    (owner : old.workspaceId = flow.workspaceId) (same : old.exitConditions = flow.exitConditions) :
    ExitsFrom before stored flow := .inl ⟨old, member, owner, same⟩

theorem triggerFrom_old {flow old : FlowRow} (member : old ∈ before.flows.rows)
    (owner : old.workspaceId = flow.workspaceId) (same : old.triggerSegmentId = flow.triggerSegmentId) :
    TriggerFrom uuid before stored flow := by
  intro text holds
  left
  refine ⟨old, member, owner, ?_⟩
  rw [same, holds]
  exact beq_self_eq_true (uuid text)

theorem addsFlows_same (flows : tables.flows = before.flows) (versions : tables.flowVersions = before.flowVersions) :
    AddsFlows uuid before stored tables := by
  constructor
  · intro version member
    exact nodesFrom_old (versions ▸ member)
  · intro flow member
    exact exitsFrom_old (flows ▸ member) rfl rfl
  · intro flow member
    exact triggerFrom_old (flows ▸ member) rfl rfl

theorem addsFlows_of_rewrites {flowId : FlowId} {versionId : FlowVersionId} {flow : FlowRow} {version : FlowVersionRow}
    (rewrites : Rewrites before tables flowId versionId flow version) (nodes : NodesFrom before stored version)
    (exits : ExitsFrom before stored flow) (trigger : TriggerFrom uuid before stored flow) :
    AddsFlows uuid before stored tables := by
  have row : ∀ other ∈ tables.flows.rows, other = flow ∨ other ∈ before.flows.rows := by
    intro other member
    have found := Table.find?_of_mem member
    rw [rewrites.flows] at found
    split at found
    · exact .inl (Option.some.inj found).symm
    · exact .inr (Table.mem_of_find? found)
  constructor
  · intro other member
    have found := Table.find?_of_mem member
    rw [rewrites.versions] at found
    split at found
    · cases found
      exact nodes
    · exact nodesFrom_old (Table.mem_of_find? found)
  · intro other member
    rcases row other member with rfl | old
    · exact exits
    · exact exitsFrom_old old rfl rfl
  · intro other member
    rcases row other member with rfl | old
    · exact trigger
    · exact triggerFrom_old old rfl rfl

theorem triggerFrom_changed {existing flow : FlowRow} {written : Written} (member : existing ∈ before.flows.rows)
    (owner : existing.workspaceId = flow.workspaceId) (storing : stored = some written)
    (within : written.workspaceId = existing.workspaceId)
    (changes : written.trigger = changedTrigger uuid existing flow) :
    TriggerFrom uuid before stored flow := by
  intro text holds
  cases kept : existing.triggerSegmentId.any (names uuid text) with
  | true => exact .inl ⟨existing, member, owner, kept⟩
  | false =>
    refine .inr ⟨written, storing, within.trans owner, ?_⟩
    rw [changes, changedTrigger, holds]
    exact Option.filter_eq_some_iff.mpr ⟨rfl, by rw [Bool.not_eq_true']; exact kept⟩

theorem updatedFlow_trigger {existing : FlowRow} {patch : UpdateFlowDraftInput} (versionId other : FlowVersionId) :
    (updatedFlow existing patch versionId).triggerSegmentId = (updatedFlow existing patch other).triggerSegmentId := by
  unfold updatedFlow
  cases patch.definition with
  | none => rfl
  | some definition =>
    dsimp only
    split <;> rfl

theorem updatedFlow_exits {existing : FlowRow} {patch : UpdateFlowDraftInput} (versionId : FlowVersionId) :
    (updatedFlow existing patch versionId).exitConditions = patch.exitConditions.getD existing.exitConditions := by
  unfold updatedFlow
  cases patch.definition with
  | none => rfl
  | some definition =>
    dsimp only
    split <;> rfl

theorem triggerFrom_none {flow : FlowRow} (none : flow.triggerSegmentId = none) :
    TriggerFrom uuid before stored flow := by
  intro text holds
  rw [none] at holds
  cases holds

theorem committed_adds {flows : Store} {commit : Commit} (ok : StoreOk flows) (knows : Knows id flows session)
    (done : committed flows commit session = some tables) :
    AddsFlows uuid flows.tables (writtenBySession uuid session) tables := by
  have held : ∀ existing, session.holds = some existing → existing ∈ flows.tables.flows.rows := by
    intro existing holding
    exact Table.mem_of_find? (knows.held existing holding).2
  cases session with
  | idle | updating _ _ | publishing _ _ | copying _ _ => cases done
  | creating workspaceId name createdByUserId =>
    exact addsFlows_of_rewrites (insertWithDraft_rewrites done) (.inr ⟨_, rfl, rfl, rfl⟩) (.inr ⟨_, rfl, rfl, rfl⟩)
      (triggerFrom_none rfl)
  | writingDraft existing patch read =>
    obtain ⟨versionId, version, redrafts, _, within, rewrites⟩ := updateFlowDraft_rewrites ok.versioned
      (knows.held existing rfl).2 (fun versionId same => knows.draft existing patch versionId (by rw [same])) done
    obtain ⟨_, owner, _, _⟩ := updatedFlow_pointers existing patch versionId
    apply addsFlows_of_rewrites rewrites
    · cases redrafts with
      | @existing _ old found _ =>
        cases changed : patch.definition with
        | none => exact .inl ⟨old, Table.mem_of_find? found, rfl, rfl⟩
        | some definition => exact .inr ⟨_, rfl, within.symm, changed⟩
      | copied _ => exact .inr ⟨_, rfl, rfl, rfl⟩
    · cases changed : patch.exitConditions with
      | none =>
        apply exitsFrom_old (held existing rfl) owner.symm
        show existing.exitConditions = (updatedFlow existing patch versionId).exitConditions
        rw [updatedFlow_exits, changed]
        rfl
      | some exitConditions =>
        refine .inr ⟨_, rfl, owner.symm, ?_⟩
        show patch.exitConditions = some (updatedFlow existing patch versionId).exitConditions
        rw [updatedFlow_exits, changed]
        rfl
    · apply triggerFrom_changed (held existing rfl) owner.symm rfl rfl
      show changedTrigger uuid existing (updatedFlow existing patch 0) = _
      unfold changedTrigger
      rw [updatedFlow_trigger 0 versionId]
  | writingPublish existing enrollExisting read =>
    cases done
    obtain ⟨version, stored, owned, within, unstamped⟩ := ok.versioned.draft existing.id existing _
      (knows.held existing rfl).2 (knows.publish existing enrollExisting read rfl)
    apply addsFlows_of_rewrites (publishFlow_rewrites (knows.held existing rfl).2 stored within owned unstamped)
    · exact .inl ⟨version, Table.mem_of_find? stored, rfl, rfl⟩
    · exact exitsFrom_old (held existing rfl) rfl rfl
    · exact triggerFrom_changed (held existing rfl) rfl rfl rfl rfl
  | pausing existing | resuming existing =>
    obtain ⟨written, allowed, rfl⟩ := Option.map_eq_some_iff.mp done
    obtain ⟨status, rfl⟩ : ∃ status, written = { existing with status } := by
      first
        | unfold pauseFlow at allowed
        | unfold resumeFlow at allowed
      split at allowed <;> cases allowed
      exact ⟨_, rfl⟩
    have row : ∀ flow ∈ (writeFlow flows.tables { existing with status }).flows.rows,
        flow = { existing with status } ∨ flow ∈ flows.tables.flows.rows := by
      intro flow member
      have found := Table.find?_of_mem member
      rw [writeStatus_find (knows.held existing rfl).2] at found
      split at found
      · exact .inl (Option.some.inj found).symm
      · exact .inr (Table.mem_of_find? found)
    constructor
    · intro version member
      exact nodesFrom_old member
    · intro flow member
      rcases row flow member with rfl | old
      · exact exitsFrom_old (held existing rfl) rfl rfl
      · exact exitsFrom_old old rfl rfl
    · intro flow member
      rcases row flow member with rfl | old
      · exact triggerFrom_old (held existing rfl) rfl rfl
      · exact triggerFrom_old old rfl rfl
  | writingCopy existing createdByUserId definition =>
    apply addsFlows_of_rewrites (insertWithDraft_rewrites done) (.inr ⟨_, rfl, rfl, rfl⟩) (.inr ⟨_, rfl, rfl, rfl⟩)
    intro text holds
    exact .inr ⟨_, rfl, rfl, holds⟩
  | entering flow liveVersionId contactId =>
    cases done
    apply addsFlows_same
    · unfold FlowTables.insertRun
      split <;> rfl
    · unfold FlowTables.insertRun
      split <;> rfl

theorem versionsOwned_of_rewrites {flowId : FlowId} {versionId : FlowVersionId} {flow : FlowRow}
    {version : FlowVersionRow} (rewrites : Rewrites before tables flowId versionId flow version)
    (owned : VersionsOwned before) (within : version.workspaceId = flow.workspaceId)
    (kept : ∀ old, before.flows.find? flowId = some old → old.workspaceId = flow.workspaceId) :
    VersionsOwned tables := by
  intro id row found
  rw [rewrites.versions] at found
  split at found
  · cases found
    exact ⟨flow, by rw [rewrites.owned]; exact rewrites.stored, within.symm⟩
  · obtain ⟨old, stored, same⟩ := owned id row found
    by_cases written : row.flowId = flowId
    · rw [written] at stored
      exact ⟨flow, by rw [written]; exact rewrites.stored, (kept old stored).symm.trans same⟩
    · exact ⟨old, by rw [rewrites.flows, if_neg written]; exact stored, same⟩

theorem committed_owned {flows : Store} {commit : Commit} (ok : StoreOk flows) (knows : Knows id flows session)
    (owned : VersionsOwned flows.tables) (done : committed flows commit session = some tables) :
    VersionsOwned tables := by
  have writes := committed_writes ok knows done
  cases writes with
  | created rewrites first _ | copied rewrites first _ _ =>
    apply versionsOwned_of_rewrites rewrites owned first.workspace
    intro old found
    rw [first.fresh] at found
    cases found
  | @redrafted existing patch read versionId _ _ _ within rewrites =>
    obtain ⟨_, owner, _, _⟩ := updatedFlow_pointers existing patch versionId
    apply versionsOwned_of_rewrites rewrites owned (within.trans owner.symm)
    intro old found
    cases (knows.held existing rfl).2.symm.trans found
    exact owner.symm
  | @published existing _ _ _ _ _ _ within rewrites =>
    apply versionsOwned_of_rewrites rewrites owned within
    intro old found
    cases (knows.held existing rfl).2.symm.trans found
    rfl
  | @switched _ existing status holding _ _ =>
    have held := (knows.held existing holding).2
    intro versionId version found
    obtain ⟨flow, stored, same⟩ := owned versionId version found
    rw [writeStatus_find held]
    by_cases written : version.flowId = existing.id
    · rw [written] at stored
      cases held.symm.trans stored
      exact ⟨_, if_pos written, same⟩
    · exact ⟨flow, by rw [if_neg written]; exact stored, same⟩
  | entered flowsSame versionsSame =>
    intro versionId version found
    rw [versionsSame] at found
    rw [flowsSame]
    exact owned versionId version found

end Tables

section CampaignTables

variable {call : CampaignCall} {campaigns : Campaigns} {now : Timestamp} {newId : CampaignId}

theorem campaignFrom_old {campaign old : Campaign} (member : old ∈ campaigns.rows)
    (owner : old.workspaceId = campaign.workspaceId) (same : old.segmentId = campaign.segmentId)
    (canceled : old.status = .canceled → campaign.status = .canceled) :
    CampaignFrom uuid campaigns stored campaign := .inl ⟨old, member, owner, congrArg uuid same, canceled⟩

theorem campaignFrom_update {guard : Campaign → Bool} {set : Campaign → Campaign}
    {keeps : ∀ row, (set row).id = row.id}
    (taken : ∀ old ∈ campaigns.rows, guard old = true → CampaignFrom uuid campaigns stored (set old))
    {campaign : Campaign} (member : campaign ∈ (campaigns.update guard set keeps).rows) :
    CampaignFrom uuid campaigns stored campaign := by
  obtain ⟨old, kept, rfl⟩ := List.mem_map.mp member
  by_cases chosen : guard old = true
  · rw [if_pos chosen]
    exact taken old kept chosen
  · rw [if_neg chosen]
    exact campaignFrom_old kept rfl rfl id

theorem campaignFrom_live {campaign existing : Campaign} {id : CampaignId}
    (located : getCampaign campaigns workspaceId id = some existing) (live : existing.status ≠ .canceled)
    (owner : existing.workspaceId = campaign.workspaceId) (same : existing.segmentId = campaign.segmentId) :
    CampaignFrom uuid campaigns stored campaign :=
  campaignFrom_old (Table.mem_of_find? (getCampaign_some located).1) owner same fun canceled => absurd canceled live

theorem campaignFrom_locked {set : Campaign → Campaign} {keeps : ∀ row, (set row).id = row.id} {existing : Campaign}
    {id : CampaignId} (located : getCampaign campaigns workspaceId id = some existing)
    (taken : CampaignFrom uuid campaigns stored (set existing))
    {campaign : Campaign} (member : campaign ∈ (campaigns.update (·.id == id) set keeps).rows) :
    CampaignFrom uuid campaigns stored campaign := by
  apply campaignFrom_update _ member
  intro old kept chosen
  rw [Table.eq_of_find? (getCampaign_some located).1 kept (beq_iff_eq.mp chosen)]
  exact taken

theorem assigned_from {patch : UpdateCampaignInput} {existing : Campaign} {id : CampaignId}
    (located : getCampaign campaigns workspaceId id = some existing) (draft : existing.status = .draft) :
    CampaignFrom uuid campaigns
      (some
        { workspaceId
          campaign := (CampaignCall.editing workspaceId id (.update patch)).storedSegment uuid campaigns })
      (patch.assign existing) := by
  obtain ⟨found, owner⟩ := getCampaign_some located
  have member := Table.mem_of_find? found
  cases changed : patch.segmentId with
  | none =>
    refine .inl ⟨existing, member, rfl, ?_, fun canceled => canceled⟩
    simp only [UpdateCampaignInput.assign, changed, Option.getD_none]
  | some text =>
    have assigned : (patch.assign existing).segmentId = text := by
      simp only [UpdateCampaignInput.assign, changed, Option.getD_some]
    by_cases same : uuid existing.segmentId = uuid text
    · exact .inl ⟨existing, member, rfl, by rw [assigned]; exact same, fun canceled => canceled⟩
    · refine .inr ⟨_, rfl, owner.symm, ?_⟩
      rw [assigned]
      simp [CampaignCall.storedSegment, changed, located, draft, same]

theorem performed_adds {campaign : Campaign} (member : campaign ∈ (call.perform now newId campaigns).rows) :
    CampaignFrom uuid campaigns
      (some { workspaceId := call.workspaceId, campaign := call.storedSegment uuid campaigns })
      campaign := by
  cases call with
  | creating | copying =>
    rcases Table.mem_of_insert member with old | rfl
    · exact campaignFrom_old old rfl rfl id
    · exact .inr ⟨_, rfl, rfl, rfl⟩
  | editing workspaceId campaignId edit =>
    simp only [CampaignCall.perform] at member
    cases performed : edit.perform now campaigns workspaceId campaignId with
    | error failure =>
      rw [performed] at member
      exact campaignFrom_old member rfl rfl id
    | ok next =>
      rw [performed] at member
      replace member : campaign ∈ next.rows := member
      cases edit with
      | update patch =>
        obtain ⟨existing, located, draft, rfl⟩ := updateCampaign_ok performed
        exact campaignFrom_locked located (assigned_from located draft) member
      | launch options =>
        obtain ⟨existing, located, draft, _, _, rfl⟩ := launchCampaign_ok performed
        exact campaignFrom_locked located (campaignFrom_live located (by rw [draft]; decide) rfl rfl) member
      | schedule scheduledAt options =>
        obtain ⟨existing, located, draft, _, rfl⟩ := scheduleCampaign_ok performed
        exact campaignFrom_locked located (campaignFrom_live located (by rw [draft]; decide) rfl rfl) member
      | cancel =>
        obtain ⟨existing, located, ⟨scheduled, rfl⟩ | ⟨sending, rfl⟩⟩ := cancelCampaign_ok performed
        · exact campaignFrom_locked located (campaignFrom_live located (by rw [scheduled]; decide) rfl rfl) member
        · exact campaignFrom_locked located (campaignFrom_live located (by rw [sending]; decide) rfl rfl) member
      | testSend options =>
        obtain ⟨existing, fromEmail, _, _, _, rfl⟩ := prepareCampaignTestSend_ok performed
        apply campaignFrom_update _ member
        intro old kept _
        exact campaignFrom_old kept rfl rfl id
      | delete =>
        simp only [CampaignEdit.perform, deleteCampaign] at performed
        split at performed
        · cases performed
          exact campaignFrom_old member rfl rfl id
        · split at performed
          · cases performed
          · cases performed
            exact campaignFrom_old (List.mem_of_mem_filter member) rfl rfl id

end CampaignTables

structure SegmentStore.Sound (uuid : SegmentId → SegmentId) (store : SegmentStore) : Prop where
  flows : StoreOk store.flows
  owned : VersionsOwned store.flows.tables
  guards : store.locks.Guards store.present (store.referenced uuid)

def ClientTurn.stores (uuid : SegmentId → SegmentId) (store : SegmentStore) (client : Client) (turn : ClientTurn) :
    Option Written :=
  if turn.commits then client.written uuid store else none

structure Turned (uuid : SegmentId → SegmentId) (id : Nat) (store : SegmentStore) (stored : Option Written)
    (next : SegmentStore) (after : Client) : Prop where
  sound : next.Sound uuid
  knows : ClientKnows uuid id next after
  tolerates : ∀ other, other ≠ id → Tolerates other store.flows next.flows
  adds : Adds uuid id store stored next

theorem referenced_iff {key : SegmentId} : store.referenced uuid key = true ↔
    (∃ flow ∈ store.flows.tables.flows.rows, ∃ text, flow.triggerSegmentId = some text ∧ uuid text = key) ∨
      ∃ campaign ∈ store.campaigns.rows, uuid campaign.segmentId = key := by
  simp only [SegmentStore.referenced, Bool.or_eq_true, List.any_eq_true, Option.any_eq_true, beq_iff_eq]

theorem adds_same (flows : next.flows.tables.flows = store.flows.tables.flows)
    (versions : next.flows.tables.flowVersions = store.flows.tables.flowVersions)
    (segments : next.segments = store.segments) (campaigns : next.campaigns = store.campaigns)
    (removing : ∀ key other, other ≠ id → store.locks.removing key = some other →
      next.locks.removing key = some other) : Adds uuid id store stored next := by
  constructor
  · intro key row found
    rw [← segments]
    exact found
  · exact removing
  · exact addsFlows_same flows versions
  · intro campaign member
    rw [campaigns] at member
    exact campaignFrom_old member rfl rfl fun canceled => canceled

theorem sound_of_same (sound : store.Sound uuid) (flows : StoreOk next.flows)
    (tables : next.flows.tables = store.flows.tables) (segments : next.segments = store.segments)
    (campaigns : next.campaigns = store.campaigns)
    (guards : next.locks.Guards store.present (store.referenced uuid)) : next.Sound uuid := by
  constructor
  · exact flows
  · rw [tables]
    exact sound.owned
  · have present : next.present = store.present := by
      funext key
      rw [SegmentStore.present, segments]
      rfl
    have referenced : next.referenced uuid = store.referenced uuid := by
      funext key
      rw [SegmentStore.referenced, tables, campaigns]
      rfl
    rw [present, referenced]
    exact guards

theorem tolerates_refl {flows : Store} : Tolerates other flows flows :=
  ⟨fun _ locked => ⟨locked, rfl⟩, fun _ _ found _ => found⟩

theorem referenced_of_adds {key : SegmentId} (adds : Adds uuid id store stored next)
    (shared : ∀ written, stored = some written → ∀ text, written.trigger = some text ∨ written.campaign = some text →
      (id, uuid text) ∈ store.locks.shares)
    (refers : next.referenced uuid key = true) :
    store.referenced uuid key = true ∨ (id, key) ∈ store.locks.shares := by
  rcases referenced_iff.mp refers with ⟨flow, member, text, holds, rfl⟩ | ⟨campaign, member, rfl⟩
  · rcases adds.flows.triggers flow member text holds with ⟨old, kept, _, named⟩ | ⟨written, storing, _, trigger⟩
    · obtain ⟨before, held, same⟩ := (Option.any_eq_true _ _).mp named
      exact .inl (referenced_iff.mpr (.inl ⟨old, kept, before, held, beq_iff_eq.mp same⟩))
    · exact .inr (shared written storing text (.inl trigger))
  · rcases adds.campaigns campaign member with ⟨old, kept, _, same, _⟩ | ⟨written, storing, _, held⟩
    · exact .inl (referenced_iff.mpr (.inr ⟨old, kept, same⟩))
    · exact .inr (shared written storing campaign.segmentId (.inr held))

theorem shared_of_referred {written : Written} (statements : referred uuid id store client = true)
    (storing : client.written uuid store = some written) (text : SegmentId)
    (holds : written.trigger = some text ∨ written.campaign = some text) : (id, uuid text) ∈ store.locks.shares := by
  have shared : ∀ reference, client.storedReference uuid store = some reference →
      (id, uuid reference) ∈ store.locks.shares := by
    intro reference same
    rw [referred, same] at statements
    exact of_decide_eq_true statements
  apply shared
  cases client with
  | flow session =>
    cases session <;> cases storing <;> rcases holds with trigger | campaign
    all_goals first | exact trigger | cases trigger | cases campaign
  | campaign call =>
    cases storing
    rcases holds with trigger | campaign
    · cases trigger
    · exact campaign
  | deletion => cases storing

theorem turned_of_same (sound : store.Sound uuid) (flows : StoreOk next.flows)
    (tolerates : ∀ other, other ≠ id → Tolerates other store.flows next.flows)
    (tables : next.flows.tables = store.flows.tables) (segments : next.segments = store.segments)
    (campaigns : next.campaigns = store.campaigns) (guards : next.locks.Guards store.present (store.referenced uuid))
    (removing : ∀ key other, other ≠ id → store.locks.removing key = some other →
      next.locks.removing key = some other)
    (knows : ClientKnows uuid id next after) : Turned uuid id store none next after :=
  ⟨sound_of_same sound flows tables segments campaigns guards, knows, tolerates,
    adds_same (by rw [tables]) (by rw [tables]) segments campaigns removing⟩

theorem turned_refl (sound : store.Sound uuid) (knows : ClientKnows uuid id store after) :
    Turned uuid id store none store after :=
  turned_of_same sound sound.flows (fun _ _ => tolerates_refl) rfl rfl rfl sound.guards
    (fun _ _ _ removing => removing) knows

theorem turned_locks {locks : KeyLocks SegmentId} (sound : store.Sound uuid)
    (guards : locks.Guards store.present (store.referenced uuid))
    (removing : ∀ key other, other ≠ id → store.locks.removing key = some other → locks.removing key = some other)
    (knows : ClientKnows uuid id { store with locks } after) : Turned uuid id store none { store with locks } after :=
  turned_of_same sound sound.flows (fun _ _ => tolerates_refl) rfl rfl rfl guards removing knows

theorem removing_settled {gone : SegmentId} (mine : store.locks.removing gone = some id) (key : SegmentId)
    (thread : Nat) (differs : thread ≠ id) (removing : store.locks.removing key = some thread) :
    (store.locks.settle gone).removing key = some thread := by
  rw [KeyLocks.removing_settle, if_neg]
  · exact removing
  · rintro rfl
    exact differs (Option.some.inj (removing.symm.trans mine))

theorem rolledBack_turned (sound : store.Sound uuid) (knows : ClientKnows uuid id store client)
    (rolled : rolledBack uuid id store client = (next, after)) : Turned uuid id store none next after := by
  cases client with
  | flow session =>
    cases rolled
    have leaves := sessionTurn_leaves sound.flows knows (show sessionTurn id store.flows session .rollback = _ from rfl)
    exact turned_of_same sound leaves.ok leaves.harmless (release_tables rfl) rfl rfl sound.guards.rollback
      (fun _ _ _ removing => removing) knows_idle
  | campaign call =>
    cases rolled
    exact turned_of_same sound sound.flows (fun _ _ => tolerates_refl) rfl rfl rfl sound.guards.rollback
      (fun _ _ _ removing => removing) knows_idle
  | deletion workspaceId segmentId stage =>
    by_cases removed : stage = .done true
    · subst removed
      cases rolled
      have mine := knows.removed rfl
      exact turned_of_same sound sound.flows (fun _ _ => tolerates_refl) rfl rfl rfl
        (sound.guards.settle (by rw [mine]; rfl) fun _ _ => rfl) (removing_settled mine) knows_idle
    · have same : rolledBack uuid id store (.deletion workspaceId segmentId stage) = (store, .idle) := by
        unfold rolledBack
        split
        all_goals first | rfl | skip
        next found => cases found
        next found => cases found
        next found =>
          cases found
          exact absurd rfl removed
      rw [same] at rolled
      cases rolled
      exact turned_refl sound knows_idle

theorem flowTurn_turned {session : Session} {turn : SessionTurn} (sound : store.Sound uuid)
    (knows : Knows id store.flows session) (turned : flowTurn uuid id store session turn = some (next, after)) :
    Turned uuid id store ((ClientTurn.flow turn).stores uuid store (.flow session)) next after := by
  cases turn with
  | start | read =>
    obtain ⟨result, moved, same⟩ := Option.map_eq_some_iff.mp turned
    cases same
    have leaves := sessionTurn_leaves sound.flows knows moved
    rcases sessionTurn_tables moved with tables | ⟨commit, wrong, _⟩
    · exact turned_of_same sound leaves.ok leaves.harmless tables rfl rfl sound.guards
        (fun _ _ _ removing => removing) leaves.knows
    · cases wrong
  | rollback =>
    have leaves := sessionTurn_leaves sound.flows knows (show sessionTurn id store.flows session .rollback = _ from rfl)
    cases turned
    exact turned_of_same sound leaves.ok leaves.harmless (release_tables rfl) rfl rfl sound.guards.rollback
      (fun _ _ _ removing => removing) leaves.knows
  | commit commit =>
    simp only [flowTurn] at turned
    split at turned
    · next statements =>
      obtain ⟨result, moved, same⟩ := Option.map_eq_some_iff.mp turned
      cases same
      have leaves := sessionTurn_leaves sound.flows knows moved
      have adds : Adds uuid id store (writtenBySession uuid session)
          { store with flows := result.1, locks := store.locks.release id } := by
        rcases sessionTurn_tables moved with tables | ⟨_, _, done⟩
        · exact adds_same (congrArg _ tables) (congrArg _ tables) rfl rfl fun _ _ _ removing => removing
        · constructor
          · exact fun _ _ found => found
          · exact fun _ _ _ removing => removing
          · exact committed_adds sound.flows knows done
          · exact fun campaign member => campaignFrom_old member rfl rfl fun canceled => canceled
      have owned : VersionsOwned result.1.tables := by
        rcases sessionTurn_tables moved with tables | ⟨_, _, done⟩
        · rw [tables]
          exact sound.owned
        · exact committed_owned sound.flows knows sound.owned done
      refine ⟨⟨leaves.ok, owned, ?_⟩, leaves.knows, leaves.harmless, adds⟩
      apply sound.guards.commit
      intro key refers
      exact referenced_of_adds adds (fun written storing => shared_of_referred statements storing) refers
    · cases turned

theorem startCampaign_turned {command : CampaignCommand} (sound : store.Sound uuid)
    (started : startCampaign id store workspaceId command = some (next, after)) :
    Turned uuid id store none next after := by
  cases command with
  | create input =>
    cases started
    exact turned_refl sound trivial
  | duplicate campaignId =>
    simp only [startCampaign] at started
    split at started
    · cases started
      exact turned_refl sound knows_idle
    · cases started
      exact turned_refl sound trivial
  | edit campaignId edit =>
    simp only [startCampaign] at started
    split at started
    · cases started
      exact turned_refl sound knows_idle
    · cases started
    · cases started
      exact turned_of_same sound sound.flows (fun _ _ => tolerates_refl) rfl rfl rfl sound.guards
        (fun _ _ _ removing => removing) trivial

theorem referTurn_turned (sound : store.Sound uuid) (knows : ClientKnows uuid id store client)
    (turned : referTurn uuid id store client = some (next, after)) : Turned uuid id store none next after := by
  obtain ⟨text, _, checked⟩ := Option.bind_eq_some_iff.mp turned
  obtain ⟨outcome, verdict, result⟩ := Option.map_eq_some_iff.mp checked
  cases outcome with
  | violated => exact rolledBack_turned sound knows result
  | shared locks =>
    cases result
    have guards := sound.guards.refer verdict
    obtain ⟨_, _, rfl⟩ := KeyLocks.refer_shared verdict
    apply turned_locks sound guards fun _ _ _ removing => removing
    cases client with
    | flow session => exact knows
    | campaign call => trivial
    | deletion workspaceId segmentId stage =>
      exact ⟨knows.campaigns, knows.triggers, knows.exits, knows.nodes, knows.absent, knows.removed⟩

theorem statement_turned {ended : DeletionStage} (sound : store.Sound uuid)
    (knows : DeletionKnows uuid id store workspaceId segmentId stage)
    (spelled : spelledAlike uuid store.flows.tables workspaceId segmentId stage)
    (stepped : deletionStatement uuid id store workspaceId segmentId stage = some (next, ended)) :
    Turned uuid id store none next (.deletion workspaceId segmentId ended) := by
  have stated := stated_of_statement stepped
  have found := stated_knows sound.owned knows spelled stated
  cases stated with
  | campaigns | flows | versions | absent | lost => exact turned_refl sound found
  | removed deleted =>
    have guards := sound.guards.remove deleted
    obtain ⟨_, free, _, _, rfl⟩ := KeyLocks.remove_removed deleted
    apply turned_locks sound guards _
    · exact found
    intro key thread _ removing
    show Function.update store.locks.removing (uuid segmentId) (some id) key = some thread
    rw [Function.update_of_ne]
    · exact removing
    · rintro rfl
      rw [free] at removing
      cases removing

theorem commitTurn_turned {now : Timestamp} {newId : CampaignId} (sound : store.Sound uuid)
    (knows : ClientKnows uuid id store client)
    (turned : commitTurn uuid id store now newId client = some (next, after)) :
    Turned uuid id store (client.written uuid store) next after := by
  cases client with
  | flow session => cases turned
  | campaign call =>
    simp only [commitTurn] at turned
    split at turned
    · next statements =>
      cases turned
      have adds : Adds uuid id store (Client.written uuid store (.campaign call))
          { store with
            campaigns := call.perform now newId store.campaigns
            campaignLockedBy := call.unlock store.campaignLockedBy
            locks := store.locks.release id } := by
        constructor
        · exact fun _ _ found => found
        · exact fun _ _ _ removing => removing
        · exact addsFlows_same rfl rfl
        · exact fun campaign member => performed_adds member
      refine ⟨⟨sound.flows, sound.owned, ?_⟩, knows_idle, fun _ _ => tolerates_refl, adds⟩
      apply sound.guards.commit
      intro key refers
      exact referenced_of_adds adds (fun written storing => shared_of_referred statements storing) refers
    · cases turned
  | deletion workspaceId segmentId stage =>
    cases stage with
    | done deleted =>
      cases deleted with
      | false =>
        cases turned
        exact turned_refl sound knows_idle
      | true =>
        cases turned
        have mine := knows.removed rfl
        have kept : ∀ key row, (store.segments.delete fun row =>
            row.workspaceId == workspaceId && row.id == uuid segmentId).find? key = some row →
            store.segments.find? key = some row := by
          intro key row found
          rw [Table.find?_delete] at found
          exact (Option.filter_eq_some_iff.mp found).1
        refine ⟨⟨sound.flows, sound.owned, ?_⟩, knows_idle, fun _ _ => tolerates_refl, ?_⟩
        · apply sound.guards.settle (by rw [mine]; rfl)
          intro key differs
          simp only [SegmentStore.present, Table.find?_delete]
          cases found : store.segments.find? key with
          | none => rfl
          | some row =>
            have away : row.id ≠ uuid segmentId := by
              rw [Table.key_of_find? found]
              exact differs
            rw [Option.filter_some, beq_false_of_ne away, Bool.and_false]
            rfl
        · constructor
          · exact kept
          · exact removing_settled mine
          · exact addsFlows_same rfl rfl
          · exact fun campaign member => campaignFrom_old member rfl rfl fun canceled => canceled
    | checkingCampaigns | checkingFlows | checkingVersions | deleting | recheckingFlows | recheckingVersions |
      refused => cases turned

theorem clientTurn_turned {turn : ClientTurn} (sound : store.Sound uuid) (knows : ClientKnows uuid id store client)
    (spelled : turn = .statement → ∀ workspaceId segmentId stage, client = .deletion workspaceId segmentId stage →
      spelledAlike uuid store.flows.tables workspaceId segmentId stage)
    (turned : clientTurn uuid id store client turn = some (next, after)) :
    Turned uuid id store (turn.stores uuid store client) next after := by
  cases turn with
  | flow turn =>
    cases client with
    | flow session => exact flowTurn_turned sound knows turned
    | campaign | deletion => cases turned
  | startCampaign workspaceId command =>
    simp only [clientTurn] at turned
    split at turned
    · exact startCampaign_turned sound turned
    · cases turned
  | startDeletion workspaceId segmentId =>
    simp only [clientTurn] at turned
    split at turned
    · cases turned
      exact turned_refl sound (deletionKnows_lost rfl)
    · cases turned
  | refer => exact referTurn_turned sound knows turned
  | statement =>
    cases client with
    | flow | campaign => cases turned
    | deletion workspaceId segmentId stage =>
      obtain ⟨result, stepped, same⟩ := Option.map_eq_some_iff.mp turned
      cases same
      exact statement_turned sound knows (spelled rfl workspaceId segmentId stage rfl) stepped
  | commit now newId => exact commitTurn_turned sound knows turned
  | rollback => exact rolledBack_turned sound knows (Option.some.inj turned)

theorem clientKnows_stable {shown : Option Written} (knows : ClientKnows uuid other store client)
    (turned : Turned uuid id store shown next after) (differs : other ≠ id)
    (spared : ∀ workspaceId segmentId stage, client = .deletion workspaceId segmentId stage →
      ∀ written, shown = some written →
        written.slipsPast uuid (store.foreign uuid workspaceId segmentId) workspaceId segmentId stage = false) :
    ClientKnows uuid other next client := by
  cases client with
  | flow session => exact knows_stable knows (turned.tolerates other differs)
  | campaign call => trivial
  | deletion workspaceId segmentId stage =>
    exact deletionKnows_stable knows turned.adds differs (spared workspaceId segmentId stage rfl)

theorem unreferenced_of_knows {deleted : Bool} (sound : store.Sound uuid)
    (knows : DeletionKnows uuid id store workspaceId segmentId (.done deleted)) :
    Unreferenced uuid store workspaceId segmentId := by
  have columns : (∀ flow ∈ store.flows.tables.flows.rows, flow.workspaceId = workspaceId →
      flow.triggerSegmentId.any (names uuid segmentId) = false) ∧
      ∀ campaign ∈ store.campaigns.rows, campaign.workspaceId = workspaceId → campaign.status ≠ .canceled →
        names uuid segmentId campaign.segmentId = false := by
    by_cases elsewhere : store.foreign uuid workspaceId segmentId = true
    · exact ⟨knows.triggers rfl elsewhere, knows.campaigns rfl elsewhere⟩
    · -- the segment is gone or about to go, and the foreign keys have seen to the columns
      have unreferenced : store.referenced uuid (uuid segmentId) = false := by
        cases deleted with
        | true => exact sound.guards.unreferenced _ (by rw [knows.removed rfl]; rfl)
        | false =>
          rw [← Bool.not_eq_true]
          intro refers
          obtain ⟨row, found⟩ := Option.isSome_iff_exists.mp (sound.guards.referent _ refers)
          have owned := knows.absent rfl
          rw [SegmentStore.owns, found] at owned
          rw [SegmentStore.foreign, found] at elsewhere
          exact elsewhere (bne_iff_ne.mpr (beq_eq_false_iff_ne.mp owned))
      constructor
      · intro flow member _
        rw [← Bool.not_eq_true]
        intro named
        obtain ⟨text, holds, same⟩ := (Option.any_eq_true _ _).mp named
        have refers := (@referenced_iff uuid store (uuid segmentId)).mpr
          (.inl ⟨flow, member, text, holds, beq_iff_eq.mp same⟩)
        rw [unreferenced] at refers
        cases refers
      · intro campaign member _ _
        rw [← Bool.not_eq_true]
        intro named
        have refers := (@referenced_iff uuid store (uuid segmentId)).mpr (.inr ⟨campaign, member, beq_iff_eq.mp named⟩)
        rw [unreferenced] at refers
        cases refers
  exact ⟨knows.nodes rfl, knows.exits rfl, columns.1, columns.2⟩

theorem commit_unreferenced {now : Timestamp} {newId : CampaignId} {deleted : Bool} (sound : store.Sound uuid)
    (knows : DeletionKnows uuid id store workspaceId segmentId (.done deleted))
    (turned : commitTurn uuid id store now newId (.deletion workspaceId segmentId (.done deleted)) =
      some (next, after)) : Unreferenced uuid next workspaceId segmentId := by
  have before := unreferenced_of_knows sound knows
  cases deleted with
  | true =>
    cases turned
    exact ⟨before.nodes, before.exits, before.triggers, before.campaigns⟩
  | false =>
    cases turned
    exact before

end Steps

section Runs

variable (uuid : SegmentId → SegmentId)

abbrev SoundClients (threads : ClientThreads) : Prop :=
  Threads.Sound (SegmentStore.Sound uuid) (ClientKnows uuid) threads

variable {uuid}

theorem clientStep_sound {threads next : ClientThreads} {turn : Turn ClientTurn EngineEvent}
    (sound : SoundClients uuid threads) (guarded : Guarded uuid threads turn)
    (taken : clientStep uuid threads turn = some next) : SoundClients uuid next := by
  cases turn with
  | thread id choice =>
    obtain ⟨shared, own, acted, rfl⟩ := interleave_thread.mp taken
    have turned := clientTurn_turned sound.shared (sound.own id) (by
      rintro rfl workspaceId segmentId stage same
      exact guarded.reads id workspaceId segmentId stage rfl same) acted
    constructor
    · exact turned.sound
    · intro other
      by_cases same : other = id
      · subst same
        simpa only [Function.update_self] using turned.knows
      · simp only [Function.update_of_ne same]
        apply clientKnows_stable (sound.own other) turned same
        intro workspaceId segmentId stage deleting written storing
        unfold ClientTurn.stores at storing
        split at storing
        · next commits =>
          exact guarded.commits id choice written other workspaceId segmentId stage rfl commits storing deleting
        · cases storing
  | outside event =>
    obtain ⟨shared, happened, rfl⟩ := interleave_outside.mp taken
    obtain ⟨flows, moved, rfl⟩ := Option.map_eq_some_iff.mp happened
    obtain ⟨ok, harmless, _⟩ := engineEvent_kept sound.shared.flows moved
    obtain ⟨flowRows, versionRows⟩ := engineEvent_flows sound.shared.flows moved
    have adds : ∀ id, Adds uuid id threads.shared none { threads.shared with flows } :=
      fun id => adds_same flowRows versionRows rfl rfl fun _ _ _ removing => removing
    constructor
    · refine ⟨ok, ?_, ?_⟩
      · intro versionId version found
        show ∃ flow, flows.tables.flows.find? version.flowId = some flow ∧ flow.workspaceId = version.workspaceId
        rw [flowRows]
        apply sound.shared.owned versionId
        rw [← versionRows]
        exact found
      · have referenced : ({ threads.shared with flows } : SegmentStore).referenced uuid =
            threads.shared.referenced uuid := by
          funext key
          simp only [SegmentStore.referenced, flowRows]
        rw [referenced]
        exact sound.shared.guards
    · intro id
      have knows := sound.own id
      show ClientKnows uuid id { threads.shared with flows } (threads.own id)
      cases client : threads.own id with
      | flow session =>
        rw [client] at knows
        exact knows_stable knows (harmless id)
      | campaign call => trivial
      | deletion workspaceId segmentId stage =>
        rw [client] at knows
        exact deletionKnows_stable knows (adds (id + 1)) (by omega) fun written storing => by cases storing

theorem initially_sound (segments : Table Segment.id) : SoundClients uuid (initially segments) where
  shared := by
    constructor
    · exact emptyStore_sound.shared
    · intro versionId version found
      cases found
    · exact KeyLocks.guards_initial fun _ => rfl
  own _ := knows_idle

/-- Where no commit slips past a deletion, every deletion that commits leaves no reference behind. -/
theorem guarded_deletions_leave_no_reference (segments : Table Segment.id)
    (turns : List (Turn ClientTurn EngineEvent))
    (guarded : Along (clientStep uuid) (fun threads turn _ => Guarded uuid threads turn) (initially segments) turns) :
    Along (clientStep uuid) (DeletesUnreferenced uuid) (initially segments) turns := by
  have preserved : ∀ threads turn next, SoundClients uuid threads → Guarded uuid threads turn →
      clientStep uuid threads turn = some next → SoundClients uuid next :=
    fun _ _ _ sound guards taken => clientStep_sound sound guards taken
  apply along_of_conforming preserved _ (initially_sound segments) guarded
  rintro threads turn next sound _ taken id now newId workspaceId segmentId deleted rfl deleting
  obtain ⟨shared, own, acted, rfl⟩ := interleave_thread.mp taken
  have knows := sound.own id
  rw [deleting] at acted knows
  exact commit_unreferenced sound.shared knows acted

end Runs

section Traces

def oneSegment : Table Segment.id := Table.empty.insert { id := 5, workspaceId := 1 }

def checkedDeletion : List (Turn ClientTurn EngineEvent) :=
  [.thread 1 (.startDeletion 1 5), .thread 1 .statement, .thread 1 .statement, .thread 1 .statement]

def quiet (uuid : SegmentId → SegmentId) (threads : ClientThreads) (turn : Turn ClientTurn EngineEvent) : Bool :=
  threads.shared.flows.tables.flows.rows.all (·.exitConditions.isEmpty) &&
    threads.shared.flows.tables.flowVersions.rows.all (·.definition.nodes.isEmpty) &&
    match turn with
    | .thread id _ => ((threads.own id).written uuid threads.shared).all fun written =>
        written.definition.all (·.nodes.isEmpty) && written.exitConditions.all (·.isEmpty) &&
          written.trigger.isNone && written.campaign.isNone
    | .outside _ => true

theorem guarded_of_quiet {uuid : SegmentId → SegmentId} {threads : ClientThreads} {turn : Turn ClientTurn EngineEvent}
    (calm : quiet uuid threads turn = true) : Guarded uuid threads turn := by
  simp only [quiet, Bool.and_eq_true, List.all_eq_true, List.isEmpty_iff] at calm
  obtain ⟨⟨exits, nodes⟩, writes⟩ := calm
  constructor
  · rintro id choice written other workspaceId segmentId stage rfl _ storing _
    simp only [storing, Option.all_some, Bool.and_eq_true, Option.isNone_iff_eq_none] at writes
    obtain ⟨⟨⟨definition, conditions⟩, trigger⟩, campaign⟩ := writes
    rw [Written.slipsPast, trigger, campaign]
    cases defined : written.definition with
    | none =>
      cases exiting : written.exitConditions with
      | none => simp
      | some exitConditions =>
        rw [exiting, Option.all_some, List.isEmpty_iff] at conditions
        simp [conditions, exitsMention]
    | some stored =>
      rw [defined, Option.all_some, List.isEmpty_iff] at definition
      cases exiting : written.exitConditions with
      | none => simp [FlowDefinition.mentions, definition]
      | some exitConditions =>
        rw [exiting, Option.all_some, List.isEmpty_iff] at conditions
        simp [FlowDefinition.mentions, definition, conditions, exitsMention]
  · rintro id workspaceId segmentId stage rfl _
    cases stage with
    | checkingFlows =>
      intro flow member _ condition conditioned
      rw [exits flow member] at conditioned
      cases conditioned
    | checkingVersions =>
      intro version member _ node listed
      rw [nodes version member] at listed
      cases listed
    | checkingCampaigns | deleting | recheckingFlows | recheckingVersions | refused _ | done _ => trivial

def undisturbedDeletion : List (Turn ClientTurn EngineEvent) :=
  .thread 0 (.flow (.start 1 (.create "welcome" "owner"))) :: checkedDeletion ++
    [.thread 0 (.flow (.commit { now := 0, flowId := 7, versionId := 10 })), .thread 1 .statement,
      .thread 1 (.commit 0 0)]

theorem undisturbed_deletion_leaves_no_reference :
    (run (clientStep id) (initially oneSegment) undisturbedDeletion).any
        (fun final => (final.shared.segments.find? 5).isNone) = true ∧
      Along (clientStep id) (DeletesUnreferenced id) (initially oneSegment) undisturbedDeletion := by
  constructor
  · decide +kernel
  · apply guarded_deletions_leave_no_reference
    have calm : checkAlong (clientStep id) (quiet id) (initially oneSegment) undisturbedDeletion = true := by
      decide +kernel
    exact along_mono (fun _ _ _ met => guarded_of_quiet met) (along_of_check calm)

def overtakenDeletion : List (Turn ClientTurn EngineEvent) :=
  [.thread 0 (.flow (.start 1 (.create "welcome" "owner"))),
    .thread 0 (.flow (.commit { now := 0, flowId := 7, versionId := 10 }))] ++ checkedDeletion ++
  [.thread 0 (.flow (.start 1 (.update 7 { definition := some { nodes := [⟨1, .branch 5⟩], edges := [] } }))),
    .thread 0 (.flow .read), .thread 0 (.flow (.commit { now := 1 })), .thread 1 .statement]

theorem overtaken_deletion_leaves_branch : ¬ ∀ (uuid : SegmentId → SegmentId) (segments : Table Segment.id)
    (turns : List (Turn ClientTurn EngineEvent)),
    Along (clientStep uuid) (DeletesUnreferenced uuid) (initially segments) turns := by
  intro always
  have along := always id oneSegment (overtakenDeletion ++ [.thread 1 (.commit 2 0)])
  have runs : (run (clientStep id) (initially oneSegment) overtakenDeletion).any (fun middle =>
      decide (middle.own 1 = .deletion 1 5 (.done true)) &&
        (clientStep id middle (.thread 1 (.commit 2 0))).any fun final =>
          final.shared.flows.tables.flowVersions.rows.any fun version =>
            version.workspaceId == 1 && version.definition.mentions (names id 5)) = true := by
    decide +kernel
  obtain ⟨middle, ran, both⟩ := (Option.any_eq_true _ _).mp runs
  obtain ⟨deleting, both⟩ := Bool.and_eq_true_iff.mp both
  obtain ⟨final, taken, dangling⟩ := (Option.any_eq_true _ _).mp both
  obtain ⟨version, member, both⟩ := List.any_eq_true.mp dangling
  obtain ⟨owned, mentioned⟩ := Bool.and_eq_true_iff.mp both
  have unreferenced := along_last along ran taken 1 2 0 1 5 true rfl (of_decide_eq_true deleting)
  rw [unreferenced.nodes version member (beq_iff_eq.mp owned)] at mentioned
  cases mentioned

example : (run (clientStep (· % 100)) (initially oneSegment)
    [.thread 0 (.flow (.start 1 (.create "welcome" "owner"))),
      .thread 0 (.flow (.commit { now := 0, flowId := 7, versionId := 10 })),
      .thread 0 (.flow (.start 1 (.update 7 { definition := some { nodes := [⟨1, .branch 5⟩], edges := [] } }))),
      .thread 0 (.flow .read), .thread 0 (.flow (.commit { now := 1 })), .thread 1 (.startDeletion 1 105),
      .thread 1 .statement, .thread 1 .statement, .thread 1 .statement, .thread 1 .statement,
      .thread 1 (.commit 2 0)]).any (fun final => (final.shared.segments.find? 5).isNone &&
        final.shared.flows.tables.flowVersions.rows.any (·.definition.mentions (names (· % 100) 5))) = true := by
  decide +kernel

end Traces

end LocalCrm.Segments
