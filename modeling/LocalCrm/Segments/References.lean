import LocalCrm.Campaigns.Repository
import LocalCrm.Flows.TriggerColumns
import LocalCrm.Library.ForeignKey

/-! What refers to a segment, and the calls that store and check references. -/

set_option autoImplicit false

namespace LocalCrm.Flows

/-- `node->>'segmentId'`. -/
def NodeConfig.segmentId : NodeConfig → Option SegmentId
  | .trigger _ _ segmentId => segmentId
  | .branch segmentId => some segmentId
  | .delay _ | .send _ _ _ | .exit => none

/-- `ec->>'segmentId'`. -/
def FlowExitCondition.segmentId : FlowExitCondition → Option SegmentId
  | .segment segmentId _ => some segmentId
  | .event _ => none

def FlowDefinition.mentions (definition : FlowDefinition) (admits : SegmentId → Bool) : Bool :=
  definition.nodes.any fun node => node.config.segmentId.any admits

def exitsMention (exitConditions : List FlowExitCondition) (admits : SegmentId → Bool) : Bool :=
  exitConditions.any fun condition => condition.segmentId.any admits

end LocalCrm.Flows

namespace LocalCrm.Segments

open Library Flows Campaigns

inductive SegmentConflictCode where
  | referencedByCampaign
  | referencedByFlow
  deriving DecidableEq, Repr

structure SegmentConflictError where
  message : String
  code : SegmentConflictCode
  deriving DecidableEq, Repr

def campaignConflict (name : String) : SegmentConflictError :=
  { message := s!"Segment is referenced by campaign \"{name}\"", code := .referencedByCampaign }

def flowConflict (name : String) : SegmentConflictError :=
  { message := s!"Segment is referenced by flow \"{name}\"", code := .referencedByFlow }

def canceledCampaignConflict : SegmentConflictError :=
  { message := "Segment is referenced by a campaign (including canceled campaigns, which retain their audience " ++
      "reference for history)"
    code := .referencedByCampaign }

structure SegmentStore where
  flows : Store
  segments : Table Segment.id
  campaigns : Campaigns := .empty
  campaignLockedBy : CampaignId → Option Nat := fun _ => none
  locks : KeyLocks SegmentId := {}

section Reads

variable (uuid : SegmentId → SegmentId)

def SegmentStore.present (store : SegmentStore) (key : SegmentId) : Bool := (store.segments.find? key).isSome

def SegmentStore.owns (store : SegmentStore) (workspaceId : WorkspaceId) (key : SegmentId) : Bool :=
  (store.segments.find? key).any (·.workspaceId == workspaceId)

/-- What the two foreign keys see, in every workspace and for canceled campaigns too. -/
def SegmentStore.referenced (store : SegmentStore) (key : SegmentId) : Bool :=
  store.flows.tables.flows.rows.any (fun flow => flow.triggerSegmentId.any fun text => uuid text == key) ||
    store.campaigns.rows.any fun campaign => uuid campaign.segmentId == key

def referencingCampaign (campaigns : Campaigns) (workspaceId : WorkspaceId) (segmentId : SegmentId) :
    Option Campaign :=
  campaigns.rows.find? fun campaign => campaign.workspaceId == workspaceId &&
    uuid campaign.segmentId == uuid segmentId && campaign.status != .canceled

/-- The first query of `findReferencingFlowName`: its parameter is a `uuid`, which `$2::text` writes out again. -/
def directFlow (tables : FlowTables) (workspaceId : WorkspaceId) (segmentId : SegmentId) : Option FlowRow :=
  tables.flows.rows.find? fun flow => flow.workspaceId == workspaceId &&
    (flow.triggerSegmentId.any (fun text => uuid text == uuid segmentId) ||
      exitsMention flow.exitConditions (· == uuid segmentId))

/-- The second query: here the parameter is the text of the request. -/
def versionFlow (tables : FlowTables) (workspaceId : WorkspaceId) (segmentId : SegmentId) : Option FlowRow :=
  tables.flowVersions.rows.findSome? fun version =>
    if version.workspaceId == workspaceId && version.definition.mentions (· == segmentId) then
      tables.flows.find? version.flowId
    else none

end Reads

/-- The statement a deletion runs next. -/
inductive DeletionStage where
  | checkingCampaigns
  | checkingFlows
  | checkingVersions
  | deleting
  | recheckingFlows
  | recheckingVersions
  | refused (error : SegmentConflictError)
  | done (deleted : Bool)
  deriving DecidableEq, Repr

inductive CampaignEdit where
  | update (patch : UpdateCampaignInput)
  | launch (options : ResolvedSenderOptions)
  | schedule (scheduledAt : Timestamp) (options : ResolvedSenderOptions)
  | cancel
  | testSend (options : ResolvedSenderOptions)
  | delete
  deriving DecidableEq, Repr

inductive CampaignCommand where
  | create (input : CreateCampaignInput)
  | duplicate (id : CampaignId)
  | edit (id : CampaignId) (edit : CampaignEdit)
  deriving DecidableEq, Repr

inductive CampaignCall where
  | creating (workspaceId : WorkspaceId) (input : CreateCampaignInput)
  | copying (existing : Campaign)
  | editing (workspaceId : WorkspaceId) (id : CampaignId) (edit : CampaignEdit)
  deriving DecidableEq, Repr

inductive Client where
  | flow (session : Session)
  | campaign (call : CampaignCall)
  | deletion (workspaceId : WorkspaceId) (segmentId : SegmentId) (stage : DeletionStage)
  deriving DecidableEq

def Client.idle : Client := .flow .idle

inductive ClientTurn where
  | flow (turn : SessionTurn)
  | startCampaign (workspaceId : WorkspaceId) (command : CampaignCommand)
  | startDeletion (workspaceId : WorkspaceId) (segmentId : SegmentId)
  | refer
  | statement
  | commit (now : Timestamp) (campaignId : CampaignId)
  | rollback

def CampaignEdit.perform (now : Timestamp) (campaigns : Campaigns) (workspaceId : WorkspaceId) (id : CampaignId) :
    CampaignEdit → Except CampaignStateError Campaigns
  | .update patch => updateCampaign campaigns workspaceId id patch
  | .launch options => launchCampaign now campaigns workspaceId id options
  | .schedule scheduledAt options => scheduleCampaign campaigns workspaceId id scheduledAt options
  | .cancel => cancelCampaign now campaigns workspaceId id
  | .testSend options => prepareCampaignTestSend campaigns workspaceId id options
  | .delete => deleteCampaign campaigns workspaceId id

/-- What the commit leaves; an edit reads the row it has held since its first statement. -/
def CampaignCall.perform (now : Timestamp) (newId : CampaignId) (campaigns : Campaigns) : CampaignCall → Campaigns
  | .creating workspaceId input => createCampaign campaigns workspaceId newId input
  | .copying existing => duplicateCampaign campaigns existing newId
  | .editing workspaceId id edit => (edit.perform now campaigns workspaceId id).toOption.getD campaigns

section Turns

variable (uuid : SegmentId → SegmentId)

/-- An `UPDATE` that leaves the column as it is checks nothing. -/
def changedTrigger (existing written : FlowRow) : Option SegmentId :=
  written.triggerSegmentId.filter fun text => !existing.triggerSegmentId.any fun old => uuid old == uuid text

def storedTrigger : Session → Option SegmentId
  | .writingDraft existing patch _ => changedTrigger uuid existing (updatedFlow existing patch 0)
  | .writingPublish existing _ read => changedTrigger uuid existing (publishedFlow existing read)
  | .writingCopy existing _ _ => existing.triggerSegmentId
  | .idle | .creating _ _ _ | .updating _ _ | .publishing _ _ | .pausing _ | .resuming _ | .copying _ _ |
    .entering _ _ _ => none

def CampaignCall.storedSegment (campaigns : Campaigns) : CampaignCall → Option SegmentId
  | .creating _ input => some input.segmentId
  | .copying existing => some existing.segmentId
  | .editing workspaceId id (.update patch) => patch.segmentId.filter fun text =>
      (getCampaign campaigns workspaceId id).any fun existing =>
        existing.status == .draft && uuid existing.segmentId != uuid text
  | .editing _ _ (.launch _) | .editing _ _ (.schedule _ _) | .editing _ _ .cancel | .editing _ _ (.testSend _) |
    .editing _ _ .delete => none

def Client.storedReference (store : SegmentStore) : Client → Option SegmentId
  | .flow session => storedTrigger uuid session
  | .campaign call => call.storedSegment uuid store.campaigns
  | .deletion _ _ _ => none

variable (id : Nat) (store : SegmentStore)

def referred (client : Client) : Bool :=
  (client.storedReference uuid store).all fun text => (id, uuid text) ∈ store.locks.shares

def CampaignCall.unlock (lockedBy : CampaignId → Option Nat) : CampaignCall → CampaignId → Option Nat
  | .creating _ _ | .copying _ => lockedBy
  | .editing _ campaignId _ => Function.update lockedBy campaignId none

def startCampaign (workspaceId : WorkspaceId) : CampaignCommand → Option (SegmentStore × Client)
  | .create input => some (store, .campaign (.creating workspaceId input))
  | .duplicate campaignId =>
    match getCampaign store.campaigns workspaceId campaignId with
    | none => some (store, .idle)
    | some existing => some (store, .campaign (.copying existing))
  | .edit campaignId edit =>
    match getCampaign store.campaigns workspaceId campaignId, store.campaignLockedBy campaignId with
    | none, _ => some (store, .idle)
    | some _, some _ => none
    | some _, none =>
      let campaignLockedBy := Function.update store.campaignLockedBy campaignId (some id)
      some ({ store with campaignLockedBy }, .campaign (.editing workspaceId campaignId edit))

def flowTurn (session : Session) (turn : SessionTurn) : Option (SegmentStore × Client) :=
  match turn with
  | .start _ _ | .read =>
    (sessionTurn id store.flows session turn).map fun turned => ({ store with flows := turned.1 }, .flow turned.2)
  | .commit _ =>
    if referred uuid id store (.flow session) then
      (sessionTurn id store.flows session turn).map fun turned =>
        ({ store with flows := turned.1, locks := store.locks.release id }, .flow turned.2)
    else none
  | .rollback =>
    (sessionTurn id store.flows session turn).map fun turned =>
      ({ store with flows := turned.1, locks := store.locks.release id }, .flow turned.2)

def rolledBack : Client → SegmentStore × Client
  | .flow session =>
    ({ store with
      flows := (release store.flows store.flows.tables session).1
      locks := store.locks.release id }, .idle)
  | .campaign call =>
    ({ store with
      campaignLockedBy := call.unlock store.campaignLockedBy
      locks := store.locks.release id }, .idle)
  | .deletion _ segmentId (.done true) => ({ store with locks := store.locks.settle (uuid segmentId) }, .idle)
  | .deletion _ _ _ => (store, .idle)

def referTurn (client : Client) : Option (SegmentStore × Client) :=
  (client.storedReference uuid store).bind fun text =>
    (store.locks.refer store.present id (uuid text)).map fun
      | .violated => rolledBack uuid id store client
      | .shared locks => ({ store with locks }, client)

/-- The next statement of `deleteSegment`. -/
def deletionStatement (workspaceId : WorkspaceId) (segmentId : SegmentId) :
    DeletionStage → Option (SegmentStore × DeletionStage)
  | .checkingCampaigns =>
    match referencingCampaign uuid store.campaigns workspaceId segmentId with
    | some campaign => some (store, .refused (campaignConflict campaign.name))
    | none => some (store, .checkingFlows)
  | .checkingFlows =>
    match directFlow uuid store.flows.tables workspaceId segmentId with
    | some flow => some (store, .refused (flowConflict flow.name))
    | none => some (store, .checkingVersions)
  | .checkingVersions =>
    match versionFlow store.flows.tables workspaceId segmentId with
    | some flow => some (store, .refused (flowConflict flow.name))
    | none => some (store, .deleting)
  | .deleting =>
    (store.locks.remove (store.owns workspaceId (uuid segmentId)) (store.referenced uuid) id (uuid segmentId)).map fun
      | .absent => (store, .done false)
      | .restricted => (store, .recheckingFlows)
      | .removed locks => ({ store with locks }, .done true)
  | .recheckingFlows =>
    match directFlow uuid store.flows.tables workspaceId segmentId with
    | some flow => some (store, .refused (flowConflict flow.name))
    | none => some (store, .recheckingVersions)
  | .recheckingVersions =>
    match versionFlow store.flows.tables workspaceId segmentId with
    | some flow => some (store, .refused (flowConflict flow.name))
    | none => some (store, .refused canceledCampaignConflict)
  | .refused _ | .done _ => none

def commitTurn (now : Timestamp) (newId : CampaignId) : Client → Option (SegmentStore × Client)
  | .flow _ => none
  | .campaign call =>
    if referred uuid id store (.campaign call) then
      some ({ store with
        campaigns := call.perform now newId store.campaigns
        campaignLockedBy := call.unlock store.campaignLockedBy
        locks := store.locks.release id }, .idle)
    else none
  | .deletion workspaceId segmentId (.done true) =>
    let segments := store.segments.delete fun row => row.workspaceId == workspaceId && row.id == uuid segmentId
    some ({ store with segments, locks := store.locks.settle (uuid segmentId) }, .idle)
  | .deletion _ _ (.done false) => some (store, .idle)
  | .deletion _ _ .checkingCampaigns | .deletion _ _ .checkingFlows | .deletion _ _ .checkingVersions |
    .deletion _ _ .deleting | .deletion _ _ .recheckingFlows | .deletion _ _ .recheckingVersions |
    .deletion _ _ (.refused _) => none

def clientTurn (client : Client) : ClientTurn → Option (SegmentStore × Client)
  | .flow turn =>
    match client with
    | .flow session => flowTurn uuid id store session turn
    | .campaign _ | .deletion _ _ _ => none
  | .startCampaign workspaceId command =>
    if client = .idle then startCampaign id store workspaceId command else none
  | .startDeletion workspaceId segmentId =>
    if client = .idle then some (store, .deletion workspaceId segmentId .checkingCampaigns) else none
  | .refer => referTurn uuid id store client
  | .statement =>
    match client with
    | .deletion workspaceId segmentId stage =>
      (deletionStatement uuid id store workspaceId segmentId stage).map fun stepped =>
        (stepped.1, .deletion workspaceId segmentId stepped.2)
    | .flow _ | .campaign _ => none
  | .commit now newId => commitTurn uuid id store now newId client
  | .rollback => some (rolledBack uuid id store client)

def engineTurn (event : EngineEvent) : Option SegmentStore :=
  (engineEvent store.flows event).map fun flows => { store with flows }

end Turns

abbrev ClientThreads := Threads SegmentStore Client

def clientStep (uuid : SegmentId → SegmentId) : ClientThreads → Turn ClientTurn EngineEvent → Option ClientThreads :=
  interleave (clientTurn uuid) engineTurn

def initially (segments : Table Segment.id) : ClientThreads where
  shared := { flows := emptyStore.shared, segments }
  own _ := .idle

end LocalCrm.Segments
