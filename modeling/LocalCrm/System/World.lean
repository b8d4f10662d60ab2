import LocalCrm.Analytics.Reconciliation
import LocalCrm.Campaigns.Kickoff
import LocalCrm.Campaigns.Scheduler
import LocalCrm.Delivery.Reconciler
import LocalCrm.Library.Transition
import LocalCrm.Webhooks.Batch

/-! The whole system as one labelled step function. -/

set_option autoImplicit false

namespace LocalCrm.System

open Library Delivery Campaigns Webhooks Analytics

/-- The point one execution of `processSendJob` has reached. -/
inductive DeliveryPhase where
  | claimed (claim : ClaimedSend)
  | calling (claim : ClaimedSend) (dispatchedAt : Timestamp)
  | answered (claim : ClaimedSend) (dispatchedAt : Timestamp) (dispatchDurationMs : Int) (outcome : CallOutcome)
  | finished (result : SendJobResult)
  deriving DecidableEq, Repr

structure JobDelivery where
  id : Nat
  job : SendJob
  phase : DeliveryPhase
  deriving DecidableEq, Repr

structure ProviderCall where
  deliveryId : Nat
  intent : SendIntent
  claim : ClaimedSend
  outcome : Option CallOutcome
  deriving DecidableEq, Repr

structure Kickoff where
  id : Nat
  job : KickoffJob
  phase : KickoffPhase
  deriving DecidableEq, Repr

structure Launch where
  id : Nat
  job : KickoffJob
  committed : Bool
  deriving DecidableEq, Repr

structure SchedulerTick where
  id : Nat
  due : List DueCampaign
  transitioned : Option DueCampaign
  deriving DecidableEq, Repr

structure World where
  now : Timestamp
  db : Database := {}
  sendJobs : JobQueue SendJob := .empty
  kickoffJobs : JobQueue KickoffJob := .empty
  deliveries : Table JobDelivery.id := .empty
  providerCalls : Table ProviderCall.deliveryId := .empty
  kickoffs : Table Kickoff.id := .empty
  launches : Table Launch.id := .empty
  ticks : Table SchedulerTick.id := .empty

inductive EnvironmentEvent where
  | advance (milliseconds : Nat)
  | createWorkspace (id : WorkspaceId) (slug : String)
  | softDeleteWorkspace (id : WorkspaceId)
  | restoreWorkspace (id : WorkspaceId)
  | putContact (contact : Contact)
  | putSegment (segment : Segment)
  | putSendSettings (settings : SendSettings)
  | putSendgridKey (key : SendgridKey)
  | removeSendgridKey (workspaceId : WorkspaceId)
  | putFlowVersion (version : FlowVersion)
  | putFlowRun (flowRun : FlowRun)
  | enqueueFlowSend (workspaceId : WorkspaceId) (flowRunId : FlowRunId) (nodeId : NodeId) (contactId : ContactId)
  | expireSendJob (job : SendJob)
  | expireKickoffJob (job : KickoffJob)

def environmentStep (world : World) : EnvironmentEvent → Option World
  | .advance milliseconds => some { world with now := world.now + milliseconds }
  | .createWorkspace id slug =>
    some { world with db := { world.db with organizations := world.db.organizations.insert { id, slug } } }
  | .softDeleteWorkspace id =>
    let organizations := world.db.organizations.update
      (fun organization => organization.id == id && organization.deletedAt.isNone)
      (fun organization => { organization with deletedAt := some world.now })
    some { world with db := { world.db with organizations } }
  | .restoreWorkspace id =>
    match (world.db.organizations.find? id).filter (·.deletedAt.isSome) with
    | none => none
    | some _ =>
      let organizations := world.db.organizations.update (fun organization => organization.id == id)
        (fun organization => { organization with deletedAt := none })
      let campaigns := flipOverdueToDraft world.now world.db.campaigns id
      some { world with db := { world.db with organizations, campaigns } }
  | .putContact contact =>
    some { world with db := { world.db with contacts := world.db.contacts.put contact } }
  | .putSegment segment =>
    some { world with db := { world.db with segments := world.db.segments.put segment } }
  | .putSendSettings settings =>
    some { world with db := { world.db with sendSettings := world.db.sendSettings.put settings } }
  | .putSendgridKey key =>
    some { world with db := { world.db with sendgridKeys := world.db.sendgridKeys.put key } }
  | .removeSendgridKey workspaceId =>
    some { world with db := { world.db with sendgridKeys := world.db.sendgridKeys.erase workspaceId } }
  | .putFlowVersion version =>
    some { world with db := { world.db with flowVersions := world.db.flowVersions.put version } }
  | .putFlowRun flowRun =>
    some { world with db := { world.db with flowRuns := world.db.flowRuns.put flowRun } }
  | .enqueueFlowSend workspaceId flowRunId nodeId contactId =>
    some { world with sendJobs := world.sendJobs.add (.flow workspaceId flowRunId nodeId contactId) }
  | .expireSendJob job => some { world with sendJobs := world.sendJobs.expire job }
  | .expireKickoffJob job => some { world with kickoffJobs := world.kickoffJobs.expire job }

inductive ApiRequest where
  | createCampaign (workspaceId : WorkspaceId) (id : CampaignId) (input : CreateCampaignInput)
  | updateCampaign (workspaceId : WorkspaceId) (id : CampaignId) (patch : UpdateCampaignInput)
  | scheduleCampaign (workspaceId : WorkspaceId) (id : CampaignId) (scheduledAt : Timestamp)
      (options : ResolvedSenderOptions)
  | cancelCampaign (workspaceId : WorkspaceId) (id : CampaignId)
  | testSend (workspaceId : WorkspaceId) (id : CampaignId) (options : ResolvedSenderOptions)

/-- A refused request changes nothing. -/
def replied (campaigns : LocalCrm.Campaigns) :
    Except CampaignStateError LocalCrm.Campaigns → LocalCrm.Campaigns
  | .ok next => next
  | .error _ => campaigns

def apiCampaigns (world : World) : ApiRequest → Option LocalCrm.Campaigns
  | .createCampaign workspaceId id input =>
    if (world.db.campaigns.find? id).isSome ∨ (world.db.organizations.find? workspaceId).isNone then none
    else some (createCampaign world.db.campaigns workspaceId id input)
  | .updateCampaign workspaceId id patch =>
    some (replied world.db.campaigns (updateCampaign world.db.campaigns workspaceId id patch))
  | .scheduleCampaign workspaceId id scheduledAt options =>
    if scheduledAt ≤ world.now then some world.db.campaigns
    else some (replied world.db.campaigns
      (scheduleCampaign world.db.campaigns workspaceId id scheduledAt options))
  | .cancelCampaign workspaceId id =>
    some (replied world.db.campaigns (cancelCampaign world.now world.db.campaigns workspaceId id))
  | .testSend workspaceId id options =>
    some (replied world.db.campaigns (prepareCampaignTestSend world.db.campaigns workspaceId id options))

def apiStep (world : World) (request : ApiRequest) : Option World :=
  (apiCampaigns world request).map fun campaigns => { world with db := { world.db with campaigns } }

inductive LaunchEvent where
  | request (id : Nat) (slug : String) (campaignId : CampaignId)
  | commit (id : Nat) (options : ResolvedSenderOptions)
  | enqueue (id : Nat)
  | crash (id : Nat)

def findActiveWorkspaceBySlug (organizations : Table Organization.id) (slug : String) : Option Organization :=
  organizations.rows.find? fun organization => organization.slug == slug && organization.deletedAt.isNone

def launchStep (world : World) : LaunchEvent → Option World
  | .request id slug campaignId =>
    match world.launches.find? id, findActiveWorkspaceBySlug world.db.organizations slug with
    | none, some organization =>
      let job := { workspaceId := organization.id, campaignId }
      some { world with launches := world.launches.put { id, job, committed := false } }
    | _, _ => none
  | .commit id options =>
    match (world.launches.find? id).filter fun launch => !launch.committed with
    | none => none
    | some launch =>
      match launchCampaign world.now world.db.campaigns launch.job.workspaceId launch.job.campaignId options with
      | .error _ => some { world with launches := world.launches.erase id }
      | .ok campaigns =>
        some { world with
          db := { world.db with campaigns }
          launches := world.launches.put { launch with committed := true } }
  | .enqueue id =>
    match (world.launches.find? id).filter (·.committed) with
    | none => none
    | some launch =>
      some { world with
        kickoffJobs := world.kickoffJobs.add launch.job
        launches := world.launches.erase id }
  | .crash id => some { world with launches := world.launches.erase id }

inductive TickEvent where
  | begin (id : Nat)
  | transition (id : Nat) (locked : Bool)
  | enqueue (id : Nat)
  | finish (id : Nat)
  | crash (id : Nat)

/-- The scheduler's tick: the scan, then each candidate's transition and enqueue. -/
def tickStep (world : World) : TickEvent → Option World
  | .begin id =>
    match world.ticks.find? id with
    | none =>
      let due := findDueCampaignCandidates world.now world.db.organizations world.db.campaigns
      some { world with ticks := world.ticks.put { id, due, transitioned := none } }
    | some _ => none
  | .transition id locked =>
    match world.ticks.find? id with
    | some { id := _, due := row :: rest, transitioned := none } =>
      let (transitioned, campaigns) := transitionToSending world.now world.db.campaigns row locked
      let tick := { id, due := rest, transitioned := if transitioned then some row else none }
      some { world with db := { world.db with campaigns }, ticks := world.ticks.put tick }
    | _ => none
  | .enqueue id =>
    match world.ticks.find? id with
    | some { id := _, due, transitioned := some row } =>
      let job := { workspaceId := row.workspaceId, campaignId := row.id }
      some { world with
        kickoffJobs := world.kickoffJobs.add job
        ticks := world.ticks.put { id, due, transitioned := none } }
    | _ => none
  | .finish id =>
    match world.ticks.find? id with
    | some { id := _, due := [], transitioned := none } => some { world with ticks := world.ticks.erase id }
    | _ => none
  | .crash id => some { world with ticks := world.ticks.erase id }

inductive KickoffEvent where
  | start (id : Nat) (job : KickoffJob)
  | advance (id : Nat) (matching : List ContactId)
  | ack (id : Nat)
  | crash (id : Nat)

/-- A pending kickoff job may be started at any time; an execution that threw or crashed leaves its job
pending. -/
def kickoffEventStep (world : World) : KickoffEvent → Option World
  | .start id job =>
    if job ∈ world.kickoffJobs.pending ∧ world.kickoffs.find? id = none then
      some { world with kickoffs := world.kickoffs.put { id, job, phase := .started } }
    else none
  | .advance id matching =>
    match world.kickoffs.find? id with
    | none => none
    | some kickoff =>
      let next := kickoffStep world.now world.db world.sendJobs kickoff.job matching kickoff.phase
      some { world with
        db := next.db
        sendJobs := next.sendJobs
        kickoffs := world.kickoffs.put { kickoff with phase := next.phase } }
  | .ack id =>
    match (world.kickoffs.find? id).filter (·.phase == .returned) with
    | none => none
    | some kickoff =>
      some { world with
        kickoffJobs := world.kickoffJobs.finish kickoff.job
        kickoffs := world.kickoffs.erase id }
  | .crash id => some { world with kickoffs := world.kickoffs.erase id }

inductive DeliveryEvent where
  | deliver (id : Nat) (job : SendJob)
  | deny (id : Nat)
  | call (id : Nat)
  | answer (id : Nat) (outcome : CallOutcome)
  | settle (id : Nat)
  | ack (id : Nat)
  | retry (id : Nat)
  | giveUp (id : Nat)
  | crash (id : Nat)

def phaseOfClaim : ClaimResult → DeliveryPhase
  | .proceed claim => .claimed claim
  | .excluded reason => .finished (.excluded reason)
  | .skipped => .finished .skipped
  | .reconciling sendId => .finished (.reconciling sendId)

/-- The units of a send job. `deny` is a refused lane slot or rate token; both
release the claim. -/
def deliveryStep (ids : SendIdScheme) (world : World) : DeliveryEvent → Option World
  | .deliver id job =>
    if job ∈ world.sendJobs.pending ∧ world.deliveries.find? id = none ∧ world.providerCalls.find? id = none then
      match claimSend ids world.now world.db job with
      | .error _ => some { world with deliveries := world.deliveries.put { id, job, phase := .finished .threw } }
      | .ok (result, db) =>
        some { world with db, deliveries := world.deliveries.put { id, job, phase := phaseOfClaim result } }
    else none
  | .deny id =>
    match world.deliveries.find? id with
    | some { id := _, job, phase := .claimed claim } =>
      let sends := releaseDispatchClaim ids world.db.sends claim.sendId
      let phase := .finished (.rateLimited .tenantBucket)
      some { world with db := { world.db with sends }, deliveries := world.deliveries.put { id, job, phase } }
    | _ => none
  | .call id =>
    match world.deliveries.find? id with
    | some { id := _, job, phase := .claimed claim } =>
      some { world with
        deliveries := world.deliveries.put { id, job, phase := .calling claim world.now }
        providerCalls :=
          world.providerCalls.insert { deliveryId := id, intent := job.intent, claim, outcome := none } }
    | _ => none
  | .answer id outcome =>
    match world.deliveries.find? id with
    | some { id := _, job, phase := .calling claim dispatchedAt } =>
      let phase := .answered claim dispatchedAt (world.now - dispatchedAt) outcome
      some { world with
        deliveries := world.deliveries.put { id, job, phase }
        providerCalls := world.providerCalls.update (fun call => call.deliveryId == id)
          fun call => { call with outcome := some outcome } }
    | _ => none
  | .settle id =>
    match world.deliveries.find? id with
    | some { id := _, job, phase := .answered claim dispatchedAt duration outcome } =>
      let (result, db) := settleOutcome ids world.now world.db job claim.sendId dispatchedAt duration outcome
      some { world with db, deliveries := world.deliveries.put { id, job, phase := .finished result } }
    | _ => none
  | .ack id =>
    match world.deliveries.find? id with
    | some { id := _, job, phase := .finished result } =>
      if result.completes then
        some { world with sendJobs := world.sendJobs.finish job, deliveries := world.deliveries.erase id }
      else none
    | _ => none
  | .retry id =>
    match world.deliveries.find? id with
    | some { id := _, job := _, phase := .finished result } =>
      if result.completes then none else some { world with deliveries := world.deliveries.erase id }
    | _ => none
  | .giveUp id =>
    match world.deliveries.find? id with
    | some { id := _, job, phase := .finished .threw } =>
      some { world with sendJobs := world.sendJobs.finish job, deliveries := world.deliveries.erase id }
    | _ => none
  | .crash id => some { world with deliveries := world.deliveries.erase id }

inductive Label where
  | environment (event : EnvironmentEvent)
  | api (request : ApiRequest)
  | launch (event : LaunchEvent)
  | tick (event : TickEvent)
  | kickoff (event : KickoffEvent)
  | delivery (event : DeliveryEvent)
  | reconcile (sendId : SendId)
  | webhookBatch (workspaceId : WorkspaceId) (events : List JsonValue)
  | sweep (workspaceId : WorkspaceId)

def step (platform : Platform) (world : World) : Label → Option World
  | .environment event => environmentStep world event
  | .api request => apiStep world request
  | .launch event => launchStep world event
  | .tick event => tickStep world event
  | .kickoff event => kickoffEventStep world event
  | .delivery event => deliveryStep platform.sendIds world event
  | .reconcile sendId => some { world with db := resolveOneSend platform.sendIds world.now world.db sendId }
  | .webhookBatch workspaceId events =>
    some { world with db := processWebhookEventBatch platform world.now world.db workspaceId events }
  | .sweep workspaceId =>
    if workspaceId ∈ findLiveWorkspaceIds world.db.organizations then
      let dailyRollups :=
        reconcileWorkspace world.now world.db.sends world.db.dailyRollups workspaceId reconcileWindowDays
      some { world with db := { world.db with dailyRollups } }
    else none

/-- Nothing has happened yet. -/
def initialWorld (now : Timestamp) : World := { now }

def Reachable (platform : Platform) (world : World) : Prop :=
  ∃ start trace, run (step platform) (initialWorld start) trace = some world

end LocalCrm.System
