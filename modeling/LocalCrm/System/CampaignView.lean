import LocalCrm.Library.Census
import LocalCrm.System.Audience
import LocalCrm.System.Holders

/-! One campaign of the system, seen through what its completion is about. -/

set_option autoImplicit false

namespace LocalCrm.System

open Library Delivery Campaigns Webhooks Analytics

/-- How far the send to a recipient got. -/
inductive Standing where
  | undecided
  | sent
  | failed
  | excluded
  | ambiguous
  deriving DecidableEq, Repr

def standingOf : Option SendStatus → Standing
  | none | some .dispatching => .undecided
  | some .sent => .sent
  | some .failed => .failed
  | some .excluded => .excluded
  | some .reconciling | some .unknown => .ambiguous

structure WalkView where
  upcoming : ContactId → Bool
  sendableTotal : Nat

def walkView : KickoffPhase → Option WalkView
  | .paging walk => some ⟨isAfter walk.cursor, walk.sendableTotal⟩
  | .fetching walk page =>
    some ⟨fun contactId => contactId ∈ page || isAfter (page.getLast?.or walk.cursor) contactId, walk.sendableTotal⟩
  | .judging walk pageEnd rest =>
    some ⟨fun contactId => contactId ∈ rest.map Prod.fst || isAfter pageEnd contactId, walk.sendableTotal⟩
  | .excluding walk pageEnd current _ rest =>
    some ⟨fun contactId => contactId ∈ current :: rest.map Prod.fst || isAfter pageEnd contactId, walk.sendableTotal⟩
  | .enqueueing walk pageEnd _ rest =>
    some ⟨fun contactId => contactId ∈ rest.map Prod.fst || isAfter pageEnd contactId, walk.sendableTotal⟩
  | .finishing walk => some ⟨fun _ => false, walk.sendableTotal⟩
  | .started | .admitted | .loading | .snapshotting _ | .returned | .threw _ => none

@[ext] structure CampaignView where
  columns : Option Progress
  audience : Finset ContactId
  standing : ContactId → Standing
  walk : Nat → Option WalkView

namespace CampaignView

def count (view : CampaignView) (counted : ContactId → Standing → Bool) : Nat :=
  census view.audience view.standing counted

def countOf (view : CampaignView) (standing : Standing) : Nat := view.count fun _ other => other == standing

end CampaignView

def audienceOf (recipients : Table Recipient.key) (job : KickoffJob) : Finset ContactId :=
  ((recipients.rows.filter fun recipient =>
    recipient.campaignId == job.campaignId && recipient.workspaceId == job.workspaceId).map
      Recipient.contactId).toFinset

def intentFor (job : KickoffJob) (contactId : ContactId) : SendIntent :=
  .campaign job.workspaceId job.campaignId contactId

def sendJobFor (job : KickoffJob) (contactId : ContactId) : SendJob :=
  .campaign job.workspaceId job.campaignId contactId

def walkOf (job : KickoffJob) (kickoff : Kickoff) : Option WalkView :=
  if kickoff.job = job then walkView kickoff.phase else none

def campaignView (job : KickoffJob) (world : World) : CampaignView where
  columns := progressOf world.db.campaigns job.campaignId
  audience := audienceOf world.db.campaignRecipients job
  standing contactId := standingOf (statusOf world.db.sends (intentFor job contactId))
  walk id := (world.kickoffs.find? id).bind (walkOf job)

def Owns (world : World) (job : KickoffJob) : Prop :=
  ∀ columns, progressOf world.db.campaigns job.campaignId = some columns → columns.workspaceId = job.workspaceId

theorem view_of_mem {world : World} {campaign : Campaign} (member : campaign ∈ world.db.campaigns.rows) :
    Owns world { workspaceId := campaign.workspaceId, campaignId := campaign.id } ∧
      progressOf world.db.campaigns campaign.id = some (progress campaign) := by
  have stored : progressOf world.db.campaigns campaign.id = some (progress campaign) := by
    rw [progressOf, Table.find?_of_mem member, Option.map_some]
  refine ⟨?_, stored⟩
  intro columns found
  cases stored.symm.trans found
  rfl

def recordedColumns (ambiguous : Nat) : RecordedStatus → Progress → Progress
  | .sent, columns => (columns.counted .sent).completed ambiguous
  | .failed, columns => (columns.counted .failed).completed ambiguous
  | .reconciling, columns => columns

def recordedStanding : RecordedStatus → Standing
  | .sent => .sent
  | .failed => .failed
  | .reconciling => .ambiguous

inductive CampaignTaken (ids : SendIdScheme) (world : World) (job : KickoffJob) (view : CampaignView) :
    Label → CampaignView → Prop where
  | unmoved {label : Label} : CampaignTaken ids world job view label view
  | edited {label : Label} (columns : Option Progress)
      (edit : Edited world.db.organizations view.columns columns) :
      CampaignTaken ids world job view label { view with columns }
  | launched {label : Label} (columns : Progress) (found : view.columns = some columns)
      (unstarted : ¬ columns.Started) :
      CampaignTaken ids world job view label { view with columns := some (columns.withStatus .sending) }
  | turnedAway {id : Nat} {reason : String} {db : Database} (contactId : ContactId) (listed : contactId ∈ view.audience)
      (free : statusOf world.db.sends (intentFor job contactId) = none)
      (refused : claimSend ids world.now world.db (sendJobFor job contactId) = .ok (.excluded reason, db)) :
      CampaignTaken ids world job view (.delivery (.deliver id (sendJobFor job contactId)))
        { view with standing := Function.update view.standing contactId .excluded }
  | interrupted {id : Nat} {sendId : SendId} {db : Database} (contactId : ContactId)
      (listed : contactId ∈ view.audience)
      (held : statusOf world.db.sends (intentFor job contactId) = some .dispatching)
      (doubted : claimSend ids world.now world.db (sendJobFor job contactId) = .ok (.reconciling sendId, db)) :
      CampaignTaken ids world job view (.delivery (.deliver id (sendJobFor job contactId)))
        { view with standing := Function.update view.standing contactId .ambiguous }
  | swept (contactId : ContactId) (row : Send) (listed : contactId ∈ view.audience)
      (held : statusOf world.db.sends (intentFor job contactId) = some .dispatching)
      (present : row ∈ world.db.sends.rows) (owner : row.intent = intentFor job contactId)
      (stale : classifyReconcilableSend world.now row
        (hasEvidence world.db.sendEvents (ids.derive (intentFor job contactId))) = .sweepToReconciling) :
      CampaignTaken ids world job view (.reconcile (ids.derive (intentFor job contactId)))
        { view with standing := Function.update view.standing contactId .ambiguous }
  | recorded {id : Nat} (contactId : ContactId) (claim : ClaimedSend) (dispatchedAt : Timestamp) (duration : Int)
      (outcome : CallOutcome) (source : SendStatus) (status : RecordedStatus) (after : CampaignView)
      (listed : contactId ∈ view.audience)
      (found : world.deliveries.find? id =
        some { id, job := sendJobFor job contactId
               phase := .answered claim dispatchedAt duration outcome })
      (recorded : recordedStatus outcome = some status)
      (stored : statusOf world.db.sends (intentFor job contactId) = some source)
      (holdable : Holdable source)
      (moved : after =
        { view with standing := Function.update view.standing contactId (recordedStanding status) }) :
      CampaignTaken ids world job view (.delivery (.settle id))
        { after with columns := view.columns.map (recordedColumns (after.countOf .ambiguous) status) }
  | resolved (contactId : ContactId) (after : CampaignView) (listed : contactId ∈ view.audience)
      (waiting : view.standing contactId = .ambiguous)
      (moved : after = { view with standing := Function.update view.standing contactId .sent }) :
      CampaignTaken ids world job view (.reconcile (ids.derive (intentFor job contactId)))
        { after with
          columns := view.columns.map fun columns => (columns.count .sent).completed (after.countOf .ambiguous) }
  | enrolled {id : Nat} {matching : List ContactId} (kickoff : Kickoff) (cursor : Option ContactId)
      (found : world.kickoffs.find? id = some kickoff) (owner : kickoff.job = job)
      (phase : kickoff.phase = .snapshotting cursor) :
      CampaignTaken ids world job view (.kickoff (.advance id matching))
        { view with
          audience := view.audience ∪ (snapshotBatch world.db job.workspaceId matching cursor).toFinset }
  | walkStarted {label : Label} (id : Nat) :
      CampaignTaken ids world job view label
        { view with walk := Function.update view.walk id (some ⟨fun _ => true, 0⟩) }
  | walkTurned {label : Label} (id : Nat) (walk turned : WalkView) (present : view.walk id = some walk)
      (total : turned.sendableTotal = walk.sendableTotal)
      (upcoming : ∀ contactId ∈ view.audience, turned.upcoming contactId = walk.upcoming contactId) :
      CampaignTaken ids world job view label { view with walk := Function.update view.walk id (some turned) }
  | walkCounted {id : Nat} {matching : List ContactId} (contactId : ContactId) (walk turned : WalkView)
      (kickoff : Kickoff) (counters : Walk) (pageEnd : Option ContactId) (contact : Contact)
      (rest : List (ContactId × Option Contact)) (found : world.kickoffs.find? id = some kickoff)
      (owner : kickoff.job = job)
      (phase : kickoff.phase = .judging counters pageEnd ((contactId, some contact) :: rest))
      (sendable : evaluatePreSendGate world.now world.db job.workspaceId contact = .sendable)
      (listed : contactId ∈ view.audience) (present : view.walk id = some walk)
      (next : walk.upcoming contactId = true) (total : turned.sendableTotal = walk.sendableTotal + 1)
      (upcoming : ∀ other ∈ view.audience,
        turned.upcoming other = (walk.upcoming other && decide (other ≠ contactId))) :
      CampaignTaken ids world job view (.kickoff (.advance id matching))
        { view with walk := Function.update view.walk id (some turned) }
  | walkExcluded {id : Nat} {matching : List ContactId} (contactId : ContactId) (walk turned : WalkView)
      (kickoff : Kickoff) (counters : Walk) (pageEnd : Option ContactId) (reason : String)
      (rest : List (ContactId × Option Contact)) (standing : ContactId → Standing)
      (found : world.kickoffs.find? id = some kickoff) (owner : kickoff.job = job)
      (phase : kickoff.phase = .excluding counters pageEnd contactId reason rest)
      (listed : contactId ∈ view.audience) (present : view.walk id = some walk)
      (next : walk.upcoming contactId = true) (total : turned.sendableTotal = walk.sendableTotal)
      (upcoming : ∀ other ∈ view.audience,
        turned.upcoming other = (walk.upcoming other && decide (other ≠ contactId)))
      (written : standing =
        if statusOf world.db.sends (intentFor job contactId) = none then
          Function.update view.standing contactId .excluded
        else view.standing) :
      CampaignTaken ids world job view (.kickoff (.advance id matching))
        { view with standing, walk := Function.update view.walk id (some turned) }
  | walkEnded {label : Label} (id : Nat) :
      CampaignTaken ids world job view label { view with walk := Function.update view.walk id none }
  | totaled {label : Label} (id : Nat) (walk : WalkView) (present : view.walk id = some walk)
      (atEnd : ∀ contactId ∈ view.audience, walk.upcoming contactId = false) :
      CampaignTaken ids world job view label
        { view with
          columns := view.columns.map (·.fannedOut (view.countOf .ambiguous) walk.sendableTotal)
          walk := Function.update view.walk id none }

end LocalCrm.System
