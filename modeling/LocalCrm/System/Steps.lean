import LocalCrm.System.World
import LocalCrm.Webhooks.DeliveryFrame

/-! What one step of the system can do, label group by label group.

Everything proved about runs rests on these inversions; none of the step functions is unfolded again.
-/

set_option autoImplicit false

namespace LocalCrm.System

open Library Delivery Campaigns Webhooks Analytics

inductive EditCommits (now : Timestamp) (organizations : Table Organization.id) (campaigns : LocalCrm.Campaigns) :
    LocalCrm.Campaigns → Prop where
  | unchanged : EditCommits now organizations campaigns campaigns
  | created (workspaceId : WorkspaceId) (id : CampaignId) (input : CreateCampaignInput)
      (fresh : campaigns.find? id = none) (owner : (organizations.find? workspaceId).isSome) :
      EditCommits now organizations campaigns (createCampaign campaigns workspaceId id input)
  | updated (workspaceId : WorkspaceId) (id : CampaignId) (patch : UpdateCampaignInput) (existing : Campaign)
      (located : getCampaign campaigns workspaceId id = some existing) (draft : existing.status = .draft) :
      EditCommits now organizations campaigns (campaigns.update (·.id == id) patch.assign patch.id_assign)
  | scheduled (workspaceId : WorkspaceId) (id : CampaignId) (scheduledAt : Timestamp)
      (options : ResolvedSenderOptions) (existing : Campaign)
      (located : getCampaign campaigns workspaceId id = some existing) (draft : existing.status = .draft) :
      EditCommits now organizations campaigns (campaigns.update (·.id == id) (options.assignSchedule scheduledAt)
        (options.id_assignSchedule scheduledAt))
  | unscheduled (workspaceId : WorkspaceId) (id : CampaignId) (existing : Campaign)
      (located : getCampaign campaigns workspaceId id = some existing)
      (waiting : existing.status = .scheduled) :
      EditCommits now organizations campaigns (campaigns.update (·.id == id) Campaigns.unscheduled id_unscheduled)
  | canceled (workspaceId : WorkspaceId) (id : CampaignId) (existing : Campaign)
      (located : getCampaign campaigns workspaceId id = some existing) (sending : existing.status = .sending) :
      EditCommits now organizations campaigns (campaigns.update (·.id == id) (canceledAt now) (id_canceledAt now))
  | senderSet (id : CampaignId) (fromEmail : String) (fromName : Option String) :
      EditCommits now organizations campaigns (campaigns.update
        (fun campaign => campaign.id == id &&
          (campaign.fromEmail != some fromEmail || campaign.fromName != fromName))
        (withSender fromEmail fromName) (id_withSender fromEmail fromName))
  | restored (workspaceId : WorkspaceId) :
      EditCommits now organizations campaigns (flipOverdueToDraft now campaigns workspaceId)

theorem replied_commits {now : Timestamp} {organizations : Table Organization.id} {campaigns : LocalCrm.Campaigns}
    {reply : Except CampaignStateError LocalCrm.Campaigns}
    (granted : ∀ next, reply = .ok next → EditCommits now organizations campaigns next) :
    EditCommits now organizations campaigns (replied campaigns reply) := by
  cases reply with
  | error failure => exact .unchanged
  | ok next => exact granted next rfl

theorem apiCampaigns_commits {world : World} {request : ApiRequest} {campaigns : LocalCrm.Campaigns}
    (answered : apiCampaigns world request = some campaigns) :
    EditCommits world.now world.db.organizations world.db.campaigns campaigns := by
  cases request with
  | createCampaign workspaceId id input =>
    simp only [apiCampaigns] at answered
    split at answered
    · cases answered
    · next enabled =>
      cases answered
      obtain ⟨fresh, owner⟩ := not_or.mp enabled
      exact .created workspaceId id input (by simpa using fresh) (by simpa [Option.isSome_iff_ne_none] using owner)
  | updateCampaign workspaceId id patch =>
    cases answered
    refine replied_commits fun next committed => ?_
    obtain ⟨existing, located, draft, rfl⟩ := updateCampaign_ok committed
    exact .updated workspaceId id patch existing located draft
  | scheduleCampaign workspaceId id scheduledAt options =>
    simp only [apiCampaigns] at answered
    split at answered
    · cases answered
      exact .unchanged
    · cases answered
      refine replied_commits fun next committed => ?_
      obtain ⟨existing, located, draft, _, rfl⟩ := scheduleCampaign_ok committed
      exact .scheduled workspaceId id scheduledAt options existing located draft
  | cancelCampaign workspaceId id =>
    cases answered
    refine replied_commits fun next committed => ?_
    obtain ⟨existing, located, ⟨waiting, rfl⟩ | ⟨sending, rfl⟩⟩ := cancelCampaign_ok committed
    · exact .unscheduled workspaceId id existing located waiting
    · exact .canceled workspaceId id existing located sending
  | testSend workspaceId id options =>
    cases answered
    refine replied_commits fun next committed => ?_
    obtain ⟨existing, fromEmail, _, _, _, rfl⟩ := prepareCampaignTestSend_ok committed
    exact .senderSet id fromEmail _

theorem apiStep_taken {world next : World} {request : ApiRequest} (taken : apiStep world request = some next) :
    ∃ campaigns, EditCommits world.now world.db.organizations world.db.campaigns campaigns ∧
      next = { world with db := { world.db with campaigns } } := by
  obtain ⟨campaigns, answered, rfl⟩ := Option.map_eq_some_iff.mp taken
  exact ⟨campaigns, apiCampaigns_commits answered, rfl⟩

def OfFlow : SendJob → Prop
  | .campaign _ _ _ => False
  | .flow _ _ _ _ => True

structure OutsideFrame (world : World) (event : EnvironmentEvent) (next : World) : Prop where
  organizations : ∀ workspaceId, (world.db.organizations.find? workspaceId).isSome →
    (next.db.organizations.find? workspaceId).isSome
  revived : ∀ workspaceId, (world.db.organizations.find? workspaceId).isSome →
    isWorkspaceSoftDeleted next.db.organizations workspaceId = false →
    isWorkspaceSoftDeleted world.db.organizations workspaceId = false ∨ event = .restoreWorkspace workspaceId
  sendPending : ∀ job ∈ next.sendJobs.pending, job ∈ world.sendJobs.pending ∨ OfFlow job
  kickoffPending : next.kickoffJobs.pending = world.kickoffJobs.pending
  kickoffKnown : ∀ job, next.kickoffJobs.Knows job → world.kickoffJobs.Knows job
  campaigns : EditCommits world.now world.db.organizations world.db.campaigns next.db.campaigns
  sends : next.db.sends = world.db.sends
  campaignRecipients : next.db.campaignRecipients = world.db.campaignRecipients
  dailyRollups : next.db.dailyRollups = world.db.dailyRollups
  deliveries : next.deliveries = world.deliveries
  providerCalls : next.providerCalls = world.providerCalls
  kickoffs : next.kickoffs = world.kickoffs
  launches : next.launches = world.launches
  ticks : next.ticks = world.ticks

theorem outsideFrame_of_kept {world next : World} {event : EnvironmentEvent}
    (organizations : ∀ workspaceId, (world.db.organizations.find? workspaceId).isSome →
      (next.db.organizations.find? workspaceId).isSome)
    (revived : ∀ workspaceId, (world.db.organizations.find? workspaceId).isSome →
      isWorkspaceSoftDeleted next.db.organizations workspaceId = false →
      isWorkspaceSoftDeleted world.db.organizations workspaceId = false ∨ event = .restoreWorkspace workspaceId)
    (sendPending : ∀ job ∈ next.sendJobs.pending, job ∈ world.sendJobs.pending ∨ OfFlow job)
    (campaigns : EditCommits world.now world.db.organizations world.db.campaigns next.db.campaigns)
    (kickoffJobs : next.kickoffJobs = world.kickoffJobs) (sends : next.db.sends = world.db.sends)
    (recipients : next.db.campaignRecipients = world.db.campaignRecipients)
    (rollups : next.db.dailyRollups = world.db.dailyRollups)
    (executions : next.deliveries = world.deliveries ∧ next.providerCalls = world.providerCalls ∧
      next.kickoffs = world.kickoffs ∧ next.launches = world.launches ∧ next.ticks = world.ticks) :
    OutsideFrame world event next where
  organizations := organizations
  revived := revived
  sendPending := sendPending
  kickoffPending := by rw [kickoffJobs]
  kickoffKnown job knows := by
    rw [kickoffJobs] at knows
    exact knows
  campaigns := campaigns
  sends := sends
  campaignRecipients := recipients
  dailyRollups := rollups
  deliveries := executions.1
  providerCalls := executions.2.1
  kickoffs := executions.2.2.1
  launches := executions.2.2.2.1
  ticks := executions.2.2.2.2

theorem environmentStep_frame {world next : World} {event : EnvironmentEvent}
    (taken : environmentStep world event = some next) : OutsideFrame world event next := by
  cases event with
  | createWorkspace id slug =>
    cases taken
    refine outsideFrame_of_kept ?_ ?_ (fun _ pending => .inl pending) .unchanged rfl rfl rfl rfl ⟨rfl, rfl, rfl, rfl, rfl⟩
    · intro workspaceId present
      rw [Table.find?_insert, Option.isSome_or, present, Bool.true_or]
    · intro workspaceId present alive
      obtain ⟨organization, found⟩ := Option.isSome_iff_exists.mp present
      simp only [isWorkspaceSoftDeleted, Table.find?_insert, found, Option.some_or] at alive ⊢
      exact .inl alive
  | softDeleteWorkspace id =>
    cases taken
    refine outsideFrame_of_kept ?_ ?_ (fun _ pending => .inl pending) .unchanged rfl rfl rfl rfl ⟨rfl, rfl, rfl, rfl, rfl⟩
    · intro workspaceId present
      rw [Table.find?_update, Option.isSome_map]
      exact present
    · intro workspaceId present alive
      obtain ⟨organization, found⟩ := Option.isSome_iff_exists.mp present
      simp only [isWorkspaceSoftDeleted, Table.find?_update, found, Option.map_some] at alive ⊢
      left
      split at alive
      · cases alive
      · exact alive
  | restoreWorkspace id =>
    simp only [environmentStep] at taken
    split at taken
    · cases taken
    · cases taken
      refine outsideFrame_of_kept ?_ ?_ (fun _ pending => .inl pending) (.restored id) rfl rfl rfl rfl ⟨rfl, rfl, rfl, rfl, rfl⟩
      · intro workspaceId present
        rw [Table.find?_update, Option.isSome_map]
        exact present
      · intro workspaceId present alive
        by_cases same : workspaceId = id
        · exact .inr (congrArg _ same.symm)
        · obtain ⟨organization, found⟩ := Option.isSome_iff_exists.mp present
          have keyed : organization.id = workspaceId := Table.key_of_find? found
          left
          simpa [isWorkspaceSoftDeleted, Table.find?_update, found, keyed, same] using alive
  | expireKickoffJob job =>
    cases taken
    exact { organizations := fun _ present => present, revived := fun _ _ alive => .inl alive
            sendPending := fun _ pending => .inl pending, kickoffPending := rfl
            kickoffKnown := fun _ knows => JobQueue.knows_of_expire knows
            campaigns := .unchanged, sends := rfl, campaignRecipients := rfl, dailyRollups := rfl
            deliveries := rfl, providerCalls := rfl, kickoffs := rfl, launches := rfl, ticks := rfl }
  | enqueueFlowSend workspaceId flowRunId nodeId contactId =>
    cases taken
    refine outsideFrame_of_kept (fun _ present => present) (fun _ _ alive => .inl alive) ?_ .unchanged rfl rfl rfl rfl
      ⟨rfl, rfl, rfl, rfl, rfl⟩
    intro job pending
    rcases JobQueue.mem_pending_add.mp pending with before | ⟨rfl, _⟩
    · exact .inl before
    · exact .inr trivial
  | _ =>
    cases taken
    exact outsideFrame_of_kept (fun _ present => present) (fun _ _ alive => .inl alive) (fun _ pending => .inl pending)
      .unchanged rfl rfl rfl rfl ⟨rfl, rfl, rfl, rfl, rfl⟩

inductive LaunchTaken (world : World) : LaunchEvent → World → Prop where
  | requested {id : Nat} {slug : String} {campaignId : CampaignId} (organization : Organization)
      (fresh : world.launches.find? id = none) :
      LaunchTaken world (.request id slug campaignId)
        { world with
          launches :=
            world.launches.put { id, job := { workspaceId := organization.id, campaignId }, committed := false } }
  | refused {id : Nat} {options : ResolvedSenderOptions} (launch : Launch)
      (found : world.launches.find? id = some launch) (uncommitted : launch.committed = false) :
      LaunchTaken world (.commit id options) { world with launches := world.launches.erase id }
  | committed {id : Nat} {options : ResolvedSenderOptions} (launch : Launch) (campaigns : LocalCrm.Campaigns)
      (found : world.launches.find? id = some launch) (uncommitted : launch.committed = false)
      (launched : launchCampaign world.now world.db.campaigns launch.job.workspaceId launch.job.campaignId
        options = .ok campaigns) :
      LaunchTaken world (.commit id options)
        { world with
          db := { world.db with campaigns }
          launches := world.launches.put { launch with committed := true } }
  | enqueued {id : Nat} (launch : Launch) (found : world.launches.find? id = some launch)
      (committed : launch.committed = true) :
      LaunchTaken world (.enqueue id)
        { world with
          kickoffJobs := world.kickoffJobs.add launch.job
          launches := world.launches.erase id }
  | crashed {id : Nat} : LaunchTaken world (.crash id) { world with launches := world.launches.erase id }

theorem launchStep_taken {world next : World} {event : LaunchEvent} (taken : launchStep world event = some next) :
    LaunchTaken world event next := by
  cases event with
  | request id slug campaignId =>
    simp only [launchStep] at taken
    split at taken
    · next fresh _ =>
      cases taken
      exact .requested _ fresh
    · cases taken
  | commit id options =>
    simp only [launchStep] at taken
    split at taken
    · cases taken
    · next launch located =>
      obtain ⟨found, uncommitted⟩ := Option.filter_eq_some_iff.mp located
      split at taken
      · cases taken
        exact .refused launch found (by simpa using uncommitted)
      · next campaigns launched =>
        cases taken
        exact .committed launch campaigns found (by simpa using uncommitted) launched
  | enqueue id =>
    simp only [launchStep] at taken
    split at taken
    · cases taken
    · next launch located =>
      obtain ⟨found, committed⟩ := Option.filter_eq_some_iff.mp located
      cases taken
      exact .enqueued launch found committed
  | crash id =>
    cases taken
    exact .crashed

inductive TickTaken (world : World) : TickEvent → World → Prop where
  | begun {id : Nat} (fresh : world.ticks.find? id = none) :
      TickTaken world (.begin id)
        { world with
          ticks := world.ticks.put
            { id, due := findDueCampaignCandidates world.now world.db.organizations world.db.campaigns
              transitioned := none } }
  | passed {id : Nat} {locked : Bool} (row : DueCampaign) (rest : List DueCampaign)
      (found : world.ticks.find? id = some { id, due := row :: rest, transitioned := none })
      (refused : transitionToSending world.now world.db.campaigns row locked = (false, world.db.campaigns)) :
      TickTaken world (.transition id locked)
        { world with ticks := world.ticks.put { id, due := rest, transitioned := none } }
  | transitioned {id : Nat} (row : DueCampaign) (rest : List DueCampaign) (campaign : Campaign)
      (found : world.ticks.find? id = some { id, due := row :: rest, transitioned := none })
      (stored : world.db.campaigns.find? row.id = some campaign)
      (owned : campaign.workspaceId = row.workspaceId) (due : isDue world.now campaign = true) :
      TickTaken world (.transition id false)
        { world with
          db := { world.db with
            campaigns := world.db.campaigns.update (fun campaign => campaign.id == row.id)
              (startedSending world.now) (id_startedSending world.now) }
          ticks := world.ticks.put { id, due := rest, transitioned := some row } }
  | enqueued {id : Nat} (due : List DueCampaign) (row : DueCampaign)
      (found : world.ticks.find? id = some { id, due, transitioned := some row }) :
      TickTaken world (.enqueue id)
        { world with
          kickoffJobs := world.kickoffJobs.add { workspaceId := row.workspaceId, campaignId := row.id }
          ticks := world.ticks.put { id, due, transitioned := none } }
  | finished {id : Nat} (found : world.ticks.find? id = some { id, due := [], transitioned := none }) :
      TickTaken world (.finish id) { world with ticks := world.ticks.erase id }
  | crashed {id : Nat} : TickTaken world (.crash id) { world with ticks := world.ticks.erase id }

theorem tickStep_taken {world next : World} {event : TickEvent} (taken : tickStep world event = some next) :
    TickTaken world event next := by
  cases event with
  | begin id =>
    simp only [tickStep] at taken
    split at taken
    · next fresh =>
      cases taken
      exact .begun fresh
    · cases taken
  | transition id locked =>
    simp only [tickStep] at taken
    split at taken
    · next key row rest found =>
      cases Table.key_of_find? found
      rcases transitionToSending_cases world.now world.db.campaigns row locked with
        refused | ⟨rfl, campaign, stored, owned, due, transitioned⟩
      · rw [refused] at taken
        cases taken
        exact .passed row rest found refused
      · rw [transitioned] at taken
        cases taken
        exact .transitioned row rest campaign found stored owned due
    · cases taken
  | enqueue id =>
    simp only [tickStep] at taken
    split at taken
    · next key due row found =>
      cases Table.key_of_find? found
      cases taken
      exact .enqueued due row found
    · cases taken
  | finish id =>
    simp only [tickStep] at taken
    split at taken
    · next key found =>
      cases Table.key_of_find? found
      cases taken
      exact .finished found
    · cases taken
  | crash id =>
    cases taken
    exact .crashed

inductive KickoffTaken (world : World) : KickoffEvent → World → Prop where
  | started {id : Nat} {job : KickoffJob} (pending : job ∈ world.kickoffJobs.pending)
      (fresh : world.kickoffs.find? id = none) :
      KickoffTaken world (.start id job)
        { world with kickoffs := world.kickoffs.put { id, job, phase := .started } }
  | advanced {id : Nat} {matching : List ContactId} (kickoff : Kickoff) (effect : KickoffEffect)
      (found : world.kickoffs.find? id = some kickoff)
      (stepped : kickoffStep world.now world.db world.sendJobs kickoff.job matching kickoff.phase = effect) :
      KickoffTaken world (.advance id matching)
        { world with
          db := effect.db
          sendJobs := effect.sendJobs
          kickoffs := world.kickoffs.put { kickoff with phase := effect.phase } }
  | acked {id : Nat} (kickoff : Kickoff) (found : world.kickoffs.find? id = some kickoff)
      (returned : kickoff.phase = .returned) :
      KickoffTaken world (.ack id)
        { world with
          kickoffJobs := world.kickoffJobs.finish kickoff.job
          kickoffs := world.kickoffs.erase id }
  | crashed {id : Nat} : KickoffTaken world (.crash id) { world with kickoffs := world.kickoffs.erase id }

theorem kickoffEventStep_taken {world next : World} {event : KickoffEvent}
    (taken : kickoffEventStep world event = some next) : KickoffTaken world event next := by
  cases event with
  | start id job =>
    simp only [kickoffEventStep] at taken
    split at taken
    · next enabled =>
      cases taken
      exact .started enabled.1 enabled.2
    · cases taken
  | advance id matching =>
    simp only [kickoffEventStep] at taken
    split at taken
    · cases taken
    · next kickoff found =>
      cases taken
      exact .advanced kickoff _ found rfl
  | ack id =>
    simp only [kickoffEventStep] at taken
    split at taken
    · cases taken
    · next kickoff located =>
      obtain ⟨found, returned⟩ := Option.filter_eq_some_iff.mp located
      cases taken
      exact .acked kickoff found (by simpa using returned)
  | crash id =>
    cases taken
    exact .crashed

inductive DeliveryTaken (ids : SendIdScheme) (world : World) : DeliveryEvent → World → Prop where
  | rejected {id : Nat} {job : SendJob} (pending : job ∈ world.sendJobs.pending)
      (fresh : world.deliveries.find? id = none) (uncalled : world.providerCalls.find? id = none) :
      DeliveryTaken ids world (.deliver id job)
        { world with deliveries := world.deliveries.put { id, job, phase := .finished .threw } }
  | delivered {id : Nat} {job : SendJob} (result : ClaimResult) (db : Database)
      (pending : job ∈ world.sendJobs.pending) (fresh : world.deliveries.find? id = none)
      (uncalled : world.providerCalls.find? id = none)
      (claimed : claimSend ids world.now world.db job = .ok (result, db)) :
      DeliveryTaken ids world (.deliver id job)
        { world with db, deliveries := world.deliveries.put { id, job, phase := phaseOfClaim result } }
  | denied {id : Nat} (job : SendJob) (claim : ClaimedSend)
      (found : world.deliveries.find? id = some { id, job, phase := .claimed claim }) :
      DeliveryTaken ids world (.deny id)
        { world with
          db := { world.db with sends := releaseDispatchClaim ids world.db.sends claim.sendId }
          deliveries := world.deliveries.put { id, job, phase := .finished (.rateLimited .tenantBucket) } }
  | called {id : Nat} (job : SendJob) (claim : ClaimedSend)
      (found : world.deliveries.find? id = some { id, job, phase := .claimed claim }) :
      DeliveryTaken ids world (.call id)
        { world with
          deliveries := world.deliveries.put { id, job, phase := .calling claim world.now }
          providerCalls :=
            world.providerCalls.insert { deliveryId := id, intent := job.intent, claim, outcome := none } }
  | answered {id : Nat} {outcome : CallOutcome} (job : SendJob) (claim : ClaimedSend) (dispatchedAt : Timestamp)
      (found : world.deliveries.find? id = some { id, job, phase := .calling claim dispatchedAt }) :
      DeliveryTaken ids world (.answer id outcome)
        { world with
          deliveries := world.deliveries.put
            { id, job, phase := .answered claim dispatchedAt (world.now - dispatchedAt) outcome }
          providerCalls := world.providerCalls.update (fun call => call.deliveryId == id)
            fun call => { call with outcome := some outcome } }
  | settled {id : Nat} (job : SendJob) (claim : ClaimedSend) (dispatchedAt : Timestamp) (duration : Int)
      (outcome : CallOutcome)
      (found : world.deliveries.find? id =
        some { id, job, phase := .answered claim dispatchedAt duration outcome }) :
      DeliveryTaken ids world (.settle id)
        { world with
          db := (settleOutcome ids world.now world.db job claim.sendId dispatchedAt duration outcome).2
          deliveries := world.deliveries.put
            { id, job
              phase := .finished
                (settleOutcome ids world.now world.db job claim.sendId dispatchedAt duration outcome).1 } }
  | acked {id : Nat} (job : SendJob) (result : SendJobResult)
      (found : world.deliveries.find? id = some { id, job, phase := .finished result })
      (completes : result.completes = true) :
      DeliveryTaken ids world (.ack id)
        { world with sendJobs := world.sendJobs.finish job, deliveries := world.deliveries.erase id }
  | retried {id : Nat} (job : SendJob) (result : SendJobResult)
      (found : world.deliveries.find? id = some { id, job, phase := .finished result })
      (repeats : result.completes = false) :
      DeliveryTaken ids world (.retry id) { world with deliveries := world.deliveries.erase id }
  | givenUp {id : Nat} (job : SendJob)
      (found : world.deliveries.find? id = some { id, job, phase := .finished .threw }) :
      DeliveryTaken ids world (.giveUp id)
        { world with sendJobs := world.sendJobs.finish job, deliveries := world.deliveries.erase id }
  | crashed {id : Nat} :
      DeliveryTaken ids world (.crash id) { world with deliveries := world.deliveries.erase id }

theorem deliveryStep_taken {ids : SendIdScheme} {world next : World} {event : DeliveryEvent}
    (taken : deliveryStep ids world event = some next) : DeliveryTaken ids world event next := by
  cases event with
  | deliver id job =>
    simp only [deliveryStep] at taken
    split at taken
    · next enabled =>
      obtain ⟨pending, fresh, uncalled⟩ := enabled
      split at taken
      · cases taken
        exact .rejected pending fresh uncalled
      · next result db claimed =>
        cases taken
        exact .delivered result db pending fresh uncalled claimed
    · cases taken
  | deny id =>
    simp only [deliveryStep] at taken
    split at taken
    · next key job claim found =>
      cases Table.key_of_find? found
      cases taken
      exact .denied job claim found
    · cases taken
  | call id =>
    simp only [deliveryStep] at taken
    split at taken
    · next key job claim found =>
      cases Table.key_of_find? found
      cases taken
      exact .called job claim found
    · cases taken
  | answer id outcome =>
    simp only [deliveryStep] at taken
    split at taken
    · next key job claim dispatchedAt found =>
      cases Table.key_of_find? found
      cases taken
      exact .answered job claim dispatchedAt found
    · cases taken
  | settle id =>
    simp only [deliveryStep] at taken
    split at taken
    · next key job claim dispatchedAt duration outcome found =>
      cases Table.key_of_find? found
      cases taken
      exact .settled job claim dispatchedAt duration outcome found
    · cases taken
  | ack id =>
    simp only [deliveryStep] at taken
    split at taken
    · next key job result found =>
      cases Table.key_of_find? found
      split at taken
      · next completes =>
        cases taken
        exact .acked job result found completes
      · cases taken
    · cases taken
  | retry id =>
    simp only [deliveryStep] at taken
    split at taken
    · next key job result found =>
      cases Table.key_of_find? found
      split at taken
      · cases taken
      · next repeats =>
        cases taken
        exact .retried job result found (by simpa using repeats)
    · cases taken
  | giveUp id =>
    simp only [deliveryStep] at taken
    split at taken
    · next key job found =>
      cases Table.key_of_find? found
      cases taken
      exact .givenUp job found
    · cases taken
  | crash id =>
    cases taken
    exact .crashed

def Label.isQuiet : Label → Bool
  | .webhookBatch _ _ | .sweep _ => true
  | _ => false

/-- Webhook batches and the sweep write nothing that decides a delivery. -/
theorem quietStep_taken {platform : Platform} {world next : World} {label : Label} (quiet : label.isQuiet = true)
    (taken : step platform world label = some next) :
    ∃ db, DeliveryKept world.db db ∧ next = { world with db } := by
  cases label with
  | webhookBatch workspaceId events =>
    cases taken
    exact ⟨_, kept_of_processWebhookEventBatch events, rfl⟩
  | sweep workspaceId =>
    simp only [step] at taken
    split at taken
    · cases taken
      refine ⟨_, ?_, rfl⟩
      exact ⟨fun _ => rfl, fun _ => rfl, rfl, rfl⟩
    · cases taken
  | _ => cases quiet

end LocalCrm.System
