import LocalCrm.System.AtMostOnce

/-! Every provider call goes back to one claim that saw no stop signal. -/

set_option autoImplicit false

namespace LocalCrm.System

open Library Delivery Campaigns Webhooks Analytics

/-- The campaign is sending, the workspace is there, and the contact is subscribed under the address used. -/
structure Clear (db : Database) (job : SendJob) (recipient : String) : Prop where
  campaign : ∀ workspaceId campaignId contactId, job = .campaign workspaceId campaignId contactId →
    ∃ campaign, db.campaigns.find? campaignId = some campaign ∧ campaign.workspaceId = workspaceId ∧
      campaign.status = .sending
  workspace : ∃ organization, db.organizations.find? job.intent.workspaceId = some organization ∧
    organization.deletedAt = none
  contact : ∃ contact, db.contacts.find? job.contactId = some contact ∧
    contact.workspaceId = job.intent.workspaceId ∧ contact.subscriptionStatus = .subscribed ∧
    contact.email = some recipient

section Claims

variable {ids : SendIdScheme} {now : Timestamp} {db next : Database} {claim : ClaimedSend}

theorem isWorkspaceSoftDeleted_iff {workspaceId : WorkspaceId} :
    isWorkspaceSoftDeleted db.organizations workspaceId = false ↔
      ∃ organization, db.organizations.find? workspaceId = some organization ∧ organization.deletedAt = none := by
  unfold isWorkspaceSoftDeleted
  cases found : db.organizations.find? workspaceId with
  | none | some => simp

theorem evaluatePreSendGate_sendable {workspaceId : WorkspaceId} {contact : Contact}
    (passed : evaluatePreSendGate now db workspaceId contact = .sendable) :
    contact.subscriptionStatus = .subscribed ∧ contact.email = some (contact.email.getD "") := by
  unfold evaluatePreSendGate at passed
  split at passed
  · cases passed
  · next unsuppressed =>
    split at passed
    · cases passed
    · next unrefused =>
      split at passed
      · cases passed
      · next addressed =>
        constructor
        · cases status : contact.subscriptionStatus with
          | subscribed => rfl
          | unsubscribed => exact absurd status unrefused
          | suppressed => exact absurd status unsuppressed
        · cases email : contact.email with
          | none => simp [truthy, email] at addressed
          | some address => rfl

theorem readSendPrereqs_campaign {workspaceId : WorkspaceId} {campaignId : CampaignId} {prereqs : SendPrereqs}
    {status : CampaignStatus} (read : readSendPrereqs db workspaceId campaignId = .ok (prereqs, status)) :
    ∃ campaign, db.campaigns.find? campaignId = some campaign ∧ campaign.workspaceId = workspaceId ∧
      campaign.status = status := by
  unfold readSendPrereqs at read
  cases tenant : readTenantPrereqs db workspaceId with
  | error message =>
    rw [tenant] at read
    cases read
  | ok key =>
    rw [tenant] at read
    split at read
    · cases read
    · next campaign located =>
      obtain ⟨found, within⟩ := Option.filter_eq_some_iff.mp located
      split at read
      · split at read
        · cases read
        · cases read
          exact ⟨campaign, found, beq_iff_eq.mp within, rfl⟩
      · cases read

theorem claimSend_clear {job : SendJob} (claimed : claimSend ids now db job = .ok (.proceed claim, next)) :
    Clear db job claim.recipient := by
  rcases claimSend_ends claimed with ⟨skipped, _⟩ | ⟨excluded, _⟩ | ⟨prereqs, onward, active, sending⟩
  · cases skipped
  · cases excluded
  · obtain ⟨⟨contact, found, within, sendable, recipient⟩, _⟩ := claimAfterPrereqs_admits onward
    obtain ⟨subscribed, addressed⟩ := evaluatePreSendGate_sendable sendable
    refine ⟨?_, isWorkspaceSoftDeleted_iff.mp active, contact, found, within, subscribed, recipient ▸ addressed⟩
    intro workspaceId campaignId contactId same
    exact readSendPrereqs_campaign (sending workspaceId campaignId contactId same)

end Claims

def Delivers (id : Nat) (label : Label) : Prop := ∃ job, label = .delivery (.deliver id job)

def BeganClear (platform : Platform) (start : Timestamp) (trace : List Label) (id : Nat) (job : SendJob)
    (claim : ClaimedSend) : Prop :=
  ∃ world db, LastOf (step platform) (initialWorld start) (Delivers id) trace world (.delivery (.deliver id job)) ∧
    claimSend platform.sendIds world.now world.db job = .ok (.proceed claim, db) ∧
    Clear world.db job claim.recipient

def DeliveryPhase.claim : DeliveryPhase → Option ClaimedSend
  | .claimed claim | .calling claim _ | .answered claim _ _ _ => some claim
  | .finished _ => none

/-- Every claim that is carried, and every one that was called for, goes back to the start of its execution. -/
structure ClaimsTraced (platform : Platform) (start : Timestamp) (trace : List Label) (world : World) : Prop where
  carried : ∀ id delivery claim, world.deliveries.find? id = some delivery → delivery.phase.claim = some claim →
    BeganClear platform start trace id delivery.job claim
  called : ∀ id call, world.providerCalls.find? id = some call →
    ∃ job, job.intent = call.intent ∧ BeganClear platform start trace id job call.claim

section Traced

variable {platform : Platform} {start : Timestamp} {past : List Label} {world next : World} {label : Label}

theorem BeganClear.append {id : Nat} {job : SendJob} {claim : ClaimedSend}
    (began : BeganClear platform start past id job claim) (elsewhere : ¬ Delivers id label) :
    BeganClear platform start (past ++ [label]) id job claim := by
  obtain ⟨claimedAt, db, last, claimed, clear⟩ := began
  exact ⟨claimedAt, db, last.append elsewhere, claimed, clear⟩

theorem ClaimsTraced.append (traced : ClaimsTraced platform start past world) (quiet : ∀ id, ¬ Delivers id label)
    (carried : ∀ id delivery claim, next.deliveries.find? id = some delivery → delivery.phase.claim = some claim →
      ∃ before, world.deliveries.find? id = some before ∧ before.job = delivery.job ∧ before.phase.claim = some claim)
    (called : ∀ id call, next.providerCalls.find? id = some call →
      (∃ before, world.providerCalls.find? id = some before ∧ before.intent = call.intent ∧ before.claim = call.claim) ∨
        ∃ delivery, world.deliveries.find? id = some delivery ∧ delivery.job.intent = call.intent ∧
          delivery.phase.claim = some call.claim) : ClaimsTraced platform start (past ++ [label]) next where
  carried id delivery claim found carrying := by
    obtain ⟨before, stored, same, carries⟩ := carried id delivery claim found carrying
    rw [← same]
    exact (traced.carried id before claim stored carries).append (quiet id)
  called id call found := by
    rcases called id call found with ⟨before, stored, intent, claim⟩ | ⟨delivery, stored, intent, carries⟩
    · obtain ⟨job, same, began⟩ := traced.called id before stored
      rw [claim] at began
      exact ⟨job, same.trans intent, began.append (quiet id)⟩
    · exact ⟨delivery.job, intent, (traced.carried id delivery call.claim stored carries).append (quiet id)⟩

theorem ClaimsTraced.begun {id : Nat} {job : SendJob} {phase : DeliveryPhase}
    (traced : ClaimsTraced platform start past world) (uncalled : world.providerCalls.find? id = none)
    (deliveries : next.deliveries = world.deliveries.put { id, job, phase })
    (calls : next.providerCalls = world.providerCalls)
    (began : ∀ claim, phase.claim = some claim →
      BeganClear platform start (past ++ [.delivery (.deliver id job)]) id job claim) :
    ClaimsTraced platform start (past ++ [.delivery (.deliver id job)]) next := by
  have apart : ∀ other, other ≠ id → ¬ Delivers other (.delivery (.deliver id job)) := by
    rintro other differs ⟨task, same⟩
    simp only [Label.delivery.injEq, DeliveryEvent.deliver.injEq] at same
    exact differs same.1.symm
  constructor
  · intro other delivery claim found carrying
    rw [deliveries, Table.find?_put] at found
    split at found
    · next same =>
      cases found
      rw [same]
      exact began claim carrying
    · next differs => exact (traced.carried other delivery claim found carrying).append (apart other differs)
  · intro other call found
    rw [calls] at found
    obtain ⟨task, same, traces⟩ := traced.called other call found
    refine ⟨task, same, traces.append (apart other ?_)⟩
    rintro rfl
    rw [uncalled] at found
    cases found

theorem carried_put {id : Nat} {job : SendJob} {phase : DeliveryPhase} {before : JobDelivery}
    (deliveries : next.deliveries = world.deliveries.put { id, job, phase })
    (stored : world.deliveries.find? id = some before) (same : before.job = job)
    (keeps : ∀ claim, phase.claim = some claim → before.phase.claim = some claim) (other : Nat)
    (delivery : JobDelivery) (claim : ClaimedSend) (found : next.deliveries.find? other = some delivery)
    (carrying : delivery.phase.claim = some claim) :
    ∃ before, world.deliveries.find? other = some before ∧ before.job = delivery.job ∧
      before.phase.claim = some claim := by
  rw [deliveries, Table.find?_put] at found
  split at found
  · next equal =>
    cases found
    rw [equal]
    exact ⟨before, stored, same, keeps claim carrying⟩
  · exact ⟨delivery, found, rfl, carrying⟩

theorem carried_erase {id : Nat} (deliveries : next.deliveries = world.deliveries.erase id) (other : Nat)
    (delivery : JobDelivery) (claim : ClaimedSend) (found : next.deliveries.find? other = some delivery)
    (carrying : delivery.phase.claim = some claim) :
    ∃ before, world.deliveries.find? other = some before ∧ before.job = delivery.job ∧
      before.phase.claim = some claim := by
  rw [deliveries, Table.find?_erase] at found
  split at found
  · cases found
  · exact ⟨delivery, found, rfl, carrying⟩

theorem claimsTraced_step (ran : run (step platform) (initialWorld start) past = some world)
    (sound : ClaimsSound platform.sendIds world) (traced : ClaimsTraced platform start past world)
    (taken : step platform world label = some next) : ClaimsTraced platform start (past ++ [label]) next := by
  by_cases moves : ∃ event, label = .delivery event
  · obtain ⟨event, rfl⟩ := moves
    have quiet : (∀ id job, event ≠ .deliver id job) → ∀ id, ¬ Delivers id (.delivery event) := by
      rintro other id ⟨job, same⟩
      exact other id job (Label.delivery.inj same)
    cases deliveryStep_taken taken with
    | rejected pending fresh uncalled =>
      exact traced.begun uncalled rfl rfl fun _ carrying => by cases carrying
    | @delivered id job result db pending fresh uncalled claimed =>
      apply @ClaimsTraced.begun platform start past world _ id job (phaseOfClaim result) traced uncalled
      · rfl
      · rfl
      · intro claim carrying
        cases result with
        | proceed claimedNow =>
          cases carrying
          exact ⟨world, db, lastOf_append ran ⟨job, rfl⟩, claimed, claimSend_clear claimed⟩
        | excluded | skipped | reconciling => cases carrying
    | denied job claim found | settled job claim dispatchedAt duration outcome found =>
      apply traced.append (quiet fun _ _ same => by cases same)
      · exact carried_put rfl found rfl fun _ carrying => by cases carrying
      · exact fun _ call made => .inl ⟨call, made, rfl, rfl⟩
    | @called id job claim found =>
      apply traced.append (quiet fun _ _ same => by cases same)
      · exact carried_put rfl found rfl fun _ carrying => carrying
      · intro other call made
        have uncalled := (sound id _ found).2
        rw [Table.find?_insert_fresh uncalled] at made
        split at made
        · next same =>
          cases made
          rw [same]
          exact .inr ⟨_, found, rfl, rfl⟩
        · exact .inl ⟨call, made, rfl, rfl⟩
    | @answered id outcome job claim dispatchedAt found =>
      apply traced.append (quiet fun _ _ same => by cases same)
      · exact carried_put rfl found rfl fun _ carrying => carrying
      · intro other call made
        rw [find?_closeCall] at made
        split at made
        · obtain ⟨before, stored, rfl⟩ := Option.map_eq_some_iff.mp made
          exact .inl ⟨before, stored, rfl, rfl⟩
        · exact .inl ⟨call, made, rfl, rfl⟩
    | acked | retried | givenUp | crashed =>
      apply traced.append (quiet fun _ _ same => by cases same)
      · exact carried_erase rfl
      · exact fun _ call made => .inl ⟨call, made, rfl, rfl⟩
  · obtain ⟨deliveries, calls⟩ := deliveries_kept (fun event same => moves ⟨event, same⟩) taken
    apply traced.append
    · rintro id ⟨job, rfl⟩
      exact moves ⟨_, rfl⟩
    · intro id delivery claim found carrying
      rw [deliveries] at found
      exact ⟨delivery, found, rfl, carrying⟩
    · intro id call made
      rw [calls] at made
      exact .inl ⟨call, made, rfl, rfl⟩

theorem claimsTraced_of_run {trace : List Label} (ran : run (step platform) (initialWorld start) trace = some world) :
    ClaimsTraced platform start trace world := by
  have known := @history_of_run _ _ (step platform) (initialWorld start) world trace
    (fun past world => ClaimsSound platform.sendIds world ∧ ClaimsTraced platform start past world) ?_ ?_ ran
  · exact known.2
  · refine ⟨claimsSound_initial platform.sendIds start, ?_, ?_⟩
    · intro id delivery claim found
      cases found
    · intro id call found
      cases found
  · rintro past state label next reached ⟨sound, traced⟩ taken
    exact ⟨claimsSound_step sound taken, claimsTraced_step reached sound traced taken⟩

end Traced

/-- Whatever jobs, stop signals, restores and retries interleave, a provider call belongs to a claim that saw
no stop signal. -/
theorem stop_signals_honoured (platform : Platform) {start : Timestamp} {trace : List Label} {world : World}
    (ran : run (step platform) (initialWorld start) trace = some world) :
    (∀ call ∈ world.providerCalls.rows, ∃ job, job.intent = call.intent ∧
      BeganClear platform start trace call.deliveryId job call.claim) ∧
    ∀ id job claimedAt,
      LastOf (step platform) (initialWorld start) (Delivers id) trace claimedAt (.delivery (.deliver id job)) →
        (∀ recipient, ¬ Clear claimedAt.db job recipient) → world.providerCalls.find? id = none := by
  have traced := claimsTraced_of_run ran
  constructor
  · intro call member
    exact traced.called call.deliveryId call (Table.find?_of_mem member)
  · intro id job claimedAt last stopped
    cases made : world.providerCalls.find? id with
    | none => rfl
    | some call =>
      obtain ⟨task, _, before, _, began, _, clear⟩ := traced.called id call made
      obtain ⟨rfl, same⟩ := last.unique began
      obtain ⟨_, rfl⟩ := same
      exact absurd clear (stopped call.claim.recipient)

def unsubscribedBeforeRetry : List Label :=
  launchedCampaign ++ kickoffSteps 0 20 ++ claimAndCall 0 1 ++ answerAndSettle 0 (.response 429 none) ++
    [.delivery (.retry 0),
     .environment (.putContact { id := 1, workspaceId := 0, email := some "ann", subscriptionStatus := .unsubscribed }),
     .delivery (.deliver 1 (.campaign 0 0 1))]

set_option maxRecDepth 10000 in
theorem retry_after_unsubscribe : ∃ world,
    run (step pairedPlatform) (initialWorld 0) unsubscribedBeforeRetry = some world ∧
    world.providerCalls.rows.length = 1 ∧
    (∀ call ∈ world.providerCalls.rows, ∃ job, job.intent = call.intent ∧
      BeganClear pairedPlatform 0 unsubscribedBeforeRetry call.deliveryId job call.claim) ∧
    ∀ id job claimedAt,
      LastOf (step pairedPlatform) (initialWorld 0) (Delivers id) unsubscribedBeforeRetry claimedAt
          (.delivery (.deliver id job)) →
        (∀ recipient, ¬ Clear claimedAt.db job recipient) → world.providerCalls.find? id = none := by
  have evaluated : (run (step pairedPlatform) (initialWorld 0) unsubscribedBeforeRetry).any (fun world =>
      world.providerCalls.rows.length == 1) = true := by decide
  obtain ⟨world, ran, calls⟩ := Option.any_eq_true _ _ |>.mp evaluated
  exact ⟨world, ran, beq_iff_eq.mp calls, stop_signals_honoured pairedPlatform ran⟩

end LocalCrm.System
