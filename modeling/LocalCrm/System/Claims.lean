import LocalCrm.System.Steps

/-! What an execution of a send job carries. -/

set_option autoImplicit false

namespace LocalCrm.System

open Library Delivery Campaigns Webhooks Analytics

def PhaseSound (ids : SendIdScheme) (calls : Table ProviderCall.deliveryId) (id : Nat) (job : SendJob) :
    DeliveryPhase → Prop
  | .claimed claim => claim.sendId = ids.derive job.intent ∧ calls.find? id = none
  | .calling claim _ => claim.sendId = ids.derive job.intent ∧
      ∃ call, calls.find? id = some call ∧ call.intent = job.intent ∧ call.outcome = none
  | .answered claim _ _ _ => claim.sendId = ids.derive job.intent
  | .finished _ => True

def ClaimsSound (ids : SendIdScheme) (world : World) : Prop :=
  ∀ id delivery, world.deliveries.find? id = some delivery →
    PhaseSound ids world.providerCalls id delivery.job delivery.phase

section Sound

variable {ids : SendIdScheme} {world next : World}

theorem claimsSound_congr (deliveries : next.deliveries = world.deliveries)
    (calls : next.providerCalls = world.providerCalls) (sound : ClaimsSound ids world) : ClaimsSound ids next := by
  intro id delivery found
  rw [calls]
  rw [deliveries] at found
  exact sound id delivery found

theorem claimsSound_put {id : Nat} {job : SendJob} {phase : DeliveryPhase}
    (deliveries : next.deliveries = world.deliveries.put { id, job, phase })
    (others : ∀ other, other ≠ id → next.providerCalls.find? other = world.providerCalls.find? other)
    (moved : PhaseSound ids next.providerCalls id job phase) (sound : ClaimsSound ids world) :
    ClaimsSound ids next := by
  intro other delivery found
  rw [deliveries, Table.find?_put] at found
  by_cases same : other = id
  · subst same
    rw [if_pos rfl] at found
    cases found
    exact moved
  · rw [if_neg same] at found
    have before := sound other delivery found
    cases phase : delivery.phase with
    | claimed claim =>
      rw [phase] at before
      exact ⟨before.1, (others other same).trans before.2⟩
    | calling claim dispatchedAt =>
      rw [phase] at before
      simp only [PhaseSound, others other same]
      exact before
    | answered claim dispatchedAt duration outcome =>
      rw [phase] at before
      exact before
    | finished result => trivial

theorem claimsSound_erase {id : Nat} (deliveries : next.deliveries = world.deliveries.erase id)
    (calls : next.providerCalls = world.providerCalls) (sound : ClaimsSound ids world) : ClaimsSound ids next := by
  intro other delivery found
  rw [deliveries, Table.find?_erase] at found
  split at found
  · cases found
  · rw [calls]
    exact sound other delivery found

theorem phaseSound_of_claim {calls : Table ProviderCall.deliveryId} {id : Nat} {now : Timestamp}
    {db committed : Database} {job : SendJob} {result : ClaimResult} (uncalled : calls.find? id = none)
    (commits : ClaimCommits ids now db job result committed) :
    PhaseSound ids calls id job (phaseOfClaim result) := by
  cases commits with
  | proceeds prereqs recipient contactId free => exact ⟨rfl, uncalled⟩
  | skipped | excluded | interrupted => trivial

theorem find?_closeCall {calls : Table ProviderCall.deliveryId} {id other : Nat} {outcome : CallOutcome} :
    (calls.update (fun call => call.deliveryId == id) fun call => { call with outcome := some outcome }).find? other =
      if other = id then (calls.find? other).map fun call => { call with outcome := some outcome }
      else calls.find? other := by
  rw [Table.find?_update]
  cases found : calls.find? other with
  | none => simp
  | some call =>
    have keyed : call.deliveryId = other := Table.key_of_find? found
    by_cases same : other = id <;> simp [keyed, same]

theorem claimsSound_delivery {event : DeliveryEvent} (sound : ClaimsSound ids world)
    (taken : DeliveryTaken ids world event next) : ClaimsSound ids next := by
  cases taken with
  | rejected | denied => exact claimsSound_put rfl (fun _ _ => rfl) trivial sound
  | delivered result db pending fresh uncalled claimed =>
    exact claimsSound_put rfl (fun _ _ => rfl) (phaseSound_of_claim uncalled (claimSend_commits claimed)) sound
  | @called id job claim found =>
    have before := sound id _ found
    refine claimsSound_put rfl ?_ ?_ sound
    · intro other differs
      exact (Table.find?_insert_fresh before.2).trans (if_neg differs)
    · exact ⟨before.1, _, (Table.find?_insert_fresh before.2).trans (if_pos rfl), rfl, rfl⟩
  | answered job claim dispatchedAt found =>
    refine claimsSound_put rfl ?_ (sound _ _ found).1 sound
    intro other differs
    exact find?_closeCall.trans (if_neg differs)
  | settled job claim dispatchedAt duration outcome found =>
    exact claimsSound_put rfl (fun _ _ => rfl) trivial sound
  | acked | retried | givenUp | crashed => exact claimsSound_erase rfl rfl sound

end Sound

theorem deliveries_kept {platform : Platform} {world next : World} {label : Label}
    (other : ∀ event, label ≠ .delivery event) (taken : step platform world label = some next) :
    next.deliveries = world.deliveries ∧ next.providerCalls = world.providerCalls := by
  cases label with
  | environment event =>
    have frame := environmentStep_frame taken
    exact ⟨frame.deliveries, frame.providerCalls⟩
  | api request =>
    obtain ⟨campaigns, _, rfl⟩ := apiStep_taken taken
    exact ⟨rfl, rfl⟩
  | launch event => cases launchStep_taken taken <;> exact ⟨rfl, rfl⟩
  | tick event => cases tickStep_taken taken <;> exact ⟨rfl, rfl⟩
  | kickoff event => cases kickoffEventStep_taken taken <;> exact ⟨rfl, rfl⟩
  | delivery event => exact absurd rfl (other event)
  | reconcile =>
    cases taken
    exact ⟨rfl, rfl⟩
  | webhookBatch | sweep =>
    obtain ⟨_, _, rfl⟩ := quietStep_taken rfl taken
    exact ⟨rfl, rfl⟩

theorem claimsSound_step {platform : Platform} {world next : World} {label : Label}
    (sound : ClaimsSound platform.sendIds world) (taken : step platform world label = some next) :
    ClaimsSound platform.sendIds next := by
  by_cases delivery : ∃ event, label = .delivery event
  · obtain ⟨event, rfl⟩ := delivery
    exact claimsSound_delivery sound (deliveryStep_taken taken)
  · have kept := deliveries_kept (fun event same => delivery ⟨event, same⟩) taken
    exact claimsSound_congr kept.1 kept.2 sound

theorem claimsSound_initial (ids : SendIdScheme) (now : Timestamp) : ClaimsSound ids (initialWorld now) := by
  intro id delivery found
  cases found

end LocalCrm.System
