import LocalCrm.Library.ClaimToken
import LocalCrm.System.Claims

/-! At most one provider call per intent can have been accepted. -/

set_option autoImplicit false

namespace LocalCrm.System

open Library Delivery Campaigns Webhooks Analytics

/-! The claim protocol of one intent, read off the world. -/

def tokenEntry : Option SendStatus → ClaimToken.Entry
  | none => .free
  | some .dispatching => .claimed
  | some .sent | some .failed | some .excluded | some .reconciling | some .unknown => .closed

def tokenPhase : DeliveryPhase → Option ClaimToken.Phase
  | .claimed _ => some .holding
  | .calling _ _ => some .calling
  | .answered _ _ _ outcome => if outcome.provenNotAccepted then some .rejected else none
  | .finished _ => none

def actorPhase (intent : SendIntent) (delivery : JobDelivery) : Option ClaimToken.Phase :=
  if delivery.job.intent = intent then tokenPhase delivery.phase else none

def DoubtfulCall (intent : SendIntent) (call : ProviderCall) : Bool :=
  call.intent == intent && !call.outcome.any CallOutcome.provenNotAccepted

def tokenView (intent : SendIntent) (world : World) : ClaimToken.State Nat where
  entry := tokenEntry (statusOf world.db.sends intent)
  phase id := (world.deliveries.find? id).bind (actorPhase intent)
  doubtful := world.providerCalls.count (DoubtfulCall intent)

section View

variable {intent : SendIntent} {world next : World}

theorem tokenEntry_recorded (status : RecordedStatus) : tokenEntry (some status.toSendStatus) = .closed := by
  cases status <;> rfl

theorem phase_put {id : Nat} {delivery : JobDelivery} (keyed : delivery.id = id)
    (deliveries : next.deliveries = world.deliveries.put delivery) :
    (tokenView intent next).phase =
      Function.update (tokenView intent world).phase id (actorPhase intent delivery) := by
  subst keyed
  simp only [tokenView, deliveries, Table.bind_find?_put]

theorem phase_erase {id : Nat} (deliveries : next.deliveries = world.deliveries.erase id) :
    (tokenView intent next).phase = Function.update (tokenView intent world).phase id none := by
  simp only [tokenView, deliveries, Table.bind_find?_erase]

theorem phase_put_same {id : Nat} {delivery : JobDelivery} (keyed : delivery.id = id)
    (deliveries : next.deliveries = world.deliveries.put delivery)
    (same : (world.deliveries.find? id).bind (actorPhase intent) = actorPhase intent delivery) :
    (tokenView intent next).phase = (tokenView intent world).phase := by
  rw [phase_put keyed deliveries, ← same]
  exact Function.update_eq_self _ _

theorem closed_or_kept
    (entry : (tokenView intent next).entry = (tokenView intent world).entry ∨
      (tokenView intent next).entry = .closed)
    (phase : (tokenView intent next).phase = (tokenView intent world).phase)
    (doubtful : (tokenView intent next).doubtful = (tokenView intent world).doubtful) :
    tokenView intent next = tokenView intent world ∨
      ∃ action, ClaimToken.act (tokenView intent world) action = some (tokenView intent next) := by
  rcases entry with kept | closed
  · exact .inl (ClaimToken.State.ext kept phase doubtful)
  · refine .inr ⟨.close, congrArg some ?_⟩
    exact ClaimToken.State.ext closed.symm phase.symm doubtful.symm

theorem excluded_or_kept {now : Timestamp} {sends : Sends} {other : SendIntent} {contactId : ContactId}
    {reason : String} :
    tokenEntry (statusOf (excludeIntent now sends other contactId reason) intent) =
        tokenEntry (statusOf sends intent) ∨
      tokenEntry (statusOf (excludeIntent now sends other contactId reason) intent) = .closed := by
  rw [statusOf_excludeIntent]
  split
  · exact .inr rfl
  · exact .inl rfl

theorem recorded_or_kept {ids : SendIdScheme} {now : Timestamp} {sends : Sends} {other : SendIntent}
    {result : SendResult} :
    tokenEntry (statusOf (recordSendResult ids now sends (ids.derive other) result) intent) =
        tokenEntry (statusOf sends intent) ∨
      tokenEntry (statusOf (recordSendResult ids now sends (ids.derive other) result) intent) = .closed := by
  rw [statusOf_recordSendResult]
  split
  · cases statusOf sends intent with
    | none => exact .inl rfl
    | some status => exact .inr (tokenEntry_recorded _)
  · exact .inl rfl

theorem tokenEntry_released {ids : SendIdScheme} {sends : Sends} {job : SendIntent} :
    tokenEntry (statusOf (releaseDispatchClaim ids sends (ids.derive job)) intent) =
      if intent = job then (tokenEntry (statusOf sends intent)).released
      else tokenEntry (statusOf sends intent) := by
  rw [statusOf_releaseDispatchClaim]
  by_cases same : intent = job
  · cases status : statusOf sends intent with
    | none => simp [same, tokenEntry, ClaimToken.Entry.released]
    | some value => cases value <;> simp [same, tokenEntry, ClaimToken.Entry.released]
  · simp [same]

end View

/-- The world one step later is the protocol's state, unmoved or one action later. -/
def Simulated (intent : SendIntent) (world next : World) : Prop :=
  tokenView intent next = tokenView intent world ∨
    ∃ action, ClaimToken.act (tokenView intent world) action = some (tokenView intent next)

section Simulation

variable {ids : SendIdScheme} {intent : SendIntent} {world next : World}

theorem simulated_claim {id : Nat} {job : SendJob} {result : ClaimResult} {db : Database}
    (fresh : world.deliveries.find? id = none) (commits : ClaimCommits ids world.now world.db job result db) :
    Simulated intent world
      { world with db, deliveries := world.deliveries.put { id, job, phase := phaseOfClaim result } } := by
  cases commits with
  | skipped =>
    refine closed_or_kept (.inl rfl) (phase_put_same rfl rfl ?_) rfl
    simp [fresh, actorPhase, tokenPhase, phaseOfClaim]
  | excluded contactId reason =>
    refine closed_or_kept excluded_or_kept (phase_put_same rfl rfl ?_) rfl
    simp [fresh, actorPhase, tokenPhase, phaseOfClaim]
  | interrupted held =>
    refine closed_or_kept recorded_or_kept (phase_put_same rfl rfl ?_) rfl
    simp [fresh, actorPhase, tokenPhase, phaseOfClaim]
  | proceeds prereqs recipient contactId free =>
    by_cases same : job.intent = intent
    · right
      refine ⟨.claim id, ?_⟩
      have entry : (tokenView intent world).entry = .free := by simp [tokenView, ← same, free, tokenEntry]
      rw [ClaimToken.act, if_pos entry]
      refine congrArg some (ClaimToken.State.ext ?_ ?_ rfl)
      · simp [tokenView, statusOf_claimIntent, same, same ▸ free, tokenEntry]
      · rw [phase_put rfl rfl]
        simp [ClaimToken.State.moved, actorPhase, same, phaseOfClaim, tokenPhase]
    · left
      refine ClaimToken.State.ext ?_ (phase_put_same rfl rfl ?_) rfl
      · simp [tokenView, statusOf_claimIntent, Ne.symm same]
      · simp [fresh, actorPhase, same]

theorem doubtful_called {calls : Table ProviderCall.deliveryId} {id : Nat} (intent : SendIntent)
    (uncalled : calls.find? id = none) (job : SendJob) (claim : ClaimedSend) :
    (calls.insert { deliveryId := id, intent := job.intent, claim, outcome := none }).count (DoubtfulCall intent) =
      calls.count (DoubtfulCall intent) + if job.intent = intent then 1 else 0 := by
  let call : ProviderCall := { deliveryId := id, intent := job.intent, claim, outcome := none }
  have inserted : ∀ other, (calls.insert call).find? other = if other = id then some call else calls.find? other :=
    fun _ => Table.find?_insert_fresh uncalled
  have counted := Table.count_change calls (calls.insert call) (DoubtfulCall intent) id
    fun other differs => by rw [inserted, if_neg differs]
  rw [inserted, if_pos rfl, uncalled] at counted
  by_cases same : job.intent = intent
  · simpa [call, DoubtfulCall, same] using counted
  · simpa [call, DoubtfulCall, same, beq_eq_false_iff_ne.mpr same] using counted

theorem doubtful_answered {calls : Table ProviderCall.deliveryId} {id : Nat} {job : SendJob}
    {call : ProviderCall} (intent : SendIntent) (opened : calls.find? id = some call) (keyed : call.intent = job.intent) (undecided : call.outcome = none)
    (outcome : CallOutcome) :
    (calls.update (fun call => call.deliveryId == id) fun call => { call with outcome := some outcome }).count
        (DoubtfulCall intent) +
      (if job.intent = intent ∧ outcome.provenNotAccepted = true then 1 else 0) =
      calls.count (DoubtfulCall intent) := by
  have counted := Table.count_change calls
    (calls.update (fun call => call.deliveryId == id) fun call => { call with outcome := some outcome })
    (DoubtfulCall intent) id fun other differs => by rw [find?_closeCall, if_neg differs]
  rw [find?_closeCall, if_pos rfl, opened] at counted
  by_cases same : job.intent = intent
  · cases proven : outcome.provenNotAccepted <;>
      simp [DoubtfulCall, same, keyed, undecided, proven] at counted ⊢ <;> omega
  · simpa [DoubtfulCall, same, keyed, undecided, beq_eq_false_iff_ne.mpr same] using counted

theorem finished_erased {id : Nat} {job : SendJob} {result : SendJobResult} {sendJobs : JobQueue SendJob}
    (found : world.deliveries.find? id = some { id, job, phase := .finished result }) :
    Simulated intent world { world with sendJobs, deliveries := world.deliveries.erase id } := by
  refine closed_or_kept (.inl rfl) ?_ rfl
  have atEnd : (tokenView intent world).phase id = none := by simp [tokenView, found, actorPhase, tokenPhase]
  rw [phase_erase rfl, ← atEnd]
  exact Function.update_eq_self _ _

theorem simulated_delivery {event : DeliveryEvent} (sound : ClaimsSound ids world)
    (taken : DeliveryTaken ids world event next) : Simulated intent world next := by
  cases taken with
  | rejected pending fresh uncalled =>
    refine closed_or_kept (.inl rfl) (phase_put_same rfl rfl ?_) rfl
    simp [fresh, actorPhase, tokenPhase]
  | delivered result db pending fresh uncalled claimed => exact simulated_claim fresh (claimSend_commits claimed)
  | @denied id job claim found =>
    -- a gate that closes after the claim gives the row back
    have derived : claim.sendId = ids.derive job.intent := (sound _ _ found).1
    by_cases same : job.intent = intent
    · right
      refine ⟨.release id, ?_⟩
      have holding : (tokenView intent world).phase id = some .holding := by
        simp [tokenView, found, actorPhase, same, tokenPhase]
      rw [ClaimToken.act, if_pos (.inl holding)]
      refine congrArg some (ClaimToken.State.ext ?_ ?_ rfl)
      · simp only [tokenView, derived, tokenEntry_released, if_pos same.symm]
      · rw [phase_put rfl rfl]
        simp [ClaimToken.State.moved, actorPhase, tokenPhase]
    · left
      refine ClaimToken.State.ext ?_ (phase_put_same rfl rfl ?_) rfl
      · simp only [tokenView, derived, tokenEntry_released, if_neg (Ne.symm same)]
      · simp [found, actorPhase, same]
  | @called id job claim found =>
    have uncalled := (sound _ _ found).2
    have doubted := doubtful_called intent uncalled job claim
    by_cases same : job.intent = intent
    · right
      refine ⟨.call id, ?_⟩
      have holding : (tokenView intent world).phase id = some .holding := by
        simp [tokenView, found, actorPhase, same, tokenPhase]
      rw [ClaimToken.act, if_pos holding]
      refine congrArg some (ClaimToken.State.ext rfl ?_ ?_)
      · rw [phase_put rfl rfl]
        simp [ClaimToken.State.moved, actorPhase, same, tokenPhase]
      · change _ = Table.count _ _
        rw [doubted, if_pos same]
        rfl
    · left
      refine ClaimToken.State.ext rfl (phase_put_same rfl rfl ?_) ?_
      · simp [found, actorPhase, same]
      · change Table.count _ _ = _
        rw [doubted, if_neg same, Nat.add_zero]
        rfl
  | @answered id outcome job claim dispatchedAt found =>
    -- only an answer that proves the mail was not accepted takes the doubt away
    obtain ⟨call, opened, keyed, undecided⟩ := (sound _ _ found).2
    have doubted := doubtful_answered intent opened keyed undecided outcome
    by_cases same : job.intent = intent
    · right
      have calling : (tokenView intent world).phase id = some .calling := by
        simp [tokenView, found, actorPhase, same, tokenPhase]
      cases proven : outcome.provenNotAccepted with
      | true =>
        refine ⟨.reject id, ?_⟩
        rw [ClaimToken.act, if_pos calling]
        refine congrArg some (ClaimToken.State.ext rfl ?_ ?_)
        · rw [phase_put rfl rfl]
          simp [ClaimToken.State.moved, actorPhase, same, tokenPhase, proven]
        · rw [if_pos ⟨same, proven⟩] at doubted
          exact Nat.sub_eq_of_eq_add doubted.symm
      | false =>
        refine ⟨.accept id, ?_⟩
        rw [ClaimToken.act, if_pos calling]
        refine congrArg some (ClaimToken.State.ext rfl ?_ ?_)
        · rw [phase_put rfl rfl]
          simp [ClaimToken.State.moved, actorPhase, same, tokenPhase, proven]
        · rw [if_neg (by simp [proven])] at doubted
          exact doubted.symm
    · left
      refine ClaimToken.State.ext rfl (phase_put_same rfl rfl ?_) ?_
      · simp [found, actorPhase, same]
      · rw [if_neg fun both => same both.1] at doubted
        exact doubted
  | @settled id job claim dispatchedAt duration outcome found =>
    have derived : claim.sendId = ids.derive job.intent := sound _ _ found
    -- nothing to record means that the row is released for a retry
    cases recorded : recordedStatus outcome with
    | none =>
      by_cases same : job.intent = intent
      · right
        refine ⟨.release id, ?_⟩
        have rejected : (tokenView intent world).phase id = some .rejected := by
          simp [tokenView, found, actorPhase, same, tokenPhase, recordedStatus_eq_none.mp recorded]
        rw [ClaimToken.act, if_pos (.inr rejected)]
        refine congrArg some (ClaimToken.State.ext ?_ ?_ rfl)
        · simp only [tokenView]
          rw [settleOutcome_released recorded, derived, tokenEntry_released, if_pos same.symm]
        · rw [phase_put rfl rfl]
          simp [ClaimToken.State.moved, actorPhase, tokenPhase]
      · left
        refine ClaimToken.State.ext ?_ (phase_put_same rfl rfl ?_) rfl
        · simp only [tokenView]
          rw [settleOutcome_released recorded, derived, tokenEntry_released, if_neg (Ne.symm same)]
        · simp [found, actorPhase, same]
    | some status =>
      refine closed_or_kept ?_ (phase_put_same rfl rfl ?_) rfl
      · simp only [tokenView]
        rw [settleOutcome_recorded recorded, derived]
        exact recorded_or_kept
      · have accepted : outcome.provenNotAccepted = false := by
          rw [← Bool.not_eq_true, ← recordedStatus_eq_none, recorded]
          simp
        simp [found, actorPhase, tokenPhase, accepted]
  | @acked id job result found completes =>
    exact finished_erased found
  | @retried id job result found repeats | @givenUp id job found => exact finished_erased found
  | @crashed id => exact .inr ⟨.leave id, congrArg some (ClaimToken.State.ext rfl (phase_erase rfl).symm rfl)⟩

theorem walked_or_kept {now : Timestamp} {db committed : Database} {job : KickoffJob}
    {matching : List ContactId} {phase : KickoffPhase}
    (writes : KickoffWrites now db job matching phase committed) :
    tokenEntry (statusOf committed.sends intent) = tokenEntry (statusOf db.sends intent) ∨
      tokenEntry (statusOf committed.sends intent) = .closed := by
  cases writes with
  | nothing | batch => exact .inl rfl
  | totals walk => exact .inl (by rw [finishFanOut_sends])
  | exclusion => exact excluded_or_kept

theorem resolved_or_kept {now : Timestamp} {db committed : Database} {sendId : SendId}
    (commits : ResolutionCommits ids now db sendId committed) :
    tokenEntry (statusOf committed.sends intent) = tokenEntry (statusOf db.sends intent) ∨
      tokenEntry (statusOf committed.sends intent) = .closed := by
  cases commits with
  | held => exact .inl rfl
  | swept other derived status =>
    rw [statusOf_sweepStaleDispatchingSend]
    split
    · exact .inr rfl
    · exact .inl rfl
  | unresolved other derived status | resolved other derived status =>
    rw [statusOf_resolveReconcilingSend]
    split
    · exact .inr rfl
    · exact .inl rfl

end Simulation

theorem simulates_claimToken (platform : Platform) (intent : SendIntent) :
    Simulates ClaimToken.act (step platform) (tokenView intent) (ClaimsSound platform.sendIds) := by
  intro world label next sound taken
  cases label with
  | delivery event => exact simulated_delivery sound (deliveryStep_taken taken)
  | environment event =>
    have frame := environmentStep_frame taken
    left
    simp only [tokenView, frame.sends, frame.deliveries, frame.providerCalls]
  | api request =>
    obtain ⟨campaigns, _, rfl⟩ := apiStep_taken taken
    exact .inl rfl
  | launch event => cases launchStep_taken taken <;> exact .inl rfl
  | tick event => cases tickStep_taken taken <;> exact .inl rfl
  | kickoff event =>
    cases kickoffEventStep_taken taken with
    | started | acked | crashed => exact .inl rfl
    | advanced kickoff effect found stepped =>
      subst stepped
      exact closed_or_kept (walked_or_kept (kickoffStep_writes _ _ _ _ _ _)) rfl rfl
  | reconcile sendId =>
    cases taken
    exact closed_or_kept (resolved_or_kept (resolveOneSend_commits _ _ _ _)) rfl rfl
  | webhookBatch | sweep =>
    obtain ⟨db, kept, rfl⟩ := quietStep_taken rfl taken
    left
    simp only [tokenView, kept.status]

/-- Over every run, at most one call for an intent was not proven unaccepted. -/
theorem at_most_one_acceptance (platform : Platform) (world : World) (reachable : Reachable platform world)
    (intent : SendIntent) : world.providerCalls.count (DoubtfulCall intent) ≤ 1 := by
  obtain ⟨start, trace, ran⟩ := reachable
  obtain ⟨actions, projected⟩ := run_of_simulates (simulates_claimToken platform intent)
    (fun _ _ _ sound taken => claimsSound_step sound taken) (claimsSound_initial platform.sendIds start) ran
  exact ClaimToken.doubtful_le_one (ClaimToken.safe_idle .free) projected

def launchSteps : List Label :=
  [.environment (.putSegment { id := 0, workspaceId := 0 }),
   .api (.createCampaign 0 0 { name := "news", segmentId := 0, templateId := some "t", fromEmail := some "crm" }),
   .launch (.request 0 "acme" 0),
   .launch (.commit 0 { expectedVersion := 1, resolvedFromEmail := none, resolvedFromName := none }),
   .launch (.enqueue 0)]

def launchedCampaign : List Label :=
  [.environment (.createWorkspace 0 "acme"),
   .environment (.putSendgridKey { workspaceId := 0, apiKey := "key" }),
   .environment (.putContact { id := 1, workspaceId := 0, email := some "ann" }),
   .environment (.putContact { id := 2, workspaceId := 0, email := some "bob" })] ++ launchSteps

def kickoffSteps (id steps : Nat) : List Label :=
  .kickoff (.start id { workspaceId := 0, campaignId := 0 }) ::
    List.replicate steps (.kickoff (.advance id [1, 2]))

def claimAndCall (id : Nat) (contactId : ContactId) : List Label :=
  [.delivery (.deliver id (.campaign 0 0 contactId)), .delivery (.call id)]

def answerAndSettle (id : Nat) (outcome : CallOutcome) : List Label :=
  [.delivery (.answer id outcome), .delivery (.settle id)]

def contestedTrace : List Label :=
  launchedCampaign ++ kickoffSteps 0 20 ++ claimAndCall 0 1 ++ answerAndSettle 0 (.response 429 none) ++
    [.delivery (.retry 0)] ++ claimAndCall 1 1 ++ [.delivery (.crash 1)] ++
    [.delivery (.deliver 2 (.campaign 0 0 1))]

set_option maxRecDepth 10000 in
theorem at_most_one_acceptance_contested :
    ∃ world, run (step pairedPlatform) (initialWorld 0) contestedTrace = some world ∧
      world.providerCalls.rows.length = 2 ∧
      world.providerCalls.count (DoubtfulCall (.campaign 0 0 1)) = 1 := by
  have evaluated : (run (step pairedPlatform) (initialWorld 0) contestedTrace).any (fun world =>
      world.providerCalls.rows.length == 2 &&
        1 ≤ world.providerCalls.count (DoubtfulCall (.campaign 0 0 1))) = true := by decide
  obtain ⟨world, ran, calls⟩ := Option.any_eq_true _ _ |>.mp evaluated
  simp only [Bool.and_eq_true, beq_iff_eq, decide_eq_true_eq] at calls
  have bound := at_most_one_acceptance pairedPlatform world ⟨0, contestedTrace, ran⟩ (.campaign 0 0 1)
  exact ⟨world, ran, calls.1, by omega⟩

end LocalCrm.System
