import LocalCrm.System.Claims

/-! The status each step writes. -/

set_option autoImplicit false

namespace LocalCrm.System

open Library Delivery Campaigns Webhooks Analytics

inductive StatusMoved (ids : SendIdScheme) (world : World) :
    Label → SendIntent → Option SendStatus → Option SendStatus → Prop where
  | claimed {id : Nat} {job : SendJob} (pending : job ∈ world.sendJobs.pending) :
      StatusMoved ids world (.delivery (.deliver id job)) job.intent none (some .dispatching)
  | excluded {id : Nat} {job : SendJob} {reason : String} {db : Database} (pending : job ∈ world.sendJobs.pending)
      (refused : claimSend ids world.now world.db job = .ok (.excluded reason, db)) :
      StatusMoved ids world (.delivery (.deliver id job)) job.intent none (some .excluded)
  | interrupted {id : Nat} {job : SendJob} {sendId : SendId} {db : Database} (pending : job ∈ world.sendJobs.pending)
      (doubted : claimSend ids world.now world.db job = .ok (.reconciling sendId, db)) :
      StatusMoved ids world (.delivery (.deliver id job)) job.intent (some .dispatching) (some .reconciling)
  | denied {id : Nat} {job : SendJob} {claim : ClaimedSend}
      (found : world.deliveries.find? id = some { id, job, phase := .claimed claim }) :
      StatusMoved ids world (.delivery (.deny id)) job.intent (some .dispatching) none
  | released {id : Nat} {job : SendJob} {claim : ClaimedSend} {dispatchedAt : Timestamp} {duration : Int}
      {outcome : CallOutcome}
      (found : world.deliveries.find? id =
        some { id, job, phase := .answered claim dispatchedAt duration outcome })
      (proven : recordedStatus outcome = none) :
      StatusMoved ids world (.delivery (.settle id)) job.intent (some .dispatching) none
  | recorded {id : Nat} {job : SendJob} {claim : ClaimedSend} {dispatchedAt : Timestamp} {duration : Int}
      {outcome : CallOutcome} {status : RecordedStatus} (source : SendStatus)
      (found : world.deliveries.find? id =
        some { id, job, phase := .answered claim dispatchedAt duration outcome })
      (recorded : recordedStatus outcome = some status) :
      StatusMoved ids world (.delivery (.settle id)) job.intent (some source) (some status.toSendStatus)
  | walked {id : Nat} {matching : List ContactId} {kickoff : Kickoff} {walk : Walk} {pageEnd : Option ContactId}
      {contactId : ContactId} {reason : String} {rest : List (ContactId × Option Contact)}
      (found : world.kickoffs.find? id = some kickoff)
      (phase : kickoff.phase = .excluding walk pageEnd contactId reason rest) :
      StatusMoved ids world (.kickoff (.advance id matching))
        (.campaign kickoff.job.workspaceId kickoff.job.campaignId contactId) none (some .excluded)
  | swept {intent : SendIntent} :
      StatusMoved ids world (.reconcile (ids.derive intent)) intent (some .dispatching) (some .reconciling)
  | unresolved {intent : SendIntent} :
      StatusMoved ids world (.reconcile (ids.derive intent)) intent (some .reconciling) (some .unknown)
  | resolved {intent : SendIntent} {source : SendStatus} (open_ : source = .reconciling ∨ source = .unknown) :
      StatusMoved ids world (.reconcile (ids.derive intent)) intent (some source) (some .sent)

inductive LedgerTaken (ids : SendIdScheme) (world : World) (label : Label) (next : World) : Prop where
  | kept (same : ∀ intent, statusOf next.db.sends intent = statusOf world.db.sends intent)
  | moved (intent : SendIntent) (before after : Option SendStatus)
      (stored : statusOf world.db.sends intent = before) (changed : statusOf next.db.sends intent = after)
      (others : ∀ other, other ≠ intent → statusOf next.db.sends other = statusOf world.db.sends other)
      (moves : StatusMoved ids world label intent before after)

section Writes

variable {ids : SendIdScheme} {world next : World} {label : Label} {intent : SendIntent}

theorem ledgerTaken_same (sends : next.db.sends = world.db.sends) : LedgerTaken ids world label next :=
  .kept fun intent => by rw [sends]

theorem ledgerTaken_guarded {before after : Option SendStatus}
    (written : ∀ other, statusOf next.db.sends other =
      if other = intent ∧ statusOf world.db.sends other = before then after
      else statusOf world.db.sends other)
    (moves : StatusMoved ids world label intent before after) : LedgerTaken ids world label next := by
  by_cases stored : statusOf world.db.sends intent = before
  · refine .moved intent before after stored ?_ ?_ moves
    · rw [written, if_pos ⟨rfl, stored⟩]
    · intro other differs
      rw [written, if_neg fun both => differs both.1]
  · refine .kept fun other => ?_
    rw [written, if_neg]
    rintro ⟨rfl, same⟩
    exact stored same

theorem ledgerTaken_recorded {target : SendStatus}
    (written : ∀ other, statusOf next.db.sends other =
      if other = intent then (statusOf world.db.sends other).map fun _ => target else statusOf world.db.sends other)
    (moves : ∀ source, statusOf world.db.sends intent = some source →
      StatusMoved ids world label intent (some source) (some target)) : LedgerTaken ids world label next := by
  cases stored : statusOf world.db.sends intent with
  | none =>
    refine .kept fun other => ?_
    rw [written]
    split
    · next same => rw [same, stored, Option.map_none]
    · rfl
  | some source =>
    refine .moved intent (some source) (some target) stored ?_ ?_ (moves source stored)
    · rw [written, if_pos rfl, stored, Option.map_some]
    · intro other differs
      rw [written, if_neg differs]

theorem ledgerTaken_delivery {event : DeliveryEvent} (sound : ClaimsSound ids world)
    (taken : DeliveryTaken ids world event next) : LedgerTaken ids world (.delivery event) next := by
  cases taken with
  | @delivered id job result db pending fresh uncalled claimed =>
    cases claimSend_commits claimed with
    | skipped => exact ledgerTaken_same rfl
    | excluded contactId reason =>
      exact ledgerTaken_guarded (fun _ => statusOf_excludeIntent) (.excluded pending claimed)
    | interrupted held =>
      refine ledgerTaken_recorded (fun _ => statusOf_recordSendResult) fun source stored => ?_
      rw [held] at stored
      cases stored
      exact .interrupted pending claimed
    | proceeds prereqs recipient contactId free =>
      exact ledgerTaken_guarded (fun _ => statusOf_claimIntent) (.claimed pending)
  | denied job claim found =>
    have derived : claim.sendId = ids.derive job.intent := (sound _ _ found).1
    refine ledgerTaken_guarded (fun other => ?_) (.denied found)
    simp only [derived]
    exact statusOf_releaseDispatchClaim
  | settled job claim dispatchedAt duration outcome found =>
    have derived : claim.sendId = ids.derive job.intent := sound _ _ found
    cases recorded : recordedStatus outcome with
    | none =>
      refine ledgerTaken_guarded (fun other => ?_) (.released found recorded)
      simp only [settleOutcome_released recorded, derived]
      exact statusOf_releaseDispatchClaim
    | some status =>
      refine ledgerTaken_recorded (fun other => ?_) fun source _ => .recorded source found recorded
      simp only [settleOutcome_recorded recorded, derived]
      exact statusOf_recordSendResult
  | rejected | called | answered | acked | retried | givenUp | crashed => exact ledgerTaken_same rfl

theorem ledgerTaken_writes {id : Nat} {matching : List ContactId} {kickoff : Kickoff} {db : Database}
    {phase : KickoffPhase} (found : world.kickoffs.find? id = some { kickoff with phase })
    (writes : KickoffWrites world.now world.db kickoff.job matching phase db) (sends : next.db.sends = db.sends) :
    LedgerTaken ids world (.kickoff (.advance id matching)) next := by
  cases writes with
  | nothing | batch => exact ledgerTaken_same sends
  | totals => exact ledgerTaken_same (sends.trans (finishFanOut_sends _ _ _ _))
  | exclusion =>
    refine ledgerTaken_guarded (fun other => ?_) (.walked found rfl)
    rw [sends]
    exact statusOf_excludeIntent

theorem ledgerTaken_kickoff {event : KickoffEvent} (taken : KickoffTaken world event next) :
    LedgerTaken ids world (.kickoff event) next := by
  cases taken with
  | started | acked | crashed => exact ledgerTaken_same rfl
  | @advanced id matching kickoff effect found stepped =>
    subst stepped
    exact ledgerTaken_writes found (kickoffStep_writes _ _ _ _ _ _) rfl

theorem ledgerTaken_resolution {sendId : SendId} {db : Database}
    (commits : ResolutionCommits ids world.now world.db sendId db) (sends : next.db.sends = db.sends) :
    LedgerTaken ids world (.reconcile sendId) next := by
  cases commits with
  | held => exact ledgerTaken_same sends
  | swept intent derived status =>
    subst derived
    refine ledgerTaken_guarded (fun other => ?_) .swept
    rw [sends]
    exact statusOf_sweepStaleDispatchingSend
  | unresolved intent derived status =>
    subst derived
    refine ledgerTaken_guarded (fun other => ?_) .unresolved
    rw [sends, statusOf_resolveReconcilingSend]
    by_cases same : other = intent
    · simp [same, status]
    · simp [same]
  | resolved intent derived status =>
    subst derived
    rcases status with waiting | waiting
    · refine ledgerTaken_guarded (fun other => ?_) (.resolved (.inl rfl))
      rw [sends, statusOf_resolveReconcilingSend]
      by_cases same : other = intent
      · simp [same, waiting]
      · simp [same]
    · refine ledgerTaken_guarded (fun other => ?_) (.resolved (.inr rfl))
      rw [sends, statusOf_resolveReconcilingSend]
      by_cases same : other = intent
      · simp [same, waiting]
      · simp [same]

theorem ledgerTaken_step {platform : Platform} (sound : ClaimsSound platform.sendIds world)
    (taken : step platform world label = some next) : LedgerTaken platform.sendIds world label next := by
  cases label with
  | environment event => exact ledgerTaken_same (environmentStep_frame taken).sends
  | api request =>
    obtain ⟨campaigns, _, rfl⟩ := apiStep_taken taken
    exact ledgerTaken_same rfl
  | launch event => cases launchStep_taken taken <;> exact ledgerTaken_same rfl
  | tick event => cases tickStep_taken taken <;> exact ledgerTaken_same rfl
  | kickoff event => exact ledgerTaken_kickoff (kickoffEventStep_taken taken)
  | delivery event => exact ledgerTaken_delivery sound (deliveryStep_taken taken)
  | reconcile sendId =>
    cases taken
    exact ledgerTaken_resolution (resolveOneSend_commits _ _ _ _) rfl
  | webhookBatch | sweep =>
    obtain ⟨db, kept, rfl⟩ := quietStep_taken rfl taken
    exact .kept kept.status

end Writes

end LocalCrm.System
