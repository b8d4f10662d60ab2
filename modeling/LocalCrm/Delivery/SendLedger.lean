import LocalCrm.Schema

/-! The writes of the send ledger and of the campaign counters beside it.

Each definition is one statement, or one statement and its fallback read, run in the caller's transaction.
-/

set_option autoImplicit false

namespace LocalCrm.Delivery

open Library

inductive DispatchSendGateResult where
  | skipped
  | claimed (sendId : SendId)
  | interrupted (sendId : SendId)
  deriving DecidableEq, Repr

/-- The insert-or-inspect both claim gates share. -/
def claimIntent (ids : SendIdScheme) (now : Timestamp) (sends : Sends) (intent : SendIntent)
    (contactId : ContactId) : DispatchSendGateResult × Sends :=
  match sends.find? intent with
  | none =>
    (.claimed (ids.derive intent), sends.insert { intent, contactId, status := .dispatching, queuedAt := now })
  | some existing =>
    match existing.status with
    | .sent | .failed | .excluded => (.skipped, sends)
    | .reconciling | .unknown => (.skipped, sends)
    | .dispatching => (.interrupted (ids.derive existing.intent), sends)

def dispatchSendGate (ids : SendIdScheme) (now : Timestamp) (sends : Sends) (workspaceId : WorkspaceId)
    (campaignId : CampaignId) (contactId : ContactId) : DispatchSendGateResult × Sends :=
  claimIntent ids now sends (.campaign workspaceId campaignId contactId) contactId

def claimFlowSendLedger (ids : SendIdScheme) (now : Timestamp) (sends : Sends) (workspaceId : WorkspaceId)
    (flowRunId : FlowRunId) (nodeId : NodeId) (contactId : ContactId) : DispatchSendGateResult × Sends :=
  claimIntent ids now sends (.flow workspaceId flowRunId nodeId) contactId

def releaseDispatchClaim (ids : SendIdScheme) (sends : Sends) (sendId : SendId) : Sends :=
  sends.delete fun row => ids.derive row.intent == sendId && row.status == .dispatching

inductive RecordedStatus where
  | sent
  | failed
  | reconciling
  deriving DecidableEq, Repr

def RecordedStatus.toSendStatus : RecordedStatus → SendStatus
  | sent => .sent
  | failed => .failed
  | reconciling => .reconciling

structure SendResult where
  status : RecordedStatus
  providerMessageId : Option String := none
  dispatchedAt : Option Timestamp := none
  dispatchDurationMs : Option Int := none
  deriving DecidableEq, Repr

/-- The columns one recorded result sets; there is no guard on the old status. -/
def SendResult.assign (result : SendResult) (now : Timestamp) (row : Send) : Send :=
  { row with
    status := result.status.toSendStatus
    providerMessageId := result.providerMessageId
    sentAt := if result.status = .sent then some now else row.sentAt
    reconcilingSince :=
      if result.status = .reconciling then row.reconcilingSince.or (some now) else row.reconcilingSince
    dispatchedAt := result.dispatchedAt.or row.dispatchedAt
    dispatchDurationMs := result.dispatchDurationMs.or row.dispatchDurationMs }

theorem SendResult.intent_assign (result : SendResult) (now : Timestamp) (row : Send) :
    (result.assign now row).intent = row.intent := rfl

def recordSendResult (ids : SendIdScheme) (now : Timestamp) (sends : Sends) (sendId : SendId)
    (result : SendResult) : Sends :=
  sends.update (fun row => ids.derive row.intent == sendId) (result.assign now) (result.intent_assign now)

def recordFlowStepResult (ids : SendIdScheme) (now : Timestamp) (sends : Sends) (sendId : SendId)
    (result : SendResult) : Sends :=
  recordSendResult ids now sends sendId result

inductive ResolveReconcilingVerdict where
  | resolveSent
  | resolveUnknown
  deriving DecidableEq, Repr

def awaitsReconciler (row : Send) : Bool := row.status == .reconciling || row.status == .unknown

def resolvedAsSent (row : Send) : Send :=
  { row with
    status := .sent
    sentAt := (row.dispatchedAt.or row.reconcilingSince).or (some row.queuedAt)
    reconcilingSince := none }

def resolvedAsUnknown (row : Send) : Send := { row with status := .unknown }

def ResolveReconcilingVerdict.assign : ResolveReconcilingVerdict → Send → Send
  | .resolveSent => resolvedAsSent
  | .resolveUnknown => resolvedAsUnknown

theorem ResolveReconcilingVerdict.intent_assign (verdict : ResolveReconcilingVerdict) (row : Send) :
    (verdict.assign row).intent = row.intent := by
  cases verdict <;> rfl

/-- Whether the guarded statement matched a row, with the table it leaves. -/
def resolveReconcilingSend (ids : SendIdScheme) (sends : Sends) (sendId : SendId)
    (verdict : ResolveReconcilingVerdict) : Bool × Sends :=
  let matched := fun row : Send => ids.derive row.intent == sendId && awaitsReconciler row
  (sends.rows.any matched, sends.update matched verdict.assign verdict.intent_assign)

def sweptAt (now : Timestamp) (row : Send) : Send :=
  { row with status := .reconciling, reconcilingSince := row.reconcilingSince.or (some now) }

theorem intent_sweptAt (now : Timestamp) (row : Send) : (sweptAt now row).intent = row.intent := rfl

def sweepStaleDispatchingSend (ids : SendIdScheme) (now : Timestamp) (sends : Sends) (sendId : SendId) :
    Bool × Sends :=
  let matched := fun row : Send => ids.derive row.intent == sendId && row.status == .dispatching
  (sends.rows.any matched, sends.update matched (sweptAt now) (intent_sweptAt now))

/-- The upsert both exclusion records share: a row that ever left `excluded` is kept. -/
def excludeIntent (now : Timestamp) (sends : Sends) (intent : SendIntent) (contactId : ContactId)
    (reason : String) : Sends :=
  sends.upsert { intent, contactId, status := .excluded, exclusionReason := some reason, queuedAt := now }
    (fun row => !(row.status ∈ [.sent, .dispatching, .failed, .reconciling, .unknown]))
    (fun row => { row with status := .excluded, exclusionReason := some reason })

def recordExcluded (now : Timestamp) (sends : Sends) (workspaceId : WorkspaceId) (campaignId : CampaignId)
    (contactId : ContactId) (reason : String) : Sends :=
  excludeIntent now sends (.campaign workspaceId campaignId contactId) contactId reason

def recordFlowExcluded (now : Timestamp) (sends : Sends) (workspaceId : WorkspaceId) (flowRunId : FlowRunId)
    (nodeId : NodeId) (contactId : ContactId) (reason : String) : Sends :=
  excludeIntent now sends (.flow workspaceId flowRunId nodeId) contactId reason

inductive CountedOutcome where
  | sent
  | failed
  deriving DecidableEq, Repr

def Campaign.countOutcome (campaign : Campaign) : CountedOutcome → Campaign
  | .sent => { campaign with sentCount := campaign.sentCount + 1 }
  | .failed => { campaign with failedCount := campaign.failedCount + 1 }

theorem Campaign.id_countOutcome (outcome : CountedOutcome) (campaign : Campaign) :
    (Campaign.countOutcome campaign outcome).id = campaign.id := by
  cases outcome <;> rfl

def incrementCampaignSendCounter (campaigns : Campaigns) (campaignId : CampaignId) (outcome : CountedOutcome) :
    Campaigns :=
  campaigns.update (fun campaign => campaign.id == campaignId && campaign.status == .sending)
    (Campaign.countOutcome · outcome) (Campaign.id_countOutcome outcome)

def backfillCampaignSendCounter (campaigns : Campaigns) (campaignId : CampaignId) (outcome : CountedOutcome) :
    Campaigns :=
  campaigns.update (fun campaign => campaign.id == campaignId)
    (Campaign.countOutcome · outcome) (Campaign.id_countOutcome outcome)

/-- Rows of the campaign whose outcome is still open to the reconciler. -/
def ambiguousCount (sends : Sends) (campaignId : CampaignId) : Nat :=
  sends.count fun row => row.intent.campaignId == some campaignId && awaitsReconciler row

/-- A null `sendable_total` compares as unknown, so it never completes. -/
def completionDue (sends : Sends) (campaign : Campaign) : Bool :=
  campaign.status == .sending && campaign.fanOutComplete &&
    campaign.sendableTotal.any fun total =>
      total ≤ campaign.sentCount + campaign.failedCount + ambiguousCount sends campaign.id

def tryCompleteCampaign (now : Timestamp) (sends : Sends) (campaigns : Campaigns) (campaignId : CampaignId) :
    Campaigns :=
  campaigns.update (fun campaign => campaign.id == campaignId && completionDue sends campaign)
    fun campaign => { campaign with status := .sent, terminalAt := some now }

def statusOf (sends : Sends) (intent : SendIntent) : Option SendStatus :=
  (sends.find? intent).map Send.status

section Lookup

variable {ids : SendIdScheme} {now : Timestamp} {sends : Sends} {intent other : SendIntent}
  {contactId : ContactId} {result : SendResult} {reason : String}

theorem find?_updateById {matched : Send → Bool} {set : Send → Send}
    (keeps : ∀ row, (set row).intent = row.intent) :
    (sends.update (fun row => ids.derive row.intent == ids.derive intent && matched row) set keeps).find? other =
      if other = intent then (sends.find? other).map fun row => if matched row then set row else row
      else sends.find? other := by
  rw [Table.find?_update]
  cases found : sends.find? other with
  | none => simp
  | some row =>
    have keyed : row.intent = other := Table.key_of_find? found
    by_cases same : other = intent
    · simp [keyed, same]
    · simp [keyed, same, ids.derive_eq]

theorem find?_recordSendResult :
    (recordSendResult ids now sends (ids.derive intent) result).find? other =
      if other = intent then (sends.find? other).map (result.assign now) else sends.find? other := by
  have unguarded : recordSendResult ids now sends (ids.derive intent) result =
      sends.update (fun row => ids.derive row.intent == ids.derive intent && true) (result.assign now)
        (result.intent_assign now) := by
    simp [recordSendResult]
  rw [unguarded, find?_updateById]
  simp

theorem find?_releaseDispatchClaim :
    (releaseDispatchClaim ids sends (ids.derive intent)).find? other =
      if other = intent ∧ statusOf sends other = some .dispatching then none else sends.find? other := by
  rw [releaseDispatchClaim, Table.find?_delete]
  cases found : sends.find? other with
  | none => simp
  | some row =>
    have keyed : row.intent = other := Table.key_of_find? found
    by_cases same : other = intent
    · by_cases held : row.status = .dispatching <;> simp [Option.filter, statusOf, keyed, same ▸ found, same, held]
    · simp [Option.filter, keyed, same, ids.derive_eq]

theorem find?_claimIntent :
    ((claimIntent ids now sends intent contactId).2).find? other =
      if other = intent ∧ sends.find? other = none then
        some { intent, contactId, status := .dispatching, queuedAt := now }
      else sends.find? other := by
  unfold claimIntent
  cases found : sends.find? intent with
  | none =>
    rw [Table.find?_insert_fresh found]
    by_cases same : other = intent
    · simp [same, found]
    · simp [same]
  | some row =>
    have unchanged : ¬ (other = intent ∧ sends.find? other = none) := by
      rintro ⟨rfl, missing⟩
      rw [found] at missing
      cases missing
    rw [if_neg unchanged]
    cases status : row.status <;> simp [status]

theorem find?_excludeIntent :
    (excludeIntent now sends intent contactId reason).find? other =
      if other = intent then
        some (match sends.find? other with
          | some row => if row.status = .excluded then { row with exclusionReason := some reason } else row
          | none => { intent, contactId, status := .excluded, exclusionReason := some reason, queuedAt := now })
      else sends.find? other := by
  rw [excludeIntent, Table.find?_upsert]
  by_cases same : other = intent
  · subst same
    cases sends.find? other with
    | none => rfl
    | some row =>
      obtain ⟨_, _, status⟩ := row
      cases status <;> rfl
  · rw [if_neg (Ne.symm same), if_neg same]

theorem find?_sweepStaleDispatchingSend :
    ((sweepStaleDispatchingSend ids now sends (ids.derive intent)).2).find? other =
      if other = intent then
        (sends.find? other).map fun row => if row.status == .dispatching then sweptAt now row else row
      else sends.find? other :=
  find?_updateById (intent_sweptAt now)

theorem find?_resolveReconcilingSend {verdict : ResolveReconcilingVerdict} :
    ((resolveReconcilingSend ids sends (ids.derive intent) verdict).2).find? other =
      if other = intent then
        (sends.find? other).map fun row => if awaitsReconciler row then verdict.assign row else row
      else sends.find? other :=
  find?_updateById verdict.intent_assign

end Lookup

section Status

variable {ids : SendIdScheme} {now : Timestamp} {sends : Sends} {intent other : SendIntent}
  {contactId : ContactId} {result : SendResult} {reason : String}

theorem statusOf_recordSendResult :
    statusOf (recordSendResult ids now sends (ids.derive intent) result) other =
      if other = intent then (statusOf sends other).map fun _ => result.status.toSendStatus
      else statusOf sends other := by
  rw [statusOf, find?_recordSendResult]
  by_cases same : other = intent
  · cases found : sends.find? other <;> simp [statusOf, same ▸ found, same, SendResult.assign]
  · simp [same, statusOf]

theorem statusOf_releaseDispatchClaim :
    statusOf (releaseDispatchClaim ids sends (ids.derive intent)) other =
      if other = intent ∧ statusOf sends other = some .dispatching then none else statusOf sends other := by
  rw [statusOf, find?_releaseDispatchClaim]
  split <;> rfl

theorem statusOf_claimIntent :
    statusOf (claimIntent ids now sends intent contactId).2 other =
      if other = intent ∧ statusOf sends other = none then some .dispatching else statusOf sends other := by
  rw [statusOf, find?_claimIntent]
  simp only [statusOf, Option.map_eq_none_iff]
  split <;> rfl

theorem statusOf_excludeIntent :
    statusOf (excludeIntent now sends intent contactId reason) other =
      if other = intent ∧ statusOf sends other = none then some .excluded else statusOf sends other := by
  rw [statusOf, find?_excludeIntent]
  by_cases same : other = intent
  · cases found : sends.find? other with
    | none => simp [statusOf, same ▸ found, same]
    | some row =>
      by_cases excluded : row.status = .excluded <;> simp [statusOf, same ▸ found, same, excluded]
  · simp [same, statusOf]

theorem statusOf_sweepStaleDispatchingSend :
    statusOf (sweepStaleDispatchingSend ids now sends (ids.derive intent)).2 other =
      if other = intent ∧ statusOf sends other = some .dispatching then some .reconciling
      else statusOf sends other := by
  rw [statusOf, find?_sweepStaleDispatchingSend]
  by_cases same : other = intent
  · cases found : sends.find? other with
    | none => simp [statusOf, same ▸ found, same]
    | some row =>
      by_cases held : row.status = .dispatching <;> simp [statusOf, same ▸ found, same, held, sweptAt]
  · simp [same, statusOf]

theorem statusOf_resolveReconcilingSend {verdict : ResolveReconcilingVerdict} :
    statusOf (resolveReconcilingSend ids sends (ids.derive intent) verdict).2 other =
      if other = intent ∧ (statusOf sends other = some .reconciling ∨ statusOf sends other = some .unknown) then
        some (match verdict with | .resolveSent => .sent | .resolveUnknown => .unknown)
      else statusOf sends other := by
  rw [statusOf, find?_resolveReconcilingSend]
  by_cases same : other = intent
  · cases found : sends.find? other with
    | none => simp [statusOf, same ▸ found, same]
    | some row =>
      cases verdict <;> cases held : row.status <;>
        simp [statusOf, same ▸ found, same, held, awaitsReconciler, ResolveReconcilingVerdict.assign,
          resolvedAsSent, resolvedAsUnknown]
  · simp [same, statusOf]

end Status

end LocalCrm.Delivery
