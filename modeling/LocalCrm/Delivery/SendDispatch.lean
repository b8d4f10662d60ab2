import LocalCrm.Delivery.PreSendGate
import LocalCrm.Delivery.SendLedger
import LocalCrm.Delivery.TransportClassify

/-! The three units of one send job. -/

set_option autoImplicit false

namespace LocalCrm.Delivery

open Library

inductive SendJob where
  | campaign (workspaceId : WorkspaceId) (campaignId : CampaignId) (contactId : ContactId)
  | flow (workspaceId : WorkspaceId) (flowRunId : FlowRunId) (nodeId : NodeId) (contactId : ContactId)
  deriving DecidableEq, Repr

def SendJob.intent : SendJob → SendIntent
  | campaign workspaceId campaignId contactId => .campaign workspaceId campaignId contactId
  | flow workspaceId flowRunId nodeId _ => .flow workspaceId flowRunId nodeId

def SendJob.contactId : SendJob → ContactId
  | campaign _ _ contactId => contactId
  | flow _ _ _ contactId => contactId

structure SendPrereqs where
  apiKey : String
  rps : Nat
  templateId : String
  fromEmail : String
  fromName : Option String
  deriving DecidableEq, Repr

def defaultTenantRps : Nat := 10

/-- The key and rate both prerequisite readers resolve first. -/
def readTenantPrereqs (db : Database) (workspaceId : WorkspaceId) : Except String (String × Nat) :=
  match db.sendgridKeys.find? workspaceId with
  | none => .error s!"No SendGrid key connected for workspace {workspaceId}"
  | some key =>
    .ok (key.apiKey, (getWorkspaceSendSettings db.sendSettings workspaceId).rpsLimit.getD defaultTenantRps)

def readSendPrereqs (db : Database) (workspaceId : WorkspaceId) (campaignId : CampaignId) :
    Except String (SendPrereqs × CampaignStatus) := do
  let (apiKey, rps) ← readTenantPrereqs db workspaceId
  let missing := s!"Campaign {campaignId} is missing a templateId/fromEmail for dispatch"
  match (db.campaigns.find? campaignId).filter (·.workspaceId == workspaceId) with
  | none => .error missing
  | some campaign =>
    match campaign.templateId, campaign.fromEmail with
    | some templateId, some fromEmail =>
      if templateId.isEmpty || fromEmail.isEmpty then .error missing
      else .ok ({ apiKey, rps, templateId, fromEmail, fromName := campaign.fromName }, campaign.status)
    | _, _ => .error missing

def readFlowSendPrereqs (db : Database) (workspaceId : WorkspaceId) (flowRunId : FlowRunId) (nodeId : NodeId) :
    Except String SendPrereqs := do
  let (apiKey, rps) ← readTenantPrereqs db workspaceId
  match ((db.flowRuns.find? flowRunId).filter (·.workspaceId == workspaceId)).bind
      fun flowRun => db.flowVersions.find? flowRun.flowVersionId with
  | none => .error s!"Flow run {flowRunId} (or its pinned flow_version) not found in workspace {workspaceId}"
  | some version =>
    match (version.nodes.find? fun node => node.id == nodeId).filter (·.isSend) with
    | none => .error s!"Node {nodeId} in flow run {flowRunId}'s pinned definition is not a send node"
    | some node =>
      let missing :=
        s!"Send node {nodeId} (flow run {flowRunId}) is missing a templateId/fromEmail -- cannot dispatch"
      match node.templateId, node.fromEmail with
      | some templateId, some fromEmail =>
        if templateId.isEmpty || fromEmail.isEmpty then .error missing
        else .ok { apiKey, rps, templateId, fromEmail, fromName := none }
      | _, _ => .error missing

/-- What unit 1 hands to units 2 and 3. -/
structure ClaimedSend where
  prereqs : SendPrereqs
  sendId : SendId
  recipient : String
  deriving DecidableEq, Repr

inductive ClaimResult where
  | proceed (claim : ClaimedSend)
  | excluded (reason : String)
  | skipped
  | reconciling (sendId : SendId)
  deriving DecidableEq, Repr

def findContact (db : Database) (workspaceId : WorkspaceId) (contactId : ContactId) : Except String Contact :=
  match (db.contacts.find? contactId).filter (·.workspaceId == workspaceId) with
  | none => .error s!"Contact {contactId} not found in workspace {workspaceId}"
  | some contact => .ok contact

/-- Each kind of job has its own ledger gate. -/
def claimLedger (ids : SendIdScheme) (now : Timestamp) (sends : Sends) : SendJob → DispatchSendGateResult × Sends
  | .campaign workspaceId campaignId contactId => dispatchSendGate ids now sends workspaceId campaignId contactId
  | .flow workspaceId flowRunId nodeId contactId =>
    claimFlowSendLedger ids now sends workspaceId flowRunId nodeId contactId

theorem claimLedger_eq (ids : SendIdScheme) (now : Timestamp) (sends : Sends) (job : SendJob) :
    claimLedger ids now sends job = claimIntent ids now sends job.intent job.contactId := by
  cases job <;> rfl

/-- The tail of both claims: the gate, the exclusion record, the claim row and
the interrupted redelivery. -/
def claimAfterPrereqs (ids : SendIdScheme) (now : Timestamp) (db : Database) (job : SendJob)
    (workspaceId : WorkspaceId) (contactId : ContactId) (prereqs : SendPrereqs) :
    Except String (ClaimResult × Database) := do
  let contact ← findContact db workspaceId contactId
  match evaluatePreSendGate now db workspaceId contact with
  | .skip reason =>
    .ok (.excluded reason.text,
      { db with sends := excludeIntent now db.sends job.intent contactId reason.text })
  | .sendable =>
    match claimLedger ids now db.sends job with
    | (.skipped, sends) => .ok (.skipped, { db with sends })
    | (.interrupted sendId, sends) =>
      .ok (.reconciling sendId,
        { db with sends := recordSendResult ids now sends sendId { status := .reconciling } })
    | (.claimed sendId, sends) =>
      .ok (.proceed { prereqs, sendId, recipient := contact.email.getD "" }, { db with sends })

def claimCampaignSend (ids : SendIdScheme) (now : Timestamp) (db : Database) (workspaceId : WorkspaceId)
    (campaignId : CampaignId) (contactId : ContactId) : Except String (ClaimResult × Database) := do
  let (prereqs, status) ← readSendPrereqs db workspaceId campaignId
  if status ≠ .sending then .ok (.skipped, db)
  else if isWorkspaceSoftDeleted db.organizations workspaceId then
    .ok (.excluded workspaceDeletedExclusionReason,
      { db with sends :=
          recordExcluded now db.sends workspaceId campaignId contactId workspaceDeletedExclusionReason })
  else
    claimAfterPrereqs ids now db (.campaign workspaceId campaignId contactId) workspaceId contactId prereqs

/-- Unlike the campaign claim, the freeze is checked before the prerequisites. -/
def claimFlowSend (ids : SendIdScheme) (now : Timestamp) (db : Database) (workspaceId : WorkspaceId)
    (flowRunId : FlowRunId) (nodeId : NodeId) (contactId : ContactId) :
    Except String (ClaimResult × Database) := do
  if isWorkspaceSoftDeleted db.organizations workspaceId then
    .ok (.excluded workspaceDeletedExclusionReason,
      { db with sends :=
          recordFlowExcluded now db.sends workspaceId flowRunId nodeId contactId workspaceDeletedExclusionReason })
  else
    let prereqs ← readFlowSendPrereqs db workspaceId flowRunId nodeId
    claimAfterPrereqs ids now db (.flow workspaceId flowRunId nodeId contactId) workspaceId contactId prereqs

def claimSend (ids : SendIdScheme) (now : Timestamp) (db : Database) :
    SendJob → Except String (ClaimResult × Database)
  | .campaign workspaceId campaignId contactId => claimCampaignSend ids now db workspaceId campaignId contactId
  | .flow workspaceId flowRunId nodeId contactId =>
    claimFlowSend ids now db workspaceId flowRunId nodeId contactId

inductive RateLimitCause where
  | tenantBucket
  | providerBackoff
  deriving DecidableEq, Repr

inductive SendJobResult where
  | sent (sendId : SendId) (providerMessageId : Option String)
  | failed (sendId : SendId)
  | excluded (reason : String)
  | skipped
  | reconciling (sendId : SendId)
  | rateLimited (cause : RateLimitCause)
  | threw
  deriving DecidableEq, Repr

def SendJobResult.completes : SendJobResult → Bool
  | .sent _ _ | .failed _ | .excluded _ | .skipped | .reconciling _ => true
  | .rateLimited _ | .threw => false

def recordCampaignOutcome (ids : SendIdScheme) (now : Timestamp) (db : Database) (campaignId : CampaignId)
    (sendId : SendId) (result : SendResult) (outcome : CountedOutcome) : Database :=
  let sends := recordSendResult ids now db.sends sendId result
  let counted := incrementCampaignSendCounter db.campaigns campaignId outcome
  { db with sends, campaigns := tryCompleteCampaign now sends counted campaignId }

def recordOutcome (ids : SendIdScheme) (now : Timestamp) (db : Database) (job : SendJob) (sendId : SendId)
    (result : SendResult) (outcome : CountedOutcome) : Database :=
  match job with
  | .campaign _ campaignId _ => recordCampaignOutcome ids now db campaignId sendId result outcome
  | .flow _ _ _ _ => { db with sends := recordFlowStepResult ids now db.sends sendId result }

def measuredResult (status : RecordedStatus) (providerMessageId : Option String) (dispatchedAt : Timestamp)
    (dispatchDurationMs : Int) : SendResult where
  status
  providerMessageId
  dispatchedAt := some dispatchedAt
  dispatchDurationMs := some dispatchDurationMs

/-- A rejected call: released and retried when nothing can have left, else left open. -/
def handleAmbiguousSendMailError (ids : SendIdScheme) (now : Timestamp) (db : Database) (sendId : SendId)
    (dispatchedAt : Timestamp) (dispatchDurationMs : Int) (err : ThrownValue) : SendJobResult × Database :=
  match classifyTransportError err with
  | .preConnectionRetryable => (.threw, { db with sends := releaseDispatchClaim ids db.sends sendId })
  | .ambiguous =>
    let result := measuredResult .reconciling none dispatchedAt dispatchDurationMs
    (.reconciling sendId, { db with sends := recordSendResult ids now db.sends sendId result })

/-- Unit 3. -/
def settleOutcome (ids : SendIdScheme) (now : Timestamp) (db : Database) (job : SendJob) (sendId : SendId)
    (dispatchedAt : Timestamp) (dispatchDurationMs : Int) : CallOutcome → SendJobResult × Database
  | .threw err => handleAmbiguousSendMailError ids now db sendId dispatchedAt dispatchDurationMs err
  | .response status messageId =>
    if status = 429 ∨ status ≥ 500 then
      (.rateLimited .providerBackoff, { db with sends := releaseDispatchClaim ids db.sends sendId })
    else if status ≥ 400 then
      (.failed sendId, recordOutcome ids now db job sendId
        (measuredResult .failed none dispatchedAt dispatchDurationMs) .failed)
    else
      (.sent sendId messageId, recordOutcome ids now db job sendId
        (measuredResult .sent messageId dispatchedAt dispatchDurationMs) .sent)

def recordedStatus (outcome : CallOutcome) : Option RecordedStatus :=
  if outcome.provenNotAccepted then none
  else
    match outcome with
    | .threw _ => some .reconciling
    | .response status _ => if status ≥ 400 then some .failed else some .sent

def recordedMessageId : CallOutcome → Option String
  | .threw _ => none
  | .response status messageId => if status ≥ 400 then none else messageId

theorem recordedStatus_eq_none {outcome : CallOutcome} :
    recordedStatus outcome = none ↔ outcome.provenNotAccepted = true := by
  unfold recordedStatus
  by_cases proven : outcome.provenNotAccepted = true
  · simp [proven]
  · rw [if_neg proven]
    cases outcome with
    | threw err => simp [proven]
    | response status messageId => by_cases rejected : status ≥ 400 <;> simp [proven, rejected]

def settledCampaigns (now : Timestamp) (sends : Sends) (campaigns : Campaigns) (job : SendJob) :
    RecordedStatus → Campaigns
  | .sent =>
    match job with
    | .campaign _ campaignId _ =>
      tryCompleteCampaign now sends (incrementCampaignSendCounter campaigns campaignId .sent) campaignId
    | .flow _ _ _ _ => campaigns
  | .failed =>
    match job with
    | .campaign _ campaignId _ =>
      tryCompleteCampaign now sends (incrementCampaignSendCounter campaigns campaignId .failed) campaignId
    | .flow _ _ _ _ => campaigns
  | .reconciling => campaigns

section Units

variable {ids : SendIdScheme} {now : Timestamp} {db next : Database} {job : SendJob} {sendId : SendId}
  {dispatchedAt : Timestamp} {duration : Int} {outcome : CallOutcome}

inductive ClaimCommits (ids : SendIdScheme) (now : Timestamp) (db : Database) (job : SendJob) :
    ClaimResult → Database → Prop where
  | skipped : ClaimCommits ids now db job .skipped db
  | excluded (contactId : ContactId) (reason : String) :
      ClaimCommits ids now db job (.excluded reason)
        { db with sends := excludeIntent now db.sends job.intent contactId reason }
  | interrupted (held : statusOf db.sends job.intent = some .dispatching) :
      ClaimCommits ids now db job (.reconciling (ids.derive job.intent))
        { db with sends := recordSendResult ids now db.sends (ids.derive job.intent) { status := .reconciling } }
  | proceeds (prereqs : SendPrereqs) (recipient : String) (contactId : ContactId)
      (free : statusOf db.sends job.intent = none) :
      ClaimCommits ids now db job (.proceed { prereqs, sendId := ids.derive job.intent, recipient })
        { db with sends := (claimIntent ids now db.sends job.intent contactId).2 }

theorem claimAfterPrereqs_commits {workspaceId : WorkspaceId} {contactId : ContactId} {prereqs : SendPrereqs}
    {result : ClaimResult}
    (claimed : claimAfterPrereqs ids now db job workspaceId contactId prereqs = .ok (result, next)) :
    ClaimCommits ids now db job result next := by
  unfold claimAfterPrereqs at claimed
  cases located : findContact db workspaceId contactId with
  | error message =>
    rw [located] at claimed
    cases claimed
  | ok contact =>
    rw [located] at claimed
    simp only [bind, Except.bind] at claimed
    cases decision : evaluatePreSendGate now db workspaceId contact with
    | skip reason =>
      rw [decision] at claimed
      cases claimed
      exact .excluded contactId reason.text
    | sendable =>
      rw [decision] at claimed
      cases found : db.sends.find? job.intent with
      | none =>
        simp only [claimLedger_eq, claimIntent, found] at claimed
        cases claimed
        have commits : ClaimCommits ids now db job _ _ :=
          .proceeds prereqs (contact.email.getD "") job.contactId (by simp [statusOf, found])
        simpa only [claimIntent, found] using commits
      | some row =>
        have keyed : row.intent = job.intent := Table.key_of_find? found
        cases status : row.status with
        | dispatching =>
          simp only [claimLedger_eq, claimIntent, found, status] at claimed
          cases claimed
          rw [keyed]
          exact .interrupted (by simp [statusOf, found, status])
        | sent | failed | excluded | reconciling | unknown =>
          simp only [claimLedger_eq, claimIntent, found, status] at claimed
          cases claimed
          exact .skipped

theorem claimSend_ends {result : ClaimResult} (claimed : claimSend ids now db job = .ok (result, next)) :
    (result = .skipped ∧ next = db) ∨
    (result = .excluded workspaceDeletedExclusionReason ∧ next =
      { db with sends := excludeIntent now db.sends job.intent job.contactId workspaceDeletedExclusionReason }) ∨
    ∃ prereqs, claimAfterPrereqs ids now db job job.intent.workspaceId job.contactId prereqs = .ok (result, next) ∧
      isWorkspaceSoftDeleted db.organizations job.intent.workspaceId = false ∧
      ∀ workspaceId campaignId contactId, job = .campaign workspaceId campaignId contactId →
        readSendPrereqs db workspaceId campaignId = .ok (prereqs, .sending) := by
  cases job with
  | campaign workspaceId campaignId contactId =>
    simp only [claimSend, claimCampaignSend] at claimed
    cases read : readSendPrereqs db workspaceId campaignId with
    | error message =>
      rw [read] at claimed
      cases claimed
    | ok found =>
      obtain ⟨prereqs, status⟩ := found
      rw [read] at claimed
      simp only [bind, Except.bind] at claimed
      split at claimed
      · cases claimed
        exact .inl ⟨rfl, rfl⟩
      · next sending =>
        split at claimed
        · cases claimed
          exact .inr (.inl ⟨rfl, rfl⟩)
        · next active =>
          refine .inr (.inr ⟨prereqs, claimed, Bool.eq_false_of_not_eq_true active, ?_⟩)
          intro _ _ _ same
          cases same
          rw [read, not_not.mp sending]
  | flow workspaceId flowRunId nodeId contactId =>
    simp only [claimSend, claimFlowSend] at claimed
    split at claimed
    · cases claimed
      exact .inr (.inl ⟨rfl, rfl⟩)
    · next active =>
      cases read : readFlowSendPrereqs db workspaceId flowRunId nodeId with
      | error message =>
        rw [read] at claimed
        cases claimed
      | ok prereqs =>
        rw [read] at claimed
        refine .inr (.inr ⟨prereqs, claimed, Bool.eq_false_of_not_eq_true active, ?_⟩)
        intro _ _ _ same
        cases same

theorem claimSend_commits {result : ClaimResult} (claimed : claimSend ids now db job = .ok (result, next)) :
    ClaimCommits ids now db job result next := by
  rcases claimSend_ends claimed with ⟨rfl, rfl⟩ | ⟨rfl, rfl⟩ | ⟨prereqs, onward, _⟩
  · exact .skipped
  · exact .excluded job.contactId workspaceDeletedExclusionReason
  · exact claimAfterPrereqs_commits onward

theorem claimAfterPrereqs_admits {workspaceId : WorkspaceId} {contactId : ContactId} {prereqs : SendPrereqs}
    {claim : ClaimedSend}
    (claimed : claimAfterPrereqs ids now db job workspaceId contactId prereqs = .ok (.proceed claim, next)) :
    (∃ contact, db.contacts.find? contactId = some contact ∧ contact.workspaceId = workspaceId ∧
      evaluatePreSendGate now db workspaceId contact = .sendable ∧ claim.recipient = contact.email.getD "") ∧
    db.sends.find? job.intent = none ∧
    next = { db with sends := (claimIntent ids now db.sends job.intent job.contactId).2 } := by
  unfold claimAfterPrereqs findContact at claimed
  cases located : (db.contacts.find? contactId).filter (·.workspaceId == workspaceId) with
  | none =>
    rw [located] at claimed
    cases claimed
  | some contact =>
    rw [located] at claimed
    obtain ⟨found, within⟩ := Option.filter_eq_some_iff.mp located
    simp only [bind, Except.bind] at claimed
    cases decision : evaluatePreSendGate now db workspaceId contact with
    | skip reason =>
      rw [decision] at claimed
      cases claimed
    | sendable =>
      rw [decision] at claimed
      cases stored : db.sends.find? job.intent with
      | none =>
        simp only [claimLedger_eq, claimIntent, stored] at claimed ⊢
        cases claimed
        exact ⟨⟨contact, found, beq_iff_eq.mp within, decision, rfl⟩, trivial, rfl⟩
      | some row =>
        cases status : row.status <;> simp only [claimLedger_eq, claimIntent, stored, status] at claimed <;> cases claimed

theorem claimSend_admits {claim : ClaimedSend} (claimed : claimSend ids now db job = .ok (.proceed claim, next)) :
    (∃ contact, db.contacts.find? job.contactId = some contact ∧
      evaluatePreSendGate now db job.intent.workspaceId contact = .sendable) ∧
    db.sends.find? job.intent = none ∧
    next = { db with sends := (claimIntent ids now db.sends job.intent job.contactId).2 } := by
  rcases claimSend_ends claimed with ⟨skipped, _⟩ | ⟨excluded, _⟩ | ⟨prereqs, onward, _⟩
  · cases skipped
  · cases excluded
  · obtain ⟨⟨contact, found, _, sendable, _⟩, free⟩ := claimAfterPrereqs_admits onward
    exact ⟨⟨contact, found, sendable⟩, free⟩

theorem settleOutcome_released (proven : recordedStatus outcome = none) :
    (settleOutcome ids now db job sendId dispatchedAt duration outcome).2 =
      { db with sends := releaseDispatchClaim ids db.sends sendId } := by
  unfold recordedStatus at proven
  split at proven
  · next rejected =>
    cases outcome with
    | threw err =>
      have retryable : classifyTransportError err = .preConnectionRetryable := by
        simpa [CallOutcome.provenNotAccepted] using rejected
      simp only [settleOutcome, handleAmbiguousSendMailError, retryable]
    | response status messageId =>
      have refused : status = 429 ∨ status ≥ 500 := by
        simpa [CallOutcome.provenNotAccepted] using rejected
      simp only [settleOutcome, if_pos refused]
  · cases outcome with
    | threw err => cases proven
    | response status messageId =>
      simp only at proven
      split at proven <;> cases proven

theorem settleOutcome_recorded {status : RecordedStatus} (recorded : recordedStatus outcome = some status) :
    (settleOutcome ids now db job sendId dispatchedAt duration outcome).2 =
      { db with
        sends := recordSendResult ids now db.sends sendId
          (measuredResult status (recordedMessageId outcome) dispatchedAt duration)
        campaigns := settledCampaigns now
          (recordSendResult ids now db.sends sendId
            (measuredResult status (recordedMessageId outcome) dispatchedAt duration))
          db.campaigns job status } := by
  unfold recordedStatus at recorded
  split at recorded
  · cases recorded
  · next accepted =>
    cases outcome with
    | threw err =>
      cases recorded
      have ambiguous : classifyTransportError err = .ambiguous := by
        cases kind : classifyTransportError err with
        | ambiguous => rfl
        | preConnectionRetryable => simp [CallOutcome.provenNotAccepted, kind] at accepted
      simp only [settleOutcome, handleAmbiguousSendMailError, ambiguous, settledCampaigns, recordedMessageId]
    | response code messageId =>
      have unrefused : ¬ (code = 429 ∨ code ≥ 500) := by
        simpa [CallOutcome.provenNotAccepted] using accepted
      simp only at recorded
      split at recorded
      · next rejected =>
        cases recorded
        simp only [settleOutcome, if_neg unrefused, if_pos rejected, recordedMessageId]
        cases job <;> rfl
      · next answered =>
        cases recorded
        simp only [settleOutcome, if_neg unrefused, if_neg answered, recordedMessageId]
        cases job <;> rfl

end Units

end LocalCrm.Delivery
