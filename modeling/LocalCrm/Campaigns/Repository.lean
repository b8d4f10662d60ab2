import LocalCrm.Delivery.PreSendGate

/-! The campaign lifecycle as the API edits it. -/

set_option autoImplicit false

namespace LocalCrm.Campaigns

open Library Delivery

inductive CampaignErrorCode where
  | illegalTransition
  | incomplete
  | notFound
  | versionConflict
  deriving DecidableEq, Repr

structure CampaignStateError where
  message : String
  code : CampaignErrorCode
  currentVersion : Option Nat := none
  deriving DecidableEq, Repr

def notFoundError : CampaignStateError := { message := "Campaign not found", code := .notFound }

def versionConflictError (currentVersion : Nat) : CampaignStateError :=
  { message := "Campaign was modified since it was loaded", code := .versionConflict
    currentVersion := some currentVersion }

def illegalTransitionError (message : String) : CampaignStateError := { message, code := .illegalTransition }

def getCampaign (campaigns : Campaigns) (workspaceId : WorkspaceId) (id : CampaignId) : Option Campaign :=
  (campaigns.find? id).filter (·.workspaceId == workspaceId)

def getCampaignForUpdate (campaigns : Campaigns) (workspaceId : WorkspaceId) (id : CampaignId) :
    Except CampaignStateError Campaign :=
  match getCampaign campaigns workspaceId id with
  | none => .error notFoundError
  | some existing => .ok existing

def requireStatus (existing : Campaign) (status : CampaignStatus) (message : String) :
    Except CampaignStateError Unit :=
  if existing.status ≠ status then .error (illegalTransitionError message) else .ok ()

def requireVersion (existing : Campaign) (expectedVersion : Nat) : Except CampaignStateError Unit :=
  if existing.version ≠ expectedVersion then .error (versionConflictError existing.version) else .ok ()

structure CreateCampaignInput where
  name : String
  segmentId : SegmentId
  templateId : Option String := none
  fromSenderId : Option String := none
  fromEmail : Option String := none
  deriving DecidableEq, Repr

/-- The id is the one the database generates, so it is not in the table yet. -/
def createCampaign (campaigns : Campaigns) (workspaceId : WorkspaceId) (id : CampaignId)
    (input : CreateCampaignInput) : Campaigns :=
  campaigns.insert
    { id, workspaceId, name := input.name, segmentId := input.segmentId, templateId := input.templateId
      fromSenderId := input.fromSenderId, fromEmail := input.fromEmail }

/-- A patch: an absent field is kept, a present null is stored. -/
structure UpdateCampaignInput where
  name : Option String := none
  segmentId : Option SegmentId := none
  templateId : Option (Option String) := none
  fromSenderId : Option (Option String) := none
  fromEmail : Option (Option String) := none
  deriving DecidableEq, Repr

def UpdateCampaignInput.assign (patch : UpdateCampaignInput) (existing : Campaign) : Campaign :=
  { existing with
    name := patch.name.getD existing.name
    segmentId := patch.segmentId.getD existing.segmentId
    templateId := patch.templateId.getD existing.templateId
    fromSenderId := patch.fromSenderId.getD existing.fromSenderId
    fromEmail := patch.fromEmail.getD existing.fromEmail
    fromName := if patch.fromSenderId.isSome || patch.fromEmail.isSome then none else existing.fromName
    version := existing.version + 1 }

theorem UpdateCampaignInput.id_assign (patch : UpdateCampaignInput) (existing : Campaign) :
    (patch.assign existing).id = existing.id := rfl

def updateCampaign (campaigns : Campaigns) (workspaceId : WorkspaceId) (id : CampaignId)
    (patch : UpdateCampaignInput) : Except CampaignStateError Campaigns := do
  let existing ← getCampaignForUpdate campaigns workspaceId id
  requireStatus existing .draft "Only a draft campaign can be edited"
  .ok (campaigns.update (·.id == id) patch.assign patch.id_assign)

structure ResolvedSenderOptions where
  expectedVersion : Nat
  resolvedFromEmail : Option String
  resolvedFromName : Option (Option String)
  deriving DecidableEq, Repr

def ResolvedSenderOptions.fromName (options : ResolvedSenderOptions) (existing : Campaign) : Option String :=
  options.resolvedFromName.getD existing.fromName

def ResolvedSenderOptions.assignLaunch (options : ResolvedSenderOptions) (now : Timestamp)
    (existing : Campaign) : Campaign :=
  { existing with
    status := .sending
    sendingStartedAt := some now
    fromEmail := options.resolvedFromEmail.or existing.fromEmail
    fromName := options.fromName existing
    version := existing.version + 1 }

theorem ResolvedSenderOptions.id_assignLaunch (options : ResolvedSenderOptions) (now : Timestamp)
    (existing : Campaign) : (options.assignLaunch now existing).id = existing.id := rfl

/-- A segment is always set, so of the three fields only two can be missing. -/
def launchComplete (existing : Campaign) : Bool :=
  truthy existing.templateId && (truthy existing.fromEmail || truthy existing.fromSenderId)

def launchCampaign (now : Timestamp) (campaigns : Campaigns) (workspaceId : WorkspaceId) (id : CampaignId)
    (options : ResolvedSenderOptions) : Except CampaignStateError Campaigns := do
  let existing ← getCampaignForUpdate campaigns workspaceId id
  requireStatus existing .draft "Only a draft campaign can be launched"
  requireVersion existing options.expectedVersion
  if !launchComplete existing then
    .error
      { message := "Campaign is missing a required field (template, sender, or segment) before launch"
        code := .incomplete }
  else .ok (campaigns.update (·.id == id) (options.assignLaunch now) (options.id_assignLaunch now))

def ResolvedSenderOptions.assignSchedule (options : ResolvedSenderOptions) (scheduledAt : Timestamp)
    (existing : Campaign) : Campaign :=
  { existing with
    status := .scheduled
    scheduledAt := some scheduledAt
    fromEmail := options.resolvedFromEmail.or existing.fromEmail
    fromName := options.fromName existing
    version := existing.version + 1 }

theorem ResolvedSenderOptions.id_assignSchedule (options : ResolvedSenderOptions) (scheduledAt : Timestamp)
    (existing : Campaign) : (options.assignSchedule scheduledAt existing).id = existing.id := rfl

/-- Unlike a launch, a schedule does not ask whether the campaign is complete. -/
def scheduleCampaign (campaigns : Campaigns) (workspaceId : WorkspaceId) (id : CampaignId)
    (scheduledAt : Timestamp) (options : ResolvedSenderOptions) : Except CampaignStateError Campaigns := do
  let existing ← getCampaignForUpdate campaigns workspaceId id
  requireStatus existing .draft "Only a draft campaign can be scheduled"
  requireVersion existing options.expectedVersion
  .ok (campaigns.update (·.id == id) (options.assignSchedule scheduledAt)
    (options.id_assignSchedule scheduledAt))

def unscheduled (existing : Campaign) : Campaign :=
  { existing with status := .draft, scheduledAt := none, version := existing.version + 1 }

theorem id_unscheduled (existing : Campaign) : (unscheduled existing).id = existing.id := rfl

def canceledAt (now : Timestamp) (existing : Campaign) : Campaign :=
  { existing with status := .canceled, terminalAt := some now, version := existing.version + 1 }

theorem id_canceledAt (now : Timestamp) (existing : Campaign) : (canceledAt now existing).id = existing.id := rfl

def cancelCampaign (now : Timestamp) (campaigns : Campaigns) (workspaceId : WorkspaceId) (id : CampaignId) :
    Except CampaignStateError Campaigns := do
  let existing ← getCampaignForUpdate campaigns workspaceId id
  match existing.status with
  | .scheduled => .ok (campaigns.update (·.id == id) unscheduled id_unscheduled)
  | .sending => .ok (campaigns.update (·.id == id) (canceledAt now) (id_canceledAt now))
  | .draft | .sent | .canceled =>
    .error (illegalTransitionError "Only a scheduled or sending campaign can be canceled")

def withSender (fromEmail : String) (fromName : Option String) (existing : Campaign) : Campaign :=
  { existing with fromEmail := some fromEmail, fromName, version := existing.version + 1 }

theorem id_withSender (fromEmail : String) (fromName : Option String) (existing : Campaign) :
    (withSender fromEmail fromName existing).id = existing.id := rfl

/-- Legal in any status; the row is written only when the sender changes. -/
def prepareCampaignTestSend (campaigns : Campaigns) (workspaceId : WorkspaceId) (id : CampaignId)
    (options : ResolvedSenderOptions) : Except CampaignStateError Campaigns := do
  let existing ← getCampaignForUpdate campaigns workspaceId id
  requireVersion existing options.expectedVersion
  if !truthy existing.templateId then
    .error { message := "Campaign is missing a required field (template) before a test send", code := .incomplete }
  else
    let fromName := options.fromName existing
    match options.resolvedFromEmail.or existing.fromEmail with
    | none =>
      .error { message := "Campaign is missing a required field (sender) before a test send", code := .incomplete }
    | some fromEmail =>
      if fromEmail.isEmpty then
        .error
          { message := "Campaign is missing a required field (sender) before a test send", code := .incomplete }
      else
        .ok (campaigns.update
          (fun campaign => campaign.id == id &&
            (campaign.fromEmail != some fromEmail || campaign.fromName != fromName))
          (withSender fromEmail fromName) (id_withSender fromEmail fromName))

def duplicateCampaign (campaigns : Campaigns) (existing : Campaign) (id : CampaignId) : Campaigns :=
  campaigns.insert
    { id, workspaceId := existing.workspaceId, name := existing.name, segmentId := existing.segmentId
      templateId := existing.templateId, fromSenderId := existing.fromSenderId, fromEmail := existing.fromEmail
      fromName := existing.fromName }

def deleteCampaign (campaigns : Campaigns) (workspaceId : WorkspaceId) (id : CampaignId) :
    Except CampaignStateError Campaigns :=
  match getCampaign campaigns workspaceId id with
  | none => .ok campaigns
  | some existing =>
    if existing.status ≠ .draft ∧ existing.status ≠ .canceled then
      .error (illegalTransitionError "Only a draft or canceled campaign can be deleted")
    else .ok (campaigns.delete fun campaign => campaign.workspaceId == workspaceId && campaign.id == id)

/-- The rows a restored workspace finds overdue go back to draft. -/
def flipOverdueToDraft (now : Timestamp) (campaigns : Campaigns) (workspaceId : WorkspaceId) : Campaigns :=
  campaigns.update
    (fun campaign => campaign.workspaceId == workspaceId && campaign.status == .scheduled &&
      campaign.scheduledAt.any (· ≤ now))
    fun campaign => { campaign with status := .draft }

section Requests

variable {now : Timestamp} {campaigns next : Campaigns} {workspaceId : WorkspaceId} {id : CampaignId}

theorem ok_of_bind {Value Result : Type} {first : Except CampaignStateError Value}
    {second : Value → Except CampaignStateError Result} {result : Result} (ran : first >>= second = .ok result) :
    ∃ value, first = .ok value ∧ second value = .ok result := by
  cases first with
  | error failure => cases ran
  | ok value => exact ⟨value, rfl, ran⟩

theorem getCampaignForUpdate_ok {existing : Campaign}
    (located : getCampaignForUpdate campaigns workspaceId id = .ok existing) :
    getCampaign campaigns workspaceId id = some existing := by
  unfold getCampaignForUpdate at located
  cases found : getCampaign campaigns workspaceId id with
  | none =>
    rw [found] at located
    cases located
  | some campaign =>
    rw [found] at located
    cases located
    rfl

theorem requireStatus_ok {existing : Campaign} {status : CampaignStatus} {message : String} {done : Unit}
    (passed : requireStatus existing status message = .ok done) : existing.status = status := by
  unfold requireStatus at passed
  split at passed
  · cases passed
  · next same => exact not_not.mp same

theorem requireVersion_ok {existing : Campaign} {expectedVersion : Nat} {done : Unit}
    (passed : requireVersion existing expectedVersion = .ok done) : existing.version = expectedVersion := by
  unfold requireVersion at passed
  split at passed
  · cases passed
  · next same => exact not_not.mp same

theorem getCampaign_some {existing : Campaign} (located : getCampaign campaigns workspaceId id = some existing) :
    campaigns.find? id = some existing ∧ existing.workspaceId = workspaceId := by
  obtain ⟨found, owned⟩ := Option.filter_eq_some_iff.mp located
  exact ⟨found, beq_iff_eq.mp owned⟩

theorem updateCampaign_ok {patch : UpdateCampaignInput}
    (committed : updateCampaign campaigns workspaceId id patch = .ok next) :
    ∃ existing, getCampaign campaigns workspaceId id = some existing ∧ existing.status = .draft ∧
      next = campaigns.update (·.id == id) patch.assign patch.id_assign := by
  obtain ⟨existing, located, checked⟩ := ok_of_bind committed
  obtain ⟨_, draft, written⟩ := ok_of_bind checked
  cases written
  exact ⟨existing, getCampaignForUpdate_ok located, requireStatus_ok draft, rfl⟩

theorem launchCampaign_ok {options : ResolvedSenderOptions}
    (committed : launchCampaign now campaigns workspaceId id options = .ok next) :
    ∃ existing, getCampaign campaigns workspaceId id = some existing ∧ existing.status = .draft ∧
      existing.version = options.expectedVersion ∧ launchComplete existing = true ∧
      next = campaigns.update (·.id == id) (options.assignLaunch now) (options.id_assignLaunch now) := by
  obtain ⟨existing, located, checked⟩ := ok_of_bind committed
  obtain ⟨_, draft, versioned⟩ := ok_of_bind checked
  obtain ⟨_, expected, written⟩ := ok_of_bind versioned
  split at written
  · cases written
  · next ready =>
    cases written
    exact ⟨existing, getCampaignForUpdate_ok located, requireStatus_ok draft, requireVersion_ok expected,
      by simpa using ready, rfl⟩

theorem scheduleCampaign_ok {scheduledAt : Timestamp} {options : ResolvedSenderOptions}
    (committed : scheduleCampaign campaigns workspaceId id scheduledAt options = .ok next) :
    ∃ existing, getCampaign campaigns workspaceId id = some existing ∧ existing.status = .draft ∧
      existing.version = options.expectedVersion ∧
      next = campaigns.update (·.id == id) (options.assignSchedule scheduledAt)
        (options.id_assignSchedule scheduledAt) := by
  obtain ⟨existing, located, checked⟩ := ok_of_bind committed
  obtain ⟨_, draft, versioned⟩ := ok_of_bind checked
  obtain ⟨_, expected, written⟩ := ok_of_bind versioned
  cases written
  exact ⟨existing, getCampaignForUpdate_ok located, requireStatus_ok draft, requireVersion_ok expected, rfl⟩

theorem cancelCampaign_ok (committed : cancelCampaign now campaigns workspaceId id = .ok next) :
    ∃ existing, getCampaign campaigns workspaceId id = some existing ∧
      (existing.status = .scheduled ∧ next = campaigns.update (·.id == id) unscheduled id_unscheduled ∨
        existing.status = .sending ∧ next = campaigns.update (·.id == id) (canceledAt now) (id_canceledAt now)) := by
  obtain ⟨existing, located, written⟩ := ok_of_bind committed
  refine ⟨existing, getCampaignForUpdate_ok located, ?_⟩
  cases status : existing.status with
  | scheduled =>
    rw [status] at written
    cases written
    exact .inl ⟨rfl, rfl⟩
  | sending =>
    rw [status] at written
    cases written
    exact .inr ⟨rfl, rfl⟩
  | draft | sent | canceled =>
    rw [status] at written
    cases written

theorem prepareCampaignTestSend_ok {options : ResolvedSenderOptions}
    (committed : prepareCampaignTestSend campaigns workspaceId id options = .ok next) :
    ∃ existing fromEmail, getCampaign campaigns workspaceId id = some existing ∧
      existing.version = options.expectedVersion ∧ options.resolvedFromEmail.or existing.fromEmail = some fromEmail ∧
      next = campaigns.update
        (fun campaign => campaign.id == id &&
          (campaign.fromEmail != some fromEmail || campaign.fromName != options.fromName existing))
        (withSender fromEmail (options.fromName existing)) (id_withSender fromEmail (options.fromName existing)) := by
  obtain ⟨existing, located, checked⟩ := ok_of_bind committed
  obtain ⟨_, expected, written⟩ := ok_of_bind checked
  split at written
  · cases written
  · simp only at written
    split at written
    · cases written
    · next fromEmail effective =>
      split at written
      · cases written
      · cases written
        exact ⟨existing, fromEmail, getCampaignForUpdate_ok located, requireVersion_ok expected, effective, rfl⟩

end Requests

end LocalCrm.Campaigns
