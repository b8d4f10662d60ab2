import LocalCrm.System.Steps

/-! The columns of a campaign that its completion is decided on, and what each write makes of them. -/

set_option autoImplicit false

namespace LocalCrm.System

open Library Delivery Campaigns Webhooks Analytics

structure Progress where
  workspaceId : WorkspaceId
  status : CampaignStatus
  fanOutComplete : Bool
  sendableTotal : Option Nat
  sentCount : Nat
  failedCount : Nat
  deriving DecidableEq, Repr

def progress (campaign : Campaign) : Progress where
  workspaceId := campaign.workspaceId
  status := campaign.status
  fanOutComplete := campaign.fanOutComplete
  sendableTotal := campaign.sendableTotal
  sentCount := campaign.sentCount
  failedCount := campaign.failedCount

def progressOf (campaigns : LocalCrm.Campaigns) (id : CampaignId) : Option Progress :=
  (campaigns.find? id).map progress

namespace Progress

def fresh (workspaceId : WorkspaceId) : Progress where
  workspaceId
  status := .draft
  fanOutComplete := false
  sendableTotal := none
  sentCount := 0
  failedCount := 0

def Started (columns : Progress) : Prop := columns.status ≠ .draft ∧ columns.status ≠ .scheduled

instance (columns : Progress) : Decidable columns.Started := inferInstanceAs (Decidable (_ ∧ _))

def withStatus (columns : Progress) (status : CampaignStatus) : Progress := { columns with status }

def count (columns : Progress) : CountedOutcome → Progress
  | .sent => { columns with sentCount := columns.sentCount + 1 }
  | .failed => { columns with failedCount := columns.failedCount + 1 }

def counted (columns : Progress) (outcome : CountedOutcome) : Progress :=
  if columns.status = .sending then columns.count outcome else columns

/-- Every counted recipient has its outcome, or `ambiguous` keeps it open. -/
def Due (ambiguous : Nat) (columns : Progress) : Prop :=
  columns.status = .sending ∧ columns.fanOutComplete = true ∧
    ∃ total, columns.sendableTotal = some total ∧ total ≤ columns.sentCount + columns.failedCount + ambiguous

instance (ambiguous : Nat) (columns : Progress) : Decidable (columns.Due ambiguous) :=
  decidable_of_iff (columns.status = .sending ∧ columns.fanOutComplete = true ∧
    (columns.sendableTotal.any fun total =>
      total ≤ columns.sentCount + columns.failedCount + ambiguous) = true) <| by
    simp only [Due, Option.any_eq_true, decide_eq_true_eq]

def completed (ambiguous : Nat) (columns : Progress) : Progress :=
  if columns.Due ambiguous then columns.withStatus .sent else columns

def withTotal (columns : Progress) (sendableTotal : Nat) : Progress :=
  { columns with sendableTotal := some sendableTotal, fanOutComplete := true }

def fannedOut (ambiguous sendableTotal : Nat) (columns : Progress) : Progress :=
  if sendableTotal = 0 then
    if columns.status = .sending then (columns.withTotal 0).withStatus .sent else columns
  else (columns.withTotal sendableTotal).completed ambiguous

end Progress

theorem getCampaign_of_progress {campaigns : LocalCrm.Campaigns} {workspaceId : WorkspaceId} {id : CampaignId}
    {columns : Progress} (found : progressOf campaigns id = some columns) (owner : columns.workspaceId = workspaceId) :
    ∃ campaign, getCampaign campaigns workspaceId id = some campaign ∧ progress campaign = columns := by
  obtain ⟨campaign, stored, rfl⟩ := Option.map_eq_some_iff.mp found
  exact ⟨campaign, Option.filter_eq_some_iff.mpr ⟨stored, beq_iff_eq.mpr owner⟩, rfl⟩

section Writes

variable {now : Timestamp} {sends : Sends} {campaigns : LocalCrm.Campaigns} {id other : CampaignId}

theorem progressOf_update {guard : Campaign → Bool} {set : Campaign → Campaign}
    {keeps : ∀ campaign, (set campaign).id = campaign.id} {matched : Progress → Prop} [DecidablePred matched]
    {assigned : Progress → Progress}
    (guarded : ∀ campaign, guard campaign = true ↔ campaign.id = id ∧ matched (progress campaign))
    (written : ∀ campaign, progress (set campaign) = assigned (progress campaign)) :
    progressOf (campaigns.update guard set keeps) other =
      if other = id then
        (progressOf campaigns other).map fun columns => if matched columns then assigned columns else columns
      else progressOf campaigns other := by
  rw [progressOf, Table.find?_update, progressOf]
  cases found : campaigns.find? other with
  | none => simp
  | some campaign =>
    have keyed : campaign.id = other := Table.key_of_find? found
    by_cases same : other = id
    · by_cases chosen : matched (progress campaign)
      · simp [(guarded campaign).mpr ⟨keyed.trans same, chosen⟩, same, chosen, written]
      · have skipped : ¬ guard campaign = true := fun taken => chosen ((guarded campaign).mp taken).2
        simp [skipped, same, chosen]
    · have skipped : ¬ guard campaign = true := fun taken => same (keyed.symm.trans ((guarded campaign).mp taken).1)
      simp [skipped, same]

theorem progressOf_assign {set : Campaign → Campaign} {assigned : Progress → Progress}
    (written : ∀ campaign, progress (set campaign) = assigned (progress campaign))
    (keeps : ∀ campaign, (set campaign).id = campaign.id := by intro campaign; rfl) :
    progressOf (campaigns.update (fun campaign => campaign.id == id) set keeps) other =
      if other = id then (progressOf campaigns other).map assigned else progressOf campaigns other := by
  have columns : progressOf (campaigns.update (fun campaign => campaign.id == id) set keeps) other =
      if other = id then
        (progressOf campaigns other).map fun columns => if True then assigned columns else columns
      else progressOf campaigns other := progressOf_update (by simp) written
  simpa only [if_true] using columns

theorem progressOf_assigned {set : Campaign → Campaign} {campaign : Campaign} {columns : Progress}
    (stored : campaigns.find? id = some campaign) (written : progress (set campaign) = columns)
    (keeps : ∀ campaign, (set campaign).id = campaign.id := by intro campaign; rfl) :
    progressOf (campaigns.update (fun campaign => campaign.id == id) set keeps) id = some columns := by
  have keyed : campaign.id = id := Table.key_of_find? stored
  rw [progressOf, Table.find?_update, stored]
  simp [keyed, written]

theorem progressOf_unread {guard : Campaign → Bool} {set : Campaign → Campaign}
    {keeps : ∀ campaign, (set campaign).id = campaign.id}
    (written : ∀ campaign, progress (set campaign) = progress campaign) :
    progressOf (campaigns.update guard set keeps) other = progressOf campaigns other := by
  rw [progressOf, Table.find?_update, progressOf, Option.map_map]
  congr 1
  funext campaign
  by_cases chosen : guard campaign = true <;> simp [chosen, written]

theorem progressOf_increment {outcome : CountedOutcome} :
    progressOf (incrementCampaignSendCounter campaigns id outcome) other =
      if other = id then (progressOf campaigns other).map (·.counted outcome) else progressOf campaigns other :=
  progressOf_update (by simp [progress]) fun campaign => by cases outcome <;> rfl

theorem progressOf_backfill {outcome : CountedOutcome} :
    progressOf (backfillCampaignSendCounter campaigns id outcome) other =
      if other = id then (progressOf campaigns other).map (·.count outcome) else progressOf campaigns other :=
  progressOf_assign (fun campaign => by cases outcome <;> rfl) (Campaign.id_countOutcome outcome)

theorem completionDue_iff {campaign : Campaign} :
    completionDue sends campaign = true ↔ (progress campaign).Due (ambiguousCount sends campaign.id) := by
  simp only [completionDue, Progress.Due, progress, Bool.and_eq_true, beq_iff_eq, Option.any_eq_true,
    decide_eq_true_eq, and_assoc]

theorem progressOf_tryComplete :
    progressOf (tryCompleteCampaign now sends campaigns id) other =
      if other = id then (progressOf campaigns other).map (·.completed (ambiguousCount sends id))
      else progressOf campaigns other := by
  refine progressOf_update (fun campaign => ?_) fun campaign => rfl
  simp only [Bool.and_eq_true, beq_iff_eq, completionDue_iff]
  constructor
  · rintro ⟨rfl, due⟩
    exact ⟨rfl, due⟩
  · rintro ⟨rfl, due⟩
    exact ⟨rfl, due⟩

theorem progressOf_finishFanOut {db : Database} {walk : Walk} :
    progressOf (finishFanOut now db id walk).campaigns other =
      if other = id then (progressOf db.campaigns other).map (·.fannedOut (ambiguousCount db.sends id) walk.sendableTotal)
      else progressOf db.campaigns other := by
  unfold finishFanOut
  by_cases nobody : walk.sendableTotal = 0
  · rw [if_pos nobody]
    have columns : progressOf (db.campaigns.update
        (fun campaign => campaign.id == id && campaign.status == .sending) (emptied now walk) (id_emptied now walk))
        other = if other = id then (progressOf db.campaigns other).map fun columns =>
          if columns.status = .sending then (columns.withTotal 0).withStatus .sent else columns
        else progressOf db.campaigns other := by
      refine progressOf_update (by simp [progress]) fun campaign => ?_
      simp [progress, emptied, withTotals, Progress.withTotal, Progress.withStatus, nobody]
    simp only [columns, Progress.fannedOut, nobody, if_true]
  · rw [if_neg nobody, progressOf_tryComplete]
    have columns : progressOf (db.campaigns.update (fun campaign => campaign.id == id) (withTotals walk)
        (id_withTotals walk)) other =
        if other = id then (progressOf db.campaigns other).map (·.withTotal walk.sendableTotal)
        else progressOf db.campaigns other := progressOf_assign (fun _ => rfl) (id_withTotals walk)
    rw [columns]
    by_cases same : other = id
    · rw [if_pos same, if_pos same, if_pos same, Option.map_map]
      congr 1
      funext columns
      simp [Progress.fannedOut, nobody]
    · rw [if_neg same, if_neg same, if_neg same]

def movedCounter : SendJob → RecordedStatus → Option (CampaignId × CountedOutcome)
  | .campaign _ campaignId _, .sent => some (campaignId, .sent)
  | .campaign _ campaignId _, .failed => some (campaignId, .failed)
  | .campaign _ _ _, .reconciling => none
  | .flow _ _ _ _, _ => none

theorem progressOf_settled {job : SendJob} {status : RecordedStatus} :
    progressOf (settledCampaigns now sends campaigns job status) other =
      match movedCounter job status with
      | some (campaignId, outcome) =>
        if other = campaignId then
          (progressOf campaigns other).map fun columns => (columns.counted outcome).completed (ambiguousCount sends campaignId)
        else progressOf campaigns other
      | none => progressOf campaigns other := by
  have completes : ∀ (campaignId : CampaignId) (outcome : CountedOutcome),
      progressOf (tryCompleteCampaign now sends (incrementCampaignSendCounter campaigns campaignId outcome)
        campaignId) other =
        if other = campaignId then
          (progressOf campaigns other).map fun columns => (columns.counted outcome).completed (ambiguousCount sends campaignId)
        else progressOf campaigns other := by
    intro campaignId outcome
    rw [progressOf_tryComplete, progressOf_increment]
    by_cases same : other = campaignId
    · rw [if_pos same, if_pos same, if_pos same, Option.map_map]
      rfl
    · rw [if_neg same, if_neg same, if_neg same]
  cases job with
  | flow => cases status <;> rfl
  | campaign workspaceId campaignId contactId =>
    cases status with
    | reconciling => rfl
    | sent => exact completes campaignId .sent
    | failed => exact completes campaignId .failed

def resolvedCampaigns (now : Timestamp) (sends : Sends) (campaigns : LocalCrm.Campaigns) (intent : SendIntent) :
    LocalCrm.Campaigns :=
  match intent.campaignId with
  | some campaignId =>
    tryCompleteCampaign now sends (backfillCampaignSendCounter campaigns campaignId .sent) campaignId
  | none => campaigns

theorem progressOf_resolved {intent : SendIntent} :
    progressOf (resolvedCampaigns now sends campaigns intent) other =
      if intent.campaignId = some other then
        (progressOf campaigns other).map fun columns => (columns.count .sent).completed (ambiguousCount sends other)
      else progressOf campaigns other := by
  unfold resolvedCampaigns
  cases owner : intent.campaignId with
  | none => simp
  | some campaignId =>
    simp only [progressOf_tryComplete, progressOf_backfill, Option.some.injEq]
    by_cases same : other = campaignId
    · subst same
      rw [if_pos rfl, if_pos rfl, if_pos rfl, Option.map_map]
      rfl
    · rw [if_neg same, if_neg same, if_neg (Ne.symm same)]

theorem progressOf_kept {db next : Database} (kept : DeliveryKept db next) (id : CampaignId) :
    progressOf next.campaigns id = progressOf db.campaigns id := by
  have columns := congrArg (Option.map progress) (kept.campaigns id)
  rw [Option.map_map, Option.map_map] at columns
  exact columns

theorem progressOf_kickoff {db next : Database} {job : KickoffJob} {matching : List ContactId} {phase : KickoffPhase}
    (writes : KickoffWrites now db job matching phase next) (idle : ∀ walk, phase ≠ .finishing walk)
    (id : CampaignId) : progressOf next.campaigns id = progressOf db.campaigns id := by
  cases writes with
  | nothing | exclusion => rfl
  | totals walk => exact absurd rfl (idle walk)
  | batch cursor =>
    simp only [materializeBatch]
    rw [progressOf_unread]
    intro campaign
    rfl

end Writes

inductive Edited (organizations : Table Organization.id) : Option Progress → Option Progress → Prop where
  | kept (columns : Option Progress) : Edited organizations columns columns
  | created (workspaceId : WorkspaceId) (owner : (organizations.find? workspaceId).isSome) :
      Edited organizations none (some (.fresh workspaceId))
  | unstarted (columns : Progress) (status : CampaignStatus) (before : ¬ columns.Started)
      (after : ¬ (columns.withStatus status).Started) :
      Edited organizations (some columns) (some (columns.withStatus status))
  | canceled (columns : Progress) (sending : columns.status = .sending) :
      Edited organizations (some columns) (some (columns.withStatus .canceled))

theorem edited_assign {organizations : Table Organization.id} {campaigns : LocalCrm.Campaigns}
    {workspaceId : WorkspaceId} {id other : CampaignId} {existing : Campaign} {set : Campaign → Campaign} {keeps : ∀ campaign, (set campaign).id = campaign.id}
    {status : CampaignStatus} (located : getCampaign campaigns workspaceId id = some existing)
    (written : ∀ campaign, progress (set campaign) = (progress campaign).withStatus status)
    (allowed : ∀ columns, columns.status = existing.status →
      Edited organizations (some columns) (some (columns.withStatus status))) :
    Edited organizations (progressOf campaigns other)
      (progressOf (campaigns.update (fun campaign => campaign.id == id) set keeps) other) := by
  have columns : progressOf (campaigns.update (fun campaign => campaign.id == id) set keeps) other =
      if other = id then (progressOf campaigns other).map (·.withStatus status) else progressOf campaigns other :=
    progressOf_assign written keeps
  rw [columns]
  by_cases same : other = id
  · subst same
    rw [if_pos rfl, progressOf, (getCampaign_some located).1]
    exact allowed (progress existing) rfl
  · rw [if_neg same]
    exact .kept _

theorem edited_of_commits {now : Timestamp} {organizations : Table Organization.id}
    {campaigns edited : LocalCrm.Campaigns} (commits : EditCommits now organizations campaigns edited) (other : CampaignId) :
    Edited organizations (progressOf campaigns other) (progressOf edited other) := by
  cases commits with
  | unchanged => exact .kept _
  | created workspaceId id input fresh owner =>
    rw [progressOf, progressOf, createCampaign, Table.find?_insert_fresh fresh]
    split
    · next same =>
      rw [same, fresh]
      exact .created workspaceId owner
    · exact .kept _
  | updated | senderSet =>
    rw [progressOf_unread]
    · exact .kept _
    · intro campaign
      rfl
  | scheduled workspaceId id scheduledAt options existing located draft =>
    refine edited_assign located (fun campaign => rfl) fun columns same => ?_
    exact .unstarted columns .scheduled (by simp [Progress.Started, same, draft])
      (by simp [Progress.Started, Progress.withStatus])
  | unscheduled workspaceId id existing located waiting =>
    refine edited_assign located (fun campaign => rfl) fun columns same => ?_
    exact .unstarted columns .draft (by simp [Progress.Started, same, waiting])
      (by simp [Progress.Started, Progress.withStatus])
  | canceled workspaceId id existing located sending =>
    refine edited_assign located (fun campaign => rfl) fun columns same => ?_
    exact .canceled columns (same.trans sending)
  | restored workspaceId =>
    rw [progressOf, progressOf, flipOverdueToDraft, Table.find?_update]
    cases found : campaigns.find? other with
    | none => exact .kept none
    | some campaign =>
      simp only [Option.map_some]
      split
      · next overdue =>
        simp only [Bool.and_eq_true, beq_iff_eq] at overdue
        exact .unstarted (progress campaign) .draft (by simp [Progress.Started, progress, overdue.1.2])
          (by simp [Progress.Started, Progress.withStatus])
      · exact .kept _

namespace Progress

def Waits (columns : Progress) : Prop := columns.status = .sending ∧ columns.fanOutComplete = false

instance (columns : Progress) : Decidable columns.Waits := inferInstanceAs (Decidable (_ ∧ _))

theorem started_of_sending {columns : Progress} (sending : columns.status = .sending) : columns.Started := by
  simp [Started, sending]

@[simp] theorem workspaceId_count (columns : Progress) (outcome : CountedOutcome) :
    (columns.count outcome).workspaceId = columns.workspaceId := by
  cases outcome <;> rfl

@[simp] theorem status_count (columns : Progress) (outcome : CountedOutcome) :
    (columns.count outcome).status = columns.status := by
  cases outcome <;> rfl

@[simp] theorem fanOutComplete_count (columns : Progress) (outcome : CountedOutcome) :
    (columns.count outcome).fanOutComplete = columns.fanOutComplete := by
  cases outcome <;> rfl

end Progress

/-- The campaign stays, in its workspace, and is not edited again once it was started. -/
structure Lasts (organizations : Table Organization.id) (before after : Option Progress) : Prop where
  origin : ∀ next, after = some next → (organizations.find? next.workspaceId).isSome ∨
    ∃ columns, before = some columns ∧ columns.workspaceId = next.workspaceId
  stays : ∀ columns, before = some columns → ∃ next, after = some next ∧
    next.workspaceId = columns.workspaceId ∧ (columns.Started → next.Started)

structure Onward (organizations : Table Organization.id) (before after : Option Progress) : Prop
    extends Lasts organizations before after where
  waits : ∀ next, after = some next → next.Waits → ∃ columns, before = some columns ∧
    columns.workspaceId = next.workspaceId ∧ columns.Waits

section Onward

variable {organizations : Table Organization.id} {before after : Option Progress}

@[refl] theorem Onward.refl (columns : Option Progress) : Onward organizations columns columns where
  origin next same := .inr ⟨next, same, rfl⟩
  stays columns same := ⟨columns, same, rfl, fun started => started⟩
  waits next same waiting := ⟨next, same, rfl, waiting⟩

theorem onward_of_edited (edited : Edited organizations before after) : Onward organizations before after := by
  cases edited with
  | kept => exact .refl _
  | created workspaceId owner =>
    refine ⟨⟨?_, ?_⟩, ?_⟩
    · rintro _ ⟨⟩
      exact .inl owner
    · intro columns absent
      cases absent
    · intro next same waiting
      cases same
      cases waiting.1
  | unstarted columns status unstarted editable =>
    refine ⟨⟨?_, ?_⟩, ?_⟩
    · rintro _ ⟨⟩
      exact .inr ⟨columns, rfl, rfl⟩
    · rintro _ ⟨⟩
      exact ⟨_, rfl, rfl, fun started => absurd started unstarted⟩
    · rintro _ ⟨⟩ waiting
      exact absurd (Progress.started_of_sending waiting.1) editable
  | canceled columns sending =>
    refine ⟨⟨?_, ?_⟩, ?_⟩
    · rintro _ ⟨⟩
      exact .inr ⟨columns, rfl, rfl⟩
    · rintro _ ⟨⟩
      exact ⟨_, rfl, rfl, fun _ => by simp [Progress.Started, Progress.withStatus]⟩
    · rintro _ ⟨⟩ waiting
      cases waiting.1

structure Advances (change : Progress → Progress) : Prop where
  workspaceId : ∀ columns, (change columns).workspaceId = columns.workspaceId
  started : ∀ columns : Progress, columns.Started → (change columns).Started
  waits : ∀ columns, (change columns).Waits → columns.Waits

theorem Advances.onward {change : Progress → Progress} (advances : Advances change) (before : Option Progress) :
    Onward organizations before (before.map change) where
  origin next same := by
    obtain ⟨columns, found, rfl⟩ := Option.map_eq_some_iff.mp same
    exact .inr ⟨columns, found, (advances.workspaceId columns).symm⟩
  stays columns same := by
    subst same
    exact ⟨change columns, rfl, advances.workspaceId columns, advances.started columns⟩
  waits next same waiting := by
    obtain ⟨columns, found, rfl⟩ := Option.map_eq_some_iff.mp same
    exact ⟨columns, found, (advances.workspaceId columns).symm, advances.waits columns waiting⟩

theorem Advances.comp {first second : Progress → Progress} (one : Advances first) (two : Advances second) :
    Advances fun columns => second (first columns) where
  workspaceId columns := (two.workspaceId _).trans (one.workspaceId columns)
  started columns started := two.started _ (one.started columns started)
  waits columns waiting := one.waits columns (two.waits _ waiting)

theorem advances_count (outcome : CountedOutcome) : Advances (·.count outcome) where
  workspaceId columns := by simp
  started columns started := by simpa [Progress.Started] using started
  waits columns waiting := by simpa [Progress.Waits] using waiting

theorem advances_counted (outcome : CountedOutcome) : Advances (·.counted outcome) where
  workspaceId columns := by
    unfold Progress.counted
    split <;> simp
  started columns started := by
    unfold Progress.counted
    split
    · exact (advances_count outcome).started columns started
    · exact started
  waits columns waiting := by
    simp only [Progress.counted] at waiting
    split at waiting
    · exact (advances_count outcome).waits columns waiting
    · exact waiting

theorem advances_completed (ambiguous : Nat) : Advances (·.completed ambiguous) where
  workspaceId columns := by
    unfold Progress.completed
    split <;> rfl
  started columns started := by
    unfold Progress.completed
    split
    · simp [Progress.Started, Progress.withStatus]
    · exact started
  waits columns waiting := by
    simp only [Progress.completed] at waiting
    split at waiting
    · cases waiting.1
    · exact waiting

theorem not_waits_fannedOut (ambiguous sendableTotal : Nat) (columns : Progress) :
    ¬ (columns.fannedOut ambiguous sendableTotal).Waits := by
  unfold Progress.fannedOut
  split
  · split
    · rintro ⟨sent, _⟩
      cases sent
    · next idle => exact fun waiting => idle waiting.1
  · intro waiting
    have totaled := (advances_completed ambiguous).waits _ waiting
    cases totaled.2

theorem advances_fannedOut (ambiguous sendableTotal : Nat) : Advances (·.fannedOut ambiguous sendableTotal) where
  workspaceId columns := by
    unfold Progress.fannedOut
    split
    · split <;> rfl
    · exact (advances_completed ambiguous).workspaceId _
  started columns started := by
    unfold Progress.fannedOut
    split
    · split
      · simp [Progress.Started, Progress.withStatus]
      · exact started
    · exact (advances_completed ambiguous).started _ started
  waits columns waiting := absurd waiting (not_waits_fannedOut ambiguous sendableTotal columns)

theorem lasts_started {campaigns started : LocalCrm.Campaigns} {id : CampaignId}
    (written : ∀ other, progressOf started other =
      if other = id then (progressOf campaigns other).map (·.withStatus .sending) else progressOf campaigns other)
    (other : CampaignId) : Lasts organizations (progressOf campaigns other) (progressOf started other) := by
  rw [written]
  split
  · constructor
    · intro next same
      obtain ⟨columns, found, rfl⟩ := Option.map_eq_some_iff.mp same
      exact .inr ⟨columns, found, rfl⟩
    · intro columns found
      refine ⟨columns.withStatus .sending, by rw [found, Option.map_some], rfl, fun _ => ?_⟩
      exact Progress.started_of_sending rfl
  · exact (Onward.refl _).toLasts

end Onward

section Steps

variable {platform : Platform} {ids : SendIdScheme} {now : Timestamp} {organizations : Table Organization.id}
  {world next : World} {label : Label}

theorem onward_kickoff {db committed : Database} {job : KickoffJob} {matching : List ContactId}
    {phase : KickoffPhase} (writes : KickoffWrites now db job matching phase committed) (id : CampaignId) :
    Onward organizations (progressOf db.campaigns id) (progressOf committed.campaigns id) := by
  by_cases ends : ∃ walk, phase = .finishing walk
  · obtain ⟨walk, rfl⟩ := ends
    cases writes with
    | nothing => exact .refl _
    | totals walk =>
      rw [progressOf_finishFanOut]
      split
      · exact (advances_fannedOut _ _).onward _
      · exact .refl _
  · rw [progressOf_kickoff writes (fun walk same => ends ⟨walk, same⟩) id]

theorem onward_settled {sends : Sends} {campaigns : LocalCrm.Campaigns} {job : SendJob} {status : RecordedStatus}
    (id : CampaignId) :
    Onward organizations (progressOf campaigns id) (progressOf (settledCampaigns now sends campaigns job status) id) := by
  rw [progressOf_settled]
  split
  · split
    · exact ((advances_counted _).comp (advances_completed _)).onward _
    · exact .refl _
  · exact .refl _

theorem onward_resolution {db committed : Database} {sendId : SendId}
    (commits : ResolutionCommits ids now db sendId committed) (id : CampaignId) :
    Onward organizations (progressOf db.campaigns id) (progressOf committed.campaigns id) := by
  cases commits with
  | held | swept | unresolved => exact .refl _
  | resolved intent derived status =>
    change Onward organizations _ (progressOf (resolvedCampaigns now _ db.campaigns intent) id)
    rw [progressOf_resolved]
    split
    · exact ((advances_count .sent).comp (advances_completed _)).onward _
    · exact .refl _

theorem onward_step (taken : step platform world label = some next)
    (unlaunched : ∀ id options, label ≠ .launch (.commit id options))
    (unscheduled : ∀ id locked, label ≠ .tick (.transition id locked)) (id : CampaignId) :
    Onward world.db.organizations (progressOf world.db.campaigns id) (progressOf next.db.campaigns id) := by
  cases label with
  | environment event => exact onward_of_edited (edited_of_commits (environmentStep_frame taken).campaigns id)
  | api request =>
    obtain ⟨campaigns, commits, rfl⟩ := apiStep_taken taken
    exact onward_of_edited (edited_of_commits commits id)
  | launch event =>
    cases launchStep_taken taken with
    | committed => exact absurd rfl (unlaunched _ _)
    | requested | refused | enqueued | crashed => exact .refl _
  | tick event =>
    cases tickStep_taken taken with
    | passed | begun | enqueued | finished | crashed => exact .refl _
    | transitioned => exact absurd rfl (unscheduled _ _)
  | kickoff event =>
    cases kickoffEventStep_taken taken with
    | started | acked | crashed => exact .refl _
    | advanced kickoff effect found stepped =>
      subst stepped
      exact onward_kickoff (kickoffStep_writes _ _ _ _ _ _) id
  | delivery event =>
    cases deliveryStep_taken taken with
    | delivered result db pending fresh uncalled claimed => cases claimSend_commits claimed <;> exact .refl _
    | settled job claim dispatchedAt duration outcome found =>
      cases recorded : recordedStatus outcome with
      | none =>
        simp only [settleOutcome_released recorded]
        exact .refl _
      | some status =>
        simp only [settleOutcome_recorded recorded]
        exact onward_settled id
    | rejected | denied | called | answered | acked | retried | givenUp | crashed => exact .refl _
  | reconcile sendId =>
    cases taken
    exact onward_resolution (resolveOneSend_commits _ _ _ _) id
  | webhookBatch | sweep =>
    obtain ⟨db, kept, rfl⟩ := quietStep_taken rfl taken
    rw [progressOf_kept kept]

theorem lasts_step (taken : step platform world label = some next) (id : CampaignId) :
    Lasts world.db.organizations (progressOf world.db.campaigns id) (progressOf next.db.campaigns id) := by
  by_cases launches : ∃ launchId options, label = .launch (.commit launchId options)
  · obtain ⟨launchId, options, rfl⟩ := launches
    have launched : LaunchTaken world (.commit launchId options) next := launchStep_taken taken
    cases launched with
    | refused => exact (Onward.refl _).toLasts
    | committed launch campaigns found uncommitted launched =>
      obtain ⟨existing, located, draft, _, _, rfl⟩ := launchCampaign_ok launched
      exact lasts_started (fun other => progressOf_assign fun _ => rfl) id
  · by_cases transitions : ∃ tickId locked, label = .tick (.transition tickId locked)
    · obtain ⟨tickId, locked, rfl⟩ := transitions
      have ticked : TickTaken world (.transition tickId locked) next := tickStep_taken taken
      cases ticked with
      | passed => exact (Onward.refl _).toLasts
      | transitioned row rest campaign found stored owned due =>
        exact lasts_started (fun other => progressOf_assign fun _ => rfl) id
    · have onward := onward_step taken (fun launchId options same => launches ⟨launchId, options, same⟩)
        (fun tickId locked same => transitions ⟨tickId, locked, same⟩) id
      exact onward.toLasts

end Steps

end LocalCrm.System
