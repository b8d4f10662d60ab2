import LocalCrm.Delivery.SendLedger
import LocalCrm.Webhooks.Batch

/-! What a webhook batch leaves alone. -/

set_option autoImplicit false

namespace LocalCrm.Webhooks

open Library Analytics Delivery

def ledgerColumns (row : Send) : Send := { row with facts := {} }

def lifecycleColumns (campaign : Campaign) : Campaign := { campaign with engagement := {} }

structure DeliveryKept (db next : Database) : Prop where
  sends : ∀ intent, (next.sends.find? intent).map ledgerColumns = (db.sends.find? intent).map ledgerColumns
  campaigns : ∀ id,
    (next.campaigns.find? id).map lifecycleColumns = (db.campaigns.find? id).map lifecycleColumns
  campaignRecipients : next.campaignRecipients = db.campaignRecipients
  organizations : next.organizations = db.organizations

namespace DeliveryKept

variable {db next last : Database}

@[simp] theorem refl (db : Database) : DeliveryKept db db :=
  ⟨fun _ => rfl, fun _ => rfl, rfl, rfl⟩

theorem trans (first : DeliveryKept db next) (second : DeliveryKept next last) : DeliveryKept db last where
  sends intent := (second.sends intent).trans (first.sends intent)
  campaigns id := (second.campaigns id).trans (first.campaigns id)
  campaignRecipients := second.campaignRecipients.trans first.campaignRecipients
  organizations := second.organizations.trans first.organizations

theorem symm (kept : DeliveryKept db next) : DeliveryKept next db where
  sends intent := (kept.sends intent).symm
  campaigns id := (kept.campaigns id).symm
  campaignRecipients := kept.campaignRecipients.symm
  organizations := kept.organizations.symm

theorem status (kept : DeliveryKept db next) (intent : SendIntent) :
    statusOf next.sends intent = statusOf db.sends intent := by
  have columns := congrArg (Option.map Send.status) (kept.sends intent)
  rw [Option.map_map, Option.map_map] at columns
  exact columns

end DeliveryKept

section Writes

variable {platform : Platform} {ids : SendIdScheme} {now : Timestamp} {db : Database} {workspaceId : WorkspaceId}
  {contactId : ContactId} {send : ResolvedSend} {sendId : SendId} {occurredAt : Timestamp}

theorem find?_updateFacts {sends : Sends} {guard : SendFacts → Bool} {set : SendFacts → SendFacts}
    (intent : SendIntent) :
    (updateFacts ids sends sendId guard set).find? intent = (sends.find? intent).map fun row =>
      if ids.derive row.intent == sendId && guard row.facts then { row with facts := set row.facts } else row :=
  Table.find?_update

theorem kept_of_updateFacts (guard : SendFacts → Bool) (set : SendFacts → SendFacts) :
    DeliveryKept db { db with sends := updateFacts ids db.sends sendId guard set } where
  sends intent := by
    rw [find?_updateFacts, Option.map_map]
    congr 1
    funext row
    by_cases chosen : (ids.derive row.intent == sendId && guard row.facts) = true
    · rw [Function.comp_apply, if_pos chosen]
      rfl
    · rw [Function.comp_apply, if_neg chosen]
  campaigns _ := rfl
  campaignRecipients := rfl
  organizations := rfl

theorem kept_of_setFactColumnOnce (column : FactColumn) (reasonWrite : Option ReasonWrite) :
    DeliveryKept db
      { db with sends := (setFactColumnOnce ids db.sends sendId column occurredAt reasonWrite).2 } := by
  exact kept_of_updateFacts (fun facts => (column.read facts).isNone) (firstWrite column occurredAt reasonWrite)

theorem kept_of_countForCampaign (campaignId : Option CampaignId) (metric : EngagementMetric) :
    DeliveryKept db (countForCampaign db campaignId metric) := by
  cases campaignId with
  | none => exact .refl db
  | some campaignId =>
    refine ⟨fun _ => rfl, ?_, rfl, rfl⟩
    intro id
    simp only [countForCampaign, incrementCampaignCounter, Table.find?_update, Option.map_map]
    congr 1
    funext campaign
    by_cases chosen : (campaign.id == campaignId) = true
    · rw [Function.comp_apply, if_pos chosen]
      rfl
    · rw [Function.comp_apply, if_neg chosen]

theorem kept_of_countForDay (metric : EngagementMetric) :
    DeliveryKept db (countForDay now db workspaceId occurredAt metric) :=
  ⟨fun _ => rfl, fun _ => rfl, rfl, rfl⟩

theorem kept_of_applySuppression (reason : String) :
    DeliveryKept db (applySuppression platform db workspaceId contactId reason) := by
  unfold applySuppression
  cases db.contacts.find? contactId with
  | none => exact .refl db
  | some contact =>
    simp only
    split <;> split <;> exact ⟨fun _ => rfl, fun _ => rfl, rfl, rfl⟩

theorem kept_of_recordTerminal (column : FactColumn) (reasonWrite : Option ReasonWrite) :
    DeliveryKept db (recordTerminal ids now db workspaceId send column occurredAt reasonWrite).2 := by
  unfold recordTerminal
  simp only
  split
  · exact (kept_of_setFactColumnOnce column reasonWrite).trans
      ((kept_of_countForCampaign _ _).trans (kept_of_countForDay _))
  · exact kept_of_setFactColumnOnce column reasonWrite

theorem kept_of_recordEngagement (column : FactColumn) (metric : EngagementMetric) :
    DeliveryKept db (recordEngagement ids now db workspaceId send column occurredAt metric).2 := by
  unfold recordEngagement
  simp only
  split
  · exact (kept_of_setFactColumnOnce column none).trans
      ((kept_of_countForCampaign _ _).trans (kept_of_countForDay _))
  · exact kept_of_setFactColumnOnce column none

theorem kept_of_applyUnsubscribe (source : String) :
    DeliveryKept db
      (applyUnsubscribeWithSendFact ids db workspaceId contactId sendId occurredAt source).2.2 := by
  unfold applyUnsubscribeWithSendFact
  have recorded : DeliveryKept db (recordUnsubscribe db workspaceId contactId source) := by
    unfold recordUnsubscribe
    split
    · exact .refl db
    · split <;> exact ⟨fun _ => rfl, fun _ => rfl, rfl, rfl⟩
  simp only
  split
  · exact recorded
  · exact recorded.trans (kept_of_setFactColumnOnce _ _)

theorem kept_of_setSoftBounceStreak (streak : Nat → Nat) :
    DeliveryKept db (setSoftBounceStreak db contactId streak) :=
  ⟨fun _ => rfl, fun _ => rfl, rfl, rfl⟩

theorem kept_of_countRepeat (set : SendFacts → SendFacts) : DeliveryKept db (countRepeat ids db sendId set) :=
  kept_of_updateFacts _ _

theorem kept_of_applyEventSideEffects (event : AppliedEvent) :
    DeliveryKept db (applyEventSideEffects platform now db workspaceId send event) := by
  unfold applyEventSideEffects
  cases event.normalizedType with
  | delivered =>
    simp only
    split
    · exact (kept_of_recordEngagement _ _).trans (kept_of_setSoftBounceStreak _)
    · exact kept_of_recordEngagement _ _
  | «open» | click => exact (kept_of_recordEngagement _ _).trans (kept_of_countRepeat _)
  | bounceHard | spamReport =>
    simp only
    split
    · exact (kept_of_recordTerminal _ _).trans (kept_of_applySuppression _)
    · exact kept_of_recordTerminal _ _
  | bounceSoft =>
    simp only
    split
    · split
      · exact (kept_of_setSoftBounceStreak _).trans
          ((kept_of_recordTerminal _ _).trans (kept_of_applySuppression _))
      · exact (kept_of_setSoftBounceStreak _).trans (kept_of_recordTerminal _ _)
    · exact kept_of_setSoftBounceStreak _
  | dropped =>
    simp only
    split
    · split
      · exact (kept_of_recordTerminal _ _).trans (kept_of_applySuppression _)
      · split
        · exact (kept_of_recordTerminal _ _).trans
            ((kept_of_applyUnsubscribe _).trans (kept_of_countForCampaign _ _))
        · exact (kept_of_recordTerminal _ _).trans (kept_of_applyUnsubscribe _)
      · exact kept_of_recordTerminal _ _
      · exact kept_of_recordTerminal _ _
    · exact kept_of_recordTerminal _ _
  | unsubscribe | groupUnsubscribe =>
    simp only
    split
    · exact (kept_of_applyUnsubscribe _).trans
        ((kept_of_countForCampaign _ _).trans (kept_of_countForDay _))
    · exact kept_of_applyUnsubscribe _

theorem kept_of_applyNewRow (row : ExtractedEvent) :
    DeliveryKept db (applyNewRow platform now workspaceId db row) := by
  unfold applyNewRow
  split
  · exact .refl db
  · split
    · split
      · exact kept_of_applyEventSideEffects _
      · exact .refl db
    · exact .refl db

theorem kept_of_applyNewRows (rows : List ExtractedEvent) (db : Database) :
    DeliveryKept db (rows.foldl (applyNewRow platform now workspaceId) db) := by
  induction rows generalizing db with
  | nil => exact .refl db
  | cons row rest ih => exact (kept_of_applyNewRow row).trans (ih _)

theorem kept_of_processWebhookEventBatch (events : List JsonValue) :
    DeliveryKept db (processWebhookEventBatch platform now db workspaceId events) := by
  unfold processWebhookEventBatch
  split
  · exact .refl db
  · have stored : ∀ candidates sendEvents,
        DeliveryKept db { writeQuarantinedEvents db workspaceId candidates with sendEvents } :=
      fun _ _ => ⟨fun _ => rfl, fun _ => rfl, rfl, rfl⟩
    exact (stored _ _).trans (kept_of_applyNewRows _ _)

end Writes

end LocalCrm.Webhooks
