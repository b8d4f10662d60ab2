import LocalCrm.Webhooks.EventRules
import LocalCrm.Webhooks.FactColumns
import LocalCrm.Delivery.PreSendGate

/-! What one genuinely new event does to its send, its contact, its campaign and the day it happened on. -/

set_option autoImplicit false

namespace LocalCrm.Webhooks

open Library Analytics Delivery

structure ResolvedSend where
  id : SendId
  campaignId : Option CampaignId
  contactId : ContactId
  deriving DecidableEq, Repr

structure AppliedEvent where
  normalizedType : NormalizedEventType
  reason : Option String
  occurredAt : Timestamp
  deriving DecidableEq, Repr

def resolveSend (ids : SendIdScheme) (sends : Sends) (workspaceId : WorkspaceId) (sendId : SendId) :
    Option ResolvedSend :=
  (sends.rows.find? fun row => row.intent.workspaceId == workspaceId && ids.derive row.intent == sendId).map
    fun row => { id := sendId, campaignId := row.intent.campaignId, contactId := row.contactId }

def isFirstNonDeliveryTerminal (ids : SendIdScheme) (sends : Sends) (sendId : SendId) : Bool :=
  factsMatch ids sends sendId fun facts =>
    facts.bouncedAt.isSome.toNat + facts.droppedAt.isSome.toNat + facts.spamReportedAt.isSome.toNat == 1

def recordSubscriptionStatusChange (db : Database) (change : SubscriptionStatusChange) : Database :=
  { db with subscriptionStatusHistory := db.subscriptionStatusHistory ++ [change] }

def setSubscriptionStatus (db : Database) (contactId : ContactId) (status : SubscriptionStatus) : Database :=
  { db with
    contacts := db.contacts.update (fun contact => contact.id == contactId)
      fun contact => { contact with subscriptionStatus := status } }

def applySuppression (platform : Platform) (db : Database) (workspaceId : WorkspaceId) (contactId : ContactId)
    (reason : String) : Database :=
  match db.contacts.find? contactId with
  | none => db
  | some contact =>
    let suppressed := setSubscriptionStatus db contactId .suppressed
    let listed :=
      if truthy contact.email then
        let emailHash := platform.hashSuppressionEmail workspaceId (contact.email.getD "")
        { suppressed with suppressions := suppressed.suppressions.insert { workspaceId, emailHash, reason } }
      else suppressed
    if contact.subscriptionStatus ≠ .suppressed then
      recordSubscriptionStatusChange listed
        { workspaceId, contactId, oldStatus := contact.subscriptionStatus, newStatus := .suppressed
          source := "webhook_suppression", reason := some reason }
    else listed

def countForCampaign (db : Database) (campaignId : Option CampaignId) (metric : EngagementMetric) : Database :=
  match campaignId with
  | some campaignId => { db with campaigns := incrementCampaignCounter db.campaigns campaignId metric }
  | none => db

def countForDay (now : Timestamp) (db : Database) (workspaceId : WorkspaceId) (occurredAt : Timestamp)
    (metric : EngagementMetric) : Database :=
  { db with dailyRollups := incrementWorkspaceDailyRollup now db.dailyRollups workspaceId occurredAt metric }

/-- Returns whether the send fact was just set; the caller counts on it. -/
def applyUnsubscribeWithSendFact (ids : SendIdScheme) (db : Database) (workspaceId : WorkspaceId)
    (contactId : ContactId) (sendId : SendId) (occurredAt : Timestamp) (source : String) :
    Bool × Option CampaignId × Database :=
  let resolved := resolveSend ids db.sends workspaceId sendId
  let recorded :=
    match db.contacts.find? contactId with
    | none => db
    | some contact =>
      if contact.subscriptionStatus ≠ .unsubscribed then
        recordSubscriptionStatusChange (setSubscriptionStatus db contactId .unsubscribed)
          { workspaceId, contactId, oldStatus := contact.subscriptionStatus, newStatus := .unsubscribed
            source, reason := none }
      else db
  match resolved with
  | none => (false, none, recorded)
  | some send =>
    let (justSet, sends) := setFactColumnOnce ids recorded.sends send.id .unsubscribedAt occurredAt none
    (justSet, send.campaignId, { recorded with sends })

def recordUnsubscribe (db : Database) (workspaceId : WorkspaceId) (contactId : ContactId) (source : String) :
    Database :=
  match db.contacts.find? contactId with
  | none => db
  | some contact =>
    if contact.subscriptionStatus ≠ .unsubscribed then
      recordSubscriptionStatusChange (setSubscriptionStatus db contactId .unsubscribed)
        { workspaceId, contactId, oldStatus := contact.subscriptionStatus, newStatus := .unsubscribed
          source, reason := none }
    else db

theorem applyUnsubscribe_none {ids : SendIdScheme} {db : Database} {workspaceId : WorkspaceId} {sendId : SendId}
    (missing : resolveSend ids db.sends workspaceId sendId = none) (contactId : ContactId) (occurredAt : Timestamp)
    (source : String) :
    applyUnsubscribeWithSendFact ids db workspaceId contactId sendId occurredAt source =
      (false, none, recordUnsubscribe db workspaceId contactId source) := by
  simp only [applyUnsubscribeWithSendFact, missing]
  rfl

theorem sends_recordUnsubscribe (db : Database) (workspaceId : WorkspaceId) (contactId : ContactId)
    (source : String) : (recordUnsubscribe db workspaceId contactId source).sends = db.sends := by
  unfold recordUnsubscribe
  split
  · rfl
  · split <;> rfl

theorem applyUnsubscribe_some {ids : SendIdScheme} {db : Database} {workspaceId : WorkspaceId} {sendId : SendId}
    {send : ResolvedSend} (resolved : resolveSend ids db.sends workspaceId sendId = some send)
    (contactId : ContactId) (occurredAt : Timestamp) (source : String) :
    applyUnsubscribeWithSendFact ids db workspaceId contactId sendId occurredAt source =
      ((setFactColumnOnce ids db.sends send.id .unsubscribedAt occurredAt none).1, send.campaignId,
        { recordUnsubscribe db workspaceId contactId source with
          sends := (setFactColumnOnce ids db.sends send.id .unsubscribedAt occurredAt none).2 }) := by
  have kept := sends_recordUnsubscribe db workspaceId contactId source
  simp only [applyUnsubscribeWithSendFact, resolved]
  rw [← kept]
  rfl

/-- A non-delivery terminal: set once, counted only when it is the send's first. -/
def recordTerminal (ids : SendIdScheme) (now : Timestamp) (db : Database) (workspaceId : WorkspaceId)
    (send : ResolvedSend) (column : FactColumn) (occurredAt : Timestamp) (reasonWrite : Option ReasonWrite) :
    Bool × Database :=
  let (justSet, sends) := setFactColumnOnce ids db.sends send.id column occurredAt reasonWrite
  let written := { db with sends }
  if justSet && isFirstNonDeliveryTerminal ids sends send.id then
    (justSet, countForDay now (countForCampaign written send.campaignId .bounced) workspaceId occurredAt .bounced)
  else (justSet, written)

def recordEngagement (ids : SendIdScheme) (now : Timestamp) (db : Database) (workspaceId : WorkspaceId)
    (send : ResolvedSend) (column : FactColumn) (occurredAt : Timestamp) (metric : EngagementMetric) :
    Bool × Database :=
  let (justSet, sends) := setFactColumnOnce ids db.sends send.id column occurredAt none
  let written := { db with sends }
  if justSet then
    (justSet, countForDay now (countForCampaign written send.campaignId metric) workspaceId occurredAt metric)
  else (justSet, written)

def setSoftBounceStreak (db : Database) (contactId : ContactId) (streak : Nat → Nat) : Database :=
  { db with
    contacts := db.contacts.update (fun contact => contact.id == contactId)
      fun contact => { contact with consecutiveSoftBounces := streak contact.consecutiveSoftBounces } }

def softBounceStreak (db : Database) (contactId : ContactId) : Nat :=
  ((db.contacts.find? contactId).map Contact.consecutiveSoftBounces).getD 0

def countRepeat (ids : SendIdScheme) (db : Database) (sendId : SendId) (set : SendFacts → SendFacts) : Database :=
  { db with sends := updateFacts ids db.sends sendId (fun _ => true) set }

def applyEventSideEffects (platform : Platform) (now : Timestamp) (db : Database) (workspaceId : WorkspaceId)
    (send : ResolvedSend) (event : AppliedEvent) : Database :=
  let ids := platform.sendIds
  let at_ := event.occurredAt
  match event.normalizedType with
  | .delivered =>
    let (justSet, db) := recordEngagement ids now db workspaceId send .deliveredAt at_ .delivered
    if justSet then setSoftBounceStreak db send.contactId fun _ => 0 else db
  | .open =>
    let (_, db) := recordEngagement ids now db workspaceId send .firstOpenedAt at_ .opened
    countRepeat ids db send.id fun facts => { facts with openCount := facts.openCount + 1 }
  | .click =>
    let (_, db) := recordEngagement ids now db workspaceId send .firstClickedAt at_ .clicked
    countRepeat ids db send.id fun facts => { facts with clickCount := facts.clickCount + 1 }
  | .bounceHard =>
    let (justSet, db) :=
      recordTerminal ids now db workspaceId send .bouncedAt at_ (some (.bounceReason (some "hard_bounce")))
    if justSet then applySuppression platform db workspaceId send.contactId "hard_bounce" else db
  | .bounceSoft =>
    let db := setSoftBounceStreak db send.contactId (· + 1)
    if softBounceStreak db send.contactId ≥ softBounceSuppressThreshold then
      let (justSet, db) :=
        recordTerminal ids now db workspaceId send .bouncedAt at_ (some (.bounceReason (some "soft_bounce_streak")))
      if justSet then applySuppression platform db workspaceId send.contactId "soft_bounce_streak" else db
    else db
  | .dropped =>
    let (justSet, db) :=
      recordTerminal ids now db workspaceId send .droppedAt at_ (some (.dropReason event.reason))
    if justSet then
      match resolveSuppression .dropped event.reason with
      | some ⟨.suppressed, reason⟩ => applySuppression platform db workspaceId send.contactId reason
      | some ⟨.unsubscribed, _⟩ =>
        -- the campaign is counted here, the day is not
        let (factJustSet, campaignId, db) := applyUnsubscribeWithSendFact ids db workspaceId send.contactId
          send.id at_ "webhook_unsubscribe"
        if factJustSet then countForCampaign db campaignId .unsubscribed else db
      | some ⟨.subscribed, _⟩ | none => db
    else db
  | .spamReport =>
    let (justSet, db) := recordTerminal ids now db workspaceId send .spamReportedAt at_ none
    if justSet then applySuppression platform db workspaceId send.contactId "spam_report" else db
  | .unsubscribe | .groupUnsubscribe =>
    let (factJustSet, campaignId, db) := applyUnsubscribeWithSendFact ids db workspaceId send.contactId
      send.id at_ "webhook_unsubscribe"
    if factJustSet then
      countForDay now (countForCampaign db campaignId .unsubscribed) workspaceId at_ .unsubscribed
    else db

end LocalCrm.Webhooks
