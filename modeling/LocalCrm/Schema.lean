import LocalCrm.Json
import LocalCrm.Library.Table
import Mathlib.Data.Nat.Pairing

/-! The tables the delivery path reads and writes. -/

set_option autoImplicit false

namespace LocalCrm

open Library

abbrev Timestamp := Int
abbrev WorkspaceId := Nat
abbrev CampaignId := Nat
abbrev ContactId := Nat
abbrev SegmentId := Nat
abbrev FlowRunId := Nat
abbrev FlowVersionId := Nat
abbrev NodeId := Nat
abbrev SendId := Nat

/-- A UTC calendar day, counted from the epoch. -/
abbrev Day := Int

def millisecondsPerHour : Int := 60 * 60 * 1000

def millisecondsPerDay : Int := 24 * millisecondsPerHour

def utcDay (time : Timestamp) : Day := time / millisecondsPerDay

/-- A text that is there and not empty, as a condition in the source reads it. -/
def truthy (text : Option String) : Bool := text.any fun value => !value.isEmpty

/-- What one mail is meant for; the two shapes a ledger row is inserted with. -/
inductive SendIntent where
  | campaign (workspaceId : WorkspaceId) (campaignId : CampaignId) (contactId : ContactId)
  | flow (workspaceId : WorkspaceId) (flowRunId : FlowRunId) (nodeId : NodeId)
  deriving DecidableEq, Repr

namespace SendIntent

def workspaceId : SendIntent → WorkspaceId
  | campaign workspaceId _ _ => workspaceId
  | flow workspaceId _ _ => workspaceId

def campaignId : SendIntent → Option CampaignId
  | campaign _ campaignId _ => some campaignId
  | flow _ _ _ => none

end SendIntent

/-- `deriveCampaignSendId` and `deriveFlowSendId`: distinct intents get distinct ids. -/
structure SendIdScheme where
  derive : SendIntent → SendId
  injective : Function.Injective derive

theorem SendIdScheme.derive_eq (ids : SendIdScheme) {left right : SendIntent} :
    ids.derive left = ids.derive right ↔ left = right := ids.injective.eq_iff

/-- One executable scheme: pairs for the components and parity for the shape. -/
def pairedSendIds : SendIdScheme where
  derive
    | .campaign workspaceId campaignId contactId => 2 * Nat.pair workspaceId (Nat.pair campaignId contactId)
    | .flow workspaceId flowRunId nodeId => 2 * Nat.pair workspaceId (Nat.pair flowRunId nodeId) + 1
  injective := by
    intro left right same
    cases left <;> cases right
    · have paired := Nat.pair_eq_pair.mp (Nat.eq_of_mul_eq_mul_left (by decide) same)
      have inner := Nat.pair_eq_pair.mp paired.2
      rw [paired.1, inner.1, inner.2]
    · have parity : 2 * _ = 2 * _ + 1 := same
      omega
    · have parity : 2 * _ + 1 = 2 * _ := same
      omega
    · have paired := Nat.pair_eq_pair.mp (Nat.eq_of_mul_eq_mul_left (by decide) (Nat.succ.inj same))
      have inner := Nat.pair_eq_pair.mp paired.2
      rw [paired.1, inner.1, inner.2]

/-- What the repository takes from its platform: the derivation, the text and the reading of ids, the
keyed hash of a suppressed address, and the double that a number of seconds times 1000 comes to. -/
structure Platform where
  sendIds : SendIdScheme
  uuidText : SendId → String
  uuidValue : String → Option SendId
  uuidValue_text : ∀ id, uuidValue (uuidText id) = some id
  hashSuppressionEmail : WorkspaceId → String → String
  milliseconds : Rat → Rat

def pairedPlatform : Platform where
  sendIds := pairedSendIds
  uuidText id := String.ofList (List.replicate id 'a')
  uuidValue text := if text.toList.all (· == 'a') then some text.toList.length else none
  uuidValue_text := by
    intro id
    simp
  hashSuppressionEmail _ email := email
  milliseconds seconds := seconds * 1000

inductive SendStatus where
  | dispatching
  | sent
  | failed
  | excluded
  | reconciling
  | unknown
  deriving DecidableEq, Repr

def SendStatus.text : SendStatus → String
  | dispatching => "dispatching"
  | sent => "sent"
  | failed => "failed"
  | excluded => "excluded"
  | reconciling => "reconciling"
  | unknown => "unknown"

inductive CampaignStatus where
  | draft
  | scheduled
  | sending
  | sent
  | canceled
  deriving DecidableEq, Repr

inductive SubscriptionStatus where
  | subscribed
  | unsubscribed
  | suppressed
  deriving DecidableEq, Repr

structure SendFacts where
  deliveredAt : Option Timestamp := none
  firstOpenedAt : Option Timestamp := none
  firstClickedAt : Option Timestamp := none
  bouncedAt : Option Timestamp := none
  droppedAt : Option Timestamp := none
  unsubscribedAt : Option Timestamp := none
  spamReportedAt : Option Timestamp := none
  bounceReason : Option String := none
  dropReason : Option String := none
  openCount : Nat := 0
  clickCount : Nat := 0
  deriving DecidableEq, Repr

structure Send where
  intent : SendIntent
  contactId : ContactId
  status : SendStatus
  exclusionReason : Option String := none
  providerMessageId : Option String := none
  queuedAt : Timestamp
  sentAt : Option Timestamp := none
  reconcilingSince : Option Timestamp := none
  dispatchedAt : Option Timestamp := none
  dispatchDurationMs : Option Int := none
  facts : SendFacts := {}
  deriving DecidableEq, Repr

/-- The send ledger. A row's id is derived from its intent, so the intent is the key. -/
abbrev Sends := Table Send.intent

structure Organization where
  id : WorkspaceId
  slug : String
  deletedAt : Option Timestamp := none
  name : String := ""
  purgedAt : Option Timestamp := none
  deriving DecidableEq, Repr

structure SendgridKey where
  workspaceId : WorkspaceId
  apiKey : String
  deriving DecidableEq, Repr

structure SendSettings where
  workspaceId : WorkspaceId
  frequencyCap : Nat
  frequencyWindowHours : Nat
  rpsLimit : Option Nat
  deriving DecidableEq, Repr

structure ContactProfile where
  firstName : Option String := none
  lastName : Option String := none
  phone : Option String := none
  city : Option String := none
  country : Option String := none
  timezone : Option String := none
  deriving DecidableEq, Repr

/-- Custom properties: the fields of one JSON object. -/
abbrev Properties := List (String × JsonValue)

structure Contact where
  id : ContactId
  workspaceId : WorkspaceId
  externalId : Option String := none
  email : Option String
  profile : ContactProfile := {}
  tags : List String := []
  properties : Properties := []
  subscriptionStatus : SubscriptionStatus := .subscribed
  consecutiveSoftBounces : Nat := 0
  anonymizedAt : Option Timestamp := none
  deriving DecidableEq, Repr

/-- Per-recipient counts kept on a campaign and on a day of a workspace. -/
structure EngagementCounts where
  delivered : Nat := 0
  opened : Nat := 0
  clicked : Nat := 0
  bounced : Nat := 0
  unsubscribed : Nat := 0
  deriving DecidableEq, Repr

structure Campaign where
  id : CampaignId
  workspaceId : WorkspaceId
  name : String
  status : CampaignStatus := .draft
  segmentId : SegmentId
  templateId : Option String := none
  fromSenderId : Option String := none
  fromEmail : Option String := none
  fromName : Option String := none
  scheduledAt : Option Timestamp := none
  sendableTotal : Option Nat := none
  sentCount : Nat := 0
  failedCount : Nat := 0
  version : Nat := 1
  excludedTotal : Option Nat := none
  snapshotCursor : Option ContactId := none
  fanOutComplete : Bool := false
  sendingStartedAt : Option Timestamp := none
  terminalAt : Option Timestamp := none
  engagement : EngagementCounts := {}
  deriving DecidableEq, Repr

abbrev Campaigns := Table Campaign.id

structure Recipient where
  campaignId : CampaignId
  workspaceId : WorkspaceId
  contactId : ContactId
  deriving DecidableEq, Repr

def Recipient.key (recipient : Recipient) : CampaignId × ContactId :=
  (recipient.campaignId, recipient.contactId)

/-- A stored provider event; `sendId` is null when no send of the workspace matched. -/
structure SendEvent where
  workspaceId : WorkspaceId
  sgEventId : String
  sendId : Option SendId
  eventType : String
  reason : Option String
  isTest : Bool
  occurredAt : Timestamp
  deriving DecidableEq, Repr

structure QuarantinedEvent where
  workspaceId : WorkspaceId
  sgEventId : String
  eventType : Option String
  reason : String
  deriving DecidableEq, Repr

structure Suppression where
  workspaceId : WorkspaceId
  emailHash : String
  reason : String
  deriving DecidableEq, Repr

def Suppression.key (suppression : Suppression) : WorkspaceId × String :=
  (suppression.workspaceId, suppression.emailHash)

structure SubscriptionStatusChange where
  workspaceId : WorkspaceId
  contactId : ContactId
  oldStatus : SubscriptionStatus
  newStatus : SubscriptionStatus
  source : String
  reason : Option String
  deriving DecidableEq, Repr

structure DailyRollup where
  workspaceId : WorkspaceId
  day : Day
  sentCount : Nat := 0
  engagement : EngagementCounts := {}
  dirtiedAt : Option Timestamp := none
  deriving DecidableEq, Repr

def DailyRollup.key (rollup : DailyRollup) : WorkspaceId × Day := (rollup.workspaceId, rollup.day)

abbrev Rollups := Table DailyRollup.key

structure FlowNode where
  id : NodeId
  isSend : Bool
  templateId : Option String
  fromEmail : Option String
  deriving DecidableEq, Repr

structure FlowVersion where
  id : FlowVersionId
  nodes : List FlowNode
  deriving DecidableEq, Repr

structure FlowRun where
  id : FlowRunId
  workspaceId : WorkspaceId
  flowVersionId : FlowVersionId
  deriving DecidableEq, Repr

structure Segment where
  id : SegmentId
  workspaceId : WorkspaceId
  deriving DecidableEq, Repr

structure Database where
  organizations : Table Organization.id := .empty
  sendgridKeys : Table SendgridKey.workspaceId := .empty
  sendSettings : Table SendSettings.workspaceId := .empty
  contacts : Table Contact.id := .empty
  segments : Table Segment.id := .empty
  campaigns : Campaigns := .empty
  campaignRecipients : Table Recipient.key := .empty
  sends : Sends := .empty
  sendEvents : List SendEvent := []
  sendEventQuarantine : List QuarantinedEvent := []
  suppressions : Table Suppression.key := .empty
  subscriptionStatusHistory : List SubscriptionStatusChange := []
  dailyRollups : Rollups := .empty
  flowVersions : Table FlowVersion.id := .empty
  flowRuns : Table FlowRun.id := .empty

end LocalCrm
