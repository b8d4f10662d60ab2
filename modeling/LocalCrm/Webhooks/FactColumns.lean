import LocalCrm.Analytics.DailyRollup

/-! The first-write delivery facts of a send and the counters beside them. -/

set_option autoImplicit false

namespace LocalCrm.Webhooks

open Library Analytics

inductive FactColumn where
  | deliveredAt
  | firstOpenedAt
  | firstClickedAt
  | bouncedAt
  | droppedAt
  | unsubscribedAt
  | spamReportedAt
  deriving DecidableEq, Repr

def FactColumn.read : FactColumn → SendFacts → Option Timestamp
  | deliveredAt, facts => facts.deliveredAt
  | firstOpenedAt, facts => facts.firstOpenedAt
  | firstClickedAt, facts => facts.firstClickedAt
  | bouncedAt, facts => facts.bouncedAt
  | droppedAt, facts => facts.droppedAt
  | unsubscribedAt, facts => facts.unsubscribedAt
  | spamReportedAt, facts => facts.spamReportedAt

def FactColumn.write (occurredAt : Timestamp) : FactColumn → SendFacts → SendFacts
  | deliveredAt, facts => { facts with deliveredAt := some occurredAt }
  | firstOpenedAt, facts => { facts with firstOpenedAt := some occurredAt }
  | firstClickedAt, facts => { facts with firstClickedAt := some occurredAt }
  | bouncedAt, facts => { facts with bouncedAt := some occurredAt }
  | droppedAt, facts => { facts with droppedAt := some occurredAt }
  | unsubscribedAt, facts => { facts with unsubscribedAt := some occurredAt }
  | spamReportedAt, facts => { facts with spamReportedAt := some occurredAt }

@[simp] theorem FactColumn.read_write (column other : FactColumn) (occurredAt : Timestamp) (facts : SendFacts) :
    other.read (column.write occurredAt facts) = if other = column then some occurredAt else other.read facts := by
  cases column <;> cases other <;> rfl

/-- The reason columns a first write of a terminal sets along with its time. -/
inductive ReasonWrite where
  | bounceReason (reason : Option String)
  | dropReason (reason : Option String)
  deriving DecidableEq, Repr

def ReasonWrite.write : ReasonWrite → SendFacts → SendFacts
  | bounceReason reason, facts => { facts with bounceReason := reason }
  | dropReason reason, facts => { facts with dropReason := reason }

@[simp] theorem FactColumn.read_reasonWrite (column : FactColumn) (reasonWrite : ReasonWrite)
    (facts : SendFacts) : column.read (reasonWrite.write facts) = column.read facts := by
  cases reasonWrite <;> cases column <;> rfl

def firstWrite (column : FactColumn) (occurredAt : Timestamp) (reasonWrite : Option ReasonWrite)
    (facts : SendFacts) : SendFacts :=
  (reasonWrite.elim id ReasonWrite.write) (column.write occurredAt facts)

@[simp] theorem read_firstWrite (column other : FactColumn) (occurredAt : Timestamp)
    (reasonWrite : Option ReasonWrite) (facts : SendFacts) :
    other.read (firstWrite column occurredAt reasonWrite facts) =
      if other = column then some occurredAt else other.read facts := by
  cases reasonWrite <;> simp [firstWrite]

def updateFacts (ids : SendIdScheme) (sends : Sends) (sendId : SendId) (guard : SendFacts → Bool)
    (set : SendFacts → SendFacts) : Sends :=
  sends.update (fun row => ids.derive row.intent == sendId && guard row.facts)
    fun row => { row with facts := set row.facts }

def factsMatch (ids : SendIdScheme) (sends : Sends) (sendId : SendId) (guard : SendFacts → Bool) : Bool :=
  sends.rows.any fun row => ids.derive row.intent == sendId && guard row.facts

def setFactColumnOnce (ids : SendIdScheme) (sends : Sends) (sendId : SendId) (column : FactColumn)
    (occurredAt : Timestamp) (reasonWrite : Option ReasonWrite) : Bool × Sends :=
  let unset := fun facts => (column.read facts).isNone
  (factsMatch ids sends sendId unset, updateFacts ids sends sendId unset (firstWrite column occurredAt reasonWrite))

def incrementCampaignCounter (campaigns : Campaigns) (campaignId : CampaignId) (metric : EngagementMetric) :
    Campaigns :=
  campaigns.update (fun campaign => campaign.id == campaignId)
    fun campaign => { campaign with engagement := metric.bump campaign.engagement }

end LocalCrm.Webhooks
