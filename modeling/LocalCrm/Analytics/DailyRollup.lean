import LocalCrm.Schema

/-! The incremental path of the daily rollup: one event, one counter, one day. -/

set_option autoImplicit false

namespace LocalCrm.Analytics

open Library

/-- The event-derived counters. `sent_count` is written by the recount alone. -/
inductive EngagementMetric where
  | delivered
  | opened
  | clicked
  | bounced
  | unsubscribed
  deriving DecidableEq, Repr

def EngagementMetric.read : EngagementMetric → EngagementCounts → Nat
  | delivered, counts => counts.delivered
  | opened, counts => counts.opened
  | clicked, counts => counts.clicked
  | bounced, counts => counts.bounced
  | unsubscribed, counts => counts.unsubscribed

def EngagementMetric.bump : EngagementMetric → EngagementCounts → EngagementCounts
  | delivered, counts => { counts with delivered := counts.delivered + 1 }
  | opened, counts => { counts with opened := counts.opened + 1 }
  | clicked, counts => { counts with clicked := counts.clicked + 1 }
  | bounced, counts => { counts with bounced := counts.bounced + 1 }
  | unsubscribed, counts => { counts with unsubscribed := counts.unsubscribed + 1 }

@[simp] theorem EngagementMetric.read_bump (metric other : EngagementMetric) (counts : EngagementCounts) :
    other.read (metric.bump counts) = other.read counts + if other = metric then 1 else 0 := by
  cases metric <;> cases other <;> rfl

def isNotToday (day : Day) (now : Timestamp) : Bool := day != utcDay now

def bumpedRollup (metric : EngagementMetric) (rollup : DailyRollup) : DailyRollup :=
  { rollup with engagement := metric.bump rollup.engagement }

def dirtiedRollup (now : Timestamp) (rollup : DailyRollup) : DailyRollup :=
  { rollup with dirtiedAt := rollup.dirtiedAt.or (some now) }

/-- An event of another day than today also marks its day for the sweep. -/
def incrementWorkspaceDailyRollup (now : Timestamp) (rollups : Rollups) (workspaceId : WorkspaceId)
    (occurredAt : Timestamp) (metric : EngagementMetric) : Rollups :=
  let day := utcDay occurredAt
  let fresh : DailyRollup := { workspaceId, day, engagement := metric.bump {} }
  if isNotToday day now then
    rollups.upsert { fresh with dirtiedAt := some now } (fun _ => true)
      fun rollup => dirtiedRollup now (bumpedRollup metric rollup)
  else rollups.upsert fresh (fun _ => true) (bumpedRollup metric)

/-- The row of the event's day afterwards, given the row before. -/
def incrementedRollup (now : Timestamp) (metric : EngagementMetric) (rollup : DailyRollup) : DailyRollup :=
  if isNotToday rollup.day now then dirtiedRollup now (bumpedRollup metric rollup) else bumpedRollup metric rollup

theorem find?_incrementWorkspaceDailyRollup (now : Timestamp) (rollups : Rollups) (workspaceId : WorkspaceId)
    (occurredAt : Timestamp) (metric : EngagementMetric) (wanted : WorkspaceId × Day) :
    (incrementWorkspaceDailyRollup now rollups workspaceId occurredAt metric).find? wanted =
      if (workspaceId, utcDay occurredAt) = wanted then
        some (incrementedRollup now metric
          ((rollups.find? wanted).getD { workspaceId, day := utcDay occurredAt }))
      else rollups.find? wanted := by
  unfold incrementWorkspaceDailyRollup
  simp only
  by_cases same : (workspaceId, utcDay occurredAt) = wanted
  · rw [if_pos same]
    cases found : rollups.find? wanted with
    | none =>
      split
      · next past =>
        refine Table.find?_upsert.trans ((if_pos same).trans ?_)
        simp [found, incrementedRollup, past, dirtiedRollup, bumpedRollup]
      · next today =>
        refine Table.find?_upsert.trans ((if_pos same).trans ?_)
        simp [found, incrementedRollup, today, bumpedRollup]
    | some rollup =>
      have keyed := Table.key_of_find? found
      have day : rollup.day = utcDay occurredAt := congrArg Prod.snd (keyed.trans same.symm)
      split
      · next past =>
        refine Table.find?_upsert.trans ((if_pos same).trans ?_)
        simp [found, incrementedRollup, day, past]
      · next today =>
        refine Table.find?_upsert.trans ((if_pos same).trans ?_)
        simp [found, incrementedRollup, day, today]
  · rw [if_neg same]
    split
    · exact Table.find?_upsert.trans (if_neg same)
    · exact Table.find?_upsert.trans (if_neg same)

end LocalCrm.Analytics
