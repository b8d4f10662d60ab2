import LocalCrm.Analytics.DailyRollup
import LocalCrm.Library.Table
import Mathlib.Data.List.Sort

/-! The recount path of the daily rollup: standing window, marked days, and the conditional clearing of the marks. -/

set_option autoImplicit false

namespace LocalCrm.Analytics

open Library

def reconcileWindowDays : Nat := 2

def dirtyDaySweepPageLimit : Nat := 50

def onDay (day : Day) (time : Option Timestamp) : Bool := time.any fun time => utcDay time == day

def countsOn (day : Day) : EngagementMetric → SendFacts → Bool
  | .delivered, facts => onDay day facts.deliveredAt
  | .opened, facts => onDay day facts.firstOpenedAt
  | .clicked, facts => onDay day facts.firstClickedAt
  | .bounced, facts => onDay day facts.bouncedAt || onDay day facts.droppedAt || onDay day facts.spamReportedAt
  | .unsubscribed, facts => onDay day facts.unsubscribedAt

def recountMetric (sends : Sends) (workspaceId : WorkspaceId) (day : Day) (metric : EngagementMetric) : Nat :=
  sends.count fun row => row.intent.workspaceId == workspaceId && countsOn day metric row.facts

def recountEngagement (sends : Sends) (workspaceId : WorkspaceId) (day : Day) : EngagementCounts where
  delivered := recountMetric sends workspaceId day .delivered
  opened := recountMetric sends workspaceId day .opened
  clicked := recountMetric sends workspaceId day .clicked
  bounced := recountMetric sends workspaceId day .bounced
  unsubscribed := recountMetric sends workspaceId day .unsubscribed

@[simp] theorem read_recountEngagement (sends : Sends) (workspaceId : WorkspaceId) (day : Day)
    (metric : EngagementMetric) :
    metric.read (recountEngagement sends workspaceId day) = recountMetric sends workspaceId day metric := by
  cases metric <;> rfl

def recountSent (sends : Sends) (workspaceId : WorkspaceId) (day : Day) : Nat :=
  sends.count fun row => row.intent.workspaceId == workspaceId && onDay day row.sentAt

def recountedRollup (sends : Sends) (workspaceId : WorkspaceId) (day : Day) (rollup : DailyRollup) :
    DailyRollup :=
  { rollup with
    sentCount := recountSent sends workspaceId day
    engagement := recountEngagement sends workspaceId day }

/-- An absolute overwrite; the mark of the day is left as it is. -/
def reconcileWorkspaceDay (sends : Sends) (rollups : Rollups) (workspaceId : WorkspaceId) (day : Day) : Rollups :=
  rollups.upsert (recountedRollup sends workspaceId day { workspaceId, day }) (fun _ => true)
    (recountedRollup sends workspaceId day)

def recentDays (now : Timestamp) (windowDays : Nat) : List Day :=
  (List.range windowDays).map fun back => utcDay now - back

def findDirtyRollupDays (rollups : Rollups) (workspaceId : WorkspaceId) (limit : Nat) : List Day :=
  (((rollups.rows.filter fun rollup => rollup.workspaceId == workspaceId && rollup.dirtiedAt.isSome).map
    DailyRollup.day).insertionSort (· ≤ ·)).take limit

def clearDirtyRollupDays (rollups : Rollups) (workspaceId : WorkspaceId) (sweepStartedAt : Timestamp)
    (reconciledDays : List Day) : Rollups :=
  rollups.update
    (fun rollup => rollup.workspaceId == workspaceId && rollup.dirtiedAt.any (· ≤ sweepStartedAt) &&
      rollup.day ∈ reconciledDays)
    fun rollup => { rollup with dirtiedAt := none }

def sweptDays (now : Timestamp) (rollups : Rollups) (workspaceId : WorkspaceId) (windowDays : Nat) : List Day :=
  let standingDays := recentDays now windowDays
  standingDays ++
    (findDirtyRollupDays rollups workspaceId dirtyDaySweepPageLimit).filter (· ∉ standingDays)

/-- One workspace's tick: recount the window and the marked days, then clear those marks. -/
def reconcileWorkspace (now : Timestamp) (sends : Sends) (rollups : Rollups) (workspaceId : WorkspaceId)
    (windowDays : Nat) : Rollups :=
  let days := sweptDays now rollups workspaceId windowDays
  let recounted := days.foldl
    (fun current day => reconcileWorkspaceDay sends current workspaceId day) rollups
  clearDirtyRollupDays recounted workspaceId now days

def findLiveWorkspaceIds (organizations : Table Organization.id) : List WorkspaceId :=
  (organizations.rows.filter fun organization => organization.deletedAt.isNone).map Organization.id

end LocalCrm.Analytics
