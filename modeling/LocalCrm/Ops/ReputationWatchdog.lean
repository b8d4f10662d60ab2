import LocalCrm.Library.Transition
import LocalCrm.Schema
import Mathlib.Logic.Function.Basic

/-! The reputation watchdog: replicas that claim, send and release alerts over one table.

Every statement of a check is a step of its own, so checks of any number of replicas interleave between them.
-/

set_option autoImplicit false

namespace LocalCrm.Ops

open Library

inductive ReputationMetric where
  | complaintRate
  | hardBounceRate
  deriving DecidableEq, Repr

inductive ReputationTier where
  | none
  | warn
  | critical
  deriving DecidableEq, Repr

abbrev AlertKey := WorkspaceId × ReputationMetric

section Columns

structure AlertColumns where
  alertedTier : Option ReputationTier := none
  lastAlertSentAt : Option Timestamp := none
  deriving DecidableEq, Repr

structure ReputationAlertState extends AlertColumns where
  workspaceId : WorkspaceId
  metric : ReputationMetric
  observedTier : Option ReputationTier := none
  deriving DecidableEq, Repr

abbrev ReputationAlertState.key (row : ReputationAlertState) : AlertKey := (row.workspaceId, row.metric)

abbrev AlertStates := Table ReputationAlertState.key

/-- A row that is not there counts as never alerted. -/
def alertColumnsAt (states : AlertStates) (key : AlertKey) : AlertColumns :=
  (states.find? key).elim {} (·.toAlertColumns)

end Columns

section Statements

variable (states : AlertStates) (workspaceId : WorkspaceId) (metric : ReputationMetric) (tier : ReputationTier)
  (now : Timestamp)

def recordReputationObservation : AlertStates :=
  states.upsert { workspaceId, metric, observedTier := some tier } (fun _ => true)
    fun row => { row with observedTier := some tier }

structure ReputationSnapshotRow where
  workspaceId : WorkspaceId
  metric : ReputationMetric
  observedTier : ReputationTier
  alertedTier : Option ReputationTier
  deriving DecidableEq, Repr

def ReputationSnapshotRow.key (row : ReputationSnapshotRow) : AlertKey := (row.workspaceId, row.metric)

/-- Only rows observed at `warn` or `critical`. -/
def readReputationSnapshot : List ReputationSnapshotRow :=
  states.rows.filterMap fun row =>
    (row.observedTier.filter fun tier => tier == .warn || tier == .critical).map fun tier =>
      { workspaceId := row.workspaceId, metric := row.metric, observedTier := tier, alertedTier := row.alertedTier }

def reputationAlertDedupHours : Int := 24

/-- Never alerted, or cooled down, or an escalation. -/
def claimable (tier : ReputationTier) (now : Timestamp) (dedupHours : Int) (row : AlertColumns) : Bool :=
  row.lastAlertSentAt.isNone ||
  row.lastAlertSentAt.any (fun last => decide (last < now - dedupHours * millisecondsPerHour)) ||
  (row.alertedTier == some .warn && tier == .critical)

def claimReputationAlertSlot (dedupHours : Int) : Bool × AlertStates :=
  let claimed := fun row : ReputationAlertState =>
    row.key == (workspaceId, metric) && claimable tier now dedupHours row.toAlertColumns
  (decide (0 < states.count claimed),
    states.update claimed fun row => { row with alertedTier := some tier, lastAlertSentAt := some now })

/-- The slot is given up under the time it was claimed with, to the tier of the snapshot. -/
def releaseReputationAlertSlot (alertedTier : Option ReputationTier) : AlertStates :=
  states.update (fun row => row.key == (workspaceId, metric) && row.lastAlertSentAt == some now) fun row =>
    { row with alertedTier, lastAlertSentAt := none }

end Statements

section Checks

abbrev ReplicaId := Nat

/-- An alert whose slot was claimed: by which row of a snapshot and when, and what the slot held before. -/
structure Alert where
  number : Nat
  row : ReputationSnapshotRow
  claimedAt : Timestamp
  found : AlertColumns
  deriving DecidableEq, Repr

def Alert.key (alert : Alert) : AlertKey := alert.row.key

def Alert.tier (alert : Alert) : ReputationTier := alert.row.observedTier

inductive Outcome where
  | pending
  | sent
  | failed
  deriving DecidableEq, Repr

/-- Where `checkReputationHealthAndAlert` stands. -/
inductive Check where
  | claiming (now : Timestamp) (row : ReputationSnapshotRow) (rest : List ReputationSnapshotRow)
  | sending (alert : Alert) (rest : List ReputationSnapshotRow)
  deriving DecidableEq, Repr

def Check.next (now : Timestamp) : List ReputationSnapshotRow → Option Check
  | [] => none
  | row :: rest => some (.claiming now row rest)

def Check.alert? : Check → Option Alert
  | claiming _ _ _ => none
  | sending alert _ => some alert

structure Watched where
  states : AlertStates := .empty
  checks : ReplicaId → Option Check := fun _ => none
  alerts : List Alert := []
  outcome : Nat → Outcome := fun _ => .pending

inductive WatchdogEvent where
  | observe (workspaceId : WorkspaceId) (metric : ReputationMetric) (tier : ReputationTier)
  | check (replica : ReplicaId) (now : Timestamp)
  | claim (replica : ReplicaId)
  | sent (replica : ReplicaId)
  | failed (replica : ReplicaId) (released : Bool)
  deriving DecidableEq, Repr

namespace Watched

variable (world : Watched) (replica : ReplicaId)

def withCheck (check : Option Check) : Watched :=
  { world with checks := Function.update world.checks replica check }

def claim (now : Timestamp) (row : ReputationSnapshotRow) : Bool × AlertStates :=
  claimReputationAlertSlot world.states row.workspaceId row.metric row.observedTier now reputationAlertDedupHours

def newAlert (now : Timestamp) (row : ReputationSnapshotRow) : Alert where
  number := world.alerts.length
  row := row
  claimedAt := now
  found := alertColumnsAt world.states row.key

def release (alert : Alert) : AlertStates :=
  releaseReputationAlertSlot world.states alert.row.workspaceId alert.row.metric alert.claimedAt alert.row.alertedTier

end Watched

/-- A rejected mail ends the check, and the rows after it wait for the next one. -/
def watchdogStep (world : Watched) : WatchdogEvent → Option Watched
  | .observe workspaceId metric tier =>
    some { world with states := recordReputationObservation world.states workspaceId metric tier }
  | .check replica now =>
    match world.checks replica with
    | none => some (world.withCheck replica (Check.next now (readReputationSnapshot world.states)))
    | some _ => none
  | .claim replica =>
    match world.checks replica with
    | some (.claiming now row rest) =>
      if (world.claim now row).1 then
        let alert := world.newAlert now row
        some { world.withCheck replica (some (.sending alert rest)) with
          states := (world.claim now row).2
          alerts := world.alerts ++ [alert] }
      else some { world.withCheck replica (Check.next now rest) with states := (world.claim now row).2 }
    | none | some (.sending _ _) => none
  | .sent replica =>
    match world.checks replica with
    | some (.sending alert rest) =>
      some { world.withCheck replica (Check.next alert.claimedAt rest) with
        outcome := Function.update world.outcome alert.number .sent }
    | none | some (.claiming _ _ _) => none
  | .failed replica released =>
    match world.checks replica with
    | some (.sending alert _) =>
      some { world.withCheck replica none with
        states := if released then world.release alert else world.states
        outcome := Function.update world.outcome alert.number .failed }
    | none | some (.claiming _ _ _) => none

inductive WatchdogStep (world : Watched) : WatchdogEvent → Watched → Prop where
  | observed (workspaceId : WorkspaceId) (metric : ReputationMetric) (tier : ReputationTier) :
    WatchdogStep world (.observe workspaceId metric tier)
      { world with states := recordReputationObservation world.states workspaceId metric tier }
  | checked {replica : ReplicaId} (now : Timestamp) (idle : world.checks replica = none) :
    WatchdogStep world (.check replica now)
      (world.withCheck replica (Check.next now (readReputationSnapshot world.states)))
  | claimed {replica : ReplicaId} {now : Timestamp} {row : ReputationSnapshotRow} {rest : List ReputationSnapshotRow}
    (reading : world.checks replica = some (.claiming now row rest)) (granted : (world.claim now row).1 = true) :
    WatchdogStep world (.claim replica)
      { world.withCheck replica (some (.sending (world.newAlert now row) rest)) with
        states := (world.claim now row).2
        alerts := world.alerts ++ [world.newAlert now row] }
  | refused {replica : ReplicaId} {now : Timestamp} {row : ReputationSnapshotRow} {rest : List ReputationSnapshotRow}
    (reading : world.checks replica = some (.claiming now row rest)) (refused : (world.claim now row).1 = false) :
    WatchdogStep world (.claim replica)
      { world.withCheck replica (Check.next now rest) with states := (world.claim now row).2 }
  | sent {replica : ReplicaId} {alert : Alert} {rest : List ReputationSnapshotRow}
    (mailing : world.checks replica = some (.sending alert rest)) :
    WatchdogStep world (.sent replica)
      { world.withCheck replica (Check.next alert.claimedAt rest) with
        outcome := Function.update world.outcome alert.number .sent }
  | failed {replica : ReplicaId} {alert : Alert} {rest : List ReputationSnapshotRow} (released : Bool)
    (mailing : world.checks replica = some (.sending alert rest)) :
    WatchdogStep world (.failed replica released)
      { world.withCheck replica none with
        states := if released then world.release alert else world.states
        outcome := Function.update world.outcome alert.number .failed }

theorem step_of_watchdogStep {world next : Watched} {event : WatchdogEvent}
    (taken : watchdogStep world event = some next) : WatchdogStep world event next := by
  cases event with
  | observe workspaceId metric tier =>
    obtain rfl := Option.some.inj taken
    exact .observed workspaceId metric tier
  | check replica now =>
    simp only [watchdogStep] at taken
    split at taken
    · next idle =>
      obtain rfl := Option.some.inj taken
      exact .checked now idle
    · cases taken
  | claim replica =>
    simp only [watchdogStep] at taken
    split at taken
    · next now row rest reading =>
      split at taken
      · next granted =>
        obtain rfl := Option.some.inj taken
        exact .claimed reading granted
      · next refused =>
        obtain rfl := Option.some.inj taken
        exact .refused reading (Bool.eq_false_iff.mpr refused)
    · cases taken
    · cases taken
  | sent replica =>
    simp only [watchdogStep] at taken
    split at taken
    · next alert rest mailing =>
      obtain rfl := Option.some.inj taken
      exact .sent mailing
    · cases taken
    · cases taken
  | failed replica released =>
    simp only [watchdogStep] at taken
    split at taken
    · next alert rest mailing =>
      obtain rfl := Option.some.inj taken
      exact .failed released mailing
    · cases taken
    · cases taken

end Checks

section Columns

variable {states : AlertStates} {workspaceId : WorkspaceId} {metric : ReputationMetric} {tier : ReputationTier}
  {now : Timestamp} {dedupHours : Int} {key : AlertKey} {row : ReputationAlertState}

theorem alertColumnsAt_recordReputationObservation :
    alertColumnsAt (recordReputationObservation states workspaceId metric tier) key = alertColumnsAt states key := by
  unfold alertColumnsAt recordReputationObservation
  rw [Table.find?_upsert]
  split
  · cases states.find? key with
    | none | some => rfl
  · rfl

theorem count_pos_iff {claimable : ReputationAlertState → Bool} :
    0 < states.count (fun row => row.key == key && claimable row) ↔ (states.find? key).any claimable = true := by
  rw [Table.count, List.countP_pos_iff, Option.any_eq_true]
  constructor
  · rintro ⟨row, member, holds⟩
    obtain ⟨same, held⟩ := Bool.and_eq_true_iff.mp holds
    exact ⟨row, Table.find?_iff.mpr ⟨member, beq_iff_eq.mp same⟩, held⟩
  · rintro ⟨row, found, held⟩
    obtain ⟨member, same⟩ := Table.find?_iff.mp found
    exact ⟨row, member, Bool.and_eq_true_iff.mpr ⟨beq_iff_eq.mpr same, held⟩⟩

theorem claimReputationAlertSlot_granted :
    (claimReputationAlertSlot states workspaceId metric tier now dedupHours).1 = true ↔
      (states.find? (workspaceId, metric)).isSome ∧
        claimable tier now dedupHours (alertColumnsAt states (workspaceId, metric)) = true := by
  rw [claimReputationAlertSlot, decide_eq_true_eq, count_pos_iff, alertColumnsAt]
  cases states.find? (workspaceId, metric) with
  | none | some => simp

theorem alertColumnsAt_update {guard : AlertColumns → Bool} {columns : AlertColumns} {named : AlertKey} :
    alertColumnsAt (states.update (fun row => row.key == named && guard row.toAlertColumns)
        fun row => { row with toAlertColumns := columns }) key =
      if key = named ∧ (states.find? named).isSome ∧ guard (alertColumnsAt states named) = true then columns
      else alertColumnsAt states key := by
  unfold alertColumnsAt
  rw [Table.find?_update]
  by_cases same : key = named
  · subst same
    cases found : states.find? key with
    | none => simp
    | some row =>
      by_cases holds : guard row.toAlertColumns = true
      · simp [Table.key_of_find? found, holds]
      · simp [Table.key_of_find? found, holds]
  · rw [if_neg fun both => same both.1]
    cases other : states.find? key with
    | none => rfl
    | some row =>
      have differs : row.key ≠ named := fun equal => same ((Table.key_of_find? other).symm.trans equal)
      simp [differs]

theorem alertColumnsAt_claimReputationAlertSlot :
    alertColumnsAt (claimReputationAlertSlot states workspaceId metric tier now dedupHours).2 key =
      if key = (workspaceId, metric) ∧
          (claimReputationAlertSlot states workspaceId metric tier now dedupHours).1 = true then
        { alertedTier := some tier, lastAlertSentAt := some now }
      else alertColumnsAt states key := by
  simp only [claimReputationAlertSlot_granted]
  exact alertColumnsAt_update

theorem alertColumnsAt_releaseReputationAlertSlot {alertedTier : Option ReputationTier} :
    alertColumnsAt (releaseReputationAlertSlot states workspaceId metric now alertedTier) key =
      if key = (workspaceId, metric) ∧
          (alertColumnsAt states (workspaceId, metric)).lastAlertSentAt = some now then
        { alertedTier, lastAlertSentAt := none }
      else alertColumnsAt states key := by
  have updated := @alertColumnsAt_update states key (fun columns => columns.lastAlertSentAt == some now)
    { alertedTier, lastAlertSentAt := none } (workspaceId, metric)
  refine updated.trans ?_
  congr 1
  rw [beq_iff_eq]
  apply propext
  apply and_congr_right fun _ => and_iff_right_of_imp ?_
  -- a row that is not stored was never alerted
  intro held
  unfold alertColumnsAt at held
  cases found : states.find? (workspaceId, metric) with
  | none =>
    rw [found] at held
    cases held
  | some row => rfl

end Columns

end LocalCrm.Ops
