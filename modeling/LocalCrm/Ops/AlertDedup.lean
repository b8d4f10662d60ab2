import LocalCrm.Library.Cooldown
import LocalCrm.Ops.ReputationWatchdog
import Mathlib.Data.List.Nodup
import Mathlib.Data.List.Range

/-! Reputation alerts are sent once a day, escalations at once. -/

set_option autoImplicit false

namespace LocalCrm.Ops

open Library

section Record

namespace Watched

variable (world : Watched) (key : AlertKey)

def standing : List Alert :=
  world.alerts.filter fun alert => alert.key == key && world.outcome alert.number != .failed

def successful : List Alert :=
  world.alerts.filter fun alert => alert.key == key && world.outcome alert.number == .sent

def mailing (replica : ReplicaId) : Option Alert := (world.checks replica).bind Check.alert?

end Watched

def dedupWindow : Int := reputationAlertDedupHours * millisecondsPerHour

def Escalates (first second : Alert) : Prop := first.tier = .warn ∧ second.tier = .critical

/-- Successful alerts for one key come a window apart, escalations excepted. -/
def Deduplicated (world : Watched) : Prop :=
  ∀ key, (world.successful key).Pairwise fun first second =>
    second.claimedAt < first.claimedAt + dedupWindow → Escalates first second

/-- A claim that escalates the last alert is granted; a failed send leaves what was there before its claim. -/
def Dependable (world : Watched) : WatchdogEvent → Watched → Prop
  | .claim replica, next => ∀ now row rest, world.checks replica = some (.claiming now row rest) →
      row.observedTier = .critical →
      (∃ last, (world.standing row.key).getLast? = some last ∧ last.tier = .warn) →
        ∃ alert, next.checks replica = some (.sending alert rest) ∧ alert.row = row
  | .failed replica _, next => ∀ alert rest, world.checks replica = some (.sending alert rest) →
      alertColumnsAt next.states alert.key = alert.found
  | .observe _ _ _, _ | .check _ _, _ | .sent _, _ => True

def Check.now : Check → Timestamp
  | claiming now _ _ => now
  | sending alert _ => alert.claimedAt

/-- No claim is made at a time before that of an earlier alert. -/
def inOrder (world : Watched) : WatchdogEvent → Bool
  | .claim replica => (world.checks replica).all fun check =>
      world.alerts.all fun alert => decide (alert.claimedAt ≤ check.now)
  | .observe _ _ _ | .check _ _ | .sent _ | .failed _ _ => true

/-- The release arrives while the claim is still the last one and finds the slot as the claim did. -/
def givesBack (world : Watched) : WatchdogEvent → Bool
  | .failed replica released => (world.mailing replica).all fun alert =>
      released && alert.found.lastAlertSentAt.isNone && alert.row.alertedTier == alert.found.alertedTier &&
        (world.standing alert.key).getLast? == some alert
  | .observe _ _ _ | .check _ _ | .claim _ | .sent _ => true

end Record

section Invariant

def columnsOf (last : Option Alert) : AlertColumns :=
  last.elim {} fun alert => { alertedTier := some alert.tier, lastAlertSentAt := some alert.claimedAt }

structure Sound (world : Watched) : Prop where
  numbered : world.alerts.map Alert.number = List.range world.alerts.length
  fresh : ∀ number, world.alerts.length ≤ number → world.outcome number = .pending
  recorded : ∀ key, alertColumnsAt world.states key = columnsOf (world.standing key).getLast?
  ordered : Cooldown.Ordered Alert.claimedAt world.alerts
  spaced : ∀ key, Cooldown.Spaced Alert.claimedAt Escalates dedupWindow (world.standing key)
  unused : ∀ key alert, (world.standing key).getLast? = some alert → alert.found.lastAlertSentAt = none →
    world.standing key = [alert] ∧ alert.found = {}
  pending : ∀ replica alert, world.mailing replica = some alert →
    alert ∈ world.alerts ∧ world.outcome alert.number = .pending
  apart : ∀ one other alert, world.mailing one = some alert → world.mailing other = some alert → one = other

variable {world next : Watched} {replica other : ReplicaId} {alert : Alert} {key : AlertKey} {event : WatchdogEvent}

theorem sound_empty : Sound {} where
  numbered := rfl
  fresh _ _ := rfl
  recorded _ := rfl
  ordered := List.Pairwise.nil
  spaced _ := List.Pairwise.nil
  unused key alert last := by cases last
  pending replica alert mailing := by cases mailing
  apart one other alert mailing := by cases mailing

theorem mailing_withCheck {check : Option Check} :
    (world.withCheck replica check).mailing other =
      if other = replica then check.bind Check.alert? else world.mailing other := by
  unfold Watched.mailing Watched.withCheck
  by_cases same : other = replica
  · subst same
    simp
  · simp [same]

theorem alert?_next (now : Timestamp) (rest : List ReputationSnapshotRow) :
    (Check.next now rest).bind Check.alert? = none := by
  cases rest with
  | nil | cons => rfl

theorem Sound.number_lt (sound : Sound world) (member : alert ∈ world.alerts) : alert.number < world.alerts.length := by
  apply List.mem_range.mp
  rw [← sound.numbered]
  exact List.mem_map_of_mem member

theorem Sound.eq_of_number (sound : Sound world) {one two : Alert} (first : one ∈ world.alerts)
    (second : two ∈ world.alerts) (same : one.number = two.number) : one = two := by
  have distinct : (world.alerts.map Alert.number).Nodup := by
    rw [sound.numbered]
    exact List.nodup_range
  exact List.inj_on_of_nodup_map distinct first second same

theorem mem_of_standing (member : alert ∈ world.standing key) : alert ∈ world.alerts := List.mem_of_mem_filter member

theorem Sound.of_same (sound : Sound world) (alerts : next.alerts = world.alerts)
    (outcome : next.outcome = world.outcome)
    (columns : ∀ key, alertColumnsAt next.states key = alertColumnsAt world.states key)
    (mailing : ∀ replica alert, next.mailing replica = some alert → world.mailing replica = some alert) :
    Sound next := by
  have standing : next.standing = world.standing := by
    unfold Watched.standing
    rw [alerts, outcome]
  refine ⟨?_, ?_, ?_, ?_, ?_, ?_, ?_, ?_⟩
  · rw [alerts]
    exact sound.numbered
  · rw [alerts, outcome]
    exact sound.fresh
  · intro key
    rw [columns, standing]
    exact sound.recorded key
  · rw [alerts]
    exact sound.ordered
  · rw [standing]
    exact sound.spaced
  · rw [standing]
    exact sound.unused
  · intro replica alert sending
    rw [alerts, outcome]
    exact sound.pending replica alert (mailing replica alert sending)
  · exact fun one other alert first second => sound.apart one other alert (mailing _ _ first) (mailing _ _ second)

theorem mailing_left {check : Option Check} (quiet : check.bind Check.alert? = none)
    (sending : (world.withCheck replica check).mailing other = some alert) :
    world.mailing other = some alert ∧ other ≠ replica := by
  rw [mailing_withCheck] at sending
  split at sending
  · rw [quiet] at sending
    cases sending
  · next differs => exact ⟨sending, differs⟩

end Invariant

section Steps

variable {world next : Watched} {replica : ReplicaId} {alert : Alert} {key : AlertKey} {event : WatchdogEvent}
  {now : Timestamp} {row : ReputationSnapshotRow} {rest : List ReputationSnapshotRow}

theorem claim_granted : (world.claim now row).1 = true ↔ (world.states.find? row.key).isSome ∧
    claimable row.observedTier now reputationAlertDedupHours (alertColumnsAt world.states row.key) = true :=
  claimReputationAlertSlot_granted

theorem alertColumnsAt_claim : alertColumnsAt (world.claim now row).2 key =
    if key = row.key ∧ (world.claim now row).1 = true then
      { alertedTier := some row.observedTier, lastAlertSentAt := some now }
    else alertColumnsAt world.states key :=
  alertColumnsAt_claimReputationAlertSlot

theorem Sound.claim_fits (sound : Sound world) (granted : (world.claim now row).1 = true) :
    ∀ last, (world.standing row.key).getLast? = some last →
      last.claimedAt + dedupWindow ≤ now ∨ Escalates last (world.newAlert now row) := by
  intro last final
  have able := (claim_granted.mp granted).2
  rw [sound.recorded, final] at able
  simp only [claimable, columnsOf, Option.elim_some, Option.isNone_some, Bool.false_or, Option.any_some,
    Bool.or_eq_true, Bool.and_eq_true, beq_iff_eq, decide_eq_true_eq] at able
  rcases able with cooled | ⟨warned, critical⟩
  · exact .inl (Int.add_le_of_le_sub_right cooled.le)
  · exact .inr ⟨Option.some.inj warned, critical⟩

theorem standing_newAlert (sound : Sound world) {checks : ReplicaId → Option Check} {states : AlertStates} :
    ({ world with checks, states, alerts := world.alerts ++ [world.newAlert now row] } : Watched).standing key =
      if key = row.key then world.standing key ++ [world.newAlert now row] else world.standing key := by
  have pending : world.outcome (world.newAlert now row).number = .pending := sound.fresh _ (Nat.le_refl _)
  unfold Watched.standing
  rw [List.filter_append, List.filter_singleton, pending]
  by_cases same : key = row.key
  · have kept : ((world.newAlert now row).key == key && Outcome.pending != .failed) = true := by
      rw [same]
      simp [Alert.key, Watched.newAlert]
    rw [kept, cond_true, if_pos same]
  · have dropped : ((world.newAlert now row).key == key && Outcome.pending != .failed) = false := by
      simp [Ne.symm same, Alert.key, Watched.newAlert]
    rw [dropped, cond_false, if_neg same, List.append_nil]

theorem Sound.claimed (sound : Sound world) (ordered : ∀ alert ∈ world.alerts, alert.claimedAt ≤ now)
    (granted : (world.claim now row).1 = true) :
    Sound { world.withCheck replica (some (.sending (world.newAlert now row) rest)) with
      states := (world.claim now row).2
      alerts := world.alerts ++ [world.newAlert now row] } where
  numbered := by
    rw [List.map_append, sound.numbered, List.length_append, List.length_singleton, List.range_succ]
    rfl
  fresh number above := by
    rw [List.length_append] at above
    exact sound.fresh number (Nat.le_of_add_right_le above)
  recorded key := by
    have standing := @standing_newAlert world key now row sound
    rw [Watched.withCheck, standing, alertColumnsAt_claim]
    by_cases same : key = row.key
    · rw [if_pos ⟨same, granted⟩, if_pos same, List.getLast?_concat]
      rfl
    · rw [if_neg fun both => same both.1, if_neg same]
      exact sound.recorded key
  ordered := sound.ordered.concat ordered
  spaced key := by
    rw [Watched.withCheck, standing_newAlert sound]
    split
    · next same =>
      subst same
      apply (sound.spaced row.key).concat (sound.ordered.sublist List.filter_sublist)
      · exact fun alert member => ordered alert (mem_of_standing member)
      · rintro first second ⟨_, critical⟩ ⟨warn, _⟩
        rw [critical] at warn
        cases warn
      · exact sound.claim_fits granted
    · exact sound.spaced key
  unused key alert last free := by
    rw [Watched.withCheck, standing_newAlert sound] at last ⊢
    split at last
    · next same =>
      subst same
      rw [List.getLast?_concat] at last
      obtain rfl := Option.some.inj last
      have none : (world.standing row.key).getLast? = none := by
        have found : (alertColumnsAt world.states row.key).lastAlertSentAt = none := free
        rw [sound.recorded] at found
        cases final : (world.standing row.key).getLast? with
        | none => rfl
        | some last =>
          rw [final] at found
          cases found
      have found := sound.recorded row.key
      rw [none] at found
      rw [if_pos rfl, List.getLast?_eq_none_iff.mp none]
      exact ⟨rfl, found⟩
    · next differs =>
      rw [if_neg differs]
      exact sound.unused key alert last free
  pending other alert sending := by
    have sending : (world.withCheck replica (some (.sending (world.newAlert now row) rest))).mailing other =
        some alert := sending
    rw [mailing_withCheck] at sending
    split at sending
    · obtain rfl := Option.some.inj sending
      exact ⟨List.mem_append_right _ List.mem_cons_self, sound.fresh _ (Nat.le_refl _)⟩
    · obtain ⟨member, pending⟩ := sound.pending other alert sending
      exact ⟨List.mem_append_left _ member, pending⟩
  apart one other alert first second := by
    have new : ∀ replica, world.mailing replica ≠ some (world.newAlert now row) := fun replica sending =>
      Nat.lt_irrefl _ (sound.number_lt (sound.pending _ _ sending).1)
    have first : (world.withCheck replica (some (.sending (world.newAlert now row) rest))).mailing one =
        some alert := first
    have second : (world.withCheck replica (some (.sending (world.newAlert now row) rest))).mailing other =
        some alert := second
    rw [mailing_withCheck] at first second
    split at first
    · next same =>
      obtain rfl := Option.some.inj first
      split at second
      · next also => exact same.trans also.symm
      · exact absurd second (new other)
    · split at second
      · obtain rfl := Option.some.inj second
        exact absurd first (new one)
      · exact sound.apart one other alert first second

theorem Sound.pending_settled (sound : Sound world) (mailing : world.mailing replica = some alert) {other : ReplicaId}
    {later : Alert} (sending : world.mailing other = some later) (differs : other ≠ replica) (outcome : Outcome) :
    later ∈ world.alerts ∧ Function.update world.outcome alert.number outcome later.number = .pending := by
  obtain ⟨member, pending⟩ := sound.pending other later sending
  refine ⟨member, ?_⟩
  rw [Function.update_of_ne, pending]
  intro same
  obtain rfl := sound.eq_of_number member (sound.pending replica alert mailing).1 same
  exact differs (sound.apart other replica later sending mailing)

theorem Sound.fresh_settled (sound : Sound world) (mailing : world.mailing replica = some alert) (outcome : Outcome)
    (number : Nat) (above : world.alerts.length ≤ number) :
    Function.update world.outcome alert.number outcome number = .pending := by
  have below := sound.number_lt (sound.pending replica alert mailing).1
  rw [Function.update_of_ne (Nat.ne_of_gt (below.trans_le above))]
  exact sound.fresh number above

theorem Sound.sent (sound : Sound world) (mailing : world.mailing replica = some alert) :
    Sound { world.withCheck replica (Check.next now rest) with
      outcome := Function.update world.outcome alert.number .sent } := by
  have pending := (sound.pending replica alert mailing).2
  have standing : ∀ key, ({ world.withCheck replica (Check.next now rest) with
      outcome := Function.update world.outcome alert.number .sent } : Watched).standing key = world.standing key := by
    intro key
    apply List.filter_congr
    intro other _
    show (_ && Function.update world.outcome alert.number .sent other.number != .failed) = _
    by_cases same : other.number = alert.number
    · rw [same, pending, Function.update_self]
      rfl
    · rw [Function.update_of_ne same]
  refine ⟨sound.numbered, sound.fresh_settled mailing .sent, ?_, sound.ordered, ?_, ?_, ?_, ?_⟩
  · intro key
    rw [standing]
    exact sound.recorded key
  · intro key
    rw [standing]
    exact sound.spaced key
  · intro key
    rw [standing]
    exact sound.unused key
  · intro other later sending
    obtain ⟨before, differs⟩ := mailing_left (alert?_next now rest) sending
    exact sound.pending_settled mailing before differs .sent
  · intro one other later first second
    exact sound.apart one other later (mailing_left (alert?_next now rest) first).1
      (mailing_left (alert?_next now rest) second).1

theorem Sound.alertColumnsAt_release (sound : Sound world) (last : (world.standing alert.key).getLast? = some alert)
    (tier : alert.row.alertedTier = none) :
    alertColumnsAt (world.release alert) key = if key = alert.key then {} else alertColumnsAt world.states key := by
  have held : (alertColumnsAt world.states alert.key).lastAlertSentAt = some alert.claimedAt := by
    rw [sound.recorded, last]
    rfl
  have released : alertColumnsAt (world.release alert) key = _ := alertColumnsAt_releaseReputationAlertSlot
  rw [released, tier]
  by_cases same : key = alert.key
  · rw [if_pos same, if_pos ⟨same, held⟩]
  · rw [if_neg same, if_neg fun both => same both.1]

theorem Sound.failed (sound : Sound world) (mailing : world.mailing replica = some alert)
    (last : (world.standing alert.key).getLast? = some alert) (free : alert.found.lastAlertSentAt = none)
    (tier : alert.row.alertedTier = alert.found.alertedTier) :
    Sound { world.withCheck replica none with
      states := world.release alert
      outcome := Function.update world.outcome alert.number .failed } := by
  obtain ⟨only, found⟩ := sound.unused alert.key alert last free
  have never : alert.row.alertedTier = none := by rw [tier, found]
  have own := (sound.pending replica alert mailing).1
  have standing : ∀ key, ({ world.withCheck replica none with
      states := world.release alert
      outcome := Function.update world.outcome alert.number .failed } : Watched).standing key =
        if key = alert.key then [] else world.standing key := by
    intro key
    split
    · next same =>
      subst same
      apply List.filter_eq_nil_iff.mpr
      intro other member kept
      obtain ⟨keyed, stands⟩ := Bool.and_eq_true_iff.mp kept
      have unfailed : (Function.update world.outcome alert.number .failed other.number != .failed) = true := stands
      by_cases same : other.number = alert.number
      · rw [same, Function.update_self] at unfailed
        cases unfailed
      · have listed : other ∈ world.standing alert.key := by
          rw [Function.update_of_ne same] at unfailed
          exact List.mem_filter.mpr ⟨member, Bool.and_eq_true_iff.mpr ⟨keyed, unfailed⟩⟩
        rw [only] at listed
        exact same (congrArg Alert.number (List.mem_singleton.mp listed))
    · next differs =>
      apply List.filter_congr
      intro other member
      by_cases same : other.number = alert.number
      · obtain rfl := sound.eq_of_number member own same
        simp [Ne.symm differs]
      · simp [same]
  refine ⟨sound.numbered, sound.fresh_settled mailing .failed, ?_, sound.ordered, ?_, ?_, ?_, ?_⟩
  · intro key
    rw [standing, sound.alertColumnsAt_release last never]
    split
    · rfl
    · exact sound.recorded key
  · intro key
    rw [standing]
    split
    · exact List.Pairwise.nil
    · exact sound.spaced key
  · intro key
    rw [standing]
    split
    · exact fun later final => by cases final
    · exact sound.unused key
  · intro other later sending
    obtain ⟨before, differs⟩ := mailing_left rfl sending
    exact sound.pending_settled mailing before differs .failed
  · intro one other later first second
    exact sound.apart one other later (mailing_left rfl first).1 (mailing_left rfl second).1

end Steps

section Runs

variable {world next : Watched} {replica : ReplicaId} {alert : Alert} {event : WatchdogEvent}

theorem mailing_of_check {rest : List ReputationSnapshotRow}
    (mailing : world.checks replica = some (.sending alert rest)) : world.mailing replica = some alert := by
  rw [Watched.mailing, mailing]
  rfl

structure GivenBack (world : Watched) (alert : Alert) (released : Bool) : Prop where
  arrived : released = true
  free : alert.found.lastAlertSentAt = none
  tier : alert.row.alertedTier = alert.found.alertedTier
  last : (world.standing alert.key).getLast? = some alert

theorem givenBack_of_check {released : Bool} (mailing : world.mailing replica = some alert)
    (back : givesBack world (.failed replica released) = true) : GivenBack world alert released := by
  simp only [givesBack, mailing, Option.all_some, Bool.and_eq_true, Option.isNone_iff_eq_none, beq_iff_eq] at back
  obtain ⟨⟨⟨arrived, free⟩, tier⟩, last⟩ := back
  exact ⟨arrived, free, tier, last⟩

theorem Sound.step (sound : Sound world) (ordered : inOrder world event = true) (back : givesBack world event = true)
    (taken : watchdogStep world event = some next) : Sound next := by
  cases step_of_watchdogStep taken with
  | observed workspaceId metric tier =>
    exact sound.of_same rfl rfl (fun _ => alertColumnsAt_recordReputationObservation) fun _ _ => id
  | checked now idle =>
    exact sound.of_same rfl rfl (fun _ => rfl) fun _ _ sending => (mailing_left (alert?_next _ _) sending).1
  | @claimed replica now row rest reading granted =>
    apply sound.claimed ?_ granted
    simp only [inOrder, reading, Option.all_some, List.all_eq_true, decide_eq_true_eq] at ordered
    exact ordered
  | @refused replica now row rest reading refused =>
    refine sound.of_same ?_ ?_ ?_ ?_
    · rfl
    · rfl
    · intro key
      rw [alertColumnsAt_claim, if_neg fun both => Bool.eq_false_iff.mp refused both.2]
    · intro other alert sending
      exact (mailing_left (alert?_next now rest) sending).1
  | sent mailing => exact sound.sent (mailing_of_check mailing)
  | @failed replica alert rest released mailing =>
    have given := givenBack_of_check (mailing_of_check mailing) back
    obtain rfl := given.arrived
    exact sound.failed (mailing_of_check mailing) given.last given.free given.tier

theorem Sound.deduplicated (sound : Sound world) : Deduplicated world := by
  intro key
  apply List.Pairwise.sublist ?_ (sound.spaced key)
  apply List.monotone_filter_right
  intro alert successful
  obtain ⟨keyed, sent⟩ := Bool.and_eq_true_iff.mp successful
  have outcome : world.outcome alert.number = .sent := beq_iff_eq.mp sent
  rw [keyed, outcome]
  rfl

theorem Sound.escalation_granted (sound : Sound world) {now : Timestamp} {row : ReputationSnapshotRow} {last : Alert}
    (critical : row.observedTier = .critical) (final : (world.standing row.key).getLast? = some last)
    (warned : last.tier = .warn) : (world.claim now row).1 = true := by
  have recorded := sound.recorded row.key
  rw [final] at recorded
  apply claim_granted.mpr ⟨?_, ?_⟩
  · -- a row that is not stored has no last alert
    unfold alertColumnsAt at recorded
    cases found : world.states.find? row.key with
    | some row => rfl
    | none =>
      rw [found] at recorded
      cases recorded
  · rw [recorded, critical, claimable, columnsOf, Option.elim_some, warned]
    simp

theorem Sound.dependable (sound : Sound world) (back : givesBack world event = true)
    (taken : watchdogStep world event = some next) : Dependable world event next := by
  cases step_of_watchdogStep taken with
  | observed | checked | sent => trivial
  | @claimed replica now row rest reading granted =>
    intro moment wanted others same critical escalation
    obtain ⟨rfl, rfl, rfl⟩ := Check.claiming.inj (Option.some.inj (reading.symm.trans same))
    exact ⟨_, Function.update_self .., rfl⟩
  | @refused replica now row rest reading refused =>
    rintro moment wanted others same critical ⟨last, final, warned⟩
    obtain ⟨rfl, rfl, rfl⟩ := Check.claiming.inj (Option.some.inj (reading.symm.trans same))
    rw [sound.escalation_granted critical final warned] at refused
    cases refused
  | @failed replica alert rest released mailing =>
    intro later others same
    obtain ⟨rfl, rfl⟩ := Check.sending.inj (Option.some.inj (mailing.symm.trans same))
    have given := givenBack_of_check (mailing_of_check mailing) back
    obtain ⟨_, found⟩ := sound.unused alert.key alert given.last given.free
    have never : alert.row.alertedTier = none := by rw [given.tier, found]
    have released := @Sound.alertColumnsAt_release world alert alert.key sound given.last never
    rw [if_pos rfl] at released
    rw [given.arrived, if_pos rfl, released, found]

/-- Where all failed sends give back what their claims took, alerts keep the window and leave no trace. -/
theorem alerts_deduplicated (trace : List WatchdogEvent) (final : Watched)
    (ran : run watchdogStep {} trace = some final)
    (timely : Along watchdogStep (fun world event _ => inOrder world event = true) {} trace)
    (restoring : Along watchdogStep (fun world event _ => givesBack world event = true) {} trace) :
    Deduplicated final ∧ Along watchdogStep Dependable {} trace := by
  have conforms := along_and timely restoring
  have preserved : ∀ world event next, Sound world → inOrder world event = true ∧ givesBack world event = true →
      watchdogStep world event = some next → Sound next :=
    fun world event next sound conforms taken => sound.step conforms.1 conforms.2 taken
  have meets : ∀ world event next, Sound world → inOrder world event = true ∧ givesBack world event = true →
      watchdogStep world event = some next → Dependable world event next :=
    fun world event next sound conforms taken => sound.dependable conforms.2 taken
  exact ⟨(invariant_of_run preserved sound_empty conforms ran).deduplicated,
    along_of_conforming preserved meets sound_empty conforms⟩

def warnedAgain : List WatchdogEvent :=
  [.observe 1 .complaintRate .warn, .check 0 0, .claim 0, .failed 0 true,
    .check 1 millisecondsPerHour, .claim 1, .sent 1,
    .observe 1 .complaintRate .critical, .check 0 (3 * millisecondsPerHour), .claim 0, .sent 0]

theorem warnedAgain_deduplicated :
    ∃ final, run watchdogStep {} warnedAgain = some final ∧ Deduplicated final ∧
      Along watchdogStep Dependable {} warnedAgain := by
  have ends : (run watchdogStep {} warnedAgain).isSome = true := by decide +kernel
  obtain ⟨final, ran⟩ := Option.isSome_iff_exists.mp ends
  have timely : checkAlong watchdogStep inOrder {} warnedAgain = true := by decide +kernel
  have restoring : checkAlong watchdogStep givesBack {} warnedAgain = true := by decide +kernel
  exact ⟨final, ran,
    alerts_deduplicated warnedAgain final ran (along_of_check timely) (along_of_check restoring)⟩

def failedEscalation : List WatchdogEvent :=
  [.observe 1 .complaintRate .warn, .check 0 0, .claim 0, .sent 0,
    .observe 1 .complaintRate .critical, .check 0 millisecondsPerHour, .claim 0, .failed 0 true,
    .observe 1 .complaintRate .warn, .check 0 (2 * millisecondsPerHour), .claim 0, .sent 0]

/-- The release forgets when the first warning was sent. -/
theorem release_forgets_alert :
    ¬ ∀ trace final, run watchdogStep {} trace = some final →
      Along watchdogStep (fun world event _ => inOrder world event = true) {} trace →
        Deduplicated final ∧ Along watchdogStep Dependable {} trace := by
  intro always
  have ends : (run watchdogStep {} failedEscalation).any (fun final =>
      (final.successful (1, .complaintRate)).map (fun alert => (alert.tier, alert.claimedAt)) ==
        [(.warn, 0), (.warn, 2 * millisecondsPerHour)]) = true := by
    decide +kernel
  obtain ⟨final, ran, sent⟩ := Option.any_eq_true _ _ |>.mp ends
  have timely : checkAlong watchdogStep inOrder {} failedEscalation = true := by decide +kernel
  obtain ⟨deduplicated, _⟩ := always failedEscalation final ran (along_of_check timely)
  have close := deduplicated (1, .complaintRate)
  obtain ⟨first, rest, two, opened, others⟩ := List.map_eq_cons_iff.mp (beq_iff_eq.mp sent)
  obtain ⟨second, none, more, repeated, _⟩ := List.map_eq_cons_iff.mp others
  obtain ⟨_, began⟩ := Prod.mk.inj opened
  obtain ⟨warned, again⟩ := Prod.mk.inj repeated
  rw [two, more] at close
  have near : second.claimedAt < first.claimedAt + dedupWindow := by
    rw [began, again]
    decide
  have escalated := (List.pairwise_cons.mp close).1 second List.mem_cons_self near
  rw [Escalates, warned] at escalated
  cases escalated.2

end Runs

end LocalCrm.Ops
