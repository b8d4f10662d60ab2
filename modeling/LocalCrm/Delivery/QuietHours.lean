import LocalCrm.Delivery.ZonedTime

/-! Quiet hours: whether an instant lies in them, and when they end. -/

set_option autoImplicit false

namespace LocalCrm.Delivery

open Library

/-- Minutes since local midnight; the window may run over midnight. -/
structure QuietHoursWindow where
  startMinutes : Nat
  endMinutes : Nat
  timezone : Zone
  starts : startMinutes < 1440
  ends : endMinutes < 1440

namespace QuietHoursWindow

variable (window : QuietHoursWindow)

def isQuiet (minutes : Int) : Bool :=
  if window.startMinutes = window.endMinutes then false
  else if window.startMinutes < window.endMinutes then
    decide ((window.startMinutes : Int) ≤ minutes) && decide (minutes < window.endMinutes)
  else decide ((window.startMinutes : Int) ≤ minutes) || decide (minutes < window.endMinutes)

def endsDaysLater (minutes : Int) : Int :=
  if window.startMinutes > window.endMinutes ∧ (window.startMinutes : Int) ≤ minutes then 1 else 0

def endReading (reading : Int) : Int :=
  readingAt (reading / millisecondsPerDay + window.endsDaysLater (utcParts reading).minutes) window.endMinutes

def width : Int := ((window.endMinutes : Int) - window.startMinutes) % 1440 * msPerMinute

/-- What the clocks show when the window around now ends. -/
def endsAt (now : Timestamp) : Int := window.endReading (window.timezone.clock now)

theorem width_lt : window.width < millisecondsPerDay := by
  simp only [width, millisecondsPerDay, millisecondsPerHour, msPerMinute]
  omega

end QuietHoursWindow

def isInsideQuietHours (now : Timestamp) (window : QuietHoursWindow) : Bool :=
  window.isQuiet (getZonedParts window.timezone now).minutes

def nextQuietWindowEnd (now : Timestamp) (window : QuietHoursWindow) : Timestamp :=
  let zoned := getZonedParts window.timezone now
  let endHour := window.endMinutes / 60
  let endMinute := window.endMinutes % 60
  let targetDate := addCalendarDays zoned (window.endsDaysLater zoned.minutes)
  zonedTimeToUtc window.timezone targetDate endHour endMinute

section Deferral

variable {window : QuietHoursWindow} {now : Timestamp} {reading : Int}

theorem nextQuietWindowEnd_eq : nextQuietWindowEnd now window =
    window.timezone.instantOf (window.endReading (window.timezone.clock now)) := by
  have split : ((window.endMinutes / 60 : Nat) : Int) * 60 + ((window.endMinutes % 60 : Nat) : Int) =
      window.endMinutes := by omega
  have day : ∀ day : Int, readingAt day 0 / millisecondsPerDay = day := fun day =>
    day_readingAt (by decide) (by decide)
  rw [nextQuietWindowEnd, getZonedParts, addCalendarDays_eq, zonedTimeToUtc_eq, split, day,
    QuietHoursWindow.endReading]

theorem isQuiet_iff {minutes : Int} (start : 0 ≤ minutes) (inside : minutes < 1440) :
    window.isQuiet minutes = true ↔ (minutes - window.startMinutes) % 1440 <
      ((window.endMinutes : Int) - window.startMinutes) % 1440 := by
  have starts := window.starts
  have ends := window.ends
  unfold QuietHoursWindow.isQuiet
  split
  · next same => exact iff_of_false Bool.false_ne_true (by omega)
  · split
    · rw [Bool.and_eq_true, decide_eq_true_eq, decide_eq_true_eq]
      omega
    · rw [Bool.or_eq_true, decide_eq_true_eq, decide_eq_true_eq]
      omega

theorem minutes_bounds : 0 ≤ (utcParts reading).minutes ∧ (utcParts reading).minutes < 1440 := by
  rw [minutes_utcParts]
  simp only [millisecondsPerDay, millisecondsPerHour, msPerMinute]
  omega

theorem isQuiet_past_end {jump : Int} :
    window.isQuiet (utcParts (window.endReading reading + jump)).minutes = false ↔
      jump % millisecondsPerDay < millisecondsPerDay - window.width := by
  have bounds := @minutes_bounds (window.endReading reading + jump)
  rw [← Bool.not_eq_true, isQuiet_iff bounds.1 bounds.2, QuietHoursWindow.width]
  have shown : (utcParts (window.endReading reading + jump)).minutes =
      (window.endMinutes + jump % millisecondsPerDay / msPerMinute) % 1440 := by
    rw [minutes_utcParts, QuietHoursWindow.endReading]
    simp only [readingAt, millisecondsPerDay, millisecondsPerHour, msPerMinute]
    omega
  have turn : 0 ≤ jump % millisecondsPerDay ∧ jump % millisecondsPerDay < millisecondsPerDay := by
    simp only [millisecondsPerDay, millisecondsPerHour]
    omega
  rw [shown]
  simp only [millisecondsPerDay, millisecondsPerHour, msPerMinute] at turn ⊢
  omega

theorem endReading_of_isQuiet (quiet : window.isQuiet (utcParts reading).minutes = true) :
    reading < window.endReading reading ∧ window.endReading reading ≤ reading + window.width := by
  have starts := window.starts
  have ends := window.ends
  unfold QuietHoursWindow.isQuiet at quiet
  rw [QuietHoursWindow.endReading, QuietHoursWindow.endsDaysLater, QuietHoursWindow.width]
  rw [minutes_utcParts] at quiet ⊢
  simp only [readingAt, millisecondsPerDay, millisecondsPerHour, msPerMinute] at quiet ⊢
  grind

theorem isInside_nextQuietWindowEnd : isInsideQuietHours (nextQuietWindowEnd now window) window = false ↔
    (window.timezone.offsetMs (window.timezone.instantOf (window.endsAt now)) -
      window.timezone.secondGuess (window.endsAt now)) % millisecondsPerDay < millisecondsPerDay - window.width := by
  rw [isInsideQuietHours, getZonedParts, nextQuietWindowEnd_eq, Zone.clock_instantOf, QuietHoursWindow.endsAt,
    isQuiet_past_end]

/-- The change does no harm: a gap that holds the end is read as UTC after it and carries nothing round
to the window again, and an overlap that is read as UTC before its change is not in its second turn. -/
structure ClearsChange (now : Timestamp) (window : QuietHoursWindow) (change : ClockChange) : Prop where
  gap : change.Skips (window.endsAt now) → change.instant ≤ window.endsAt now ∧
    (change.after - change.before) % millisecondsPerDay < millisecondsPerDay - window.width
  overlap : change.Repeats (window.endsAt now) → window.endsAt now < change.instant → now < change.instant

/-- What the zone's clocks may do between now and the end of the window. Where no single change accounts
for it, the offsets in force at the end count, as it is read with one after the other. -/
structure LeavesWindow (now : Timestamp) (window : QuietHoursWindow) : Prop where
  oneChange : ∀ change, window.timezone.ChangesOnce now (window.endsAt now) change → ClearsChange now window change
  moreChanges : (∀ change, ¬ window.timezone.ChangesOnce now (window.endsAt now) change) →
    ∀ first second third, window.timezone.offsetMs (window.endsAt now) = first →
      window.timezone.offsetMs (window.endsAt now - first) = second →
      window.timezone.offsetMs (window.endsAt now - second) = third →
      second - window.timezone.offsetMs now < window.endsAt now - window.timezone.clock now ∧
        (third - second) % millisecondsPerDay < millisecondsPerDay - window.width

theorem clearsChange_iff {change : ClockChange} (quiet : isInsideQuietHours now window = true)
    (once : window.timezone.ChangesOnce now (window.endsAt now) change) :
    (now < nextQuietWindowEnd now window ∧ isInsideQuietHours (nextQuietWindowEnd now window) window = false) ↔
      ClearsChange now window change := by
  obtain ⟨ahead, near⟩ : window.timezone.clock now < window.endsAt now ∧
    window.endsAt now ≤ window.timezone.clock now + window.width := endReading_of_isQuiet quiet
  have room : 0 < millisecondsPerDay - window.width := Int.sub_pos.mpr window.width_lt
  rw [isInside_nextQuietWindowEnd, nextQuietWindowEnd_eq, ← QuietHoursWindow.endsAt, once.lt_instantOf_iff ahead]
  by_cases skips : change.Skips (window.endsAt now)
  · have moved := once.skipped skips
    have notTwice : ¬ change.Repeats (window.endsAt now) := skips.not_repeats
    split at moved
    · next early =>
      -- the end as read after the change is before it: not after now, or still inside the window
      rw [moved.1, moved.2]
      have present := once now (by simp)
      refine iff_of_false ?_ fun clears => absurd early (Int.not_lt.mpr (clears.gap skips).1)
      rintro ⟨⟨later, _⟩, outside⟩
      have behind := later skips early
      simp only [ClockChange.Skips] at skips
      simp only [Zone.clock, ClockChange.offsetMs] at ahead near present
      simp only [millisecondsPerDay, millisecondsPerHour] at outside
      have widthLt := window.width_lt
      simp only [millisecondsPerDay, millisecondsPerHour] at widthLt
      split at present <;> omega
    · next late =>
      rw [moved.1, moved.2]
      constructor
      · rintro ⟨_, outside⟩
        exact ⟨fun _ => ⟨Int.not_lt.mp late, outside⟩, fun twice => absurd twice notTwice⟩
      · intro clears
        exact ⟨⟨fun _ early => absurd early late, fun twice => absurd twice notTwice⟩, (clears.gap skips).2⟩
  · rw [once.settles skips, Int.sub_self, Int.zero_emod]
    constructor
    · rintro ⟨⟨_, later⟩, _⟩
      exact ⟨fun skipped => absurd skipped skips, later⟩
    · intro clears
      exact ⟨⟨fun skipped => absurd skipped skips, clears.overlap⟩, room⟩

/-- A deferred send makes progress and does not land inside the window exactly where `LeavesWindow` holds. -/
theorem quiet_deferral_leaves_iff (now : Timestamp) (window : QuietHoursWindow) :
    (isInsideQuietHours now window = true →
        now < nextQuietWindowEnd now window ∧ isInsideQuietHours (nextQuietWindowEnd now window) window = false) ↔
      (isInsideQuietHours now window = true → LeavesWindow now window) := by
  refine imp_congr_right fun quiet => ?_
  by_cases once : ∃ change, window.timezone.ChangesOnce now (window.endsAt now) change
  · obtain ⟨change, once⟩ := once
    rw [clearsChange_iff quiet once]
    constructor
    · intro clears
      refine ⟨fun other explains => ?_, fun none => absurd once (none change)⟩
      exact (clearsChange_iff quiet explains).mp ((clearsChange_iff quiet once).mpr clears)
    · intro leaves
      exact leaves.oneChange change once
  · rw [isInside_nextQuietWindowEnd, nextQuietWindowEnd_eq, Zone.lt_instantOf_iff]
    constructor
    · intro holds
      refine ⟨fun change explains => absurd ⟨change, explains⟩ once, ?_⟩
      intro _ first second third atEnd atFirst atSecond
      subst atEnd atFirst atSecond
      exact holds
    · intro leaves
      exact leaves.moreChanges (not_exists.mp once) _ _ _ rfl rfl rfl

end Deferral

section Gap

def newYork : Zone where
  offset instant := if instant < 1710054000000 then -5 * 3600 else -4 * 3600

def nightWindow : QuietHoursWindow where
  startMinutes := 21 * 60
  endMinutes := 2 * 60 + 30
  timezone := newYork
  starts := by decide
  ends := by decide

/-- At 1:45 the send is put off to 1:30. -/
theorem deferred_into_past :
    isInsideQuietHours 1710053100000 nightWindow = true ∧
      nextQuietWindowEnd 1710053100000 nightWindow = 1710052200000 ∧
      isInsideQuietHours (nextQuietWindowEnd 1710053100000 nightWindow) nightWindow = true := by
  decide +kernel

end Gap

end LocalCrm.Delivery
