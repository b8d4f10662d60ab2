import LocalCrm.Delivery.ZonedTime

/-! The wait of a delay node until a time of day, and a weekday if one is given.

The days are tried one after the other on the calendar of the zone, from the present day on.
-/

set_option autoImplicit false

namespace LocalCrm.Flows

open Library Delivery

/-- Minutes since local midnight, and a weekday counted from Sunday. -/
structure DelayWaitUntil where
  timeOfDay : Nat
  dayOfWeek : Option Nat
  within : timeOfDay < 1440
  weekday : ∀ day ∈ dayOfWeek, day < 7

section Loop

variable (now : Timestamp) (config : DelayWaitUntil) (zone : Zone)

def chosenDayOffset : Option Nat :=
  let zoned := getZonedParts zone now
  (List.range 8).find? fun dayOffset : Nat =>
    config.dayOfWeek.all (fun day : Nat => weekdayOfCalendarDate (addCalendarDays zoned dayOffset) == (day : Int)) &&
      !(dayOffset == 0 && decide ((config.timeOfDay : Int) ≤ zoned.minutes))

/-- `none` where the source throws. -/
def computeNextWaitUntil : Option Timestamp :=
  let targetHour := config.timeOfDay / 60
  let targetMinute := config.timeOfDay % 60
  (chosenDayOffset now config zone).map fun dayOffset : Nat =>
    zonedTimeToUtc zone (addCalendarDays (getZonedParts zone now) dayOffset) targetHour targetMinute

def localDay : Int := zone.clock now / millisecondsPerDay

def DelayWaitUntil.onDay (day : Int) : Prop :=
  ∀ weekday : Nat, weekday ∈ config.dayOfWeek → (day + 4) % 7 = (weekday : Int)

def DelayWaitUntil.reading (day : Int) : Int := readingAt day config.timeOfDay

def chosenDay : Int := localDay now zone + (chosenDayOffset now config zone).getD 0

abbrev chosenReading : Int := config.reading (chosenDay now config zone)

def OccursTwice (reading : Int) : Prop :=
  ∃ first second, first ≠ second ∧ zone.clock first = reading ∧ zone.clock second = reading

/-- What a wait ends at: later, at the configured time, and no earlier day has it still to come. -/
structure EndsWait (result : Timestamp) : Prop where
  later : now < result
  onDay : config.onDay (chosenDay now config zone)
  exact : (∃ instant, zone.clock instant = config.reading (chosenDay now config zone)) →
    zone.clock result = config.reading (chosenDay now config zone)
  least : ∀ day, localDay now zone ≤ day → day < chosenDay now config zone → config.onDay day →
    ¬ OccursTwice zone (config.reading day) → ∀ instant, zone.clock instant = config.reading day → instant ≤ now

/-- The change does no harm to the time of the chosen day: read as UTC before the change it is not in
a gap that its later offset takes back to now, nor in the second turn of an overlap. -/
structure KeepsAhead (change : ClockChange) : Prop where
  gap : change.Skips (chosenReading now config zone) →
    chosenReading now config zone < change.instant →
    now < chosenReading now config zone - change.after
  overlap : change.Repeats (chosenReading now config zone) →
    chosenReading now config zone < change.instant → now < change.instant

/-- What the zone's clocks may do around now and the time of the chosen day, and what they show of the
present day after now. Where no single change accounts for it, the offsets in force at that time count,
as it is read with one after the other. -/
structure SteadyWait : Prop where
  oneChange : ∀ change, zone.ChangesOnce now (chosenReading now config zone) change →
    KeepsAhead now config zone change
  moreChanges : (∀ change, ¬ zone.ChangesOnce now (chosenReading now config zone) change) →
    ∀ first second third, zone.offsetMs (chosenReading now config zone) = first →
      zone.offsetMs (chosenReading now config zone - first) = second →
      zone.offsetMs (chosenReading now config zone - second) = third →
      second - zone.offsetMs now < chosenReading now config zone - zone.clock now ∧
        ((∃ instant, zone.clock instant = chosenReading now config zone) → third = second)
  passed : config.onDay (localDay now zone) → config.reading (localDay now zone) ≤ zone.clock now →
    ∀ instant, now < instant → zone.clock instant = config.reading (localDay now zone) →
      OccursTwice zone (config.reading (localDay now zone))

end Loop

section Choice

variable {now : Timestamp} {config : DelayWaitUntil} {zone : Zone}

theorem day_addCalendarDays {reading : Int} (days : Int) :
    weekdayOfCalendarDate (addCalendarDays (utcParts reading) days) =
      (reading / millisecondsPerDay + days + 4) % 7 := by
  rw [addCalendarDays_eq, weekday_utcParts, day_readingAt (by decide) (by decide)]

theorem minutes_iff : (config.timeOfDay : Int) ≤ (getZonedParts zone now).minutes ↔
    config.reading (localDay now zone) ≤ zone.clock now := by
  rw [getZonedParts, minutes_utcParts, DelayWaitUntil.reading, localDay]
  simp only [readingAt, millisecondsPerDay, millisecondsPerHour, msPerMinute]
  omega

theorem chosen_iff {dayOffset : Nat} :
    (config.dayOfWeek.all (fun day : Nat =>
        weekdayOfCalendarDate (addCalendarDays (getZonedParts zone now) dayOffset) == (day : Int)) &&
      !(dayOffset == 0 && decide ((config.timeOfDay : Int) ≤ (getZonedParts zone now).minutes))) = true ↔
      config.onDay (localDay now zone + dayOffset) ∧
        (dayOffset = 0 → zone.clock now < config.reading (localDay now zone)) := by
  rw [Bool.and_eq_true, Bool.not_eq_true', Bool.and_eq_false_iff, beq_eq_false_iff_ne, decide_eq_false_iff_not,
    minutes_iff, Int.not_le, imp_iff_not_or, Option.all_eq_true]
  simp only [getZonedParts, day_addCalendarDays, beq_iff_eq]
  rfl

theorem exists_chosen : ∃ dayOffset, chosenDayOffset now config zone = some dayOffset := by
  rw [← Option.isSome_iff_exists, chosenDayOffset, List.find?_isSome]
  simp only [chosen_iff, List.mem_range]
  cases weekday : config.dayOfWeek with
  | none =>
    refine ⟨1, by decide, ?_, fun zero => absurd zero (by decide)⟩
    intro day named
    rw [weekday] at named
    cases named
  | some named =>
    have inside : named < 7 := config.weekday named weekday
    refine ⟨((named - (localDay now zone + 5)) % 7).toNat + 1, ?_, ?_, by omega⟩
    · omega
    · intro day same
      rw [weekday, Option.mem_some_iff] at same
      omega

theorem find_chosen {dayOffset : Nat} (chosen : chosenDayOffset now config zone = some dayOffset) :
    chosenDay now config zone = localDay now zone + dayOffset ∧ config.onDay (chosenDay now config zone) ∧
      (dayOffset = 0 → zone.clock now < config.reading (localDay now zone)) ∧
      ∀ earlier < dayOffset, config.onDay (localDay now zone + earlier) →
        earlier = 0 ∧ config.reading (localDay now zone) ≤ zone.clock now := by
  have day : chosenDay now config zone = localDay now zone + dayOffset := by
    rw [chosenDay, chosen, Option.getD_some]
  obtain ⟨found, _, passed⟩ := List.find?_range_eq_some.mp chosen
  rw [chosen_iff] at found
  refine ⟨day, day ▸ found.1, found.2, ?_⟩
  intro earlier before onDay
  have skipped := passed earlier before
  rw [Bool.not_eq_true', ← Bool.not_eq_true, chosen_iff, not_and, Classical.not_imp, Int.not_lt] at skipped
  exact skipped onDay

theorem computeNextWaitUntil_eq {dayOffset : Nat} (chosen : chosenDayOffset now config zone = some dayOffset) :
    computeNextWaitUntil now config zone =
      some (zone.instantOf (chosenReading now config zone)) := by
  have split : ((config.timeOfDay / 60 : Nat) : Int) * 60 + ((config.timeOfDay % 60 : Nat) : Int) =
      config.timeOfDay := by omega
  rw [computeNextWaitUntil, chosen, Option.map_some, getZonedParts, addCalendarDays_eq, zonedTimeToUtc_eq, split,
    day_readingAt (by decide) (by decide), chosenReading, (find_chosen chosen).1]
  rfl

/-- The chosen time is still to come on the clocks. -/
theorem clock_lt_chosen {dayOffset : Nat} (chosen : chosenDayOffset now config zone = some dayOffset) :
    zone.clock now < chosenReading now config zone := by
  obtain ⟨day, _, ahead, _⟩ := find_chosen chosen
  cases dayOffset with
  | zero =>
    rw [chosenReading, day, Nat.cast_zero, Int.add_zero]
    exact ahead rfl
  | succ further =>
    rw [chosenReading, day, DelayWaitUntil.reading, localDay]
    simp only [readingAt, millisecondsPerDay, millisecondsPerHour, msPerMinute]
    omega

/-- The part of `EndsWait` that the conversion answers for. -/
def AtConfiguredTime (now : Timestamp) (config : DelayWaitUntil) (zone : Zone) (result : Timestamp) : Prop :=
  now < result ∧ ((∃ instant, zone.clock instant = chosenReading now config zone) →
    zone.clock result = chosenReading now config zone)

theorem keepsAhead_iff {change : ClockChange}
    (ahead : zone.clock now < chosenReading now config zone)
    (once : zone.ChangesOnce now (chosenReading now config zone) change) :
    AtConfiguredTime now config zone (zone.instantOf (chosenReading now config zone)) ↔
      KeepsAhead now config zone change := by
  rw [AtConfiguredTime, once.lt_instantOf_iff ahead, Zone.clock_instantOf_iff]
  constructor
  · rintro ⟨⟨gap, overlap⟩, _⟩
    exact ⟨gap, overlap⟩
  · intro keeps
    refine ⟨⟨keeps.gap, keeps.overlap⟩, ?_⟩
    rintro ⟨instant, shows⟩
    exact once.settles (once.not_skips shows)

/-- Every wait has an end, and it is the one that was asked for exactly where `SteadyWait` holds. -/
theorem wait_ends_iff (now : Timestamp) (config : DelayWaitUntil) (zone : Zone) :
    (∃ result, computeNextWaitUntil now config zone = some result ∧ EndsWait now config zone result) ↔
      SteadyWait now config zone := by
  obtain ⟨dayOffset, chosen⟩ := @exists_chosen now config zone
  obtain ⟨day, onDay, today, first⟩ := find_chosen chosen
  have ahead := clock_lt_chosen chosen
  rw [computeNextWaitUntil_eq chosen]
  simp only [Option.some.injEq, exists_eq_left']
  constructor
  · intro ends
    have reached : AtConfiguredTime now config zone (zone.instantOf (chosenReading now config zone)) :=
      ⟨ends.later, ends.exact⟩
    refine ⟨fun change once => (keepsAhead_iff ahead once).mp reached, ?_, ?_⟩
    · intro _ first second third atTime atFirst atSecond
      subst atTime atFirst atSecond
      exact ⟨Zone.lt_instantOf_iff.mp ends.later, fun shown => Zone.clock_instantOf_iff.mp (ends.exact shown)⟩
    · intro configured passed instant after shows
      by_contra once
      have skipped : localDay now zone < chosenDay now config zone := by
        by_contra same
        have zero : dayOffset = 0 := by omega
        exact absurd passed (Int.not_le.mpr (today zero))
      have before := ends.least (localDay now zone) (Int.le_refl _) skipped configured once instant shows
      exact absurd after (Int.not_lt.mpr before)
  · intro steady
    have reached : AtConfiguredTime now config zone (zone.instantOf (chosenReading now config zone)) := by
      by_cases once : ∃ change, zone.ChangesOnce now (chosenReading now config zone) change
      · obtain ⟨change, once⟩ := once
        exact (keepsAhead_iff ahead once).mpr (steady.oneChange change once)
      · obtain ⟨later, settled⟩ := steady.moreChanges (not_exists.mp once) _ _ _ rfl rfl rfl
        exact ⟨Zone.lt_instantOf_iff.mpr later, fun shown => Zone.clock_instantOf_iff.mpr (settled shown)⟩
    refine ⟨reached.1, onDay, reached.2, ?_⟩
    intro other fromToday before onOther once instant shows
    by_contra after
    obtain ⟨offset, rfl⟩ : ∃ offset : Nat, other = localDay now zone + offset :=
      ⟨(other - localDay now zone).toNat, by omega⟩
    obtain ⟨rfl, passed⟩ := first offset (by omega) onOther
    rw [Nat.cast_zero, Int.add_zero] at onOther once shows
    exact once (steady.passed onOther passed instant (Int.not_le.mp after) shows)

end Choice

section Overlap

def newYorkAutumn : Zone where
  offset instant := if instant < 1730613600000 then -4 * 3600 else -5 * 3600

def halfPastOne : DelayWaitUntil where
  timeOfDay := 60 + 30
  dayOfWeek := none
  within := by decide
  weekday := by simp

/-- At ten past one, shown for the second time, the wait ends forty minutes ago. -/
theorem wait_ends_before_now :
    computeNextWaitUntil 1730614200000 halfPastOne newYorkAutumn = some 1730611800000 ∧
      ¬ ∃ result, computeNextWaitUntil 1730614200000 halfPastOne newYorkAutumn = some result ∧
        EndsWait 1730614200000 halfPastOne newYorkAutumn result := by
  have ended : computeNextWaitUntil 1730614200000 halfPastOne newYorkAutumn = some 1730611800000 := by
    decide +kernel
  refine ⟨ended, ?_⟩
  rintro ⟨result, computed, ends⟩
  cases ended.symm.trans computed
  exact absurd ends.later (by decide)

end Overlap

end LocalCrm.Flows
