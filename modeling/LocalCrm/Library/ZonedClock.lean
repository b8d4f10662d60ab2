import Mathlib.Data.Int.Basic

/-! Clocks of a time zone, and the instant at which they show a given time.

Instants and clock readings are counted in milliseconds.
-/

set_option autoImplicit false

namespace LocalCrm.Library

/-- By how many seconds the clocks of the zone are ahead of UTC, at each instant. -/
structure Zone where
  offset : Int → Int

namespace Zone

variable (zone : Zone)

def offsetMs (instant : Int) : Int := zone.offset instant * 1000

/-- What the clocks show at the instant, as if they showed UTC. -/
def clock (instant : Int) : Int := instant + zone.offsetMs instant

def secondGuess (reading : Int) : Int := zone.offsetMs (reading - zone.offsetMs reading)

def instantOf (reading : Int) : Int := reading - zone.secondGuess reading

variable {zone : Zone} {reading now : Int}

theorem clock_instantOf : zone.clock (zone.instantOf reading) =
    reading + (zone.offsetMs (zone.instantOf reading) - zone.secondGuess reading) := by
  unfold clock instantOf
  omega

theorem clock_instantOf_iff : zone.clock (zone.instantOf reading) = reading ↔
    zone.offsetMs (zone.instantOf reading) = zone.secondGuess reading := by
  rw [clock_instantOf]
  omega

theorem lt_instantOf_iff : now < zone.instantOf reading ↔
    zone.secondGuess reading - zone.offsetMs now < reading - zone.clock now := by
  unfold clock instantOf
  omega

end Zone

/-- One change of the clocks, and the offsets in milliseconds on its two sides. -/
structure ClockChange where
  instant : Int
  before : Int
  after : Int

namespace ClockChange

variable (change : ClockChange)

def offsetMs (instant : Int) : Int := if instant < change.instant then change.before else change.after

/-- The reading lies in the gap of clocks that are put forward. -/
def Skips (reading : Int) : Prop :=
  change.instant + change.before ≤ reading ∧ reading < change.instant + change.after

/-- The reading lies in the overlap of clocks that are put back. -/
def Repeats (reading : Int) : Prop :=
  change.instant + change.after ≤ reading ∧ reading < change.instant + change.before

theorem Skips.not_repeats {change : ClockChange} {reading : Int} (skips : change.Skips reading) :
    ¬ change.Repeats reading := by
  simp only [Skips, Repeats] at skips ⊢
  omega

end ClockChange

/-- The change accounts for the zone's offsets now, where the reading is read as UTC or
with an offset of either side, and wherever the clocks show it. -/
def Zone.ChangesOnce (zone : Zone) (now reading : Int) (change : ClockChange) : Prop :=
  ∀ instant, instant ∈ [now, reading, reading - change.before, reading - change.after] ∨
    zone.clock instant = reading → zone.offsetMs instant = change.offsetMs instant

namespace Zone.ChangesOnce

variable {zone : Zone} {reading now : Int} {change : ClockChange}

theorem at_guess (once : zone.ChangesOnce now reading change) (instant : Int) :
    zone.offsetMs (reading - change.offsetMs instant) = change.offsetMs (reading - change.offsetMs instant) := by
  refine once _ (.inl ?_)
  unfold ClockChange.offsetMs
  split <;> simp

theorem secondGuess_eq (once : zone.ChangesOnce now reading change) :
    zone.secondGuess reading = change.offsetMs (reading - change.offsetMs reading) := by
  have atReading := once reading (by simp)
  rw [Zone.secondGuess, atReading, once.at_guess]

theorem offsetMs_instantOf (once : zone.ChangesOnce now reading change) :
    zone.offsetMs (zone.instantOf reading) = change.offsetMs (zone.instantOf reading) := by
  rw [Zone.instantOf, once.secondGuess_eq, once.at_guess]

/-- Between the two guesses the clocks change only in a gap. -/
theorem settles (once : zone.ChangesOnce now reading change) (shown : ¬ change.Skips reading) :
    zone.offsetMs (zone.instantOf reading) = zone.secondGuess reading := by
  rw [once.offsetMs_instantOf, Zone.instantOf, once.secondGuess_eq]
  simp only [ClockChange.offsetMs, ClockChange.Skips] at shown ⊢
  grind

theorem not_skips (once : zone.ChangesOnce now reading change) {instant : Int}
    (shows : zone.clock instant = reading) : ¬ change.Skips reading := by
  have offset := once instant (.inr shows)
  simp only [Zone.clock, ClockChange.offsetMs, ClockChange.Skips] at shows offset ⊢
  grind

/-- From a gap the guess that is made on one side lands on the other. -/
theorem skipped (once : zone.ChangesOnce now reading change) (skips : change.Skips reading) :
    if reading < change.instant then
      zone.secondGuess reading = change.after ∧ zone.offsetMs (zone.instantOf reading) = change.before
    else zone.secondGuess reading = change.before ∧ zone.offsetMs (zone.instantOf reading) = change.after := by
  rw [once.offsetMs_instantOf, Zone.instantOf, once.secondGuess_eq]
  simp only [ClockChange.offsetMs, ClockChange.Skips] at skips ⊢
  grind

/-- A reading still to come is at an instant still to come, but for two cases: a gap the clocks
reach as UTC before they change, and an overlap in its second turn. -/
theorem lt_instantOf_iff (once : zone.ChangesOnce now reading change) (ahead : zone.clock now < reading) :
    now < zone.instantOf reading ↔
      (change.Skips reading → reading < change.instant → now < reading - change.after) ∧
        (change.Repeats reading → reading < change.instant → now < change.instant) := by
  have present := once now (by simp)
  rw [Zone.instantOf, once.secondGuess_eq]
  simp only [Zone.clock, ClockChange.offsetMs, ClockChange.Skips, ClockChange.Repeats] at ahead present ⊢
  grind

end Zone.ChangesOnce

end LocalCrm.Library
