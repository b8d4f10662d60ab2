import LocalCrm.Library.Calendar
import LocalCrm.Library.ZonedClock
import LocalCrm.Schema

/-! Wall clock times and calendar days of a zone.

The functions stand in two files of the source, which share no module and agree to the letter.
-/

set_option autoImplicit false

namespace LocalCrm.Delivery

open Library

def msPerMinute : Int := 60 * 1000

structure ZonedParts where
  year : Int
  month : Int
  day : Int
  hour : Int
  minute : Int
  second : Int
  deriving DecidableEq, Repr

/-- The calendar fields of a number of milliseconds; the fraction of a second has none. -/
def utcParts (reading : Int) : ZonedParts :=
  let date := reading / millisecondsPerDay
  let time := reading % millisecondsPerDay
  let month := Calendar.monthOf date
  { year := month / 12
    month := month % 12 + 1
    day := date - Calendar.monthStart month + 1
    hour := time / millisecondsPerHour
    minute := time % millisecondsPerHour / msPerMinute
    second := time % msPerMinute / 1000 }

/-- `Date.UTC`, months counted from 1. -/
def dateUtc (parts : ZonedParts) : Int :=
  (Calendar.monthStart (12 * parts.year + (parts.month - 1)) + (parts.day - 1)) * millisecondsPerDay +
    parts.hour * millisecondsPerHour + parts.minute * msPerMinute + parts.second * 1000

def getZonedParts (zone : Zone) (instant : Timestamp) : ZonedParts := utcParts (zone.clock instant)

def offsetMsAt (zone : Zone) (instant : Timestamp) : Int := dateUtc (getZonedParts zone instant) - instant

/-- The offset is guessed at the time itself and once more at what that gives. -/
def zonedTimeToUtc (zone : Zone) (date : ZonedParts) (hour minute : Int) : Timestamp :=
  let target := dateUtc { date with hour, minute, second := 0 }
  let guess := target - offsetMsAt zone target
  target - offsetMsAt zone guess

def addCalendarDays (date : ZonedParts) (days : Int) : ZonedParts :=
  utcParts (dateUtc { date with hour := 0, minute := 0, second := 0 } + days * millisecondsPerDay)

def weekdayOfCalendarDate (date : ZonedParts) : Int :=
  (dateUtc { date with hour := 0, minute := 0, second := 0 } / millisecondsPerDay + 4) % 7

def ZonedParts.minutes (parts : ZonedParts) : Int := parts.hour * 60 + parts.minute

def readingAt (day minutes : Int) : Int := day * millisecondsPerDay + minutes * msPerMinute

section Fields

variable {zone : Zone} {reading instant : Int}

theorem date_utcParts (hour minute second : Int) :
    dateUtc { utcParts reading with hour, minute, second } =
      reading / millisecondsPerDay * millisecondsPerDay + hour * millisecondsPerHour + minute * msPerMinute +
        second * 1000 := by
  simp only [dateUtc, utcParts]
  have month : 12 * (Calendar.monthOf (reading / millisecondsPerDay) / 12) +
      (Calendar.monthOf (reading / millisecondsPerDay) % 12 + 1 - 1) =
        Calendar.monthOf (reading / millisecondsPerDay) := by omega
  have day : ∀ start : Int, start + (reading / millisecondsPerDay - start + 1 - 1) =
      reading / millisecondsPerDay := by
    omega
  rw [month, day]

theorem dateUtc_utcParts : dateUtc (utcParts reading) = reading - reading % 1000 := by
  have fields := @date_utcParts reading (utcParts reading).hour (utcParts reading).minute (utcParts reading).second
  have same : dateUtc (utcParts reading) = reading / millisecondsPerDay * millisecondsPerDay +
      (utcParts reading).hour * millisecondsPerHour + (utcParts reading).minute * msPerMinute +
        (utcParts reading).second * 1000 := fields
  rw [same]
  simp only [utcParts, millisecondsPerDay, millisecondsPerHour, msPerMinute]
  omega

theorem minutes_utcParts : (utcParts reading).minutes = reading % millisecondsPerDay / msPerMinute := by
  simp only [ZonedParts.minutes, utcParts, millisecondsPerDay, millisecondsPerHour, msPerMinute]
  omega

theorem offsetMsAt_whole (whole : instant % 1000 = 0) : offsetMsAt zone instant = zone.offsetMs instant := by
  rw [offsetMsAt, getZonedParts, dateUtc_utcParts, Zone.clock, Zone.offsetMs]
  omega

theorem zonedTimeToUtc_eq (hour minute : Int) :
    zonedTimeToUtc zone (utcParts reading) hour minute =
      zone.instantOf (readingAt (reading / millisecondsPerDay) (hour * 60 + minute)) := by
  have target : dateUtc { utcParts reading with hour, minute, second := 0 } =
      readingAt (reading / millisecondsPerDay) (hour * 60 + minute) := by
    rw [date_utcParts]
    simp only [readingAt, millisecondsPerHour, msPerMinute]
    omega
  have whole : readingAt (reading / millisecondsPerDay) (hour * 60 + minute) % 1000 = 0 := by
    simp only [readingAt, millisecondsPerDay, millisecondsPerHour, msPerMinute]
    omega
  rw [zonedTimeToUtc, target, offsetMsAt_whole whole, offsetMsAt_whole, Zone.instantOf, Zone.secondGuess]
  rw [Zone.offsetMs]
  omega

theorem addCalendarDays_eq (days : Int) :
    addCalendarDays (utcParts reading) days = utcParts (readingAt (reading / millisecondsPerDay + days) 0) := by
  have shifted : reading / millisecondsPerDay * millisecondsPerDay + 0 * millisecondsPerHour + 0 * msPerMinute +
      0 * 1000 + days * millisecondsPerDay = readingAt (reading / millisecondsPerDay + days) 0 := by
    simp only [readingAt, millisecondsPerDay, millisecondsPerHour]
    omega
  rw [addCalendarDays, date_utcParts, shifted]

theorem day_readingAt {day minutes : Int} (start : 0 ≤ minutes) (inside : minutes < 1440) :
    readingAt day minutes / millisecondsPerDay = day := by
  simp only [readingAt, millisecondsPerDay, millisecondsPerHour, msPerMinute]
  omega

theorem weekday_utcParts : weekdayOfCalendarDate (utcParts reading) = (reading / millisecondsPerDay + 4) % 7 := by
  rw [weekdayOfCalendarDate, date_utcParts]
  simp only [millisecondsPerDay, millisecondsPerHour]
  omega

end Fields

end LocalCrm.Delivery
