import Mathlib.Data.Int.Basic
import Mathlib.Order.Monotone.Basic
import Mathlib.Tactic.IntervalCases

/-! Months of the proleptic Gregorian calendar as half-open ranges of days.

Months are counted from January of the year 0, days from 1970-01-01.
-/

set_option autoImplicit false

namespace LocalCrm.Library

namespace Calendar

def isLeap (year : Int) : Bool := year % 4 == 0 && (year % 100 != 0 || year % 400 == 0)

def daysBeforeYear (year : Int) : Int := 365 * year + (year + 3) / 4 - (year + 99) / 100 + (year + 399) / 400

def daysBeforeMonthInYear : Nat → Int
  | 0 => 0
  | 1 => 31
  | 2 => 59
  | 3 => 90
  | 4 => 120
  | 5 => 151
  | 6 => 181
  | 7 => 212
  | 8 => 243
  | 9 => 273
  | 10 => 304
  | _ => 334

def leapDay (year : Int) (index : Int) : Int := if isLeap year && 2 ≤ index then 1 else 0

def monthStart (month : Int) : Int :=
  daysBeforeYear (month / 12) + daysBeforeMonthInYear (month % 12).toNat + leapDay (month / 12) (month % 12) - 719528

theorem daysBeforeYear_succ (year : Int) :
    daysBeforeYear (year + 1) = daysBeforeYear year + 365 + leapDay year 2 := by
  unfold daysBeforeYear leapDay isLeap
  by_cases leap : year % 4 = 0 ∧ (year % 100 ≠ 0 ∨ year % 400 = 0)
  · have chosen : (year % 4 == 0 && (year % 100 != 0 || year % 400 == 0)) = true := by simpa using leap
    simp
    omega
  · have chosen : (year % 4 == 0 && (year % 100 != 0 || year % 400 == 0)) = false := by simpa using leap
    simp
    omega

theorem leapDay_bounds (year index : Int) : 0 ≤ leapDay year index ∧ leapDay year index ≤ 1 := by
  unfold leapDay
  split <;> decide

theorem leapDay_first (year : Int) : leapDay year 0 = 0 := by
  unfold leapDay
  rw [if_neg (by simp)]

theorem monthStart_of (year : Int) {index : Nat} (inside : index < 12) :
    monthStart (12 * year + index) =
      daysBeforeYear year + daysBeforeMonthInYear index + leapDay year index - 719528 := by
  have quotient : (12 * year + (index : Int)) / 12 = year := by omega
  have remainder : (12 * year + (index : Int)) % 12 = index := by omega
  unfold monthStart
  rw [quotient, remainder, Int.toNat_natCast]

theorem exists_year_index (month : Int) : ∃ (year : Int) (index : Nat), index < 12 ∧ month = 12 * year + index := by
  refine ⟨month / 12, (month % 12).toNat, ?_, ?_⟩
  · omega
  · omega

theorem daysBeforeMonthInYear_succ {index : Nat} (inside : index < 11) :
    daysBeforeMonthInYear index + 28 ≤ daysBeforeMonthInYear (index + 1) := by
  interval_cases index <;> decide

theorem leapDay_succ (year : Int) (index : Nat) : leapDay year index ≤ leapDay year (index + 1) := by
  unfold leapDay
  split
  · next leap =>
    rw [if_pos]
    simp only [Bool.and_eq_true, decide_eq_true_eq] at leap ⊢
    exact ⟨leap.1, by omega⟩
  · split <;> decide

theorem monthStart_lt_succ (month : Int) : monthStart month < monthStart (month + 1) := by
  obtain ⟨year, index, inside, rfl⟩ := exists_year_index month
  rw [monthStart_of year inside]
  by_cases last : index = 11
  · -- December is followed by the first month of the next year
    subst last
    have next : 12 * year + ((11 : Nat) : Int) + 1 = 12 * (year + 1) + ((0 : Nat) : Int) := by omega
    rw [next, monthStart_of (year + 1) (by decide), daysBeforeYear_succ]
    have first := leapDay_first (year + 1)
    have bounds := leapDay_bounds year 2
    have leaps := leapDay_bounds year ((11 : Nat) : Int)
    simp only [daysBeforeMonthInYear, Nat.cast_zero, first]
    omega
  · have before : index < 11 := by omega
    have next : 12 * year + (index : Int) + 1 = 12 * year + ((index + 1 : Nat) : Int) := by omega
    rw [next, monthStart_of year (by omega)]
    have longer := daysBeforeMonthInYear_succ before
    have leaps := leapDay_succ year index
    rw [Nat.cast_succ]
    omega

theorem monthStart_lt_iff {first second : Int} : monthStart first < monthStart second ↔ first < second :=
  (strictMono_int_of_lt_succ monthStart_lt_succ).lt_iff_lt

theorem monthStart_bounds (month : Int) :
    146097 * month - 14400 ≤ 4800 * (monthStart month + 719528) ∧
      4800 * (monthStart month + 719528) ≤ 146097 * month + 19200 := by
  obtain ⟨year, index, inside, rfl⟩ := exists_year_index month
  rw [monthStart_of year inside]
  have leaps := leapDay_bounds year index
  have years : 146097 * year - 400 ≤ 400 * daysBeforeYear year ∧
      400 * daysBeforeYear year ≤ 146097 * year + 700 := by
    unfold daysBeforeYear
    omega
  have months : 146097 * (index : Int) - 9600 ≤ 4800 * daysBeforeMonthInYear index ∧
      4800 * daysBeforeMonthInYear index ≤ 146097 * (index : Int) + 4800 := by
    interval_cases index <;> decide
  omega

def monthOf (day : Int) : Int :=
  let guess := (day + 719528) * 4800 / 146097
  if monthStart (guess + 1) ≤ day then guess + 1
  else if monthStart guess ≤ day then guess
  else guess - 1

theorem monthOf_spec (day : Int) : monthStart (monthOf day) ≤ day ∧ day < monthStart (monthOf day + 1) := by
  unfold monthOf
  simp only
  generalize guessed : (day + 719528) * 4800 / 146097 = guess
  have lower := (monthStart_bounds (guess - 1)).2
  have upper := (monthStart_bounds (guess + 2)).1
  split
  · next later =>
    have above : day < monthStart (guess + 1 + 1) := by
      rw [show guess + 1 + 1 = guess + 2 by omega]
      omega
    exact ⟨later, above⟩
  · next notLater =>
    split
    · next now => exact ⟨now, by omega⟩
    · next earlier =>
      have same : guess - 1 + 1 = guess := by omega
      rw [same]
      exact ⟨by omega, by omega⟩

theorem monthOf_iff {day month : Int} :
    monthOf day = month ↔ monthStart month ≤ day ∧ day < monthStart (month + 1) := by
  have spec := monthOf_spec day
  constructor
  · rintro rfl
    exact spec
  · rintro ⟨started, before⟩
    have notAfter := monthStart_lt_iff.mp (lt_of_le_of_lt started spec.2)
    have notBefore := monthStart_lt_iff.mp (lt_of_le_of_lt spec.1 before)
    omega

-- 1970-01-01, 2000-02-29 and 2000-03-01
example : [0, 11016, 11017].map monthOf = [12 * 1970, 12 * 2000 + 1, 12 * 2000 + 2] := by decide

end Calendar

end LocalCrm.Library
