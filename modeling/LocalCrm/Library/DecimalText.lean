import Mathlib.Algebra.Order.Ring.Nat
import Mathlib.Data.List.TakeWhile

/-! Numbers written in decimal digits, padded to a width, and fields of such digits read back.

A field is read by its width alone.
-/

set_option autoImplicit false

namespace LocalCrm.Library

def padded (width number : Nat) : List Char := (Nat.toDigits 10 number).leftpad width '0'

def readDigits (width : Nat) (text : List Char) : Option (Nat × List Char) :=
  let digits := text.take width
  if digits.length = width ∧ digits.all Char.isDigit then some (Nat.ofDigitChars 10 digits 0, text.drop width)
  else none

def expect (literal text : List Char) : Option (List Char) :=
  if literal.isPrefixOf text then some (text.drop literal.length) else none

section Padding

variable {width number other : Nat}

theorem isDigit_of_mem_padded {digit : Char} (member : digit ∈ padded width number) : digit.isDigit = true := by
  rcases List.mem_append.mp member with zero | written
  · rw [(List.mem_replicate.mp zero).2]
    rfl
  · exact Nat.isDigit_of_mem_toDigits (by decide) (by decide) written

theorem ofDigitChars_padded : Nat.ofDigitChars 10 (padded width number) 0 = number := by
  unfold padded List.leftpad
  rw [Nat.ofDigitChars_append, Nat.ofDigitChars_replicate_zero, Nat.mul_zero, Nat.ofDigitChars_ten_toDigits]

theorem padded_inj : padded width number = padded width other ↔ number = other := by
  constructor
  · intro same
    rw [← @ofDigitChars_padded width number, same, ofDigitChars_padded]
  · rintro rfl
    rfl

theorem length_padded : width ≤ (padded width number).length := by
  unfold padded
  rw [List.length_leftpad]
  exact le_max_left ..

theorem length_padded_of_lt (positive : 0 < width) (fits : number < 10 ^ width) :
    (padded width number).length = width := by
  unfold padded
  rw [List.length_leftpad, max_eq_left]
  exact (Nat.length_toDigits_le_iff (by decide) positive).mpr fits

theorem lt_of_length_padded (positive : 0 < width) (short : (padded width number).length = width) :
    number < 10 ^ width := by
  apply (Nat.length_toDigits_le_iff (by decide) positive).mp
  unfold padded at short
  rw [List.length_leftpad] at short
  omega

theorem underscore_notMem_padded : '_' ∉ padded width number := by
  intro member
  have digit := isDigit_of_mem_padded member
  revert digit
  decide

end Padding

section Reading

variable {width number : Nat} {text rest : List Char}

theorem readDigits_padded (positive : 0 < width) (fits : number < 10 ^ width) :
    readDigits width (padded width number ++ rest) = some (number, rest) := by
  have long := length_padded_of_lt positive fits
  have taken : (padded width number ++ rest).take width = padded width number := List.take_left' long
  have dropped : (padded width number ++ rest).drop width = rest := List.drop_left' long
  have digits : (padded width number).all Char.isDigit = true :=
    List.all_eq_true.mpr fun _ member => isDigit_of_mem_padded member
  unfold readDigits
  simp only [taken, dropped, long, digits, and_self, if_true, ofDigitChars_padded]

theorem expect_append {literal : List Char} : expect literal (literal ++ rest) = some rest := by
  simp [expect]

theorem expect_after_padded {value : Nat} {mark : Char} {marks : List Char} (notDigit : mark.isDigit = false)
    (overflows : 10 ^ width ≤ number) (positive : 0 < width)
    (read : readDigits width (padded width number ++ text) = some (value, rest)) : expect (mark :: marks) rest = none := by
  have longer : width < (padded width number).length := by
    apply lt_of_le_of_ne length_padded
    intro short
    exact absurd (lt_of_length_padded positive short.symm) (Nat.not_lt.mpr overflows)
  unfold readDigits at read
  dsimp only at read
  split at read
  · cases read
    rw [List.drop_append_of_le_length longer.le]
    cases remaining : (padded width number).drop width with
    | nil =>
      have exhausted := List.drop_eq_nil_iff.mp remaining
      omega
    | cons digit digits =>
      have written : digit ∈ padded width number := by
        apply List.mem_of_mem_drop (i := width)
        rw [remaining]
        exact List.mem_cons_self
      have different : mark ≠ digit := by
        rintro rfl
        rw [isDigit_of_mem_padded written] at notDigit
        cases notDigit
      unfold expect
      rw [List.cons_append, List.isPrefixOf_cons_cons, beq_false_of_ne different]
      rfl
  · cases read

end Reading

end LocalCrm.Library
