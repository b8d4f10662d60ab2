import Mathlib.Data.Nat.Basic
import Mathlib.Algebra.Order.Ring.Nat
import Mathlib.Tactic.Ring

/-! Numbers written as hexadecimal digits, and digits written in groups.

Writing uses lower case and a fixed width.
-/

set_option autoImplicit false

namespace LocalCrm.Library

def hexDigit (value : Nat) : Char := if value < 10 then Char.ofNat (48 + value) else Char.ofNat (87 + value)

def hexValue (char : Char) : Option Nat :=
  let code := char.toNat
  if 48 ≤ code ∧ code ≤ 57 then some (code - 48)
  else if 97 ≤ code ∧ code ≤ 102 then some (code - 87)
  else if 65 ≤ code ∧ code ≤ 70 then some (code - 55)
  else none

/-- The lowest `width` digits, the most significant first. -/
def hexText : Nat → Nat → List Char
  | 0, _ => []
  | width + 1, value => hexText width (value / 16) ++ [hexDigit (value % 16)]

def readHex (digits : List Char) : Option Nat :=
  digits.foldlM (fun total digit => (hexValue digit).map (16 * total + ·)) 0

def groupDigits : List Nat → List Char → List Char
  | [], _ => []
  | [width], digits => digits.take width
  | width :: next :: rest, digits => digits.take width ++ '-' :: groupDigits (next :: rest) (digits.drop width)

def readGroups : List Nat → List Char → Option (List Char)
  | [], chars => if chars.isEmpty then some [] else none
  | [width], chars => if chars.length = width ∧ chars.all (hexValue · |>.isSome) then some chars else none
  | width :: next :: rest, chars =>
    match chars.drop width with
    | '-' :: tail =>
      let digits := chars.take width
      if digits.length = width ∧ digits.all (hexValue · |>.isSome) then
        (readGroups (next :: rest) tail).map (digits ++ ·)
      else none
    | _ => none

theorem hexValue_hexDigit {value : Nat} (small : value < 16) : hexValue (hexDigit value) = some value := by
  have all : ∀ value < 16, hexValue (hexDigit value) = some value := by decide
  exact all value small

@[simp] theorem length_hexText (width value : Nat) : (hexText width value).length = width := by
  induction width generalizing value with
  | zero => rfl
  | succ width ih => simp [hexText, ih]

theorem hexValue_of_mem {width value : Nat} {digit : Char} (member : digit ∈ hexText width value) :
    (hexValue digit).isSome = true := by
  induction width generalizing value with
  | zero => cases member
  | succ width ih =>
    rcases List.mem_append.mp member with upper | last
    · exact ih upper
    · obtain rfl := List.mem_singleton.mp last
      rw [hexValue_hexDigit (Nat.mod_lt _ (by decide))]
      rfl

theorem readHex_hexText (width value : Nat) : readHex (hexText width value) = some (value % 16 ^ width) := by
  induction width generalizing value with
  | zero => simp [hexText, readHex, Nat.mod_one]
  | succ width ih =>
    have upper : (hexText width (value / 16)).foldlM
        (fun total digit => (hexValue digit).map (16 * total + ·)) 0 = some (value / 16 % 16 ^ width) := ih (value / 16)
    have split : value % 16 ^ (width + 1) = 16 * (value / 16 % 16 ^ width) + value % 16 := by
      rw [Nat.pow_succ', Nat.mod_mul]
      ring
    simp only [readHex, hexText, List.foldlM_append, upper, bind, Option.bind_some, List.foldlM_cons, List.foldlM_nil,
      hexValue_hexDigit (Nat.mod_lt value (by decide : 0 < 16)), Option.map_some, pure, split]

theorem readGroups_groupDigits {widths : List Nat} {digits : List Char} (fits : digits.length = widths.sum)
    (hex : ∀ digit ∈ digits, (hexValue digit).isSome = true) :
    readGroups widths (groupDigits widths digits) = some digits := by
  induction widths generalizing digits with
  | nil =>
    obtain rfl := List.length_eq_zero_iff.mp fits
    rfl
  | cons width rest ih =>
    cases rest with
    | nil =>
      have whole : digits.length = width := by simpa using fits
      have all : digits.all (hexValue · |>.isSome) = true := List.all_eq_true.mpr hex
      simp [readGroups, groupDigits, ← whole, all]
    | cons next rest =>
      have long : width ≤ digits.length := by
        rw [fits, List.sum_cons]
        exact Nat.le_add_right _ _
      have taken : (digits.take width).length = width := by simpa using long
      have dropped : (digits.drop width).length = (next :: rest).sum := by
        rw [List.length_drop, fits, List.sum_cons]
        omega
      have all : (digits.take width).all (hexValue · |>.isSome) = true :=
        List.all_eq_true.mpr fun digit member => hex digit (List.mem_of_mem_take member)
      have later := ih dropped fun digit member => hex digit (List.mem_of_mem_drop member)
      have front : (digits.take width ++ '-' :: groupDigits (next :: rest) (digits.drop width)).drop width =
          '-' :: groupDigits (next :: rest) (digits.drop width) := List.drop_left' taken
      have back : (digits.take width ++ '-' :: groupDigits (next :: rest) (digits.drop width)).take width =
          digits.take width := List.take_left' taken
      rw [groupDigits, readGroups, front]
      simp only [back, taken, all, later, and_self, if_true, Option.map_some, List.take_append_drop]

end LocalCrm.Library
