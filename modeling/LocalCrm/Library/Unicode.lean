import Mathlib.Data.List.Basic

/-! Text as UTF-16 code units, as a JavaScript string holds it, and as UTF-8 bytes. -/

set_option autoImplicit false

namespace LocalCrm.Library

abbrev Text := List UInt16

def isHighSurrogate (unit : UInt16) : Bool := 0xD800 ≤ unit.toNat && unit.toNat < 0xDC00

def isLowSurrogate (unit : UInt16) : Bool := 0xDC00 ≤ unit.toNat && unit.toNat < 0xE000

def isWhitespace (unit : UInt16) : Bool :=
  (0x09 ≤ unit.toNat && unit.toNat ≤ 0x0D) || (0x2000 ≤ unit.toNat && unit.toNat ≤ 0x200A) ||
    [0x20, 0xA0, 0x1680, 0x2028, 0x2029, 0x202F, 0x205F, 0x3000, 0xFEFF].contains unit.toNat

def replacementPoint : Nat := 0xFFFD

def pairPoint (high low : UInt16) : Nat := 0x10000 + (high.toNat - 0xD800) * 0x400 + (low.toNat - 0xDC00)

def codePoints : Text → List Nat
  | [] => []
  | unit :: rest =>
    if isHighSurrogate unit then
      match rest with
      | [] => [replacementPoint]
      | next :: after =>
        if isLowSurrogate next then pairPoint unit next :: codePoints after
        else replacementPoint :: codePoints (next :: after)
    else if isLowSurrogate unit then replacementPoint :: codePoints rest
    else unit.toNat :: codePoints rest

def pointUnits (point : Nat) : Text :=
  if point < 0x10000 then [UInt16.ofNat point]
  else [UInt16.ofNat (0xD800 + (point - 0x10000) / 0x400), UInt16.ofNat (0xDC00 + (point - 0x10000) % 0x400)]

def wellFormed : Text → Bool
  | [] => true
  | unit :: rest =>
    if isHighSurrogate unit then
      match rest with
      | [] => false
      | next :: after => isLowSurrogate next && wellFormed after
    else !isLowSurrogate unit && wellFormed rest

def IsScalar (point : Nat) : Prop := point < 0xD800 ∨ 0xE000 ≤ point ∧ point < 0x110000

section Units

variable {unit next : UInt16} {text rest : Text}

theorem pointUnits_of_unit (high : isHighSurrogate unit = false) (low : isLowSurrogate unit = false) :
    IsScalar unit.toNat ∧ pointUnits unit.toNat = [unit] := by
  have bound := unit.toNat_lt
  simp only [isHighSurrogate, isLowSurrogate, Bool.and_eq_false_iff, decide_eq_false_iff_not] at high low
  constructor
  · unfold IsScalar
    omega
  · rw [pointUnits, if_pos (by omega), UInt16.ofNat_toNat]

theorem pointUnits_of_pair (high : isHighSurrogate unit = true) (low : isLowSurrogate next = true) :
    IsScalar (pairPoint unit next) ∧ pointUnits (pairPoint unit next) = [unit, next] := by
  simp only [isHighSurrogate, isLowSurrogate, Bool.and_eq_true, decide_eq_true_eq] at high low
  constructor
  · unfold IsScalar pairPoint
    omega
  · have upper : 0xD800 + (pairPoint unit next - 0x10000) / 0x400 = unit.toNat := by
      unfold pairPoint
      omega
    have lower : 0xDC00 + (pairPoint unit next - 0x10000) % 0x400 = next.toNat := by
      unfold pairPoint
      omega
    rw [pointUnits, if_neg (by unfold pairPoint; omega), upper, lower, UInt16.ofNat_toNat, UInt16.ofNat_toNat]

theorem wellFormed_unit (high : isHighSurrogate unit = false) (low : isLowSurrogate unit = false) :
    wellFormed (unit :: rest) = wellFormed rest := by
  rw [wellFormed.eq_def]
  simp [high, low]

theorem wellFormed_pair (high : isHighSurrogate unit = true) (low : isLowSurrogate next = true) :
    wellFormed (unit :: next :: rest) = wellFormed rest := by
  rw [wellFormed.eq_def]
  simp [high, low]

theorem codePoints_sound (formed : wellFormed text = true) :
    (∀ point ∈ codePoints text, IsScalar point) ∧ (codePoints text).flatMap pointUnits = text := by
  fun_induction codePoints text with
  | case1 => exact ⟨fun _ absent => absurd absent List.not_mem_nil, rfl⟩
  | case2 unit high => simp [wellFormed, high] at formed
  | case3 unit high next after low ih =>
    rw [wellFormed_pair high low] at formed
    obtain ⟨scalar, units⟩ := pointUnits_of_pair high low
    obtain ⟨scalars, same⟩ := ih formed
    refine ⟨List.forall_mem_cons.mpr ⟨scalar, scalars⟩, ?_⟩
    rw [List.flatMap_cons, units, same]
    rfl
  | case4 unit high next after low ih => simp [wellFormed, high, low] at formed
  | case5 unit rest high low ih =>
    rw [wellFormed.eq_def] at formed
    simp [high, low] at formed
  | case6 unit rest high low ih =>
    rw [Bool.not_eq_true] at high low
    rw [wellFormed_unit high low] at formed
    obtain ⟨scalar, units⟩ := pointUnits_of_unit high low
    obtain ⟨scalars, same⟩ := ih formed
    refine ⟨List.forall_mem_cons.mpr ⟨scalar, scalars⟩, ?_⟩
    rw [List.flatMap_cons, units, same]
    rfl

theorem wellFormed_append (formed : wellFormed text = true) : wellFormed (text ++ rest) = wellFormed rest := by
  fun_induction wellFormed text with
  | case1 => rfl
  | case2 unit high => exact absurd formed (by decide)
  | case3 unit high next after ih =>
    rw [Bool.and_eq_true] at formed
    rw [List.cons_append, List.cons_append, wellFormed_pair high formed.1]
    exact ih formed.2
  | case4 unit after high ih =>
    rw [Bool.and_eq_true, Bool.not_eq_true'] at formed
    rw [Bool.not_eq_true] at high
    rw [List.cons_append, wellFormed_unit high formed.1]
    exact ih formed.2

end Units

def pointBytes (point : Nat) : List UInt8 :=
  if point < 0x80 then [UInt8.ofNat point]
  else if point < 0x800 then [UInt8.ofNat (0xC0 + point / 64), UInt8.ofNat (0x80 + point % 64)]
  else if point < 0x10000 then
    [UInt8.ofNat (0xE0 + point / 4096), UInt8.ofNat (0x80 + point / 64 % 64), UInt8.ofNat (0x80 + point % 64)]
  else
    [UInt8.ofNat (0xF0 + point / 262144), UInt8.ofNat (0x80 + point / 4096 % 64),
      UInt8.ofNat (0x80 + point / 64 % 64), UInt8.ofNat (0x80 + point % 64)]

def utf8 (text : Text) : List UInt8 := (codePoints text).flatMap pointBytes

structure Pending where
  needed : Nat
  lower : Nat
  upper : Nat
  value : Nat

/-- What a byte means between two characters. -/
def firstByte (byte : Nat) : List Nat × Option Pending :=
  if byte < 0x80 then ([byte], none)
  else if 0xC2 ≤ byte ∧ byte ≤ 0xDF then ([], some ⟨1, 0x80, 0xBF, byte - 0xC0⟩)
  else if 0xE0 ≤ byte ∧ byte ≤ 0xEF then
    ([], some ⟨2, if byte = 0xE0 then 0xA0 else 0x80, if byte = 0xED then 0x9F else 0xBF, byte - 0xE0⟩)
  else if 0xF0 ≤ byte ∧ byte ≤ 0xF4 then
    ([], some ⟨3, if byte = 0xF0 then 0x90 else 0x80, if byte = 0xF4 then 0x8F else 0xBF, byte - 0xF0⟩)
  else ([replacementPoint], none)

def nextByte (pending : Pending) (byte : Nat) : List Nat × Option Pending :=
  if pending.lower ≤ byte ∧ byte ≤ pending.upper then
    if pending.needed = 1 then ([pending.value * 64 + (byte - 0x80)], none)
    else ([], some ⟨pending.needed - 1, 0x80, 0xBF, pending.value * 64 + (byte - 0x80)⟩)
  -- the byte that breaks a character off may start the next one
  else (replacementPoint :: (firstByte byte).1, (firstByte byte).2)

def readPoints : Option Pending → List UInt8 → List Nat
  | none, [] => []
  | some _, [] => [replacementPoint]
  | pending, byte :: rest =>
    let read := pending.elim (firstByte byte.toNat) (nextByte · byte.toNat)
    read.1 ++ readPoints read.2 rest

def textOf (bytes : List UInt8) : Text := (readPoints none bytes).flatMap pointUnits

section Bytes

variable {point byte low lower upper needed value : Nat} {rest : List UInt8} {text : Text}

theorem byte_toNat (small : byte < 256) : (UInt8.ofNat byte).toNat = byte := UInt8.toNat_ofNat_of_lt' small

theorem readPoints_first (small : byte < 256) :
    readPoints none (UInt8.ofNat byte :: rest) = (firstByte byte).1 ++ readPoints (firstByte byte).2 rest := by
  rw [readPoints, Option.elim_none, byte_toNat small]

theorem readPoints_last (small : low < 64) (inside : lower ≤ 0x80 + low ∧ 0x80 + low ≤ upper) :
    readPoints (some ⟨1, lower, upper, value⟩) (UInt8.ofNat (0x80 + low) :: rest) =
      (value * 64 + low) :: readPoints none rest := by
  rw [readPoints, Option.elim_some, byte_toNat (by omega), nextByte, if_pos inside, if_pos rfl,
    Nat.add_sub_cancel_left]
  rfl

theorem readPoints_next (small : low < 64) (inside : lower ≤ 0x80 + low ∧ 0x80 + low ≤ upper) :
    readPoints (some ⟨needed + 2, lower, upper, value⟩) (UInt8.ofNat (0x80 + low) :: rest) =
      readPoints (some ⟨needed + 1, 0x80, 0xBF, value * 64 + low⟩) rest := by
  rw [readPoints, Option.elim_some, byte_toNat (by omega), nextByte, if_pos inside, if_neg (by simp),
    Nat.add_sub_cancel_left]
  rfl

theorem readPoints_pointBytes (scalar : IsScalar point) :
    readPoints none (pointBytes point ++ rest) = point :: readPoints none rest := by
  unfold IsScalar at scalar
  unfold pointBytes
  have low : point % 64 < 64 := Nat.mod_lt _ (by decide)
  have middle : point / 64 % 64 < 64 := Nat.mod_lt _ (by decide)
  split
  · case isTrue short =>
    rw [List.singleton_append, readPoints_first (by omega), firstByte, if_pos short]
    rfl
  split
  · case isTrue =>
    have started : firstByte (0xC0 + point / 64) = ([], some ⟨1, 0x80, 0xBF, point / 64⟩) := by
      rw [firstByte, if_neg (by omega), if_pos (by omega), Nat.add_sub_cancel_left]
    have whole : point / 64 * 64 + point % 64 = point := by omega
    rw [List.cons_append, readPoints_first (by omega), started, List.nil_append, List.singleton_append,
      readPoints_last low (by omega), whole]
  split
  · case isTrue =>
    have started : firstByte (0xE0 + point / 4096) =
        ([], some ⟨2, if 0xE0 + point / 4096 = 0xE0 then 0xA0 else 0x80,
          if 0xE0 + point / 4096 = 0xED then 0x9F else 0xBF, point / 4096⟩) := by
      rw [firstByte, if_neg (by omega), if_neg (by omega), if_pos (by omega), Nat.add_sub_cancel_left]
    -- the narrower ranges exclude overlong forms and the surrogates
    have inside : (if 0xE0 + point / 4096 = 0xE0 then 0xA0 else 0x80) ≤ 0x80 + point / 64 % 64 ∧
        0x80 + point / 64 % 64 ≤ (if 0xE0 + point / 4096 = 0xED then 0x9F else 0xBF) := by
      split_ifs <;> omega
    have whole : (point / 4096 * 64 + point / 64 % 64) * 64 + point % 64 = point := by omega
    rw [List.cons_append, readPoints_first (by omega), started, List.nil_append, List.cons_append,
      readPoints_next middle inside, List.singleton_append, readPoints_last low (by omega), whole]
  · have upper : point / 4096 % 64 < 64 := Nat.mod_lt _ (by decide)
    have started : firstByte (0xF0 + point / 262144) =
        ([], some ⟨3, if 0xF0 + point / 262144 = 0xF0 then 0x90 else 0x80,
          if 0xF0 + point / 262144 = 0xF4 then 0x8F else 0xBF, point / 262144⟩) := by
      rw [firstByte, if_neg (by omega), if_neg (by omega), if_neg (by omega), if_pos (by omega),
        Nat.add_sub_cancel_left]
    have inside : (if 0xF0 + point / 262144 = 0xF0 then 0x90 else 0x80) ≤ 0x80 + point / 4096 % 64 ∧
        0x80 + point / 4096 % 64 ≤ (if 0xF0 + point / 262144 = 0xF4 then 0x8F else 0xBF) := by
      split_ifs <;> omega
    have whole : ((point / 262144 * 64 + point / 4096 % 64) * 64 + point / 64 % 64) * 64 + point % 64 = point := by
      omega
    rw [List.cons_append, readPoints_first (by omega), started, List.nil_append, List.cons_append,
      readPoints_next upper inside, List.cons_append, readPoints_next middle (by omega),
      List.singleton_append, readPoints_last low (by omega), whole]

theorem textOf_utf8 (formed : wellFormed text = true) : textOf (utf8 text) = text := by
  obtain ⟨scalars, same⟩ := codePoints_sound formed
  have read : ∀ points : List Nat, (∀ point ∈ points, IsScalar point) →
      readPoints none (points.flatMap pointBytes) = points := by
    intro points
    induction points with
    | nil => intro _; rfl
    | cons point others ih =>
      intro valid
      obtain ⟨first, rest⟩ := List.forall_mem_cons.mp valid
      rw [List.flatMap_cons, readPoints_pointBytes first, ih rest]
  unfold textOf utf8
  rw [read _ scalars, same]

end Bytes

end LocalCrm.Library
