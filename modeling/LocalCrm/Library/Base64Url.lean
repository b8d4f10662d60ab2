import LocalCrm.Library.Unicode

/-! Base64url as Node writes it and as Node reads it. -/

set_option autoImplicit false

namespace LocalCrm.Library.Base64Url

def digit (sextet : Nat) : UInt16 :=
  if sextet < 26 then UInt16.ofNat (0x41 + sextet)
  else if sextet < 52 then UInt16.ofNat (0x61 + (sextet - 26))
  else if sextet < 62 then UInt16.ofNat (0x30 + (sextet - 52))
  else if sextet = 62 then 0x2D
  else 0x5F

/-- A unit outside Latin-1 is read by its low byte. -/
def sextet (unit : UInt16) : Option Nat :=
  let code := unit.toNat % 0x100
  if 0x41 ≤ code ∧ code ≤ 0x5A then some (code - 0x41)
  else if 0x61 ≤ code ∧ code ≤ 0x7A then some (code - 0x61 + 26)
  else if 0x30 ≤ code ∧ code ≤ 0x39 then some (code - 0x30 + 52)
  else if code = 0x2B ∨ code = 0x2D then some 62
  else if code = 0x2F ∨ code = 0x5F then some 63
  else none

def sextetsOf : List UInt8 → List Nat
  | first :: second :: third :: rest =>
    first.toNat / 4 :: (first.toNat % 4 * 16 + second.toNat / 16)
      :: (second.toNat % 16 * 4 + third.toNat / 64) :: third.toNat % 64 :: sextetsOf rest
  | [first, second] => [first.toNat / 4, first.toNat % 4 * 16 + second.toNat / 16, second.toNat % 16 * 4]
  | [first] => [first.toNat / 4, first.toNat % 4 * 16]
  | [] => []

def bytesOf : List Nat → List UInt8
  | first :: second :: third :: fourth :: rest =>
    UInt8.ofNat (first * 4 + second / 16) :: UInt8.ofNat (second % 16 * 16 + third / 4)
      :: UInt8.ofNat (third % 4 * 64 + fourth) :: bytesOf rest
  | [first, second, third] =>
    [UInt8.ofNat (first * 4 + second / 16), UInt8.ofNat (second % 16 * 16 + third / 4)]
  | [first, second] => [UInt8.ofNat (first * 4 + second / 16)]
  | _ => []

def encode (bytes : List UInt8) : Text := (sextetsOf bytes).map digit

def padding : UInt16 := 0x3D

def decode (text : Text) : List UInt8 := bytesOf ((text.takeWhile (· != padding)).filterMap sextet)

section RoundTrip

variable {bytes : List UInt8}

theorem sextet_digit : ∀ value < 64, sextet (digit value) = some value := by decide

theorem digit_ne_padding : ∀ value < 64, digit value ≠ padding := by decide

theorem sextetsOf_lt : ∀ value ∈ sextetsOf bytes, value < 64 := by
  fun_induction sextetsOf bytes with
  | case1 first second third rest ih =>
    have := first.toNat_lt
    have := second.toNat_lt
    have := third.toNat_lt
    simp only [List.forall_mem_cons]
    exact ⟨by omega, by omega, by omega, by omega, ih⟩
  | case2 first second =>
    have := first.toNat_lt
    have := second.toNat_lt
    simp only [List.forall_mem_cons, List.not_mem_nil, false_implies, implies_true, and_true]
    omega
  | case3 first =>
    have := first.toNat_lt
    simp only [List.forall_mem_cons, List.not_mem_nil, false_implies, implies_true, and_true]
    omega
  | case4 => exact fun _ absent => absurd absent List.not_mem_nil

theorem bytesOf_sextetsOf : bytesOf (sextetsOf bytes) = bytes := by
  fun_induction sextetsOf bytes with
  | case1 first second third rest ih =>
    have := second.toNat_lt
    have := third.toNat_lt
    have one : first.toNat / 4 * 4 + (first.toNat % 4 * 16 + second.toNat / 16) / 16 = first.toNat := by omega
    have two : (first.toNat % 4 * 16 + second.toNat / 16) % 16 * 16 +
        (second.toNat % 16 * 4 + third.toNat / 64) / 4 = second.toNat := by omega
    have three : (second.toNat % 16 * 4 + third.toNat / 64) % 4 * 64 + third.toNat % 64 = third.toNat := by omega
    simp only [bytesOf, one, two, three, ih, UInt8.ofNat_toNat]
  | case2 first second =>
    have := second.toNat_lt
    have one : first.toNat / 4 * 4 + (first.toNat % 4 * 16 + second.toNat / 16) / 16 = first.toNat := by omega
    have two : (first.toNat % 4 * 16 + second.toNat / 16) % 16 * 16 + second.toNat % 16 * 4 / 4 = second.toNat := by
      omega
    simp only [bytesOf, one, two, UInt8.ofNat_toNat]
  | case3 first =>
    have one : first.toNat / 4 * 4 + first.toNat % 4 * 16 / 16 = first.toNat := by omega
    simp only [bytesOf, one, UInt8.ofNat_toNat]
  | case4 => rfl

theorem decode_encode : decode (encode bytes) = bytes := by
  have digits : ∀ values : List Nat, (∀ value ∈ values, value < 64) →
      ((values.map digit).takeWhile (· != padding)).filterMap sextet = values := by
    intro values
    induction values with
    | nil => intro _; rfl
    | cons value rest ih =>
      intro bounded
      obtain ⟨small, others⟩ := List.forall_mem_cons.mp bounded
      rw [List.map_cons, List.takeWhile_cons_of_pos (by simpa using digit_ne_padding value small),
        List.filterMap_cons_some (sextet_digit value small), ih others]
  unfold decode encode
  rw [digits _ sextetsOf_lt, bytesOf_sextetsOf]

theorem exists_of_mem_encode {unit : UInt16} (member : unit ∈ encode bytes) : ∃ value < 64, digit value = unit := by
  obtain ⟨value, listed, same⟩ := List.mem_map.mp member
  exact ⟨value, sextetsOf_lt value listed, same⟩

@[simp] theorem encode_eq_nil : encode bytes = [] ↔ bytes = [] := by
  unfold encode
  rw [List.map_eq_nil_iff]
  constructor
  · intro none
    rw [← @bytesOf_sextetsOf bytes, none]
    rfl
  · rintro rfl
    rfl

end RoundTrip

end LocalCrm.Library.Base64Url
