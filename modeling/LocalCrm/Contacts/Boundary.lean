import LocalCrm.Library.Trim
import LocalCrm.Webhooks.EventRules
import Mathlib.Tactic.IntervalCases

/-! What the request boundary does to an address before anything is looked up or stored. -/

set_option autoImplicit false

namespace LocalCrm.Contacts

open Library Webhooks

/-- What the boundary takes from the language and its time zone data. -/
structure Boundary where
  toLowerCase : String → String
  isValidIanaTimezone : String → Bool
  toLowerCase_empty : toLowerCase "" = ""
  normalizes : ∀ text, toLowerCase (jsTrim (toLowerCase (jsTrim text))) = toLowerCase (jsTrim text)

namespace Boundary

variable (boundary : Boundary)

def normalizeSuppressionEmail (email : String) : String := boundary.toLowerCase (jsTrim email)

@[simp] theorem normalize_normalize (email : String) :
    boundary.normalizeSuppressionEmail (boundary.normalizeSuppressionEmail email) =
      boundary.normalizeSuppressionEmail email := boundary.normalizes email

theorem normalize_empty : boundary.normalizeSuppressionEmail "" = "" := boundary.toLowerCase_empty

end Boundary

section Ascii

theorem jsTrim_eq (text : String) : jsTrim text = String.ofList (trim jsWhitespace text.toList) := rfl

def asciiLowerCase (char : Char) : Char :=
  if 65 ≤ char.toNat ∧ char.toNat ≤ 90 then Char.ofNat (char.toNat + 32) else char

theorem toNat_asciiLowerCase (char : Char) :
    (asciiLowerCase char).toNat =
      if 65 ≤ char.toNat ∧ char.toNat ≤ 90 then char.toNat + 32 else char.toNat := by
  unfold asciiLowerCase
  split
  · next upper =>
    generalize char.toNat = code at upper
    obtain ⟨low, high⟩ := upper
    interval_cases code <;> rfl
  · rfl

theorem asciiLowerCase_asciiLowerCase (char : Char) :
    asciiLowerCase (asciiLowerCase char) = asciiLowerCase char := by
  have lowered := toNat_asciiLowerCase char
  rw [asciiLowerCase, if_neg]
  rw [lowered]
  split <;> omega

theorem jsWhitespace_asciiLowerCase (char : Char) : jsWhitespace (asciiLowerCase char) = jsWhitespace char := by
  have lowered := toNat_asciiLowerCase char
  by_cases upper : 65 ≤ char.toNat ∧ char.toNat ≤ 90
  · rw [if_pos upper] at lowered
    simp only [jsWhitespace, lowered]
    generalize char.toNat = code at upper
    obtain ⟨low, high⟩ := upper
    interval_cases code <;> rfl
  · rw [asciiLowerCase, if_neg upper]

def asciiBoundary : Boundary where
  toLowerCase text := String.ofList (text.toList.map asciiLowerCase)
  isValidIanaTimezone _ := true
  toLowerCase_empty := rfl
  normalizes text := by
    simp only [jsTrim_eq, String.toList_ofList]
    rw [trim_map jsWhitespace_asciiLowerCase, trim_trim, List.map_map]
    congr 2
    funext char
    exact asciiLowerCase_asciiLowerCase char

end Ascii

end LocalCrm.Contacts
