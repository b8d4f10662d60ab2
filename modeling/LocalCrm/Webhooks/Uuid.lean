import LocalCrm.Library.HexText
import LocalCrm.Schema

/-! The text of a uuid: how the database prints one, and which texts the webhook
worker takes for one. The pattern ignores case, the database prints lower case.
-/

set_option autoImplicit false

namespace LocalCrm.Webhooks

open Library

/-- Eight, four, four, four and twelve digits. -/
def uuidGroups : List Nat := [8, 4, 4, 4, 12]

/-- `UUID_RE`, with the digits of the value. -/
def uuidDigits (text : String) : Option (List Char) := readGroups uuidGroups text.toList

/-- A value that does not fit into 128 bits has no uuid text; it is written apart. -/
def wideText (value : Nat) : String := String.ofList (List.replicate value 'z')

def uuidTextOf (value : Nat) : String :=
  if value < 16 ^ 32 then String.ofList (groupDigits uuidGroups (hexText 32 value)) else wideText value

def uuidValueOf (text : String) : Option Nat :=
  match uuidDigits text with
  | some digits => readHex digits
  | none => if text = wideText text.toList.length ∧ 16 ^ 32 ≤ text.toList.length then some text.toList.length else none

theorem uuidDigits_uuidTextOf {value : Nat} (small : value < 16 ^ 32) :
    uuidDigits (uuidTextOf value) = some (hexText 32 value) := by
  rw [uuidTextOf, if_pos small, uuidDigits, String.toList_ofList]
  exact readGroups_groupDigits (length_hexText 32 value) fun _ member => hexValue_of_mem member

theorem uuidDigits_wideText {value : Nat} (large : 16 ^ 32 ≤ value) : uuidDigits (wideText value) = none := by
  obtain ⟨rest, same⟩ : ∃ rest, value - 8 = rest + 1 := ⟨value - 9, by omega⟩
  rw [uuidDigits, wideText, String.toList_ofList, uuidGroups, readGroups, List.drop_replicate, same, List.replicate_succ]
  rfl

theorem uuidValueOf_uuidTextOf (value : Nat) : uuidValueOf (uuidTextOf value) = some value := by
  by_cases small : value < 16 ^ 32
  · rw [uuidValueOf, uuidDigits_uuidTextOf small]
    simp only [readHex_hexText, Nat.mod_eq_of_lt small]
  · have large := Nat.not_lt.mp small
    have length : (wideText value).toList.length = value := by
      rw [wideText, String.toList_ofList, List.length_replicate]
    rw [uuidValueOf, uuidTextOf, if_neg small, uuidDigits_wideText large]
    simp only [length, true_and]
    rw [if_pos large]

def uuidPlatform : Platform where
  sendIds := pairedSendIds
  uuidText := uuidTextOf
  uuidValue := uuidValueOf
  uuidValue_text := uuidValueOf_uuidTextOf
  hashSuppressionEmail _ email := email
  milliseconds seconds := seconds * 1000

example : uuidValueOf "00000000-0000-0000-0000-00000000000A" = some 10 := by decide +kernel

example : uuidTextOf 10 = "00000000-0000-0000-0000-00000000000a" := by decide +kernel

end LocalCrm.Webhooks
