import Mathlib.Data.List.Sort
import Mathlib.Order.Defs.LinearOrder

/-! Keyset pages: the keys after a cursor in ascending order, a bounded number at a time. -/

set_option autoImplicit false

namespace LocalCrm.Library.Keyset

variable {Key : Type} [LinearOrder Key]

def isAfter (cursor : Option Key) (key : Key) : Bool := cursor.all fun last => last < key

def upcoming (cursor : Option Key) (keys : List Key) : List Key :=
  (keys.filter (isAfter cursor)).insertionSort (· ≤ ·)

/-- `WHERE key > cursor ORDER BY key LIMIT size`. -/
def page (size : Nat) (cursor : Option Key) (keys : List Key) : List Key := (upcoming cursor keys).take size

/-- The cursor after a page: its last key, or the old cursor when it is empty. -/
def pageEnd (cursor : Option Key) (keys : List Key) : Option Key := keys.getLast?.or cursor

section Pages

variable {cursor : Option Key} {keys : List Key} {key last : Key} {size : Nat}

@[simp] theorem isAfter_none : isAfter none key = true := rfl

@[simp] theorem isAfter_some : isAfter (some last) key = true ↔ last < key := by
  simp [isAfter]

theorem not_isAfter_some : isAfter (some last) key = false ↔ key ≤ last := by
  simp [isAfter]

theorem mem_upcoming : key ∈ upcoming cursor keys ↔ key ∈ keys ∧ isAfter cursor key = true := by
  rw [upcoming, List.mem_insertionSort, List.mem_filter]

theorem ascending_upcoming (distinct : keys.Nodup) : (upcoming cursor keys).Pairwise (· < ·) := by
  have sorted := List.pairwise_insertionSort (· ≤ ·) (keys.filter (isAfter cursor))
  have once := (List.perm_insertionSort (· ≤ ·) (keys.filter (isAfter cursor))).nodup_iff.mpr (distinct.filter _)
  exact List.Pairwise.imp₂ (fun _ _ le ne => lt_of_le_of_ne le ne) sorted once

theorem mem_page (member : key ∈ page size cursor keys) : key ∈ keys ∧ isAfter cursor key = true :=
  mem_upcoming.mp (List.mem_of_mem_take member)

theorem ascending_page (distinct : keys.Nodup) : (page size cursor keys).Pairwise (· < ·) :=
  (ascending_upcoming distinct).sublist (List.take_sublist _ _)

theorem mem_page_or_after (distinct : keys.Nodup) (member : key ∈ keys) (after : isAfter cursor key = true) :
    key ∈ page size cursor keys ∨ ∀ other ∈ page size cursor keys, other < key := by
  have ascending : (upcoming cursor keys).Pairwise (· < ·) := ascending_upcoming distinct
  have inside := mem_upcoming.mpr ⟨member, after⟩
  rw [← List.take_append_drop size (upcoming cursor keys)] at inside ascending
  rcases List.mem_append.mp inside with first | later
  · exact .inl first
  · exact .inr fun other taken => (List.pairwise_append.mp ascending).2.2 other taken key later

theorem mem_page_or_isAfter (distinct : keys.Nodup) (member : key ∈ keys) (after : isAfter cursor key = true) :
    key ∈ page size cursor keys ∨ isAfter (pageEnd cursor (page size cursor keys)) key = true := by
  rcases mem_page_or_after distinct member after with inside | later
  · exact .inl inside
  · right
    unfold pageEnd
    cases ends : (page size cursor keys).getLast? with
    | none => exact after
    | some last => exact isAfter_some.mpr (later last (List.mem_of_getLast? ends))

theorem mem_page_of_short (short : (page size cursor keys).length < size) (member : key ∈ keys)
    (after : isAfter cursor key = true) : key ∈ page size cursor keys := by
  have whole : page size cursor keys = upcoming cursor keys := by
    apply List.take_of_length_le
    rw [page, List.length_take] at short
    omega
  rw [whole]
  exact mem_upcoming.mpr ⟨member, after⟩

theorem not_isAfter_of_empty (positive : 0 < size) (empty : page size cursor keys = []) (member : key ∈ keys) :
    isAfter cursor key = false := by
  rw [← Bool.not_eq_true]
  intro after
  have inside := mem_page_of_short (by rw [empty]; exact positive) member after
  rw [empty] at inside
  cases inside

theorem not_isAfter_pageEnd (ascending : keys.Pairwise (· < ·)) (member : key ∈ keys) :
    isAfter (pageEnd cursor keys) key = false := by
  unfold pageEnd
  cases ends : keys.getLast? with
  | none =>
    rw [List.getLast?_eq_none_iff.mp ends] at member
    cases member
  | some last =>
    apply not_isAfter_some.mpr
    obtain ⟨init, rfl⟩ := List.getLast?_eq_some_iff.mp ends
    rcases List.mem_append.mp member with before | final
    · exact ((List.pairwise_append.mp ascending).2.2 key before last (List.mem_singleton_self last)).le
    · rw [List.mem_singleton.mp final]

theorem isAfter_of_pageEnd (after : isAfter (pageEnd cursor (page size cursor keys)) key = true) :
    isAfter cursor key = true := by
  unfold pageEnd at after
  cases ends : (page size cursor keys).getLast? with
  | none =>
    rw [ends] at after
    exact after
  | some last =>
    rw [ends] at after
    have earlier := (mem_page (List.mem_of_getLast? ends)).2
    cases cursor with
    | none => rfl
    | some start => exact isAfter_some.mpr ((isAfter_some.mp earlier).trans (isAfter_some.mp after))

/-- A key is on the page that moves the cursor past it, and an empty page finds it passed. -/
theorem page_passes [DecidableEq Key] (positive : 0 < size) (distinct : keys.Nodup) (member : key ∈ keys) :
    (if key ∈ page size cursor keys then 1 else 0) + (if isAfter cursor key then 0 else 1) =
      (if (page size cursor keys).isEmpty then 1 else 0) +
        (if isAfter (page size cursor keys).getLast? key then 0 else 1) := by
  cases ends : (page size cursor keys).getLast? with
  | none =>
    have empty := List.getLast?_eq_none_iff.mp ends
    simp [empty, not_isAfter_of_empty positive empty member]
  | some last =>
    have present : page size cursor keys ≠ [] := by
      intro empty
      rw [empty] at ends
      cases ends
    have whole : pageEnd cursor (page size cursor keys) = some last := by
      rw [pageEnd, ends]
      rfl
    simp only [List.isEmpty_iff, present, if_false]
    by_cases inside : key ∈ page size cursor keys
    · have ahead := (mem_page inside).2
      have behind := @not_isAfter_pageEnd _ _ cursor _ _ (ascending_page distinct) inside
      rw [whole] at behind
      simp [inside, ahead, behind]
    · -- not on the page: before its start or beyond its end
      have same : isAfter cursor key = isAfter (some last) key := by
        cases ahead : isAfter cursor key with
        | true =>
          rcases mem_page_or_isAfter distinct member ahead with on | beyond
          · exact absurd on inside
          · rw [← whole]
            exact beyond.symm
        | false =>
          cases beyond : isAfter (some last) key with
          | false => rfl
          | true =>
            rw [← whole] at beyond
            exact ahead.symm.trans (isAfter_of_pageEnd beyond)
      simp [inside, same]

end Pages

end LocalCrm.Library.Keyset
