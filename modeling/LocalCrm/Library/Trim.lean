import Mathlib.Data.List.DropRight

/-! Trimming a list at both ends. -/

set_option autoImplicit false

namespace LocalCrm.Library

variable {Item : Type}

def trim (blank : Item → Bool) (items : List Item) : List Item :=
  (items.dropWhile blank).rdropWhile blank

variable {blank : Item → Bool} {items : List Item}

theorem dropWhile_trim : (trim blank items).dropWhile blank = trim blank items := by
  unfold trim
  cases started : (items.dropWhile blank).rdropWhile blank with
  | nil => rfl
  | cons first rest =>
    obtain ⟨dropped, split⟩ := List.rdropWhile_prefix blank (items.dropWhile blank)
    rw [started] at split
    have visible : blank first = false := by
      -- the first item left is the first one that `dropWhile` kept
      have nonempty : items.dropWhile blank ≠ [] := by
        rw [← split]
        exact List.cons_ne_nil _ _
      have head := List.head_dropWhile_not blank nonempty
      simp only [← split, List.cons_append, List.head_cons] at head
      exact head
    exact List.dropWhile_cons_of_neg (by rw [visible]; decide)

@[simp] theorem trim_trim : trim blank (trim blank items) = trim blank items := by
  show ((trim blank items).dropWhile blank).rdropWhile blank = _
  rw [dropWhile_trim]
  exact List.rdropWhile_idempotent blank _

theorem trim_map {set : Item → Item} (same : ∀ item, blank (set item) = blank item) :
    trim blank (items.map set) = (trim blank items).map set := by
  have composed : blank ∘ set = blank := by
    funext item
    exact same item
  unfold trim List.rdropWhile
  rw [List.dropWhile_map, composed, ← List.map_reverse, List.dropWhile_map, composed, List.map_reverse]

end LocalCrm.Library
