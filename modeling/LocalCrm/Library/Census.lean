import Mathlib.Data.Finset.Card

/-! Counting the members of a finite group by the state each is in. -/

set_option autoImplicit false

namespace LocalCrm.Library

variable {Member State : Type}

def census (members : Finset Member) (state : Member → State) (counted : Member → State → Bool) : Nat :=
  (members.filter fun member => counted member (state member)).card

variable {members later : Finset Member} {state next : Member → State} {counted other : Member → State → Bool}

theorem census_le (implied : ∀ member ∈ members, counted member (state member) = true →
    other member (next member) = true) : census members state counted ≤ census members next other := by
  apply Finset.card_le_card
  intro member chosen
  obtain ⟨inside, positive⟩ := Finset.mem_filter.mp chosen
  exact Finset.mem_filter.mpr ⟨inside, implied member inside positive⟩

theorem census_congr (agree : ∀ member ∈ members, counted member (state member) = other member (next member)) :
    census members state counted = census members next other := by
  apply congrArg Finset.card
  exact Finset.filter_congr fun member inside => by rw [agree member inside]

theorem census_eq_zero : census members state counted = 0 ↔
    ∀ member ∈ members, counted member (state member) = false := by
  simp [census, Finset.filter_eq_empty_iff]

theorem census_add [DecidableEq Member] (disjoint : ∀ member ∈ members, counted member (state member) = true →
    other member (state member) = false) :
    census members state counted + census members state other =
      census members state fun member value => counted member value || other member value := by
  rw [census, census, ← Finset.card_union_of_disjoint]
  · apply congrArg Finset.card
    ext member
    simp only [Finset.mem_union, Finset.mem_filter, Bool.or_eq_true]
    exact and_or_left.symm
  · apply Finset.disjoint_filter.mpr
    intro member inside positive
    simp [disjoint member inside positive]

theorem census_grows (joined : members ⊆ later) : census members state counted ≤ census later state counted :=
  Finset.card_le_card (Finset.filter_subset_filter _ joined)

theorem census_joined (joined : members ⊆ later)
    (uncounted : ∀ member ∈ later, member ∉ members → counted member (state member) = false) :
    census later state counted = census members state counted := by
  apply congrArg Finset.card
  ext member
  simp only [Finset.mem_filter]
  constructor
  · rintro ⟨inside, positive⟩
    refine ⟨?_, positive⟩
    by_contra outside
    rw [uncounted member inside outside] at positive
    cases positive
  · rintro ⟨inside, positive⟩
    exact ⟨joined inside, positive⟩

variable [DecidableEq Member]

theorem census_split {changed : Member} (member : changed ∈ members) :
    census members state counted =
      census (members.erase changed) state counted + (counted changed (state changed)).toNat := by
  rw [census, census, ← Finset.insert_erase member, Finset.filter_insert, Finset.erase_insert_eq_erase,
    Finset.erase_idem]
  cases positive : counted changed (state changed) with
  | true =>
    rw [if_pos rfl, Finset.card_insert_of_notMem]
    · rfl
    · simp
  | false => simp

theorem census_change {changed : Member} (member : changed ∈ members)
    (agree : ∀ peer ∈ members, peer ≠ changed → other peer (next peer) = counted peer (state peer)) :
    census members next other + (counted changed (state changed)).toNat =
      census members state counted + (other changed (next changed)).toNat := by
  have rest : census (members.erase changed) next other = census (members.erase changed) state counted := by
    apply census_congr
    intro peer inside
    exact agree peer (Finset.mem_of_mem_erase inside) (Finset.ne_of_mem_erase inside)
  rw [census_split member, census_split member, rest]
  omega

end LocalCrm.Library
