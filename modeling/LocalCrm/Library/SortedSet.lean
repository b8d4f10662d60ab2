import Mathlib.Data.List.Sort

/-! Members with a score each, in the order of their scores. -/

set_option autoImplicit false

namespace LocalCrm.Library

structure SortedSet (Member Score : Type) [LinearOrder Score] where
  entries : List (Member × Score)
  distinct : (entries.map Prod.fst).Nodup
  sorted : entries.Pairwise fun earlier later => earlier.2 ≤ later.2

namespace SortedSet

variable {Member Score : Type} [LinearOrder Score]

def empty : SortedSet Member Score := ⟨[], List.nodup_nil, List.Pairwise.nil⟩

instance : Inhabited (SortedSet Member Score) := ⟨empty⟩

def card (set : SortedSet Member Score) : Nat := set.entries.length

def first? (set : SortedSet Member Score) : Option (Member × Score) := set.entries.head?

def keep (set : SortedSet Member Score) (kept : Member × Score → Bool) : SortedSet Member Score where
  entries := set.entries.filter kept
  distinct := set.distinct.sublist (List.filter_sublist.map Prod.fst)
  sorted := set.sorted.filter kept

def removeUpTo (set : SortedSet Member Score) (bound : Score) : SortedSet Member Score :=
  set.keep fun entry => decide (bound < entry.2)

variable [DecidableEq Member]

def remove (set : SortedSet Member Score) (member : Member) : SortedSet Member Score :=
  set.keep fun entry => entry.1 != member

/-- A member that is there already gets the new score. -/
def add (set : SortedSet Member Score) (member : Member) (score : Score) : SortedSet Member Score where
  entries := (set.remove member).entries.orderedInsert (fun earlier later => earlier.2 ≤ later.2) (member, score)
  distinct := by
    rw [((List.perm_orderedInsert _ _ _).map Prod.fst).nodup_iff, List.map_cons, List.nodup_cons]
    refine ⟨?_, (set.remove member).distinct⟩
    rintro present
    obtain ⟨entry, kept, same⟩ := List.mem_map.mp present
    have other := (List.mem_filter.mp kept).2
    rw [same, bne_self_eq_false] at other
    cases other
  sorted := by
    have total : Std.Total fun earlier later : Member × Score => earlier.2 ≤ later.2 :=
      ⟨fun first second => le_total first.2 second.2⟩
    have transitive : IsTrans (Member × Score) fun earlier later => earlier.2 ≤ later.2 :=
      ⟨fun _ _ _ first second => le_trans first second⟩
    exact (set.remove member).sorted.orderedInsert (member, score) _

section Members

variable {set : SortedSet Member Score} {entry : Member × Score} {member : Member} {score bound : Score}

omit [DecidableEq Member] in
@[simp] theorem entries_empty : (empty : SortedSet Member Score).entries = [] := rfl

omit [DecidableEq Member] in
@[simp] theorem mem_removeUpTo : entry ∈ (set.removeUpTo bound).entries ↔ entry ∈ set.entries ∧ bound < entry.2 := by
  rw [removeUpTo, keep, List.mem_filter, decide_eq_true_eq]

@[simp] theorem mem_remove : entry ∈ (set.remove member).entries ↔ entry ∈ set.entries ∧ entry.1 ≠ member := by
  rw [remove, keep, List.mem_filter, bne_iff_ne]

@[simp] theorem mem_add : entry ∈ (set.add member score).entries ↔
    entry = (member, score) ∨ entry ∈ set.entries ∧ entry.1 ≠ member := by
  rw [add, List.mem_orderedInsert, mem_remove]

theorem card_add (absent : member ∉ set.entries.map Prod.fst) : (set.add member score).card = set.card + 1 := by
  have whole : (set.remove member).entries = set.entries := by
    apply List.filter_eq_self.mpr
    intro entry present
    rw [bne_iff_ne]
    rintro rfl
    exact absent (List.mem_map_of_mem present)
  rw [card, add, List.orderedInsert_length, whole, card]

omit [DecidableEq Member] in
theorem card_keep_le {kept : Member × Score → Bool} : (set.keep kept).card ≤ set.card := List.length_filter_le _ _

omit [DecidableEq Member] in

omit [DecidableEq Member] in
theorem mem_of_first? (first : set.first? = some entry) : entry ∈ set.entries := List.mem_of_head? first

omit [DecidableEq Member] in
theorem nodup_entries : set.entries.Nodup := set.distinct.of_map Prod.fst

end Members

end SortedSet

end LocalCrm.Library
