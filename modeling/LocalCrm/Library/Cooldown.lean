import Mathlib.Data.Int.Basic
import Mathlib.Data.List.Basic

/-! Marks on a time line that keep a distance, with exemptions.

A mark may follow another within the window only if the pair is exempt.
-/

set_option autoImplicit false

namespace LocalCrm.Library.Cooldown

variable {Mark : Type} {time : Mark → Int} {exempt : Mark → Mark → Prop} {window : Int} {marks : List Mark}
  {mark : Mark}

def Ordered (time : Mark → Int) (marks : List Mark) : Prop :=
  marks.Pairwise fun first second => time first ≤ time second

def Spaced (time : Mark → Int) (exempt : Mark → Mark → Prop) (window : Int) (marks : List Mark) : Prop :=
  marks.Pairwise fun first second => time second < time first + window → exempt first second

theorem Ordered.concat (ordered : Ordered time marks) (latest : ∀ other ∈ marks, time other ≤ time mark) :
    Ordered time (marks ++ [mark]) := by
  apply List.pairwise_append.mpr ⟨ordered, List.pairwise_singleton _ _, ?_⟩
  intro other member last same
  rw [List.mem_singleton.mp same]
  exact latest other member

theorem before_last {relation : Mark → Mark → Prop} {last : Mark} (pairwise : marks.Pairwise relation)
    (final : marks.getLast? = some last) : ∀ other ∈ marks, other = last ∨ relation other last := by
  obtain ⟨earlier, rfl⟩ := List.getLast?_eq_some_iff.mp final
  intro other member
  rcases List.mem_append.mp member with old | same
  · exact .inr ((List.pairwise_append.mp pairwise).2.2 other old last List.mem_cons_self)
  · exact .inl (List.mem_singleton.mp same)

theorem Spaced.concat (spaced : Spaced time exempt window marks) (ordered : Ordered time marks)
    (latest : ∀ other ∈ marks, time other ≤ time mark)
    (chainless : ∀ first second, exempt first second → ¬ exempt second mark)
    (fits : ∀ last, marks.getLast? = some last → time last + window ≤ time mark ∨ exempt last mark) :
    Spaced time exempt window (marks ++ [mark]) := by
  apply List.pairwise_append.mpr ⟨spaced, List.pairwise_singleton _ _, ?_⟩
  intro other member new same
  rw [List.mem_singleton.mp same]
  intro near
  -- any mark near the new one is near the last one as well
  obtain ⟨last, final⟩ : ∃ last, marks.getLast? = some last :=
    ⟨_, List.getLast?_eq_some_getLast (List.ne_nil_of_mem member)⟩
  have early : time last ≤ time mark := latest last (List.mem_of_getLast? final)
  rcases fits last final with apart | exempted
  · rcases before_last ordered final other member with rfl | order
    · omega
    · omega
  · rcases before_last spaced final other member with rfl | close
    · exact exempted
    · exact absurd exempted (chainless other last (close (by omega)))

end LocalCrm.Library.Cooldown
