import Mathlib.Data.List.Basic

/-! Rows admitted one after another when no earlier row took their key.

A row without a key is always admitted and takes nothing.
-/

set_option autoImplicit false

namespace LocalCrm.Library

variable {Row Key : Type} [DecidableEq Key]

def winners (key : Row → Option Key) : List Key → List Row → List Row
  | _, [] => []
  | taken, row :: rest =>
    match key row with
    | none => row :: winners key taken rest
    | some wanted => if wanted ∈ taken then winners key taken rest else row :: winners key (taken ++ [wanted]) rest

section Admission

variable {key : Row → Option Key} {taken : List Key} {row : Row} {rows : List Row}

theorem winners_keyless (keyless : key row = none) :
    winners key taken (row :: rows) = row :: winners key taken rows := by
  rw [winners, keyless]

theorem winners_taken {wanted : Key} (keyed : key row = some wanted) (present : wanted ∈ taken) :
    winners key taken (row :: rows) = winners key taken rows := by
  rw [winners, keyed]
  exact if_pos present

theorem winners_fresh {wanted : Key} (keyed : key row = some wanted) (absent : wanted ∉ taken) :
    winners key taken (row :: rows) = row :: winners key (taken ++ [wanted]) rows := by
  rw [winners, keyed]
  exact if_neg absent

theorem winners_append (first second : List Row) :
    winners key taken (first ++ second) =
      winners key taken first ++ winners key (taken ++ (winners key taken first).filterMap key) second := by
  induction first generalizing taken with
  | nil => simp [winners]
  | cons row rest ih =>
    cases keyed : key row with
    | none => simp [winners_keyless keyed, ih, keyed]
    | some wanted =>
      by_cases present : wanted ∈ taken
      · simp [winners_taken keyed present, ih]
      · simp [winners_fresh keyed present, ih, keyed]

theorem winners_eq_nil_iff :
    winners key taken rows = [] ↔ ∀ row ∈ rows, ∃ wanted, key row = some wanted ∧ wanted ∈ taken := by
  induction rows with
  | nil => simp [winners]
  | cons row rest ih =>
    rw [List.forall_mem_cons]
    cases keyed : key row with
    | none => simp [winners_keyless keyed]
    | some wanted =>
      by_cases present : wanted ∈ taken
      · simp [winners_taken keyed present, ih, present]
      · simp [winners_fresh keyed present, present]

theorem filter_winners (wanted : Key) :
    (winners key taken rows).filter (fun row => key row = some wanted) =
      if wanted ∈ taken then [] else (rows.find? fun row => key row = some wanted).toList := by
  induction rows generalizing taken with
  | nil => simp [winners]
  | cons row rest ih =>
    cases keyed : key row with
    | none => simp [winners_keyless keyed, ih, keyed]
    | some other =>
      by_cases present : other ∈ taken
      · rw [winners_taken keyed present, ih]
        by_cases same : other = wanted
        · simp [← same, present]
        · simp [keyed, same]
      · rw [winners_fresh keyed present, List.filter_cons, ih]
        by_cases same : other = wanted
        · subst same
          simp [keyed, present]
        · simp [keyed, same, Ne.symm same]

theorem mem_winners {wanted : Key} (keyed : key row = some wanted) :
    row ∈ winners key taken rows ↔
      wanted ∉ taken ∧ (rows.find? fun row => key row = some wanted) = some row := by
  have listed : row ∈ winners key taken rows ↔
      row ∈ (winners key taken rows).filter fun row => key row = some wanted := by
    simp [keyed]
  rw [listed, filter_winners]
  by_cases present : wanted ∈ taken <;> simp [present]

theorem winners_sublist : (winners key taken rows).Sublist rows := by
  induction rows generalizing taken with
  | nil => exact List.Sublist.slnil
  | cons row rest ih =>
    cases keyed : key row with
    | none =>
      rw [winners_keyless keyed]
      exact ih.cons_cons row
    | some wanted =>
      by_cases present : wanted ∈ taken
      · rw [winners_taken keyed present]
        exact ih.cons row
      · rw [winners_fresh keyed present]
        exact ih.cons_cons row

theorem key_taken {wanted : Key} (asked : row ∈ rows) (keyed : key row = some wanted) :
    wanted ∈ taken ++ (winners key taken rows).filterMap key := by
  by_cases present : wanted ∈ taken
  · exact List.mem_append_left _ present
  · have found : (rows.find? fun row => key row = some wanted).isSome = true := by
      rw [List.find?_isSome]
      exact ⟨row, asked, decide_eq_true keyed⟩
    obtain ⟨first, wins⟩ := Option.isSome_iff_exists.mp found
    have named : key first = some wanted := by simpa using List.find?_some wins
    have member : first ∈ winners key taken rows := (mem_winners named).mpr ⟨present, wins⟩
    exact List.mem_append_right _ (List.mem_filterMap.mpr ⟨first, member, named⟩)

theorem mem_taken_iff {wanted : Key} : wanted ∈ taken ++ (winners key taken rows).filterMap key ↔
    wanted ∈ taken ∨ ∃ row ∈ rows, key row = some wanted := by
  constructor
  · intro member
    rw [List.mem_append, List.mem_filterMap] at member
    rcases member with early | ⟨row, admitted, keyed⟩
    · exact Or.inl early
    · exact Or.inr ⟨row, winners_sublist.subset admitted, keyed⟩
  · intro asked
    rcases asked with early | ⟨row, asked, keyed⟩
    · exact List.mem_append_left _ early
    · exact key_taken asked keyed

theorem winners_congr {other : List Key}
    (agree : ∀ row ∈ rows, ∀ wanted, key row = some wanted → (wanted ∈ taken ↔ wanted ∈ other)) :
    winners key taken rows = winners key other rows := by
  induction rows generalizing taken other with
  | nil => rfl
  | cons row rest ih =>
    rw [List.forall_mem_cons] at agree
    cases keyed : key row with
    | none => rw [winners_keyless keyed, winners_keyless keyed, ih agree.2]
    | some wanted =>
      by_cases present : wanted ∈ taken
      · rw [winners_taken keyed present, winners_taken keyed ((agree.1 wanted keyed).mp present), ih agree.2]
      · have absent : wanted ∉ other := fun member => present ((agree.1 wanted keyed).mpr member)
        rw [winners_fresh keyed present, winners_fresh keyed absent, ih]
        intro later member asked named
        rw [List.mem_append, List.mem_append, agree.2 later member asked named]

theorem winners_extend_iff {wanted : Key} :
    winners key (taken ++ [wanted]) rows = winners key taken rows ↔
      wanted ∈ taken ∨ ∀ row ∈ rows, key row ≠ some wanted := by
  constructor
  · intro same
    by_contra neither
    simp only [not_or, not_forall, not_not] at neither
    obtain ⟨free, row, asked, keyed⟩ := neither
    have taken_after : wanted ∈ taken ++ (winners key taken rows).filterMap key := key_taken asked keyed
    rw [← same, List.mem_append, or_iff_right free, List.mem_filterMap] at taken_after
    obtain ⟨winner, admitted, named⟩ := taken_after
    exact ((mem_winners named).mp admitted).1 (List.mem_append_right _ (List.mem_singleton_self _))
  · intro spared
    apply winners_congr
    intro row asked named keyed
    rw [List.mem_append, List.mem_singleton]
    constructor
    · intro member
      rcases member with early | rfl
      · exact early
      · exact spared.resolve_right fun unasked => unasked row asked keyed
    · exact Or.inl

theorem winners_map {Other : Type} (image : Other → Row) (others : List Other) :
    winners key taken (others.map image) = (winners (fun other => key (image other)) taken others).map image := by
  let asked := fun other => key (image other)
  induction others generalizing taken with
  | nil => rfl
  | cons first rest ih =>
    rw [List.map_cons]
    cases keyed : key (image first) with
    | none =>
      have admitted := @winners_keyless Other Key _ asked taken first rest keyed
      rw [winners_keyless keyed, admitted, ih, List.map_cons]
    | some wanted =>
      by_cases present : wanted ∈ taken
      · have passed := @winners_taken Other Key _ asked taken first rest wanted keyed present
        rw [winners_taken keyed present, passed, ih]
      · have admitted := @winners_fresh Other Key _ asked taken first rest wanted keyed present
        rw [winners_fresh keyed present, admitted, ih, List.map_cons]

theorem keyless_of_taken (all : ∀ row ∈ rows, ∀ wanted, key row = some wanted → wanted ∈ taken) :
    ∀ row ∈ winners key taken rows, key row = none := by
  intro row member
  cases keyed : key row with
  | none => rfl
  | some wanted =>
    have free := ((mem_winners keyed).mp member).1
    exact absurd (all row (winners_sublist.subset member) wanted keyed) free

theorem winners_distinct (distinct : (rows.filterMap key).Nodup) :
    winners key taken rows = rows.filter fun row => (key row).all (· ∉ taken) := by
  induction rows generalizing taken with
  | nil => rfl
  | cons row rest ih =>
    cases keyed : key row with
    | none =>
      rw [List.filterMap_cons_none keyed] at distinct
      rw [winners_keyless keyed, ih distinct, List.filter_cons_of_pos (by simp [keyed])]
    | some wanted =>
      rw [List.filterMap_cons_some keyed, List.nodup_cons] at distinct
      obtain ⟨alone, others⟩ := distinct
      by_cases present : wanted ∈ taken
      · rw [winners_taken keyed present, ih others, List.filter_cons_of_neg (by simp [keyed, present])]
      · rw [winners_fresh keyed present, ih others, List.filter_cons_of_pos (by simp [keyed, present])]
        congr 1
        apply List.filter_congr
        intro other member
        cases asked : key other with
        | none => rfl
        | some another =>
          have differs : another ≠ wanted := by
            rintro rfl
            exact alone (List.mem_filterMap.mpr ⟨other, member, asked⟩)
          simp [differs]

theorem countP_keyless_winners :
    (winners key taken rows).countP (fun row => (key row).isNone) = rows.countP fun row => (key row).isNone := by
  induction rows generalizing taken with
  | nil => rfl
  | cons row rest ih =>
    cases keyed : key row with
    | none => simp [winners_keyless keyed, ih, keyed]
    | some wanted =>
      by_cases present : wanted ∈ taken
      · simp [winners_taken keyed present, ih, keyed]
      · simp [winners_fresh keyed present, ih, keyed]

end Admission

end LocalCrm.Library
