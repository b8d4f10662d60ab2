import Mathlib.Data.List.Basic
import Mathlib.Data.List.Nodup
import Mathlib.Data.List.Count
import Mathlib.Data.List.Perm.Subperm

/-! Tables of rows with a unique key. -/

set_option autoImplicit false

namespace LocalCrm.Library

/-- Rows in insertion order, no two with the same key. -/
structure Table {Key Row : Type} (key : Row → Key) where
  rows : List Row
  unique : (rows.map key).Nodup

namespace Table

variable {Key Row : Type} {key : Row → Key}

theorem ext {left right : Table key} (same : left.rows = right.rows) : left = right := by
  cases left
  cases right
  cases same
  rfl

def empty : Table key := ⟨[], List.nodup_nil⟩

instance : Inhabited (Table key) := ⟨empty⟩

def count (table : Table key) (guard : Row → Bool) : Nat := table.rows.countP guard

def update (table : Table key) (guard : Row → Bool) (set : Row → Row)
    (keeps : ∀ row, key (set row) = key row := by intro row; rfl) : Table key where
  rows := table.rows.map fun row => if guard row then set row else row
  unique := by
    have same : (table.rows.map fun row => if guard row then set row else row).map key =
        table.rows.map key := by
      rw [List.map_map]
      apply List.map_congr_left
      intro row _
      by_cases chosen : guard row <;> simp [chosen, keeps]
    rw [same]
    exact table.unique

/-- `DELETE FROM … WHERE …`. -/
def delete (table : Table key) (guard : Row → Bool) : Table key where
  rows := table.rows.filter fun row => !guard row
  unique := table.unique.sublist (List.Sublist.map key List.filter_sublist)

def image {Viewed : Type} {viewedKey : Viewed → Key} (table : Table key) (view : Row → Viewed)
    (same : ∀ row, viewedKey (view row) = key row) : Table viewedKey where
  rows := table.rows.map view
  unique := by
    have keys : (table.rows.map view).map viewedKey = table.rows.map key := by
      rw [List.map_map]
      exact List.map_congr_left fun row _ => same row
    rw [keys]
    exact table.unique

variable [DecidableEq Key]

def find? (table : Table key) (wanted : Key) : Option Row :=
  table.rows.find? fun row => key row = wanted

/-- `INSERT … ON CONFLICT DO NOTHING`. -/
def insert (table : Table key) (row : Row) : Table key :=
  if absent : key row ∈ table.rows.map key then table
  else ⟨table.rows ++ [row], by
    rw [List.map_append, List.map_singleton]
    exact List.nodup_append.mpr ⟨table.unique, List.nodup_singleton _, by
      intro first member second last same
      rw [List.mem_singleton] at last
      exact absent (by rw [← last, ← same]; exact member)⟩⟩

/-- `INSERT … ON CONFLICT DO UPDATE SET … WHERE …`. -/
def upsert (table : Table key) (row : Row) (guard : Row → Bool) (set : Row → Row)
    (keeps : ∀ row, key (set row) = key row := by intro row; rfl) : Table key :=
  if key row ∈ table.rows.map key then
    table.update (fun existing => decide (key existing = key row) && guard existing) set keeps
  else table.insert row

def put (table : Table key) (row : Row) : Table key :=
  (table.delete fun existing => key existing = key row).insert row

def erase (table : Table key) (gone : Key) : Table key :=
  table.delete fun existing => key existing = gone

section Lookup

variable {table : Table key} {row : Row} {wanted : Key}

theorem key_of_find? (found : table.find? wanted = some row) : key row = wanted := by
  simpa using List.find?_some found

theorem mem_of_find? (found : table.find? wanted = some row) : row ∈ table.rows :=
  List.mem_of_find?_eq_some found

theorem find?_of_mem (member : row ∈ table.rows) : table.find? (key row) = some row := by
  obtain ⟨rows, unique⟩ := table
  simp only [find?] at member ⊢
  induction rows with
  | nil => cases member
  | cons head tail ih =>
    rw [List.map_cons, List.nodup_cons] at unique
    rcases List.mem_cons.mp member with rfl | later
    · simp
    · have differs : key head ≠ key row := by
        intro same
        exact unique.1 (by rw [same]; exact List.mem_map_of_mem later)
      rw [List.find?_cons_of_neg (by simpa using differs)]
      exact ih unique.2 later

theorem eq_of_find? {other : Row} (found : table.find? wanted = some other) (member : row ∈ table.rows)
    (keyed : key row = wanted) : row = other := by
  have same := find?_of_mem member
  rw [keyed, found] at same
  exact (Option.some.inj same).symm

theorem find?_iff : table.find? wanted = some row ↔ row ∈ table.rows ∧ key row = wanted := by
  constructor
  · intro found
    exact ⟨mem_of_find? found, key_of_find? found⟩
  · rintro ⟨member, rfl⟩
    exact find?_of_mem member

theorem find?_none : table.find? wanted = none ↔ wanted ∉ table.rows.map key := by
  simp only [find?, List.find?_eq_none, List.mem_map, not_exists, not_and, decide_eq_true_eq]

theorem mem_keys : wanted ∈ table.rows.map key ↔ (table.find? wanted).isSome := by
  rw [← not_iff_not, ← find?_none]
  simp

theorem find?_update {guard : Row → Bool} {set : Row → Row} {keeps : ∀ row, key (set row) = key row} :
    (table.update guard set keeps).find? wanted =
      (table.find? wanted).map fun row => if guard row then set row else row := by
  have same : ∀ row, key (if guard row then set row else row) = key row := by
    intro row
    by_cases chosen : guard row <;> simp [chosen, keeps]
  simp only [find?, update, List.find?_map, Function.comp_def, same]

theorem find?_update_at {named : Key} {set : Row → Row} {keeps : ∀ row, key (set row) = key row} :
    (table.update (fun row => key row == named) set keeps).find? wanted =
      if wanted = named then (table.find? wanted).map set else table.find? wanted := by
  rw [find?_update]
  cases found : table.find? wanted with
  | none => rw [Option.map_none, Option.map_none, ite_self]
  | some row =>
    rw [Option.map_some, Option.map_some, key_of_find? found]
    by_cases same : wanted = named
    · rw [if_pos same, if_pos (beq_iff_eq.mpr same)]
    · rw [if_neg same, if_neg (by simpa using same)]

variable {guard : Row → Bool} {rows : List Row}

theorem find?_delete :
    (table.delete guard).find? wanted = (table.find? wanted).filter fun row => !guard row := by
  ext found
  rw [find?_iff, Option.filter_eq_some_iff, find?_iff]
  simp only [delete, List.mem_filter]
  exact and_right_comm

theorem find?_insert :
    (table.insert row).find? wanted =
      (table.find? wanted).or (if key row = wanted then some row else none) := by
  unfold insert
  split
  · next present =>
    by_cases same : key row = wanted
    · subst same
      obtain ⟨existing, found⟩ := Option.isSome_iff_exists.mp (mem_keys.mp present)
      simp [found]
    · simp [same]
  · simp only [find?, List.find?_append, List.find?_singleton, decide_eq_true_eq]

theorem find?_insert_fresh (fresh : table.find? (key row) = none) :
    (table.insert row).find? wanted = if wanted = key row then some row else table.find? wanted := by
  rw [find?_insert]
  by_cases same : wanted = key row
  · subst same
    simp [fresh]
  · simp [same, Ne.symm same]

theorem find?_erase {gone : Key} :
    (table.erase gone).find? wanted = if wanted = gone then none else table.find? wanted := by
  rw [erase, find?_delete]
  cases found : table.find? wanted with
  | none => simp
  | some row =>
    have same := key_of_find? found
    by_cases equal : wanted = gone <;> simp [Option.filter, same, equal]

theorem find?_put :
    (table.put row).find? wanted = if wanted = key row then some row else table.find? wanted := by
  rw [put, find?_insert, ← erase, find?_erase]
  by_cases same : wanted = key row
  · simp [same]
  · simp [same, Ne.symm same]

theorem find?_upsert {set : Row → Row} {keeps : ∀ row, key (set row) = key row} :
    (table.upsert row guard set keeps).find? wanted =
      if key row = wanted then
        some (match table.find? wanted with
          | some existing => if guard existing then set existing else existing
          | none => row)
      else table.find? wanted := by
  unfold upsert
  split
  · next present =>
    rw [find?_update]
    obtain ⟨existing, found⟩ := Option.isSome_iff_exists.mp (mem_keys.mp present)
    by_cases same : key row = wanted
    · subst same
      simp [found, key_of_find? found]
    · cases other : table.find? wanted with
      | none => simp [same]
      | some value =>
        have keyed := key_of_find? other
        have differs : ¬ key value = key row := fun equal => same (equal.symm.trans keyed)
        simp [same, differs]
  · next missing =>
    rw [find?_insert]
    by_cases same : key row = wanted
    · subst same
      simp [find?_none.mpr missing]
    · simp [same]

section Shown

variable {Value : Type} {shown : Row → Option Value}

theorem bind_find?_put : (fun wanted => ((table.put row).find? wanted).bind shown) =
    Function.update (fun wanted => (table.find? wanted).bind shown) (key row) (shown row) := by
  funext wanted
  rw [find?_put, Function.update_apply]
  split <;> rfl

theorem bind_find?_erase {gone : Key} : (fun wanted => ((table.erase gone).find? wanted).bind shown) =
    Function.update (fun wanted => (table.find? wanted).bind shown) gone none := by
  funext wanted
  rw [find?_erase, Function.update_apply]
  split <;> rfl

end Shown

theorem rel_update {relation : Row → Row → Prop} {set : Row → Row}
    {keeps : ∀ row, key (set row) = key row} (reflexive : ∀ row, relation row row)
    (related : ∀ row, guard row = true → relation row (set row)) (wanted : Key) :
    Option.Rel relation (table.find? wanted) ((table.update guard set keeps).find? wanted) := by
  rw [find?_update]
  cases table.find? wanted with
  | none => exact .none
  | some row =>
    have changed : relation row (if guard row then set row else row) := by
      split
      · next matched => exact related row matched
      · exact reflexive row
    exact .some changed

theorem exists_split (found : table.find? wanted = some row) :
    ∃ before after, table.rows = before ++ row :: after ∧
      ∀ (set : Row → Row) (keeps : ∀ row, key (set row) = key row),
        (table.update (fun existing => decide (key existing = wanted)) set keeps).rows =
          before ++ set row :: after := by
  obtain ⟨before, after, split⟩ := List.append_of_mem (mem_of_find? found)
  have keyed := key_of_find? found
  have unique := table.unique
  rw [split, List.map_append, List.map_cons, List.nodup_middle, List.nodup_cons] at unique
  have others : ∀ other ∈ before ++ after, key other ≠ wanted := by
    intro other member same
    apply unique.1
    rw [← List.map_append, keyed, ← same]
    exact List.mem_map_of_mem member
  refine ⟨before, after, split, fun set keeps => ?_⟩
  have untouched : ∀ rows : List Row, (∀ other ∈ rows, key other ≠ wanted) →
      (rows.map fun existing => if decide (key existing = wanted) then set existing else existing) = rows := by
    intro rows apart
    have same : ∀ other ∈ rows,
        (if decide (key other = wanted) then set other else other) = id other := by
      intro other member
      simp [apart other member]
    rw [List.map_congr_left same, List.map_id]
  simp only [update, split, List.map_append, List.map_cons, keyed, decide_true, if_true]
  rw [untouched before fun other member => others other (List.mem_append_left _ member),
    untouched after fun other member => others other (List.mem_append_right _ member)]

theorem rows_foldl_insert (distinct : (rows.map key).Nodup)
    (fresh : ∀ row ∈ rows, key row ∉ table.rows.map key) : (rows.foldl insert table).rows = table.rows ++ rows := by
  induction rows generalizing table with
  | nil => exact (List.append_nil _).symm
  | cons first rest ih =>
    have absent := fresh first List.mem_cons_self
    rw [List.map_cons, List.nodup_cons] at distinct
    have inserted : (table.insert first).rows = table.rows ++ [first] := by
      unfold insert
      rw [dif_neg absent]
    rw [List.foldl_cons, ih distinct.2, inserted, List.append_assoc, List.singleton_append]
    intro row member present
    rw [inserted, List.map_append, List.mem_append] at present
    rcases present with stored | last
    · exact fresh row (List.mem_cons_of_mem _ member) stored
    · rw [List.map_singleton, List.mem_singleton] at last
      exact distinct.1 (last ▸ List.mem_map_of_mem member)

omit [DecidableEq Key] in
theorem forall_update {property : Row → Prop} {set : Row → Row}
    (holds : ∀ row ∈ table.rows, property row)
    (kept : ∀ row ∈ table.rows, guard row = true → property row → property (set row))
    (keeps : ∀ row, key (set row) = key row := by intro row; rfl) :
    ∀ row ∈ (table.update guard set keeps).rows, property row := by
  intro row member
  obtain ⟨existing, stored, rfl⟩ := List.mem_map.mp member
  split
  · next matched => exact kept existing stored matched (holds existing stored)
  · exact holds existing stored

theorem mem_of_insert {other : Row} (member : other ∈ (table.insert row).rows) : other ∈ table.rows ∨ other = row := by
  unfold insert at member
  split at member
  · exact .inl member
  · rcases List.mem_append.mp member with stored | last
    · exact .inl stored
    · exact .inr (List.mem_singleton.mp last)

theorem mem_insert {other : Row} (stored : other ∈ table.rows) : other ∈ (table.insert row).rows := by
  unfold insert
  split
  · exact stored
  · exact List.mem_append_left _ stored

theorem forall_insert {property : Row → Prop} (holds : ∀ row ∈ table.rows, property row)
    (new : property row) : ∀ other ∈ (table.insert row).rows, property other := by
  intro other member
  rcases mem_of_insert member with stored | rfl
  · exact holds other stored
  · exact new

theorem find?_foldl_insert_old (found : table.find? wanted = some row) :
    (rows.foldl insert table).find? wanted = some row := by
  induction rows generalizing table with
  | nil => exact found
  | cons head tail ih =>
    apply ih
    rw [find?_insert, found]
    rfl

theorem mem_of_find?_foldl_insert (found : (rows.foldl insert table).find? wanted = some row) :
    table.find? wanted = some row ∨ row ∈ rows := by
  induction rows generalizing table with
  | nil => exact .inl found
  | cons head tail ih =>
    rcases ih found with before | later
    · rw [find?_insert] at before
      cases stored : table.find? wanted with
      | some existing =>
        rw [stored] at before
        exact .inl before
      | none =>
        rw [stored, Option.none_or] at before
        split at before
        · cases before
          exact .inr List.mem_cons_self
        · cases before
    · exact .inr (List.mem_cons_of_mem _ later)

theorem find?_foldl_insert
    (free : ∀ row ∈ rows, table.find? (key row) = none ∨ table.find? (key row) = some row)
    (distinct : ∀ row ∈ rows, ∀ other ∈ rows, key row = key other → row = other) (member : row ∈ rows) :
    (rows.foldl insert table).find? (key row) = some row := by
  induction rows generalizing table with
  | nil => cases member
  | cons head tail ih =>
    have inserted : ∀ row ∈ head :: tail, (table.insert head).find? (key row) = none ∨
        (table.insert head).find? (key row) = some row := by
      intro row inside
      rw [find?_insert]
      rcases free row inside with missing | there
      · rw [missing, Option.none_or]
        by_cases same : key head = key row
        · rw [if_pos same, distinct head List.mem_cons_self row inside same]
          exact .inr rfl
        · rw [if_neg same]
          exact .inl rfl
      · rw [there]
        exact .inr rfl
    rw [List.foldl_cons]
    rcases List.mem_cons.mp member with rfl | later
    · apply find?_foldl_insert_old
      rw [find?_insert]
      rcases free row List.mem_cons_self with missing | there
      · rw [missing, Option.none_or, if_pos rfl]
      · rw [there]
        rfl
    · exact ih (fun other inside => inserted other (List.mem_cons_of_mem _ inside))
        (fun first inside second also => distinct first (List.mem_cons_of_mem _ inside) second (List.mem_cons_of_mem _ also))
        later

end Lookup

section Counting

variable {table other : Table key} {row : Row} {wanted : Key} {counted : Row → Bool}

def keysWhere (table : Table key) (counted : Row → Bool) : List Key := (table.rows.filter counted).map key

omit [DecidableEq Key] in
theorem nodup_keysWhere (table : Table key) (counted : Row → Bool) : (table.keysWhere counted).Nodup :=
  table.unique.sublist (List.Sublist.map key List.filter_sublist)

omit [DecidableEq Key] in
theorem length_keysWhere : (table.keysWhere counted).length = table.count counted := by
  rw [keysWhere, List.length_map, count, List.countP_eq_length_filter]

theorem mem_keysWhere : wanted ∈ table.keysWhere counted ↔ (table.find? wanted).any counted := by
  simp only [keysWhere, List.mem_map, List.mem_filter, Option.any_eq_true]
  constructor
  · rintro ⟨row, ⟨stored, positive⟩, rfl⟩
    exact ⟨row, find?_of_mem stored, positive⟩
  · rintro ⟨row, found, positive⟩
    exact ⟨row, ⟨mem_of_find? found, positive⟩, key_of_find? found⟩

theorem count_split (table : Table key) (counted : Row → Bool) (changed : Key) :
    table.count counted = ((table.keysWhere counted).filter (· ≠ changed)).length +
      ((table.find? changed).any counted).toNat := by
  rw [← length_keysWhere, List.length_eq_length_filter_add (· ≠ changed)]
  have once := List.nodup_iff_count_le_one.mp (table.nodup_keysWhere counted) changed
  have present : changed ∈ table.keysWhere counted ↔ (table.find? changed).any counted := mem_keysWhere
  rw [← List.count_pos_iff] at present
  have same : (List.filter (fun wanted => !decide (wanted ≠ changed)) (table.keysWhere counted)).length =
      (table.keysWhere counted).count changed := by
    rw [List.count_eq_length_filter]
    congr 1
    apply List.filter_congr
    simp [beq_eq_decide]
  cases found : (table.find? changed).any counted with
  | true =>
    have positive := present.mpr found
    simp only [Bool.toNat_true]
    omega
  | false =>
    have absent : ¬ 0 < (table.keysWhere counted).count changed := fun positive => by
      simp [present.mp positive] at found
    simp only [Bool.toNat_false]
    omega

theorem count_change (table other : Table key) (counted : Row → Bool) (changed : Key)
    (agree : ∀ wanted, wanted ≠ changed →
      (other.find? wanted).any counted = (table.find? wanted).any counted) :
    other.count counted + ((table.find? changed).any counted).toNat =
      table.count counted + ((other.find? changed).any counted).toNat := by
  have rest : ((other.keysWhere counted).filter (· ≠ changed)).length =
      ((table.keysWhere counted).filter (· ≠ changed)).length := by
    refine List.Perm.length_eq ((List.perm_ext_iff_of_nodup ((nodup_keysWhere _ _).filter _)
      ((nodup_keysWhere _ _).filter _)).mpr ?_)
    intro wanted
    simp only [List.mem_filter, mem_keysWhere, decide_eq_true_eq]
    constructor
    · rintro ⟨present, differs⟩
      exact ⟨(agree wanted differs) ▸ present, differs⟩
    · rintro ⟨present, differs⟩
      exact ⟨(agree wanted differs).symm ▸ present, differs⟩
  rw [table.count_split counted changed, other.count_split counted changed, rest]
  omega

theorem count_le_count {other : Table key} {countedOther : Row → Bool}
    (agree : ∀ wanted, (other.find? wanted).any countedOther = true → (table.find? wanted).any counted = true) :
    other.count countedOther ≤ table.count counted := by
  rw [← length_keysWhere, ← length_keysWhere]
  apply (List.Nodup.subperm (nodup_keysWhere _ _) _).length_le
  intro wanted member
  exact mem_keysWhere.mpr (agree wanted (mem_keysWhere.mp member))

theorem count_le_count_succ {other : Table key} {countedOther : Row → Bool} {added : Key}
    (agree : ∀ wanted, wanted ≠ added → (other.find? wanted).any countedOther = true →
      (table.find? wanted).any counted = true) :
    other.count countedOther ≤ table.count counted + 1 := by
  rw [← length_keysWhere, ← length_keysWhere, ← List.length_cons (a := added)]
  apply (List.Nodup.subperm (nodup_keysWhere _ _) _).length_le
  intro wanted member
  by_cases same : wanted = added
  · rw [same]
    exact List.mem_cons_self
  · exact List.mem_cons_of_mem added (mem_keysWhere.mpr (agree wanted same (mem_keysWhere.mp member)))

theorem count_keyed (only : ∀ row, counted row = true ↔ key row = wanted) :
    table.count counted = if (table.find? wanted).isSome then 1 else 0 := by
  have same : table.count counted = (table.rows.map key).count wanted := by
    rw [count, List.count, List.countP_map]
    apply List.countP_congr
    intro row _
    rw [only, Function.comp_apply, beq_iff_eq]
  rw [same, table.unique.count]
  simp only [mem_keys]

omit [DecidableEq Key] in
theorem count_or_le (first second : Row → Bool) :
    (table.count fun row => first row || second row) ≤ table.count first + table.count second := by
  unfold count
  induction table.rows with
  | nil => exact Nat.zero_le _
  | cons row rest ih =>
    simp only [List.countP_cons]
    cases first row <;> cases second row <;> simp <;> omega

end Counting

end Table

end LocalCrm.Library
