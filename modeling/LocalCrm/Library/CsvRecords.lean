import Mathlib.Data.List.Basic

/-! Records of comma-separated fields. -/

set_option autoImplicit false

namespace LocalCrm.Library.CsvRecords

abbrev Field := List Char

inductive Place where
  | recordStart (afterReturn : Bool)
  | fieldStart
  | bare (field : Field)
  | quoted (field : Field)
  | closed (field : Field)
  deriving DecidableEq, Repr

/-- What one character completes. -/
inductive Completed where
  | nothing
  | field (field : Field)
  | record (last : Field)
  deriving DecidableEq, Repr

def endField (field : Field) (char : Char) : Option (Place × Completed) :=
  if char = ',' then some (.fieldStart, .field field)
  else if char = '\n' then some (.recordStart false, .record field)
  else if char = '\r' then some (.recordStart true, .record field)
  else none

def readBare (field : Field) (char : Char) : Option (Place × Completed) :=
  (endField field char).or (if char = '"' then none else some (.bare (field ++ [char]), .nothing))

def openField (char : Char) : Option (Place × Completed) :=
  if char = '"' then some (.quoted [], .nothing) else readBare [] char

def advance : Place → Char → Option (Place × Completed)
  | .recordStart afterReturn, char =>
    if afterReturn && char == '\n' then some (.recordStart false, .nothing) else openField char
  | .fieldStart, char => openField char
  | .bare field, char => readBare field char
  | .quoted field, char =>
    if char = '"' then some (.closed field, .nothing) else some (.quoted (field ++ [char]), .nothing)
  | .closed field, char => if char = '"' then some (.quoted (field ++ ['"']), .nothing) else endField field char

def finish (record : List Field) : Place → Option (List (List Field))
  | .recordStart _ => some []
  | .fieldStart => some [record ++ [[]]]
  | .bare field | .closed field => some [record ++ [field]]
  | .quoted _ => none

def read (place : Place) (record : List Field) : List Char → Option (List (List Field))
  | [] => finish record place
  | char :: rest => (advance place char).bind fun (next, completed) =>
    match completed with
    | .nothing => read next record rest
    | .field field => read next (record ++ [field]) rest
    | .record last => (read next [] rest).map ((record ++ [last]) :: ·)

def parse (text : List Char) : Option (List (List Field)) := read (.recordStart false) [] text

section Fields

variable {place next : Place} {record : List Field} {rest before field text : List Char} {char : Char}

theorem read_nothing (moved : advance place char = some (next, .nothing)) :
    read place record (char :: rest) = read next record rest := by
  rw [read, moved]
  rfl

theorem read_field (moved : advance place char = some (next, .field field)) :
    read place record (char :: rest) = read next (record ++ [field]) rest := by
  rw [read, moved]
  rfl

theorem read_record (moved : advance place char = some (next, .record field)) :
    read place record (char :: rest) = (read next [] rest).map ((record ++ [field]) :: ·) := by
  rw [read, moved]
  rfl

/-- A character that a bare field may have. -/
def isTextData (char : Char) : Bool := !(char == ',' || char == '\n' || char == '\r' || char == '"')

theorem readBare_of_isTextData (ordinary : isTextData char = true) :
    readBare before char = some (.bare (before ++ [char]), .nothing) := by
  simp only [isTextData, Bool.not_eq_true', Bool.or_eq_false_iff, beq_eq_false_iff_ne] at ordinary
  obtain ⟨⟨⟨comma, feed⟩, ret⟩, quote⟩ := ordinary
  rw [readBare, endField, if_neg comma, if_neg feed, if_neg ret, if_neg quote]
  rfl

theorem read_bare (ordinary : ∀ char ∈ field, isTextData char = true) :
    read (.bare before) record (field ++ rest) = read (.bare (before ++ field)) record rest := by
  induction field generalizing before with
  | nil => rw [List.nil_append, List.append_nil]
  | cons char field ih =>
    have moved : advance (.bare before) char = some (.bare (before ++ [char]), .nothing) :=
      readBare_of_isTextData (ordinary char List.mem_cons_self)
    rw [List.cons_append, read_nothing moved, ih fun other member => ordinary other (List.mem_cons_of_mem _ member),
      List.append_assoc, List.singleton_append]

def doubled (field : Field) : List Char := field.flatMap fun char => if char = '"' then ['"', '"'] else [char]

def quote (field : Field) : List Char := '"' :: (doubled field ++ ['"'])

theorem read_doubled :
    read (.quoted before) record (doubled field ++ '"' :: rest) = read (.closed (before ++ field)) record rest := by
  induction field generalizing before with
  | nil =>
    rw [List.append_nil]
    exact read_nothing rfl
  | cons char field ih =>
    rw [doubled, List.flatMap_cons, ← doubled]
    by_cases same : char = '"'
    · subst same
      rw [if_pos rfl, List.append_assoc, List.cons_append, read_nothing rfl, List.cons_append, read_nothing rfl,
        List.nil_append, ih, List.append_assoc, List.singleton_append]
    · have moved : advance (.quoted before) char = some (.quoted (before ++ [char]), .nothing) := if_neg same
      rw [if_neg same, List.append_assoc, List.singleton_append, read_nothing moved, ih, List.append_assoc,
        List.singleton_append]

inductive Fresh : Place → Prop where
  | recordStart : Fresh (.recordStart false)
  | fieldStart : Fresh .fieldStart

theorem advance_fresh (fresh : Fresh place) : advance place char = openField char := by
  cases fresh with
  | recordStart | fieldStart => rfl

/-- The text is read as the field, whatever follows it. -/
structure ReadsAs (text : List Char) (field : Field) : Prop where
  comma : ∀ place record rest, Fresh place →
    read place record (text ++ ',' :: rest) = read .fieldStart (record ++ [field]) rest
  feed : ∀ place record rest, Fresh place →
    read place record (text ++ '\n' :: rest) = (read (.recordStart false) [] rest).map ((record ++ [field]) :: ·)
  ending : ∀ place record, Fresh place → text ≠ [] ∨ place = .fieldStart →
    read place record text = some [record ++ [field]]

theorem read_fresh_bare (fresh : Fresh place) (ordinary : isTextData char = true) :
    read place record (char :: rest) = read (.bare [char]) record rest := by
  have unquoted : char ≠ '"' := by
    rintro rfl
    exact absurd ordinary (by decide)
  apply read_nothing
  rw [advance_fresh fresh, openField, if_neg unquoted, readBare_of_isTextData ordinary]
  rfl

theorem readsAs_bare (ordinary : ∀ char ∈ field, isTextData char = true) : ReadsAs field field := by
  cases field with
  | nil =>
    refine ⟨?_, ?_, ?_⟩
    · intro place record rest fresh
      exact read_field (advance_fresh fresh)
    · intro place record rest fresh
      exact read_record (advance_fresh fresh)
    · intro place record fresh something
      rcases something with empty | rfl
      · exact absurd rfl empty
      · rfl
  | cons char field =>
    have first := ordinary char List.mem_cons_self
    have others : ∀ char ∈ field, isTextData char = true :=
      fun other member => ordinary other (List.mem_cons_of_mem _ member)
    have enter : ∀ {place : Place} {record : List Field} {rest : List Char}, Fresh place →
        read place record (char :: field ++ rest) = read (.bare (char :: field)) record rest := by
      intro place record rest fresh
      rw [List.cons_append, read_fresh_bare fresh first, read_bare others]
      rfl
    refine ⟨?_, ?_, ?_⟩
    · intro place record rest fresh
      rw [enter fresh]
      exact read_field rfl
    · intro place record rest fresh
      rw [enter fresh]
      exact read_record rfl
    · intro place record fresh _
      have ended := @enter place record [] fresh
      rw [List.append_nil] at ended
      rw [ended]
      rfl

theorem readsAs_quote : ReadsAs (quote field) field := by
  have enter : ∀ {place : Place} {record : List Field} {rest : List Char}, Fresh place →
      read place record (quote field ++ rest) = read (.closed field) record rest := by
    intro place record rest fresh
    have opened : advance place '"' = some (.quoted [], .nothing) := advance_fresh fresh
    rw [quote, List.cons_append, read_nothing opened, List.append_assoc, List.singleton_append, read_doubled]
    rfl
  refine ⟨?_, ?_, ?_⟩
  · intro place record rest fresh
    rw [enter fresh]
    exact read_field rfl
  · intro place record rest fresh
    rw [enter fresh]
    exact read_record rfl
  · intro place record fresh _
    have ended := @enter place record [] fresh
    rw [List.append_nil] at ended
    rw [ended]
    rfl

theorem read_cut {after : List Char} (fresh : Fresh place) (ordinary : ∀ char ∈ field, isTextData char = true) :
    read place record (field ++ '\r' :: after) =
      (read (.recordStart true) [] after).map ((record ++ [field]) :: ·) := by
  cases field with
  | nil => exact read_record (advance_fresh fresh)
  | cons char field =>
    rw [List.cons_append, read_fresh_bare fresh (ordinary char List.mem_cons_self),
      read_bare fun other member => ordinary other (List.mem_cons_of_mem _ member)]
    exact read_record rfl

end Fields

section Documents

def line (texts : List (List Char)) : List Char := [','].intercalate texts

def document (lines : List (List Char)) : List Char := ['\n'].intercalate lines

/-- A way of writing cells: those it writes well are read back, and the others are cut short by a return. -/
structure Writing {Cell : Type} (write : Cell → List Char) (value : Cell → Field) (good : Cell → Prop) : Prop where
  reads : ∀ cell, good cell → ReadsAs (write cell) (value cell)
  cuts : ∀ cell, ¬ good cell → ∃ kept after, write cell = kept ++ '\r' :: after ∧
    (∀ char ∈ kept, isTextData char = true) ∧ kept ≠ value cell

variable {Cell : Type} {write : Cell → List Char} {value : Cell → Field} {good : Cell → Prop}
  {place : Place} {record : List Field} {rest : List Char} {cells : List Cell} {table : List (List Cell)}

theorem line_cons_cons (text next : List Char) (texts : List (List Char)) :
    line (text :: next :: texts) = text ++ ',' :: line (next :: texts) := by
  rw [line, List.intercalate_cons_cons, List.append_assoc, List.singleton_append, line]

theorem document_cons_cons (text next : List Char) (texts : List (List Char)) :
    document (text :: next :: texts) = text ++ '\n' :: document (next :: texts) := by
  rw [document, List.intercalate_cons_cons, List.append_assoc, List.singleton_append, document]

theorem line_eq_nil_iff {texts : List (List Char)} : line texts = [] ↔ texts = [] ∨ texts = [[]] := by
  cases texts with
  | nil => exact ⟨fun _ => .inl rfl, fun _ => rfl⟩
  | cons text rest =>
    cases rest with
    | nil => simp [line]
    | cons next rest => simp [line_cons_cons]

variable (writing : Writing write value good)

include writing

theorem read_line (fresh : Fresh place) (some_ : cells ≠ []) (well : ∀ cell ∈ cells, good cell) :
    read place record (line (cells.map write) ++ '\n' :: rest) =
      (read (.recordStart false) [] rest).map ((record ++ cells.map value) :: ·) := by
  induction cells generalizing place record with
  | nil => exact absurd rfl some_
  | cons cell others ih =>
    have reads := writing.reads cell (well cell List.mem_cons_self)
    cases others with
    | nil =>
      rw [List.map_singleton, line, List.intercalate_singleton]
      exact reads.feed place record rest fresh
    | cons next others =>
      rw [List.map_cons, List.map_cons, line_cons_cons, List.append_assoc, List.cons_append,
        reads.comma place record _ fresh, ← List.map_cons,
        ih .fieldStart (List.cons_ne_nil _ _) fun cell member => well cell (List.mem_cons_of_mem _ member),
        List.append_assoc, List.singleton_append, List.map_cons (l := next :: others)]

theorem read_last (fresh : Fresh place) (some_ : cells ≠ []) (well : ∀ cell ∈ cells, good cell)
    (seen : line (cells.map write) ≠ [] ∨ place = .fieldStart) :
    read place record (line (cells.map write)) = some [record ++ cells.map value] := by
  induction cells generalizing place record with
  | nil => exact absurd rfl some_
  | cons cell others ih =>
    have reads := writing.reads cell (well cell List.mem_cons_self)
    cases others with
    | nil =>
      rw [List.map_singleton, line, List.intercalate_singleton] at seen ⊢
      exact reads.ending place record fresh seen
    | cons next others =>
      rw [List.map_cons, List.map_cons, line_cons_cons, reads.comma place record _ fresh, ← List.map_cons,
        ih .fieldStart (List.cons_ne_nil _ _) (fun cell member => well cell (List.mem_cons_of_mem _ member)) (.inr rfl),
        List.append_assoc, List.singleton_append, List.map_cons (l := next :: others)]

theorem read_line_ne (fresh : Fresh place) (ill : ∃ cell ∈ cells, ¬ good cell) (more : List (List Field)) :
    read place record (line (cells.map write) ++ rest) ≠ some ((record ++ cells.map value) :: more) := by
  induction cells generalizing place record with
  | nil =>
    obtain ⟨cell, member, _⟩ := ill
    cases member
  | cons cell others ih =>
    by_cases well : good cell
    · obtain ⟨other, member, bad⟩ := ill
      have later : ∃ cell ∈ others, ¬ good cell := by
        rcases List.mem_cons.mp member with rfl | member
        · exact absurd well bad
        · exact ⟨other, member, bad⟩
      cases others with
      | nil =>
        obtain ⟨cell, member, _⟩ := later
        cases member
      | cons next others =>
        have same := @ih _ (record ++ [value cell]) .fieldStart later
        rw [List.append_assoc, List.singleton_append] at same
        rw [List.map_cons, List.map_cons, line_cons_cons, List.append_assoc, List.cons_append,
          (writing.reads cell well).comma place record _ fresh, ← List.map_cons, List.map_cons (l := next :: others)]
        exact same
    · -- what follows the return is read as other records
      obtain ⟨kept, after, written, ordinary, differs⟩ := writing.cuts cell well
      obtain ⟨tail, split⟩ : ∃ tail, line ((cell :: others).map write) ++ rest = kept ++ '\r' :: tail := by
        cases others with
        | nil => exact ⟨after ++ rest, by simp [line, written]⟩
        | cons next others => exact ⟨after ++ ',' :: line ((next :: others).map write) ++ rest, by
            simp [line_cons_cons, written]⟩
      rw [split, read_cut fresh ordinary]
      intro same
      obtain ⟨records, _, equal⟩ := Option.map_eq_some_iff.mp same
      have first := List.append_cancel_left (List.cons.inj equal).1
      exact differs (List.cons.inj first).1

theorem parse_document_iff (rows : table ≠ []) (filled : ∀ row ∈ table, row ≠ []) :
    parse (document (table.map fun row => line (row.map write))) = some (table.map fun row => row.map value) ↔
      (∀ row ∈ table, ∀ cell ∈ row, good cell) ∧
        ∀ row, table.getLast? = some row → line (row.map write) ≠ [] := by
  unfold parse
  induction table with
  | nil => exact absurd rfl rows
  | cons row others ih =>
    have fresh : Fresh (.recordStart false) := .recordStart
    have cells := filled row List.mem_cons_self
    cases others with
    | nil =>
      rw [List.map_singleton, List.map_singleton, document, List.intercalate_singleton, List.forall_mem_singleton]
      simp only [List.getLast?_singleton, Option.some.injEq, forall_eq']
      by_cases well : ∀ cell ∈ row, good cell
      · by_cases empty : line (row.map write) = []
        · rw [empty]
          simp [read, finish]
        · have whole := @read_last _ _ _ _ _ [] _ writing fresh cells well (.inl empty)
          rw [whole, List.nil_append]
          exact ⟨fun _ => ⟨well, empty⟩, fun _ => rfl⟩
      · have cut := @read_line_ne _ _ _ _ _ [] [] _ writing fresh (by simpa using well) []
        rw [List.append_nil, List.nil_append] at cut
        exact ⟨fun same => absurd same cut, fun both => absurd both.1 well⟩
    | cons next others =>
      have remaining := ih (List.cons_ne_nil _ _) fun row member => filled row (List.mem_cons_of_mem _ member)
      have lines : document ((row :: next :: others).map fun row => line (row.map write)) =
          line (row.map write) ++ '\n' :: document ((next :: others).map fun row => line (row.map write)) :=
        document_cons_cons _ _ _
      have values : ((row :: next :: others).map fun row => row.map value) =
          row.map value :: (next :: others).map fun row => row.map value := rfl
      rw [lines, values, List.forall_mem_cons, List.getLast?_cons_cons]
      by_cases well : ∀ cell ∈ row, good cell
      · rw [@read_line _ _ _ _ _ [] _ _ writing fresh cells well, List.nil_append]
        constructor
        · intro same
          obtain ⟨records, reads, equal⟩ := Option.map_eq_some_iff.mp same
          rw [(List.cons.inj equal).2] at reads
          obtain ⟨later, last⟩ := remaining.mp reads
          exact ⟨⟨well, later⟩, last⟩
        · rintro ⟨⟨_, later⟩, last⟩
          rw [remaining.mpr ⟨later, last⟩]
          rfl
      · have cut := @read_line_ne _ _ _ _ _ []
          ('\n' :: document ((next :: others).map fun row => line (row.map write))) _ writing fresh
          (by simpa using well)
        exact ⟨fun same => absurd same (cut _), fun both => absurd both.1.1 well⟩

end Documents

end LocalCrm.Library.CsvRecords
