import LocalCrm.Imports.Identities

/-! Rows that are stored one after the other, each on the table that the earlier ones leave. -/

set_option autoImplicit false

namespace LocalCrm.Imports

open Library Contacts Delivery

/-- A row that the dry-run lets through, with what the dry-run and the job read of it. -/
structure JobRow where
  rowNumber : Nat
  previewed : UpsertContactIdentityInput
  reading : Except String UpsertContactIdentityInput

def JobRow.input (row : JobRow) : UpsertContactIdentityInput := row.reading.toOption.getD {}

section Storing

variable (site : Site) (idOf : Nat → ContactId) (policy : DuplicatePolicy)

def storeRow (row : JobRow) (db : Database) : RowStatus × Database :=
  match row.reading with
  | .error _ => (.error, db)
  | .ok input =>
    match storeContact site db (idOf row.rowNumber) policy input with
    | .ok outcome => outcome
    | .error _ => (.error, db)

def storeRows : Database → List JobRow → List RowStatus
  | _, [] => []
  | db, row :: rest => (storeRow site idOf policy row db).1 :: storeRows (storeRow site idOf policy row db).2 rest

variable (start : Table Contact.id)

def announced (row : JobRow) : RowStatus := expected site.workspaceId start policy row.previewed

/-- The database takes what the row would write, as its table then is. -/
def Takes (db : Database) (row : JobRow) : Prop :=
  (standing site.workspaceId db.contacts row.input).elim
    (Accepts site.storage db.contacts (createdContact site db (idOf row.rowNumber) row.input) row.input) fun existing =>
      policy = .update → Accepts site.storage db.contacts (updatedContact db.contacts existing row.input) row.input

/-- The job reads the row, finds its identity on file if the dry-run did and not otherwise, and can write it. -/
structure RowUndisturbed (file : OnFile) (db : Database) (row : JobRow) : Prop where
  read : row.reading.isOk = true
  found : file.knows row.input = (standing site.workspaceId start row.previewed).isSome
  taken : Takes site idOf policy db row

/-- Each row in its turn, with what the earlier ones have brought and freed on file. -/
def UndisturbedFrom : OnFile → Database → List JobRow → Prop
  | _, _, [] => True
  | file, db, row :: rest =>
    RowUndisturbed site idOf policy start file db row ∧
      UndisturbedFrom (file.after site.workspaceId db.contacts policy row.input) (storeRow site idOf policy row db).2
        rest

end Storing

section Decisions

variable {site : Site} {idOf : Nat → ContactId} {policy : DuplicatePolicy} {start : Table Contact.id}

instance (contacts : Table Contact.id) (contact : Contact) (input : UpsertContactIdentityInput) :
    Decidable (Accepts site.storage contacts contact input) :=
  decidable_of_iff ((uniqueViolation contacts contact).isNone = true ∧
      (contact.externalId.all site.storage.indexable = true ∧ contact.email.all site.storage.indexable = true) ∧
        keysFit site.storage input = true)
    ⟨fun all => ⟨Option.isNone_iff_eq_none.mp all.1, all.2.1, all.2.2⟩,
      fun accepts => ⟨Option.isNone_iff_eq_none.mpr accepts.free, accepts.fits, accepts.keys⟩⟩

instance (db : Database) (row : JobRow) : Decidable (Takes site idOf policy db row) :=
  match found : standing site.workspaceId db.contacts row.input with
  | none => decidable_of_iff
      (Accepts site.storage db.contacts (createdContact site db (idOf row.rowNumber) row.input) row.input)
      (by rw [Takes, found]; rfl)
  | some existing => decidable_of_iff
      (policy = .update → Accepts site.storage db.contacts (updatedContact db.contacts existing row.input) row.input)
      (by rw [Takes, found]; rfl)

instance (file : OnFile) (db : Database) (row : JobRow) :
    Decidable (RowUndisturbed site idOf policy start file db row) :=
  decidable_of_iff (row.reading.isOk = true ∧
      file.knows row.input = (standing site.workspaceId start row.previewed).isSome ∧ Takes site idOf policy db row)
    ⟨fun all => ⟨all.1, all.2.1, all.2.2⟩, fun row => ⟨row.read, row.found, row.taken⟩⟩

instance decidableUndisturbedFrom : ∀ (rows : List JobRow) (file : OnFile) (db : Database),
    Decidable (UndisturbedFrom site idOf policy start file db rows)
  | [], _, _ => isTrue trivial
  | row :: rest, file, db =>
    have := decidableUndisturbedFrom rest (file.after site.workspaceId db.contacts policy row.input)
      (storeRow site idOf policy row db).2
    inferInstanceAs (Decidable (_ ∧ _))

end Decisions

theorem NewIds.fresh {start now : Table Contact.id} (newIds : NewIds start) {past : List Nat} {rowNumber : Nat}
    (numbered : ∀ contact ∈ now.rows,
      (start.find? contact.id).isSome ∨ ∃ earlier ∈ past, contact.id = newIds.idOf earlier)
    (unused : rowNumber ∉ past) : now.find? (newIds.idOf rowNumber) = none := by
  cases found : now.find? (newIds.idOf rowNumber) with
  | none => rfl
  | some contact =>
    have keyed : contact.id = newIds.idOf rowNumber := Table.key_of_find? found
    rcases numbered contact (Table.mem_of_find? found) with old | ⟨earlier, before, named⟩
    · rw [keyed, newIds.absent] at old
      cases old
    · rw [newIds.injective (named.symm.trans keyed)] at before
      exact absurd before unused

/-- The table after the rows so far: its constraints hold, its ids are known, and its identities are on file. -/
structure Stands (site : Site) {start : Table Contact.id} (newIds : NewIds start) (past : List Nat) (file : OnFile)
    (now : Table Contact.id) : Prop where
  distinct : Distinct now
  numbered : ∀ contact ∈ now.rows,
    (start.find? contact.id).isSome ∨ ∃ earlier ∈ past, contact.id = newIds.idOf earlier
  files : Files site.workspaceId now file

section Turns

variable {site : Site} {policy : DuplicatePolicy} {start : Table Contact.id} {newIds : NewIds start}
  {past : List Nat} {file : OnFile} {db : Database} {row : JobRow} {rows : List JobRow}

/-- What the database takes is stored as the table then has it; a matched contact is rewritten, or skipped. -/
theorem storeRow_taken (fresh : db.contacts.find? (newIds.idOf row.rowNumber) = none) (read : row.reading.isOk = true)
    (taken : Takes site newIds.idOf policy db row) :
    (storeRow site newIds.idOf policy row db).1 = expected site.workspaceId db.contacts policy row.input ∧
      ((standing site.workspaceId db.contacts row.input = none ∧
          Accepts site.storage db.contacts (createdContact site db (newIds.idOf row.rowNumber) row.input) row.input ∧
          (storeRow site newIds.idOf policy row db).2 = { db with
            contacts := db.contacts.insert (createdContact site db (newIds.idOf row.rowNumber) row.input) }) ∨
        ∃ existing, standing site.workspaceId db.contacts row.input = some existing ∧
          (policy = .skip ∧ (storeRow site newIds.idOf policy row db).2 = db ∨
            policy = .update ∧
              Accepts site.storage db.contacts (updatedContact db.contacts existing row.input) row.input ∧
              (storeRow site newIds.idOf policy row db).2 =
                writeContact db existing (upsertedContact db.contacts existing row.input) "csv_or_api_upsert")) := by
  have stored : ∀ outcome, storeContact site db (newIds.idOf row.rowNumber) policy row.input = .ok outcome →
      storeRow site newIds.idOf policy row db = outcome := by
    intro outcome done
    rw [storeRow]
    cases reading : row.reading with
    | error error =>
      rw [reading] at read
      cases read
    | ok input =>
      have named : row.input = input := by
        rw [JobRow.input, reading]
        rfl
      rw [named] at done
      simp only [done]
  cases found : standing site.workspaceId db.contacts row.input with
  | none =>
    rw [Takes, found] at taken
    rw [stored _ ((storeContact_unmatched found fresh).mpr ⟨taken, rfl, rfl⟩), expected, found]
    exact ⟨rfl, .inl ⟨rfl, taken, rfl⟩⟩
  | some existing =>
    rw [Takes, found] at taken
    cases policy with
    | skip =>
      rw [stored _ (storeContact_skipped found), expected, found]
      exact ⟨rfl, .inr ⟨existing, rfl, .inl ⟨rfl, rfl⟩⟩⟩
    | update =>
      rw [stored _ ((storeContact_matched found).mpr ⟨taken rfl, rfl, rfl⟩), expected, found]
      exact ⟨rfl, .inr ⟨existing, rfl, .inr ⟨rfl, taken rfl, rfl⟩⟩⟩

theorem storeRow_refused (fresh : db.contacts.find? (newIds.idOf row.rowNumber) = none)
    (refused : ¬ (row.reading.isOk = true ∧ Takes site newIds.idOf policy db row)) :
    storeRow site newIds.idOf policy row db = (.error, db) := by
  rw [storeRow]
  cases reading : row.reading with
  | error error => rfl
  | ok input =>
    have named : row.input = input := by
      rw [JobRow.input, reading]
      rfl
    have untaken : ¬ Takes site newIds.idOf policy db row := fun taken => refused ⟨by rw [reading]; rfl, taken⟩
    rw [Takes, named] at untaken
    simp only
    cases stored : storeContact site db (newIds.idOf row.rowNumber) policy input with
    | error refusal => rfl
    | ok outcome =>
      exfalso
      apply untaken
      cases found : standing site.workspaceId db.contacts input with
      | none => exact ((storeContact_unmatched found fresh).mp stored).1
      | some existing =>
        rintro rfl
        exact ((storeContact_matched found).mp stored).1

theorem Stands.next (stands : Stands site newIds past file db.contacts) (unused : row.rowNumber ∉ past)
    (undisturbed : RowUndisturbed site newIds.idOf policy start file db row) :
    Stands site newIds (row.rowNumber :: past) (file.after site.workspaceId db.contacts policy row.input)
      (storeRow site newIds.idOf policy row db).2.contacts := by
  have fresh := newIds.fresh stands.numbered unused
  have passed : ∀ contact ∈ db.contacts.rows,
      (start.find? contact.id).isSome ∨ ∃ earlier ∈ row.rowNumber :: past, contact.id = newIds.idOf earlier := by
    intro contact member
    apply (stands.numbered contact member).imp_right
    rintro ⟨earlier, before, named⟩
    exact ⟨earlier, List.mem_cons_of_mem _ before, named⟩
  obtain ⟨_, ⟨unmatched, accepts, after⟩ | ⟨existing, matched, ⟨rfl, after⟩ | ⟨rfl, accepts, after⟩⟩⟩ :=
    storeRow_taken fresh undisturbed.read undisturbed.taken
  · rw [after]
    have writes : Writes db.contacts _ (createdContact site db (newIds.idOf row.rowNumber) row.input) :=
      writes_insert fresh
    refine ⟨stands.distinct.write writes accepts.free, ?_,
      stands.files.created writes unmatched fresh ⟨rfl, rfl⟩ rfl rfl⟩
    intro contact member
    rcases (writes contact).mp member with rfl | ⟨old, _⟩
    · exact .inr ⟨row.rowNumber, List.mem_cons_self, rfl⟩
    · exact passed contact old
  · rw [after]
    exact ⟨stands.distinct, passed, stands.files.skipped matched⟩
  · rw [after]
    have writes : Writes db.contacts
        (writeContact db existing (upsertedContact db.contacts existing row.input) "csv_or_api_upsert").contacts
        (updatedContact db.contacts existing row.input) := writes_writeContact (stored_of_matchIdentity matched).1
    refine ⟨stands.distinct.write writes accepts.free, ?_,
      stands.files.updated stands.distinct matched writes⟩
    intro contact member
    rcases (writes contact).mp member with rfl | ⟨old, _⟩
    · exact passed existing (Table.mem_of_find? (stored_of_matchIdentity matched).1)
    · exact passed contact old

end Turns

section Skip

variable {site : Site} {start : Table Contact.id} {newIds : NewIds start} {past : List Nat} {db : Database}
  {row : JobRow} {rows : List JobRow}

/-- Under the skip policy contacts are only added, whatever the rows are. -/
structure Grown (newIds : NewIds start) (past : List Nat) (now : Table Contact.id) : Prop where
  kept : ∀ contact ∈ start.rows, contact ∈ now.rows
  numbered : ∀ contact ∈ now.rows,
    (start.find? contact.id).isSome ∨ ∃ earlier ∈ past, contact.id = newIds.idOf earlier

theorem standing_of_kept {first : Contact} {input : UpsertContactIdentityInput}
    (kept : ∀ contact ∈ start.rows, contact ∈ db.contacts.rows)
    (matched : standing site.workspaceId start input = some first) :
    standing site.workspaceId db.contacts input ≠ none := by
  intro unmatched
  obtain ⟨noExternalId, noEmail⟩ := matchIdentity_eq_none.mp unmatched
  rcases Option.or_eq_some_iff.mp matched with found | ⟨_, found⟩
  · obtain ⟨value, nonempty, live, holds⟩ := live_of_findBy found
    exact absurd holds (findBy_eq_none.mp noExternalId value nonempty first ⟨kept first live.1, live.2⟩)
  · obtain ⟨value, nonempty, live, holds⟩ := live_of_findBy found
    exact absurd holds (findBy_eq_none.mp noEmail value nonempty first ⟨kept first live.1, live.2⟩)

/-- A row may be stored as new only where it was announced as new. -/
def NoOther (site : Site) (start : Table Contact.id) (status : RowStatus) (row : JobRow) : Prop :=
  status = .error ∨ status = .skipped ∨ status = .created ∧ announced site .skip start row = .created

theorem Grown.storeRow (grown : Grown newIds past db.contacts) (unused : row.rowNumber ∉ past)
    (alike : standing site.workspaceId start row.previewed = standing site.workspaceId start row.input) :
    NoOther site start (storeRow site newIds.idOf .skip row db).1 row ∧
      Grown newIds (row.rowNumber :: past) (storeRow site newIds.idOf .skip row db).2.contacts := by
  have fresh := newIds.fresh grown.numbered unused
  have passed : Grown newIds (row.rowNumber :: past) db.contacts := by
    refine ⟨grown.kept, fun contact member => (grown.numbered contact member).imp_right ?_⟩
    rintro ⟨earlier, before, named⟩
    exact ⟨earlier, List.mem_cons_of_mem _ before, named⟩
  by_cases both : row.reading.isOk = true ∧ Takes site newIds.idOf .skip db row
  · obtain ⟨status, ⟨unmatched, _, after⟩ | ⟨existing, matched, ⟨_, after⟩ | ⟨other, _⟩⟩⟩ :=
      storeRow_taken fresh both.1 both.2
    · rw [status, after, expected, unmatched]
      constructor
      · right
        right
        refine ⟨rfl, ?_⟩
        rw [announced, expected, alike]
        cases found : standing site.workspaceId start row.input with
        | none => rfl
        | some first => exact absurd unmatched (standing_of_kept grown.kept found)
      · refine ⟨fun contact member => Table.mem_insert (grown.kept contact member), fun contact member => ?_⟩
        rcases Table.mem_of_insert member with old | rfl
        · exact passed.numbered contact old
        · exact .inr ⟨row.rowNumber, List.mem_cons_self, rfl⟩
    · rw [status, after, expected, matched]
      exact ⟨.inr (.inl rfl), passed⟩
    · cases other
  · rw [storeRow_refused fresh both]
    exact ⟨.inl rfl, passed⟩

theorem Grown.storeRows (grown : Grown newIds past db.contacts)
    (numbered : (past ++ rows.map JobRow.rowNumber).Nodup)
    (alike : ∀ row ∈ rows, standing site.workspaceId start row.previewed = standing site.workspaceId start row.input) :
    List.Forall₂ (NoOther site start) (storeRows site newIds.idOf .skip db rows) rows := by
  induction rows generalizing past db with
  | nil => exact .nil
  | cons row rest ih =>
    rw [List.map_cons, List.nodup_middle, List.nodup_cons] at numbered
    have unused : row.rowNumber ∉ past := fun before => numbered.1 (List.mem_append_left _ before)
    obtain ⟨here, onward⟩ := grown.storeRow unused (alike row List.mem_cons_self)
    exact .cons here (ih onward (List.nodup_cons.mpr numbered) fun later member =>
      alike later (List.mem_cons_of_mem row member))

end Skip

end LocalCrm.Imports
