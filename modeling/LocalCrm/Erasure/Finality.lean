import LocalCrm.Contacts.Boundary
import LocalCrm.Erasure.RowHolders

/-! That an erased contact stays erased, whoever writes.

A row is blank from its erasure on, and no call is at work on it.
-/

set_option autoImplicit false

namespace LocalCrm.Erasure

open Library Webhooks Contacts Delivery

def ErasureStore.erasedContact (tables : ErasureStore) (contactId : ContactId) : Bool :=
  (tables.db.contacts.find? contactId).any (·.anonymizedAt.isSome)

def ErasureStore.recordsOf (tables : ErasureStore) (contactId : ContactId) : Nat :=
  tables.erasureRecords.rows.countP (·.contactId == contactId)

structure TablesOk (tables : ErasureStore) : Prop where
  blank : ∀ contactId row, tables.db.contacts.find? contactId = some row → row.anonymizedAt.isSome → Blank row
  counted : ∀ contactId, tables.recordsOf contactId = (tables.erasedContact contactId).toNat

section Commits

inductive Landed (platform : Platform) (id : Nat) (store : ContactStore) : ErasureStore → Prop
  | kept {tables : ErasureStore} (kept : Kept id store.lockedBy store.tables tables) : Landed platform id store tables
  | erased {existing : Contact} {now : Timestamp} {erasureRecordId : ErasureRecordId}
      (holds : store.lockedBy existing.id = some id)
      (found : store.tables.db.contacts.find? existing.id = some existing) (live : existing.anonymizedAt = none)
      (unrecorded : store.tables.erasureRecords.find? erasureRecordId = none) :
      Landed platform id store (eraseContact platform store.tables existing now erasureRecordId)

structure Since (before after : ErasureStore) : Prop where
  erased : ∀ contactId, before.erasedContact contactId = true → after.erasedContact contactId = true
  listed : ∀ key, (before.db.suppressions.find? key).isSome → (after.db.suppressions.find? key).isSome

variable {platform : Platform} {boundary : Boundary} {id other : Nat} {store next : ContactStore} {writer : Writer}
  {tables : ErasureStore} {existing : Contact} {now : Timestamp} {erasureRecordId : ErasureRecordId}
  {contactId : ContactId}

theorem committed_landed (ok : WriterOk id store writer) :
    Landed platform id store ((view platform store writer).getD store.tables) := by
  cases seen : view platform store writer with
  | none => exact .kept kept_refl
  | some tables =>
    cases erasing : writer.writes.any ContactWrite.erases with
    | false =>
      apply Landed.kept
      apply kept_of_writes ok.backed _ seen
      intro change member
      exact Bool.eq_false_iff.mpr (List.any_eq_false.mp erasing change member)
    | true =>
      obtain ⟨change, member, erases⟩ := List.any_eq_true.mp erasing
      have alone := (ok.alone change member erases).1
      have backed := ok.backed change member
      cases change with
      | insert | assign | setStatus | list => cases erases
      | erase existing now erasureRecordId =>
        rw [view, alone] at seen
        obtain ⟨after, applied, rest⟩ := run_cons.mp seen
        cases rest
        simp only [applyWrite, Option.ite_none_left_eq_some, Option.some.injEq] at applied
        obtain ⟨unrecorded, rfl⟩ := applied
        exact .erased backed.1 backed.2.1 backed.2.2 (Option.not_isSome_iff_eq_none.mp unrecorded)

theorem find?_eraseContact (found : tables.db.contacts.find? existing.id = some existing)
    (live : existing.anonymizedAt = none) :
    (eraseContact platform tables existing now erasureRecordId).db.contacts.find? contactId =
      if contactId = existing.id then some (anonymized existing now) else tables.db.contacts.find? contactId := by
  have looked : (eraseContact platform tables existing now erasureRecordId).db.contacts.find? contactId =
      (tables.db.contacts.find? contactId).map fun contact =>
        if contact.workspaceId == existing.workspaceId && contact.id == existing.id && contact.anonymizedAt.isNone then
          anonymized contact now
        else contact :=
    @Table.find?_update _ _ _ _ _ _ _ (fun contact => anonymized contact now) fun _ => rfl
  rw [looked]
  by_cases same : contactId = existing.id
  · rw [same, found, if_pos rfl]
    simp [live]
  · rw [if_neg same]
    cases stored : tables.db.contacts.find? contactId with
    | none => rfl
    | some contact =>
      have differs : contact.id ≠ existing.id := by
        rw [Table.key_of_find? stored]
        exact same
      simp [differs]

theorem recordsOf_eraseContact (unrecorded : tables.erasureRecords.find? erasureRecordId = none) :
    (eraseContact platform tables existing now erasureRecordId).recordsOf contactId =
      tables.recordsOf contactId + if contactId = existing.id then 1 else 0 := by
  have absent : erasureRecordId ∉ tables.erasureRecords.rows.map ErasureRecord.id := Table.find?_none.mp unrecorded
  unfold eraseContact ErasureStore.recordsOf Table.insert
  rw [dif_neg absent, List.countP_append, List.countP_singleton]
  by_cases same : contactId = existing.id
  · rw [if_pos same, if_pos (beq_iff_eq.mpr same.symm)]
  · rw [if_neg same, if_neg (mt beq_iff_eq.mp (Ne.symm same))]

theorem listed_eraseContact {key : WorkspaceId × String} :
    ((eraseContact platform tables existing now erasureRecordId).db.suppressions.find? key).isSome = true ↔
      (tables.db.suppressions.find? key).isSome = true ∨ ∃ email, given existing.email = some email ∧
        key = (existing.workspaceId, platform.hashSuppressionEmail existing.workspaceId email) := by
  unfold eraseContact
  cases stored : given existing.email with
  | none => simp
  | some email =>
    simp only [Option.elim_some, Table.find?_insert, Option.isSome_or, Bool.or_eq_true, Option.some.injEq,
      exists_eq_left']
    apply or_congr_right
    split
    · next same => exact ⟨fun _ => same.symm, fun _ => rfl⟩
    · next differs =>
      constructor
      · intro none
        cases none
      · intro same
        exact absurd same.symm differs

theorem erasedContact_eraseContact (found : tables.db.contacts.find? existing.id = some existing)
    (live : existing.anonymizedAt = none) :
    (eraseContact platform tables existing now erasureRecordId).erasedContact contactId =
      (contactId == existing.id || tables.erasedContact contactId) := by
  unfold ErasureStore.erasedContact
  rw [find?_eraseContact found live]
  by_cases same : contactId = existing.id
  · rw [if_pos same, beq_iff_eq.mpr same]
    rfl
  · rw [if_neg same, beq_eq_false_iff_ne.mpr same]
    rfl

theorem erasedContact_kept {lockedBy : ContactId → Option Nat} {before after : ErasureStore}
    (kept : Kept id lockedBy before after) : after.erasedContact contactId = before.erasedContact contactId := by
  unfold ErasureStore.erasedContact
  cases stored : before.db.contacts.find? contactId with
  | some row =>
    obtain ⟨now, found, same, _⟩ := kept.rows contactId row stored
    simp only [found, same, Option.any_some]
  | none =>
    cases found : after.db.contacts.find? contactId with
    | none => rfl
    | some row => simp [kept.fresh contactId stored row found]

theorem since_refl : Since tables tables := ⟨fun _ erased => erased, fun _ listed => listed⟩

theorem since_landed (landed : Landed platform id store tables) : Since store.tables tables := by
  cases landed with
  | kept kept =>
    constructor
    · intro contactId erased
      rw [erasedContact_kept kept]
      exact erased
    · exact kept.listed
  | erased holds found live unrecorded =>
    constructor
    · intro contactId erased
      rw [erasedContact_eraseContact found live, erased, Bool.or_true]
    · intro key listed
      exact listed_eraseContact.mpr (.inl listed)

theorem tablesOk_landed (ok : TablesOk store.tables) (landed : Landed platform id store tables) : TablesOk tables := by
  cases landed with
  | kept kept =>
    constructor
    · intro contactId row found erased
      cases stored : store.tables.db.contacts.find? contactId with
      | none =>
        rw [kept.fresh contactId stored row found] at erased
        cases erased
      | some old =>
        obtain ⟨now, same, stamp, blank, _⟩ := kept.rows contactId old stored
        rw [found] at same
        cases same
        rw [stamp] at erased
        exact blank erased (ok.blank contactId old stored erased)
    · intro contactId
      rw [erasedContact_kept kept, ErasureStore.recordsOf, kept.records]
      exact ok.counted contactId
  | @erased existing _ _ holds found live unrecorded =>
    constructor
    · intro contactId row stored erased
      rw [find?_eraseContact found live] at stored
      split at stored
      · cases stored
        exact ⟨rfl, rfl, rfl, rfl, rfl⟩
      · exact ok.blank contactId row stored erased
    · intro contactId
      rw [recordsOf_eraseContact unrecorded, erasedContact_eraseContact found live, ok.counted]
      by_cases same : contactId = existing.id
      · subst same
        simp [ErasureStore.erasedContact, found, live]
      · rw [if_neg same, beq_eq_false_iff_ne.mpr same, Bool.false_or, Nat.add_zero]

theorem spares_landed (landed : Landed platform id store tables) (differs : other ≠ id) :
    Spares other store { tables, lockedBy := RowLocks.releaseAll store.lockedBy id } := by
  cases landed with
  | kept kept =>
    constructor
    · exact fun contactId holds => RowLocks.releaseAll_keeps differs holds
    · intro contactId row holds stored
      obtain ⟨now, found, _, _, untouched⟩ := kept.rows contactId row stored
      rw [untouched] at found
      · exact found
      · intro mine
        rw [holds] at mine
        cases mine
        exact differs rfl
    · exact kept.fresh
  | erased mine found live unrecorded =>
    constructor
    · exact fun contactId holds => RowLocks.releaseAll_keeps differs holds
    · intro contactId row holds stored
      show (eraseContact platform store.tables _ _ _).db.contacts.find? contactId = some row
      rw [find?_eraseContact found live, if_neg]
      · exact stored
      · rintro rfl
        rw [holds] at mine
        cases mine
        exact differs rfl
    · intro contactId none row stored
      change (eraseContact platform store.tables _ _ _).db.contacts.find? contactId = some row at stored
      rw [find?_eraseContact found live, if_neg] at stored
      · rw [none] at stored
        cases stored
      · rintro rfl
        rw [none] at found
        cases found

end Commits

section Turns

variable {platform : Platform} {boundary : Boundary} {id other : Nat} {store next : ContactStore}
  {writer after : Writer} {call : ContactCall} {workspaceId : WorkspaceId} {turn : WriterTurn}
  {threads following : WriterThreads}

theorem plain_firstStage (keeps : ∀ contactId, call ≠ .delete contactId) :
    (firstStage boundary call).plain = true := by
  cases call with
  | upsert input | changeStatus contactId change => rfl
  | importRow duplicatePolicy input => cases duplicatePolicy <;> rfl
  | create | update =>
    rw [firstStage]
    split <;> rfl
  | delete contactId => exact absurd rfl (keeps contactId)

theorem stageOk_firstStage (writes : writer.writes = []) (batch : writer.batch = call.batches) :
    StageOk id store writer (firstStage boundary call) := by
  cases call with
  | delete contactId =>
    constructor
    · intro existing works
      cases works
    · intro row input insertion inserting
      cases inserting
    · exact fun _ _ => ⟨writes, batch⟩
    · intro existing erasing
      cases erasing
  | upsert | importRow | changeStatus | create | update =>
    apply stageOk_of_plain
    apply plain_firstStage
    intro contactId same
    cases same

theorem writerOk_begun (ok : WriterOk id store writer)
    (begun : beginCall boundary writer workspaceId call = some after) : WriterOk id store after := by
  unfold beginCall at begun
  split at begun
  · cases begun
    constructor
    · intro change member
      cases member
    · intro change member
      cases member
    · exact stageOk_firstStage rfl rfl
  · next ready =>
    obtain ⟨batches, same⟩ := Option.ite_none_right_eq_some.mp begun
    cases same
    simp only [Bool.and_eq_true] at batches
    constructor
    · exact ok.backed
    · intro change member erases
      -- an erasure is never one of a batch
      obtain ⟨_, unbatched, _⟩ := ok.alone change member erases
      rw [unbatched] at batches
      cases batches.1.1
    · have stands : StageOk id store writer (firstStage boundary call) := by
        apply stageOk_of_plain
        apply plain_firstStage
        rintro contactId rfl
        cases batches.1.2
      exact ⟨stands.existing, stands.inserting, stands.lockingErasure, stands.erasing⟩
  · cases begun

theorem writerOk_idle : WriterOk id store {} where
  backed change member := by cases member
  alone change member := by cases member
  stands := stageOk_of_plain rfl

theorem writerTurn_sound (ok : WriterOk id store writer)
    (taken : writerTurn platform boundary id store writer turn = some (next, after)) :
    Landed platform id store next.tables ∧ WriterOk id next after ∧ ∀ other, other ≠ id → Spares other store next := by
  cases turn with
  | begin workspaceId call =>
    obtain ⟨begun, started, same⟩ := Option.map_eq_some_iff.mp taken
    cases same
    exact ⟨.kept kept_refl, writerOk_begun ok started, fun _ _ => spares_refl⟩
  | statement fresh =>
    obtain ⟨tables, seen, stated⟩ := Option.bind_eq_some_iff.mp taken
    have unready : writer.stage ≠ .ready := by
      intro ready
      rw [statement, ready] at stated
      cases stated
    obtain ⟨same, spares, onward⟩ := statement_onward ok stated
    refine ⟨?_, writerOk_onward ok unready seen (spares id) same onward, fun other _ => spares other⟩
    rw [same]
    exact .kept kept_refl
  | commit =>
    obtain ⟨_, same⟩ := Option.ite_none_right_eq_some.mp taken
    cases same
    exact ⟨committed_landed ok, writerOk_idle, fun other differs => spares_landed (committed_landed ok) differs⟩
  | rollback =>
    cases taken
    have unchanged : Landed platform id store store.tables := .kept kept_refl
    exact ⟨unchanged, writerOk_idle, fun other differs => spares_landed unchanged differs⟩

def Kempt (threads : WriterThreads) : Prop :=
  threads.Sound (fun store => TablesOk store.tables) WriterOk

theorem kempt_step (threads : WriterThreads) (turn : Turn WriterTurn Empty) (following : WriterThreads)
    (kempt : Kempt threads) (taken : writerStep platform boundary threads turn = some following) : Kempt following := by
  apply @sound_interleave _ _ _ _ (writerTurn platform boundary) _ (fun store => TablesOk store.tables) WriterOk Spares
    _ _ _ threads turn following kempt taken
  · intro id store writer choice next after tablesOk ok acted
    obtain ⟨landed, known, spares⟩ := writerTurn_sound ok acted
    exact ⟨tablesOk_landed tablesOk landed, known, spares⟩
  · intro store event
    cases event
  · exact fun id store next writer ok spares => writerOk_spared ok spares

theorem kempt_noContacts (db : Database) : Kempt (noContacts db) where
  shared := by
    constructor
    · intro contactId row found
      cases found
    · intro contactId
      rfl
  own _ := writerOk_idle

theorem step_landed (kempt : Kempt threads) {turn : Turn WriterTurn Empty}
    (taken : writerStep platform boundary threads turn = some following) :
    ∃ id, Landed platform id threads.shared following.shared.tables := by
  cases turn with
  | thread id choice =>
    obtain ⟨store, writer, acted, rfl⟩ := interleave_thread.mp taken
    exact ⟨id, (writerTurn_sound (kempt.own id) acted).1⟩
  | outside event => cases event

theorem kempt_run {trace : List (Turn WriterTurn Empty)} (kempt : Kempt threads)
    (ran : run (writerStep platform boundary) threads trace = some following) :
    Kempt following ∧ Since threads.shared.tables following.shared.tables := by
  induction trace generalizing threads with
  | nil =>
    cases ran
    exact ⟨kempt, since_refl⟩
  | cons turn rest ih =>
    obtain ⟨middle, taken, onward⟩ := run_cons.mp ran
    obtain ⟨id, landed⟩ := step_landed kempt taken
    have since := since_landed landed
    obtain ⟨final, later⟩ := ih (kempt_step threads turn middle kempt taken) onward
    exact ⟨final, fun contactId erased => later.erased contactId (since.erased contactId erased),
      fun key listed => later.listed key (since.listed key listed)⟩

end Turns

section Erased

variable {platform : Platform} {boundary : Boundary} {db : Database} {threads first second : WriterThreads}
  {turn : Turn WriterTurn Empty} {earlier : List (Turn WriterTurn Empty)} {contactId : ContactId} {row : Contact}
  {tables : ErasureStore}

def Seen (platform : Platform) (threads : WriterThreads) (tables : ErasureStore) : Prop :=
  tables = threads.shared.tables ∨ ∃ id, view platform threads.shared (threads.own id) = some tables

/-- That nothing is left of the contact and no lookup or call finds it, with its one record and
its address listed. -/
structure Gone (platform : Platform) (row : Contact) (threads : WriterThreads) : Prop where
  blank : ∃ now, threads.shared.tables.db.contacts.find? row.id = some now ∧ now.anonymizedAt.isSome ∧ Blank now
  unmatched : ∀ tables, Seen platform threads tables → ∀ workspaceId externalId email,
    findContactIdByIdentity tables.db.contacts workspaceId externalId email ≠ some row.id
  idle : ∀ id existing, (threads.own id).stage.existing = some existing → existing.id ≠ row.id
  recorded : threads.shared.tables.recordsOf row.id = 1
  listed : ∀ email, row.email = some email →
    isEmailSuppressed platform threads.shared.tables.db.suppressions row.workspaceId email = true

theorem unmatched_of_erased (erased : tables.erasedContact contactId = true) (workspaceId : WorkspaceId)
    (externalId email : Option String) :
    findContactIdByIdentity tables.db.contacts workspaceId externalId email ≠ some contactId := by
  intro matched
  obtain ⟨contact, found, rfl⟩ := Option.map_eq_some_iff.mp matched
  obtain ⟨stored, _, live⟩ := stored_of_matchIdentity found
  rw [ErasureStore.erasedContact, stored, Option.any_some, live] at erased
  cases erased

theorem erased_of_seen (kempt : Kempt threads) (erased : threads.shared.tables.erasedContact contactId = true)
    (seen : Seen platform threads tables) : tables.erasedContact contactId = true := by
  rcases seen with rfl | ⟨id, viewed⟩
  · exact erased
  · have landed : Landed platform id threads.shared ((view platform threads.shared (threads.own id)).getD _) :=
      committed_landed (kempt.own id)
    rw [viewed] at landed
    exact (since_landed landed).erased contactId erased

theorem gone_of_erased (kempt : Kempt threads) (erased : threads.shared.tables.erasedContact row.id = true)
    (listed : ∀ email, row.email = some email →
      isEmailSuppressed platform threads.shared.tables.db.suppressions row.workspaceId email = true) :
    Gone platform row threads where
  blank := by
    obtain ⟨now, found, stamped⟩ := Option.any_eq_true _ _ |>.mp erased
    exact ⟨now, found, stamped, kempt.shared.blank row.id now found stamped⟩
  unmatched _ seen := unmatched_of_erased (erased_of_seen kempt erased seen)
  idle id existing working same := by
    obtain ⟨now, found, stamped⟩ := Option.any_eq_true _ _ |>.mp erased
    have live := ((kempt.own id).stands.existing existing working).2
    rw [same] at live
    rw [live now found] at stamped
    cases stamped
  recorded := by
    rw [kempt.shared.counted, erased]
    rfl
  listed := listed

theorem listed_of_erasing {id : Nat} {store : ContactStore} {key : WorkspaceId × String}
    (landed : Landed platform id store tables) (found : store.tables.db.contacts.find? row.id = some row)
    (live : row.anonymizedAt = none) (erased : tables.erasedContact row.id = true) :
    (tables.db.suppressions.find? key).isSome = true ↔
      (store.tables.db.suppressions.find? key).isSome = true ∨ ∃ email, given row.email = some email ∧
        key = (row.workspaceId, platform.hashSuppressionEmail row.workspaceId email) := by
  cases landed with
  | kept kept =>
    rw [erasedContact_kept kept, ErasureStore.erasedContact, found, Option.any_some, live] at erased
    cases erased
  | @erased existing _ _ holds stored unerased unrecorded =>
    have was : store.tables.erasedContact row.id = false := by
      rw [ErasureStore.erasedContact, found, Option.any_some, live]
      rfl
    rw [erasedContact_eraseContact stored unerased, was, Bool.or_false, beq_iff_eq] at erased
    rw [erased, stored] at found
    cases found
    exact listed_eraseContact

/-- Nothing is left of an erased contact whoever is at work around the erasure; its address is on the list
unless it was blank. -/
theorem erased_for_good_iff (ran : run (writerStep platform boundary) (noContacts db) earlier = some first)
    (taken : writerStep platform boundary first turn = some second)
    (found : first.shared.tables.db.contacts.find? row.id = some row) (live : row.anonymizedAt = none)
    (erased : second.shared.tables.erasedContact row.id = true) :
    (∀ later third, run (writerStep platform boundary) second later = some third → Gone platform row third) ↔
      (row.email = some "" →
        isEmailSuppressed platform first.shared.tables.db.suppressions row.workspaceId "" = true) := by
  have before : Kempt first := (kempt_run (kempt_noContacts db) ran).1
  obtain ⟨id, landed⟩ := step_landed before taken
  constructor
  · intro gone blank
    have listed := (gone [] second rfl).listed "" blank
    rcases (listed_of_erasing landed found live erased).mp listed with already | ⟨email, named, _⟩
    · exact already
    · rw [blank] at named
      cases named
  · intro already later third onward
    obtain ⟨kempt, since⟩ := kempt_run (kempt_step first turn second before taken) onward
    apply gone_of_erased kempt (since.erased row.id erased)
    intro email captured
    apply since.listed
    apply (listed_of_erasing landed found live erased).mpr
    by_cases blank : email = ""
    · subst blank
      exact .inl (already captured)
    · right
      refine ⟨email, ?_, rfl⟩
      rw [captured, given, Option.filter_some, if_pos]
      rw [Bool.not_eq_true', String.isEmpty_eq_false_iff]
      exact blank

def erasedDuring (email : String) : List (Turn WriterTurn Empty) :=
  let row : UpsertContactIdentityInput := { externalId := some "crm-17", email := some email }
  [.thread 1 (.begin 4 (.importRow .update row)), .thread 1 (.statement {}), .thread 1 (.statement {}),
    .thread 1 (.statement { newId := 9 }), .thread 1 (.statement {}), .thread 1 .commit,
    .thread 1 (.begin 4 (.delete 9)), .thread 2 (.begin 4 (.upsert row)), .thread 1 (.statement {}),
    .thread 2 (.statement {}), .thread 1 (.statement { now := 30, erasureRecordId := 5 })]

def insertedAnew : List (Turn WriterTurn Empty) :=
  [.thread 2 (.statement {}), .thread 2 (.statement {}), .thread 2 (.statement { newId := 10 }),
    .thread 2 (.statement {}), .thread 2 .commit]

def importedRow (email : String) : Contact :=
  newContact pairedPlatform .empty 4 9 { externalId := some "crm-17", email := some email } []

theorem imported_row_erased_for_good : ∃ first second,
    run (writerStep pairedPlatform asciiBoundary) (noContacts {}) (erasedDuring "ada@home.test") = some first ∧
      writerStep pairedPlatform asciiBoundary first (.thread 1 .commit) = some second ∧
      (run (writerStep pairedPlatform asciiBoundary) second insertedAnew).isSome = true ∧
      ∀ later third, run (writerStep pairedPlatform asciiBoundary) second later = some third →
        Gone pairedPlatform (importedRow "ada@home.test") third := by
  have runs : (run (writerStep pairedPlatform asciiBoundary) (noContacts {}) (erasedDuring "ada@home.test")).any
      (fun first => decide (first.shared.tables.db.contacts.find? 9 = some (importedRow "ada@home.test")) &&
        (writerStep pairedPlatform asciiBoundary first (.thread 1 .commit)).any fun second =>
          second.shared.tables.erasedContact 9 &&
            (run (writerStep pairedPlatform asciiBoundary) second insertedAnew).isSome) = true := by
    decide +kernel
  obtain ⟨first, ran, both⟩ := (Option.any_eq_true _ _).mp runs
  obtain ⟨found, both⟩ := Bool.and_eq_true_iff.mp both
  obtain ⟨second, taken, both⟩ := (Option.any_eq_true _ _).mp both
  obtain ⟨erased, onward⟩ := Bool.and_eq_true_iff.mp both
  refine ⟨first, second, ran, taken, onward, ?_⟩
  apply (@erased_for_good_iff pairedPlatform asciiBoundary {} first second (.thread 1 .commit) _
    (importedRow "ada@home.test") ran taken (of_decide_eq_true found) rfl erased).mpr
  intro blank
  cases (by decide : (importedRow "ada@home.test").email ≠ some "") blank

/-- A cell of blanks is stored as an empty address, and an empty address is not listed. -/
theorem blank_address_unlisted : ¬ ∀ (platform : Platform) (boundary : Boundary) (db : Database)
    (earlier : List (Turn WriterTurn Empty)) (turn : Turn WriterTurn Empty) (first second : WriterThreads)
    (row : Contact),
    run (writerStep platform boundary) (noContacts db) earlier = some first →
      writerStep platform boundary first turn = some second →
      first.shared.tables.db.contacts.find? row.id = some row → row.anonymizedAt = none →
      second.shared.tables.erasedContact row.id = true → Gone platform row second := by
  intro always
  have runs : (run (writerStep pairedPlatform asciiBoundary) (noContacts {}) (erasedDuring "")).any
      (fun first => decide (first.shared.tables.db.contacts.find? 9 = some (importedRow "")) &&
        (writerStep pairedPlatform asciiBoundary first (.thread 1 .commit)).any fun second =>
          second.shared.tables.erasedContact 9 &&
            !isEmailSuppressed pairedPlatform second.shared.tables.db.suppressions 4 "") = true := by
    decide +kernel
  obtain ⟨first, ran, both⟩ := (Option.any_eq_true _ _).mp runs
  obtain ⟨found, both⟩ := Bool.and_eq_true_iff.mp both
  obtain ⟨second, taken, both⟩ := (Option.any_eq_true _ _).mp both
  obtain ⟨erased, unlisted⟩ := Bool.and_eq_true_iff.mp both
  have gone := always pairedPlatform asciiBoundary {} (erasedDuring "") (.thread 1 .commit) first second
    (importedRow "") ran taken (of_decide_eq_true found) rfl erased
  have listed : isEmailSuppressed pairedPlatform second.shared.tables.db.suppressions 4 "" = true :=
    gone.listed "" rfl
  rw [listed] at unlisted
  cases unlisted

end Erased

end LocalCrm.Erasure
