import LocalCrm.Erasure.Writers

/-! What a transaction knows of the contacts it is at work on. -/

set_option autoImplicit false

namespace LocalCrm.Erasure

open Library Webhooks Contacts Delivery

structure Blank (row : Contact) : Prop where
  externalId : row.externalId = none
  email : row.email = none
  profile : row.profile = {}
  tags : row.tags = []
  properties : row.properties = []

def ContactWrite.erases : ContactWrite → Bool
  | .erase _ _ _ => true
  | .insert _ | .assign _ _ _ | .setStatus _ | .list _ => false

def LiveAt (tables : ErasureStore) (contactId : ContactId) : Prop :=
  ∀ row, tables.db.contacts.find? contactId = some row → row.anonymizedAt = none

def Backed (id : Nat) (store : ContactStore) : ContactWrite → Prop
  | .insert row => row.anonymizedAt = none
  | .assign existing _ _ => store.lockedBy existing.id = some id ∧ LiveAt store.tables existing.id
  | .setStatus change => store.lockedBy change.contactId = some id
  | .list _ => True
  | .erase existing _ _ => store.lockedBy existing.id = some id ∧
      store.tables.db.contacts.find? existing.id = some existing ∧ existing.anonymizedAt = none

def Stage.plain : Stage → Bool
  | .merging _ _ _ | .checkingPatch _ _ | .assigning _ _ _ | .erasing _ | .inserting _ _ _ | .lockingErasure _ => false
  | .idle | .ready | .refused _ | .checkingDuplicate _ | .seekingExternalId _ _ | .lockingExternalId _ _ _ |
    .seekingEmail _ _ | .lockingEmail _ _ _ | .readingSuppression _ _ | .checkingTaken _ | .lockingPatch _ _ |
    .readingStatus _ _ | .lockingStatus _ _ _ => true

structure StageOk (id : Nat) (store : ContactStore) (writer : Writer) (stage : Stage) : Prop where
  existing : ∀ existing, stage.existing = some existing →
    store.lockedBy existing.id = some id ∧ LiveAt store.tables existing.id
  inserting : ∀ row input insertion, stage = .inserting row input insertion → row.anonymizedAt = none
  lockingErasure : ∀ contactId, stage = .lockingErasure contactId → writer.writes = [] ∧ writer.batch = false
  erasing : ∀ existing, stage = .erasing existing → writer.writes = [] ∧ writer.batch = false ∧
    store.tables.db.contacts.find? existing.id = some existing ∧ existing.anonymizedAt = none

structure WriterOk (id : Nat) (store : ContactStore) (writer : Writer) : Prop where
  backed : ∀ change ∈ writer.writes, Backed id store change
  alone : ∀ change ∈ writer.writes, change.erases = true →
    writer.writes = [change] ∧ writer.batch = false ∧ writer.stage = .ready
  stands : StageOk id store writer writer.stage

structure Spares (other : Nat) (store next : ContactStore) : Prop where
  locks : ∀ contactId, store.lockedBy contactId = some other → next.lockedBy contactId = some other
  rows : ∀ contactId row, store.lockedBy contactId = some other →
    store.tables.db.contacts.find? contactId = some row → next.tables.db.contacts.find? contactId = some row
  fresh : ∀ contactId, store.tables.db.contacts.find? contactId = none → LiveAt next.tables contactId

structure Kept (id : Nat) (lockedBy : ContactId → Option Nat) (before after : ErasureStore) : Prop where
  rows : ∀ contactId row, before.db.contacts.find? contactId = some row →
    ∃ now, after.db.contacts.find? contactId = some now ∧ now.anonymizedAt = row.anonymizedAt ∧
      (row.anonymizedAt.isSome → Blank row → Blank now) ∧ (lockedBy contactId ≠ some id → now = row)
  fresh : ∀ contactId, before.db.contacts.find? contactId = none → LiveAt after contactId
  records : after.erasureRecords = before.erasureRecords
  listed : ∀ key, (before.db.suppressions.find? key).isSome → (after.db.suppressions.find? key).isSome

section Writes

variable {platform : Platform} {id other : Nat} {store next : ContactStore} {writer after : Writer}
  {before middle tables : ErasureStore} {lockedBy : ContactId → Option Nat} {change : ContactWrite}

theorem kept_refl : Kept id lockedBy before before where
  rows _ row found := ⟨row, found, rfl, fun _ blank => blank, fun _ => rfl⟩
  fresh contactId none := by
    intro row found
    rw [none] at found
    cases found
  records := rfl
  listed _ listed := listed

theorem kept_of_update (kept : Kept id lockedBy before middle) {guard : Contact → Bool} {set : Contact → Contact}
    {keeps : ∀ row, (set row).id = row.id} (contacts : tables.db.contacts = middle.db.contacts.update guard set keeps)
    (stamp : ∀ row, (set row).anonymizedAt = row.anonymizedAt)
    (held : ∀ row, guard row = true → lockedBy row.id = some id)
    (blank : ∀ row, guard row = true → ¬ LiveAt before row.id → Blank row → Blank (set row))
    (records : tables.erasureRecords = middle.erasureRecords)
    (listed : tables.db.suppressions = middle.db.suppressions) : Kept id lockedBy before tables := by
  have looked : ∀ contactId, tables.db.contacts.find? contactId =
      (middle.db.contacts.find? contactId).map fun row => if guard row then set row else row := by
    intro contactId
    rw [contacts]
    exact Table.find?_update
  constructor
  · intro contactId row found
    obtain ⟨now, stored, same, cleaned, away⟩ := kept.rows contactId row found
    have keyed : now.id = contactId := Table.key_of_find? stored
    rw [looked, stored, Option.map_some]
    by_cases chosen : guard now = true
    · refine ⟨set now, by rw [if_pos chosen], (stamp now).trans same, ?_, ?_⟩
      · intro erased was
        apply blank now chosen _ (cleaned erased was)
        intro live
        rw [keyed] at live
        rw [live row found] at erased
        cases erased
      · intro unheld
        rw [← keyed] at unheld
        exact absurd (held now chosen) unheld
    · exact ⟨now, by rw [if_neg chosen], same, cleaned, away⟩
  · intro contactId none row found
    rw [looked] at found
    obtain ⟨now, stored, rfl⟩ := Option.map_eq_some_iff.mp found
    have live := kept.fresh contactId none now stored
    split
    · rw [stamp]
      exact live
    · exact live
  · exact records.trans kept.records
  · intro key entry
    rw [listed]
    exact kept.listed key entry

theorem kept_insert (kept : Kept id lockedBy before middle) {row : Contact} (live : row.anonymizedAt = none)
    (applied : applyWrite platform middle (.insert row) = some tables) : Kept id lockedBy before tables := by
  obtain ⟨db, inserted, rfl⟩ := Option.map_eq_some_iff.mp applied
  have granted : insertContact middle.db row = .ok db := by
    cases outcome : insertContact middle.db row with
    | error refusal =>
      rw [outcome] at inserted
      cases inserted
    | ok result =>
      rw [outcome] at inserted
      cases inserted
      rfl
  have looked : ∀ contactId, db.contacts.find? contactId =
      if contactId = row.id then some row else middle.db.contacts.find? contactId :=
    fun _ => find?_insertContact granted
  obtain ⟨absent, _, same⟩ := insertContact_eq_ok.mp granted
  constructor
  · intro contactId old found
    obtain ⟨now, stored, rest⟩ := kept.rows contactId old found
    refine ⟨now, ?_, rest⟩
    rw [looked, if_neg]
    · exact stored
    · rintro rfl
      rw [absent] at stored
      cases stored
  · intro contactId none now found
    rw [looked] at found
    split at found
    · cases found
      exact live
    · exact kept.fresh contactId none now found
  · exact kept.records
  · intro key entry
    rw [same]
    exact kept.listed key entry

theorem isSome_insert {suppressions : Table Suppression.key} {suppression : Suppression} {key : WorkspaceId × String}
    (listed : (suppressions.find? key).isSome) : ((suppressions.insert suppression).find? key).isSome := by
  obtain ⟨entry, found⟩ := Option.isSome_iff_exists.mp listed
  rw [Table.find?_insert, found]
  rfl

theorem applyWrite_kept (kept : Kept id store.lockedBy store.tables middle) (backed : Backed id store change)
    (plain : change.erases = false) (applied : applyWrite platform middle change = some tables) :
    Kept id store.lockedBy store.tables tables := by
  cases change with
  | insert row => exact kept_insert kept backed applied
  | assign existing target source =>
    obtain ⟨mine, live⟩ := backed
    simp only [applyWrite] at applied
    split at applied
    · cases applied
    · cases applied
      have contacts : (writeContact middle.db existing target source).contacts = middle.db.contacts.update
          (fun contact => contact.workspaceId == existing.workspaceId && contact.id == existing.id)
          (assignColumns target) (assignColumns_id target) := by
        unfold writeContact
        split <;> rfl
      have keyed : ∀ row : Contact, (row.workspaceId == existing.workspaceId && row.id == existing.id) = true →
          row.id = existing.id := fun row chosen => beq_iff_eq.mp (Bool.and_eq_true_iff.mp chosen).2
      apply @kept_of_update id store.tables middle { middle with db := writeContact middle.db existing target source }
        store.lockedBy kept _ _ _ contacts
      · exact fun _ => rfl
      · intro row chosen
        rw [keyed row chosen]
        exact mine
      · intro row chosen erased
        rw [keyed row chosen] at erased
        exact absurd live erased
      · rfl
      · exact suppressions_writeContact
  | setStatus record =>
    cases applied
    -- whether the change is recorded in the history makes no difference here
    apply @kept_of_update id store.tables middle _ store.lockedBy kept (fun contact => contact.id == record.contactId)
      (fun contact => { contact with subscriptionStatus := record.newStatus }) fun _ => rfl
    · dsimp only
      split <;> rfl
    · exact fun _ => rfl
    · intro row chosen
      rw [beq_iff_eq.mp chosen]
      exact backed
    · intro row _ _ blank
      exact ⟨blank.externalId, blank.email, blank.profile, blank.tags, blank.properties⟩
    · rfl
    · dsimp only
      split <;> rfl
  | list suppression =>
    cases applied
    exact ⟨kept.rows, kept.fresh, kept.records, fun key entry => isSome_insert (kept.listed key entry)⟩
  | erase existing now erasureRecordId => cases plain

theorem kept_of_writes {writes : List ContactWrite} (backed : ∀ change ∈ writes, Backed id store change)
    (plain : ∀ change ∈ writes, change.erases = false)
    (ran : run (applyWrite platform) store.tables writes = some tables) :
    Kept id store.lockedBy store.tables tables := by
  have preserved : ∀ middle change next, Kept id store.lockedBy store.tables middle →
      (Backed id store change ∧ change.erases = false) → applyWrite platform middle change = some next →
      Kept id store.lockedBy store.tables next :=
    fun _ _ _ kept conforms applied => applyWrite_kept kept conforms.1 conforms.2 applied
  exact @invariant_of_run _ _ _ (fun _ change _ => Backed id store change ∧ change.erases = false) _ preserved
    store.tables tables writes kept_refl
    (along_of_labels (fun change member _ _ => ⟨backed change member, plain change member⟩) store.tables) ran

end Writes

section Knowledge

variable {platform : Platform} {boundary : Boundary} {id other : Nat} {store next : ContactStore}
  {writer after : Writer} {tables : ErasureStore} {stage : Stage} {change : ContactWrite} {contactId : ContactId}

theorem spares_of_tables (locks : ∀ contactId, store.lockedBy contactId = some other →
    next.lockedBy contactId = some other) (tables : next.tables = store.tables) : Spares other store next where
  locks := locks
  rows contactId row _ found := by
    rw [tables]
    exact found
  fresh contactId none row found := by
    rw [tables, none] at found
    cases found

theorem spares_refl : Spares other store store := spares_of_tables (fun _ holds => holds) rfl

theorem liveAt_spared (spares : Spares id store next) (holds : store.lockedBy contactId = some id)
    (live : LiveAt store.tables contactId) : LiveAt next.tables contactId := by
  cases found : store.tables.db.contacts.find? contactId with
  | none => exact spares.fresh contactId found
  | some row =>
    intro now stored
    rw [spares.rows contactId row holds found] at stored
    cases stored
    exact live row found

theorem backed_spared (spares : Spares id store next) (backed : Backed id store change) : Backed id next change := by
  cases change with
  | insert row => exact backed
  | assign existing target source => exact ⟨spares.locks _ backed.1, liveAt_spared spares backed.1 backed.2⟩
  | setStatus change => exact spares.locks _ backed
  | list suppression => trivial
  | erase existing now erasureRecordId =>
    exact ⟨spares.locks _ backed.1, spares.rows _ _ backed.1 backed.2.1, backed.2.2⟩

theorem writerOk_spared (ok : WriterOk id store writer) (spares : Spares id store next) : WriterOk id next writer where
  backed change member := backed_spared spares (ok.backed change member)
  alone := ok.alone
  stands := by
    constructor
    · intro existing working
      obtain ⟨holds, live⟩ := ok.stands.existing existing working
      exact ⟨spares.locks _ holds, liveAt_spared spares holds live⟩
    · exact ok.stands.inserting
    · exact ok.stands.lockingErasure
    · intro existing erasing
      obtain ⟨writes, batch, found, live⟩ := ok.stands.erasing existing erasing
      have working : writer.stage.existing = some existing := by rw [erasing, Stage.existing]
      exact ⟨writes, batch, spares.rows _ _ (ok.stands.existing existing working).1 found, live⟩

theorem stageOk_of_plain (plain : stage.plain = true) : StageOk id store writer stage := by
  cases stage <;> cases plain <;> constructor <;> intros <;> contradiction

theorem erases_of_unready (ok : WriterOk id store writer) (unready : writer.stage ≠ .ready) :
    ∀ change ∈ writer.writes, change.erases = false := by
  intro change member
  cases erases : change.erases with
  | false => rfl
  | true => exact absurd (ok.alone change member erases).2.2 unready

theorem view_kept (ok : WriterOk id store writer) (unready : writer.stage ≠ .ready)
    (seen : view platform store writer = some tables) : Kept id store.lockedBy store.tables tables :=
  kept_of_writes ok.backed (erases_of_unready ok unready) seen

theorem liveAt_of_kept {row : Contact} {before : ErasureStore} (kept : Kept id store.lockedBy before tables)
    (found : tables.db.contacts.find? contactId = some row) (live : row.anonymizedAt = none) :
    LiveAt before contactId := by
  intro old stored
  obtain ⟨now, seen, same, _⟩ := kept.rows contactId old stored
  rw [found] at seen
  cases seen
  rw [← same]
  exact live

end Knowledge

section Statements

inductive Onward (id : Nat) (next : ContactStore) (tables : ErasureStore) (writer : Writer) : Writer → Prop
  | looks {stage : Stage} (plain : stage.plain = true) : Onward id next tables writer (writer.at stage)
  | builds {row : Contact} {input : UpsertContactIdentityInput} {insertion : Insertion}
      (live : row.anonymizedAt = none) : Onward id next tables writer (writer.at (.inserting row input insertion))
  | locks {existing : Contact} {stage : Stage} (holds : next.lockedBy existing.id = some id)
      (found : tables.db.contacts.find? existing.id = some existing) (live : existing.anonymizedAt = none)
      (works : stage.existing = some existing)
      (erasing : stage = .erasing existing → writer.stage = .lockingErasure existing.id) :
      Onward id next tables writer (writer.at stage)
  | assigns {existing target : Contact} {source : String} (works : writer.stage.existing = some existing) :
      Onward id next tables writer (writer.at (.assigning existing target source))
  | writes {changes : List ContactWrite} (backed : ∀ change ∈ changes, Backed id next change)
      (plain : ∀ change ∈ changes, change.erases = false) :
      Onward id next tables writer { writer with writes := writer.writes ++ changes, stage := .ready }
  | erases {existing : Contact} {now : Timestamp} {erasureRecordId : ErasureRecordId}
      (erasing : writer.stage = .erasing existing) :
      Onward id next tables writer
        { writer with writes := writer.writes ++ [.erase existing now erasureRecordId], stage := .ready }

variable {platform : Platform} {boundary : Boundary} {id other : Nat} {store next : ContactStore}
  {writer after onward : Writer} {tables : ErasureStore} {stage : Stage} {change : ContactWrite}
  {contactId : ContactId} {fresh : Fresh}

theorem locked (taken : lockRow id store contactId onward = some (next, after)) :
    after = onward ∧ next.tables = store.tables ∧ next.lockedBy contactId = some id ∧
      ∀ other, Spares other store next := by
  obtain ⟨lockedBy, acquired, same⟩ := Option.map_eq_some_iff.mp taken
  cases same
  exact ⟨rfl, rfl, RowLocks.acquire_holds acquired,
    fun _ => spares_of_tables (fun _ holds => RowLocks.acquire_keeps acquired holds) rfl⟩

theorem onward_write {violated : Stage} (backed : Backed id store change) (plain : change.erases = false)
    (looks : violated.plain = true) :
    Onward id store tables writer (write platform writer tables change violated) := by
  unfold write
  cases applyWrite platform tables change with
  | none => exact .looks looks
  | some _ =>
    apply Onward.writes
    · intro other member
      rw [List.mem_singleton.mp member]
      exact backed
    · intro other member
      rw [List.mem_singleton.mp member]
      exact plain

theorem onward_locked {existing : Contact} (holds : next.lockedBy contactId = some id)
    (found : tables.db.contacts.find? contactId = some existing) (live : existing.anonymizedAt = none)
    (works : stage.existing = some existing)
    (erasing : stage = .erasing existing → writer.stage = .lockingErasure contactId) :
    Onward id next tables writer (writer.at stage) := by
  have keyed : existing.id = contactId := Table.key_of_find? found
  subst keyed
  exact .locks holds found live works erasing

theorem contactId_record (change : StatusChange) (workspaceId : WorkspaceId) (oldStatus : SubscriptionStatus) :
    (change.record workspaceId contactId oldStatus).contactId = contactId := by
  cases change <;> rfl

theorem mem_listing {change : StatusChange} {workspaceId : WorkspaceId} {email : Option String}
    {written : ContactWrite} (listed : written ∈ change.listing platform workspaceId email) :
    ∃ suppression, written = .list suppression := by
  cases change with
  | suppress reason =>
    obtain ⟨address, _, rfl⟩ := List.mem_map.mp listed
    exact ⟨_, rfl⟩
  | unsubscribe source => cases listed

theorem statement_onward (ok : WriterOk id store writer)
    (taken : statement platform id store writer tables fresh = some (next, after)) :
    next.tables = store.tables ∧ (∀ other, Spares other store next) ∧ Onward id next tables writer after := by
  have stays : ∀ {after}, Onward id store tables writer after →
      store.tables = store.tables ∧ (∀ other, Spares other store store) ∧ Onward id store tables writer after :=
    fun onward => ⟨rfl, fun _ => spares_refl, onward⟩
  unfold statement at taken
  cases standing : writer.stage with
  | idle | ready | refused =>
    rw [standing] at taken
    cases taken
  | checkingDuplicate | seekingExternalId | seekingEmail =>
    simp only [standing] at taken
    split at taken <;> cases taken <;> exact stays (.looks rfl)
  -- a row that was found is read again once it is locked
  | lockingExternalId | lockingEmail =>
    simp only [standing] at taken
    obtain ⟨rfl, same, holds, spares⟩ := locked taken
    refine ⟨same, spares, ?_⟩
    split
    · exact .looks rfl
    · obtain ⟨found, still⟩ := Option.filter_eq_some_iff.mp ‹_›
      simp only [Bool.and_eq_true, Option.isNone_iff_eq_none] at still
      exact onward_locked holds found still.2 rfl fun erasing => by cases erasing
  | readingSuppression input insertion =>
    simp only [standing] at taken
    cases taken
    exact stays (.builds rfl)
  | inserting row input insertion =>
    simp only [standing] at taken
    cases taken
    apply stays
    apply onward_write
    · exact ok.stands.inserting row input insertion standing
    · rfl
    · split <;> rfl
  | merging input existing attachExternalId =>
    simp only [standing] at taken
    cases taken
    apply stays
    apply Onward.assigns
    rw [standing, Stage.existing]
  | checkingTaken input =>
    simp only [standing] at taken
    split at taken <;> cases taken <;> exact stays (.looks rfl)
  | lockingPatch contactId patch =>
    simp only [standing] at taken
    split at taken
    · cases taken
      exact stays (.looks rfl)
    · obtain ⟨rfl, same, holds, spares⟩ := locked taken
      obtain ⟨found, _⟩ := contactOf_eq_some.mp ‹_›
      refine ⟨same, spares, ?_⟩
      split
      · exact .looks rfl
      · exact onward_locked holds found (Option.not_isSome_iff_eq_none.mp ‹_›) rfl fun erasing => by cases erasing
  | checkingPatch existing patch =>
    simp only [standing] at taken
    split at taken
    · cases taken
      exact stays (.looks rfl)
    · cases taken
      apply stays
      apply Onward.assigns
      rw [standing, Stage.existing]
  | assigning existing target source =>
    simp only [standing] at taken
    cases taken
    apply stays
    apply onward_write
    · apply ok.stands.existing existing
      rw [standing, Stage.existing]
    · rfl
    · rfl
  | lockingErasure contactId =>
    simp only [standing] at taken
    split at taken
    · cases taken
      exact stays (.looks rfl)
    · obtain ⟨rfl, same, holds, spares⟩ := locked taken
      obtain ⟨found, _⟩ := contactOf_eq_some.mp ‹_›
      refine ⟨same, spares, ?_⟩
      split
      · exact .looks rfl
      · exact onward_locked holds found (Option.not_isSome_iff_eq_none.mp ‹_›) rfl fun _ => standing
  | erasing existing =>
    simp only [standing, write] at taken
    split at taken
    · cases taken
      exact stays (.looks rfl)
    · cases taken
      exact stays (.erases standing)
  | readingStatus contactId change =>
    simp only [standing] at taken
    split at taken
    · cases taken
      exact stays (.looks rfl)
    · split at taken <;> cases taken <;> exact stays (.looks rfl)
  | lockingStatus contactId change oldStatus =>
    simp only [standing] at taken
    split at taken
    · cases taken
      exact stays (.looks rfl)
    · -- the change of the status is a write of the contact and, for a suppression, of the list of addresses
      obtain ⟨rfl, same, holds, spares⟩ := locked taken
      refine ⟨same, spares, ?_⟩
      apply Onward.writes
      · intro written member
        rcases List.mem_cons.mp member with rfl | listed
        · rw [Backed, contactId_record]
          exact holds
        · obtain ⟨suppression, rfl⟩ := mem_listing listed
          trivial
      · intro written member
        rcases List.mem_cons.mp member with rfl | listed
        · rfl
        · obtain ⟨suppression, rfl⟩ := mem_listing listed
          rfl

theorem writerOk_at (ok : WriterOk id store writer) (unready : writer.stage ≠ .ready)
    (stands : StageOk id store writer stage) : WriterOk id store (writer.at stage) where
  backed := ok.backed
  alone change member erases := by
    rw [erases_of_unready ok unready change member] at erases
    cases erases
  stands := ⟨stands.existing, stands.inserting, stands.lockingErasure, stands.erasing⟩

theorem writerOk_onward (ok : WriterOk id store writer) (unready : writer.stage ≠ .ready)
    (seen : view platform store writer = some tables) (spares : Spares id store next)
    (same : next.tables = store.tables) (onward : Onward id next tables writer after) : WriterOk id next after := by
  have settled : WriterOk id next writer := writerOk_spared ok spares
  cases onward with
  | looks plain => exact writerOk_at settled unready (stageOk_of_plain plain)
  | builds live =>
    apply writerOk_at settled unready
    constructor
    · intro existing works
      cases works
    · intro row input insertion builds
      cases builds
      exact live
    · intro contactId locking
      cases locking
    · intro existing erasing
      cases erasing
  | locks holds found live works erasing =>
    apply writerOk_at settled unready
    constructor
    · intro existing working
      rw [works] at working
      cases working
      rw [same]
      exact ⟨holds, liveAt_of_kept (view_kept ok unready seen) found live⟩
    · intro row input insertion inserting
      rw [inserting] at works
      cases works
    · intro contactId locking
      rw [locking] at works
      cases works
    · intro existing now
      rw [now] at works
      cases works
      -- nothing is written yet, so what the statement saw is what is committed
      obtain ⟨writes, batch⟩ := ok.stands.lockingErasure _ (erasing now)
      rw [view, writes] at seen
      cases seen
      rw [same]
      exact ⟨writes, batch, found, live⟩
  | assigns works =>
    apply writerOk_at settled unready
    constructor
    · intro existing working
      cases working
      exact settled.stands.existing _ works
    · intro row input insertion inserting
      cases inserting
    · intro contactId locking
      cases locking
    · intro existing erasing
      cases erasing
  | writes backed plain =>
    constructor
    · intro change member
      rcases List.mem_append.mp member with earlier | new
      · exact settled.backed change earlier
      · exact backed change new
    · intro change member erases
      rcases List.mem_append.mp member with earlier | new
      · rw [erases_of_unready ok unready change earlier] at erases
        cases erases
      · rw [plain change new] at erases
        cases erases
    · exact stageOk_of_plain rfl
  | erases erasing =>
    obtain ⟨writes, batch, found, live⟩ := settled.stands.erasing _ erasing
    have holds := (settled.stands.existing _ (by rw [erasing, Stage.existing])).1
    constructor
    · intro change member
      rw [writes] at member
      cases List.mem_singleton.mp member
      exact ⟨holds, found, live⟩
    · intro change member _
      rw [writes] at member ⊢
      cases List.mem_singleton.mp member
      exact ⟨rfl, batch, rfl⟩
    · exact stageOk_of_plain rfl

end Statements

end LocalCrm.Erasure
