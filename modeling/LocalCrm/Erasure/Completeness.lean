import LocalCrm.Erasure.Residue

/-! That a complete erasure stays complete. -/

set_option autoImplicit false

namespace LocalCrm.Erasure

open Library Webhooks Contacts Delivery

structure Erased (ids : SendIdScheme) (store : ErasureStore) (record : ErasureRecord) : Prop where
  sendEvents : ∀ row ∈ store.sendEvents.rows,
    row.isSentTo ids store.db.sends record.workspaceId record.contactId = true → holdsOnlyEvidence row.payload = true
  events : ∀ row ∈ store.events.rows, row.isOf record.workspaceId record.contactId = true → row.properties = []

def CompleteErased (ids : SendIdScheme) (store : ErasureStore) : Prop :=
  ∀ record ∈ store.erasureRecords.rows, record.status = .complete → Erased ids store record

def ScrubCursor.passed (cursor : Option ScrubCursor) (key : ScrubKey) : Bool :=
  cursor == some .done || !Keyset.isAfter (position cursor) key

def ErasureRecord.stand (record : ErasureRecord) (table : ScrubTable) : Option ScrubCursor :=
  if record.status = .complete then some .done else record.cursorFor table

def ScrubWorker.stand : ScrubWorker → ScrubTable → Option ScrubCursor
  | .walking _ .sends cursor, .sends | .walking _ .events cursor, .events => cursor
  | .opening _ .events, .sends | .walking _ .events _, .sends | .completing _, _ => some .done
  | _, _ => none

def SendsPassed (threads : ErasureThreads) (workspaceId : WorkspaceId) (contactId : ContactId) (key : ScrubKey) : Prop :=
  (∃ record ∈ threads.shared.erasureRecords.rows, record.workspaceId = workspaceId ∧ record.contactId = contactId ∧
    ScrubCursor.passed (record.stand .sends) key = true) ∨
  ∃ id job, (threads.own id).job = some job ∧ job.workspaceId = workspaceId ∧ job.contactId = contactId ∧
    ScrubCursor.passed ((threads.own id).stand .sends) key = true

/-- No batch stores an event that holds more than evidence where a walk over its contact's sends has been. -/
def ArrivesAhead (platform : Platform) (threads : ErasureThreads) (turn : Turn ScrubTurn Arrival)
    (_ : ErasureThreads) : Prop :=
  ∀ workspaceId rows, turn = .outside (.webhookRows workspaceId rows) →
    isWorkspaceSoftDeleted threads.shared.db.organizations workspaceId = false →
    ∀ row ∈ rows.map (resolvedRow platform threads.shared.db.sends workspaceId),
      threads.shared.sendEvents.rows.any (sameDedupKey row) = false → holdsOnlyEvidence row.payload = false →
      ∀ contactId, row.isSentTo platform.sendIds threads.shared.db.sends workspaceId contactId = true →
        ¬ SendsPassed threads workspaceId contactId (scrubKey row.occurredAt row.id)

/-- Of what lies behind the cursor, nothing is left to scrub. -/
def Swept (ids : SendIdScheme) (store : ErasureStore) (workspaceId : WorkspaceId) (contactId : ContactId)
    (table : ScrubTable) (cursor : Option ScrubCursor) : Prop :=
  ∀ key ∈ store.residue ids workspaceId contactId table, ScrubCursor.passed cursor key = false

structure StoreSound (ids : SendIdScheme) (store : ErasureStore) : Prop where
  resolved : store.Resolved ids
  gone : ∀ id record, store.erasureRecords.find? id = some record → store.Gone record.contactId
  swept : ∀ id record, store.erasureRecords.find? id = some record →
    ∀ table, Swept ids store record.workspaceId record.contactId table (record.stand table)

structure JobSound (ids : SendIdScheme) (store : ErasureStore) (job : ScrubJob) (worker : ScrubWorker) : Prop where
  record : ∃ record, store.erasureRecords.find? job.erasureRecordId = some record ∧
    record.workspaceId = job.workspaceId ∧ record.contactId = job.contactId
  swept : ∀ table, Swept ids store job.workspaceId job.contactId table (worker.stand table)

def WorkerSound (ids : SendIdScheme) (store : ErasureStore) (worker : ScrubWorker) : Prop :=
  ∀ job, worker.job = some job → JobSound ids store job worker

/-- What a scrub puts up with from the others: its record stays, and its contact gets nothing new to scrub. -/
structure Quiet (ids : SendIdScheme) (store next : ErasureStore) : Prop where
  records : ∀ id record, store.erasureRecords.find? id = some record →
    ∃ kept, next.erasureRecords.find? id = some kept ∧
      kept.workspaceId = record.workspaceId ∧ kept.contactId = record.contactId
  shrinks : ∀ workspaceId contactId, store.Gone contactId → store.Shrinks next ids workspaceId contactId

section Sweeping

variable {ids : SendIdScheme} {store next last : ErasureStore} {workspaceId : WorkspaceId} {contactId : ContactId}
  {table : ScrubTable} {cursor : Option ScrubCursor} {record : ErasureRecord} {worker : ScrubWorker} {job : ScrubJob}

theorem passed_none (key : ScrubKey) : ScrubCursor.passed none key = false := rfl

theorem passed_done (key : ScrubKey) : ScrubCursor.passed (some .done) key = true := rfl

theorem swept_none : Swept ids store workspaceId contactId table none := fun key _ => passed_none key

theorem residue_of_done (swept : Swept ids store workspaceId contactId table (some .done)) (key : ScrubKey) :
    key ∉ store.residue ids workspaceId contactId table :=
  fun left => Bool.noConfusion ((passed_done key).symm.trans (swept key left))

theorem swept_of_done (swept : Swept ids store workspaceId contactId table (some .done)) :
    Swept ids store workspaceId contactId table cursor :=
  fun key left => absurd left (residue_of_done swept key)

theorem swept_shrunk (swept : Swept ids store workspaceId contactId table cursor)
    (shrinks : store.Shrinks next ids workspaceId contactId) : Swept ids next workspaceId contactId table cursor :=
  fun key left => swept key (shrinks table key left)

theorem swept_cursorFor (swept : Swept ids store workspaceId contactId table (record.stand table)) :
    Swept ids store workspaceId contactId table (record.cursorFor table) := by
  unfold ErasureRecord.stand at swept
  split at swept
  · exact swept_of_done swept
  · exact swept

theorem swept_page (swept : Swept ids store workspaceId contactId table cursor)
    (cleaned : ∀ key ∈ next.residue ids workspaceId contactId table,
      key ∈ store.residue ids workspaceId contactId table ∧
        key ∉ store.scrubPage ids workspaceId contactId table cursor) :
    Swept ids next workspaceId contactId table
      (some (scrubbedTo (store.scrubPage ids workspaceId contactId table cursor))) := by
  intro key left
  obtain ⟨before, off⟩ := cleaned key left
  have linked := ErasureStore.linked_of_residue before
  have ahead := swept key before
  rw [ScrubCursor.passed, Bool.or_eq_false_iff, Bool.not_eq_false'] at ahead
  unfold scrubbedTo
  cases ends : (store.scrubPage ids workspaceId contactId table cursor).getLast? with
  | none =>
    -- behind an empty page there is no linked key at all
    have empty := List.getLast?_eq_none_iff.mp ends
    have behind := Keyset.not_isAfter_of_empty (by decide) empty linked
    exact Bool.noConfusion (ahead.2.symm.trans behind)
  | some final =>
    have beyond := (Keyset.mem_page_or_isAfter ErasureStore.nodup_linkedKeys linked ahead.2).resolve_left off
    have whole : Keyset.pageEnd (ScrubCursor.position cursor)
        (store.scrubPage ids workspaceId contactId table cursor) = some final := by
      rw [Keyset.pageEnd, ends]
      rfl
    rw [ErasureStore.scrubPage] at whole
    rw [whole] at beyond
    rw [ScrubCursor.passed, Bool.or_eq_false_iff, Bool.not_eq_false']
    exact ⟨rfl, beyond⟩

theorem quiet_trans (first : Quiet ids store next) (kept : GoneKept store.db next.db) (second : Quiet ids next last) :
    Quiet ids store last := by
  constructor
  · intro id record found
    obtain ⟨middle, there, sameWorkspace, sameContact⟩ := first.records id record found
    obtain ⟨final, stays, finalWorkspace, finalContact⟩ := second.records id middle there
    exact ⟨final, stays, finalWorkspace.trans sameWorkspace, finalContact.trans sameContact⟩
  · intro workspaceId contactId gone table key left
    obtain ⟨contact, found, anonymized⟩ := gone
    exact first.shrinks workspaceId contactId ⟨contact, found, anonymized⟩ table key
      (second.shrinks workspaceId contactId (kept contactId contact found anonymized) table key left)

theorem workerSound_quiet (sound : StoreSound ids store) (known : WorkerSound ids store worker)
    (quiet : Quiet ids store next) : WorkerSound ids next worker := by
  intro job mine
  obtain ⟨⟨record, found, sameWorkspace, sameContact⟩, swept⟩ := known job mine
  constructor
  · obtain ⟨kept, there, keptWorkspace, keptContact⟩ := quiet.records _ record found
    exact ⟨kept, there, keptWorkspace.trans sameWorkspace, keptContact.trans sameContact⟩
  · intro table
    have gone := sound.gone _ record found
    rw [sameContact] at gone
    exact swept_shrunk (swept table) (quiet.shrinks _ _ gone)

theorem storeSound_shrunk (sound : StoreSound ids store) (resolved : next.Resolved ids)
    (records : next.erasureRecords = store.erasureRecords) (kept : GoneKept store.db next.db)
    (shrinks : ∀ workspaceId contactId, store.Gone contactId → store.Shrinks next ids workspaceId contactId) :
    StoreSound ids next ∧ Quiet ids store next := by
  constructor
  · constructor
    · exact resolved
    · intro id record found
      rw [records] at found
      obtain ⟨contact, there, anonymized⟩ := sound.gone id record found
      exact kept record.contactId contact there anonymized
    · intro id record found table
      rw [records] at found
      exact swept_shrunk (sound.swept id record found table) (shrinks _ _ (sound.gone id record found))
  · constructor
    · intro id record found
      rw [records]
      exact ⟨record, found, rfl, rfl⟩
    · exact shrinks

end Sweeping

section Records

variable {ids : SendIdScheme} {store next : ErasureStore} {worker after : ScrubWorker} {choice : ScrubTurn}
  {job : ScrubJob} {table : ScrubTable} {cursor : Option ScrubCursor}

theorem find?_updateRecord {workspaceId : WorkspaceId} {erasureRecordId id : ErasureRecordId}
    {guard : ErasureRecord → Bool} {set : ErasureRecord → ErasureRecord} {keeps : ∀ record, (set record).id = record.id} :
    (store.updateRecord workspaceId erasureRecordId guard set keeps).erasureRecords.find? id =
      (store.erasureRecords.find? id).map fun record =>
        if record.workspaceId == workspaceId && record.id == erasureRecordId && guard record then set record else record :=
  @Table.find?_update _ _ _ _ store.erasureRecords id
    (fun record => record.workspaceId == workspaceId && record.id == erasureRecordId && guard record) set keeps

theorem updateRecord_sound {workspaceId : WorkspaceId} {erasureRecordId : ErasureRecordId}
    {guard : ErasureRecord → Bool} {set : ErasureRecord → ErasureRecord} {keeps : ∀ record, (set record).id = record.id}
    (sound : StoreSound ids store)
    (owner : ∀ record, (set record).workspaceId = record.workspaceId ∧ (set record).contactId = record.contactId)
    (stands : ∀ record, store.erasureRecords.find? erasureRecordId = some record → record.workspaceId = workspaceId →
      guard record = true →
      ∀ table, Swept ids store record.workspaceId record.contactId table ((set record).stand table)) :
    StoreSound ids (store.updateRecord workspaceId erasureRecordId guard set keeps) ∧
      Quiet ids store (store.updateRecord workspaceId erasureRecordId guard set keeps) := by
  constructor
  · constructor
    · exact sound.resolved
    · intro id written found
      rw [find?_updateRecord, Option.map_eq_some_iff] at found
      obtain ⟨record, there, same⟩ := found
      have gone := sound.gone id record there
      split at same
      · rw [← same, (owner record).2]
        exact gone
      · rw [← same]
        exact gone
    · intro id written found other
      rw [find?_updateRecord, Option.map_eq_some_iff] at found
      obtain ⟨record, there, same⟩ := found
      have keyed : record.id = id := Table.key_of_find? there
      split at same
      · next chosen =>
        rw [Bool.and_eq_true, Bool.and_eq_true, beq_iff_eq, beq_iff_eq] at chosen
        obtain ⟨⟨own, named⟩, guarded⟩ := chosen
        rw [← keyed, named] at there
        rw [← same, (owner record).1, (owner record).2]
        exact stands record there own guarded other
      · rw [← same]
        exact sound.swept id record there other
  · constructor
    · intro id record found
      rw [find?_updateRecord, found, Option.map_some]
      split
      · exact ⟨set record, rfl, owner record⟩
      · exact ⟨record, rfl, rfl, rfl⟩
    · intro workspaceId contactId _ table key left
      exact left

theorem JobSound.record_eq (known : JobSound ids store job worker) {record : ErasureRecord}
    (found : store.erasureRecords.find? job.erasureRecordId = some record) :
    record.workspaceId = job.workspaceId ∧ record.contactId = job.contactId := by
  obtain ⟨other, there, owner⟩ := known.record
  cases found.symm.trans there
  exact owner

theorem stand_advanced (record : ErasureRecord) (cursor : ScrubCursor) (processed : Nat) (table other : ScrubTable) :
    (record.advanced cursor processed table).stand other =
      if other = table then (if record.status = .complete then some .done else some cursor) else record.stand other := by
  cases table <;> cases other <;> rfl

theorem swept_walking (swept : Swept ids store job.workspaceId job.contactId table cursor)
    (earlier : table = .events → Swept ids store job.workspaceId job.contactId .sends (some .done))
    (other : ScrubTable) :
    Swept ids store job.workspaceId job.contactId other ((ScrubWorker.walking job table cursor).stand other) := by
  cases table with
  | sends =>
    cases other with
    | sends => exact swept
    | events => exact swept_none
  | events =>
    cases other with
    | sends => exact earlier rfl
    | events => exact swept

theorem swept_afterTable (swept : Swept ids store job.workspaceId job.contactId table (some .done))
    (earlier : table = .events → Swept ids store job.workspaceId job.contactId .sends (some .done))
    (other : ScrubTable) :
    Swept ids store job.workspaceId job.contactId other ((afterTable job table).stand other) := by
  have stands : (afterTable job table).stand other = (ScrubWorker.walking job table (some .done)).stand other := by
    cases table <;> cases other <;> rfl
  rw [stands]
  exact swept_walking swept earlier other

theorem JobSound.earlier (known : JobSound ids store job worker)
    (standing : worker = .opening job table ∨ worker = .walking job table cursor) (second : table = .events) :
    Swept ids store job.workspaceId job.contactId .sends (some .done) := by
  subst second
  have swept := known.swept .sends
  rcases standing with rfl | rfl <;> exact swept

theorem deliverJob_sound (workspaceId : WorkspaceId) (erasureRecordId : ErasureRecordId) :
    WorkerSound ids store (deliverJob store workspaceId erasureRecordId) := by
  unfold deliverJob
  cases found : store.erasureRecord? workspaceId erasureRecordId with
  | none => intro job mine; cases mine
  | some record =>
    obtain ⟨stored, own⟩ := Option.filter_eq_some_iff.mp found
    have there : ∃ other, store.erasureRecords.find? erasureRecordId = some other ∧
        other.workspaceId = workspaceId ∧ other.contactId = record.contactId := ⟨record, stored, eq_of_beq own, rfl⟩
    dsimp only
    cases record.status with
    | complete => intro job mine; cases mine
    | pending | scrubbing | failed =>
      intro job mine
      cases mine
      refine ⟨there, ?_⟩
      intro table
      cases table <;> exact swept_none

theorem openTable_sound (sound : StoreSound ids store) (known : JobSound ids store job (.opening job table)) :
    WorkerSound ids store (openTable store job table) := by
  obtain ⟨record, found, sameWorkspace, sameContact⟩ := known.record
  have loaded : store.loadErasureScrubCheckpoint job.workspaceId job.erasureRecordId table = record.cursorFor table := by
    simp [ErasureStore.loadErasureScrubCheckpoint, ErasureStore.erasureRecord?, found, sameWorkspace, Option.filter]
  have swept := swept_cursorFor (sound.swept _ record found table)
  rw [sameWorkspace, sameContact] at swept
  have earlier := known.earlier (.inl rfl : _ ∨ _ = ScrubWorker.walking job table none)
  unfold openTable
  rw [loaded]
  split
  · next ended =>
    rw [ended] at swept
    intro other mine
    have same : other = job := by
      cases table <;> cases mine <;> rfl
    subst same
    exact ⟨known.record, swept_afterTable swept earlier⟩
  · intro other mine
    cases mine
    exact ⟨known.record, swept_walking swept earlier⟩

def ErasureStore.cleaned (store : ErasureStore) (ids : SendIdScheme) (job : ScrubJob) (cursor : Option ScrubCursor)
    (table : ScrubTable) : ErasureStore :=
  let page := store.scrubPage ids job.workspaceId job.contactId table cursor
  match table with
  | .sends => store.rewritePayloads job.workspaceId page
  | .events => store.emptyProperties job.workspaceId page

theorem scrubTablePage_eq : scrubTablePage ids store job cursor table =
    (store.cleaned ids job cursor table).advanceErasureScrubCheckpoint job.workspaceId job.erasureRecordId table
      (scrubbedTo (store.scrubPage ids job.workspaceId job.contactId table cursor))
      (store.scrubPage ids job.workspaceId job.contactId table cursor).length := by
  cases table <;> rfl

theorem erasureRecords_cleaned : (store.cleaned ids job cursor table).erasureRecords = store.erasureRecords := by
  cases table <;> rfl

theorem db_cleaned : (store.cleaned ids job cursor table).db = store.db := by
  cases table <;> rfl

theorem residue_cleaned {workspaceId : WorkspaceId} {contactId : ContactId} {other : ScrubTable} {key : ScrubKey}
    (left : key ∈ (store.cleaned ids job cursor table).residue ids workspaceId contactId other) :
    key ∈ store.residue ids workspaceId contactId other ∧ (other = table → workspaceId = job.workspaceId →
      key ∉ store.scrubPage ids job.workspaceId job.contactId table cursor) := by
  apply ErasureStore.residue_scrubTablePage
  rw [scrubTablePage_eq]
  exact left

theorem resolved_cleaned (resolved : store.Resolved ids) : (store.cleaned ids job cursor table).Resolved ids := by
  cases table with
  | events => exact resolved
  | sends =>
    intro row stored sendId referred
    obtain ⟨before, member, rewritten⟩ := List.mem_map.mp stored
    split at rewritten
    · subst rewritten
      exact resolved before member sendId referred
    · subst rewritten
      exact resolved before member sendId referred

theorem page_sound (sound : StoreSound ids store) (known : JobSound ids store job (.walking job table cursor)) :
    StoreSound ids (scrubTablePage ids store job cursor table) ∧
      WorkerSound ids (scrubTablePage ids store job cursor table)
        (afterPage job table (store.scrubPage ids job.workspaceId job.contactId table cursor)) ∧
      Quiet ids store (scrubTablePage ids store job cursor table) := by
  have stood : Swept ids store job.workspaceId job.contactId table cursor := by
    have swept := known.swept table
    cases table <;> exact swept
  have reached : Swept ids (store.cleaned ids job cursor table) job.workspaceId job.contactId table
      (some (scrubbedTo (store.scrubPage ids job.workspaceId job.contactId table cursor))) := by
    apply swept_page stood
    intro key left
    obtain ⟨before, off⟩ := residue_cleaned left
    exact ⟨before, off rfl rfl⟩
  have shrinks : ∀ workspaceId contactId, store.Shrinks (store.cleaned ids job cursor table) ids workspaceId contactId :=
    fun workspaceId contactId other key left => (residue_cleaned left).1
  have kept : GoneKept store.db (store.cleaned ids job cursor table).db := goneKept_of_same (by rw [db_cleaned])
  obtain ⟨cleaned, rewriting⟩ := storeSound_shrunk sound (resolved_cleaned sound.resolved) erasureRecords_cleaned kept
    fun workspaceId contactId _ => shrinks workspaceId contactId
  have moved := fun processed keeps => @updateRecord_sound _ _ job.workspaceId job.erasureRecordId (fun _ => true)
    (fun record => record.advanced
      (scrubbedTo (store.scrubPage ids job.workspaceId job.contactId table cursor)) processed table) keeps cleaned
    (by intro record; cases table <;> exact ⟨rfl, rfl⟩)
    (by
      intro record found _ _ other
      rw [erasureRecords_cleaned] at found
      have before := swept_shrunk (sound.swept _ record found other) (shrinks _ _)
      rw [stand_advanced]
      split
      · next same =>
        subst same
        split
        · next complete =>
          rw [ErasureRecord.stand, if_pos complete] at before
          exact before
        · rw [(known.record_eq found).1, (known.record_eq found).2]
          exact reached
      · exact before)
  rw [scrubTablePage_eq]
  refine ⟨(moved _ _).1, ?_, quiet_trans rewriting kept (moved _ _).2⟩
  have quiet := quiet_trans rewriting kept (moved
    (store.scrubPage ids job.workspaceId job.contactId table cursor).length (by intro record; cases table <;> rfl)).2
  have knows : WorkerSound ids store (.walking job table cursor) := by
    intro other mine
    cases mine
    exact known
  have going := workerSound_quiet sound knows quiet job rfl
  have earlier := going.earlier (.inr rfl : ScrubWorker.walking job table cursor = .opening job table ∨ _)
  intro other mine
  unfold afterPage at mine ⊢
  split at mine
  · next ended =>
    rw [ended] at reached
    have same : other = job := by
      cases table <;> cases mine <;> rfl
    subst same
    exact ⟨going.record, swept_afterTable reached earlier⟩
  · cases mine
    exact ⟨going.record, swept_walking reached earlier⟩

theorem start_sound (now : Timestamp) (sound : StoreSound ids store)
    (known : JobSound ids store job (.starting job)) :
    StoreSound ids (store.markScrubStartedIfPending now job.workspaceId job.erasureRecordId) ∧
      WorkerSound ids (store.markScrubStartedIfPending now job.workspaceId job.erasureRecordId) (.opening job .sends) ∧
      Quiet ids store (store.markScrubStartedIfPending now job.workspaceId job.erasureRecordId) := by
  have written := @updateRecord_sound _ _ job.workspaceId job.erasureRecordId (fun record => record.status == .pending)
    (fun record => { record with status := .scrubbing, scrubStartedAt := some now }) (fun _ => rfl) sound
    (fun _ => ⟨rfl, rfl⟩)
    (by
      intro record found _ _ table
      have swept := swept_cursorFor (sound.swept _ record found table)
      cases table <;> exact swept)
  refine ⟨written.1, ?_, written.2⟩
  have knows : WorkerSound ids store (.opening job .sends) := by
    intro other mine
    cases mine
    refine ⟨known.record, ?_⟩
    intro table
    cases table <;> exact swept_none
  exact workerSound_quiet sound knows written.2

theorem idle_sound : WorkerSound ids store .idle := by
  intro job mine
  cases mine

theorem complete_sound (now : Timestamp) (sound : StoreSound ids store)
    (known : JobSound ids store job (.completing job)) :
    StoreSound ids (store.markScrubComplete now job.workspaceId job.erasureRecordId) ∧
      Quiet ids store (store.markScrubComplete now job.workspaceId job.erasureRecordId) := by
  apply @updateRecord_sound _ _ job.workspaceId job.erasureRecordId (fun _ => true)
    (fun record => { record with status := .complete, scrubCompletedAt := some now }) (fun _ => rfl) sound
    (fun _ => ⟨rfl, rfl⟩)
  intro record found _ _ table
  rw [(known.record_eq found).1, (known.record_eq found).2]
  exact known.swept table

theorem failed_sound (message : String) (sound : StoreSound ids store) :
    StoreSound ids (store.markScrubFailed job.workspaceId job.erasureRecordId message) ∧
      Quiet ids store (store.markScrubFailed job.workspaceId job.erasureRecordId message) := by
  apply @updateRecord_sound _ _ job.workspaceId job.erasureRecordId (fun _ => true)
    (fun record => { record with status := .failed, scrubError := some message }) (fun _ => rfl) sound
    (fun _ => ⟨rfl, rfl⟩)
  intro record found _ _ table
  have swept := swept_cursorFor (sound.swept _ record found table)
  cases table <;> exact swept

theorem quiet_refl : Quiet ids store store :=
  ⟨fun _ record found => ⟨record, found, rfl, rfl⟩, fun _ _ _ _ _ left => left⟩

theorem scrubTurn_sound {id : Nat} (sound : StoreSound ids store) (known : WorkerSound ids store worker)
    (turned : scrubTurn ids id store worker choice = some (next, after)) :
    StoreSound ids next ∧ WorkerSound ids next after ∧ Quiet ids store next := by
  have failing : ∀ job message, worker.job = some job → WorkerSound ids store (.failing job message) := by
    intro job message mine other same
    cases same
    refine ⟨(known job mine).record, ?_⟩
    intro table
    cases table <;> exact swept_none
  -- every choice but an error and a crash is made in one stage alone
  cases choice with
  | deliver workspaceId erasureRecordId =>
    cases worker with
    | idle =>
      cases turned
      exact ⟨sound, deliverJob_sound workspaceId erasureRecordId, quiet_refl⟩
    | starting | opening | walking | completing | failing => cases turned
  | start now =>
    cases worker with
    | starting job =>
      cases turned
      exact start_sound now sound (known job rfl)
    | idle | opening | walking | completing | failing => cases turned
  | loadCheckpoint =>
    cases worker with
    | opening job table =>
      cases turned
      exact ⟨sound, openTable_sound sound (known job rfl), quiet_refl⟩
    | idle | starting | walking | completing | failing => cases turned
  | page =>
    cases worker with
    | walking job table cursor =>
      cases turned
      exact page_sound sound (known job rfl)
    | idle | starting | opening | completing | failing => cases turned
  | complete now =>
    cases worker with
    | completing job =>
      cases turned
      obtain ⟨kept, quiet⟩ := complete_sound now sound (known job rfl)
      exact ⟨kept, idle_sound, quiet⟩
    | idle | starting | opening | walking | failing => cases turned
  | recordFailure =>
    cases worker with
    | failing job message =>
      cases turned
      obtain ⟨kept, quiet⟩ := @failed_sound _ _ job message sound
      exact ⟨kept, idle_sound, quiet⟩
    | idle | starting | opening | walking | completing => cases turned
  | error message =>
    cases worker with
    | starting job | opening job table | walking job table cursor | completing job =>
      cases turned
      exact ⟨sound, failing job message rfl, quiet_refl⟩
    | idle | failing => cases turned
  | crash =>
    cases worker <;> cases turned <;> exact ⟨sound, idle_sound, quiet_refl⟩

end Records

section Arrivals

variable {platform : Platform} {boundary : Boundary} {store next : ErasureStore} {arrival : Arrival}
  {workspaceId : WorkspaceId} {contactId : ContactId}

theorem insertRecord_sound {ids : SendIdScheme} {row : ErasureRecord} (sound : StoreSound ids store)
    (fresh : store.erasureRecords.find? row.id = none) (gone : store.Gone row.contactId)
    (unmoved : ∀ table, row.stand table = none) :
    StoreSound ids { store with erasureRecords := store.erasureRecords.insert row } ∧
      Quiet ids store { store with erasureRecords := store.erasureRecords.insert row } := by
  have inserted : ∀ {id record}, (store.erasureRecords.insert row).find? id = some record →
      store.erasureRecords.find? id = some record ∨ record = row := by
    intro id record found
    rw [Table.find?_insert] at found
    rcases Option.or_eq_some_iff.mp found with there | ⟨_, new⟩
    · exact .inl there
    · split at new
      · exact .inr (Option.some.inj new).symm
      · cases new
  constructor
  · constructor
    · exact sound.resolved
    · intro id record found
      rcases inserted found with there | rfl
      · exact sound.gone id record there
      · exact gone
    · intro id record found table
      rcases inserted found with there | rfl
      · exact sound.swept id record there table
      · rw [unmoved]
        exact swept_none
  · constructor
    · intro id record found
      refine ⟨record, ?_, rfl, rfl⟩
      show (store.erasureRecords.insert row).find? id = some record
      rw [Table.find?_insert, found]
      rfl
    · intro _ _ _ _ _ left
      exact left

theorem deleteContact_sound {now : Timestamp} {erasureRecordId : ErasureRecordId}
    (sound : StoreSound platform.sendIds store)
    (deleted : deleteContact platform store now workspaceId contactId erasureRecordId = some next) :
    StoreSound platform.sendIds next ∧ Quiet platform.sendIds store next := by
  unfold deleteContact at deleted
  cases found : contactOf store.db.contacts workspaceId contactId with
  | none =>
    rw [found] at deleted
    cases deleted
    exact ⟨sound, quiet_refl⟩
  | some existing =>
    rw [found] at deleted
    dsimp only at deleted
    split at deleted
    · cases deleted
      exact ⟨sound, quiet_refl⟩
    · next live =>
      split at deleted
      · cases deleted
      · next taken =>
        obtain ⟨there, own⟩ := contactOf_eq_some.mp found
        have keyed : existing.id = contactId := Table.key_of_find? there
        have fresh : store.erasureRecords.find? erasureRecordId = none := Option.not_isSome_iff_eq_none.mp taken
        have same := Option.some.inj deleted
        have contacts : next.db.contacts = store.db.contacts.update
            (fun contact => contact.workspaceId == workspaceId && contact.id == contactId && contact.anonymizedAt.isNone)
            fun contact => anonymized contact now := by
          rw [← same]
        have sends : next.db.sends = store.db.sends := by
          rw [← same]
        have whole : next = { store with
            db := next.db
            erasureRecords := store.erasureRecords.insert
              { id := erasureRecordId, workspaceId, contactId, anonymizedAt := now } } := by
          rw [← same]
        -- the row is anonymized first, and the record put beside it
        have kept : GoneKept store.db next.db := goneKept_anonymized contacts
        have between : StoreSound platform.sendIds { store with db := next.db } ∧
            Quiet platform.sendIds store { store with db := next.db } := by
          apply storeSound_shrunk sound
          · exact resolved_of_sendsKept sound.resolved rfl (sendsKept_of_same sends)
          · rfl
          · exact kept
          · intro owner other _
            exact ErasureStore.shrinks_of_same rfl rfl sends
        have gone : ({ store with db := next.db } : ErasureStore).Gone contactId := by
          refine ⟨anonymized existing now, ?_, rfl⟩
          show next.db.contacts.find? contactId = _
          rw [find?_anonymized contacts, there, Option.map_some, if_pos]
          simp [own, keyed, Option.not_isSome_iff_eq_none.mp live]
        have recorded := @insertRecord_sound _ _
          { id := erasureRecordId, workspaceId, contactId, anonymizedAt := now } between.1 fresh gone
          (by intro table; cases table <;> rfl)
        rw [whole]
        exact ⟨recorded.1, quiet_trans between.2 kept recorded.2⟩

theorem ingest_sound {newId : ContactId} {job : EventsIngestJob} (sound : StoreSound platform.sendIds store) :
    StoreSound platform.sendIds (processEventIngestJob platform store newId job) ∧
      Quiet platform.sendIds store (processEventIngestJob platform store newId job) := by
  unfold processEventIngestJob
  split
  · exact ⟨sound, quiet_refl⟩
  · split
    · exact ⟨sound, quiet_refl⟩
    · next result db upserted =>
      obtain ⟨sends, kept, live⟩ := upsert_kept upserted
      apply storeSound_shrunk sound
      · exact resolved_of_sendsKept sound.resolved rfl (sendsKept_of_same sends)
      · rfl
      · exact kept
      · intro workspaceId contactId gone table key left
        cases table with
        | sends =>
          rw [ErasureStore.mem_residue_sends] at left ⊢
          rw [← sends]
          exact left
        | events =>
          obtain ⟨row, stored, mine, more, same⟩ := ErasureStore.mem_residue_events.mp left
          rcases Table.mem_of_insert stored with before | rfl
          · exact ErasureStore.mem_residue_events.mpr ⟨row, before, mine, more, same⟩
          · -- the upsert cannot have ended at an anonymized contact
            obtain ⟨contact, found, anonymized⟩ := gone
            have named : result.contactId = contactId := by
              unfold EventRow.isOf at mine
              rw [Bool.and_eq_true, beq_iff_eq, beq_iff_eq] at mine
              exact mine.2
            rw [live contact (by rw [named]; exact found)] at anonymized
            cases anonymized

theorem arrive_sound (sound : StoreSound platform.sendIds store)
    (otherwise : ∀ workspaceId rows, arrival ≠ .webhookRows workspaceId rows)
    (arrived : arrive platform boundary store arrival = some next) :
    StoreSound platform.sendIds next ∧ Quiet platform.sendIds store next := by
  cases arrival with
  | deleteContact now workspaceId contactId erasureRecordId => exact deleteContact_sound sound arrived
  | ingest newId job =>
    cases arrived
    exact ingest_sound sound
  | webhookRows workspaceId rows => exact absurd rfl (otherwise workspaceId rows)
  | dispatch send =>
    cases arrived
    have kept : SendsKept store.db { store.db with sends := store.db.sends.insert send } := by
      intro intent other found
      refine ⟨other, ?_, rfl⟩
      show (store.db.sends.insert send).find? intent = some other
      rw [Table.find?_insert, found]
      rfl
    apply storeSound_shrunk sound
    · exact resolved_of_sendsKept sound.resolved rfl kept
    · rfl
    · exact goneKept_of_same rfl
    · intro workspaceId contactId _
      exact shrinks_of_sendsKept sound.resolved rfl rfl kept
  | contacts request =>
    obtain ⟨inside, db, taken, rfl⟩ := arrive_contacts arrived
    have kept := sendsKept_contactStep inside taken
    apply storeSound_shrunk sound
    · exact resolved_of_sendsKept sound.resolved rfl kept
    · rfl
    · exact goneKept_contactStep taken
    · intro workspaceId contactId _
      exact shrinks_of_sendsKept sound.resolved rfl rfl kept

end Arrivals

section ProviderEvents

variable {platform : Platform} {boundary : Boundary} {store : ErasureStore} {threads next : ErasureThreads}
  {turn : Turn ScrubTurn Arrival} {workspaceId : WorkspaceId} {contactId : ContactId} {rows : List SendEventRow}
  {row : SendEventRow}

theorem mem_insertSendEvents {sendEvents : Table SendEventRow.key}
    (stored : row ∈ (rows.foldl insertSendEvent sendEvents).rows) :
    row ∈ sendEvents.rows ∨ row ∈ rows ∧ sendEvents.rows.any (sameDedupKey row) = false := by
  induction rows generalizing sendEvents with
  | nil => exact .inl stored
  | cons head tail ih =>
    rcases ih stored with before | ⟨member, fresh⟩
    · unfold insertSendEvent at before
      split at before
      · exact .inl before
      · next fresh =>
        rcases Table.mem_of_insert before with old | rfl
        · exact .inl old
        · exact .inr ⟨List.mem_cons_self, Bool.not_eq_true _ ▸ fresh⟩
    · right
      refine ⟨List.mem_cons_of_mem _ member, ?_⟩
      unfold insertSendEvent at fresh
      split at fresh
      · exact fresh
      · rw [List.any_eq_false] at fresh ⊢
        intro other inside
        exact fresh other (Table.mem_insert inside)

theorem residue_insertSendEvents {key : ScrubKey} {table : ScrubTable}
    (left : key ∈ (insertSendEvents platform store workspaceId rows).residue platform.sendIds workspaceId contactId table) :
    key ∈ store.residue platform.sendIds workspaceId contactId table ∨ table = .sends ∧
      ∃ row ∈ rows.map (resolvedRow platform store.db.sends workspaceId),
        store.sendEvents.rows.any (sameDedupKey row) = false ∧ holdsOnlyEvidence row.payload = false ∧
          row.isSentTo platform.sendIds store.db.sends workspaceId contactId = true ∧
            scrubKey row.occurredAt row.id = key := by
  cases table with
  | events => exact .inl left
  | sends =>
    obtain ⟨row, stored, sent, more, same⟩ := ErasureStore.mem_residue_sends.mp left
    rcases mem_insertSendEvents stored with before | ⟨member, fresh⟩
    · exact .inl (ErasureStore.mem_residue_sends.mpr ⟨row, before, sent, more, same⟩)
    · exact .inr ⟨rfl, row, member, fresh, more, sent, same⟩

theorem resolved_insertSendEvents (resolved : store.Resolved platform.sendIds) :
    (insertSendEvents platform store workspaceId rows).Resolved platform.sendIds := by
  intro row stored sendId referred
  rcases mem_insertSendEvents stored with before | ⟨member, _⟩
  · exact resolved row before sendId referred
  · obtain ⟨raw, _, rfl⟩ := List.mem_map.mp member
    exact (Option.filter_eq_some_iff.mp referred).2

theorem residue_elsewhere {owner : WorkspaceId} {key : ScrubKey} {table : ScrubTable} (other : owner ≠ workspaceId)
    (left : key ∈ (insertSendEvents platform store workspaceId rows).residue platform.sendIds owner contactId table) :
    key ∈ store.residue platform.sendIds owner contactId table := by
  cases table with
  | events => exact left
  | sends =>
    obtain ⟨row, stored, sent, more, same⟩ := ErasureStore.mem_residue_sends.mp left
    rcases mem_insertSendEvents stored with before | ⟨member, _⟩
    · exact ErasureStore.mem_residue_sends.mpr ⟨row, before, sent, more, same⟩
    · obtain ⟨raw, _, rfl⟩ := List.mem_map.mp member
      exact absurd (ErasureStore.workspaceId_of_isSentTo sent).symm other

theorem swept_insertSendEvents {owner : WorkspaceId} {table : ScrubTable} {cursor : Option ScrubCursor}
    (active : isWorkspaceSoftDeleted threads.shared.db.organizations workspaceId = false)
    (ahead : ArrivesAhead platform threads (.outside (.webhookRows workspaceId rows)) next)
    (standing : table = .sends → ∀ key, ScrubCursor.passed cursor key = true →
      SendsPassed threads owner contactId key)
    (swept : Swept platform.sendIds threads.shared owner contactId table cursor) :
    Swept platform.sendIds (insertSendEvents platform threads.shared workspaceId rows) owner contactId table cursor := by
  intro key left
  by_cases same : owner = workspaceId
  · subst same
    rcases residue_insertSendEvents left with before | ⟨sends, row, member, fresh, more, sent, rfl⟩
    · exact swept key before
    · rw [← Bool.not_eq_true]
      intro passed
      exact ahead owner rows rfl active row member fresh more contactId sent (standing sends _ passed)
  · exact swept key (residue_elsewhere same left)

abbrev ErasureSound (platform : Platform) : ErasureThreads → Prop :=
  Threads.Sound (StoreSound platform.sendIds) fun _ => WorkerSound platform.sendIds

theorem webhookRows_sound (sound : ErasureSound platform threads)
    (active : isWorkspaceSoftDeleted threads.shared.db.organizations workspaceId = false)
    (ahead : ArrivesAhead platform threads (.outside (.webhookRows workspaceId rows)) next) :
    ErasureSound platform { threads with shared := insertSendEvents platform threads.shared workspaceId rows } := by
  constructor
  · constructor
    · exact resolved_insertSendEvents sound.shared.resolved
    · exact sound.shared.gone
    · intro id record found table
      apply swept_insertSendEvents active ahead _ (sound.shared.swept id record found table)
      intro sends key passed
      subst sends
      exact .inl ⟨record, Table.mem_of_find? found, rfl, rfl, passed⟩
  · intro id job mine
    obtain ⟨recorded, swept⟩ := sound.own id job mine
    refine ⟨recorded, ?_⟩
    intro table
    apply swept_insertSendEvents active ahead _ (swept table)
    intro sends key passed
    subst sends
    exact .inr ⟨id, job, mine, rfl, rfl, passed⟩

theorem erasureSound_quiet {after : ErasureStore} (sound : ErasureSound platform threads)
    (arrived : StoreSound platform.sendIds after ∧ Quiet platform.sendIds threads.shared after) :
    ErasureSound platform { threads with shared := after } :=
  ⟨arrived.1, fun id => workerSound_quiet sound.shared (sound.own id) arrived.2⟩

theorem erasureSound_step (sound : ErasureSound platform threads) (ahead : ArrivesAhead platform threads turn next)
    (taken : erasureStep platform boundary threads turn = some next) : ErasureSound platform next := by
  cases turn with
  | thread id choice =>
    obtain ⟨shared, own, turned, rfl⟩ := interleave_thread.mp taken
    obtain ⟨kept, knowing, quiet⟩ := scrubTurn_sound sound.shared (sound.own id) turned
    constructor
    · exact kept
    · intro other
      by_cases same : other = id
      · subst same
        simpa only [Function.update_self] using knowing
      · simp only [Function.update_of_ne same]
        exact workerSound_quiet sound.shared (sound.own other) quiet
  | outside event =>
    obtain ⟨shared, arrived, rfl⟩ := interleave_outside.mp taken
    by_cases batch : ∃ workspaceId rows, event = .webhookRows workspaceId rows
    · obtain ⟨workspaceId, rows, rfl⟩ := batch
      simp only [arrive] at arrived
      split at arrived
      · cases arrived
        exact sound
      · next active =>
        cases arrived
        exact webhookRows_sound sound (Bool.not_eq_true _ ▸ active) ahead
    · have otherwise : ∀ workspaceId rows, event ≠ .webhookRows workspaceId rows :=
        fun workspaceId rows same => batch ⟨workspaceId, rows, same⟩
      exact erasureSound_quiet sound (arrive_sound sound.shared otherwise arrived)

theorem completeErased (sound : StoreSound platform.sendIds store) : CompleteErased platform.sendIds store := by
  intro record member complete
  have ended : ∀ table, Swept platform.sendIds store record.workspaceId record.contactId table (some .done) := by
    intro table
    have swept := sound.swept record.id record (Table.find?_of_mem member) table
    rw [ErasureRecord.stand, if_pos complete] at swept
    exact swept
  constructor
  · intro row stored sent
    rw [← Bool.not_eq_false]
    intro more
    exact residue_of_done (ended .sends) _ (ErasureStore.mem_residue_sends.mpr ⟨row, stored, sent, more, rfl⟩)
  · intro row stored own
    by_contra more
    exact residue_of_done (ended .events) _ (ErasureStore.mem_residue_events.mpr ⟨row, stored, own, more, rfl⟩)

end ProviderEvents

/-- Where no late event with more than evidence is stored behind a walk, complete erasures are complete at
every moment. -/
theorem erasure_stays_complete {platform : Platform} {boundary : Boundary} {start : ErasureThreads}
    {turns : List (Turn ScrubTurn Arrival)} (resolved : start.shared.Resolved platform.sendIds)
    (unerased : start.shared.erasureRecords = .empty) (idle : ∀ id, start.own id = .idle)
    (ahead : Along (erasureStep platform boundary) (ArrivesAhead platform) start turns) :
    Along (erasureStep platform boundary) (fun _ _ next => CompleteErased platform.sendIds next.shared) start turns := by
  have begins : ErasureSound platform start := by
    constructor
    · refine ⟨resolved, ?_, ?_⟩
      all_goals
        intro id record found
        rw [unerased] at found
        cases found
    · intro id job mine
      rw [idle] at mine
      cases mine
  apply along_of_conforming _ _ begins ahead
  · intro threads turn next sound conforms taken
    exact erasureSound_step sound conforms taken
  · intro threads turn next sound conforms taken
    exact completeErased (erasureSound_step sound conforms taken).shared

section Traces

def mailed : Send :=
  { intent := .campaign 1 5 9, contactId := 9, status := .sent, queuedAt := 0 }

def mailedWorkspace : ErasureThreads where
  shared :=
    { db :=
        { organizations := Table.empty.insert { id := 1, slug := "acme" }
          contacts := Table.empty.insert { id := 9, workspaceId := 1, email := some "ada@example.com" }
          sends := Table.empty.insert mailed } }
  own _ := .idle

def opened (id : SendEventId) (occurredAt : Timestamp) (fields : List (String × JsonValue)) : Turn ScrubTurn Arrival :=
  .outside (.webhookRows 1
    [{ workspaceId := 1, id, occurredAt, sgEventId := "open", sendId := some (pairedSendIds.derive mailed.intent)
       eventType := "open", reason := none, payload := .object (("event", .string "open") :: fields) }])

def address : List (String × JsonValue) := [("email", .string "ada@example.com")]

def wholeScrub : List (Turn ScrubTurn Arrival) :=
  .outside (.deleteContact 3 1 9 1) ::
    [.deliver 1 1, .start 4, .loadCheckpoint, .page, .page, .loadCheckpoint, .page, .complete 5].map fun turn =>
      .thread 0 turn

def opensAround (fields : List (String × JsonValue)) : List (Turn ScrubTurn Arrival) :=
  opened 1 1 address :: (wholeScrub ++ [opened 2 2 fields])

def bringsEvidence : Turn ScrubTurn Arrival → Bool
  | .outside (.webhookRows _ rows) => rows.all fun row => holdsOnlyEvidence row.payload
  | _ => true

theorem arrivesAhead_of_evidence {platform : Platform} {threads next : ErasureThreads} {turn : Turn ScrubTurn Arrival}
    (brings : bringsEvidence turn = true) : ArrivesAhead platform threads turn next := by
  intro workspaceId rows same _ row member _ more
  subst same
  obtain ⟨raw, inside, rfl⟩ := List.mem_map.mp member
  have evidence := List.all_eq_true.mp brings raw inside
  cases more.symm.trans evidence

theorem timely_opens_erased :
    (run (erasureStep pairedPlatform asciiBoundary) mailedWorkspace (opensAround [])).any (fun final =>
      final.shared.erasureRecords.rows.any fun record => record.status == .complete) = true ∧
    Along (erasureStep pairedPlatform asciiBoundary)
      (fun _ _ next => CompleteErased pairedPlatform.sendIds next.shared) mailedWorkspace (opensAround []) := by
  constructor
  · decide +kernel
  · apply erasure_stays_complete _ rfl (fun _ => rfl)
    · intro next taken
      constructor
      · -- no walk has begun yet
        intro workspaceId rows _ _ row _ _ _ contactId _ passed
        rcases passed with ⟨record, member, _⟩ | ⟨id, job, mine, _⟩
        · cases member
        · cases mine
      · apply along_of_labels
        intro turn member threads next
        apply arrivesAhead_of_evidence
        have all : (wholeScrub ++ [opened 2 2 []]).all bringsEvidence = true := by decide +kernel
        exact List.all_eq_true.mp all turn member
    · intro row stored
      cases stored

/-- An open that comes in after the scrub is stored whole, and the record stays complete. -/
theorem late_open_keeps_address : mailedWorkspace.shared.Resolved pairedPlatform.sendIds ∧
    mailedWorkspace.shared.erasureRecords = .empty ∧ (∀ id, mailedWorkspace.own id = .idle) ∧
    ∃ final, run (erasureStep pairedPlatform asciiBoundary) mailedWorkspace (opensAround address) = some final ∧
      ¬ CompleteErased pairedPlatform.sendIds final.shared := by
  refine ⟨?_, rfl, fun _ => rfl, ?_⟩
  · intro row stored
    cases stored
  · have runs : (run (erasureStep pairedPlatform asciiBoundary) mailedWorkspace (opensAround address)).any (fun final =>
        final.shared.erasureRecords.rows.any fun record => record.status == .complete &&
          final.shared.sendEvents.rows.any fun row =>
            row.isSentTo pairedPlatform.sendIds final.shared.db.sends record.workspaceId record.contactId &&
              !holdsOnlyEvidence row.payload) = true := by
      decide +kernel
    obtain ⟨final, ran, left⟩ := Option.any_eq_true _ _ |>.mp runs
    obtain ⟨record, member, left⟩ := List.any_eq_true.mp left
    rw [Bool.and_eq_true, beq_iff_eq, List.any_eq_true] at left
    obtain ⟨complete, row, stored, more⟩ := left
    rw [Bool.and_eq_true, Bool.not_eq_true'] at more
    refine ⟨final, ran, ?_⟩
    intro erased
    have evidence := (erased record member complete).sendEvents row stored more.1
    cases more.2.symm.trans evidence

end Traces

end LocalCrm.Erasure
