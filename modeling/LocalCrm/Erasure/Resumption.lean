import LocalCrm.Erasure.Completeness
import LocalCrm.Erasure.Frame

/-! Scrubs that crash between two pages and are taken up again. -/

set_option autoImplicit false

namespace LocalCrm.Erasure

open Library Webhooks Contacts

def ScrubTurn.serves (job : ScrubJob) : ScrubTurn → Bool
  | .deliver workspaceId erasureRecordId => workspaceId == job.workspaceId && erasureRecordId == job.erasureRecordId
  | _ => true

def ScrubTurn.interrupts : ScrubTurn → Bool
  | .crash | .error _ | .recordFailure => true
  | _ => false

def ErasureStore.isComplete (store : ErasureStore) (job : ScrubJob) : Bool :=
  (store.erasureRecord? job.workspaceId job.erasureRecordId).any (·.status == .complete)

def ErasureRecord.scrubbed (record : ErasureRecord) : ScrubTable → Nat
  | .sends => record.sendsScrubbed
  | .events => record.eventsScrubbed

def alone (store : ErasureStore) : ErasureThreads where
  shared := store
  own _ := .idle

structure Commissioned (job : ScrubJob) (threads : ErasureThreads) : Prop where
  stored : ∃ anonymizedAt, threads.shared.erasureRecords.find? job.erasureRecordId =
    some { id := job.erasureRecordId, workspaceId := job.workspaceId, contactId := job.contactId, anonymizedAt }
  unclaimed : ∀ id other, (threads.own id).job = some other → other.erasureRecordId ≠ job.erasureRecordId

def ofJob (job : ScrubJob) (threads : ErasureThreads) : Turn ScrubTurn Arrival → Bool
  | .thread id _ => (threads.own id).job == some job
  | .outside _ => false

/-- One scrub of the record runs at a time, and nobody else writes to the rows of the contact or to the watched rows. -/
structure Undisturbed (ids : SendIdScheme) (job : ScrubJob) (watched : ScrubTable → Set (WorkspaceId × ScrubKey))
    (threads : ErasureThreads) (turn : Turn ScrubTurn Arrival) (next : ErasureThreads) : Prop where
  oneAtATime : ∀ id, turn = .thread id (.deliver job.workspaceId job.erasureRecordId) →
    ∀ other, (threads.own other).job ≠ some job
  linked : ofJob job threads turn = false → ∀ table key,
    key ∈ next.shared.linkedKeys ids job.workspaceId job.contactId table ↔
      key ∈ threads.shared.linkedKeys ids job.workspaceId job.contactId table
  sendEvents : ofJob job threads turn = false → ∀ key ∈ watched .sends,
    next.shared.sendEvents.find? key = threads.shared.sendEvents.find? key
  events : ofJob job threads turn = false → ∀ key ∈ watched .events,
    next.shared.events.find? key = threads.shared.events.find? key

def pageOf (ids : SendIdScheme) (job : ScrubJob) (store : ErasureStore) : ScrubWorker → ScrubTurn →
    Option (ScrubTable × List ScrubKey)
  | .walking mine table cursor, .page =>
    if mine = job then some (table, store.scrubPage ids job.workspaceId job.contactId table cursor) else none
  | _, _ => none

def committedPage (ids : SendIdScheme) (job : ScrubJob) (threads : ErasureThreads) :
    Turn ScrubTurn Arrival → Option (ScrubTable × List ScrubKey)
  | .thread id choice => pageOf ids job threads.shared (threads.own id) choice
  | .outside _ => none

def isOnPage (table : ScrubTable) (key : ScrubKey) (committed : ScrubTable × List ScrubKey) : Bool :=
  committed.1 == table && committed.2.contains key

def timesPaged (platform : Platform) (boundary : Boundary) (job : ScrubJob) (table : ScrubTable) (key : ScrubKey) :
    ErasureThreads → List (Turn ScrubTurn Arrival) → Nat :=
  totalAlong (erasureStep platform boundary) fun threads turn _ =>
    if (committedPage platform.sendIds job threads turn).any (isOnPage table key) then 1 else 0

def pagesCommitted (platform : Platform) (boundary : Boundary) (job : ScrubJob) :
    ErasureThreads → List (Turn ScrubTurn Arrival) → Nat :=
  totalAlong (erasureStep platform boundary) fun threads turn _ =>
    if (committedPage platform.sendIds job threads turn).isSome then 1 else 0

def ScrubWorker.agrees (record : ErasureRecord) : ScrubWorker → Prop
  | .opening _ .events => record.cursorFor .sends = some .done
  | .walking _ .sends cursor => record.cursorFor .sends = cursor ∧ cursor ≠ some .done
  | .walking _ .events cursor =>
    record.cursorFor .sends = some .done ∧ record.cursorFor .events = cursor ∧ cursor ≠ some .done
  | .completing _ => ∀ table, record.cursorFor table = some .done
  | _ => True

def ErasureStore.passedKeys (base : ErasureStore) (ids : SendIdScheme) (job : ScrubJob) (record : ErasureRecord)
    (table : ScrubTable) : List ScrubKey :=
  (base.linkedKeys ids job.workspaceId job.contactId table).filter (ScrubCursor.passed (record.cursorFor table))

/-- The record and the rows as a walk that has come so far leaves them, whoever took its steps. -/
structure Standing (ids : SendIdScheme) (base : ErasureStore) (job : ScrubJob)
    (watched : ScrubTable → Set (WorkspaceId × ScrubKey)) (record : ErasureRecord) (store : ErasureStore) : Prop where
  stored : store.erasureRecords.find? job.erasureRecordId = some record
  owner : record.workspaceId = job.workspaceId ∧ record.contactId = job.contactId
  counted : ∀ table, record.scrubbed table = (base.passedKeys ids job record table).length
  ended : record.status = .complete → ∀ table, record.cursorFor table = some .done
  linked : ∀ table key, key ∈ store.linkedKeys ids job.workspaceId job.contactId table ↔
    key ∈ base.linkedKeys ids job.workspaceId job.contactId table
  sendEvents : ∀ key ∈ watched .sends, store.sendEvents.find? key =
    (base.rewritePayloads job.workspaceId (base.passedKeys ids job record .sends)).sendEvents.find? key
  events : ∀ key ∈ watched .events, store.events.find? key =
    (base.emptyProperties job.workspaceId (base.passedKeys ids job record .events)).events.find? key

structure Manned (job : ScrubJob) (record : ErasureRecord) (own : Nat → ScrubWorker) : Prop where
  knows : ∀ id other, (own id).job = some other → other.erasureRecordId = job.erasureRecordId →
    other = job ∧ (own id).agrees record
  single : ∀ id other, (own id).job = some job → (own other).job = some job → id = other

def Moved (ids : SendIdScheme) (job : ScrubJob) (record after : ErasureRecord) (store : ErasureStore)
    (committed : Option (ScrubTable × List ScrubKey)) : Prop :=
  (committed = none ∧ ∀ table, after.cursorFor table = record.cursorFor table) ∨
  ∃ table page, record.cursorFor table ≠ some .done ∧
    page = store.scrubPage ids job.workspaceId job.contactId table (record.cursorFor table) ∧
    committed = some (table, page) ∧
    ∀ other, after.cursorFor other = if other = table then some (scrubbedTo page) else record.cursorFor other

def CarriedOn (ids : SendIdScheme) (base : ErasureStore) (job : ScrubJob)
    (watched : ScrubTable → Set (WorkspaceId × ScrubKey)) (record : ErasureRecord) (store shared : ErasureStore)
    (after : ScrubWorker) (committed : Option (ScrubTable × List ScrubKey)) : Prop :=
  ∃ later, Standing ids base job watched later shared ∧
    (∀ other, after.job = some other → other = job ∧ after.agrees later) ∧ Moved ids job record later store committed

section Pages

variable {ids : SendIdScheme} {store base : ErasureStore} {job : ScrubJob} {table : ScrubTable}
  {cursor : Option ScrubCursor} {key : ScrubKey}

theorem position_scrubbedTo (page : List ScrubKey) : ScrubCursor.position (some (scrubbedTo page)) = page.getLast? := by
  unfold scrubbedTo
  cases page.getLast? <;> rfl

theorem scrubbedTo_done (page : List ScrubKey) : some (scrubbedTo page) = some .done ↔ page = [] := by
  unfold scrubbedTo
  cases ends : page.getLast? with
  | none => simp [List.getLast?_eq_none_iff.mp ends]
  | some last =>
    have present : page ≠ [] := by
      intro empty
      rw [empty] at ends
      cases ends
    simp [present]

theorem passed_going (going : cursor ≠ some .done) :
    ScrubCursor.passed cursor key = !Keyset.isAfter (ScrubCursor.position cursor) key := by
  rw [ScrubCursor.passed, beq_eq_false_iff_ne.mpr going, Bool.false_or]

theorem passed_page (member : key ∈ store.linkedKeys ids job.workspaceId job.contactId table)
    (going : cursor ≠ some .done) :
    let page := store.scrubPage ids job.workspaceId job.contactId table cursor
    (if key ∈ page then 1 else 0) + (if ScrubCursor.passed cursor key then 1 else 0) =
      if ScrubCursor.passed (some (scrubbedTo page)) key then 1 else 0 := by
  intro page
  have moved := @Keyset.page_passes _ _ (ScrubCursor.position cursor) _ key erasureScrubPageLimit _ (by decide)
    ErasureStore.nodup_linkedKeys member
  have before : (if ScrubCursor.passed cursor key then 1 else 0) =
      if Keyset.isAfter (ScrubCursor.position cursor) key then 0 else 1 := by
    rw [passed_going going]
    cases Keyset.isAfter (ScrubCursor.position cursor) key <;> rfl
  have after : (if ScrubCursor.passed (some (scrubbedTo page)) key then 1 else 0) =
      (if page.isEmpty then 1 else 0) + if Keyset.isAfter page.getLast? key then 0 else 1 := by
    by_cases empty : page = []
    · have done := (scrubbedTo_done page).mpr empty
      rw [done, passed_done, empty]
      rfl
    · have onward : some (scrubbedTo page) ≠ some .done := fun done => empty ((scrubbedTo_done page).mp done)
      rw [passed_going onward, position_scrubbedTo, List.isEmpty_eq_false_iff.mpr empty]
      cases Keyset.isAfter page.getLast? key <;> rfl
  rw [before, after]
  convert moved <;> rfl

theorem not_passed_of_page (onPage : key ∈ store.scrubPage ids job.workspaceId job.contactId table cursor)
    (going : cursor ≠ some .done) : ScrubCursor.passed cursor key = false := by
  rw [passed_going going, Bool.not_eq_false']
  exact (Keyset.mem_page onPage).2

theorem passed_scrubbedTo (member : key ∈ store.linkedKeys ids job.workspaceId job.contactId table)
    (going : cursor ≠ some .done) :
    ScrubCursor.passed (some (scrubbedTo (store.scrubPage ids job.workspaceId job.contactId table cursor))) key = true ↔
      key ∈ store.scrubPage ids job.workspaceId job.contactId table cursor ∨ ScrubCursor.passed cursor key = true := by
  have once := @passed_page ids store job table cursor key member going
  by_cases onPage : key ∈ store.scrubPage ids job.workspaceId job.contactId table cursor
  · simp [onPage, not_passed_of_page onPage going] at once ⊢
    exact once
  · simp only [onPage, if_false, Nat.zero_add, false_or] at once ⊢
    grind

theorem linkedKeys_cleaned {mine : ScrubJob} {other : ScrubTable} :
    (store.cleaned ids mine cursor table).linkedKeys ids job.workspaceId job.contactId other =
      store.linkedKeys ids job.workspaceId job.contactId other := by
  cases table with
  | sends =>
    cases other with
    | events => rfl
    | sends =>
      simp only [ErasureStore.linkedKeys, ErasureStore.cleaned, ErasureStore.rewritePayloads, Table.update,
        List.filter_map, List.map_map]
      congr 1
      · funext row
        simp only [Function.comp_apply]
        split <;> rfl
      · congr 1
        funext row
        simp only [Function.comp_apply]
        split <;> rfl
  | events =>
    cases other with
    | sends => rfl
    | events =>
      simp only [ErasureStore.linkedKeys, ErasureStore.cleaned, ErasureStore.emptyProperties, Table.update,
        List.filter_map, List.map_map]
      congr 1
      · funext row
        simp only [Function.comp_apply]
        split <;> rfl
      · congr 1
        funext row
        simp only [Function.comp_apply]
        split <;> rfl

end Pages

section Frames

variable {ids : SendIdScheme} {platform : Platform} {boundary : Boundary} {store shared : ErasureStore} {id : Nat}
  {worker after : ScrubWorker} {choice : ScrubTurn} {job : ScrubJob} {record : ErasureRecord} {own : Nat → ScrubWorker}

theorem find?_scrubTurn {erasureRecordId : ErasureRecordId}
    (apart : ∀ other, worker.job = some other → other.erasureRecordId ≠ erasureRecordId)
    (turned : scrubTurn ids id store worker choice = some (shared, after)) :
    shared.erasureRecords.find? erasureRecordId = store.erasureRecords.find? erasureRecordId := by
  have unnamed : ∀ {mine : ScrubJob} {before : ErasureStore} {guard : ErasureRecord → Bool}
      {set : ErasureRecord → ErasureRecord} {keeps : ∀ record, (set record).id = record.id},
      mine.erasureRecordId ≠ erasureRecordId →
        (before.updateRecord mine.workspaceId mine.erasureRecordId guard set keeps).erasureRecords.find?
          erasureRecordId = before.erasureRecords.find? erasureRecordId := by
    intro mine before guard set keeps differs
    rw [find?_updateRecord]
    cases found : before.erasureRecords.find? erasureRecordId with
    | none => rfl
    | some row =>
      have keyed : row.id = erasureRecordId := Table.key_of_find? found
      simp [keyed, Ne.symm differs]
  unfold scrubTurn at turned
  split at turned <;> cases turned
  case h_2 => exact unnamed (apart _ rfl)
  case h_4 mine table cursor =>
    rw [scrubTablePage_eq, ← @erasureRecords_cleaned ids store mine table cursor]
    exact unnamed (apart _ rfl)
  case h_5 => exact unnamed (apart _ rfl)
  case h_10 => exact unnamed (apart _ rfl)
  all_goals rfl

theorem job_scrubTurn {other : ScrubJob} (turned : scrubTurn ids id store worker choice = some (shared, after))
    (working : after.job = some other) : worker.job = some other ∨
      ∃ workspaceId erasureRecordId, choice = .deliver workspaceId erasureRecordId ∧ shared = store ∧
        after = deliverJob store workspaceId erasureRecordId := by
  unfold scrubTurn at turned
  split at turned
  case h_1 workspaceId erasureRecordId =>
    cases turned
    exact .inr ⟨workspaceId, erasureRecordId, rfl, rfl, rfl⟩
  case h_3 table =>
    cases turned
    left
    unfold openTable at working
    split at working
    · cases table <;> exact working
    · exact working
  case h_4 table cursor =>
    cases turned
    left
    unfold afterPage at working
    split at working
    · cases table <;> exact working
    · exact working
  case h_12 => cases turned
  all_goals
    cases turned
    first
    | exact .inl working
    | cases working

theorem deliverJob_job {workspaceId : WorkspaceId} {erasureRecordId : ErasureRecordId} {other : ScrubJob}
    (working : (deliverJob store workspaceId erasureRecordId).job = some other) :
    (∃ record, store.erasureRecord? workspaceId erasureRecordId = some record ∧
      other = { workspaceId, contactId := record.contactId, erasureRecordId }) ∧
    ∀ record, (deliverJob store workspaceId erasureRecordId).agrees record := by
  unfold deliverJob at working ⊢
  cases found : store.erasureRecord? workspaceId erasureRecordId with
  | none =>
    rw [found] at working
    cases working
  | some record =>
    rw [found] at working
    simp only at working ⊢
    cases status : record.status <;> rw [status] at working <;> cases working <;>
      exact ⟨⟨record, rfl, rfl⟩, fun _ => trivial⟩

theorem find?_arrive {arrival : Arrival} {erasureRecordId : ErasureRecordId}
    (found : store.erasureRecords.find? erasureRecordId = some record)
    (arrived : arrive platform boundary store arrival = some shared) :
    shared.erasureRecords.find? erasureRecordId = some record := by
  cases arrival with
  | deleteContact now workspaceId id newId =>
    simp only [arrive, deleteContact] at arrived
    split at arrived
    · cases arrived
      exact found
    · split at arrived
      · cases arrived
        exact found
      · split at arrived
        · cases arrived
        · cases arrived
          rw [Table.find?_insert, found, Option.some_or]
  | ingest newId mine =>
    cases arrived
    unfold processEventIngestJob
    split
    · exact found
    · split <;> exact found
  | webhookRows workspaceId rows =>
    simp only [arrive] at arrived
    split at arrived <;> cases arrived <;> exact found
  | dispatch send =>
    cases arrived
    exact found
  | contacts request =>
    cases request with
    | elsewhere other => cases arrived
    | _ =>
      simp only [arrive, Option.map_eq_some_iff] at arrived
      obtain ⟨db, _, rfl⟩ := arrived
      exact found

theorem manned_own {later : ErasureRecord} (manned : Manned job record own) (mine : (own id).job = some job)
    (goes : ∀ other, after.job = some other → other = job ∧ after.agrees later) :
    Manned job later (Function.update own id after) := by
  have others : ∀ other, other ≠ id → (own other).job ≠ some job := by
    intro other differs same
    exact differs (manned.single other id same mine)
  constructor
  · intro other its working named
    by_cases same : other = id
    · subst same
      rw [Function.update_self] at working ⊢
      exact goes its working
    · rw [Function.update_of_ne same] at working
      have equal := (manned.knows other its working named).1
      subst equal
      exact absurd working (others other same)
  · intro first second firstIs secondIs
    by_cases same : first = id
    · by_cases also : second = id
      · rw [same, also]
      · rw [Function.update_of_ne also] at secondIs
        exact absurd secondIs (others second also)
    · rw [Function.update_of_ne same] at firstIs
      exact absurd firstIs (others first same)

theorem manned_other (manned : Manned job record own)
    (goes : ∀ other, after.job = some other → other.erasureRecordId = job.erasureRecordId →
      other = job ∧ after.agrees record ∧ ∀ id, (own id).job ≠ some job) :
    Manned job record (Function.update own id after) := by
  constructor
  · intro other its working named
    by_cases same : other = id
    · subst same
      rw [Function.update_self] at working ⊢
      obtain ⟨equal, agrees, _⟩ := goes its working named
      exact ⟨equal, agrees⟩
    · rw [Function.update_of_ne same] at working ⊢
      exact manned.knows other its working named
  · intro first second firstIs secondIs
    by_cases same : first = id
    · by_cases also : second = id
      · rw [same, also]
      · rw [same, Function.update_self] at firstIs
        rw [Function.update_of_ne also] at secondIs
        exact absurd secondIs ((goes job firstIs rfl).2.2 second)
    · rw [Function.update_of_ne same] at firstIs
      by_cases also : second = id
      · rw [also, Function.update_self] at secondIs
        exact absurd firstIs ((goes job secondIs rfl).2.2 first)
      · rw [Function.update_of_ne also] at secondIs
        exact manned.single first second firstIs secondIs

end Frames

section Steps

variable {ids : SendIdScheme} {platform : Platform} {boundary : Boundary} {base store shared : ErasureStore}
  {job : ScrubJob} {record : ErasureRecord} {watched : ScrubTable → Set (WorkspaceId × ScrubKey)}
  {threads next : ErasureThreads} {turn : Turn ScrubTurn Arrival} {table : ScrubTable}

theorem passedKeys_congr {after : ErasureRecord} (same : after.cursorFor table = record.cursorFor table) :
    base.passedKeys ids job after table = base.passedKeys ids job record table := by
  rw [ErasureStore.passedKeys, ErasureStore.passedKeys, same]

theorem Standing.record? (standing : Standing ids base job watched record store) :
    store.erasureRecord? job.workspaceId job.erasureRecordId = some record := by
  rw [ErasureStore.erasureRecord?, standing.stored, Option.filter_some, standing.owner.1, beq_self_eq_true, if_pos rfl]

theorem Standing.loaded (standing : Standing ids base job watched record store) :
    store.loadErasureScrubCheckpoint job.workspaceId job.erasureRecordId table = record.cursorFor table := by
  rw [ErasureStore.loadErasureScrubCheckpoint, standing.record?, Option.bind_some]

theorem standing_marked {guard : ErasureRecord → Bool} {set : ErasureRecord → ErasureRecord}
    {keeps : ∀ record, (set record).id = record.id} (standing : Standing ids base job watched record store)
    (owner : (set record).workspaceId = record.workspaceId ∧ (set record).contactId = record.contactId)
    (cursors : ∀ table, (set record).cursorFor table = record.cursorFor table)
    (counts : ∀ table, (set record).scrubbed table = record.scrubbed table)
    (ended : (set record).status = .complete → ∀ table, record.cursorFor table = some .done) :
    ∃ after, Standing ids base job watched after
        (store.updateRecord job.workspaceId job.erasureRecordId guard set keeps) ∧
      (guard record = true → after = set record) ∧ ∀ table, after.cursorFor table = record.cursorFor table := by
  have keyed : record.id = job.erasureRecordId := Table.key_of_find? standing.stored
  have written : (store.updateRecord job.workspaceId job.erasureRecordId guard set keeps).erasureRecords.find?
      job.erasureRecordId = some (if guard record then set record else record) := by
    rw [find?_updateRecord, standing.stored, Option.map_some, standing.owner.1, keyed]
    simp
  by_cases guarded : guard record = true
  · rw [if_pos guarded] at written
    refine ⟨set record, ?_, fun _ => rfl, cursors⟩
    constructor
    · exact written
    · rw [owner.1, owner.2]
      exact standing.owner
    · intro table
      rw [counts, passedKeys_congr (cursors table)]
      exact standing.counted table
    · intro complete table
      rw [cursors]
      exact ended complete table
    · exact standing.linked
    · rw [passedKeys_congr (cursors .sends)]
      exact standing.sendEvents
    · rw [passedKeys_congr (cursors .events)]
      exact standing.events
  · rw [if_neg guarded] at written
    refine ⟨record, ?_, fun holds => absurd holds guarded, fun _ => rfl⟩
    exact ⟨written, standing.owner, standing.counted, standing.ended, standing.linked, standing.sendEvents,
      standing.events⟩

theorem mem_passedKeys_page {after : ErasureRecord} {key : ScrubKey}
    (standing : Standing ids base job watched record store)
    (going : record.cursorFor table ≠ some .done)
    (moved : after.cursorFor table =
      some (scrubbedTo (store.scrubPage ids job.workspaceId job.contactId table (record.cursorFor table)))) :
    key ∈ base.passedKeys ids job after table ↔
      key ∈ base.passedKeys ids job record table ∨
        key ∈ store.scrubPage ids job.workspaceId job.contactId table (record.cursorFor table) := by
  have linked : key ∈ store.scrubPage ids job.workspaceId job.contactId table (record.cursorFor table) →
      key ∈ base.linkedKeys ids job.workspaceId job.contactId table :=
    fun onPage => (standing.linked table key).mp (Keyset.mem_page onPage).1
  rw [ErasureStore.passedKeys, ErasureStore.passedKeys, List.mem_filter, List.mem_filter, moved]
  constructor
  · rintro ⟨member, passed⟩
    rcases (passed_scrubbedTo ((standing.linked table key).mpr member) going).mp passed with onPage | before
    · exact .inr onPage
    · exact .inl ⟨member, before⟩
  · rintro (⟨member, before⟩ | onPage)
    · exact ⟨member, (passed_scrubbedTo ((standing.linked table key).mpr member) going).mpr (.inr before)⟩
    · exact ⟨linked onPage, (passed_scrubbedTo (Keyset.mem_page onPage).1 going).mpr (.inl onPage)⟩

theorem length_passedKeys_page {after : ErasureRecord} (standing : Standing ids base job watched record store)
    (going : record.cursorFor table ≠ some .done)
    (moved : after.cursorFor table =
      some (scrubbedTo (store.scrubPage ids job.workspaceId job.contactId table (record.cursorFor table)))) :
    (base.passedKeys ids job after table).length = (base.passedKeys ids job record table).length +
      (store.scrubPage ids job.workspaceId job.contactId table (record.cursorFor table)).length := by
  have linkedOnce := @ErasureStore.nodup_linkedKeys ids base job.workspaceId job.contactId table
  have pageOnce : (store.scrubPage ids job.workspaceId job.contactId table (record.cursorFor table)).Nodup :=
    (Keyset.ascending_page ErasureStore.nodup_linkedKeys).imp ne_of_lt
  rw [← List.length_append]
  apply List.Perm.length_eq
  apply (List.perm_ext_iff_of_nodup (linkedOnce.filter _) _).mpr
  · intro key
    rw [List.mem_append]
    exact mem_passedKeys_page standing going moved
  · apply List.nodup_append.mpr
    refine ⟨linkedOnce.filter _, pageOnce, ?_⟩
    rintro key before other onPage rfl
    have passed := (List.mem_filter.mp before).2
    rw [not_passed_of_page onPage going] at passed
    cases passed

theorem rewritten_onward {before page after : List ScrubKey} {wanted : WorkspaceId × ScrubKey}
    (whole : ∀ key, key ∈ after ↔ key ∈ before ∨ key ∈ page) (apart : ∀ key ∈ before, key ∉ page)
    (same : store.sendEvents.find? wanted = (base.rewritePayloads job.workspaceId before).sendEvents.find? wanted) :
    (store.rewritePayloads job.workspaceId page).sendEvents.find? wanted =
      (base.rewritePayloads job.workspaceId after).sendEvents.find? wanted := by
  rw [find?_rewritePayloads, same, find?_rewritePayloads, find?_rewritePayloads]
  cases base.sendEvents.find? wanted with
  | none => rfl
  | some row =>
    simp only [Option.map_some, Option.some.injEq, List.contains_eq_mem, whole, Bool.and_eq_true, beq_iff_eq,
      decide_eq_true_eq]
    by_cases within : row.workspaceId = job.workspaceId
    · by_cases passed : scrubKey row.occurredAt row.id ∈ before
      · simp [within, passed, apart _ passed]
      · simp [within, passed]
    · simp [within]

theorem emptied_onward {before page after : List ScrubKey} {wanted : WorkspaceId × ScrubKey}
    (whole : ∀ key, key ∈ after ↔ key ∈ before ∨ key ∈ page)
    (same : store.events.find? wanted = (base.emptyProperties job.workspaceId before).events.find? wanted) :
    (store.emptyProperties job.workspaceId page).events.find? wanted =
      (base.emptyProperties job.workspaceId after).events.find? wanted := by
  have named : ∀ id, id ∈ after.map (fun key => (ofLex key).2) ↔
      id ∈ before.map (fun key => (ofLex key).2) ∨ id ∈ page.map (fun key => (ofLex key).2) := by
    intro id
    simp only [List.mem_map, whole, or_and_right, exists_or]
  rw [find?_emptyProperties, same, find?_emptyProperties, find?_emptyProperties]
  cases base.events.find? wanted with
  | none => rfl
  | some row =>
    simp only [Option.map_some, Option.some.injEq, List.contains_eq_mem, Bool.and_eq_true, beq_iff_eq,
      decide_eq_true_eq, named]
    by_cases within : row.workspaceId = job.workspaceId
    · by_cases passed : row.id ∈ before.map (fun key => (ofLex key).2)
      · simp [within, passed]
      · simp only [within, passed, and_false, if_false, true_and, false_or]
    · simp [within]

theorem standing_page (standing : Standing ids base job watched record store)
    (going : record.cursorFor table ≠ some .done) :
    ∃ after, Standing ids base job watched after (scrubTablePage ids store job (record.cursorFor table) table) ∧
      ∀ other, after.cursorFor other = if other = table then
        some (scrubbedTo (store.scrubPage ids job.workspaceId job.contactId table (record.cursorFor table)))
        else record.cursorFor other := by
  let page := store.scrubPage ids job.workspaceId job.contactId table (record.cursorFor table)
  let after := record.advanced (scrubbedTo page) page.length table
  have cursors : ∀ other, after.cursorFor other =
      if other = table then some (scrubbedTo page) else record.cursorFor other := by
    intro other
    cases table <;> cases other <;> rfl
  have moved : after.cursorFor table = some (scrubbedTo page) := by
    rw [cursors, if_pos rfl]
  have unmoved : ∀ other, other ≠ table → after.cursorFor other = record.cursorFor other := by
    intro other differs
    rw [cursors, if_neg differs]
  have keyed : record.id = job.erasureRecordId := Table.key_of_find? standing.stored
  refine ⟨after, ?_, cursors⟩
  rw [scrubTablePage_eq]
  constructor
  · rw [ErasureStore.advanceErasureScrubCheckpoint, find?_updateRecord, erasureRecords_cleaned, standing.stored,
      Option.map_some, standing.owner.1, keyed, beq_self_eq_true, beq_self_eq_true]
    rfl
  · cases table <;> exact standing.owner
  · intro other
    by_cases same : other = table
    · subst same
      rw [length_passedKeys_page standing going moved, ← standing.counted]
      cases other <;> rfl
    · rw [passedKeys_congr (unmoved other same), ← standing.counted]
      cases table <;> cases other <;> first | rfl | exact absurd rfl same
  · intro complete
    have before : record.status = .complete := by
      cases table <;> exact complete
    exact absurd (standing.ended before table) going
  · intro other key
    have same : ∀ before : ErasureStore, (before.advanceErasureScrubCheckpoint job.workspaceId job.erasureRecordId table
        (scrubbedTo page) page.length).linkedKeys ids job.workspaceId job.contactId other =
          before.linkedKeys ids job.workspaceId job.contactId other := by
      intro before
      cases other <;> rfl
    rw [same, linkedKeys_cleaned]
    exact standing.linked other key
  · intro wanted member
    cases table with
    | sends =>
      apply rewritten_onward (fun key => mem_passedKeys_page standing going moved) _ (standing.sendEvents wanted member)
      intro key before onPage
      have passed := (List.mem_filter.mp before).2
      rw [not_passed_of_page onPage going] at passed
      cases passed
    | events =>
      exact standing.sendEvents wanted member
  · intro wanted member
    cases table with
    | sends =>
      exact standing.events wanted member
    | events =>
      exact emptied_onward (fun key => mem_passedKeys_page standing going moved) (standing.events wanted member)

theorem agrees_afterTable (ended : record.cursorFor table = some .done)
    (earlier : table = .events → record.cursorFor .sends = some .done) : (afterTable job table).agrees record := by
  cases table with
  | sends => exact ended
  | events =>
    intro other
    cases other with
    | sends => exact earlier rfl
    | events => exact ended

theorem job_afterTable : (afterTable job table).job = some job := by
  cases table <;> rfl

theorem agrees_walking {cursor : Option ScrubCursor} (stands : record.cursorFor table = cursor)
    (going : cursor ≠ some .done) (earlier : table = .events → record.cursorFor .sends = some .done) :
    (ScrubWorker.walking job table cursor).agrees record := by
  cases table with
  | sends => exact ⟨stands, going⟩
  | events => exact ⟨earlier rfl, stands, going⟩

theorem agrees_openTable (standing : Standing ids base job watched record store)
    (earlier : table = .events → record.cursorFor .sends = some .done) :
    (openTable store job table).job = some job ∧ (openTable store job table).agrees record := by
  unfold openTable
  split
  · next ended => exact ⟨job_afterTable, agrees_afterTable (standing.loaded.symm.trans ended) earlier⟩
  · next going => exact ⟨rfl, agrees_walking standing.loaded.symm going earlier⟩

theorem agrees_afterPage {page : List ScrubKey} (moved : record.cursorFor table = some (scrubbedTo page))
    (earlier : table = .events → record.cursorFor .sends = some .done) :
    (afterPage job table page).job = some job ∧ (afterPage job table page).agrees record := by
  unfold afterPage
  split
  · next ended =>
    rw [ended] at moved
    exact ⟨job_afterTable, agrees_afterTable moved earlier⟩
  · next going =>
    refine ⟨rfl, agrees_walking moved ?_ earlier⟩
    intro ended
    exact going (Option.some.inj ended)

theorem standing_turn {id : Nat} {worker after : ScrubWorker} {choice : ScrubTurn}
    (standing : Standing ids base job watched record store) (mine : worker.job = some job)
    (agrees : worker.agrees record)
    (turned : scrubTurn ids id store worker choice = some (shared, after)) :
    CarriedOn ids base job watched record store shared after (pageOf ids job store worker choice) := by
  -- a turn that writes nothing to the evidence
  have marked : ∀ later, Standing ids base job watched later shared → pageOf ids job store worker choice = none →
      (∀ table, later.cursorFor table = record.cursorFor table) →
      (∀ other, after.job = some other → other = job ∧ after.agrees later) →
        CarriedOn ids base job watched record store shared after (pageOf ids job store worker choice) :=
    fun later stands unpaged cursors goes => ⟨later, stands, goes, .inl ⟨unpaged, cursors⟩⟩
  unfold scrubTurn at turned
  split at turned
  case h_1 => cases mine
  case h_2 now =>
    cases mine
    cases turned
    obtain ⟨later, stands, _, cursors⟩ := @standing_marked ids base store job record watched
      (fun record => record.status == .pending)
      (fun record => { record with status := .scrubbing, scrubStartedAt := some now }) (fun _ => rfl) standing
      ⟨rfl, rfl⟩ (by intro table; cases table <;> rfl) (by intro table; cases table <;> rfl)
      (by intro complete; cases complete)
    apply marked later stands rfl cursors
    intro other working
    cases working
    exact ⟨rfl, trivial⟩
  case h_3 table =>
    cases mine
    cases turned
    have opened : (openTable store job table).job = some job ∧ (openTable store job table).agrees record := by
      apply agrees_openTable standing
      rintro rfl
      exact agrees
    apply marked record standing rfl fun _ => rfl
    intro other working
    cases opened.1.symm.trans working
    exact ⟨rfl, opened.2⟩
  case h_4 table cursor =>
    cases mine
    cases turned
    have stood : record.cursorFor table = cursor ∧ cursor ≠ some .done ∧
        (table = .events → record.cursorFor .sends = some .done) := by
      cases table with
      | sends => exact ⟨agrees.1, agrees.2, fun same => ScrubTable.noConfusion same⟩
      | events => exact ⟨agrees.2.1, agrees.2.2, fun _ => agrees.1⟩
    obtain ⟨rfl, going, earlier⟩ := stood
    obtain ⟨later, stands, moved⟩ := standing_page standing going
    have paged := @agrees_afterPage job later table
      (store.scrubPage ids job.workspaceId job.contactId table (record.cursorFor table)) (by rw [moved, if_pos rfl])
      (by
        rintro rfl
        rw [moved, if_neg ScrubTable.noConfusion]
        exact earlier rfl)
    refine ⟨later, stands, ?_, .inr ⟨table, _, going, rfl, if_pos rfl, moved⟩⟩
    intro other working
    cases paged.1.symm.trans working
    exact ⟨rfl, paged.2⟩
  case h_5 now =>
    cases mine
    cases turned
    obtain ⟨later, stands, _, cursors⟩ := @standing_marked ids base store job record watched (fun _ => true)
      (fun record => { record with status := .complete, scrubCompletedAt := some now }) (fun _ => rfl) standing
      ⟨rfl, rfl⟩ (by intro table; cases table <;> rfl) (by intro table; cases table <;> rfl) (fun _ => agrees)
    apply marked later stands rfl cursors
    intro other working
    cases working
  case h_10 message =>
    cases mine
    cases turned
    obtain ⟨later, stands, _, cursors⟩ := @standing_marked ids base store job record watched (fun _ => true)
      (fun record => { record with status := .failed, scrubError := some message }) (fun _ => rfl) standing
      ⟨rfl, rfl⟩ (by intro table; cases table <;> rfl) (by intro table; cases table <;> rfl)
      (by intro complete; cases complete)
    apply marked later stands rfl cursors
    intro other working
    cases working
  case h_11 =>
    cases turned
    have unpaged : pageOf ids job store worker .crash = none := by
      cases worker <;> rfl
    apply marked record standing unpaged fun _ => rfl
    intro other working
    cases working
  case h_12 => cases turned
  all_goals
    -- an error is noted by the next turn
    cases mine
    cases turned
    apply marked record standing rfl fun _ => rfl
    intro other working
    cases working
    exact ⟨rfl, trivial⟩

theorem standing_elsewhere {after : ErasureStore} (standing : Standing ids base job watched record store)
    (stored : after.erasureRecords.find? job.erasureRecordId = store.erasureRecords.find? job.erasureRecordId)
    (linked : ∀ table key, key ∈ after.linkedKeys ids job.workspaceId job.contactId table ↔
      key ∈ store.linkedKeys ids job.workspaceId job.contactId table)
    (sendEvents : ∀ key ∈ watched .sends, after.sendEvents.find? key = store.sendEvents.find? key)
    (events : ∀ key ∈ watched .events, after.events.find? key = store.events.find? key) :
    Standing ids base job watched record after where
  stored := stored.trans standing.stored
  owner := standing.owner
  counted := standing.counted
  ended := standing.ended
  linked table key := (linked table key).trans (standing.linked table key)
  sendEvents key member := (sendEvents key member).trans (standing.sendEvents key member)
  events key member := (events key member).trans (standing.events key member)

theorem pageOf_other {worker : ScrubWorker} {choice : ScrubTurn} (other : worker.job ≠ some job) :
    pageOf ids job store worker choice = none := by
  unfold pageOf
  split
  · next mine table cursor =>
    apply if_neg
    rintro rfl
    exact other rfl
  · rfl

theorem resumable_step (undisturbed : Undisturbed platform.sendIds job watched threads turn next)
    (taken : erasureStep platform boundary threads turn = some next)
    (standing : Standing platform.sendIds base job watched record threads.shared)
    (manned : Manned job record threads.own) :
    ∃ later, Standing platform.sendIds base job watched later next.shared ∧ Manned job later next.own ∧
      Moved platform.sendIds job record later threads.shared (committedPage platform.sendIds job threads turn) := by
  cases turn with
  | outside event =>
    obtain ⟨shared, arrived, rfl⟩ := interleave_outside.mp taken
    refine ⟨record, ?_, manned, .inl ⟨rfl, fun _ => rfl⟩⟩
    apply standing_elsewhere standing _ (undisturbed.linked rfl) (undisturbed.sendEvents rfl) (undisturbed.events rfl)
    rw [standing.stored]
    exact find?_arrive standing.stored arrived
  | thread id choice =>
    obtain ⟨shared, after, turned, rfl⟩ := interleave_thread.mp taken
    by_cases mine : (threads.own id).job = some job
    · obtain ⟨later, stands, goes, moved⟩ := standing_turn standing mine (manned.knows id job mine rfl).2 turned
      exact ⟨later, stands, manned_own manned mine goes, moved⟩
    · have elsewhere : ofJob job threads (.thread id choice) = false := beq_eq_false_iff_ne.mpr mine
      refine ⟨record, ?_, ?_, .inl ⟨pageOf_other mine, fun _ => rfl⟩⟩
      · apply standing_elsewhere standing _ (undisturbed.linked elsewhere) (undisturbed.sendEvents elsewhere)
          (undisturbed.events elsewhere)
        apply find?_scrubTurn _ turned
        intro other working named
        rw [(manned.knows id other working named).1] at working
        exact mine working
      · apply manned_other manned
        intro other working named
        rcases job_scrubTurn turned working with before | ⟨workspaceId, erasureRecordId, rfl, rfl, rfl⟩
        · rw [(manned.knows id other before named).1] at before
          exact absurd before mine
        · -- a delivery finds the record and takes its contact from it
          obtain ⟨⟨found, stored, rfl⟩, agrees⟩ := deliverJob_job working
          obtain ⟨there, within⟩ := Option.filter_eq_some_iff.mp stored
          cases named
          rw [standing.stored] at there
          cases there
          rw [beq_iff_eq, standing.owner.1] at within
          subst within
          refine ⟨?_, agrees record, undisturbed.oneAtATime id rfl⟩
          rw [standing.owner.2]

end Steps

section Runs

variable {platform : Platform} {boundary : Boundary} {base : ErasureStore} {job : ScrubJob}
  {watched : ScrubTable → Set (WorkspaceId × ScrubKey)} {threads start next final : ErasureThreads}
  {turn : Turn ScrubTurn Arrival} {turns : List (Turn ScrubTurn Arrival)} {table : ScrubTable} {key : ScrubKey}

def Resumable (ids : SendIdScheme) (base : ErasureStore) (job : ScrubJob)
    (watched : ScrubTable → Set (WorkspaceId × ScrubKey)) (threads : ErasureThreads) : Prop :=
  ∃ record, Standing ids base job watched record threads.shared ∧ Manned job record threads.own

theorem resumable_commissioned {ids : SendIdScheme} (commissioned : Commissioned job start) :
    Resumable ids start.shared job watched start := by
  obtain ⟨anonymizedAt, stored⟩ := commissioned.stored
  have nothing : ∀ record : ErasureRecord, (∀ table, record.cursorFor table = none) → ∀ table,
      start.shared.passedKeys ids job record table = [] := by
    intro record fresh table
    rw [ErasureStore.passedKeys, fresh]
    exact List.filter_eq_nil_iff.mpr fun key _ passed => Bool.noConfusion passed
  refine ⟨_, ⟨stored, ⟨rfl, rfl⟩, ?_, ?_, fun _ _ => Iff.rfl, ?_, ?_⟩, ?_, ?_⟩
  · intro table
    rw [nothing _ (by intro table; cases table <;> rfl)]
    cases table <;> rfl
  · intro complete
    cases complete
  · intro wanted _
    rw [nothing _ (by intro table; cases table <;> rfl), find?_rewritePayloads]
    simp
  · intro wanted _
    rw [nothing _ (by intro table; cases table <;> rfl), find?_emptyProperties]
    simp
  · intro id other working named
    exact absurd named (commissioned.unclaimed id other working)
  · intro id other working
    exact absurd rfl (commissioned.unclaimed id job working)

theorem resumable_next (resumable : Resumable platform.sendIds base job watched threads)
    (undisturbed : Undisturbed platform.sendIds job watched threads turn next)
    (taken : erasureStep platform boundary threads turn = some next) :
    Resumable platform.sendIds base job watched next := by
  obtain ⟨record, standing, manned⟩ := resumable
  obtain ⟨later, stands, knows, _⟩ := resumable_step undisturbed taken standing manned
  exact ⟨later, stands, knows⟩

/-- Whether the record's walk over the table has passed the key, by the store alone. -/
def hasPassed (job : ScrubJob) (table : ScrubTable) (key : ScrubKey) (threads : ErasureThreads) : Bool :=
  ScrubCursor.passed (threads.shared.loadErasureScrubCheckpoint job.workspaceId job.erasureRecordId table) key

theorem timesPaged_eq (resumable : Resumable platform.sendIds base job watched start)
    (member : key ∈ base.linkedKeys platform.sendIds job.workspaceId job.contactId table)
    (undisturbed : Along (erasureStep platform boundary) (Undisturbed platform.sendIds job watched) start turns)
    (ran : run (erasureStep platform boundary) start turns = some final) :
    timesPaged platform boundary job table key start turns + (if hasPassed job table key start then 1 else 0) =
      if hasPassed job table key final then 1 else 0 := by
  have balance := @totalAlong_balance _ _ (erasureStep platform boundary)
    (Undisturbed platform.sendIds job watched) (Resumable platform.sendIds base job watched)
    (fun threads turn _ => if (committedPage platform.sendIds job threads turn).any (isOnPage table key) then 1 else 0)
    (fun _ _ _ => 0)
    (fun threads => if hasPassed job table key threads then 1 else 0)
    (fun threads turn next resumable conforms taken => resumable_next resumable conforms taken) ?_ start final turns
    resumable undisturbed ran
  · have nothing : totalAlong (erasureStep platform boundary) (fun _ _ _ => 0) start turns = 0 := by
      have bound := @totalAlong_le _ _ (erasureStep platform boundary) (fun _ _ _ => True) (fun _ => True)
        (fun _ _ _ => 0) (fun _ => 0) (fun _ _ _ _ _ _ => trivial) (fun _ _ _ _ _ _ => le_rfl) start turns trivial
        (along_of_labels (fun _ _ _ _ => trivial) start)
      omega
    rw [nothing, Nat.zero_add] at balance
    exact balance
  · intro threads turn next resumable conforms taken
    obtain ⟨record, standing, manned⟩ := resumable
    obtain ⟨later, stands, _, moved⟩ := resumable_step conforms taken standing manned
    simp only [hasPassed, standing.loaded, stands.loaded]
    rcases moved with ⟨unpaged, same⟩ | ⟨walked, page, going, rfl, paged, cursors⟩
    · rw [unpaged, same]
      simp
    · rw [paged, cursors]
      by_cases same : walked = table
      · subst same
        have once := @passed_page platform.sendIds threads.shared job walked (record.cursorFor walked) key
          ((standing.linked walked key).mpr member) going
        simpa [isOnPage, List.contains_iff_mem] using once
      · simp [isOnPage, same, Ne.symm same]

def remaining (ids : SendIdScheme) (base : ErasureStore) (job : ScrubJob) (table : ScrubTable)
    (threads : ErasureThreads) : Nat :=
  (base.linkedKeys ids job.workspaceId job.contactId table).countP (fun key => !hasPassed job table key threads) +
    if threads.shared.loadErasureScrubCheckpoint job.workspaceId job.erasureRecordId table = some .done then 0 else 1

theorem remaining_eq {ids : SendIdScheme} {record : ErasureRecord}
    (standing : Standing ids base job watched record threads.shared) :
    remaining ids base job table threads + (base.passedKeys ids job record table).length =
      (base.linkedKeys ids job.workspaceId job.contactId table).length +
        if record.cursorFor table = some .done then 0 else 1 := by
  have split := @List.length_eq_countP_add_countP _ (ScrubCursor.passed (record.cursorFor table))
    (base.linkedKeys ids job.workspaceId job.contactId table)
  simp only [remaining, hasPassed, standing.loaded, ErasureStore.passedKeys, ← List.countP_eq_length_filter]
  simp only [Bool.not_eq_true, Bool.decide_eq_false] at split
  omega

theorem remaining_moved {ids : SendIdScheme} {record later : ErasureRecord}
    {committed : Option (ScrubTable × List ScrubKey)} (standing : Standing ids base job watched record threads.shared)
    (stands : Standing ids base job watched later next.shared)
    (moved : Moved ids job record later threads.shared committed) :
    (if committed.isSome then 1 else 0) + (remaining ids base job .sends next + remaining ids base job .events next) ≤
      remaining ids base job .sends threads + remaining ids base job .events threads := by
  have same : ∀ table, later.cursorFor table = record.cursorFor table →
      remaining ids base job table next = remaining ids base job table threads := by
    intro table unmoved
    have before := @remaining_eq _ _ _ _ table _ _ standing
    have after := @remaining_eq _ _ _ _ table _ _ stands
    rw [passedKeys_congr unmoved, unmoved] at after
    omega
  rcases moved with ⟨unpaged, cursors⟩ | ⟨table, page, going, rfl, paged, cursors⟩
  · rw [unpaged, same .sends (cursors .sends), same .events (cursors .events)]
    simp
  · have paid : 1 + remaining ids base job table next ≤ remaining ids base job table threads := by
      have before := @remaining_eq _ _ _ _ table _ _ standing
      have after := @remaining_eq _ _ _ _ table _ _ stands
      have moved := (cursors table).trans (if_pos rfl)
      rw [length_passedKeys_page standing going moved, moved] at after
      rw [if_neg going] at before
      by_cases empty : threads.shared.scrubPage ids job.workspaceId job.contactId table (record.cursorFor table) = []
      · rw [if_pos ((scrubbedTo_done _).mpr empty)] at after
        omega
      · rw [if_neg fun done => empty ((scrubbedTo_done _).mp done)] at after
        have positive := List.length_pos_iff.mpr empty
        omega
    rw [paged, Option.isSome_some, if_pos rfl]
    cases table with
    | sends =>
      have other := same .events ((cursors .events).trans (if_neg ScrubTable.noConfusion))
      omega
    | events =>
      have other := same .sends ((cursors .sends).trans (if_neg ScrubTable.noConfusion))
      omega

theorem pagesCommitted_le (resumable : Resumable platform.sendIds base job watched start)
    (undisturbed : Along (erasureStep platform boundary) (Undisturbed platform.sendIds job watched) start turns) :
    pagesCommitted platform boundary job start turns ≤
      remaining platform.sendIds base job .sends start + remaining platform.sendIds base job .events start := by
  apply @totalAlong_le _ _ (erasureStep platform boundary) _ (Resumable platform.sendIds base job watched)
    (fun threads turn _ => if (committedPage platform.sendIds job threads turn).isSome then 1 else 0)
    (fun threads =>
      remaining platform.sendIds base job .sends threads + remaining platform.sendIds base job .events threads)
    (fun threads turn next resumable conforms taken => resumable_next resumable conforms taken) _ _ _ resumable
    undisturbed
  intro threads turn next resumable conforms taken
  obtain ⟨record, standing, manned⟩ := resumable
  obtain ⟨later, stands, _, moved⟩ := resumable_step conforms taken standing manned
  exact remaining_moved standing stands moved

end Runs

section Attempts

variable {platform : Platform} {boundary : Boundary} {base store shared : ErasureStore} {job : ScrubJob}
  {watched : ScrubTable → Set (WorkspaceId × ScrubKey)} {threads next last : ErasureThreads} {table : ScrubTable}
  {record : ErasureRecord} {worker after : ScrubWorker} {choice : ScrubTurn}

def Proceeds (platform : Platform) (boundary : Boundary) (job : ScrubJob) (threads next : ErasureThreads) : Prop :=
  ∃ attempt : List ScrubTurn, (∀ turn ∈ attempt, turn.serves job = true ∧ turn.interrupts = false) ∧
    run (erasureStep platform boundary) threads (attempt.map fun turn => .thread 0 turn) = some next

theorem proceeds_refl : Proceeds platform boundary job threads threads :=
  ⟨[], fun _ member => absurd member List.not_mem_nil, rfl⟩

theorem proceeds_trans (first : Proceeds platform boundary job threads next)
    (second : Proceeds platform boundary job next last) : Proceeds platform boundary job threads last := by
  obtain ⟨earlier, plain, ran⟩ := first
  obtain ⟨later, also, onward⟩ := second
  refine ⟨earlier ++ later, ?_, ?_⟩
  · intro turn member
    rcases List.mem_append.mp member with before | behind
    · exact plain turn before
    · exact also turn behind
  · rw [List.map_append]
    exact run_append.mpr ⟨next, ran, onward⟩

def At (ids : SendIdScheme) (base : ErasureStore) (job : ScrubJob) (watched : ScrubTable → Set (WorkspaceId × ScrubKey))
    (worker : ScrubWorker) (threads : ErasureThreads) : Prop :=
  Resumable ids base job watched threads ∧ threads.own 0 = worker

theorem proceeds_turn (here : At platform.sendIds base job watched worker threads) (mine : worker.job = some job)
    (serves : choice.serves job = true) (plain : choice.interrupts = false)
    (turned : scrubTurn platform.sendIds 0 threads.shared worker choice = some (shared, after)) :
    ∃ next, Proceeds platform boundary job threads next ∧ At platform.sendIds base job watched after next ∧
      next.shared = shared ∧
      (if (pageOf platform.sendIds job threads.shared worker choice).isSome then 1 else 0) +
          (remaining platform.sendIds base job .sends next + remaining platform.sendIds base job .events next) ≤
        remaining platform.sendIds base job .sends threads + remaining platform.sendIds base job .events threads := by
  obtain ⟨⟨record, standing, manned⟩, rfl⟩ := here
  have taken : erasureStep platform boundary threads (.thread 0 choice) =
      some { shared := shared, own := Function.update threads.own 0 after } :=
    interleave_thread.mpr ⟨shared, after, turned, rfl⟩
  have undisturbed : Undisturbed platform.sendIds job watched threads (.thread 0 choice)
      { shared := shared, own := Function.update threads.own 0 after } := by
    have own : ofJob job threads (.thread 0 choice) = true := beq_iff_eq.mpr mine
    constructor
    · intro id same
      cases same
      cases busy : threads.own 0 <;> rw [busy] at turned mine <;> cases turned
      cases mine
    all_goals
      intro elsewhere
      rw [own] at elsewhere
      cases elsewhere
  obtain ⟨later, stands, knows, moved⟩ := resumable_step undisturbed taken standing manned
  refine ⟨_, ⟨[choice], ?_, run_cons.mpr ⟨_, taken, rfl⟩⟩, ⟨⟨later, stands, knows⟩, ?_⟩, rfl,
    remaining_moved standing stands moved⟩
  · intro turn member
    rw [List.mem_singleton.mp member]
    exact ⟨serves, plain⟩
  · exact Function.update_self 0 after threads.own

theorem proceeds_walk {cursor : Option ScrubCursor} {size : Nat}
    (here : At platform.sendIds base job watched (.walking job table cursor) threads)
    (bound : remaining platform.sendIds base job .sends threads + remaining platform.sendIds base job .events threads ≤
      size) :
    ∃ next, Proceeds platform boundary job threads next ∧
      At platform.sendIds base job watched (afterTable job table) next := by
  induction size generalizing threads cursor with
  | zero =>
    obtain ⟨next, _, _, _, less⟩ :=
      @proceeds_turn platform boundary base _ job watched threads _ _ .page here rfl rfl rfl rfl
    simp only [pageOf, if_pos, Option.isSome_some] at less
    omega
  | succ size ih =>
    obtain ⟨next, first, there, _, less⟩ :=
      @proceeds_turn platform boundary base _ job watched threads _ _ .page here rfl rfl rfl rfl
    simp only [pageOf, if_pos, Option.isSome_some] at less
    unfold afterPage at there
    split at there
    · exact ⟨next, first, there⟩
    · obtain ⟨last, rest, arrived⟩ := ih there (by omega)
      exact ⟨last, proceeds_trans first rest, arrived⟩

theorem proceeds_open (here : At platform.sendIds base job watched (.opening job table) threads) :
    ∃ next, Proceeds platform boundary job threads next ∧
      At platform.sendIds base job watched (afterTable job table) next := by
  obtain ⟨next, first, there, _, _⟩ :=
    @proceeds_turn platform boundary base _ job watched threads _ _ .loadCheckpoint here rfl rfl rfl rfl
  unfold openTable at there
  split at there
  · exact ⟨next, first, there⟩
  · obtain ⟨last, rest, arrived⟩ := proceeds_walk there le_rfl
    exact ⟨last, proceeds_trans first rest, arrived⟩

theorem proceeds_sends (here : At platform.sendIds base job watched (.opening job .sends) threads) :
    ∃ next, Proceeds platform boundary job threads next ∧ next.shared.isComplete job = true := by
  obtain ⟨second, first, there⟩ := @proceeds_open platform boundary base job watched threads .sends here
  obtain ⟨third, rest, ended⟩ := @proceeds_open platform boundary base job watched second .events there
  obtain ⟨last, final, _, marked, _⟩ :=
    @proceeds_turn platform boundary base _ job watched third _ _ (.complete 0) ended rfl rfl rfl rfl
  refine ⟨last, proceeds_trans (proceeds_trans first rest) final, ?_⟩
  obtain ⟨⟨record, standing, _⟩, _⟩ := ended
  have keyed : record.id = job.erasureRecordId := Table.key_of_find? standing.stored
  rw [marked, ErasureStore.isComplete, ErasureStore.erasureRecord?, ErasureStore.markScrubComplete, find?_updateRecord,
    standing.stored, Option.map_some, standing.owner.1, keyed]
  simp

structure Lone (job : ScrubJob) (threads : ErasureThreads) : Prop where
  idle : ∀ id, id ≠ 0 → threads.own id = .idle
  named : ∀ other, (threads.own 0).job = some other → other.erasureRecordId = job.erasureRecordId

theorem lone_alone : Lone job (alone store) where
  idle _ _ := rfl
  named _ working := by cases working

theorem lone_step (lone : Lone job threads) (resumable : Resumable platform.sendIds base job watched threads)
    (serves : choice.serves job = true) (taken : erasureStep platform boundary threads (.thread 0 choice) = some next) :
    Undisturbed platform.sendIds job watched threads (.thread 0 choice) next ∧ Lone job next := by
  obtain ⟨record, _, manned⟩ := resumable
  obtain ⟨shared, after, turned, rfl⟩ := interleave_thread.mp taken
  constructor
  · cases working : (threads.own 0).job with
    | none =>
      have idle : threads.own 0 = .idle := by
        cases busy : threads.own 0 <;> rw [busy] at working <;> first | rfl | cases working
      have unwritten : shared = threads.shared := by
        rw [idle] at turned
        cases choice <;> cases turned <;> rfl
      subst unwritten
      refine ⟨?_, fun _ _ _ => Iff.rfl, fun _ _ _ => rfl, fun _ _ _ => rfl⟩
      intro id _ other busy
      by_cases first : other = 0
      · rw [first, idle] at busy
        cases busy
      · rw [lone.idle other first] at busy
        cases busy
    | some other =>
      obtain ⟨rfl, _⟩ := manned.knows 0 other working (lone.named other working)
      have own : ofJob other threads (.thread 0 choice) = true := beq_iff_eq.mpr working
      constructor
      · intro id same
        cases same
        cases busy : threads.own 0 <;> rw [busy] at turned working <;> cases turned
        cases working
      all_goals
        intro elsewhere
        rw [own] at elsewhere
        cases elsewhere
  · constructor
    · intro id later
      dsimp only
      rw [Function.update_of_ne later]
      exact lone.idle id later
    · intro other working
      dsimp only at working
      rcases job_scrubTurn turned working with before | ⟨workspaceId, erasureRecordId, rfl, _, rfl⟩
      · exact lone.named other before
      · obtain ⟨⟨_, _, rfl⟩, _⟩ := deliverJob_job working
        rw [ScrubTurn.serves, Bool.and_eq_true, beq_iff_eq, beq_iff_eq] at serves
        exact serves.2

theorem undisturbed_lone {attempt : List ScrubTurn} (lone : Lone job threads)
    (resumable : Resumable platform.sendIds base job watched threads)
    (serves : ∀ turn ∈ attempt, turn.serves job = true) :
    Along (erasureStep platform boundary) (Undisturbed platform.sendIds job watched) threads
      (attempt.map fun turn => .thread 0 turn) := by
  induction attempt generalizing threads with
  | nil => trivial
  | cons turn rest ih =>
    intro next taken
    obtain ⟨undisturbed, still⟩ := lone_step lone resumable (serves turn List.mem_cons_self) taken
    exact ⟨undisturbed, ih still (resumable_next resumable undisturbed taken)
      fun later member => serves later (List.mem_cons_of_mem _ member)⟩

theorem deliverJob_standing {ids : SendIdScheme} (standing : Standing ids base job watched record store)
    (incomplete : record.status ≠ .complete) :
    deliverJob store job.workspaceId job.erasureRecordId = .starting job ∨
      deliverJob store job.workspaceId job.erasureRecordId = .opening job .sends := by
  have named : ScrubJob.mk job.workspaceId record.contactId job.erasureRecordId = job := by
    rw [standing.owner.2]
  simp only [deliverJob, standing.record?, named]
  cases status : record.status with
  | complete => exact absurd status incomplete
  | pending => exact .inl rfl
  | scrubbing | failed => exact .inr rfl

theorem proceeds_alone (resumable : Resumable platform.sendIds base job watched (alone store)) :
    ∃ next, Proceeds platform boundary job (alone store) next ∧ next.shared.isComplete job = true := by
  obtain ⟨record, standing, manned⟩ := resumable
  by_cases complete : record.status = .complete
  · refine ⟨alone store, proceeds_refl, ?_⟩
    show store.isComplete job = true
    have found : store.erasureRecord? job.workspaceId job.erasureRecordId = some record := standing.record?
    rw [ErasureStore.isComplete, found, Option.any_some, complete]
    rfl
  · have taken : erasureStep platform boundary (alone store)
        (.thread 0 (.deliver job.workspaceId job.erasureRecordId)) =
          some (Threads.mk store (Function.update (fun _ => .idle) 0 (deliverJob store job.workspaceId job.erasureRecordId))) := rfl
    have serves : (ScrubTurn.deliver job.workspaceId job.erasureRecordId).serves job = true := by
      rw [ScrubTurn.serves, beq_self_eq_true, beq_self_eq_true, Bool.and_self]
    have delivered : Proceeds platform boundary job (alone store) (Threads.mk store (Function.update (fun _ => .idle) 0
        (deliverJob store job.workspaceId job.erasureRecordId))) := by
      refine ⟨[.deliver job.workspaceId job.erasureRecordId], ?_, run_cons.mpr ⟨_, taken, rfl⟩⟩
      intro turn member
      rw [List.mem_singleton.mp member]
      exact ⟨serves, rfl⟩
    have undisturbed := (lone_step lone_alone ⟨record, standing, manned⟩ serves taken).1
    have there := resumable_next ⟨record, standing, manned⟩ undisturbed taken
    rcases deliverJob_standing standing complete with starting | opening
    · have here : At platform.sendIds base job watched (.starting job) (Threads.mk store
          (Function.update (fun _ => .idle) 0 (deliverJob store job.workspaceId job.erasureRecordId))) :=
        ⟨there, starting⟩
      obtain ⟨second, started, opened, _, _⟩ :=
        @proceeds_turn platform boundary base _ job watched _ _ _ (.start 0) here rfl rfl rfl rfl
      obtain ⟨last, rest, ended⟩ := @proceeds_sends platform boundary base job watched second opened
      exact ⟨last, proceeds_trans delivered (proceeds_trans started rest), ended⟩
    · have here : At platform.sendIds base job watched (.opening job .sends) (Threads.mk store
          (Function.update (fun _ => .idle) 0 (deliverJob store job.workspaceId job.erasureRecordId))) :=
        ⟨there, opening⟩
      obtain ⟨last, rest, ended⟩ := @proceeds_sends platform boundary base job watched _ here
      exact ⟨last, proceeds_trans delivered rest, ended⟩

end Attempts

section Completion

variable {platform : Platform} {boundary : Boundary} {base store other : ErasureStore} {job : ScrubJob}
  {watched : ScrubTable → Set (WorkspaceId × ScrubKey)} {record : ErasureRecord} {ids : SendIdScheme}
  {table : ScrubTable}

theorem cursorFor_complete (standing : Standing ids base job watched record store)
    (complete : store.isComplete job = true) : record.cursorFor table = some .done := by
  rw [ErasureStore.isComplete, standing.record?, Option.any_some, beq_iff_eq] at complete
  exact standing.ended complete table

theorem passedKeys_complete (ended : record.cursorFor table = some .done) :
    base.passedKeys ids job record table = base.linkedKeys ids job.workspaceId job.contactId table := by
  rw [ErasureStore.passedKeys, ended]
  exact List.filter_eq_self.mpr fun key _ => passed_done key

theorem erased_complete (standing : Standing ids base job watched record store) (complete : store.isComplete job = true)
    (inScope : ∀ table, ∀ key ∈ base.linkedKeys ids job.workspaceId job.contactId table,
      (job.workspaceId, key) ∈ watched table) :
    Erased ids store record ∧ ∀ table, record.scrubbed table =
      (base.linkedKeys ids job.workspaceId job.contactId table).length := by
  have all : ∀ table, base.passedKeys ids job record table = base.linkedKeys ids job.workspaceId job.contactId table :=
    fun table => passedKeys_complete (cursorFor_complete standing complete)
  constructor
  · constructor
    · intro row stored sent
      rw [standing.owner.1, standing.owner.2] at sent
      have within := ErasureStore.workspaceId_of_isSentTo sent
      have linked : scrubKey row.occurredAt row.id ∈ base.linkedKeys ids job.workspaceId job.contactId .sends :=
        (standing.linked .sends _).mp (List.mem_map.mpr ⟨row, List.mem_filter.mpr ⟨stored, sent⟩, rfl⟩)
      have watching := inScope .sends _ linked
      rw [← within] at watching
      have found := (standing.sendEvents row.key watching).symm.trans (Table.find?_of_mem stored)
      rw [all, find?_rewritePayloads, Option.map_eq_some_iff] at found
      obtain ⟨before, was, rewritten⟩ := found
      have keyed : before.key = row.key := Table.key_of_find? was
      rw [SendEventRow.key, SendEventRow.key, Prod.mk.injEq] at keyed
      rw [if_pos] at rewritten
      · rw [← rewritten]
        exact holdsOnlyEvidence_scrubbed before.payload
      · simp only [keyed.1, keyed.2, within, beq_self_eq_true, Bool.true_and, List.contains_iff_mem]
        exact linked
    · intro row stored own
      rw [standing.owner.1, standing.owner.2] at own
      have within := ErasureStore.workspaceId_of_isOf own
      have linked : scrubKey row.occurredAt row.id ∈ base.linkedKeys ids job.workspaceId job.contactId .events :=
        (standing.linked .events _).mp (List.mem_map.mpr ⟨row, List.mem_filter.mpr ⟨stored, own⟩, rfl⟩)
      have watching := inScope .events _ linked
      rw [← within] at watching
      have found := (standing.events row.key watching).symm.trans (Table.find?_of_mem stored)
      rw [all, find?_emptyProperties, Option.map_eq_some_iff] at found
      obtain ⟨before, was, emptied⟩ := found
      have keyed : before.key = row.key := Table.key_of_find? was
      rw [EventRow.key, EventRow.key, Prod.mk.injEq] at keyed
      rw [if_pos] at emptied
      · rw [← emptied]
      · simp only [keyed.1, within, beq_self_eq_true, Bool.true_and, List.contains_iff_mem]
        refine List.mem_map.mpr ⟨_, linked, ?_⟩
        rw [← keyed.2]
        rfl
  · intro table
    rw [standing.counted, all]

theorem rows_complete {later : ErasureRecord} (standing : Standing ids base job watched record store)
    (complete : store.isComplete job = true) (also : Standing ids base job watched later other)
    (ended : other.isComplete job = true) :
    (∀ key ∈ watched .sends, store.sendEvents.find? key = other.sendEvents.find? key) ∧
      ∀ key ∈ watched .events, store.events.find? key = other.events.find? key := by
  have first : ∀ table, base.passedKeys ids job record table = base.passedKeys ids job later table := by
    intro table
    rw [passedKeys_complete (cursorFor_complete standing complete), passedKeys_complete (cursorFor_complete also ended)]
  constructor
  · intro key member
    rw [standing.sendEvents key member, also.sendEvents key member, first]
  · intro key member
    rw [standing.events key member, also.events key member, first]

theorem resumable_alone (standing : Standing ids base job watched record store) :
    Resumable ids base job watched (alone store) := by
  refine ⟨record, standing, ?_, ?_⟩
  · intro id other working
    cases working
  · intro id other working
    cases working

theorem resumable_run {start final : ErasureThreads} {turns : List (Turn ScrubTurn Arrival)}
    (resumable : Resumable platform.sendIds base job watched start)
    (undisturbed : Along (erasureStep platform boundary) (Undisturbed platform.sendIds job watched) start turns)
    (ran : run (erasureStep platform boundary) start turns = some final) :
    Resumable platform.sendIds base job watched final := by
  apply invariant_of_run _ resumable undisturbed ran
  intro threads turn next resumable conforms taken
  exact resumable_next resumable conforms taken

end Completion

/-- Crashes and resumptions, one scrub of the record at a time: pages are bounded, one more run completes the
record, and the rows end as without an interruption. -/
theorem scrub_resumes (platform : Platform) (boundary : Boundary) {job : ScrubJob} {start final : ErasureThreads}
    {turns : List (Turn ScrubTurn Arrival)} {watched : ScrubTable → Set (WorkspaceId × ScrubKey)}
    (commissioned : Commissioned job start)
    (inScope : ∀ table, ∀ key ∈ start.shared.linkedKeys platform.sendIds job.workspaceId job.contactId table,
      (job.workspaceId, key) ∈ watched table)
    (undisturbed : Along (erasureStep platform boundary) (Undisturbed platform.sendIds job watched) start turns)
    (ran : run (erasureStep platform boundary) start turns = some final) :
    pagesCommitted platform boundary job start turns ≤
        (start.shared.linkedKeys platform.sendIds job.workspaceId job.contactId .sends).length +
          (start.shared.linkedKeys platform.sendIds job.workspaceId job.contactId .events).length + 2 ∧
      (∃ last, Proceeds platform boundary job (alone final.shared) last ∧ last.shared.isComplete job = true) ∧
      (final.shared.isComplete job = true →
        (∀ record, final.shared.erasureRecords.find? job.erasureRecordId = some record →
          Erased platform.sendIds final.shared record ∧ ∀ table, record.scrubbed table =
            (start.shared.linkedKeys platform.sendIds job.workspaceId job.contactId table).length) ∧
        (∀ table, ∀ key ∈ start.shared.linkedKeys platform.sendIds job.workspaceId job.contactId table,
          timesPaged platform boundary job table key start turns = 1) ∧
        ∀ other, Proceeds platform boundary job (alone start.shared) other → other.shared.isComplete job = true →
          (∀ key ∈ watched .sends, final.shared.sendEvents.find? key = other.shared.sendEvents.find? key) ∧
            ∀ key ∈ watched .events, final.shared.events.find? key = other.shared.events.find? key) := by
  have begins : Resumable platform.sendIds start.shared job watched start := resumable_commissioned commissioned
  obtain ⟨fresh, fromStart, manned⟩ := begins
  have unmoved : ∀ table, fresh.cursorFor table = none := by
    obtain ⟨anonymizedAt, stored⟩ := commissioned.stored
    cases fromStart.stored.symm.trans stored
    intro table
    cases table <;> rfl
  obtain ⟨record, standing, _⟩ := resumable_run ⟨fresh, fromStart, manned⟩ undisturbed ran
  refine ⟨?_, proceeds_alone (resumable_alone standing), ?_⟩
  · have bound := pagesCommitted_le ⟨fresh, fromStart, manned⟩ undisturbed
    have whole : ∀ table, remaining platform.sendIds start.shared job table start =
        (start.shared.linkedKeys platform.sendIds job.workspaceId job.contactId table).length + 1 := by
      intro table
      have ahead := @remaining_eq _ _ _ _ table _ _ fromStart
      have nothing : start.shared.passedKeys platform.sendIds job fresh table = [] := by
        rw [ErasureStore.passedKeys, unmoved]
        exact List.filter_eq_nil_iff.mpr fun key _ passed => Bool.noConfusion passed
      rw [nothing, unmoved] at ahead
      exact ahead
    rw [whole, whole] at bound
    omega
  · intro complete
    refine ⟨?_, ?_, ?_⟩
    · intro other found
      cases standing.stored.symm.trans found
      exact erased_complete standing complete inScope
    · intro table key member
      have once := timesPaged_eq ⟨fresh, fromStart, manned⟩ member undisturbed ran
      have before : hasPassed job table key start = false := by
        rw [hasPassed, fromStart.loaded, unmoved]
        rfl
      have after : hasPassed job table key final = true := by
        rw [hasPassed, standing.loaded, cursorFor_complete standing complete]
        rfl
      rw [before, after] at once
      exact once
    · intro other proceeds ended
      obtain ⟨attempt, plain, ranAlone⟩ := proceeds
      have lonely := resumable_alone fromStart
      have undisturbedAlone := @undisturbed_lone platform boundary start.shared job watched _ attempt lone_alone lonely
        fun turn member => (plain turn member).1
      obtain ⟨later, also, _⟩ := resumable_run lonely undisturbedAlone ranAlone
      exact rows_complete standing complete also ended

section Traces

def tiedOpen (id : SendEventId) : SendEventRow :=
  { workspaceId := 1, id, occurredAt := 7, sgEventId := "open", sendId := some (pairedSendIds.derive mailed.intent)
    eventType := "open", reason := none, payload := .object address }

def tiedJob : ScrubJob := { workspaceId := 1, contactId := 9, erasureRecordId := 1 }

def tiedStore : ErasureStore :=
  { db :=
      { organizations := Table.empty.insert { id := 1, slug := "acme" }
        contacts := Table.empty.insert { id := 9, workspaceId := 1, email := none, anonymizedAt := some 8 }
        sends := Table.empty.insert mailed }
    events := Table.empty.insert
      { workspaceId := 1, id := 4, occurredAt := 6, contactId := 9, name := "viewed", properties := [("path", .null)] }
    sendEvents := (Table.empty.insert (tiedOpen 1)).insert (tiedOpen 2)
    erasureRecords := Table.empty.insert { id := 1, workspaceId := 1, contactId := 9, anonymizedAt := 8 } }

/-- The scrub dies after its first page, fails before the walk over the events and dies before it is marked. -/
def interruptedScrub : List ScrubTurn :=
  [.deliver 1 1, .start 9, .loadCheckpoint, .page, .crash,
    .deliver 1 1, .loadCheckpoint, .page, .error "lost", .recordFailure,
    .deliver 1 1, .loadCheckpoint, .loadCheckpoint, .page, .page, .crash,
    .deliver 1 1, .loadCheckpoint, .loadCheckpoint, .complete 12]

theorem interrupted_scrub_resumes :
    ∃ final, run (erasureStep pairedPlatform asciiBoundary) (alone tiedStore)
        (interruptedScrub.map fun turn => .thread 0 turn) = some final ∧ final.shared.isComplete tiedJob = true ∧
      ∀ table, ∀ key ∈ tiedStore.linkedKeys pairedPlatform.sendIds 1 9 table,
        timesPaged pairedPlatform asciiBoundary tiedJob table key (alone tiedStore)
          (interruptedScrub.map fun turn => .thread 0 turn) = 1 := by
  have runs : (run (erasureStep pairedPlatform asciiBoundary) (alone tiedStore)
      (interruptedScrub.map fun turn => .thread 0 turn)).any (fun final => final.shared.isComplete tiedJob) = true := by
    decide +kernel
  obtain ⟨final, ran, complete⟩ := Option.any_eq_true _ _ |>.mp runs
  have commissioned : Commissioned tiedJob (alone tiedStore) := by
    constructor
    · exact ⟨8, rfl⟩
    · intro id other working
      cases working
  have undisturbed : Along (erasureStep pairedPlatform asciiBoundary)
      (Undisturbed pairedPlatform.sendIds tiedJob fun _ => Set.univ) (alone tiedStore)
      (interruptedScrub.map fun turn => .thread 0 turn) := by
    apply undisturbed_lone lone_alone (resumable_commissioned commissioned)
    decide
  exact ⟨final, ran, complete,
    ((scrub_resumes pairedPlatform asciiBoundary commissioned (fun _ _ _ => Set.mem_univ _) undisturbed ran).2.2
      complete).2.1⟩

end Traces

end LocalCrm.Erasure
