import LocalCrm.Erasure.Machine

/-! What a scrub leaves of the rows of other contacts. -/

set_option autoImplicit false

namespace LocalCrm.Erasure

open Library Webhooks Contacts

structure Framed (ids : SendIdScheme) (workspaceId : WorkspaceId) (contactId : ContactId) (store next : ErasureStore) :
    Prop where
  events : ∀ key row, store.events.find? key = some row → row.isOf workspaceId contactId = false →
    next.events.find? key = some row
  sendEvents : ∀ key row, store.sendEvents.find? key = some row →
    row.isSentTo ids store.db.sends workspaceId contactId = false → next.sendEvents.find? key = some row

def FrameKept (ids : SendIdScheme) (threads : ErasureThreads) (turn : Turn ScrubTurn Arrival) (next : ErasureThreads) :
    Prop :=
  ∀ id choice job, turn = .thread id choice → (threads.own id).job = some job →
    Framed ids job.workspaceId job.contactId threads.shared next.shared

/-- No row of another contact with anything to lose bears the id of a row on the page. -/
def SharesNoId (ids : SendIdScheme) (threads : ErasureThreads) (turn : Turn ScrubTurn Arrival) (_ : ErasureThreads) :
    Prop :=
  ∀ id job cursor, turn = .thread id .page → threads.own id = .walking job .events cursor →
    ∀ row ∈ threads.shared.events.rows, row.workspaceId = job.workspaceId → row.contactId ≠ job.contactId →
      row.properties ≠ [] → ∀ key ∈ threads.shared.scrubPage ids job.workspaceId job.contactId .events cursor,
        (ofLex key).2 ≠ row.id

section Pages

variable {ids : SendIdScheme} {store next : ErasureStore} {workspaceId : WorkspaceId} {contactId : ContactId}
  {cursor : Option ScrubCursor} {page : List ScrubKey} {wanted : WorkspaceId × ScrubKey}

theorem find?_rewritePayloads : (store.rewritePayloads workspaceId page).sendEvents.find? wanted =
    (store.sendEvents.find? wanted).map fun row =>
      if row.workspaceId == workspaceId && page.contains (scrubKey row.occurredAt row.id) then
        { row with payload := buildScrubbedSendEventPayload row.payload }
      else row :=
  @Table.find?_update _ _ _ _ store.sendEvents wanted
    (fun row => row.workspaceId == workspaceId && page.contains (scrubKey row.occurredAt row.id))
    (fun row => { row with payload := buildScrubbedSendEventPayload row.payload }) fun _ => rfl

theorem find?_emptyProperties : (store.emptyProperties workspaceId page).events.find? wanted =
    (store.events.find? wanted).map fun row =>
      if row.workspaceId == workspaceId && (page.map fun key => (ofLex key).2).contains row.id then
        { row with properties := [] }
      else row :=
  @Table.find?_update _ _ _ _ store.events wanted
    (fun row => row.workspaceId == workspaceId && (page.map fun key : ScrubKey => (ofLex key).2).contains row.id)
    (fun row => { row with properties := buildScrubbedEventProperties [] }) fun _ => rfl

theorem isSentTo_of_page {row : SendEventRow} (found : store.sendEvents.find? wanted = some row)
    (within : row.workspaceId = workspaceId)
    (member : scrubKey row.occurredAt row.id ∈ store.scrubPage ids workspaceId contactId .sends cursor) :
    row.isSentTo ids store.db.sends workspaceId contactId = true := by
  obtain ⟨linked, _⟩ := Keyset.mem_page member
  obtain ⟨other, selected, same⟩ := List.mem_map.mp linked
  obtain ⟨stored, sent⟩ := List.mem_filter.mp selected
  have owner : other.workspaceId = workspaceId := by
    unfold SendEventRow.isSentTo at sent
    rw [Bool.and_eq_true, beq_iff_eq] at sent
    exact sent.1
  have keyed : row.key = wanted := Table.key_of_find? found
  have equal : other.key = wanted := by
    rw [← keyed, SendEventRow.key, SendEventRow.key, owner, within, same]
  rw [← Table.eq_of_find? found stored equal]
  exact sent

theorem framed_sends : Framed ids workspaceId contactId store
    (store.rewritePayloads workspaceId (store.scrubPage ids workspaceId contactId .sends cursor)) where
  events _ _ found _ := found
  sendEvents wanted row found unlinked := by
    rw [find?_rewritePayloads, found, Option.map_some, if_neg]
    intro chosen
    simp only [Bool.and_eq_true, beq_iff_eq, List.contains_eq_mem, decide_eq_true_eq] at chosen
    rw [isSentTo_of_page found chosen.1 chosen.2] at unlinked
    cases unlinked

theorem framed_events_iff : Framed ids workspaceId contactId store (store.emptyProperties workspaceId page) ↔
    ∀ row ∈ store.events.rows, row.workspaceId = workspaceId → row.contactId ≠ contactId → row.properties ≠ [] →
      ∀ key ∈ page, (ofLex key).2 ≠ row.id := by
  constructor
  · intro framed row member within other present key inPage same
    have kept := framed.events row.key row (Table.find?_of_mem member) (by simp [EventRow.isOf, other])
    rw [find?_emptyProperties, Table.find?_of_mem member, Option.map_some, if_pos] at kept
    · have emptied : ([] : Properties) = row.properties := congrArg EventRow.properties (Option.some.inj kept)
      exact present emptied.symm
    · simp only [within, beq_self_eq_true, Bool.true_and, List.contains_eq_mem, decide_eq_true_eq]
      exact List.mem_map.mpr ⟨key, inPage, same⟩
  · intro apart
    constructor
    · intro wanted row found unlinked
      rw [find?_emptyProperties, found, Option.map_some, Option.some.injEq]
      split
      · next chosen =>
        simp only [Bool.and_eq_true, beq_iff_eq, List.contains_eq_mem, decide_eq_true_eq] at chosen
        obtain ⟨key, inPage, same⟩ := List.mem_map.mp chosen.2
        have other : row.contactId ≠ contactId := by
          intro equal
          simp [EventRow.isOf, chosen.1, equal] at unlinked
        have empty : row.properties = [] := by
          by_contra present
          exact apart row (Table.mem_of_find? found) chosen.1 other present key inPage same
        cases row
        cases empty
        rfl
      · rfl
    · exact fun _ _ found _ => found

theorem framed_of_same (events : next.events = store.events) (sendEvents : next.sendEvents = store.sendEvents) :
    Framed ids workspaceId contactId store next := by
  constructor
  · intro key row found _
    rw [events]
    exact found
  · intro key row found _
    rw [sendEvents]
    exact found

end Pages

section Steps

variable {platform : Platform} {boundary : Boundary} {threads next : ErasureThreads} {turn : Turn ScrubTurn Arrival}

theorem scrubTurn_evidence {ids : SendIdScheme} {id : Nat} {store shared : ErasureStore} {worker after : ScrubWorker}
    {choice : ScrubTurn} (turned : scrubTurn ids id store worker choice = some (shared, after)) :
    (shared.events = store.events ∧ shared.sendEvents = store.sendEvents ∧
      ∀ job table cursor, worker = .walking job table cursor → choice ≠ .page) ∨
    ∃ job table cursor, worker = .walking job table cursor ∧ choice = .page ∧
      shared = scrubTablePage ids store job cursor table ∧
      after = afterPage job table (store.scrubPage ids job.workspaceId job.contactId table cursor) := by
  unfold scrubTurn at turned
  split at turned
  case h_4 job table cursor =>
    cases turned
    exact .inr ⟨job, table, cursor, rfl, rfl, rfl, rfl⟩
  case h_12 => cases turned
  all_goals
    cases turned
    refine .inl ⟨rfl, rfl, ?_⟩
    intro job table cursor _ same
    cases same

theorem frameKept_iff {ids : SendIdScheme} (same : platform.sendIds = ids)
    (taken : erasureStep platform boundary threads turn = some next) :
    FrameKept ids threads turn next ↔ SharesNoId ids threads turn next := by
  subst same
  cases turn with
  | outside event =>
    constructor
    · intro _ id job cursor same
      cases same
    · intro _ id choice job same
      cases same
  | thread id choice =>
    obtain ⟨shared, after, turned, rfl⟩ := interleave_thread.mp taken
    rcases scrubTurn_evidence turned with ⟨events, sendEvents, unpaged⟩ | ⟨job, table, cursor, walking, rfl, rfl, _⟩
    · constructor
      · intro _ other job cursor same going
        cases same
        exact absurd rfl (unpaged job .events cursor going)
      · intro _ other choice job _ _
        exact framed_of_same events sendEvents
    · cases table with
      | sends =>
        constructor
        · intro _ other otherJob otherCursor same going
          cases same
          cases walking.symm.trans going
        · intro _ other choice otherJob same mine
          cases same
          rw [walking] at mine
          cases mine
          have framed : Framed platform.sendIds job.workspaceId job.contactId threads.shared
              (threads.shared.rewritePayloads job.workspaceId
                (threads.shared.scrubPage platform.sendIds job.workspaceId job.contactId .sends cursor)) := framed_sends
          exact ⟨framed.events, framed.sendEvents⟩
      | events =>
        have whole : Framed platform.sendIds job.workspaceId job.contactId threads.shared
            (scrubTablePage platform.sendIds threads.shared job cursor .events) ↔
            Framed platform.sendIds job.workspaceId job.contactId threads.shared
              (threads.shared.emptyProperties job.workspaceId
                (threads.shared.scrubPage platform.sendIds job.workspaceId job.contactId .events cursor)) :=
          ⟨fun framed => ⟨framed.events, framed.sendEvents⟩, fun framed => ⟨framed.events, framed.sendEvents⟩⟩
        rw [framed_events_iff] at whole
        constructor
        · intro framed other otherJob otherCursor same going
          cases same
          cases walking.symm.trans going
          exact whole.mp (framed id .page job rfl (by rw [walking]; rfl))
        · intro apart other choice otherJob same mine
          cases same
          rw [walking] at mine
          cases mine
          exact whole.mpr (apart id job cursor rfl walking)

end Steps

/-- Scrubs leave all rows of other contacts alone exactly where no page of events holds an id that another
contact's row with properties has too. -/
theorem erasure_frame_iff (platform : Platform) (boundary : Boundary) (start : ErasureThreads)
    (turns : List (Turn ScrubTurn Arrival)) :
    Along (erasureStep platform boundary) (FrameKept platform.sendIds) start turns ↔
      Along (erasureStep platform boundary) (SharesNoId platform.sendIds) start turns := by
  apply @along_congr _ _ _ _ (fun _ => True)
  · intro _ _ _ _ _
    trivial
  · intro threads turn next _ taken
    exact frameKept_iff rfl taken
  · trivial

section Traces

def activeWorkspace : ErasureThreads where
  shared := { db := { organizations := Table.empty.insert { id := 1, slug := "acme" } } }
  own _ := .idle

def tracked (externalId : String) (eventId : EventId) (occurredAt : Timestamp) (properties : Properties) :
    EventsIngestJob :=
  { workspaceId := 1, eventId, occurredAt, name := "viewed", properties, externalId := some externalId }

def sharedEventId : List (Turn ScrubTurn Arrival) :=
  [.outside (.ingest 1 (tracked "first" 7 1 [("path", .string "/pricing")])),
    .outside (.ingest 2 (tracked "second" 7 2 [("path", .string "/docs")])),
    .outside (.deleteContact 3 1 1 1)] ++
  [.deliver 1 1, .start 4, .loadCheckpoint, .page, .loadCheckpoint, .page].map fun turn => .thread 0 turn

/-- The page that holds the first contact's event empties the second one's, and no retry brings it back. -/
theorem shared_event_id_emptied :
    ¬ Along (erasureStep pairedPlatform asciiBoundary) (FrameKept pairedPlatform.sendIds) activeWorkspace
      sharedEventId := by
  intro along
  have runs : (run (erasureStep pairedPlatform asciiBoundary) activeWorkspace (sharedEventId.take 8)).any (fun threads =>
      (erasureStep pairedPlatform asciiBoundary threads (.thread 0 .page)).any fun next =>
        (threads.own 0).job == some { workspaceId := 1, contactId := 1, erasureRecordId := 1 } &&
        threads.shared.events.rows.any fun row =>
          !row.isOf 1 1 && next.shared.events.find? row.key != some row) = true := by
    decide +kernel
  obtain ⟨threads, ran, onward⟩ := Option.any_eq_true _ _ |>.mp runs
  obtain ⟨next, taken, ended⟩ := Option.any_eq_true _ _ |>.mp onward
  rw [Bool.and_eq_true, beq_iff_eq, List.any_eq_true] at ended
  obtain ⟨mine, row, stored, lost⟩ := ended
  rw [Bool.and_eq_true, Bool.not_eq_true', bne_iff_ne] at lost
  have kept := along_last along ran taken
  exact lost.2 ((kept 0 .page _ rfl mine).events row.key row (Table.find?_of_mem stored) lost.1)

end Traces

end LocalCrm.Erasure
