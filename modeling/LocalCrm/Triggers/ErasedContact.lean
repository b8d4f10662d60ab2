import LocalCrm.Erasure.Residue
import LocalCrm.Triggers.Runs

/-! What is left of the ways into a flow for an erased contact.

A segment matches no anonymized contact, so no page and no recheck enters one.
-/

set_option autoImplicit false

namespace LocalCrm.Triggers

open Library Flows Segments Events Erasure Contacts Delivery

section Erasure

variable {platform : Platform} {boundary : Boundary} {isEmail : String → Bool} {system next : EntrySystem}
  {action : EntryAction} {contactId : ContactId}

theorem gone_deleteContact {store after : ErasureStore} {now : Timestamp} {workspaceId : WorkspaceId}
    {erasureRecordId : ErasureRecordId} (present : (contactOf store.db.contacts workspaceId contactId).isSome = true)
    (deleted : deleteContact platform store now workspaceId contactId erasureRecordId = some after) :
    after.Gone contactId := by
  obtain ⟨existing, found⟩ := Option.isSome_iff_exists.mp present
  obtain ⟨stored, owned⟩ := contactOf_eq_some.mp found
  unfold deleteContact at deleted
  rw [found] at deleted
  dsimp only at deleted
  split at deleted
  · next already =>
    cases deleted
    exact ⟨existing, stored, already⟩
  · next live =>
    split at deleted
    · cases deleted
    · have same := Option.some.inj deleted
      have contacts : after.db.contacts = store.db.contacts.update
          (fun contact => contact.workspaceId == workspaceId && contact.id == contactId && contact.anonymizedAt.isNone)
          fun contact => anonymized contact now := by
        rw [← same]
      refine ⟨anonymized existing now, ?_, rfl⟩
      rw [find?_anonymized contacts, stored, Option.map_some, if_pos]
      simp [owned, Table.key_of_find? stored, Option.not_isSome_iff_eq_none.mp live]

theorem goneKept_deleteContact {store after : ErasureStore} {now : Timestamp} {workspaceId : WorkspaceId}
    {erasureRecordId : ErasureRecordId}
    (deleted : deleteContact platform store now workspaceId contactId erasureRecordId = some after) :
    GoneKept store.db after.db := by
  unfold deleteContact at deleted
  cases found : contactOf store.db.contacts workspaceId contactId with
  | none =>
    rw [found] at deleted
    cases deleted
    exact goneKept_of_same rfl
  | some existing =>
    rw [found] at deleted
    dsimp only at deleted
    split at deleted
    · cases deleted
      exact goneKept_of_same rfl
    · split at deleted
      · cases deleted
      · have same := Option.some.inj deleted
        apply @goneKept_anonymized workspaceId _ _ now contactId
        rw [← same]

theorem goneKept_ingest {state after : IngestState} {event : IngestEvent}
    (stepped : ingestStep platform boundary isEmail state event = some after) : GoneKept state.db after.db := by
  obtain ⟨workspaceId, action⟩ := event
  by_cases stores : ∃ slot newId, action = .store slot newId
  · obtain ⟨slot, newId, rfl⟩ := stores
    obtain ⟨attempt, _, stored⟩ := Option.bind_eq_some_iff.mp stepped
    unfold storeAttempt at stored
    simp only at stored
    split at stored
    · cases stored
      exact goneKept_of_same rfl
    · split at stored
      · cases stored
      · next result db upserted =>
        cases stored
        exact (upsert_kept upserted).2.1
  · have same : after.db = state.db := by
      cases ingests stepped with
      | dropped slot newId | store slot newId => exact absurd ⟨slot, newId, rfl⟩ stores
      | _ => rfl
    exact goneKept_of_same (by rw [same])

theorem gone_step (gone : system.erasure.Gone contactId)
    (taken : entryStep platform boundary isEmail system action = some next) : next.erasure.Gone contactId := by
  have of_kept : GoneKept system.ingest.db next.ingest.db → next.erasure.Gone contactId := by
    intro kept
    obtain ⟨contact, found, anonymized⟩ := gone
    exact kept contactId contact found anonymized
  apply of_kept
  cases action with
  | ingest event =>
    simp only [entryStep] at taken
    split at taken
    · cases taken
    · obtain ⟨ingest, stepped, rfl⟩ := Option.map_eq_some_iff.mp taken
      exact goneKept_ingest stepped
  | contacts arrival =>
    simp only [entryStep] at taken
    split at taken
    · next writes =>
      obtain ⟨store, arrived, rfl⟩ := Option.map_eq_some_iff.mp taken
      cases arrival with
      | deleteContact now workspaceId contactId erasureRecordId => exact goneKept_deleteContact arrived
      | contacts request =>
        obtain ⟨_, db, stepped, rfl⟩ := arrive_contacts arrived
        exact goneKept_contactStep stepped
      | ingest | webhookRows | dispatch => cases writes
    · cases taken
  | conditions conditions =>
    cases taken
    exact goneKept_of_same rfl
  | flows turn =>
    obtain ⟨_, _, _, rfl⟩ := entryStep_flows taken
    exact goneKept_of_same rfl
  | take slot job =>
    simp only [entryStep] at taken
    split at taken <;> cases taken
    exact goneKept_of_same rfl
  | check slot input =>
    obtain ⟨_, _, _, _, rfl⟩ := entryStep_check taken
    exact goneKept_of_same rfl
  | finish slot =>
    simp only [entryStep] at taken
    split at taken
    · cases taken
    · split at taken <;> cases taken
      exact goneKept_of_same rfl
  | crash slot =>
    obtain ⟨_, _, rfl⟩ := Option.map_eq_some_iff.mp taken
    exact goneKept_of_same rfl

end Erasure

def EntersNot (contactId : ContactId) (system : EntrySystem) (_ : EntryAction) (next : EntrySystem) : Prop :=
  (∀ flowRunId run, system.tables.flowRuns.find? flowRunId = none →
    next.tables.flowRuns.find? flowRunId = some run → run.contactId ≠ contactId) ∧
  ∀ workspaceId flowId, system.tables.hasSeenSnapshot workspaceId flowId contactId = false →
    next.tables.hasSeenSnapshot workspaceId flowId contactId = false

/-- A check of the contact finds no live flow that its event starts and that the contact may enter. -/
def startsNothing (contactId : ContactId) (system : EntrySystem) (action : EntryAction) : Bool :=
  (eventAttemptsOf system action).all fun attempt => attempt.contactId != contactId || !attempt.allowed system.tables

section Entries

variable {platform : Platform} {boundary : Boundary} {isEmail : String → Bool} {system next : EntrySystem}
  {action : EntryAction} {contactId : ContactId}

theorem unmatched_of_gone (gone : system.erasure.Gone contactId) : ¬ system.store.matchesSome contactId := by
  obtain ⟨contact, found, anonymized⟩ := gone
  rintro ⟨workspaceId, definition, member⟩
  obtain ⟨other, inside, same⟩ := List.mem_map.mp member
  obtain ⟨stored, matched⟩ := List.mem_filter.mp inside
  obtain rfl := Table.eq_of_find? found stored same
  simp only [Bool.and_eq_true, Option.isNone_iff_eq_none] at matched
  rw [matched.1.2] at anonymized
  cases anonymized

theorem entersNot_iff (gone : system.erasure.Gone contactId)
    (taken : entryStep platform boundary isEmail system action = some next) :
    EntersNot contactId system action next ↔ startsNothing contactId system action = true := by
  unfold startsNothing
  simp only [List.all_eq_true, Bool.or_eq_true, bne_iff_ne, Bool.not_eq_true']
  constructor
  · rintro ⟨runs, _⟩ attempt member
    cases allowed : attempt.allowed system.tables with
    | false => exact .inr rfl
    | true =>
      obtain ⟨missing, inserted⟩ := inserted_of_allowed taken (List.mem_append_left _ member) allowed
      exact .inl (runs _ _ missing inserted)
  · intro nothing
    constructor
    · rintro flowRunId run missing inserted named
      obtain ⟨attempt, member, allowed, rfl, _⟩ := (new_run taken missing).mp inserted
      rcases List.mem_append.mp member with event | segment
      · rcases nothing attempt event with other | refused
        · exact other named
        · rw [allowed] at refused
          cases refused
      · apply unmatched_of_gone gone
        rw [← named]
        exact (segmentAttemptsOf_fresh segment).1
    · intro workspaceId flowId unseen
      rw [Bool.eq_false_iff]
      intro seen
      rcases new_seen taken seen with before | matched
      · rw [unseen] at before
        cases before
      · exact unmatched_of_gone gone matched

end Entries

/-- An erased contact is never enrolled exactly when no check of one of its events meets a live flow that
would let it in. -/
theorem erased_contact_never_enrolled_iff {platform : Platform} {boundary : Boundary} {isEmail : String → Bool}
    {before after : EntrySystem} {now : Timestamp} {workspaceId : WorkspaceId} {contactId : ContactId}
    {erasureRecordId : ErasureRecordId}
    (present : (contactOf before.ingest.db.contacts workspaceId contactId).isSome = true)
    (erased : entryStep platform boundary isEmail before
      (.contacts (.deleteContact now workspaceId contactId erasureRecordId)) = some after)
    (actions : List EntryAction) :
    Along (entryStep platform boundary isEmail) (EntersNot contactId) after actions ↔
      Along (entryStep platform boundary isEmail) (fun system action _ => startsNothing contactId system action = true)
        after actions := by
  have gone : after.erasure.Gone contactId := by
    obtain ⟨store, deleted, rfl⟩ := Option.map_eq_some_iff.mp erased
    have gone : store.Gone contactId := @gone_deleteContact platform contactId before.erasure store now workspaceId
      erasureRecordId present deleted
    exact gone
  have preserved : ∀ system action next, system.erasure.Gone contactId →
      entryStep platform boundary isEmail system action = some next → next.erasure.Gone contactId :=
    fun system action next holds taken => gone_step holds taken
  apply along_congr preserved _ gone
  intro system action next holds taken
  exact entersNot_iff holds taken

section Traces

def eraseFirst : EntryAction := .contacts (.deleteContact 3 1 3 1)

def sweptWide : List EntryAction :=
  (createFlowTurns ++ publishWith 2 10).map .flows ++ sweepTurns 1 [.loadCheckpoint, .page entries]

theorem sweep_passes_over_erased : ∃ after,
    entryStep pairedPlatform asciiBoundary (fun _ => true) signedUp eraseFirst = some after ∧
      (run (entryStep pairedPlatform asciiBoundary fun _ => true) after sweptWide).isSome = true ∧
      Along (entryStep pairedPlatform asciiBoundary fun _ => true) (EntersNot 3) after sweptWide := by
  have runs : (entryStep pairedPlatform asciiBoundary (fun _ => true) signedUp eraseFirst).any (fun after =>
      (run (entryStep pairedPlatform asciiBoundary fun _ => true) after sweptWide).isSome &&
        checkAlong (entryStep pairedPlatform asciiBoundary fun _ => true) (startsNothing 3) after sweptWide) =
          true := by
    decide +kernel
  obtain ⟨after, erased, both⟩ := Option.any_eq_true _ _ |>.mp runs
  rw [Bool.and_eq_true] at both
  exact ⟨after, erased, both.1,
    (erased_contact_never_enrolled_iff (by decide) erased sweptWide).mpr (along_of_check both.2)⟩

/-- The check of an event that was queued before the erasure enters the erased contact. -/
theorem queued_check_enrols_erased : ¬ ∀ (platform : Platform) (boundary : Boundary) (isEmail : String → Bool)
    (before after : EntrySystem) (now : Timestamp) (workspaceId : WorkspaceId) (contactId : ContactId)
    (erasureRecordId : ErasureRecordId),
    (contactOf before.ingest.db.contacts workspaceId contactId).isSome = true →
    entryStep platform boundary isEmail before
      (.contacts (.deleteContact now workspaceId contactId erasureRecordId)) = some after →
    ∀ actions, Along (entryStep platform boundary isEmail) (EntersNot contactId) after actions := by
  intro always
  have runs : (run (entryStep pairedPlatform asciiBoundary fun _ => true) signedUp publishedSignup).any (fun before =>
      (contactOf before.ingest.db.contacts 1 3).isSome &&
        (entryStep pairedPlatform asciiBoundary (fun _ => true) before eraseFirst).any fun after =>
          (run (entryStep pairedPlatform asciiBoundary fun _ => true) after [.take 0 signupJob]).any fun ready =>
            (ready.ingest.db.contacts.find? 3).any (fun contact => contact.anonymizedAt.isSome) &&
              ((entryStep pairedPlatform asciiBoundary (fun _ => true) ready (.check 0 (checkInput 200))).isSome &&
                !startsNothing 3 ready (.check 0 (checkInput 200)))) = true := by
    decide +kernel
  obtain ⟨before, _, onward⟩ := Option.any_eq_true _ _ |>.mp runs
  obtain ⟨present, onward⟩ := Bool.and_eq_true_iff.mp onward
  obtain ⟨after, erased, onward⟩ := Option.any_eq_true _ _ |>.mp onward
  obtain ⟨ready, ran, onward⟩ := Option.any_eq_true _ _ |>.mp onward
  obtain ⟨anonymized, onward⟩ := Bool.and_eq_true_iff.mp onward
  obtain ⟨contact, found, anonymized⟩ := Option.any_eq_true _ _ |>.mp anonymized
  obtain ⟨stepped, starts⟩ := Bool.and_eq_true_iff.mp onward
  obtain ⟨next, taken⟩ := Option.isSome_iff_exists.mp stepped
  have gone : ready.erasure.Gone 3 := ⟨contact, found, anonymized⟩
  have entersNot := along_last (always _ _ _ before after 3 1 3 1 present erased
    ([.take 0 signupJob] ++ [.check 0 (checkInput 200)])) ran taken
  rw [entersNot_iff gone taken] at entersNot
  rw [entersNot] at starts
  cases starts

end Traces

end LocalCrm.Triggers
