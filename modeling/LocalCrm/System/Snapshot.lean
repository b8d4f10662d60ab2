import LocalCrm.Library.Keyset
import LocalCrm.System.AtMostOnce
import LocalCrm.System.Audience
import Mathlib.Data.Finset.Card
import Mathlib.Data.Finset.Dedup
import Mathlib.Data.Finset.Insert
import Mathlib.Data.Finset.Range
import Mathlib.Data.Fintype.Defs

/-! The frozen recipients of a campaign, over overlapping runs of its snapshot.

A run ends at the first batch that inserts nobody, and goes on from the last contact it inserted itself.
-/

set_option autoImplicit false

namespace LocalCrm.System

open Library Delivery Campaigns Webhooks Analytics

def segmentMembers (db : Database) (workspaceId : WorkspaceId) (matching : List ContactId) : List ContactId :=
  (db.contacts.rows.filter fun contact => contact.workspaceId == workspaceId && contact.id ∈ matching).map Contact.id

theorem snapshotBatch_eq (db : Database) (workspaceId : WorkspaceId) (matching : List ContactId)
    (cursor : Option ContactId) :
    snapshotBatch db workspaceId matching cursor =
      Keyset.page snapshotBatchSize cursor (segmentMembers db workspaceId matching) := by
  unfold snapshotBatch Keyset.page Keyset.upcoming segmentMembers
  rw [List.filter_map, List.filter_filter]
  congr 3
  apply List.filter_congr
  intro contact _
  rw [Bool.and_comm]
  rfl

theorem distinct_segmentMembers (db : Database) (workspaceId : WorkspaceId) (matching : List ContactId) :
    (segmentMembers db workspaceId matching).Nodup :=
  db.contacts.unique.sublist (List.Sublist.map Contact.id List.filter_sublist)

def cursorOf (campaigns : LocalCrm.Campaigns) (id : CampaignId) : Option ContactId :=
  (campaigns.find? id).bind Campaign.snapshotCursor

section Cursor

variable {now : Timestamp} {campaigns : LocalCrm.Campaigns} {id : CampaignId}

theorem cursorOf_update {guard : Campaign → Bool} {set : Campaign → Campaign}
    {keeps : ∀ campaign, (set campaign).id = campaign.id}
    (unread : ∀ campaign, (set campaign).snapshotCursor = campaign.snapshotCursor) :
    cursorOf (campaigns.update guard set keeps) id = cursorOf campaigns id := by
  rw [cursorOf, Table.find?_update, cursorOf]
  cases campaigns.find? id with
  | none => rfl
  | some campaign =>
    simp only [Option.map_some, Option.bind_some]
    split
    · exact unread campaign
    · rfl

theorem cursorOf_edited {organizations : Table Organization.id} {edited : LocalCrm.Campaigns}
    (commits : EditCommits now organizations campaigns edited) : cursorOf edited id = cursorOf campaigns id := by
  cases commits with
  | unchanged => rfl
  | created workspaceId other input fresh =>
    rw [cursorOf, createCampaign, Table.find?_insert, cursorOf]
    cases campaigns.find? id with
    | some campaign => rfl
    | none =>
      split <;> rfl
  | updated | scheduled | unscheduled | canceled | senderSet | restored =>
    apply cursorOf_update
    intro campaign
    rfl

theorem cursorOf_tryComplete {sends : Sends} {other : CampaignId} :
    cursorOf (tryCompleteCampaign now sends campaigns other) id = cursorOf campaigns id :=
  cursorOf_update fun _ => rfl

theorem cursorOf_settled {sends : Sends} {job : SendJob} {status : RecordedStatus} :
    cursorOf (settledCampaigns now sends campaigns job status) id = cursorOf campaigns id := by
  cases job with
  | flow => cases status <;> rfl
  | campaign =>
    cases status with
    | reconciling => rfl
    | sent | failed =>
      simp only [settledCampaigns, cursorOf_tryComplete]
      exact cursorOf_update fun _ => rfl

theorem cursorOf_finished {db : Database} {other : CampaignId} {walk : Walk} :
    cursorOf (finishFanOut now db other walk).campaigns id = cursorOf db.campaigns id := by
  unfold finishFanOut
  split
  · rw [cursorOf_update]
    intro campaign
    rfl
  · simp only [cursorOf_tryComplete]
    rw [cursorOf_update]
    intro campaign
    rfl

theorem cursorOf_materialized {db : Database} {workspaceId : WorkspaceId} {other : CampaignId}
    {matching : List ContactId} {cursor : Option ContactId} :
    cursorOf (materializeBatch db workspaceId other matching cursor).2.2.campaigns id =
      if id = other then (db.campaigns.find? id).bind fun _ => (materializeBatch db workspaceId other matching cursor).2.1
      else cursorOf db.campaigns id := by
  simp only [materializeBatch, cursorOf, Table.find?_update]
  cases found : db.campaigns.find? id with
  | none => simp
  | some campaign =>
    have keyed : campaign.id = id := Table.key_of_find? found
    by_cases same : id = other <;> simp [keyed, same]

end Cursor

section Loop

variable {now : Timestamp} {db : Database} {sendJobs : JobQueue SendJob} {job : KickoffJob} {matching : List ContactId}
  {cursor : Option ContactId}

theorem cursorOf_loaded (loaded : loadSnapshotState db job.workspaceId job.campaignId = .ok cursor) :
    cursorOf db.campaigns job.campaignId = cursor := by
  unfold loadSnapshotState at loaded
  split at loaded
  · cases loaded
  · next campaign located =>
    cases loaded
    obtain ⟨read, _⟩ := Option.filter_eq_some_iff.mp located
    rw [cursorOf, (getCampaign_some read).1]
    rfl

theorem kickoffStep_batch : kickoffStep now db sendJobs job matching (.snapshotting cursor) =
    { db := (materializeBatch db job.workspaceId job.campaignId matching cursor).2.2
      sendJobs
      phase :=
        if (materializeBatch db job.workspaceId job.campaignId matching cursor).1.isEmpty then .paging {}
        else .snapshotting (materializeBatch db job.workspaceId job.campaignId matching cursor).2.1 } := by
  simp only [kickoffStep]
  split <;> rfl

theorem kickoffStep_loops {phase : KickoffPhase}
    (loops : (kickoffStep now db sendJobs job matching phase).phase = .snapshotting cursor) :
    cursorOf db.campaigns job.campaignId = cursor ∨ ∃ start, phase = .snapshotting start ∧
      cursor = (materializeBatch db job.workspaceId job.campaignId matching start).2.1 := by
  cases phase with
  | snapshotting start =>
    right
    rw [kickoffStep_batch] at loops
    split at loops
    · cases loops
    · exact ⟨start, rfl, (KickoffPhase.snapshotting.inj loops).symm⟩
  | loading =>
    left
    simp only [kickoffStep] at loops
    split at loops
    · cases loops
    · next loaded =>
      cases loops
      exact cursorOf_loaded loaded
  | judging walk pageEnd rest =>
    cases rest with
    | nil => cases loops
    | cons head rest =>
      obtain ⟨contactId, contact⟩ := head
      cases contact with
      | none => cases loops
      | some contact =>
        simp only [kickoffStep] at loops
        split at loops <;> cases loops
  | started =>
    simp only [kickoffStep] at loops
    split at loops <;> cases loops
  | admitted | paging =>
    simp only [kickoffStep] at loops
    split at loops
    · cases loops
    · split at loops <;> cases loops
  | fetching | excluding | enqueueing | finishing | returned | threw => cases loops

end Loop

def batchOf (campaignId : CampaignId) (world : World) : Label → Option (WorkspaceId × List ContactId × Option ContactId)
  | .kickoff (.advance id matching) =>
    (world.kickoffs.find? id).bind fun kickoff =>
      match kickoff.phase with
      | .snapshotting cursor =>
        if kickoff.job.campaignId = campaignId then some (kickoff.job.workspaceId, matching, cursor) else none
      | _ => none
  | _ => none

section Steps

variable {platform : Platform} {world next : World} {label : Label} {campaignId : CampaignId}

theorem batchOf_advance {id : Nat} {matching : List ContactId} {kickoff : Kickoff} {cursor : Option ContactId}
    (found : world.kickoffs.find? id = some kickoff) (phase : kickoff.phase = .snapshotting cursor)
    (same : kickoff.job.campaignId = campaignId) :
    batchOf campaignId world (.kickoff (.advance id matching)) = some (kickoff.job.workspaceId, matching, cursor) := by
  simp [batchOf, found, phase, same]

theorem cursorOf_step (taken : step platform world label = some next) (quiet : batchOf campaignId world label = none) :
    cursorOf next.db.campaigns campaignId = cursorOf world.db.campaigns campaignId := by
  cases label with
  | environment event => exact cursorOf_edited (environmentStep_frame taken).campaigns
  | api request =>
    obtain ⟨campaigns, commits, rfl⟩ := apiStep_taken taken
    exact cursorOf_edited commits
  | launch event =>
    cases launchStep_taken taken with
    | requested | refused | enqueued | crashed => rfl
    | committed launch campaigns found uncommitted launched =>
      obtain ⟨existing, _, _, _, _, rfl⟩ := launchCampaign_ok launched
      rw [cursorOf_update]
      intro campaign
      rfl
  | tick event =>
    cases tickStep_taken taken with
    | begun | passed | enqueued | finished | crashed => rfl
    | transitioned =>
      rw [cursorOf_update]
      intro campaign
      rfl
  | kickoff event =>
    cases kickoffEventStep_taken taken with
    | started | acked | crashed => rfl
    | @advanced id matching kickoff effect found stepped =>
      have writes := kickoffStep_writes world.now world.db world.sendJobs kickoff.job matching kickoff.phase
      rw [stepped] at writes
      generalize effect.db = db at writes
      generalize phase : kickoff.phase = current at writes
      cases writes with
      | nothing | exclusion => rfl
      | totals walk => exact cursorOf_finished
      | batch cursor =>
        have other : campaignId ≠ kickoff.job.campaignId := by
          intro same
          rw [batchOf_advance found phase same.symm] at quiet
          cases quiet
        rw [cursorOf_materialized, if_neg other]
  | delivery event =>
    cases deliveryStep_taken taken with
    | delivered result db pending fresh uncalled claimed => cases claimSend_commits claimed <;> rfl
    | settled job claim dispatchedAt duration outcome found =>
      cases recorded : recordedStatus outcome with
      | none => simp only [settleOutcome_released recorded]
      | some status => simp only [settleOutcome_recorded recorded, cursorOf_settled]
    | rejected | denied | called | answered | acked | retried | givenUp | crashed => rfl
  | reconcile sendId =>
    cases taken
    have commits := resolveOneSend_commits platform.sendIds world.now world.db sendId
    generalize resolveOneSend platform.sendIds world.now world.db sendId = db at commits
    cases commits with
    | held | swept | unresolved => rfl
    | resolved intent derived status =>
      split
      · rw [cursorOf_tryComplete]
        exact cursorOf_update fun _ => rfl
      · rfl
  | webhookBatch | sweep =>
    obtain ⟨db, kept, rfl⟩ := quietStep_taken rfl taken
    have columns := congrArg (Option.bind · Campaign.snapshotCursor) (kept.campaigns campaignId)
    simp only [Option.bind_map] at columns
    exact columns

theorem batchOf_some {batch : WorkspaceId × List ContactId × Option ContactId}
    (runs : batchOf campaignId world label = some batch) :
    ∃ id kickoff, label = .kickoff (.advance id batch.2.1) ∧ world.kickoffs.find? id = some kickoff ∧
      kickoff.phase = .snapshotting batch.2.2 ∧ kickoff.job = { workspaceId := batch.1, campaignId } := by
  unfold batchOf at runs
  split at runs
  · next id matching =>
    obtain ⟨kickoff, found, chosen⟩ := Option.bind_eq_some_iff.mp runs
    split at chosen
    · next cursor phase =>
      split at chosen
      · next same =>
        cases chosen
        refine ⟨id, kickoff, rfl, found, phase, ?_⟩
        rw [← same]
      · cases chosen
    · cases chosen
  · cases runs

inductive LoopOrigin (world : World) (label : Label) (next : World) (id : Nat) (kickoff : Kickoff)
    (cursor : Option ContactId) : Prop where
  | waited (found : world.kickoffs.find? id = some kickoff)
  | loaded (read : cursorOf world.db.campaigns kickoff.job.campaignId = cursor)
  | batched (start : Option ContactId) (matching : List ContactId) (moves : label = .kickoff (.advance id matching))
      (found : world.kickoffs.find? id = some { kickoff with phase := .snapshotting start })
      (committed : next.db = (materializeBatch world.db kickoff.job.workspaceId kickoff.job.campaignId matching start).2.2)
      (last : cursor = (materializeBatch world.db kickoff.job.workspaceId kickoff.job.campaignId matching start).2.1)

theorem loopOrigin_step (taken : step platform world label = some next) {id : Nat} {kickoff : Kickoff}
    {cursor : Option ContactId} (found : next.kickoffs.find? id = some kickoff)
    (phase : kickoff.phase = .snapshotting cursor) : LoopOrigin world label next id kickoff cursor := by
  by_cases moves : ∃ event, label = .kickoff event
  · obtain ⟨event, rfl⟩ := moves
    cases kickoffEventStep_taken taken with
    | @started moved job pending fresh =>
      rw [Table.find?_put] at found
      split at found
      · cases found
        cases phase
      · exact .waited found
    | @advanced moved matching before effect stored stepped =>
      have keyed : before.id = moved := Table.key_of_find? stored
      rw [Table.find?_put] at found
      split at found
      · next same =>
        cases found
        rw [keyed] at same
        subst same
        subst stepped
        rcases kickoffStep_loops phase with read | ⟨start, looping, last⟩
        · exact .loaded read
        · refine .batched start matching rfl ?_ ?_ last
          · rw [stored, ← looping]
          · simp only [looping, kickoffStep_batch]
      · exact .waited found
    | acked | crashed =>
      rw [Table.find?_erase] at found
      split at found
      · cases found
      · exact .waited found
  · rw [kickoffs_kept (fun event same => moves ⟨event, same⟩) taken] at found
    exact .waited found

end Steps

def recorded (recipients : Table Recipient.key) (campaignId : CampaignId) (contactId : ContactId) : Bool :=
  (recipients.find? (campaignId, contactId)).isSome

def Reached (recipients : Table Recipient.key) (campaignId : CampaignId) (members : Finset ContactId)
    (cursor : Option ContactId) : Prop :=
  ∀ contactId ∈ members, Keyset.isAfter cursor contactId = false → recorded recipients campaignId contactId = true

/-- Up to the cursor that is persisted, and to that of every running loop, all members are recipients. -/
structure Covered (campaignId : CampaignId) (members : Finset ContactId) (world : World) : Prop where
  persisted : Reached world.db.campaignRecipients campaignId members (cursorOf world.db.campaigns campaignId)
  running : ∀ id kickoff cursor, world.kickoffs.find? id = some kickoff → kickoff.job.campaignId = campaignId →
    kickoff.phase = .snapshotting cursor → Reached world.db.campaignRecipients campaignId members cursor

def selects (campaignId : CampaignId) (members : Finset ContactId) (world : World) (label : Label) : Bool :=
  (batchOf campaignId world label).all fun (workspaceId, matching, _) =>
    (segmentMembers world.db workspaceId matching).toFinset = members

def snapshotReturns (campaignId : CampaignId) (world : World) (label : Label) (next : World) : Bool :=
  (batchOf campaignId world label).isSome &&
    match label with
    | .kickoff (.advance id _) => (next.kickoffs.find? id).any fun kickoff => kickoff.phase == .paging {}
    | _ => false

def EachOnce (campaignId : CampaignId) (members : Finset ContactId) (world : World) : Prop :=
  ∀ contactId ∈ members, world.db.campaignRecipients.count
    (fun recipient => recipient.campaignId == campaignId && recipient.contactId == contactId) = 1

/-- No batch finds a full page of recipients before a member that is none. -/
def uncut (campaignId : CampaignId) (members : Finset ContactId) (world : World) (label : Label) : Bool :=
  (batchOf campaignId world label).all fun (workspaceId, matching, cursor) =>
    let page := snapshotBatch world.db workspaceId matching cursor
    decide (page.length = snapshotBatchSize →
      (∀ contactId ∈ page, recorded world.db.campaignRecipients campaignId contactId = true) →
      ∀ contactId ∈ members, Keyset.isAfter (Keyset.pageEnd cursor page) contactId = true →
        recorded world.db.campaignRecipients campaignId contactId = true)

section Walk

variable {db : Database} {workspaceId : WorkspaceId} {campaignId : CampaignId} {matching : List ContactId}
  {cursor : Option ContactId} {members : Finset ContactId} {contactId : ContactId}

theorem recorded_materialized :
    recorded (materializeBatch db workspaceId campaignId matching cursor).2.2.campaignRecipients campaignId contactId =
      (recorded db.campaignRecipients campaignId contactId ||
        decide (contactId ∈ snapshotBatch db workspaceId matching cursor)) := by
  simp only [recorded, materializeBatch, find?_insertRecipients, Option.isSome_or]
  by_cases member : contactId ∈ snapshotBatch db workspaceId matching cursor <;> simp [member]

theorem mem_members (selected : (segmentMembers db workspaceId matching).toFinset = members) :
    contactId ∈ members ↔ contactId ∈ segmentMembers db workspaceId matching := by
  rw [← selected, List.mem_toFinset]

theorem reached_materialized (selected : (segmentMembers db workspaceId matching).toFinset = members)
    (reached : Reached db.campaignRecipients campaignId members cursor) :
    Reached (materializeBatch db workspaceId campaignId matching cursor).2.2.campaignRecipients campaignId members
      (materializeBatch db workspaceId campaignId matching cursor).2.1 := by
  intro contactId member before
  rw [recorded_materialized, Bool.or_eq_true, decide_eq_true_eq]
  cases passed : Keyset.isAfter cursor contactId with
  | false => exact .inl (reached contactId member passed)
  | true =>
    right
    rw [snapshotBatch_eq]
    have inside : contactId ∈ segmentMembers db workspaceId matching := (mem_members selected).mp member
    rcases Keyset.mem_page_or_after (distinct_segmentMembers db workspaceId matching) inside passed with
      page | later
    · exact page
    · -- the last contact inserted is on the page, so nobody beyond the page is up to it
      simp only [materializeBatch] at before
      cases ends : ((snapshotBatch db workspaceId matching cursor).filter fun contactId =>
          (db.campaignRecipients.find? (campaignId, contactId)).isNone).getLast? with
      | none =>
        rw [ends, Option.none_or, passed] at before
        cases before
      | some last =>
        rw [ends, Option.some_or] at before
        have inserted := List.mem_of_mem_filter (List.mem_of_getLast? ends)
        rw [snapshotBatch_eq] at inserted
        exact absurd (Keyset.not_isAfter_some.mp before) (not_le.mpr (later last inserted))

theorem recorded_iff_count {recipients : Table Recipient.key} : recorded recipients campaignId contactId = true ↔
    recipients.count (fun recipient => recipient.campaignId == campaignId && recipient.contactId == contactId) = 1 := by
  have counted : recipients.count
      (fun recipient => recipient.campaignId == campaignId && recipient.contactId == contactId) =
      if (recipients.find? (campaignId, contactId)).isSome then 1 else 0 := by
    apply Table.count_keyed
    simp [Recipient.key]
  rw [counted]
  unfold recorded
  split <;> simp [*]

end Walk

section Invariant

variable {platform : Platform} {world next : World} {label : Label} {campaignId : CampaignId} {members : Finset ContactId}
  {cursor : Option ContactId}

theorem recorded_step (taken : step platform world label = some next) {contactId : ContactId}
    (there : recorded world.db.campaignRecipients campaignId contactId = true) :
    recorded next.db.campaignRecipients campaignId contactId = true := by
  rcases recipients_step taken with same | ⟨id, kickoff, contactIds, _, same⟩
  · rw [same]
    exact there
  · unfold recorded at there ⊢
    rw [same, find?_insertRecipients, Option.isSome_or, there, Bool.true_or]

theorem reached_step (taken : step platform world label = some next)
    (reached : Reached world.db.campaignRecipients campaignId members cursor) :
    Reached next.db.campaignRecipients campaignId members cursor :=
  fun contactId member before => recorded_step taken (reached contactId member before)

theorem db_of_batch (taken : step platform world label = some next) {workspaceId : WorkspaceId}
    {matching : List ContactId} (runs : batchOf campaignId world label = some (workspaceId, matching, cursor)) :
    next.db = (materializeBatch world.db workspaceId campaignId matching cursor).2.2 := by
  obtain ⟨id, kickoff, rfl, found, phase, job⟩ := batchOf_some runs
  have moved : KickoffTaken world (.advance id matching) next := kickoffEventStep_taken taken
  cases moved with
  | advanced before effect stored stepped =>
    rw [found] at stored
    cases stored
    subst stepped
    simp only [phase, kickoffStep_batch, job]

theorem snapshotReturns_iff (taken : step platform world label = some next) {workspaceId : WorkspaceId}
    {matching : List ContactId} (runs : batchOf campaignId world label = some (workspaceId, matching, cursor)) :
    snapshotReturns campaignId world label next = true ↔
      (materializeBatch world.db workspaceId campaignId matching cursor).1.isEmpty = true := by
  obtain ⟨id, kickoff, rfl, found, phase, job⟩ := batchOf_some runs
  have moved : KickoffTaken world (.advance id matching) next := kickoffEventStep_taken taken
  cases moved with
  | advanced before effect stored stepped =>
    rw [found] at stored
    cases stored
    subst stepped
    have keyed : kickoff.id = id := Table.key_of_find? found
    simp only [snapshotReturns, runs, Table.find?_put, keyed, phase, kickoffStep_batch, job, if_true]
    split <;> simp [*]

theorem covered_step (covered : Covered campaignId members world) (selected : selects campaignId members world label = true)
    (taken : step platform world label = some next) : Covered campaignId members next where
  persisted := by
    cases runs : batchOf campaignId world label with
    | none =>
      rw [cursorOf_step taken runs]
      exact reached_step taken covered.persisted
    | some batch =>
      obtain ⟨workspaceId, matching, cursor⟩ := batch
      obtain ⟨id, kickoff, _, found, phase, job⟩ := batchOf_some runs
      simp only [selects, runs, Option.all_some, decide_eq_true_eq] at selected
      rw [db_of_batch taken runs, cursorOf_materialized, if_pos rfl]
      cases world.db.campaigns.find? campaignId with
      | none =>
        intro contactId _ before
        cases before
      | some campaign =>
        exact reached_materialized selected (covered.running id kickoff cursor found (by rw [job]) phase)
  running id kickoff cursor found same phase := by
    cases loopOrigin_step taken found phase with
    | waited stored => exact reached_step taken (covered.running id kickoff cursor stored same phase)
    | loaded read =>
      rw [← read, same]
      exact reached_step taken covered.persisted
    | batched start matching moves stored committed last =>
      subst moves
      have runs : batchOf campaignId world (.kickoff (.advance id matching)) =
          some (kickoff.job.workspaceId, matching, start) :=
        @batchOf_advance world campaignId id matching { kickoff with phase := .snapshotting start } start stored rfl same
      simp only [selects, runs, Option.all_some, decide_eq_true_eq] at selected
      rw [committed, last, same]
      exact reached_materialized selected (covered.running id _ start stored same rfl)

theorem covered_initial (now : Timestamp) : Covered campaignId members (initialWorld now) where
  persisted contactId _ before := by cases before
  running id kickoff cursor found := by cases found

theorem returns_eachOnce_iff (covered : Covered campaignId members world)
    (selected : selects campaignId members world label = true) (taken : step platform world label = some next) :
    (snapshotReturns campaignId world label next = true → EachOnce campaignId members next) ↔
      uncut campaignId members world label = true := by
  cases runs : batchOf campaignId world label with
  | none => simp [snapshotReturns, uncut, runs]
  | some batch =>
    obtain ⟨workspaceId, matching, cursor⟩ := batch
    obtain ⟨id, kickoff, _, found, phase, job⟩ := batchOf_some runs
    simp only [selects, runs, Option.all_some, decide_eq_true_eq] at selected
    have reached := covered.running id kickoff cursor found (by rw [job]) phase
    -- an empty batch is one whose whole page is recorded
    have returns : snapshotReturns campaignId world label next = true ↔
        ∀ contactId ∈ snapshotBatch world.db workspaceId matching cursor,
          recorded world.db.campaignRecipients campaignId contactId = true := by
      rw [snapshotReturns_iff taken runs]
      simp [materializeBatch, recorded, Option.isSome_iff_ne_none]
    have once : (∀ contactId ∈ snapshotBatch world.db workspaceId matching cursor,
        recorded world.db.campaignRecipients campaignId contactId = true) →
        (EachOnce campaignId members next ↔
          ∀ contactId ∈ members, recorded world.db.campaignRecipients campaignId contactId = true) := by
      intro taken_
      apply forall₂_congr
      intro contactId member
      rw [← recorded_iff_count, db_of_batch taken runs, recorded_materialized, Bool.or_eq_true, decide_eq_true_eq]
      exact or_iff_left_of_imp (taken_ contactId)
    rw [returns]
    simp only [uncut, runs, Option.all_some, decide_eq_true_eq]
    constructor
    · intro complete _ whole contactId member _
      exact (once whole).mp (complete whole) contactId member
    · intro uncut whole
      apply (once whole).mpr
      intro contactId member
      cases passed : Keyset.isAfter cursor contactId with
      | false => exact reached contactId member passed
      | true =>
        have inside : contactId ∈ segmentMembers world.db workspaceId matching := (mem_members selected).mp member
        have distinct := distinct_segmentMembers world.db workspaceId matching
        rw [snapshotBatch_eq] at whole uncut
        by_cases full : (Keyset.page snapshotBatchSize cursor (segmentMembers world.db workspaceId matching)).length =
            snapshotBatchSize
        · rcases Keyset.mem_page_or_isAfter distinct inside passed with page | later
          · exact whole contactId page
          · exact uncut full whole contactId member later
        · have short : (Keyset.page snapshotBatchSize cursor (segmentMembers world.db workspaceId matching)).length <
              snapshotBatchSize := lt_of_le_of_ne (List.length_take_le _ _) full
          exact whole contactId (Keyset.mem_page_of_short short inside passed)

end Invariant

/-- Where all batches of a campaign select from the same members, ended snapshots are complete exactly when no
batch is cut short. -/
theorem snapshot_complete_iff (platform : Platform) (campaignId : CampaignId) (members : Finset ContactId)
    {start : Timestamp} {trace : List Label}
    (selected : Along (step platform) (fun world label _ => selects campaignId members world label = true)
      (initialWorld start) trace) :
    Along (step platform) (fun world label next =>
        snapshotReturns campaignId world label next = true → EachOnce campaignId members next) (initialWorld start) trace ↔
      Along (step platform) (fun world label _ => uncut campaignId members world label = true) (initialWorld start)
        trace := by
  have started : Covered campaignId members (initialWorld start) := covered_initial start
  apply along_congr_of_conforming _ _ started selected
  · intro world label next covered selected taken
    exact covered_step covered selected taken
  · intro world label next covered selected taken
    exact returns_eachOnce_iff covered selected taken

section Overlaps

def overlappingKickoffs : List Label :=
  launchedCampaign ++ kickoffSteps 0 3 ++ kickoffSteps 1 3 ++
    [.kickoff (.advance 0 [1, 2]), .kickoff (.advance 1 [1, 2]), .kickoff (.advance 0 [1, 2])]

theorem snapshot_complete_overlapping :
    (run (step pairedPlatform) (initialWorld 0) overlappingKickoffs).isSome = true ∧
    Along (step pairedPlatform) (fun world label next =>
      snapshotReturns 0 world label next = true → EachOnce 0 {1, 2} next) (initialWorld 0) overlappingKickoffs := by
  have selected : checkAlong (step pairedPlatform) (selects 0 {1, 2}) (initialWorld 0) overlappingKickoffs = true := by
    decide +kernel
  have kept : checkAlong (step pairedPlatform) (uncut 0 {1, 2}) (initialWorld 0) overlappingKickoffs = true := by
    decide +kernel
  exact ⟨by decide +kernel,
    (snapshot_complete_iff pairedPlatform 0 {1, 2} (along_of_check selected)).mpr (along_of_check kept)⟩

@[irreducible] def crowd : List ContactId := List.range (snapshotBatchSize + 1)

def person (id : ContactId) : Contact := { id, workspaceId := 0, email := some "ann" }

def twoKickoffs : List Label :=
  .environment (.createWorkspace 0 "acme") :: launchSteps ++ [0, 1].flatMap fun id =>
    .kickoff (.start id { workspaceId := 0, campaignId := 0 }) :: List.replicate 3 (.kickoff (.advance id crowd))

def crowdArrives : List Label := crowd.map fun id => .environment (.putContact (person id))

def lateKickoff : List Label :=
  twoKickoffs ++ crowdArrives ++ [.kickoff (.advance 0 crowd)] ++ [.kickoff (.advance 1 crowd)]

theorem run_arrivals (world : World) (ids : List ContactId) :
    ∃ contacts, run (step pairedPlatform) world (ids.map fun id => .environment (.putContact (person id))) =
        some { world with db := { world.db with contacts } } ∧
      ∀ wanted, contacts.find? wanted = if wanted ∈ ids then some (person wanted) else world.db.contacts.find? wanted := by
  induction ids generalizing world with
  | nil => exact ⟨world.db.contacts, rfl, fun wanted => (if_neg List.not_mem_nil).symm⟩
  | cons id rest ih =>
    obtain ⟨contacts, ran, found⟩ :=
      ih { world with db := { world.db with contacts := world.db.contacts.put (person id) } }
    refine ⟨contacts, ran, ?_⟩
    intro wanted
    rw [found, Table.find?_put]
    by_cases later : wanted ∈ rest
    · simp [later]
    · by_cases same : wanted = id
      · subst same
        simp [later, person]
      · simp [later, same, person]

theorem mem_segmentMembers {db : Database} {workspaceId : WorkspaceId} {matching : List ContactId} {contactId : ContactId} :
    contactId ∈ segmentMembers db workspaceId matching ↔ contactId ∈ matching ∧
      ∃ contact, db.contacts.find? contactId = some contact ∧ contact.workspaceId = workspaceId := by
  simp only [segmentMembers, List.mem_map, List.mem_filter, Bool.and_eq_true, beq_iff_eq, decide_eq_true_eq]
  constructor
  · rintro ⟨contact, ⟨stored, owner, matches_⟩, rfl⟩
    exact ⟨matches_, contact, Table.find?_of_mem stored, owner⟩
  · rintro ⟨matches_, contact, found, owner⟩
    have keyed : contact.id = contactId := Table.key_of_find? found
    exact ⟨contact, ⟨Table.mem_of_find? found, owner, by rw [keyed]; exact matches_⟩, keyed⟩

theorem advance_taken {world : World} {id : Nat} {matching : List ContactId} {kickoff : Kickoff}
    {cursor : Option ContactId} (found : world.kickoffs.find? id = some kickoff)
    (phase : kickoff.phase = .snapshotting cursor) :
    ∃ next, step pairedPlatform world (.kickoff (.advance id matching)) = some next ∧
      next.db = (materializeBatch world.db kickoff.job.workspaceId kickoff.job.campaignId matching cursor).2.2 ∧
      ∀ other, other ≠ id → next.kickoffs.find? other = world.kickoffs.find? other := by
  refine ⟨_, by simp only [step, kickoffEventStep, found]; rfl, ?_, ?_⟩
  · simp only [phase, kickoffStep_batch]
  · intro other differs
    have keyed : kickoff.id = id := Table.key_of_find? found
    rw [Table.find?_put, keyed, if_neg differs]

theorem members_crowd {db : Database} (arrived : ∀ contactId, db.contacts.find? contactId =
    if contactId ∈ crowd then some (person contactId) else none) :
    (segmentMembers db 0 crowd).toFinset = crowd.toFinset := by
  apply Finset.ext
  intro contactId
  rw [List.mem_toFinset, List.mem_toFinset, mem_segmentMembers, arrived]
  constructor
  · exact And.left
  · intro inside
    exact ⟨inside, person contactId, if_pos inside, rfl⟩

theorem card_crowd : crowd.toFinset.card = snapshotBatchSize + 1 := by
  unfold crowd
  rw [List.toFinset_card_of_nodup List.nodup_range, List.length_range]

def onlyJob : KickoffJob := { workspaceId := 0, campaignId := 0 }

theorem second_batch_returns {world : World} {matching : List ContactId}
    (first : world.kickoffs.find? 0 = some { id := 0, job := onlyJob, phase := .snapshotting none })
    (second : world.kickoffs.find? 1 = some { id := 1, job := onlyJob, phase := .snapshotting none })
    (fresh : ∀ contactId, recorded world.db.campaignRecipients 0 contactId = false) :
    ∃ batched final, step pairedPlatform world (.kickoff (.advance 0 matching)) = some batched ∧
      step pairedPlatform batched (.kickoff (.advance 1 matching)) = some final ∧
      batched.db.contacts = world.db.contacts ∧
      batchOf 0 batched (.kickoff (.advance 1 matching)) = some (0, matching, none) ∧
      snapshotReturns 0 batched (.kickoff (.advance 1 matching)) final = true ∧
      ∀ contactId, recorded final.db.campaignRecipients 0 contactId =
        decide (contactId ∈ snapshotBatch world.db 0 matching none) := by
  obtain ⟨batched, stepped, committed, others⟩ : ∃ next, step pairedPlatform world (.kickoff (.advance 0 matching)) =
      some next ∧ next.db = (materializeBatch world.db 0 0 matching none).2.2 ∧
      ∀ other, other ≠ 0 → next.kickoffs.find? other = world.kickoffs.find? other := advance_taken first rfl
  have waiting : batched.kickoffs.find? 1 = some { id := 1, job := onlyJob, phase := .snapshotting none } :=
    (others 1 (by decide)).trans second
  obtain ⟨final, ended, _, _⟩ : ∃ next, step pairedPlatform batched (.kickoff (.advance 1 matching)) =
      some next ∧ next.db = (materializeBatch batched.db 0 0 matching none).2.2 ∧
      ∀ other, other ≠ 1 → next.kickoffs.find? other = batched.kickoffs.find? other := advance_taken waiting rfl
  have ending : batchOf 0 batched (.kickoff (.advance 1 matching)) = some (0, matching, none) :=
    batchOf_advance waiting rfl rfl
  have kept : batched.db.contacts = world.db.contacts := by
    rw [committed]
    rfl
  have batches : snapshotBatch batched.db 0 matching none = snapshotBatch world.db 0 matching none := by
    unfold snapshotBatch
    rw [kept]
  have paged : ∀ contactId, recorded batched.db.campaignRecipients 0 contactId =
      decide (contactId ∈ snapshotBatch world.db 0 matching none) := by
    intro contactId
    rw [committed, recorded_materialized, fresh, Bool.false_or]
  refine ⟨batched, final, stepped, ended, kept, ending, ?_, ?_⟩
  · rw [snapshotReturns_iff ended ending]
    simp only [materializeBatch, List.isEmpty_iff, List.filter_eq_nil_iff]
    intro contactId page
    have there := paged contactId
    rw [← batches, decide_eq_true page] at there
    simpa [recorded, Option.isSome_iff_ne_none] using there
  · intro contactId
    rw [db_of_batch ended ending, recorded_materialized, paged, batches, Bool.or_self]

theorem twoKickoffs_selects : checkAlong (step pairedPlatform) (selects 0 crowd.toFinset) (initialWorld 0) twoKickoffs =
    true := by
  decide +kernel

/-- A second execution leaves its loop after the first batch of the other: a page is not the crowd. -/
theorem snapshot_cut_short : ¬ ∀ (platform : Platform) (campaignId : CampaignId) (members : Finset ContactId)
    (start : Timestamp) (trace : List Label),
    Along (step platform) (fun world label _ => selects campaignId members world label = true) (initialWorld start) trace →
    Along (step platform) (fun world label next =>
      snapshotReturns campaignId world label next = true → EachOnce campaignId members next) (initialWorld start) trace := by
  intro always
  have evaluated : (run (step pairedPlatform) (initialWorld 0) twoKickoffs).any (fun world =>
      world.db.contacts.rows.isEmpty && world.db.campaignRecipients.rows.isEmpty &&
        world.kickoffs.find? 0 == some { id := 0, job := onlyJob, phase := .snapshotting none } &&
        world.kickoffs.find? 1 == some { id := 1, job := onlyJob, phase := .snapshotting none }) = true := by
    decide +kernel
  obtain ⟨world, reached, facts⟩ := Option.any_eq_true _ _ |>.mp evaluated
  simp only [Bool.and_eq_true, List.isEmpty_iff, beq_iff_eq] at facts
  obtain ⟨⟨⟨nobody, unrecorded⟩, first⟩, second⟩ := facts
  obtain ⟨contacts, arrived, found⟩ := run_arrivals world crowd
  generalize place : ({ world with db := { world.db with contacts } } : World) = filled at arrived
  have there : ∀ contactId, filled.db.contacts.find? contactId =
      if contactId ∈ crowd then some (person contactId) else none := by
    intro contactId
    have missing : world.db.contacts.find? contactId = none := by
      rw [Table.find?_none, nobody]
      exact List.not_mem_nil
    rw [← place, found, missing]
  have selected : (segmentMembers filled.db 0 crowd).toFinset = crowd.toFinset := members_crowd there
  have fresh : ∀ contactId, recorded filled.db.campaignRecipients 0 contactId = false := by
    rw [← place]
    simp [recorded, Table.find?, unrecorded]
  have started : filled.kickoffs.find? 0 = some { id := 0, job := onlyJob, phase := .snapshotting none } := by
    rw [← place]
    exact first
  have waiting : filled.kickoffs.find? 1 = some { id := 1, job := onlyJob, phase := .snapshotting none } := by
    rw [← place]
    exact second
  obtain ⟨batched, final, stepped, ended, kept, ending, returns, paged⟩ := second_batch_returns started waiting fresh
  have filling : batchOf 0 filled (.kickoff (.advance 0 crowd)) = some (0, crowd, none) := batchOf_advance started rfl rfl
  have selectedAgain : (segmentMembers batched.db 0 crowd).toFinset = crowd.toFinset := by
    apply members_crowd
    rw [kept]
    exact there
  have before : run (step pairedPlatform) (initialWorld 0) (twoKickoffs ++ crowdArrives ++ [.kickoff (.advance 0 crowd)]) =
      some batched :=
    run_append.mpr ⟨filled, run_append.mpr ⟨world, reached, arrived⟩, run_cons.mpr ⟨batched, stepped, rfl⟩⟩
  have same : Along (step pairedPlatform) (fun world label _ => selects 0 crowd.toFinset world label = true)
      (initialWorld 0) lateKickoff := by
    apply along_append (along_append (along_append (along_of_check twoKickoffs_selects) _) _)
    · intro middle ran
      obtain rfl := Option.some.inj (before.symm.trans ran)
      intro next _
      exact ⟨by simp [selects, ending, selectedAgain], trivial⟩
    · intro middle _
      apply along_of_labels
      intro label member state next
      obtain ⟨id, _, rfl⟩ := List.mem_map.mp member
      rfl
    · intro middle ran
      obtain ⟨between, ready, arriving⟩ := run_append.mp ran
      obtain rfl := Option.some.inj (reached.symm.trans ready)
      obtain rfl := Option.some.inj (arrived.symm.trans arriving)
      intro next _
      exact ⟨by simp [selects, filling, selected], trivial⟩
  have once := along_last (always pairedPlatform 0 crowd.toFinset 0 lateKickoff same) before ended returns
  have everybody : crowd.toFinset ⊆ (snapshotBatch filled.db 0 crowd none).toFinset := by
    intro contactId member
    have listed := recorded_iff_count.mpr (once contactId member)
    rw [paged, decide_eq_true_eq] at listed
    exact List.mem_toFinset.mpr listed
  have bound := (Finset.card_le_card everybody).trans (List.toFinset_card_le _)
  rw [card_crowd, snapshotBatch_eq] at bound
  have full := bound.trans (List.length_take_le _ _)
  omega

end Overlaps

end LocalCrm.System
