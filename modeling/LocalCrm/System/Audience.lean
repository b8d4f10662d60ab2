import LocalCrm.Campaigns.Recipients
import LocalCrm.System.Jobs
import LocalCrm.System.Ledger

/-! Whom the sends of a campaign go to. -/

set_option autoImplicit false

namespace LocalCrm.System

open Library Delivery Campaigns Webhooks Analytics

def Listed (recipients : Table Recipient.key) (workspaceId : WorkspaceId) (campaignId : CampaignId)
    (contactId : ContactId) : Prop :=
  ∃ recipient, recipients.find? (campaignId, contactId) = some recipient ∧ recipient.workspaceId = workspaceId

def JobListed (recipients : Table Recipient.key) : SendJob → Prop
  | .campaign workspaceId campaignId contactId => Listed recipients workspaceId campaignId contactId
  | .flow _ _ _ _ => True

def phaseContacts : KickoffPhase → List ContactId
  | .fetching _ page => page
  | .judging _ _ rest => rest.map Prod.fst
  | .excluding _ _ contactId _ rest | .enqueueing _ _ contactId rest => contactId :: rest.map Prod.fst
  | .started | .admitted | .loading | .snapshotting _ | .paging _ | .finishing _ | .returned | .threw _ => []

def phaseEnd : KickoffPhase → Option ContactId
  | .fetching walk page => page.getLast?.or walk.cursor
  | .judging _ pageEnd _ | .excluding _ pageEnd _ _ _ | .enqueueing _ pageEnd _ _ => pageEnd
  | .started | .admitted | .loading | .snapshotting _ | .paging _ | .finishing _ | .returned | .threw _ => none

structure WalkSound (recipients : Table Recipient.key) (job : KickoffJob) (phase : KickoffPhase) : Prop where
  ascending : (phaseContacts phase).Pairwise (· < ·)
  within : ∀ contactId ∈ phaseContacts phase, isAfter (phaseEnd phase) contactId = false
  listed : ∀ contactId ∈ phaseContacts phase, Listed recipients job.workspaceId job.campaignId contactId

def Progress.Untouched (columns : Progress) : Prop :=
  ¬ columns.Started → columns.fanOutComplete = false ∧ columns.sentCount = 0 ∧ columns.failedCount = 0

structure AudienceSound (world : World) : Prop extends JobsStarted world where
  untouched : ∀ id columns, progressOf world.db.campaigns id = some columns → columns.Untouched
  enrolled : ∀ workspaceId campaignId contactId,
    Listed world.db.campaignRecipients workspaceId campaignId contactId → HasStarted world { workspaceId, campaignId }
  rows : ∀ workspaceId campaignId contactId,
    statusOf world.db.sends (.campaign workspaceId campaignId contactId) ≠ none →
      Listed world.db.campaignRecipients workspaceId campaignId contactId
  pending : ∀ job ∈ world.sendJobs.pending, JobListed world.db.campaignRecipients job
  delivering : ∀ id delivery, world.deliveries.find? id = some delivery →
    JobListed world.db.campaignRecipients delivery.job
  walking : ∀ id kickoff, world.kickoffs.find? id = some kickoff →
    WalkSound world.db.campaignRecipients kickoff.job kickoff.phase

section Walks

variable {recipients later : Table Recipient.key} {job : KickoffJob} {phase : KickoffPhase}

theorem walkSound_idle (idle : phaseContacts phase = []) : WalkSound recipients job phase where
  ascending := by simp [idle]
  within := by simp [idle]
  listed := by simp [idle]

theorem walkSound_tail {rest : KickoffPhase} (sound : WalkSound recipients job phase)
    (contacts : (phaseContacts rest).Sublist (phaseContacts phase)) (ends : phaseEnd rest = phaseEnd phase) :
    WalkSound recipients job rest where
  ascending := sound.ascending.sublist contacts
  within contactId member := by
    rw [ends]
    exact sound.within contactId (contacts.subset member)
  listed contactId member := sound.listed contactId (contacts.subset member)

theorem walkSound_grown
    (grown : ∀ contactId, Listed recipients job.workspaceId job.campaignId contactId →
      Listed later job.workspaceId job.campaignId contactId)
    (sound : WalkSound recipients job phase) : WalkSound later job phase where
  ascending := sound.ascending
  within := sound.within
  listed contactId member := grown contactId (sound.listed contactId member)

theorem contacts_fetched (contacts : Table Contact.id) (workspaceId : WorkspaceId) (page : List ContactId) :
    (fetchContacts contacts workspaceId page).map Prod.fst = page := by
  rw [fetchContacts, List.map_map]
  exact List.map_id page

theorem walkSound_kickoffStep {now : Timestamp} {db : Database} {sendJobs : JobQueue SendJob}
    {matching : List ContactId} (sound : WalkSound db.campaignRecipients job phase)
    (owned : ∀ contactId, (db.campaignRecipients.find? (job.campaignId, contactId)).isSome →
      Listed db.campaignRecipients job.workspaceId job.campaignId contactId) :
    WalkSound db.campaignRecipients job (kickoffStep now db sendJobs job matching phase).phase := by
  unfold kickoffStep
  cases phase with
  | started | loading | snapshotting =>
    simp only
    split <;> exact walkSound_idle rfl
  | admitted =>
    simp only
    split
    · exact walkSound_idle rfl
    · split <;> exact walkSound_idle rfl
  | paging walk =>
    simp only
    split
    · exact walkSound_idle rfl
    · split
      · exact walkSound_idle rfl
      · refine ⟨ascending_recipientPage, ?_, ?_⟩
        · exact fun contactId member => not_after_pageEnd ascending_recipientPage member
        · exact fun contactId member => owned contactId (mem_recipientPage member).1
  | fetching walk page =>
    refine walkSound_tail sound ?_ rfl
    simp only [phaseContacts, contacts_fetched]
    exact List.Sublist.refl _
  | judging walk pageEnd rest =>
    cases rest with
    | nil => exact walkSound_idle rfl
    | cons head rest =>
      obtain ⟨contactId, contact⟩ := head
      cases contact with
      | none => exact walkSound_tail sound (List.Sublist.refl _) rfl
      | some contact =>
        simp only
        split <;> exact walkSound_tail sound (List.Sublist.refl _) rfl
  | excluding | enqueueing => exact walkSound_tail sound (List.sublist_cons_self _ _) rfl
  | finishing | returned | threw => exact walkSound_idle rfl

end Walks

section Steps

variable {platform : Platform} {world next : World} {label : Label}

theorem recipients_step (taken : step platform world label = some next) :
    next.db.campaignRecipients = world.db.campaignRecipients ∨
      ∃ id kickoff contactIds, world.kickoffs.find? id = some kickoff ∧
        next.db.campaignRecipients = insertRecipients world.db.campaignRecipients kickoff.job.workspaceId
          kickoff.job.campaignId contactIds := by
  cases label with
  | environment event => exact .inl (environmentStep_frame taken).campaignRecipients
  | api request =>
    obtain ⟨campaigns, _, rfl⟩ := apiStep_taken taken
    exact .inl rfl
  | launch event => cases launchStep_taken taken <;> exact .inl rfl
  | tick event => cases tickStep_taken taken <;> exact .inl rfl
  | kickoff event =>
    cases kickoffEventStep_taken taken with
    | started | acked | crashed => exact .inl rfl
    | @advanced id matching kickoff effect found stepped =>
      subst stepped
      have writes := kickoffStep_writes world.now world.db world.sendJobs kickoff.job matching kickoff.phase
      generalize kickoffStep world.now world.db world.sendJobs kickoff.job matching kickoff.phase = effect at writes
      generalize kickoff.phase = phase at writes
      obtain ⟨db, sendJobs, moved⟩ := effect
      cases writes with
      | nothing | exclusion => exact .inl rfl
      | batch => exact .inr ⟨id, kickoff, _, found, rfl⟩
      | totals => exact .inl (finishFanOut_campaignRecipients _ _ _ _)
  | delivery event =>
    cases deliveryStep_taken taken with
    | delivered result db pending fresh uncalled claimed => cases claimSend_commits claimed <;> exact .inl rfl
    | settled job claim dispatchedAt duration outcome found =>
      left
      cases recorded : recordedStatus outcome with
      | none => simp only [settleOutcome_released recorded]
      | some status => simp only [settleOutcome_recorded recorded]
    | rejected | denied | called | answered | acked | retried | givenUp | crashed => exact .inl rfl
  | reconcile sendId =>
    cases taken
    have commits := resolveOneSend_commits platform.sendIds world.now world.db sendId
    generalize resolveOneSend platform.sendIds world.now world.db sendId = db at commits
    cases commits <;> exact .inl rfl
  | webhookBatch | sweep =>
    obtain ⟨db, kept, rfl⟩ := quietStep_taken rfl taken
    exact .inl kept.campaignRecipients

theorem listed_step (taken : step platform world label = some next) {workspaceId : WorkspaceId}
    {campaignId : CampaignId} {contactId : ContactId}
    (listed : Listed world.db.campaignRecipients workspaceId campaignId contactId) :
    Listed next.db.campaignRecipients workspaceId campaignId contactId := by
  rcases recipients_step taken with same | ⟨id, kickoff, contactIds, _, same⟩
  · rw [same]
    exact listed
  · obtain ⟨recipient, found, owner⟩ := listed
    rw [same]
    exact ⟨recipient, by rw [find?_insertRecipients, found, Option.some_or], owner⟩

theorem jobListed_step (taken : step platform world label = some next) {job : SendJob}
    (listed : JobListed world.db.campaignRecipients job) : JobListed next.db.campaignRecipients job := by
  cases job with
  | campaign workspaceId campaignId contactId => exact listed_step taken listed
  | flow => trivial

theorem listed_origin (taken : step platform world label = some next) {workspaceId : WorkspaceId}
    {campaignId : CampaignId} {contactId : ContactId}
    (listed : Listed next.db.campaignRecipients workspaceId campaignId contactId) :
    Listed world.db.campaignRecipients workspaceId campaignId contactId ∨
      ∃ id kickoff, world.kickoffs.find? id = some kickoff ∧ kickoff.job = { workspaceId, campaignId } := by
  rcases recipients_step taken with same | ⟨id, kickoff, contactIds, executing, same⟩
  · rw [same] at listed
    exact .inl listed
  · obtain ⟨recipient, found, owner⟩ := listed
    rw [same, find?_insertRecipients] at found
    cases before : world.db.campaignRecipients.find? (campaignId, contactId) with
    | some existing =>
      rw [before] at found
      cases found
      exact .inl ⟨_, before, owner⟩
    | none =>
      rw [before, Option.none_or] at found
      split at found
      · next new =>
        cases found
        refine .inr ⟨id, kickoff, executing, ?_⟩
        rw [new.1, ← owner]
      · cases found

theorem pending_origin (taken : step platform world label = some next) {job : SendJob}
    (pending : job ∈ next.sendJobs.pending) :
    job ∈ world.sendJobs.pending ∨ OfFlow job ∨
      ∃ id kickoff contactId, world.kickoffs.find? id = some kickoff ∧ contactId ∈ phaseContacts kickoff.phase ∧
        job = .campaign kickoff.job.workspaceId kickoff.job.campaignId contactId := by
  cases label with
  | environment event =>
    rcases (environmentStep_frame taken).sendPending job pending with before | flow
    · exact .inl before
    · exact .inr (.inl flow)
  | api request =>
    obtain ⟨campaigns, _, rfl⟩ := apiStep_taken taken
    exact .inl pending
  | launch event => cases launchStep_taken taken <;> exact .inl pending
  | tick event => cases tickStep_taken taken <;> exact .inl pending
  | kickoff event =>
    cases kickoffEventStep_taken taken with
    | started | acked | crashed => exact .inl pending
    | @advanced id matching kickoff effect found stepped =>
      subst stepped
      cases enqueued : kickoff.phase with
      | enqueueing walk pageEnd contactId rest =>
        simp only [enqueued, kickoffStep] at pending
        rcases JobQueue.mem_pending_add.mp pending with before | ⟨rfl, _⟩
        · exact .inl before
        · exact .inr (.inr ⟨id, kickoff, contactId, found, by simp [enqueued, phaseContacts], rfl⟩)
      | judging walk pageEnd rest =>
        left
        simp only [enqueued] at pending
        cases rest with
        | nil => exact pending
        | cons head rest =>
          obtain ⟨contactId, contact⟩ := head
          cases contact with
          | none => exact pending
          | some contact =>
            simp only [kickoffStep] at pending
            split at pending <;> exact pending
      | started | admitted | loading | snapshotting | paging =>
        left
        simp only [enqueued, kickoffStep] at pending
        repeat' split at pending
        all_goals exact pending
      | fetching | excluding | finishing | returned | threw =>
        simp only [enqueued, kickoffStep] at pending
        exact .inl pending
  | delivery event =>
    cases deliveryStep_taken taken with
    | acked | givenUp => exact .inl (JobQueue.mem_pending_finish.mp pending).1
    | rejected | delivered | denied | called | answered | settled | retried | crashed => exact .inl pending
  | reconcile =>
    cases taken
    exact .inl pending
  | webhookBatch | sweep =>
    obtain ⟨_, _, rfl⟩ := quietStep_taken rfl taken
    exact .inl pending

theorem delivering_origin (taken : step platform world label = some next) {id : Nat} {delivery : JobDelivery}
    (found : next.deliveries.find? id = some delivery) :
    (∃ before, world.deliveries.find? id = some before ∧ before.job = delivery.job) ∨
      delivery.job ∈ world.sendJobs.pending := by
  have moved : ∀ {key : Nat} {before : JobDelivery}, world.deliveries.find? key = some before → id = key →
      before.job = delivery.job → ∃ before, world.deliveries.find? id = some before ∧ before.job = delivery.job := by
    rintro key before stored rfl job
    exact ⟨before, stored, job⟩
  by_cases moves : ∃ event, label = .delivery event
  · obtain ⟨event, rfl⟩ := moves
    cases deliveryStep_taken taken with
    | rejected pending | delivered _ _ pending =>
      rw [Table.find?_put] at found
      split at found
      · cases found
        exact .inr pending
      · exact .inl ⟨delivery, found, rfl⟩
    | denied job claim stored | called job claim stored | answered job claim dispatchedAt stored
    | settled job claim dispatchedAt duration outcome stored =>
      rw [Table.find?_put] at found
      split at found
      · next same =>
        cases found
        exact .inl (moved stored same rfl)
      · exact .inl ⟨delivery, found, rfl⟩
    | acked | retried | givenUp | crashed =>
      rw [Table.find?_erase] at found
      split at found
      · cases found
      · exact .inl ⟨delivery, found, rfl⟩
  · rw [(deliveries_kept (fun event same => moves ⟨event, same⟩) taken).1] at found
    exact .inl ⟨delivery, found, rfl⟩

theorem untouched_of_started {columns : Progress} (started : columns.Started) : columns.Untouched :=
  fun unstarted => absurd started unstarted

theorem untouched_settled {columns : Progress} (outcome : CountedOutcome) (ambiguous : Nat)
    (untouched : columns.Untouched) : ((columns.counted outcome).completed ambiguous).Untouched := by
  by_cases started : columns.Started
  · exact untouched_of_started
      (((advances_counted outcome).comp (advances_completed ambiguous)).started columns started)
  · have idle : columns.status ≠ .sending := fun sending => started (Progress.started_of_sending sending)
    have uncounted : columns.counted outcome = columns := if_neg idle
    rw [uncounted, Progress.completed, if_neg fun due => idle due.1]
    exact untouched

theorem untouched_edited {organizations : Table Organization.id} {before after : Option Progress}
    (edited : Edited organizations before after) (untouched : ∀ columns, before = some columns → columns.Untouched)
    (columns : Progress) (found : after = some columns) : columns.Untouched := by
  cases edited with
  | kept => exact untouched columns found
  | created workspaceId owner =>
    cases found
    exact fun _ => ⟨rfl, rfl, rfl⟩
  | unstarted before status unstarted =>
    cases found
    exact fun _ => untouched before rfl unstarted
  | canceled before sending =>
    cases found
    exact fun unstarted => absurd (by simp [Progress.Started, Progress.withStatus]) unstarted

theorem untouched_written {campaigns written : LocalCrm.Campaigns} {target : CampaignId}
    (change : Progress → Progress)
    (columns : ∀ other, progressOf written other =
      if other = target then (progressOf campaigns other).map change else progressOf campaigns other)
    (untouched : ∀ id columns, progressOf campaigns id = some columns → columns.Untouched)
    (changed : ∀ columns, progressOf campaigns target = some columns → (change columns).Untouched)
    (id : CampaignId) (after : Progress) (found : progressOf written id = some after) : after.Untouched := by
  rw [columns] at found
  split at found
  · next same =>
    subst same
    obtain ⟨before, stored, rfl⟩ := Option.map_eq_some_iff.mp found
    exact changed before stored
  · exact untouched id after found

theorem started_of_found {job : KickoffJob} {columns : Progress} (started : HasStarted world job)
    (found : progressOf world.db.campaigns job.campaignId = some columns) : columns.Started := by
  obtain ⟨other, stored, _, started⟩ := started
  rw [found] at stored
  cases stored
  exact started

theorem untouched_resolution {ids : SendIdScheme} {now : Timestamp} {db : Database} {sendId : SendId}
    (commits : ResolutionCommits ids now world.db sendId db) (audience : AudienceSound world) (id : CampaignId)
    (columns : Progress) (found : progressOf db.campaigns id = some columns) : columns.Untouched := by
  cases commits with
  | held | swept | unresolved => exact audience.untouched id columns found
  | resolved intent derived status =>
    change progressOf (resolvedCampaigns now _ world.db.campaigns intent) id = some columns at found
    rw [progressOf_resolved] at found
    split at found
    · next owner =>
      obtain ⟨before, stored, rfl⟩ := Option.map_eq_some_iff.mp found
      cases intent with
      | flow => cases owner
      | campaign workspaceId campaignId contactId =>
        cases owner
        have present : statusOf world.db.sends (.campaign workspaceId id contactId) ≠ none := by
          rcases status with waiting | waiting <;> simp [waiting]
        have started : before.Started :=
          started_of_found (audience.enrolled _ _ _ (audience.rows workspaceId id contactId present)) stored
        exact untouched_of_started (((advances_count .sent).comp (advances_completed _)).started before started)
    · exact audience.untouched id columns found

theorem untouched_step (audience : AudienceSound world) (taken : step platform world label = some next)
    (id : CampaignId) (columns : Progress) (found : progressOf next.db.campaigns id = some columns) :
    columns.Untouched := by
  cases label with
  | environment event =>
    exact untouched_edited (edited_of_commits (environmentStep_frame taken).campaigns id) (audience.untouched id)
      columns found
  | api request =>
    obtain ⟨campaigns, commits, rfl⟩ := apiStep_taken taken
    exact untouched_edited (edited_of_commits commits id) (audience.untouched id) columns found
  | launch event =>
    cases launchStep_taken taken with
    | @committed _ options launch campaigns stored uncommitted launched =>
      obtain ⟨existing, located, draft, _, _, rfl⟩ := launchCampaign_ok launched
      have written : ∀ campaign, progress (options.assignLaunch world.now campaign) =
          (progress campaign).withStatus .sending := fun _ => rfl
      exact untouched_written (·.withStatus .sending) (fun other => progressOf_assign written) audience.untouched
        (fun _ _ unstarted => absurd (Progress.started_of_sending rfl) unstarted) id columns found
    | requested | refused | enqueued | crashed => exact audience.untouched id columns found
  | tick event =>
    cases tickStep_taken taken with
    | transitioned row rest campaign stored located owned due =>
      have written : ∀ campaign, progress (startedSending world.now campaign) =
          (progress campaign).withStatus .sending := fun _ => rfl
      exact untouched_written (·.withStatus .sending) (fun other => progressOf_assign written) audience.untouched
        (fun _ _ unstarted => absurd (Progress.started_of_sending rfl) unstarted) id columns found
    | begun | passed | enqueued | finished | crashed => exact audience.untouched id columns found
  | kickoff event =>
    cases kickoffEventStep_taken taken with
    | started | acked | crashed => exact audience.untouched id columns found
    | @advanced executing matching kickoff effect stored stepped =>
      subst stepped
      by_cases ends : ∃ walk, kickoff.phase = .finishing walk
      · obtain ⟨walk, finishing⟩ := ends
        simp only [finishing, kickoffStep] at found
        refine untouched_written _ (fun other => progressOf_finishFanOut) audience.untouched ?_ id columns found
        intro before located
        exact untouched_of_started ((advances_fannedOut _ _).started before
          (started_of_found (audience.executing executing kickoff stored) located))
      · rw [progressOf_kickoff (kickoffStep_writes _ _ _ _ _ _) fun walk same => ends ⟨walk, same⟩] at found
        exact audience.untouched id columns found
  | delivery event =>
    cases deliveryStep_taken taken with
    | delivered result db pending fresh uncalled claimed =>
      cases claimSend_commits claimed <;> exact audience.untouched id columns found
    | settled job claim dispatchedAt duration outcome stored =>
      cases recorded : recordedStatus outcome with
      | none =>
        simp only [settleOutcome_released recorded] at found
        exact audience.untouched id columns found
      | some status =>
        simp only [settleOutcome_recorded recorded] at found
        rw [progressOf_settled] at found
        split at found
        · split at found
          · obtain ⟨before, located, rfl⟩ := Option.map_eq_some_iff.mp found
            exact untouched_settled _ _ (audience.untouched id before located)
          · exact audience.untouched id columns found
        · exact audience.untouched id columns found
    | rejected | denied | called | answered | acked | retried | givenUp | crashed =>
      exact audience.untouched id columns found
  | reconcile sendId =>
    cases taken
    exact untouched_resolution (resolveOneSend_commits _ _ _ _) audience id columns found
  | webhookBatch | sweep =>
    obtain ⟨db, kept, rfl⟩ := quietStep_taken rfl taken
    rw [progressOf_kept kept] at found
    exact audience.untouched id columns found

theorem listed_of_present (audience : AudienceSound world) {job : KickoffJob} (started : HasStarted world job)
    {contactId : ContactId} (present : (world.db.campaignRecipients.find? (job.campaignId, contactId)).isSome) :
    Listed world.db.campaignRecipients job.workspaceId job.campaignId contactId := by
  obtain ⟨recipient, found⟩ := Option.isSome_iff_exists.mp present
  have listed : Listed world.db.campaignRecipients recipient.workspaceId job.campaignId contactId :=
    ⟨recipient, found, rfl⟩
  have same := campaignId_injective (audience.enrolled _ _ _ listed) started rfl
  rw [← congrArg KickoffJob.workspaceId same]
  exact listed

theorem walkSound_step (audience : AudienceSound world) (taken : step platform world label = some next) {id : Nat}
    {kickoff : Kickoff} (found : next.kickoffs.find? id = some kickoff) :
    WalkSound next.db.campaignRecipients kickoff.job kickoff.phase := by
  apply walkSound_grown fun _ => listed_step taken
  by_cases moves : ∃ event, label = .kickoff event
  · obtain ⟨event, rfl⟩ := moves
    cases kickoffEventStep_taken taken with
    | started =>
      rw [Table.find?_put] at found
      split at found
      · cases found
        exact walkSound_idle rfl
      · exact audience.walking id kickoff found
    | @advanced executing matching before effect stored stepped =>
      subst stepped
      rw [Table.find?_put] at found
      split at found
      · cases found
        exact walkSound_kickoffStep (audience.walking executing before stored)
          fun contactId => listed_of_present audience (audience.executing executing before stored)
      · exact audience.walking id kickoff found
    | acked | crashed =>
      rw [Table.find?_erase] at found
      split at found
      · cases found
      · exact audience.walking id kickoff found
  · rw [kickoffs_kept (fun event same => moves ⟨event, same⟩) taken] at found
    exact audience.walking id kickoff found

theorem row_origin (sound : ClaimsSound platform.sendIds world) (taken : step platform world label = some next)
    {intent : SendIntent} (present : statusOf next.db.sends intent ≠ none) :
    statusOf world.db.sends intent ≠ none ∨ (∃ job ∈ world.sendJobs.pending, job.intent = intent) ∨
      ∃ id kickoff contactId, world.kickoffs.find? id = some kickoff ∧ contactId ∈ phaseContacts kickoff.phase ∧
        intent = .campaign kickoff.job.workspaceId kickoff.job.campaignId contactId := by
  cases ledgerTaken_step sound taken with
  | kept same =>
    rw [same] at present
    exact .inl present
  | moved written before after stored changed others moves =>
    by_cases same : intent = written
    · subst same
      cases moves with
      | claimed pending | excluded pending | interrupted pending => exact .inr (.inl ⟨_, pending, rfl⟩)
      | denied | released => exact absurd changed present
      | recorded | swept | unresolved | resolved => exact .inl (by simp [stored])
      | @walked id matching kickoff walk pageEnd contactId reason rest found phase =>
        exact .inr (.inr ⟨id, kickoff, contactId, found, by simp [phase, phaseContacts], rfl⟩)
    · rw [others intent same] at present
      exact .inl present

theorem jobListed_of_intent {recipients : Table Recipient.key} {job : SendJob} {workspaceId : WorkspaceId}
    {campaignId : CampaignId} {contactId : ContactId} (listed : JobListed recipients job)
    (same : job.intent = .campaign workspaceId campaignId contactId) :
    Listed recipients workspaceId campaignId contactId := by
  cases job with
  | flow => cases same
  | campaign =>
    cases same
    exact listed

theorem audienceSound_step (audience : AudienceSound world) (sound : ClaimsSound platform.sendIds world)
    (taken : step platform world label = some next) : AudienceSound next where
  toJobsStarted := jobsStarted_step audience.toJobsStarted taken
  untouched id columns found := untouched_step audience taken id columns found
  enrolled workspaceId campaignId contactId listed := by
    rcases listed_origin taken listed with before | ⟨id, kickoff, executing, same⟩
    · exact hasStarted_step taken (audience.enrolled workspaceId campaignId contactId before)
    · rw [← same]
      exact hasStarted_step taken (audience.executing id kickoff executing)
  rows workspaceId campaignId contactId present := by
    apply listed_step taken
    rcases row_origin sound taken present with before | ⟨job, pending, same⟩ | ⟨id, kickoff, contact, found, read, same⟩
    · exact audience.rows workspaceId campaignId contactId before
    · exact jobListed_of_intent (audience.pending job pending) same
    · cases same
      exact (audience.walking id kickoff found).listed _ read
  pending job pending := by
    apply jobListed_step taken
    rcases pending_origin taken pending with before | flow | ⟨id, kickoff, contact, found, read, rfl⟩
    · exact audience.pending job before
    · cases job with
      | campaign => exact flow.elim
      | flow => trivial
    · exact (audience.walking id kickoff found).listed contact read
  delivering id delivery found := by
    apply jobListed_step taken
    rcases delivering_origin taken found with ⟨before, stored, same⟩ | pending
    · rw [← same]
      exact audience.delivering id before stored
    · exact audience.pending delivery.job pending
  walking id kickoff found := walkSound_step audience taken found

end Steps

theorem audienceSound_initial (now : Timestamp) : AudienceSound (initialWorld now) where
  toJobsStarted := jobsStarted_initial now
  untouched id columns found := by cases found
  enrolled workspaceId campaignId contactId listed := by
    obtain ⟨_, found, _⟩ := listed
    cases found
  rows workspaceId campaignId contactId present := absurd rfl present
  pending job pending := by cases pending
  delivering id delivery found := by cases found
  walking id kickoff found := by cases found

end LocalCrm.System
