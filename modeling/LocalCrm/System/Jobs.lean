import LocalCrm.System.Progress

/-! Which campaign the jobs of the system belong to. -/

set_option autoImplicit false

namespace LocalCrm.System

open Library Delivery Campaigns Webhooks Analytics

def kickoffJobOf (row : DueCampaign) : KickoffJob := { workspaceId := row.workspaceId, campaignId := row.id }

def HasStarted (world : World) (job : KickoffJob) : Prop :=
  ∃ columns, progressOf world.db.campaigns job.campaignId = some columns ∧
    columns.workspaceId = job.workspaceId ∧ columns.Started

def LaunchProduces (launches : Table Launch.id) (job : KickoffJob) : Prop :=
  ∃ id launch, launches.find? id = some launch ∧ launch.committed = true ∧ launch.job = job

def TickProduces (ticks : Table SchedulerTick.id) (job : KickoffJob) : Prop :=
  ∃ id tick row, ticks.find? id = some tick ∧ tick.transitioned = some row ∧ kickoffJobOf row = job

def Producing (world : World) (job : KickoffJob) : Prop :=
  LaunchProduces world.launches job ∨ TickProduces world.ticks job

structure JobsStarted (world : World) : Prop where
  owned : ∀ id columns, progressOf world.db.campaigns id = some columns →
    (world.db.organizations.find? columns.workspaceId).isSome
  known : ∀ job, world.kickoffJobs.Knows job → HasStarted world job
  producing : ∀ job, Producing world job → HasStarted world job
  executing : ∀ id kickoff, world.kickoffs.find? id = some kickoff → HasStarted world kickoff.job

section Producers

variable {launches : Table Launch.id} {ticks : Table SchedulerTick.id} {id : Nat} {job : KickoffJob}

theorem launchProduces_put {launch : Launch}
    (idle : ∀ before, launches.find? launch.id = some before → before.committed = false) :
    LaunchProduces (launches.put launch) job ↔
      LaunchProduces launches job ∨ (launch.committed = true ∧ launch.job = job) := by
  constructor
  · rintro ⟨other, found, stored, committed, keyed⟩
    rw [Table.find?_put] at stored
    split at stored
    · cases stored
      exact .inr ⟨committed, keyed⟩
    · exact .inl ⟨other, found, stored, committed, keyed⟩
  · rintro (⟨other, found, stored, committed, keyed⟩ | ⟨committed, keyed⟩)
    · refine ⟨other, found, ?_, committed, keyed⟩
      rw [Table.find?_put, if_neg, stored]
      rintro rfl
      rw [idle found stored] at committed
      cases committed
    · exact ⟨launch.id, launch, by rw [Table.find?_put, if_pos rfl], committed, keyed⟩

theorem launchProduces_of_erase (produced : LaunchProduces (launches.erase id) job) :
    LaunchProduces launches job := by
  obtain ⟨other, found, stored, committed, keyed⟩ := produced
  rw [Table.find?_erase] at stored
  split at stored
  · cases stored
  · exact ⟨other, found, stored, committed, keyed⟩

theorem launchProduces_erase (produced : LaunchProduces launches job) :
    LaunchProduces (launches.erase id) job ∨
      ∃ launch, launches.find? id = some launch ∧ launch.committed = true ∧ launch.job = job := by
  obtain ⟨other, found, stored, committed, keyed⟩ := produced
  by_cases same : other = id
  · subst same
    exact .inr ⟨found, stored, committed, keyed⟩
  · exact .inl ⟨other, found, by rw [Table.find?_erase, if_neg same, stored], committed, keyed⟩

theorem tickProduces_of_put {tick : SchedulerTick} (produced : TickProduces (ticks.put tick) job) :
    TickProduces ticks job ∨ ∃ row, tick.transitioned = some row ∧ kickoffJobOf row = job := by
  obtain ⟨other, found, row, stored, moved, keyed⟩ := produced
  rw [Table.find?_put] at stored
  split at stored
  · cases stored
    exact .inr ⟨row, moved, keyed⟩
  · exact .inl ⟨other, found, row, stored, moved, keyed⟩

theorem tickProduces_put {tick : SchedulerTick} (produced : TickProduces ticks job) :
    TickProduces (ticks.put tick) job ∨
      ∃ before row, ticks.find? tick.id = some before ∧ before.transitioned = some row ∧ kickoffJobOf row = job := by
  obtain ⟨other, found, row, stored, moved, keyed⟩ := produced
  by_cases same : other = tick.id
  · subst same
    exact .inr ⟨found, row, stored, moved, keyed⟩
  · exact .inl ⟨other, found, row, by rw [Table.find?_put, if_neg same, stored], moved, keyed⟩

theorem tickProduces_of_erase (produced : TickProduces (ticks.erase id) job) : TickProduces ticks job := by
  obtain ⟨other, found, row, stored, moved, keyed⟩ := produced
  rw [Table.find?_erase] at stored
  split at stored
  · cases stored
  · exact ⟨other, found, row, stored, moved, keyed⟩

theorem tickProduces_erase (produced : TickProduces ticks job) :
    TickProduces (ticks.erase id) job ∨
      ∃ tick row, ticks.find? id = some tick ∧ tick.transitioned = some row ∧ kickoffJobOf row = job := by
  obtain ⟨other, found, row, stored, moved, keyed⟩ := produced
  by_cases same : other = id
  · subst same
    exact .inr ⟨found, row, stored, moved, keyed⟩
  · exact .inl ⟨other, found, row, by rw [Table.find?_erase, if_neg same, stored], moved, keyed⟩

end Producers

theorem campaignId_injective {world : World} {left right : KickoffJob} (one : HasStarted world left)
    (two : HasStarted world right) (same : left.campaignId = right.campaignId) : left = right := by
  obtain ⟨columns, found, owner, _⟩ := one
  obtain ⟨other, stored, owned, _⟩ := two
  rw [same, stored] at found
  cases found
  cases left
  cases right
  cases same
  cases owner.symm.trans owned
  rfl

section Steps

variable {platform : Platform} {world next : World} {label : Label}

theorem hasStarted_step (taken : step platform world label = some next) {job : KickoffJob}
    (started : HasStarted world job) : HasStarted next job := by
  obtain ⟨columns, found, owner, started⟩ := started
  obtain ⟨after, stored, kept, lasting⟩ := (lasts_step taken job.campaignId).stays columns found
  exact ⟨after, stored, kept.trans owner, lasting started⟩

theorem organizations_settled {ids : SendIdScheme} {now : Timestamp} {db : Database} {job : SendJob}
    {sendId : SendId} {dispatchedAt : Timestamp} {duration : Int} {outcome : CallOutcome} :
    (settleOutcome ids now db job sendId dispatchedAt duration outcome).2.organizations = db.organizations := by
  cases recorded : recordedStatus outcome with
  | none => rw [settleOutcome_released recorded]
  | some status => rw [settleOutcome_recorded recorded]

theorem organizations_kickoff {now : Timestamp} {db committed : Database} {job : KickoffJob}
    {matching : List ContactId} {phase : KickoffPhase} (writes : KickoffWrites now db job matching phase committed) :
    committed.organizations = db.organizations := by
  cases writes with
  | nothing | batch | exclusion => rfl
  | totals walk =>
    unfold finishFanOut
    split <;> rfl

theorem organizations_resolution {ids : SendIdScheme} {now : Timestamp} {db committed : Database} {sendId : SendId}
    (commits : ResolutionCommits ids now db sendId committed) : committed.organizations = db.organizations := by
  cases commits <;> rfl

theorem organizations_kept (outside : ∀ event, label ≠ .environment event)
    (taken : step platform world label = some next) : next.db.organizations = world.db.organizations := by
  cases label with
  | environment event => exact absurd rfl (outside event)
  | api request =>
    obtain ⟨campaigns, _, rfl⟩ := apiStep_taken taken
    rfl
  | launch event => cases launchStep_taken taken <;> rfl
  | tick event => cases tickStep_taken taken <;> rfl
  | kickoff event =>
    cases kickoffEventStep_taken taken with
    | started | acked | crashed => rfl
    | advanced kickoff effect found stepped =>
      subst stepped
      exact organizations_kickoff (kickoffStep_writes _ _ _ _ _ _)
  | delivery event =>
    cases deliveryStep_taken taken with
    | delivered result db pending fresh uncalled claimed => cases claimSend_commits claimed <;> rfl
    | settled => exact organizations_settled
    | rejected | denied | called | answered | acked | retried | givenUp | crashed => rfl
  | reconcile sendId =>
    cases taken
    exact organizations_resolution (resolveOneSend_commits _ _ _ _)
  | webhookBatch | sweep =>
    obtain ⟨db, kept, rfl⟩ := quietStep_taken rfl taken
    exact kept.organizations

theorem organizations_step (taken : step platform world label = some next) (workspaceId : WorkspaceId)
    (present : (world.db.organizations.find? workspaceId).isSome) :
    (next.db.organizations.find? workspaceId).isSome := by
  by_cases outside : ∃ event, label = .environment event
  · obtain ⟨event, rfl⟩ := outside
    exact (environmentStep_frame taken).organizations workspaceId present
  · rw [organizations_kept (fun event same => outside ⟨event, same⟩) taken]
    exact present

theorem known_step (taken : step platform world label = some next) {job : KickoffJob}
    (knows : next.kickoffJobs.Knows job) : world.kickoffJobs.Knows job ∨ Producing world job := by
  cases label with
  | environment event => exact .inl ((environmentStep_frame taken).kickoffKnown job knows)
  | api request =>
    obtain ⟨campaigns, _, rfl⟩ := apiStep_taken taken
    exact .inl knows
  | launch event =>
    cases launchStep_taken taken with
    | @enqueued id launch found committed =>
      rcases JobQueue.knows_add.mp knows with before | rfl
      · exact .inl before
      · exact .inr (.inl ⟨id, launch, found, committed, rfl⟩)
    | requested | refused | committed | crashed => exact .inl knows
  | tick event =>
    cases tickStep_taken taken with
    | @enqueued id due row found =>
      rcases JobQueue.knows_add.mp knows with before | rfl
      · exact .inl before
      · exact .inr (.inr ⟨id, _, row, found, rfl, rfl⟩)
    | begun | passed | transitioned | finished | crashed => exact .inl knows
  | kickoff event =>
    cases kickoffEventStep_taken taken with
    | acked => exact .inl (JobQueue.knows_of_finish knows)
    | started | advanced | crashed => exact .inl knows
  | delivery event => cases deliveryStep_taken taken <;> exact .inl knows
  | reconcile =>
    cases taken
    exact .inl knows
  | webhookBatch | sweep =>
    obtain ⟨_, _, rfl⟩ := quietStep_taken rfl taken
    exact .inl knows

theorem producing_step (taken : step platform world label = some next) {job : KickoffJob}
    (produced : Producing next job) : Producing world job ∨ HasStarted next job := by
  cases label with
  | environment event =>
    have frame := environmentStep_frame taken
    rw [Producing, frame.launches, frame.ticks] at produced
    exact .inl produced
  | api request =>
    obtain ⟨campaigns, _, rfl⟩ := apiStep_taken taken
    exact .inl produced
  | launch event =>
    have launched := launchStep_taken taken
    rcases produced with produced | ticked
    · cases launched with
      | requested organization fresh =>
        rcases (launchProduces_put (by simp [fresh])).mp produced with before | ⟨committed, _⟩
        · exact .inl (.inl before)
        · cases committed
      | @committed id options launch campaigns found uncommitted granted =>
        obtain ⟨existing, located, draft, _, _, rfl⟩ := launchCampaign_ok granted
        obtain ⟨stored, owner⟩ := getCampaign_some located
        have keyed : launch.id = id := Table.key_of_find? found
        have idle : ∀ before, world.launches.find? launch.id = some before → before.committed = false := by
          intro before present
          rw [keyed, found] at present
          cases present
          exact uncommitted
        let committed : Launch := { launch with committed := true }
        have waiting : ∀ before, world.launches.find? committed.id = some before → before.committed = false := idle
        rcases (launchProduces_put waiting).mp produced with before | ⟨_, rfl⟩
        · exact .inl (.inl before)
        · exact .inr ⟨(progress existing).withStatus .sending, progressOf_assigned stored rfl, owner,
            Progress.started_of_sending rfl⟩
      | refused | enqueued | crashed => exact .inl (.inl (launchProduces_of_erase produced))
    · cases launched <;> exact .inl (.inr ticked)
  | tick event =>
    have moved := tickStep_taken taken
    rcases produced with launched | produced
    · cases moved <;> exact .inl (.inl launched)
    · cases moved with
      | transitioned row rest campaign found stored owned due =>
        rcases tickProduces_of_put produced with before | ⟨_, ⟨⟩, rfl⟩
        · exact .inl (.inr before)
        · exact .inr ⟨(progress campaign).withStatus .sending, progressOf_assigned stored rfl, owned,
            Progress.started_of_sending rfl⟩
      | begun | passed | enqueued =>
        rcases tickProduces_of_put produced with before | ⟨_, ⟨⟩, _⟩
        exact .inl (.inr before)
      | finished | crashed => exact .inl (.inr (tickProduces_of_erase produced))
  | kickoff event => cases kickoffEventStep_taken taken <;> exact .inl produced
  | delivery event => cases deliveryStep_taken taken <;> exact .inl produced
  | reconcile =>
    cases taken
    exact .inl produced
  | webhookBatch | sweep =>
    obtain ⟨_, _, rfl⟩ := quietStep_taken rfl taken
    exact .inl produced

theorem kickoffs_kept (other : ∀ event, label ≠ .kickoff event) (taken : step platform world label = some next) :
    next.kickoffs = world.kickoffs := by
  cases label with
  | environment event => exact (environmentStep_frame taken).kickoffs
  | api request =>
    obtain ⟨campaigns, _, rfl⟩ := apiStep_taken taken
    rfl
  | launch event => cases launchStep_taken taken <;> rfl
  | tick event => cases tickStep_taken taken <;> rfl
  | kickoff event => exact absurd rfl (other event)
  | delivery event => cases deliveryStep_taken taken <;> rfl
  | reconcile =>
    cases taken
    rfl
  | webhookBatch | sweep =>
    obtain ⟨_, _, rfl⟩ := quietStep_taken rfl taken
    rfl

theorem executing_step (taken : step platform world label = some next) {id : Nat} {kickoff : Kickoff}
    (found : next.kickoffs.find? id = some kickoff) :
    (∃ before, world.kickoffs.find? id = some before ∧ before.job = kickoff.job) ∨
      world.kickoffJobs.Knows kickoff.job := by
  by_cases moves : ∃ event, label = .kickoff event
  · obtain ⟨event, rfl⟩ := moves
    cases kickoffEventStep_taken taken with
    | started pending fresh =>
      rw [Table.find?_put] at found
      split at found
      · cases found
        exact .inr (.inl pending)
      · exact .inl ⟨kickoff, found, rfl⟩
    | @advanced executing matching before effect stored stepped =>
      rw [Table.find?_put] at found
      split at found
      · next same =>
        cases found
        have keyed : before.id = executing := Table.key_of_find? stored
        rw [← keyed, ← same] at stored
        exact .inl ⟨before, stored, rfl⟩
      · exact .inl ⟨kickoff, found, rfl⟩
    | acked | crashed =>
      rw [Table.find?_erase] at found
      split at found
      · cases found
      · exact .inl ⟨kickoff, found, rfl⟩
  · rw [kickoffs_kept (fun event same => moves ⟨event, same⟩) taken] at found
    exact .inl ⟨kickoff, found, rfl⟩

theorem jobsStarted_step (jobs : JobsStarted world) (taken : step platform world label = some next) :
    JobsStarted next where
  owned id columns found := by
    rcases (lasts_step taken id).origin columns found with owner | ⟨before, stored, same⟩
    · exact organizations_step taken _ owner
    · rw [← same]
      exact organizations_step taken _ (jobs.owned id before stored)
  known job knows := by
    rcases known_step taken knows with before | produced
    · exact hasStarted_step taken (jobs.known job before)
    · exact hasStarted_step taken (jobs.producing job produced)
  producing job produced := by
    rcases producing_step taken produced with before | started
    · exact hasStarted_step taken (jobs.producing job before)
    · exact started
  executing id kickoff found := by
    rcases executing_step taken found with ⟨before, stored, same⟩ | knows
    · rw [← same]
      exact hasStarted_step taken (jobs.executing id before stored)
    · exact hasStarted_step taken (jobs.known kickoff.job knows)

end Steps

theorem jobsStarted_initial (now : Timestamp) : JobsStarted (initialWorld now) where
  owned id columns found := by cases found
  known job knows := by rcases knows with queued | kept <;> cases ‹_ ∈ _›
  producing job produced := by
    rcases produced with ⟨_, _, found, _⟩ | ⟨_, _, _, found, _⟩ <;> cases found
  executing id kickoff found := by cases found

end LocalCrm.System
