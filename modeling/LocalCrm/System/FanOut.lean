import LocalCrm.System.AtMostOnce
import LocalCrm.System.Jobs

/-! Whether a campaign that is sending still has its fan-out ahead of it. -/

set_option autoImplicit false

namespace LocalCrm.System

open Library Delivery Campaigns Webhooks Analytics

def Live (world : World) (workspaceId : WorkspaceId) : Prop :=
  isWorkspaceSoftDeleted world.db.organizations workspaceId = false

def AwaitsFanOut (world : World) (job : KickoffJob) : Prop :=
  ∃ columns, progressOf world.db.campaigns job.campaignId = some columns ∧
    columns.workspaceId = job.workspaceId ∧ columns.Waits

def Ahead (world : World) (job : KickoffJob) : Prop :=
  job ∈ world.kickoffJobs.pending ∨ (Producing world job ∧ ¬ world.kickoffJobs.Knows job)

def Unreturned (world : World) (job : KickoffJob) : Prop :=
  ∀ id kickoff, world.kickoffs.find? id = some kickoff → kickoff.job = job → kickoff.phase ≠ .returned

def FanOutAhead (world : World) : Prop :=
  world.launches.rows = [] → world.ticks.rows = [] → ∀ campaign ∈ world.db.campaigns.rows,
    campaign.status = .sending → campaign.fanOutComplete = false → Live world campaign.workspaceId →
      { workspaceId := campaign.workspaceId, campaignId := campaign.id } ∈ world.kickoffJobs.pending

/-- The job is queued, or a producer has still to queue it, and no execution of it is about to end. -/
def FanOutKept (world : World) (job : KickoffJob) : Prop :=
  Unreturned world job ∧ Ahead world job

/-- A crash before an enqueue leaves no live campaign waiting for its fan-out, and a restore finds each
awaited fan-out kept. -/
def KeepsFanOut (world : World) (label : Label) (_ : World) : Prop :=
  match label with
  | .launch (.crash id) => ∀ launch, world.launches.find? id = some launch → launch.committed = true →
      AwaitsFanOut world launch.job → ¬ Live world launch.job.workspaceId
  | .tick (.crash id) => ∀ tick row, world.ticks.find? id = some tick → tick.transitioned = some row →
      AwaitsFanOut world (kickoffJobOf row) → ¬ Live world row.workspaceId
  | .environment (.restoreWorkspace workspaceId) => ∀ job, job.workspaceId = workspaceId →
      AwaitsFanOut world job → FanOutKept world job
  | _ => True

/-- Executions return only when there is nothing left to fan out or the workspace is deleted,
and no awaited fan-out is lost. -/
structure FanOutInvariant (world : World) : Prop extends JobsStarted world where
  returned : ∀ id kickoff, world.kickoffs.find? id = some kickoff → kickoff.phase = .returned →
    AwaitsFanOut world kickoff.job → ¬ Live world kickoff.job.workspaceId
  ahead : ∀ job, AwaitsFanOut world job → Live world job.workspaceId → Ahead world job

section Views

variable {world next : World} {job : KickoffJob}

theorem fanOutAhead_of_invariant (invariant : FanOutInvariant world) : FanOutAhead world := by
  intro launched ticked campaign stored sending waiting live
  have awaits : AwaitsFanOut world { workspaceId := campaign.workspaceId, campaignId := campaign.id } := by
    refine ⟨progress campaign, ?_, rfl, sending, waiting⟩
    rw [progressOf, Table.find?_of_mem stored]
    rfl
  rcases invariant.ahead _ awaits live with pending | ⟨produced, _⟩
  · exact pending
  · rcases produced with ⟨_, _, found, _⟩ | ⟨_, _, _, found, _⟩
    · have member := Table.mem_of_find? found
      rw [launched] at member
      cases member
    · have member := Table.mem_of_find? found
      rw [ticked] at member
      cases member

theorem awaits_onward
    (onward : ∀ id, Onward world.db.organizations (progressOf world.db.campaigns id) (progressOf next.db.campaigns id))
    (awaits : AwaitsFanOut next job) : AwaitsFanOut world job := by
  obtain ⟨columns, found, owned, waiting⟩ := awaits
  obtain ⟨before, stored, kept, waited⟩ := (onward job.campaignId).waits columns found waiting
  exact ⟨before, stored, kept.trans owned, waited⟩

theorem started_of_awaits (awaits : AwaitsFanOut world job) : HasStarted world job := by
  obtain ⟨columns, found, owned, waiting⟩ := awaits
  exact ⟨columns, found, owned, Progress.started_of_sending waiting.1⟩

/-- A step that moves no execution keeps the invariant when it loses no awaited fan-out and makes only new
campaigns wait. -/
theorem fanOutInvariant_of (invariant : FanOutInvariant world) (jobs : JobsStarted next)
    (kickoffs : next.kickoffs = world.kickoffs)
    (awaits : ∀ job, AwaitsFanOut next job → Live next job.workspaceId →
      (AwaitsFanOut world job ∧ (Live world job.workspaceId ∨ FanOutKept world job)) ∨
        (¬ HasStarted world job ∧ Ahead next job))
    (ahead : ∀ job, AwaitsFanOut next job → Live next job.workspaceId → Ahead world job → Ahead next job) :
    FanOutInvariant next where
  toJobsStarted := jobs
  returned id kickoff found atEnd awaiting alive := by
    rw [kickoffs] at found
    rcases awaits kickoff.job awaiting alive with ⟨before, live | kept⟩ | ⟨new, _⟩
    · exact invariant.returned id kickoff found atEnd before live
    · exact kept.1 id kickoff found rfl atEnd
    · exact new (invariant.executing id kickoff found)
  ahead job awaiting alive := by
    rcases awaits job awaiting alive with ⟨before, live | kept⟩ | ⟨_, queued⟩
    · exact ahead job awaiting alive (invariant.ahead job before live)
    · exact ahead job awaiting alive kept.2
    · exact queued

end Views

section Steps

variable {platform : Platform} {world next : World} {label : Label}

theorem fanOutInvariant_environment {event : EnvironmentEvent} (invariant : FanOutInvariant world)
    (jobs : JobsStarted next) (keeps : KeepsFanOut world (.environment event) next)
    (taken : environmentStep world event = some next) : FanOutInvariant next := by
  have frame := environmentStep_frame taken
  have onward : ∀ id, Onward world.db.organizations (progressOf world.db.campaigns id)
      (progressOf next.db.campaigns id) := fun id => onward_of_edited (edited_of_commits frame.campaigns id)
  have produced : ∀ job, Producing next job ↔ Producing world job := by
    intro job
    simp only [Producing, frame.launches, frame.ticks]
  refine fanOutInvariant_of invariant jobs frame.kickoffs ?_ ?_
  · intro job awaiting alive
    have before := awaits_onward onward awaiting
    obtain ⟨columns, stored, owner, _⟩ := before
    have present := invariant.owned _ columns stored
    rw [owner] at present
    refine .inl ⟨awaits_onward onward awaiting, ?_⟩
    rcases frame.revived _ present alive with live | rfl
    · exact .inl live
    · exact .inr (keeps job rfl (awaits_onward onward awaiting))
  · intro job _ _ before
    rcases before with queued | ⟨producing, unknown⟩
    · exact .inl (frame.kickoffPending ▸ queued)
    · exact .inr ⟨(produced job).mpr producing, fun knows => unknown (frame.kickoffKnown job knows)⟩

theorem fanOutInvariant_onward (invariant : FanOutInvariant world) (jobs : JobsStarted next)
    (onward : ∀ id, Onward world.db.organizations (progressOf world.db.campaigns id)
      (progressOf next.db.campaigns id))
    (organizations : next.db.organizations = world.db.organizations)
    (kickoffJobs : next.kickoffJobs = world.kickoffJobs) (launches : next.launches = world.launches)
    (ticks : next.ticks = world.ticks) (kickoffs : next.kickoffs = world.kickoffs) : FanOutInvariant next := by
  have produced : ∀ job, Producing next job ↔ Producing world job := by
    intro job
    simp only [Producing, launches, ticks]
  refine fanOutInvariant_of invariant jobs kickoffs ?_ ?_
  · intro job awaiting alive
    rw [Live, organizations] at alive
    exact .inl ⟨awaits_onward onward awaiting, .inl alive⟩
  · intro job _ _ before
    simp only [Ahead, produced, kickoffJobs]
    exact before

theorem fanOutInvariant_unmoved (invariant : FanOutInvariant world) (jobs : JobsStarted next)
    (db : next.db = world.db) (kickoffs : next.kickoffs = world.kickoffs)
    (ahead : ∀ job, AwaitsFanOut world job → Live world job.workspaceId → Ahead world job → Ahead next job) :
    FanOutInvariant next := by
  have awaited : ∀ job, AwaitsFanOut next job ↔ AwaitsFanOut world job := by
    intro job
    rw [AwaitsFanOut, db, AwaitsFanOut]
  have alive : ∀ workspaceId, Live next workspaceId ↔ Live world workspaceId := by
    intro workspaceId
    rw [Live, db, Live]
  refine fanOutInvariant_of invariant jobs kickoffs ?_ ?_
  · intro job awaiting live
    exact .inl ⟨(awaited job).mp awaiting, .inl ((alive _).mp live)⟩
  · intro job awaiting live before
    exact ahead job ((awaited job).mp awaiting) ((alive _).mp live) before

theorem fanOutInvariant_start {job : KickoffJob} {columns : Progress} (invariant : FanOutInvariant world)
    (jobs : JobsStarted next) (found : progressOf world.db.campaigns job.campaignId = some columns)
    (owner : columns.workspaceId = job.workspaceId) (unstarted : ¬ columns.Started)
    (written : ∀ id, progressOf next.db.campaigns id =
      if id = job.campaignId then (progressOf world.db.campaigns id).map (·.withStatus .sending)
      else progressOf world.db.campaigns id)
    (organizations : next.db.organizations = world.db.organizations)
    (kickoffJobs : next.kickoffJobs = world.kickoffJobs) (kickoffs : next.kickoffs = world.kickoffs)
    (produced : Producing next job) (kept : ∀ other, Producing world other → Producing next other) :
    FanOutInvariant next := by
  have became : progressOf next.db.campaigns job.campaignId = some (columns.withStatus .sending) := by
    rw [written, if_pos rfl, found, Option.map_some]
  have editable : ∀ other, other.campaignId = job.campaignId → ¬ HasStarted world other := by
    rintro other same ⟨before, stored, _, started⟩
    rw [same, found] at stored
    cases stored
    exact unstarted started
  refine fanOutInvariant_of invariant jobs kickoffs ?_ ?_
  · intro other awaiting live
    by_cases same : other.campaignId = job.campaignId
    · have begun : HasStarted next job := ⟨_, became, owner, Progress.started_of_sending rfl⟩
      have identical : other = job := campaignId_injective (started_of_awaits awaiting) begun same
      subst identical
      refine .inr ⟨editable other rfl, .inr ⟨produced, fun knows => ?_⟩⟩
      rw [kickoffJobs] at knows
      exact editable other rfl (invariant.known other knows)
    · rw [AwaitsFanOut, written, if_neg same] at awaiting
      rw [Live, organizations] at live
      exact .inl ⟨awaiting, .inl live⟩
  · intro other _ _ before
    rcases before with queued | ⟨made, unknown⟩
    · exact .inl (kickoffJobs ▸ queued)
    · exact .inr ⟨kept other made, fun knows => unknown (kickoffJobs ▸ knows)⟩

theorem ahead_enqueued {job other : KickoffJob} (kickoffJobs : next.kickoffJobs = world.kickoffJobs.add job)
    (kept : other ≠ job → Producing world other → Producing next other) (before : Ahead world other) :
    Ahead next other := by
  rw [Ahead, kickoffJobs, JobQueue.mem_pending_add, JobQueue.knows_add]
  rcases before with queued | ⟨made, unknown⟩
  · exact .inl (.inl queued)
  · by_cases same : other = job
    · subst same
      exact .inl (.inr ⟨rfl, unknown⟩)
    · exact .inr ⟨kept same made, not_or.mpr ⟨unknown, same⟩⟩

theorem fanOutInvariant_launch {event : LaunchEvent} (invariant : FanOutInvariant world)
    (jobs : JobsStarted next) (keeps : KeepsFanOut world (.launch event) next)
    (taken : LaunchTaken world event next) : FanOutInvariant next := by
  cases taken with
  | @requested id slug campaignId organization fresh =>
    refine fanOutInvariant_unmoved invariant jobs rfl rfl ?_
    rintro job _ _ (queued | ⟨produced, unknown⟩)
    · exact .inl queued
    · exact .inr ⟨produced.imp_left fun launched => (launchProduces_put (by simp [fresh])).mpr (.inl launched), unknown⟩
  | @refused id options launch found uncommitted =>
    refine fanOutInvariant_unmoved invariant jobs rfl rfl ?_
    rintro job _ _ (queued | ⟨produced, unknown⟩)
    · exact .inl queued
    · refine .inr ⟨?_, unknown⟩
      rcases produced with launched | ticked
      · rcases launchProduces_erase launched with kept | ⟨gone, stored, committed, _⟩
        · exact .inl kept
        · rw [found] at stored
          cases stored
          rw [uncommitted] at committed
          cases committed
      · exact .inr ticked
  | @committed id options launch campaigns found uncommitted launched =>
    obtain ⟨existing, located, draft, _, _, rfl⟩ := launchCampaign_ok launched
    obtain ⟨stored, owner⟩ := getCampaign_some located
    have keyed : launch.id = id := Table.key_of_find? found
    have same : ∀ job, LaunchProduces (world.launches.put { launch with committed := true }) job ↔
        LaunchProduces world.launches job ∨ (true = true ∧ launch.job = job) := by
      intro job
      refine launchProduces_put fun before present => ?_
      rw [keyed, found] at present
      cases present
      exact uncommitted
    have started : progressOf world.db.campaigns launch.job.campaignId = some (progress existing) := by
      rw [progressOf, stored]
      rfl
    refine fanOutInvariant_start invariant jobs started owner ?_ ?_ rfl rfl rfl ?_ ?_
    · simp [Progress.Started, progress, draft]
    · exact fun other => progressOf_assign fun _ => rfl
    · exact .inl ((same _).mpr (.inr ⟨rfl, rfl⟩))
    · exact fun other produced => produced.imp_left fun launched => (same other).mpr (.inl launched)
  | @enqueued id launch found committed =>
    refine fanOutInvariant_unmoved invariant jobs rfl rfl fun job _ _ before => ?_
    refine ahead_enqueued rfl ?_ before
    rintro differs (launched | ticked)
    · rcases launchProduces_erase launched with kept | ⟨gone, stored, _, keyed⟩
      · exact .inl kept
      · rw [found] at stored
        cases stored
        exact absurd keyed.symm differs
    · exact .inr ticked
  | @crashed id =>
    refine fanOutInvariant_unmoved invariant jobs rfl rfl ?_
    rintro job awaiting live (queued | ⟨produced, unknown⟩)
    · exact .inl queued
    · refine .inr ⟨?_, unknown⟩
      rcases produced with launched | ticked
      · rcases launchProduces_erase launched with kept | ⟨gone, stored, committed, rfl⟩
        · exact .inl kept
        · exact absurd live (keeps gone stored committed awaiting)
      · exact .inr ticked

theorem kept_of_idle {ticks : Table SchedulerTick.id} {tick : SchedulerTick} {job : KickoffJob}
    (idle : ∀ before, ticks.find? tick.id = some before → before.transitioned = none)
    (ticked : TickProduces ticks job) : TickProduces (ticks.put tick) job := by
  rcases tickProduces_put ticked with kept | ⟨before, row, stored, moved, _⟩
  · exact kept
  · rw [idle before stored] at moved
    cases moved

theorem ahead_ticked {job : KickoffJob} (before : Ahead world job)
    (kickoffJobs : next.kickoffJobs = world.kickoffJobs) (launches : next.launches = world.launches)
    (ticks : TickProduces world.ticks job → TickProduces next.ticks job) : Ahead next job := by
  rcases before with queued | ⟨produced, unknown⟩
  · exact .inl (kickoffJobs ▸ queued)
  · refine .inr ⟨?_, kickoffJobs ▸ unknown⟩
    rcases produced with launched | ticked
    · exact .inl (launches ▸ launched)
    · exact .inr (ticks ticked)

theorem fanOutInvariant_tick {event : TickEvent} (invariant : FanOutInvariant world) (jobs : JobsStarted next)
    (keeps : KeepsFanOut world (.tick event) next) (taken : TickTaken world event next) : FanOutInvariant next := by
  cases taken with
  | @begun id fresh =>
    exact fanOutInvariant_unmoved invariant jobs rfl rfl fun job _ _ before =>
      ahead_ticked before rfl rfl (kept_of_idle (by simp [fresh]))
  | @passed id locked row rest found refused =>
    exact fanOutInvariant_unmoved invariant jobs rfl rfl fun job _ _ before =>
      ahead_ticked before rfl rfl (kept_of_idle (by simp [found]))
  | @transitioned id row rest campaign found stored owned due =>
    have waiting : campaign.status = .scheduled := by
      simp only [isDue, Bool.and_eq_true, beq_iff_eq] at due
      exact due.1
    have started : progressOf world.db.campaigns (kickoffJobOf row).campaignId = some (progress campaign) := by
      rw [progressOf, kickoffJobOf, stored]
      rfl
    have moved : TickProduces (world.ticks.put { id, due := rest, transitioned := some row }) (kickoffJobOf row) :=
      ⟨id, _, row, by rw [Table.find?_put, if_pos rfl], rfl, rfl⟩
    refine fanOutInvariant_start invariant jobs started owned ?_ ?_ rfl rfl rfl (.inr moved) ?_
    · simp [Progress.Started, progress, waiting]
    · exact fun other => progressOf_assign fun _ => rfl
    · exact fun other produced => produced.imp_right fun ticked => kept_of_idle (by simp [found]) ticked
  | @enqueued id due row found =>
    refine fanOutInvariant_unmoved invariant jobs rfl rfl fun job _ _ before => ?_
    refine ahead_enqueued rfl ?_ before
    rintro differs (launched | ticked)
    · exact .inl launched
    · rcases tickProduces_put ticked with kept | ⟨_, _, stored, moved, keyed⟩
      · exact .inr kept
      · rw [found] at stored
        cases stored
        cases moved
        exact absurd keyed.symm differs
  | @finished id found =>
    refine fanOutInvariant_unmoved invariant jobs rfl rfl fun job _ _ before => ?_
    refine ahead_ticked before rfl rfl fun ticked => ?_
    rcases tickProduces_erase ticked with kept | ⟨_, _, stored, moved, _⟩
    · exact kept
    · rw [found] at stored
      cases stored
      cases moved
  | @crashed id =>
    refine fanOutInvariant_unmoved invariant jobs rfl rfl fun job awaiting live before => ?_
    refine ahead_ticked before rfl rfl fun ticked => ?_
    rcases tickProduces_erase ticked with kept | ⟨tick, row, stored, moved, rfl⟩
    · exact kept
    · exact absurd live (keeps tick row stored moved awaiting)

theorem returned_settled {now : Timestamp} {db : Database} {sendJobs : JobQueue SendJob} {job : KickoffJob}
    {matching : List ContactId} {phase : KickoffPhase}
    (atEnd : (kickoffStep now db sendJobs job matching phase).phase = .returned) (running : phase ≠ .returned) :
    isWorkspaceSoftDeleted db.organizations job.workspaceId = true ∨
      ∀ columns, progressOf (kickoffStep now db sendJobs job matching phase).db.campaigns job.campaignId =
        some columns → columns.workspaceId = job.workspaceId → ¬ columns.Waits := by
  have writes := kickoffStep_writes now db sendJobs job matching phase
  cases phase with
  | started =>
    simp only [kickoffStep] at atEnd
    split at atEnd
    · next deleted => exact .inl deleted
    · cases atEnd
  | admitted =>
    right
    intro columns found owner waiting
    rw [progressOf_kickoff writes (by simp)] at found
    obtain ⟨campaign, located, rfl⟩ := getCampaign_of_progress found owner
    simp only [kickoffStep, located] at atEnd
    split at atEnd
    · next done =>
      rcases done with sent | canceled | complete
      · cases sent.symm.trans waiting.1
      · cases canceled.symm.trans waiting.1
      · cases complete.symm.trans waiting.2
    · cases atEnd
  | paging walk =>
    right
    intro columns found owner waiting
    rw [progressOf_kickoff writes (by simp)] at found
    obtain ⟨campaign, located, rfl⟩ := getCampaign_of_progress found owner
    simp only [kickoffStep, located, Option.map_some, Option.some.injEq] at atEnd
    split at atEnd
    · next done =>
      rcases done with canceled | sent
      · cases canceled.symm.trans waiting.1
      · cases sent.symm.trans waiting.1
    · split at atEnd <;> cases atEnd
  | finishing walk =>
    right
    intro columns found owner
    simp only [kickoffStep, progressOf_finishFanOut, if_true] at found
    obtain ⟨before, _, rfl⟩ := Option.map_eq_some_iff.mp found
    exact not_waits_fannedOut _ _ _
  | judging walk pageEnd rest =>
    cases rest with
    | nil => cases atEnd
    | cons head rest =>
      obtain ⟨contactId, contact⟩ := head
      cases contact with
      | none => cases atEnd
      | some contact =>
        simp only [kickoffStep] at atEnd
        split at atEnd <;> cases atEnd
  | loading | snapshotting =>
    simp only [kickoffStep] at atEnd
    split at atEnd <;> cases atEnd
  | returned => exact absurd rfl running
  | fetching | excluding | enqueueing | threw => cases atEnd

theorem fanOutInvariant_advanced {id : Nat} {kickoff : Kickoff} {matching : List ContactId}
    (invariant : FanOutInvariant world) (found : world.kickoffs.find? id = some kickoff)
    (stepped : { world with
      db := (kickoffStep world.now world.db world.sendJobs kickoff.job matching kickoff.phase).db
      sendJobs := (kickoffStep world.now world.db world.sendJobs kickoff.job matching kickoff.phase).sendJobs
      kickoffs := world.kickoffs.put { kickoff with
        phase := (kickoffStep world.now world.db world.sendJobs kickoff.job matching kickoff.phase).phase } } = next)
    (jobs : JobsStarted next) : FanOutInvariant next := by
  subst stepped
  have writes := kickoffStep_writes world.now world.db world.sendJobs kickoff.job matching kickoff.phase
  have organizations := organizations_kickoff writes
  have onward : ∀ id, Onward world.db.organizations (progressOf world.db.campaigns id)
      (progressOf (kickoffStep world.now world.db world.sendJobs kickoff.job matching kickoff.phase).db.campaigns id) :=
    onward_kickoff writes
  refine { toJobsStarted := jobs, returned := ?_, ahead := ?_ }
  · intro other moved stored atEnd awaiting live
    rw [Live, organizations] at live
    rw [Table.find?_put] at stored
    split at stored
    · cases stored
      by_cases before : kickoff.phase = .returned
      · exact invariant.returned id kickoff found before (awaits_onward onward awaiting) live
      · obtain ⟨columns, read, owner, waiting⟩ := awaiting
        rcases returned_settled atEnd before with deleted | settled
        · rw [deleted] at live
          cases live
        · exact settled columns read owner waiting
    · exact invariant.returned other moved stored atEnd (awaits_onward onward awaiting) live
  · intro job awaiting live
    rw [Live, organizations] at live
    exact invariant.ahead job (awaits_onward onward awaiting) live

theorem fanOutInvariant_kickoff {event : KickoffEvent} (invariant : FanOutInvariant world)
    (jobs : JobsStarted next) (taken : KickoffTaken world event next) : FanOutInvariant next := by
  cases taken with
  | @started id job pending fresh =>
    refine { toJobsStarted := jobs, returned := ?_, ahead := invariant.ahead }
    intro other kickoff stored atEnd
    rw [Table.find?_put] at stored
    split at stored
    · cases stored
      cases atEnd
    · exact invariant.returned other kickoff stored atEnd
  | @advanced id matching kickoff effect found stepped =>
    subst stepped
    exact fanOutInvariant_advanced invariant found rfl jobs
  | @acked id kickoff found atEnd =>
    refine { toJobsStarted := jobs, returned := ?_, ahead := ?_ }
    · intro other moved stored
      rw [Table.find?_erase] at stored
      split at stored
      · cases stored
      · exact invariant.returned other moved stored
    · intro job awaiting live
      rcases invariant.ahead job awaiting live with queued | ⟨produced, unknown⟩
      · refine .inl (JobQueue.mem_pending_finish.mpr ⟨queued, ?_⟩)
        rintro rfl
        exact invariant.returned id kickoff found atEnd awaiting live
      · exact .inr ⟨produced, fun knows => unknown (JobQueue.knows_of_finish knows)⟩
  | @crashed id =>
    refine { toJobsStarted := jobs, returned := ?_, ahead := invariant.ahead }
    intro other kickoff stored
    rw [Table.find?_erase] at stored
    split at stored
    · cases stored
    · exact invariant.returned other kickoff stored

theorem fanOutInvariant_delivery {ids : SendIdScheme} {event : DeliveryEvent} (invariant : FanOutInvariant world)
    (jobs : JobsStarted next)
    (onward : ∀ id, Onward world.db.organizations (progressOf world.db.campaigns id)
      (progressOf next.db.campaigns id))
    (taken : DeliveryTaken ids world event next) : FanOutInvariant next := by
  cases taken with
  | delivered result db pending fresh uncalled claimed =>
    refine fanOutInvariant_onward invariant jobs onward ?_ rfl rfl rfl rfl
    cases claimSend_commits claimed <;> rfl
  | settled job claim dispatchedAt duration outcome found =>
    exact fanOutInvariant_onward invariant jobs onward organizations_settled rfl rfl rfl rfl
  | rejected | denied | called | answered | acked | retried | givenUp | crashed =>
    exact fanOutInvariant_onward invariant jobs onward rfl rfl rfl rfl rfl

theorem fanOutInvariant_step (invariant : FanOutInvariant world) (keeps : KeepsFanOut world label next)
    (taken : step platform world label = some next) : FanOutInvariant next := by
  have jobs := jobsStarted_step invariant.toJobsStarted taken
  cases label with
  | environment event => exact fanOutInvariant_environment invariant jobs keeps taken
  | launch event => exact fanOutInvariant_launch invariant jobs keeps (launchStep_taken taken)
  | tick event => exact fanOutInvariant_tick invariant jobs keeps (tickStep_taken taken)
  | kickoff event => exact fanOutInvariant_kickoff invariant jobs (kickoffEventStep_taken taken)
  | delivery event =>
    have moves := onward_step taken (by simp) (by simp)
    exact fanOutInvariant_delivery invariant jobs moves (deliveryStep_taken taken)
  | api request =>
    have moves := onward_step taken (by simp) (by simp)
    obtain ⟨campaigns, _, rfl⟩ := apiStep_taken taken
    exact fanOutInvariant_onward invariant jobs moves rfl rfl rfl rfl rfl
  | reconcile sendId =>
    have moves := onward_step taken (by simp) (by simp)
    cases taken
    exact fanOutInvariant_onward invariant jobs moves (organizations_resolution (resolveOneSend_commits _ _ _ _))
      rfl rfl rfl rfl
  | webhookBatch | sweep =>
    have moves := onward_step taken (by simp) (by simp)
    obtain ⟨db, kept, rfl⟩ := quietStep_taken rfl taken
    exact fanOutInvariant_onward invariant jobs moves kept.organizations rfl rfl rfl rfl

end Steps

theorem fanOutInvariant_initial (now : Timestamp) : FanOutInvariant (initialWorld now) where
  toJobsStarted := jobsStarted_initial now
  returned id kickoff found := by cases found
  ahead job awaits := by
    obtain ⟨_, found, _⟩ := awaits
    cases found

/-- Where producers crash and workspaces return only safely, no launched campaign of a live one is without its
kickoff. -/
theorem fanOutAhead_of_keeps (platform : Platform) (start : Timestamp) (trace : List Label) (world : World)
    (ran : run (step platform) (initialWorld start) trace = some world)
    (keeps : Along (step platform) KeepsFanOut (initialWorld start) trace) : FanOutAhead world := by
  have preserved : ∀ world label next, FanOutInvariant world → KeepsFanOut world label next →
      step platform world label = some next → FanOutInvariant next :=
    fun _ _ _ invariant kept taken => fanOutInvariant_step invariant kept taken
  exact fanOutAhead_of_invariant (invariant_of_run preserved (fanOutInvariant_initial start) keeps ran)

/-- Neither a crash of a producer nor a restore. -/
def staysSafe : Label → Bool
  | .launch (.crash _) => false
  | .tick (.crash _) => false
  | .environment (.restoreWorkspace _) => false
  | _ => true

theorem keepsFanOut_of_safe {world next : World} {label : Label} (safe : staysSafe label = true) :
    KeepsFanOut world label next := by
  unfold KeepsFanOut
  split
  · cases safe
  · cases safe
  · cases safe
  · trivial

theorem fanOutAhead_launched : ∃ world,
    run (step pairedPlatform) (initialWorld 0) launchedCampaign = some world ∧ FanOutAhead world := by
  obtain ⟨world, ran⟩ := Option.isSome_iff_exists.mp
    (by decide : (run (step pairedPlatform) (initialWorld 0) launchedCampaign).isSome = true)
  have safe : launchedCampaign.all staysSafe = true := by decide
  have keeps : Along (step pairedPlatform) KeepsFanOut (initialWorld 0) launchedCampaign :=
    along_of_labels (fun label member _ _ => keepsFanOut_of_safe (List.all_eq_true.mp safe label member)) _
  exact ⟨world, ran, fanOutAhead_of_keeps pairedPlatform 0 launchedCampaign world ran keeps⟩

def abandonedLaunch : List Label := launchedCampaign.dropLast ++ [.launch (.crash 0)]

theorem fanOutAhead_abandoned : ∃ world,
    run (step pairedPlatform) (initialWorld 0) abandonedLaunch = some world ∧ ¬ FanOutAhead world := by
  have evaluated : (run (step pairedPlatform) (initialWorld 0) abandonedLaunch).any (fun world =>
      world.launches.rows.isEmpty && world.ticks.rows.isEmpty && world.kickoffJobs.pending.isEmpty &&
        world.db.campaigns.rows.any fun campaign => campaign.status == .sending && !campaign.fanOutComplete &&
          !isWorkspaceSoftDeleted world.db.organizations campaign.workspaceId) = true := by decide
  obtain ⟨world, ran, stuck⟩ := Option.any_eq_true _ _ |>.mp evaluated
  simp only [Bool.and_eq_true, List.isEmpty_iff, List.any_eq_true, beq_iff_eq, Bool.not_eq_true'] at stuck
  obtain ⟨⟨⟨launched, ticked⟩, pending⟩, campaign, stored, ⟨sending, waiting⟩, live⟩ := stuck
  refine ⟨world, ran, fun ahead => ?_⟩
  have queued := ahead launched ticked campaign stored sending waiting live
  rw [pending] at queued
  cases queued

end LocalCrm.System
