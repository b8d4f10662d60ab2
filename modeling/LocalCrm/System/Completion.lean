import LocalCrm.System.AtMostOnce
import LocalCrm.System.CampaignCounts

/-! Whether a campaign completes only when every recipient's send is decided. -/

set_option autoImplicit false

namespace LocalCrm.System

open Library Delivery Campaigns Webhooks Analytics

def Decided (sends : Sends) (intent : SendIntent) : Prop :=
  ∃ status, statusOf sends intent = some status ∧ status ≠ .dispatching

def CompletesDecided (world : World) (_ : Label) (next : World) : Prop :=
  ∀ campaign ∈ next.db.campaigns.rows, campaign.status = .sent →
    (∀ before, world.db.campaigns.find? campaign.id = some before → before.status ≠ .sent) →
      ∀ recipient ∈ next.db.campaignRecipients.rows, recipient.campaignId = campaign.id →
        Decided next.db.sends (.campaign recipient.workspaceId recipient.campaignId recipient.contactId)

def isSending (world : World) (job : KickoffJob) : Bool :=
  (getCampaign world.db.campaigns job.workspaceId job.campaignId).any (·.status == .sending)

def isFannedOut (world : World) (job : KickoffJob) : Bool :=
  (getCampaign world.db.campaigns job.workspaceId job.campaignId).any (·.fanOutComplete)

def aheadOfWalks (world : World) (job : KickoffJob) (contactId : ContactId) : Bool :=
  world.kickoffs.rows.all fun kickoff => (walkOf job kickoff).all fun walk => walk.upcoming contactId

/-- A walk excludes only recipients that have no row or are excluded already, and a snapshot adds only ahead
of every walk. -/
def walkKeepsTotals (world : World) (matching : List ContactId) (kickoff : Kickoff) : Bool :=
  match kickoff.phase with
  | .excluding _ _ contactId _ _ =>
    let status := statusOf world.db.sends (intentFor kickoff.job contactId)
    status == none || status == some .excluded
  | .snapshotting cursor =>
    (snapshotBatch world.db kickoff.job.workspaceId matching cursor).all fun contactId =>
      (world.db.campaignRecipients.find? (kickoff.job.campaignId, contactId)).isSome ||
        (!isFannedOut world kickoff.job && aheadOfWalks world kickoff.job contactId)
  | _ => true

/-- Nobody records an outcome over a row that is `sent` already. -/
def recordsOnce (world : World) (delivery : JobDelivery) : Bool :=
  match delivery.job, delivery.phase with
  | .campaign workspaceId campaignId _, .answered _ _ _ outcome =>
    recordedStatus outcome == none || !isSending world { workspaceId, campaignId } ||
      statusOf world.db.sends delivery.job.intent != some .sent
  | _, _ => true

def keepsTotals (world : World) : Label → Bool
  | .kickoff (.advance id matching) =>
    (world.kickoffs.find? id).all fun kickoff =>
      !isSending world kickoff.job || walkKeepsTotals world matching kickoff
  | .delivery (.settle id) => (world.deliveries.find? id).all (recordsOnce world)
  | _ => true

def KeepsTotals (world : World) (label : Label) (_ : World) : Prop := keepsTotals world label = true

/-- Counters below the rows they count, totals above the recipients they stand for. -/
structure Tallied (view : CampaignView) (columns : Progress) : Prop where
  sent : columns.sentCount ≤ view.countOf .sent
  failed : columns.failedCount ≤ view.countOf .failed
  walks : ∀ id walk, view.walk id = some walk →
    (view.count fun contactId standing => !walk.upcoming contactId && standing != .excluded) ≤ walk.sendableTotal
  total : columns.fanOutComplete = true → ∃ total, columns.sendableTotal = some total ∧
    (view.count fun _ standing => standing != .excluded) ≤ total

def TalliedWhileSending (view : CampaignView) : Prop :=
  ∀ columns, view.columns = some columns → columns.status = .sending → Tallied view columns

def Completes (view after : CampaignView) : Prop :=
  ∃ columns, after.columns = some columns ∧ columns.status = .sent ∧
    ∀ before, view.columns = some before → before.status ≠ .sent

structure KeepsTally (view after : CampaignView) : Prop where
  tallied : TalliedWhileSending after
  decided : Completes view after → ∀ contactId ∈ after.audience, after.standing contactId ≠ .undecided

theorem Tallied.seen {view : CampaignView} {columns : Progress} (tallied : Tallied view columns)
    (stored : Option Progress) : Tallied { view with columns := stored } columns :=
  ⟨tallied.sent, tallied.failed, tallied.walks, tallied.total⟩

section Counts

variable {view after : CampaignView} {columns : Progress} {contactId : ContactId}

theorem decided_of_count (bounded : (view.count fun _ standing => standing != .excluded) ≤
      view.countOf .sent + view.countOf .failed + view.countOf .ambiguous) :
    ∀ contactId ∈ view.audience, view.standing contactId ≠ .undecided := by
  have included := count_included view
  have none : view.countOf .undecided = 0 := by omega
  intro contactId member undecided
  have uncounted := census_eq_zero.mp none contactId member
  rw [undecided] at uncounted
  cases uncounted

theorem decided_of_due (tallied : Tallied view columns) (due : columns.Due (view.countOf .ambiguous)) :
    ∀ contactId ∈ view.audience, view.standing contactId ≠ .undecided := by
  obtain ⟨_, fanned, total, stored, reached⟩ := due
  obtain ⟨other, same, bounded⟩ := tallied.total fanned
  rw [stored] at same
  cases same
  have sent := tallied.sent
  have failed := tallied.failed
  apply decided_of_count
  omega

section Moves

variable {standing : ContactId → Standing}

theorem tallied_restood (tallied : Tallied view columns)
    (keeps : ∀ contactId ∈ view.audience, view.standing contactId ∈ [.sent, .failed, .excluded] →
      standing contactId = view.standing contactId) : Tallied { view with standing } columns := by
  have kept : ∀ contactId ∈ view.audience, ∀ result ∈ [Standing.sent, .failed, .excluded],
      view.standing contactId = result → standing contactId = result := by
    intro contactId member result listed same
    rw [keeps contactId member (by rw [same]; exact listed), same]
  constructor
  · apply tallied.sent.trans
    apply census_le
    intro contactId member sent
    exact beq_iff_eq.mpr (kept contactId member .sent (by simp) (beq_iff_eq.mp sent))
  · apply tallied.failed.trans
    apply census_le
    intro contactId member failed
    exact beq_iff_eq.mpr (kept contactId member .failed (by simp) (beq_iff_eq.mp failed))
  · intro id walk running
    refine le_trans (census_le ?_) (tallied.walks id walk running)
    intro contactId member counted
    simp only [Bool.and_eq_true, bne_iff_ne] at counted ⊢
    exact ⟨counted.1, fun excluded => counted.2 (kept contactId member .excluded (by simp) excluded)⟩
  · intro fanned
    obtain ⟨total, stored, bounded⟩ := tallied.total fanned
    refine ⟨total, stored, le_trans (census_le ?_) bounded⟩
    intro contactId member counted
    simp only [bne_iff_ne] at counted ⊢
    exact fun excluded => counted (kept contactId member .excluded (by simp) excluded)

theorem tallied_updated {moved : Standing} (tallied : Tallied view columns)
    (open_ : view.standing contactId = .undecided ∨ view.standing contactId = .ambiguous) :
    Tallied { view with standing := Function.update view.standing contactId moved } columns := by
  apply tallied_restood tallied
  intro other _ result
  apply Function.update_of_ne
  intro same
  subst same
  rcases open_ with undecided | ambiguous
  · simp [undecided] at result
  · simp [ambiguous] at result

theorem tallied_counted {outcome : CountedOutcome} {moved : Standing} (tallied : Tallied view columns)
    (listed : contactId ∈ view.audience)
    (open_ : view.standing contactId = .undecided ∨ view.standing contactId = .ambiguous)
    (result : (outcome = .sent ∧ moved = .sent) ∨ (outcome = .failed ∧ moved = .failed)) :
    Tallied { view with standing := Function.update view.standing contactId moved } (columns.count outcome) := by
  have differs : ∀ standing ∈ [Standing.sent, .failed], view.standing contactId ≠ standing := by
    intro standing member same
    rcases open_ with undecided | ambiguous
    · rw [undecided] at same
      simp [← same] at member
    · rw [ambiguous] at same
      simp [← same] at member
  have still : Tallied { view with standing := Function.update view.standing contactId moved } columns :=
    tallied_updated tallied open_
  rcases result with ⟨rfl, rfl⟩ | ⟨rfl, rfl⟩
  · refine ⟨?_, still.failed, still.walks, still.total⟩
    rw [countOf_updated listed (differs .sent (by simp))]
    exact Nat.succ_le_succ tallied.sent
  · refine ⟨still.sent, ?_, still.walks, still.total⟩
    rw [countOf_updated listed (differs .failed (by simp))]
    exact Nat.succ_le_succ tallied.failed

theorem tallied_walked {id : Nat} {walk : Option WalkView} (tallied : Tallied view columns)
    (covers : ∀ turned, walk = some turned →
      (view.count fun contactId standing => !turned.upcoming contactId && standing != .excluded) ≤
        turned.sendableTotal) :
    Tallied { view with walk := Function.update view.walk id walk } columns := by
  refine ⟨tallied.sent, tallied.failed, ?_, tallied.total⟩
  intro other turned running
  by_cases same : other = id
  · subst same
    apply covers turned
    simpa using running
  · apply tallied.walks other turned
    simpa [same] using running

end Moves

section Taken

theorem keepsTally_of_status (same : after.columns = view.columns)
    (tallied : ∀ columns, view.columns = some columns → columns.status = .sending → Tallied after columns) :
    KeepsTally view after where
  tallied columns found sending := tallied columns (same ▸ found) sending
  decided := by
    rintro ⟨columns, found, sent, fresh⟩
    exact absurd sent (fresh columns (same ▸ found))

theorem keepsTally_idle {columns : Progress} (stored : after.columns = some columns)
    (idle : columns.status ≠ .sending) (unsent : columns.status ≠ .sent) : KeepsTally view after where
  tallied := by
    intro _ found sending
    rw [stored] at found
    cases found
    exact absurd sending idle
  decided := by
    rintro ⟨_, found, sent, _⟩
    rw [stored] at found
    cases found
    exact absurd sent unsent

theorem keepsTally_absent (absent : after.columns = none) : KeepsTally view after where
  tallied columns found := by
    rw [absent] at found
    cases found
  decided := by
    rintro ⟨_, found, _⟩
    rw [absent] at found
    cases found

theorem keepsTally_completed {tally : CampaignView} (changed : Progress)
    (sending : changed.status = .sending → Tallied tally changed)
    (unsent : changed.status = .sent → ∃ before, view.columns = some before ∧ before.status = .sent)
    (stored : tally.columns = some (changed.completed (tally.countOf .ambiguous))) : KeepsTally view tally := by
  rcases completed_cases changed (tally.countOf .ambiguous) with ⟨due, completed⟩ | ⟨_, completed⟩
  · constructor
    · intro columns found busy
      rw [stored, completed] at found
      cases found
      cases busy
    · exact fun _ => decided_of_due (sending due.1) due
  · rw [completed] at stored
    constructor
    · intro columns found busy
      rw [stored] at found
      cases found
      exact sending busy
    · rintro ⟨columns, found, sent, fresh⟩
      rw [stored] at found
      cases found
      obtain ⟨before, old, already⟩ := unsent sent
      exact absurd already (fresh before old)

end Taken

end Counts

section Steps

variable {platform : Platform} {ids : SendIdScheme} {world next : World} {label : Label} {job : KickoffJob}

theorem isSending_of_view (owns : Owns world job) {columns : Progress}
    (found : (campaignView job world).columns = some columns) (sending : columns.status = .sending) :
    isSending world job = true := by
  obtain ⟨campaign, located, rfl⟩ := getCampaign_of_progress found (owns columns found)
  have status : campaign.status = .sending := sending
  simp [isSending, located, status]

theorem isFannedOut_of_view (owns : Owns world job) {columns : Progress}
    (found : (campaignView job world).columns = some columns) :
    isFannedOut world job = columns.fanOutComplete := by
  obtain ⟨campaign, located, rfl⟩ := getCampaign_of_progress found (owns columns found)
  simp [isFannedOut, located, progress]

theorem upcoming_of_ahead {contactId : ContactId} (ahead : aheadOfWalks world job contactId = true) {id : Nat}
    {walk : WalkView} (running : (campaignView job world).walk id = some walk) : walk.upcoming contactId = true := by
  obtain ⟨kickoff, found, seen⟩ := Option.bind_eq_some_iff.mp running
  have all := List.all_eq_true.mp ahead kickoff (Table.mem_of_find? found)
  rw [seen] at all
  exact all

theorem tallied_enrolled {view : CampaignView} {columns : Progress} {joining : Finset ContactId}
    (tallied : Tallied view columns)
    (ahead : ∀ contactId ∈ joining, contactId ∈ view.audience ∨ (columns.fanOutComplete = false ∧
      ∀ id walk, view.walk id = some walk → walk.upcoming contactId = true)) :
    Tallied { view with audience := view.audience ∪ joining } columns := by
  have joined : view.audience ⊆ view.audience ∪ joining := Finset.subset_union_left
  have fresh : ∀ contactId ∈ view.audience ∪ joining, contactId ∉ view.audience →
      columns.fanOutComplete = false ∧ ∀ id walk, view.walk id = some walk → walk.upcoming contactId = true := by
    intro contactId member absent
    have new := (Finset.mem_union.mp member).resolve_left absent
    exact (ahead contactId new).resolve_left absent
  constructor
  · exact tallied.sent.trans (census_grows joined)
  · exact tallied.failed.trans (census_grows joined)
  · intro id walk running
    refine le_of_eq_of_le (census_joined joined ?_) (tallied.walks id walk running)
    intro contactId member absent
    simp [(fresh contactId member absent).2 id walk running]
  · intro fanned
    obtain ⟨total, stored, bounded⟩ := tallied.total fanned
    have within : view.audience ∪ joining = view.audience := by
      apply Finset.Subset.antisymm _ joined
      intro contactId member
      by_contra absent
      rw [(fresh contactId member absent).1] at fanned
      cases fanned
    refine ⟨total, stored, ?_⟩
    rw [within]
    exact bounded

theorem covered_dealt {view : CampaignView} {walk turned : WalkView} {contactId : ContactId}
    (covered : (view.count fun contactId standing => !walk.upcoming contactId && standing != .excluded) ≤
      walk.sendableTotal)
    (listed : contactId ∈ view.audience) (next : walk.upcoming contactId = true)
    (upcoming : ∀ other ∈ view.audience,
      turned.upcoming other = (walk.upcoming other && decide (other ≠ contactId)))
    (total : walk.sendableTotal + (view.standing contactId != .excluded).toNat ≤ turned.sendableTotal) :
    (view.count fun contactId standing => !turned.upcoming contactId && standing != .excluded) ≤
      turned.sendableTotal := by
  rw [count_dealt listed next upcoming]
  omega

theorem covered_over {view : CampaignView} {walk : WalkView}
    (covered : (view.count fun contactId standing => !walk.upcoming contactId && standing != .excluded) ≤
      walk.sendableTotal)
    (atEnd : ∀ contactId ∈ view.audience, walk.upcoming contactId = false) :
    (view.count fun _ standing => standing != .excluded) ≤ walk.sendableTotal := by
  refine le_of_eq_of_le (census_congr fun contactId member => ?_) covered
  simp [atEnd contactId member]

theorem keepsTally_recorded {id : Nat} {contactId : ContactId} {claim : ClaimedSend} {dispatchedAt : Timestamp}
    {duration : Int} {outcome : CallOutcome} {source : SendStatus} {status : RecordedStatus} {moved : CampaignView}
    (owns : Owns world job) (keeps : keepsTotals world (.delivery (.settle id)) = true)
    (tallied : TalliedWhileSending (campaignView job world)) (listed : contactId ∈ (campaignView job world).audience)
    (found : world.deliveries.find? id =
      some { id, job := sendJobFor job contactId, phase := .answered claim dispatchedAt duration outcome })
    (recorded : recordedStatus outcome = some status)
    (stored : statusOf world.db.sends (intentFor job contactId) = some source) (holdable : Holdable source)
    (placed : moved = { campaignView job world with
      standing := Function.update (campaignView job world).standing contactId (recordedStanding status) }) :
    KeepsTally (campaignView job world) { moved with
      columns := (campaignView job world).columns.map (recordedColumns (moved.countOf .ambiguous) status) } := by
  subst placed
  cases present : (campaignView job world).columns with
  | none => exact keepsTally_absent rfl
  | some columns =>
    by_cases sending : columns.status = .sending
    · have unsent : source ≠ .sent := by
        intro sent
        have once := keeps
        simp [keepsTotals, found, recordsOnce, sendJobFor, recorded, isSending_of_view owns present sending,
          SendJob.intent] at once
        rw [sent] at stored
        exact once stored
      have unset := open_of_holdable stored holdable unsent
      have tally := tallied columns present sending
      cases status with
      | sent =>
        refine keepsTally_completed (columns.counted .sent) (fun _ => ?_) ?_ rfl
        · rw [Progress.counted, if_pos sending]
          exact (tallied_counted tally listed unset (.inl ⟨rfl, rfl⟩)).seen _
        · exact fun sent => absurd (sending.symm.trans (status_counted.symm.trans sent)) (by decide)
      | failed =>
        refine keepsTally_completed (columns.counted .failed) (fun _ => ?_) ?_ rfl
        · rw [Progress.counted, if_pos sending]
          exact (tallied_counted tally listed unset (.inr ⟨rfl, rfl⟩)).seen _
        · exact fun sent => absurd (sending.symm.trans (status_counted.symm.trans sent)) (by decide)
      | reconciling =>
        refine keepsTally_of_status present.symm fun other same busy => ?_
        exact (tallied_updated (tallied other same busy) unset).seen _
    · have idle : recordedColumns ((CampaignView.countOf { campaignView job world with
          standing := Function.update (campaignView job world).standing contactId (recordedStanding status) }) .ambiguous)
          status columns = columns := by
        cases status <;> simp [recordedColumns, Progress.counted, Progress.completed, Progress.Due, sending]
      refine keepsTally_of_status (by rw [Option.map_some, idle, present]) fun other same busy => ?_
      rw [present] at same
      cases same
      exact absurd busy sending

theorem keepsTally_totaled {id : Nat} {walk : WalkView} {columns : Progress}
    (tallied : TalliedWhileSending (campaignView job world)) (stored : (campaignView job world).columns = some columns)
    (present : (campaignView job world).walk id = some walk)
    (atEnd : ∀ contactId ∈ (campaignView job world).audience, walk.upcoming contactId = false) :
    KeepsTally (campaignView job world) { campaignView job world with
      columns := some (columns.fannedOut ((campaignView job world).countOf .ambiguous) walk.sendableTotal)
      walk := Function.update (campaignView job world).walk id none } := by
  by_cases nobody : walk.sendableTotal = 0
  · by_cases sending : columns.status = .sending
    · have covered := covered_over ((tallied columns stored sending).walks id walk present) atEnd
      constructor
      · rintro _ ⟨⟩ busy
        rw [Progress.fannedOut, if_pos nobody, if_pos sending] at busy
        cases busy
      · intro _
        apply decided_of_count
        exact covered.trans (by rw [nobody]; exact Nat.zero_le _)
    · rw [Progress.fannedOut, if_pos nobody, if_neg sending]
      refine keepsTally_of_status stored.symm fun other same busy => ?_
      rw [stored] at same
      cases same
      exact absurd busy sending
  · rw [Progress.fannedOut, if_neg nobody]
    refine keepsTally_completed (columns.withTotal walk.sendableTotal) (fun sending => ?_)
      (fun sent => ⟨columns, stored, sent⟩) rfl
    have tally := tallied columns stored sending
    refine ⟨tally.sent, tally.failed, (tallied_walked tally (by rintro _ ⟨⟩)).walks, fun _ => ?_⟩
    exact ⟨walk.sendableTotal, rfl, covered_over (tally.walks id walk present) atEnd⟩

theorem keepsTally_taken {after : CampaignView} (audience : AudienceSound world) (owns : Owns world job)
    (keeps : keepsTotals world label = true) (tallied : TalliedWhileSending (campaignView job world))
    (taken : CampaignTaken ids world job (campaignView job world) label after) :
    KeepsTally (campaignView job world) after := by
  cases taken with
  | unmoved => exact keepsTally_of_status rfl tallied
  | edited columns edit =>
    generalize stored : (campaignView job world).columns = before at edit
    cases edit with
    | kept =>
      rw [← stored]
      exact keepsTally_of_status rfl tallied
    | created | canceled => exact keepsTally_idle rfl (by intro same; cases same) (by intro same; cases same)
    | unstarted columns status _ idle =>
      refine keepsTally_idle rfl (fun sending => ?_) (fun sent => ?_)
      · exact idle (Progress.started_of_sending sending)
      · exact idle (by simp [Progress.Started, sent])
  | launched columns found unstarted =>
    -- before its start a campaign has counted nothing and no job walks it
    obtain ⟨unfanned, unsent, unfailed⟩ := audience.untouched _ columns found unstarted
    constructor
    · rintro _ ⟨⟩ _
      refine ⟨?_, ?_, ?_, ?_⟩
      · exact unsent.trans_le (Nat.zero_le _)
      · exact unfailed.trans_le (Nat.zero_le _)
      · intro id walk running
        obtain ⟨_, same, started⟩ := started_of_walk audience running
        rw [found] at same
        cases same
        exact absurd started unstarted
      · intro fanned
        rw [Progress.withStatus, unfanned] at fanned
        cases fanned
    · rintro ⟨_, ⟨⟩, ⟨⟩, _⟩
  | turnedAway contactId listed free =>
    exact keepsTally_of_status rfl fun columns found sending =>
      tallied_updated (tallied columns found sending) (.inl (by simp [campaignView, free, standingOf]))
  | interrupted contactId listed held | swept contactId row listed held =>
    exact keepsTally_of_status rfl fun columns found sending =>
      tallied_updated (tallied columns found sending) (.inl (by simp [campaignView, held, standingOf]))
  | recorded contactId claim dispatchedAt duration outcome source status moved listed found recorded stored holdable
      placed => exact keepsTally_recorded owns keeps tallied listed found recorded stored holdable placed
  | resolved contactId moved listed waiting placed =>
    subst placed
    cases found : (campaignView job world).columns with
    | none => exact keepsTally_absent rfl
    | some columns =>
      refine keepsTally_completed (columns.count .sent) (fun sending => ?_) (fun sent => ⟨columns, found, sent⟩) rfl
      exact (tallied_counted (tallied columns found sending) listed (.inr waiting) (.inl ⟨rfl, rfl⟩)).seen _
  | enrolled kickoff cursor found owner phase =>
    -- whoever joins is present already, or no walk has passed its place yet
    refine keepsTally_of_status rfl fun columns stored sending => ?_
    apply tallied_enrolled (tallied columns stored sending)
    intro contactId joining
    have ahead := keeps
    rw [keepsTotals, found, Option.all_some, walkKeepsTotals, phase, owner, isSending_of_view owns stored sending,
      isFannedOut_of_view owns stored] at ahead
    have joins := List.all_eq_true.mp ahead contactId (List.mem_toFinset.mp joining)
    simp only [Bool.or_eq_true, Bool.and_eq_true, Bool.not_eq_true'] at joins
    rcases joins with present | ⟨unfanned, upcoming⟩
    · have started : HasStarted world job := owner ▸ audience.executing _ kickoff found
      exact .inl (mem_audienceOf.mpr (listed_of_present audience started present))
    · exact .inr ⟨unfanned, fun id walk => upcoming_of_ahead upcoming⟩
  | walkStarted id =>
    refine keepsTally_of_status rfl fun columns stored sending => ?_
    apply tallied_walked (tallied columns stored sending)
    simp [CampaignView.count, census]
  | walkTurned id walk turned present total upcoming =>
    refine keepsTally_of_status rfl fun columns stored sending => ?_
    apply tallied_walked (tallied columns stored sending)
    rintro _ ⟨⟩
    rw [total]
    refine le_of_eq_of_le (census_congr fun contactId member => ?_) ((tallied columns stored sending).walks id walk present)
    rw [upcoming contactId member]
  | walkCounted contactId walk turned kickoff counters pageEnd contact rest found owner phase sendable listed present
      next total upcoming =>
    refine keepsTally_of_status rfl fun columns stored sending => ?_
    apply tallied_walked (tallied columns stored sending)
    rintro _ ⟨⟩
    apply covered_dealt ((tallied columns stored sending).walks _ walk present) listed next upcoming
    rw [total]
    exact Nat.add_le_add_left (Bool.toNat_le _) _
  | walkExcluded contactId walk turned kickoff counters pageEnd reason rest standing found owner phase listed present
      next total upcoming written =>
    refine keepsTally_of_status rfl fun columns stored sending => ?_
    have ahead := keeps
    rw [keepsTotals, found, Option.all_some, walkKeepsTotals, phase, owner, isSending_of_view owns stored sending] at ahead
    simp only [Bool.not_true, Bool.false_or, Bool.or_eq_true, beq_iff_eq] at ahead
    have excluded : standing contactId = .excluded := by
      rcases ahead with free | excluded
      · rw [written, if_pos free, Function.update_self]
      · rw [written, if_neg (by simp [excluded])]
        simp [campaignView, excluded, standingOf]
    have restood : Tallied { campaignView job world with standing } columns := by
      rcases ahead with free | held
      · rw [written, if_pos free]
        exact tallied_updated (tallied columns stored sending) (.inl (by simp [campaignView, free, standingOf]))
      · rw [written, if_neg (by simp [held])]
        exact tallied columns stored sending
    apply tallied_walked restood
    rintro _ ⟨⟩
    apply covered_dealt (restood.walks _ walk present) listed next upcoming
    simp [excluded, total]
  | walkEnded id =>
    refine keepsTally_of_status rfl fun columns stored sending => ?_
    apply tallied_walked (tallied columns stored sending)
    intro _ same
    cases same
  | totaled id walk present atEnd =>
    cases stored : (campaignView job world).columns with
    | none => exact keepsTally_absent rfl
    | some columns => exact keepsTally_totaled tallied stored present atEnd

structure CampaignsTallied (ids : SendIdScheme) (world : World) : Prop extends WorldSound ids world where
  tallied : ∀ job, Owns world job → TalliedWhileSending (campaignView job world)

theorem campaignsTallied_step (sound : CampaignsTallied platform.sendIds world) (keeps : KeepsTotals world label next)
    (taken : step platform world label = some next) : CampaignsTallied platform.sendIds next where
  toWorldSound := worldSound_step sound.toWorldSound taken
  tallied job owned := by
    obtain ⟨owns, moved⟩ := sound.toWorldSound.moved taken owned
    exact (keepsTally_taken sound.audience owns keeps (sound.tallied job owns) moved).tallied

theorem campaignsTallied_initial (ids : SendIdScheme) (now : Timestamp) : CampaignsTallied ids (initialWorld now) where
  toWorldSound := worldSound_initial ids now
  tallied job _ columns found := by cases found

theorem completesDecided_step (sound : CampaignsTallied platform.sendIds world) (keeps : KeepsTotals world label next)
    (taken : step platform world label = some next) : CompletesDecided world label next := by
  intro campaign member sent fresh recipient frozen same
  let job : KickoffJob := { workspaceId := campaign.workspaceId, campaignId := campaign.id }
  have later := worldSound_step sound.toWorldSound taken
  obtain ⟨owned, stored⟩ := view_of_mem member
  obtain ⟨owns, moved⟩ := sound.toWorldSound.moved taken owned
  have kept := keepsTally_taken sound.audience owns keeps (sound.tallied job owns) moved
  have completes : Completes (campaignView job world) (campaignView job next) := by
    refine ⟨progress campaign, stored, sent, ?_⟩
    intro before found already
    obtain ⟨old, present, rfl⟩ := Option.map_eq_some_iff.mp found
    exact fresh old present already
  have listed : Listed next.db.campaignRecipients recipient.workspaceId recipient.campaignId recipient.contactId :=
    ⟨recipient, Table.find?_of_mem frozen, rfl⟩
  have owner := job_of_started owned (later.audience.enrolled _ _ _ listed) same
  have ours : recipient.workspaceId = job.workspaceId := congrArg KickoffJob.workspaceId owner
  rw [ours, same] at listed ⊢
  have decided := kept.decided completes recipient.contactId (mem_audienceOf.mpr listed)
  change standingOf (statusOf next.db.sends (intentFor job recipient.contactId)) ≠ .undecided at decided
  cases status : statusOf next.db.sends (intentFor job recipient.contactId) with
  | none =>
    rw [status] at decided
    exact absurd rfl decided
  | some value =>
    refine ⟨value, status, ?_⟩
    rintro rfl
    rw [status] at decided
    exact absurd rfl decided

/-- A campaign whose totals are kept completes only when the sends of all its recipients are decided. -/
theorem campaign_completes_decided {platform : Platform} {start : Timestamp} {trace : List Label}
    (keeps : Along (step platform) KeepsTotals (initialWorld start) trace) :
    Along (step platform) CompletesDecided (initialWorld start) trace := by
  apply along_of_conforming _ _ (campaignsTallied_initial platform.sendIds start) keeps
  · intro world label next sound keeping taken
    exact campaignsTallied_step sound keeping taken
  · intro world label next sound keeping taken
    exact completesDecided_step sound keeping taken

end Steps

def quietCampaign : List Label :=
  launchedCampaign ++ kickoffSteps 0 20 ++ claimAndCall 0 1 ++ answerAndSettle 0 (.response 202 none) ++
    claimAndCall 1 2 ++ answerAndSettle 1 (.response 202 none)

set_option maxRecDepth 10000 in
theorem campaign_completes_decided_quiet :
    Along (step pairedPlatform) CompletesDecided (initialWorld 0) quietCampaign ∧
      (run (step pairedPlatform) (initialWorld 0) quietCampaign).any (fun world =>
        world.db.campaigns.rows.any (·.status == .sent)) = true := by
  have checked : checkAlong (step pairedPlatform) keepsTotals (initialWorld 0) quietCampaign = true := by decide
  exact ⟨campaign_completes_decided (along_of_check checked), by decide⟩

/-- One of two recipients is sent and unsubscribes, so the walk after a crash counts it as excluded. -/
def rewalkedCampaign : List Label :=
  launchedCampaign ++ kickoffSteps 0 9 ++ claimAndCall 0 1 ++ answerAndSettle 0 (.response 202 none) ++
    [.kickoff (.crash 0),
     .environment (.putContact
       { id := 1, workspaceId := 0, email := some "ann", subscriptionStatus := .unsubscribed })] ++
    kickoffSteps 1 12

set_option maxRecDepth 10000 in
theorem campaign_completes_undecided :
    ¬ ∀ (platform : Platform) (start : Timestamp) (trace : List Label),
      Along (step platform) CompletesDecided (initialWorld start) trace := by
  intro always
  have evaluated : (run (step pairedPlatform) (initialWorld 0) rewalkedCampaign).any (fun world =>
      world.db.campaigns.rows.all (·.status == .sending) &&
        (step pairedPlatform world (.kickoff (.advance 1 [1, 2]))).any fun next =>
          next.db.campaigns.rows.any (fun campaign => campaign.id == 0 && campaign.status == .sent) &&
            next.db.campaignRecipients.rows.any (· == { campaignId := 0, workspaceId := 0, contactId := 2 }) &&
              statusOf next.db.sends (.campaign 0 0 2) == none) = true := by decide
  obtain ⟨world, ran, checked⟩ := Option.any_eq_true _ _ |>.mp evaluated
  obtain ⟨sending, reached⟩ := Bool.and_eq_true _ _ |>.mp checked
  obtain ⟨next, taken, ended⟩ := Option.any_eq_true _ _ |>.mp reached
  simp only [Bool.and_eq_true, List.any_eq_true, List.all_eq_true, beq_iff_eq] at sending ended
  obtain ⟨⟨⟨campaign, stored, named, sent⟩, recipient, frozen, rfl⟩, unrecorded⟩ := ended
  have completes := along_last (always pairedPlatform 0 (rewalkedCampaign ++ [.kickoff (.advance 1 [1, 2])])) ran taken
  have fresh : ∀ before, world.db.campaigns.find? campaign.id = some before → before.status ≠ .sent := by
    intro before found already
    rw [sending before (Table.mem_of_find? found)] at already
    cases already
  obtain ⟨status, decided, _⟩ := completes campaign stored sent fresh _ frozen named.symm
  rw [unrecorded] at decided
  cases decided

end LocalCrm.System
