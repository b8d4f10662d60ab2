import LocalCrm.System.Completion

/-! Whether a campaign stops sending once there is nothing left to wait for. -/

set_option autoImplicit false

namespace LocalCrm.System

open Library Delivery Campaigns Webhooks Analytics

def ofCampaign (campaignId : CampaignId) : SendJob → Bool
  | .campaign _ other _ => other == campaignId
  | .flow _ _ _ _ => false

structure Quiescent (trace : List Label) (world : World) (campaign : Campaign) : Prop where
  fannedOut : campaign.fanOutComplete = true
  unqueued : ∀ job ∈ world.sendJobs.pending, ofCampaign campaign.id job = false
  idle : ∀ delivery ∈ world.deliveries.rows, ofCampaign campaign.id delivery.job = false
  unclaimed : ∀ row ∈ world.db.sends.rows, row.intent.campaignId = some campaign.id → row.status ≠ .dispatching
  live : .environment (.softDeleteWorkspace campaign.workspaceId) ∉ trace

/-- Nothing is left to do for the campaign, and it is still sending. -/
structure Stuck (trace : List Label) (world : World) (campaign : Campaign) : Prop where
  quiescent : Quiescent trace world campaign
  decided : ∀ recipient ∈ world.db.campaignRecipients.rows, recipient.campaignId = campaign.id →
    Decided world.db.sends (.campaign recipient.workspaceId recipient.campaignId recipient.contactId)
  sending : campaign.status = .sending

def roomForAmbiguous (world : World) (job : KickoffJob) : Bool :=
  (getCampaign world.db.campaigns job.workspaceId job.campaignId).all fun campaign =>
    campaign.status != .sending || !campaign.fanOutComplete || campaign.sendableTotal.all fun total =>
      campaign.sentCount + campaign.failedCount + ambiguousCount world.db.sends campaign.id + 1 < total

def uncountedYet (world : World) (job : KickoffJob) (contactId : ContactId) : Bool :=
  !isSending world job || (!isFannedOut world job && aheadOfWalks world job contactId)

/-- A walk excludes a recipient without a row only ahead of every total, and counts none that was excluded. -/
def walkLeavesCounted (world : World) (kickoff : Kickoff) : Bool :=
  match kickoff.phase with
  | .judging _ _ ((contactId, some contact) :: _) =>
    !isSending world kickoff.job ||
      evaluatePreSendGate world.now world.db kickoff.job.workspaceId contact != .sendable ||
        statusOf world.db.sends (intentFor kickoff.job contactId) != some .excluded
  | .excluding _ _ contactId _ _ =>
    (statusOf world.db.sends (intentFor kickoff.job contactId)).isSome || uncountedYet world kickoff.job contactId
  | _ => true

/-- A claim excludes only ahead of every total, and gives up only where there is room. -/
def claimLeavesCounted (ids : SendIdScheme) (world : World) : SendJob → Bool
  | .campaign workspaceId campaignId contactId =>
    match claimSend ids world.now world.db (.campaign workspaceId campaignId contactId) with
    | .ok (.excluded _, _) =>
      isWorkspaceSoftDeleted world.db.organizations workspaceId ||
        (statusOf world.db.sends (.campaign workspaceId campaignId contactId)).isSome ||
          uncountedYet world { workspaceId, campaignId } contactId
    | .ok (.reconciling _, _) => roomForAmbiguous world { workspaceId, campaignId }
    | _ => true
  | .flow _ _ _ _ => true

def settleLeavesCounted (world : World) (delivery : JobDelivery) : Bool :=
  match delivery.job, delivery.phase with
  | .campaign workspaceId campaignId contactId, .answered _ _ _ outcome =>
    recordedStatus outcome != some .reconciling ||
      standingOf (statusOf world.db.sends (.campaign workspaceId campaignId contactId)) == .ambiguous ||
        roomForAmbiguous world { workspaceId, campaignId }
  | _, _ => true

def sweepLeavesCounted (ids : SendIdScheme) (world : World) (sendId : SendId) (row : Send) : Bool :=
  match row.intent with
  | .campaign workspaceId campaignId _ =>
    ids.derive row.intent != sendId ||
      classifyReconcilableSend world.now row (hasEvidence world.db.sendEvents sendId) != .sweepToReconciling ||
        roomForAmbiguous world { workspaceId, campaignId }
  | .flow _ _ _ => true

/-- What has been counted keeps a row to wait for, and the last row is not left unchecked. -/
def leavesCounted (ids : SendIdScheme) (world : World) : Label → Bool
  | .kickoff (.advance id _) => (world.kickoffs.find? id).all (walkLeavesCounted world)
  | .delivery (.deliver _ job) => claimLeavesCounted ids world job
  | .delivery (.settle id) => (world.deliveries.find? id).all (settleLeavesCounted world)
  | .reconcile sendId => world.db.sends.rows.all (sweepLeavesCounted ids world sendId)
  | _ => true

def LeavesCounted (ids : SendIdScheme) (world : World) (label : Label) (_ : World) : Prop :=
  leavesCounted ids world label = true

structure Counted (view : CampaignView) (columns : Progress) : Prop where
  sent : view.countOf .sent ≤ columns.sentCount
  failed : view.countOf .failed ≤ columns.failedCount
  walks : ∀ id walk, view.walk id = some walk → walk.sendableTotal ≤
    view.count fun contactId standing => !walk.upcoming contactId && standing != .excluded
  total : columns.fanOutComplete = true → ∃ total, columns.sendableTotal = some total ∧
    total ≤ view.count fun _ standing => standing != .excluded

def Undue (view : CampaignView) (columns : Progress) : Prop :=
  columns.fanOutComplete = true → ∀ total, columns.sendableTotal = some total →
    columns.sentCount + columns.failedCount + view.countOf .ambiguous < total

structure Awaiting (view : CampaignView) (columns : Progress) : Prop extends Counted view columns where
  undue : Undue view columns

def AwaitingWhileSending (view : CampaignView) : Prop :=
  ∀ columns, view.columns = some columns → columns.status = .sending → Awaiting view columns

def Undeleted (organizations : Table Organization.id) (workspaceId : WorkspaceId) : Prop :=
  ∀ organization, organizations.find? workspaceId = some organization → organization.deletedAt = none

section Views

variable {view after : CampaignView} {columns : Progress} {contactId : ContactId}

theorem Counted.seen (counted : Counted view columns) (stored : Option Progress) :
    Counted { view with columns := stored } columns :=
  ⟨counted.sent, counted.failed, counted.walks, counted.total⟩

theorem Awaiting.seen (awaiting : Awaiting view columns) (stored : Option Progress) :
    Awaiting { view with columns := stored } columns := ⟨awaiting.toCounted.seen stored, awaiting.undue⟩

theorem undecided_of_awaiting (awaiting : Awaiting view columns) (fanned : columns.fanOutComplete = true) :
    ∃ contactId ∈ view.audience, view.standing contactId = .undecided := by
  by_contra all
  have none : view.countOf .undecided = 0 := by
    apply census_eq_zero.mpr
    intro contactId member
    exact beq_false_of_ne fun undecided => all ⟨contactId, member, undecided⟩
  obtain ⟨total, stored, bounded⟩ := awaiting.total fanned
  have open_ := awaiting.undue fanned total stored
  have included := count_included view
  have sent := awaiting.sent
  have failed := awaiting.failed
  omega

theorem counted_updated (moved : Standing) (later : Progress) (counted : Counted view columns) (included : moved ≠ .excluded)
    (listed : contactId ∈ view.audience) (sent : columns.sentCount + (moved == .sent).toNat ≤ later.sentCount)
    (failed : columns.failedCount + (moved == .failed).toNat ≤ later.failedCount)
    (total : later.fanOutComplete = columns.fanOutComplete ∧ later.sendableTotal = columns.sendableTotal) :
    Counted { view with standing := Function.update view.standing contactId moved } later := by
  have stays : ∀ other, view.standing other ≠ .excluded →
      Function.update view.standing contactId moved other ≠ .excluded := by
    intro other excluded
    by_cases same : other = contactId
    · subst same
      rwa [Function.update_self]
    · rwa [Function.update_of_ne same]
  constructor
  · have moves := countOf_moved moved .sent listed
    have before := counted.sent
    omega
  · have moves := countOf_moved moved .failed listed
    have before := counted.failed
    omega
  · intro id walk running
    refine (counted.walks id walk running).trans (census_le fun other _ positive => ?_)
    simp only [Bool.and_eq_true, bne_iff_ne] at positive ⊢
    exact ⟨positive.1, stays other positive.2⟩
  · intro fanned
    obtain ⟨total', stored, bounded⟩ := counted.total (total.1 ▸ fanned)
    refine ⟨total', total.2.trans stored, bounded.trans (census_le fun other _ positive => ?_)⟩
    simp only [bne_iff_ne] at positive ⊢
    exact stays other positive

theorem counted_excluded (counted : Counted view columns) (listed : contactId ∈ view.audience)
    (undecided : view.standing contactId = .undecided) (unfanned : columns.fanOutComplete = false)
    (ahead : ∀ id walk, view.walk id = some walk → walk.upcoming contactId = true) :
    Counted { view with standing := Function.update view.standing contactId .excluded } columns := by
  constructor
  · have moves := countOf_moved .excluded .sent listed
    rw [undecided] at moves
    exact moves.le.trans counted.sent
  · have moves := countOf_moved .excluded .failed listed
    rw [undecided] at moves
    exact moves.le.trans counted.failed
  · intro id walk running
    refine (counted.walks id walk running).trans (census_le fun other _ positive => ?_)
    have distinct : other ≠ contactId := by
      intro same
      rw [same, ahead id walk running] at positive
      cases positive
    simp only [Function.update_of_ne distinct]
    exact positive
  · intro fanned
    rw [unfanned] at fanned
    cases fanned

theorem awaiting_ambiguous (awaiting : Awaiting view columns) (listed : contactId ∈ view.audience)
    (room : view.standing contactId = .ambiguous ∨ (columns.fanOutComplete = true → ∀ total,
      columns.sendableTotal = some total →
        columns.sentCount + columns.failedCount + view.countOf .ambiguous + 1 < total)) :
    Awaiting { view with standing := Function.update view.standing contactId .ambiguous } columns where
  toCounted := counted_updated .ambiguous columns awaiting.toCounted (by decide) listed le_rfl le_rfl ⟨rfl, rfl⟩
  undue := by
    intro fanned total stored
    have moves := countOf_moved .ambiguous .ambiguous listed
    have open_ := awaiting.undue fanned total stored
    rcases room with already | room
    · rw [already] at moves
      omega
    · have spare := room fanned total stored
      have one : (Standing.ambiguous == .ambiguous).toNat = 1 := rfl
      omega

theorem awaiting_excluded (awaiting : Awaiting view columns) (listed : contactId ∈ view.audience)
    (undecided : view.standing contactId = .undecided) (unfanned : columns.fanOutComplete = false)
    (ahead : ∀ id walk, view.walk id = some walk → walk.upcoming contactId = true) :
    Awaiting { view with standing := Function.update view.standing contactId .excluded } columns where
  toCounted := counted_excluded awaiting.toCounted listed undecided unfanned ahead
  undue := by
    intro fanned
    rw [unfanned] at fanned
    cases fanned

theorem awaiting_idle {columns : Progress} (stored : after.columns = some columns) (idle : columns.status ≠ .sending) :
    AwaitingWhileSending after := by
  intro other found sending
  rw [stored] at found
  cases found
  exact absurd sending idle

theorem awaiting_absent (absent : after.columns = none) : AwaitingWhileSending after := by
  intro other found
  rw [absent] at found
  cases found

theorem awaiting_completed (changed : Progress)
    (stored : after.columns = some (changed.completed (after.countOf .ambiguous)))
    (counted : changed.status = .sending → Counted after changed) : AwaitingWhileSending after := by
  rcases completed_cases changed (after.countOf .ambiguous) with ⟨_, same⟩ | ⟨undue, same⟩
  · rw [same] at stored
    exact awaiting_idle stored (by intro same; cases same)
  · intro other found sending
    rw [same] at stored
    rw [stored] at found
    cases found
    refine ⟨counted sending, fun fanned total present => ?_⟩
    by_contra reached
    exact undue ⟨sending, fanned, total, present, Nat.not_lt.mp reached⟩

theorem awaiting_joined {joining : Finset ContactId} (awaiting : Awaiting view columns)
    (unrecorded : ∀ contactId, contactId ∉ view.audience → view.standing contactId = .undecided) :
    Awaiting { view with audience := view.audience ∪ joining } columns := by
  have joined : view.audience ⊆ view.audience ∪ joining := Finset.subset_union_left
  constructor
  · constructor
    · exact (countOf_joined unrecorded (by decide)).trans_le awaiting.sent
    · exact (countOf_joined unrecorded (by decide)).trans_le awaiting.failed
    · exact fun id walk running => (awaiting.walks id walk running).trans (census_grows joined)
    · intro fanned
      obtain ⟨total, stored, bounded⟩ := awaiting.total fanned
      exact ⟨total, stored, bounded.trans (census_grows joined)⟩
  · intro fanned total stored
    have still : CampaignView.countOf { view with audience := view.audience ∪ joining } .ambiguous =
        view.countOf .ambiguous := countOf_joined unrecorded (by decide)
    rw [still]
    exact awaiting.undue fanned total stored

theorem awaiting_walked {id : Nat} {walk : Option WalkView} (awaiting : Awaiting view columns)
    (within : ∀ turned, walk = some turned → turned.sendableTotal ≤
      view.count fun contactId standing => !turned.upcoming contactId && standing != .excluded) :
    Awaiting { view with walk := Function.update view.walk id walk } columns := by
  refine ⟨⟨awaiting.sent, awaiting.failed, ?_, awaiting.total⟩, awaiting.undue⟩
  intro other turned running
  by_cases same : other = id
  · subst same
    apply within turned
    simpa using running
  · apply awaiting.walks other turned
    simpa [same] using running

theorem within_dealt {walk turned : WalkView}
    (within : walk.sendableTotal ≤
      view.count fun contactId standing => !walk.upcoming contactId && standing != .excluded)
    (listed : contactId ∈ view.audience) (next : walk.upcoming contactId = true)
    (upcoming : ∀ other ∈ view.audience,
      turned.upcoming other = (walk.upcoming other && decide (other ≠ contactId)))
    (total : turned.sendableTotal ≤ walk.sendableTotal + (view.standing contactId != .excluded).toNat) :
    turned.sendableTotal ≤
      view.count fun contactId standing => !turned.upcoming contactId && standing != .excluded := by
  rw [count_dealt listed next upcoming]
  omega

end Views

section Steps

variable {platform : Platform} {ids : SendIdScheme} {world next : World} {label : Label} {job : KickoffJob}
  {contactId : ContactId} {columns : Progress} {after : CampaignView}

theorem room_of_view (audience : AudienceSound world) (owns : Owns world job)
    (found : (campaignView job world).columns = some columns) (sending : columns.status = .sending)
    (room : roomForAmbiguous world job = true) (fanned : columns.fanOutComplete = true) (total : Nat)
    (stored : columns.sendableTotal = some total) :
    columns.sentCount + columns.failedCount + (campaignView job world).countOf .ambiguous + 1 < total := by
  rw [← ambiguousCount_eq audience owns]
  obtain ⟨campaign, located, rfl⟩ := getCampaign_of_progress found (owns columns found)
  have keyed : campaign.id = job.campaignId := Table.key_of_find? (getCampaign_some located).1
  have status : campaign.status = .sending := sending
  have complete : campaign.fanOutComplete = true := fanned
  have counted : campaign.sendableTotal = some total := stored
  simp [roomForAmbiguous, located, keyed, status, complete, counted] at room
  exact room

theorem uncounted_of_view (owns : Owns world job) (found : (campaignView job world).columns = some columns)
    (sending : columns.status = .sending) (uncounted : uncountedYet world job contactId = true) :
    columns.fanOutComplete = false ∧
      ∀ id walk, (campaignView job world).walk id = some walk → walk.upcoming contactId = true := by
  rw [uncountedYet, isSending_of_view owns found sending, isFannedOut_of_view owns found] at uncounted
  simp only [Bool.not_true, Bool.false_or, Bool.and_eq_true, Bool.not_eq_true'] at uncounted
  exact ⟨uncounted.1, fun id walk => upcoming_of_ahead uncounted.2⟩

theorem live_of_undeleted (audience : AudienceSound world) (owns : Owns world job)
    (found : (campaignView job world).columns = some columns)
    (undeleted : Undeleted world.db.organizations job.workspaceId) :
    isWorkspaceSoftDeleted world.db.organizations job.workspaceId = false := by
  have known := audience.owned job.campaignId columns found
  rw [owns columns found] at known
  obtain ⟨organization, stored⟩ := Option.isSome_iff_exists.mp known
  simp [isWorkspaceSoftDeleted, stored, undeleted organization stored]

theorem awaiting_taken (audience : AudienceSound world) (owns : Owns world job)
    (undeleted : Undeleted world.db.organizations job.workspaceId)
    (leaves : leavesCounted ids world label = true) (awaiting : AwaitingWhileSending (campaignView job world))
    (taken : CampaignTaken ids world job (campaignView job world) label after) : AwaitingWhileSending after := by
  cases taken with
  | unmoved => exact awaiting
  | edited columns edit =>
    generalize stored : (campaignView job world).columns = before at edit
    cases edit with
    | kept =>
      rw [← stored]
      exact awaiting
    | created | canceled => exact awaiting_idle rfl (by intro same; cases same)
    | unstarted columns status _ idle =>
      exact awaiting_idle rfl fun sending => idle (Progress.started_of_sending sending)
  | launched columns found unstarted =>
    -- a campaign that starts has no recipients yet, so every count is zero
    rintro _ ⟨⟩ _
    have nobody := audience_of_unstarted audience found unstarted
    obtain ⟨unfanned, _, _⟩ := audience.untouched _ columns found unstarted
    have open_ : (columns.withStatus .sending).fanOutComplete ≠ true := by
      rw [Progress.withStatus, unfanned]
      decide
    refine ⟨⟨?_, ?_, ?_, fun fanned => absurd fanned open_⟩, fun fanned => absurd fanned open_⟩
    · simp [CampaignView.countOf, CampaignView.count, census, nobody]
    · simp [CampaignView.countOf, CampaignView.count, census, nobody]
    · intro id walk running
      obtain ⟨_, same, started⟩ := started_of_walk audience running
      cases found.symm.trans same
      exact absurd started unstarted
  | turnedAway contactId listed free refused =>
    -- a refused claim excludes a contact that no total may hold yet
    intro columns found sending
    have excludes := leaves
    rw [leavesCounted, sendJobFor, claimLeavesCounted] at excludes
    rw [sendJobFor] at refused
    rw [intentFor] at free
    have live := live_of_undeleted audience owns found undeleted
    simp only [refused, live, free, Option.isSome_none, Bool.false_or] at excludes
    obtain ⟨unfanned, ahead⟩ := uncounted_of_view owns found sending excludes
    have undecided : (campaignView job world).standing contactId = .undecided := by
      simp [campaignView, intentFor, free, standingOf]
    exact awaiting_excluded (awaiting columns found sending) listed undecided unfanned ahead
  | interrupted contactId listed held doubted =>
    intro columns found sending
    have room := leaves
    rw [leavesCounted, sendJobFor, claimLeavesCounted] at room
    rw [sendJobFor] at doubted
    simp only [doubted] at room
    exact awaiting_ambiguous (awaiting columns found sending) listed (.inr (room_of_view audience owns found sending room))
  | swept contactId row listed held present owner stale =>
    intro columns found sending
    have room := List.all_eq_true.mp leaves row present
    rw [sweepLeavesCounted, owner, intentFor] at room
    rw [intentFor] at stale
    simp only [bne_self_eq_false, stale, Bool.false_or] at room
    exact awaiting_ambiguous (awaiting columns found sending) listed (.inr (room_of_view audience owns found sending room))
  | recorded contactId claim dispatchedAt duration outcome source status moved listed found recorded stored holdable
      placed =>
    subst placed
    cases present : (campaignView job world).columns with
    | none => exact awaiting_absent rfl
    | some columns =>
      cases status with
      | sent | failed =>
        refine awaiting_completed (columns.counted _) rfl fun busy => ?_
        have sending : columns.status = .sending := status_counted.symm.trans busy
        have counted := (awaiting columns present sending).toCounted
        rw [Progress.counted, if_pos sending]
        exact (counted_updated _ (columns.count _) counted (by decide) listed le_rfl le_rfl ⟨rfl, rfl⟩).seen _
      | reconciling =>
        rintro _ ⟨⟩ sending
        have room := leaves
        rw [leavesCounted, found, Option.all_some] at room
        simp only [settleLeavesCounted, sendJobFor, recorded, bne_self_eq_false, Bool.false_or, Bool.or_eq_true,
          beq_iff_eq] at room
        exact (awaiting_ambiguous (awaiting columns present sending) listed
          (room.imp_right fun spare => room_of_view audience owns present sending spare)).seen _
  | resolved contactId moved listed waiting placed =>
    subst placed
    cases found : (campaignView job world).columns with
    | none => exact awaiting_absent rfl
    | some columns =>
      refine awaiting_completed (columns.count .sent) rfl fun sending => ?_
      have counted := (awaiting columns found sending).toCounted
      exact (counted_updated .sent (columns.count .sent) counted (by decide) listed le_rfl le_rfl ⟨rfl, rfl⟩).seen _
  | enrolled kickoff cursor found owner phase =>
    intro columns stored sending
    apply awaiting_joined (awaiting columns stored sending)
    intro contactId absent
    by_contra decided
    exact absent (mem_audienceOf.mpr (listed_of_decided audience decided))
  | walkStarted id =>
    intro columns stored sending
    apply awaiting_walked (awaiting columns stored sending)
    rintro _ ⟨⟩
    exact Nat.zero_le _
  | walkTurned id walk turned present total upcoming =>
    intro columns stored sending
    apply awaiting_walked (awaiting columns stored sending)
    rintro _ ⟨⟩
    rw [total]
    refine ((awaiting columns stored sending).walks id walk present).trans (le_of_eq (census_congr fun contactId member => ?_))
    rw [upcoming contactId member]
  | walkCounted contactId walk turned kickoff counters pageEnd contact rest found owner phase sendable listed present
      next total upcoming =>
    -- the total grows by one, and by one the recipients dealt with
    intro columns stored sending
    apply awaiting_walked (awaiting columns stored sending)
    rintro _ ⟨⟩
    apply within_dealt ((awaiting columns stored sending).walks _ walk present) listed next upcoming
    have included := leaves
    rw [leavesCounted, found, Option.all_some, walkLeavesCounted, phase, owner] at included
    simp only [isSending_of_view owns stored sending, sendable, bne_self_eq_false, Bool.not_true, Bool.false_or,
      bne_iff_ne] at included
    have counted : (campaignView job world).standing contactId ≠ .excluded := by
      intro excluded
      exact included (standingOf_excluded.mp excluded)
    rw [total, bne_iff_ne.mpr counted]
    exact le_rfl
  | walkExcluded contactId walk turned kickoff counters pageEnd reason rest standing found owner phase listed present
      next total upcoming written =>
    intro columns stored sending
    have restood : Awaiting { campaignView job world with standing } columns := by
      rw [written]
      split
      · next free =>
        have excludes := leaves
        rw [leavesCounted, found, Option.all_some, walkLeavesCounted, phase, owner] at excludes
        simp only [free, Option.isSome_none, Bool.false_or] at excludes
        obtain ⟨unfanned, ahead⟩ := uncounted_of_view owns stored sending excludes
        have undecided : (campaignView job world).standing contactId = .undecided := by
          simp [campaignView, free, standingOf]
        exact awaiting_excluded (awaiting columns stored sending) listed undecided unfanned ahead
      · exact awaiting columns stored sending
    apply awaiting_walked restood
    rintro _ ⟨⟩
    apply within_dealt (restood.walks _ walk present) listed next upcoming
    rw [total]
    exact Nat.le_add_right _ _
  | walkEnded id =>
    intro columns stored sending
    exact awaiting_walked (awaiting columns stored sending) (by intro _ same; cases same)
  | totaled id walk present atEnd =>
    cases stored : (campaignView job world).columns with
    | none => exact awaiting_absent rfl
    | some columns =>
      -- with nobody to send to the fan-out itself completes the campaign
      by_cases nobody : walk.sendableTotal = 0
      · by_cases sending : columns.status = .sending
        · refine awaiting_idle rfl ?_
          simp only [Progress.fannedOut, if_pos nobody, if_pos sending]
          intro same
          cases same
        · refine awaiting_idle rfl ?_
          simp only [Progress.fannedOut, if_pos nobody, if_neg sending]
          exact sending
      · refine awaiting_completed (columns.withTotal walk.sendableTotal) ?_ fun sending => ?_
        · simp only [Option.map_some, Progress.fannedOut, if_neg nobody]
          rfl
        · have counted := (awaiting columns stored sending).toCounted
          have within := (awaiting columns stored sending).walks id walk present
          refine ⟨counted.sent, counted.failed, ?_, fun _ => ⟨walk.sendableTotal, rfl, ?_⟩⟩
          · exact (awaiting_walked (awaiting columns stored sending) (by rintro _ ⟨⟩)).walks
          · exact within.trans (census_le fun contactId _ positive => (Bool.and_eq_true _ _ |>.mp positive).2)

theorem undeleted_step {workspaceId : WorkspaceId} (taken : step platform world label = some next)
    (undeleted : Undeleted world.db.organizations workspaceId)
    (spared : label ≠ .environment (.softDeleteWorkspace workspaceId)) :
    Undeleted next.db.organizations workspaceId := by
  by_cases outside : ∃ event, label = .environment event
  · obtain ⟨event, rfl⟩ := outside
    intro organization found
    cases event with
    | createWorkspace id slug =>
      cases taken
      simp only [Table.find?_insert] at found
      rcases Option.or_eq_some_iff.mp found with before | ⟨_, created⟩
      · exact undeleted organization before
      · split at created
        · cases created
          rfl
        · cases created
    | softDeleteWorkspace id =>
      cases taken
      simp only [Table.find?_update] at found
      obtain ⟨before, stored, rfl⟩ := Option.map_eq_some_iff.mp found
      have keyed : before.id = workspaceId := Table.key_of_find? stored
      have other : workspaceId ≠ id := by
        rintro rfl
        exact spared rfl
      simpa [keyed, other] using undeleted before stored
    | restoreWorkspace id =>
      simp only [step, environmentStep] at taken
      split at taken
      · cases taken
      · cases taken
        simp only [Table.find?_update] at found
        obtain ⟨before, stored, rfl⟩ := Option.map_eq_some_iff.mp found
        split
        · rfl
        · exact undeleted before stored
    | _ =>
      cases taken
      exact undeleted organization found
  · rw [organizations_kept (fun event same => outside ⟨event, same⟩) taken]
    exact undeleted

structure CampaignsAwaiting (ids : SendIdScheme) (workspaceId : WorkspaceId) (world : World) : Prop
    extends WorldSound ids world where
  undeleted : Undeleted world.db.organizations workspaceId
  awaiting : ∀ job, job.workspaceId = workspaceId → Owns world job → AwaitingWhileSending (campaignView job world)

def Spares (workspaceId : WorkspaceId) (ids : SendIdScheme) (world : World) (label : Label) (next : World) : Prop :=
  LeavesCounted ids world label next ∧ label ≠ .environment (.softDeleteWorkspace workspaceId)

theorem campaignsAwaiting_step {workspaceId : WorkspaceId}
    (sound : CampaignsAwaiting platform.sendIds workspaceId world)
    (spares : Spares workspaceId platform.sendIds world label next) (taken : step platform world label = some next) :
    CampaignsAwaiting platform.sendIds workspaceId next where
  toWorldSound := worldSound_step sound.toWorldSound taken
  undeleted := undeleted_step taken sound.undeleted spares.2
  awaiting := by
    rintro job rfl owned
    obtain ⟨owns, moved⟩ := sound.toWorldSound.moved taken owned
    exact awaiting_taken sound.audience owns sound.undeleted spares.1 (sound.awaiting job rfl owns) moved

theorem campaignsAwaiting_initial (ids : SendIdScheme) (workspaceId : WorkspaceId) (now : Timestamp) :
    CampaignsAwaiting ids workspaceId (initialWorld now) where
  toWorldSound := worldSound_initial ids now
  undeleted organization found := by cases found
  awaiting _ _ _ := awaiting_absent rfl

/-- A run that leaves what was counted reaches no stuck campaign. -/
theorem never_stuck {platform : Platform} {start : Timestamp} {trace : List Label} {world : World}
    (leaves : Along (step platform) (LeavesCounted platform.sendIds) (initialWorld start) trace)
    (ran : run (step platform) (initialWorld start) trace = some world) :
    ∀ campaign ∈ world.db.campaigns.rows, ¬ Stuck trace world campaign := by
  intro campaign member stuck
  have spares : Along (step platform) (Spares campaign.workspaceId platform.sendIds) (initialWorld start) trace := by
    apply along_and leaves
    apply along_of_labels
    rintro label listed _ _ rfl
    exact stuck.quiescent.live listed
  have sound : CampaignsAwaiting platform.sendIds campaign.workspaceId world := by
    apply invariant_of_run _ (campaignsAwaiting_initial platform.sendIds campaign.workspaceId start) spares ran
    intro before label next holds sparing taken
    exact campaignsAwaiting_step holds sparing taken
  let job : KickoffJob := { workspaceId := campaign.workspaceId, campaignId := campaign.id }
  obtain ⟨owns, stored⟩ := view_of_mem member
  have awaiting := sound.awaiting job rfl owns (progress campaign) stored stuck.sending
  obtain ⟨contactId, listed, undecided⟩ := undecided_of_awaiting awaiting stuck.quiescent.fannedOut
  obtain ⟨recipient, frozen, owner⟩ := mem_audienceOf.mp listed
  have keyed : recipient.key = (campaign.id, contactId) := Table.key_of_find? frozen
  simp only [Recipient.key, Prod.mk.injEq] at keyed
  obtain ⟨status, decided, past⟩ := stuck.decided recipient (Table.mem_of_find? frozen) keyed.1
  rw [owner, keyed.1, keyed.2] at decided
  change standingOf (statusOf world.db.sends (.campaign campaign.workspaceId campaign.id contactId)) = _ at undecided
  rw [decided] at undecided
  cases status <;> first | exact past rfl | cases undecided

end Steps

def finishedCampaign : List Label :=
  launchedCampaign ++ kickoffSteps 0 20 ++ claimAndCall 0 1 ++ answerAndSettle 0 (.response 202 none) ++
    [.delivery (.ack 0)] ++ claimAndCall 1 2 ++ answerAndSettle 1 (.response 202 none) ++ [.delivery (.ack 1)]

set_option maxRecDepth 10000 in
theorem never_stuck_finished :
    ∃ world, run (step pairedPlatform) (initialWorld 0) finishedCampaign = some world ∧
      world.sendJobs.pending = [] ∧ world.deliveries.rows = [] ∧
        ∀ campaign ∈ world.db.campaigns.rows, ¬ Stuck finishedCampaign world campaign := by
  have checked : checkAlong (step pairedPlatform) (leavesCounted pairedSendIds) (initialWorld 0) finishedCampaign =
      true := by decide
  have evaluated : (run (step pairedPlatform) (initialWorld 0) finishedCampaign).any (fun world =>
      world.sendJobs.pending.isEmpty && world.deliveries.rows.isEmpty) = true := by decide
  obtain ⟨world, ran, quiet⟩ := Option.any_eq_true _ _ |>.mp evaluated
  simp only [Bool.and_eq_true, List.isEmpty_iff] at quiet
  exact ⟨world, ran, quiet.1, quiet.2, never_stuck (along_of_check checked) ran⟩

def ambiguousCampaign : List Label :=
  launchedCampaign ++ kickoffSteps 0 20 ++ claimAndCall 0 1 ++ answerAndSettle 0 (.response 202 none) ++
    [.delivery (.ack 0)] ++ claimAndCall 1 2 ++ answerAndSettle 1 (.threw (.object (some "ETIMEDOUT"))) ++
    [.delivery (.ack 1)]

def deletesNoWorkspace : Label → Bool
  | .environment (.softDeleteWorkspace _) => false
  | _ => true

set_option maxRecDepth 10000 in
theorem stuck_ambiguous :
    ¬ ∀ (platform : Platform) (start : Timestamp) (trace : List Label) (world : World),
      run (step platform) (initialWorld start) trace = some world →
        ∀ campaign ∈ world.db.campaigns.rows, ¬ Stuck trace world campaign := by
  intro never
  have evaluated : (run (step pairedPlatform) (initialWorld 0) ambiguousCampaign).any (fun world =>
      world.sendJobs.pending.isEmpty && world.deliveries.rows.isEmpty &&
        world.db.sends.rows.all (fun row => row.status != .dispatching) &&
        world.db.campaignRecipients.rows.all (fun recipient =>
          (statusOf world.db.sends (.campaign recipient.workspaceId recipient.campaignId recipient.contactId)).any
            (· != .dispatching)) &&
        world.db.campaigns.rows.any fun campaign => campaign.fanOutComplete && campaign.status == .sending) = true := by
    decide
  have spared : ambiguousCampaign.all deletesNoWorkspace = true := by decide
  obtain ⟨world, ran, quiet⟩ := Option.any_eq_true _ _ |>.mp evaluated
  simp only [Bool.and_eq_true, List.isEmpty_iff, List.all_eq_true, List.any_eq_true, Option.any_eq_true, beq_iff_eq,
    bne_iff_ne] at quiet
  obtain ⟨⟨⟨⟨unqueued, idle⟩, unclaimed⟩, decided⟩, campaign, member, fanned, sending⟩ := quiet
  refine never pairedPlatform 0 ambiguousCampaign world ran campaign member ⟨⟨fanned, ?_, ?_, ?_, ?_⟩, ?_, sending⟩
  · simp [unqueued]
  · simp [idle]
  · exact fun row present _ => unclaimed row present
  · exact fun deleted => Bool.noConfusion (List.all_eq_true.mp spared _ deleted)
  · exact fun recipient frozen _ => decided recipient frozen

end LocalCrm.System
