import LocalCrm.System.AtMostOnce

/-! Whether a campaign that is sending has everything a mail needs. -/

set_option autoImplicit false

namespace LocalCrm.System

open Library Delivery Campaigns Webhooks Analytics

/-- A template and a sender are set; the segment column cannot be null. -/
def Complete (campaign : Campaign) : Prop :=
  campaign.templateId.isSome ∧ (campaign.fromEmail.isSome ∨ campaign.fromSenderId.isSome)

instance (campaign : Campaign) : Decidable (Complete campaign) := inferInstanceAs (Decidable (_ ∧ _))

def CompleteWhileSending (campaign : Campaign) : Prop := campaign.status = .sending → Complete campaign

def SendingComplete (world : World) : Prop := ∀ campaign ∈ world.db.campaigns.rows, CompleteWhileSending campaign

def TicksFindComplete (world : World) (label : Label) (_ : World) : Prop :=
  ∀ id row rest campaign, label = .tick (.transition id false) →
    world.ticks.find? id = some { id, due := row :: rest, transitioned := none } →
    world.db.campaigns.find? row.id = some campaign → campaign.workspaceId = row.workspaceId →
    isDue world.now campaign = true → Complete campaign

section Rows

variable {now : Timestamp} {campaign : Campaign}

theorem isSome_of_truthy {text : Option String} (present : truthy text = true) : text.isSome = true := by
  cases text with
  | none => cases present
  | some value => rfl

theorem isSome_or {first second : Option String} (present : second.isSome = true) :
    (first.or second).isSome = true := by
  rw [Option.isSome_or, present, Bool.or_true]

theorem complete_of_launchComplete (ready : launchComplete campaign = true) : Complete campaign := by
  simp only [launchComplete, Bool.and_eq_true, Bool.or_eq_true] at ready
  exact ⟨isSome_of_truthy ready.1, ready.2.imp isSome_of_truthy isSome_of_truthy⟩

theorem complete_assignLaunch (options : ResolvedSenderOptions) (complete : Complete campaign) :
    Complete (options.assignLaunch now campaign) :=
  ⟨complete.1, complete.2.imp_left isSome_or⟩

theorem idle_of_not_sending (idle : campaign.status ≠ .sending) : CompleteWhileSending campaign :=
  fun sending => absurd sending idle

theorem completeWhileSending_of_columns {written : Campaign} (complete : CompleteWhileSending campaign)
    (columns : written.templateId = campaign.templateId ∧ written.fromEmail = campaign.fromEmail ∧
      written.fromSenderId = campaign.fromSenderId)
    (started : written.status = .sending → campaign.status = .sending) : CompleteWhileSending written := by
  intro sending
  have before := complete (started sending)
  rw [Complete, columns.1, columns.2.1, columns.2.2]
  exact before

end Rows

section Tables

variable {now : Timestamp} {sends : Sends} {campaigns next : LocalCrm.Campaigns} {workspaceId : WorkspaceId}
  {id : CampaignId}

def RowsComplete (campaigns : LocalCrm.Campaigns) : Prop :=
  ∀ campaign ∈ campaigns.rows, CompleteWhileSending campaign

theorem rowsComplete_counter (outcome : CountedOutcome) {guard : Campaign → Bool} (complete : RowsComplete campaigns) :
    RowsComplete (campaigns.update guard (Campaign.countOutcome · outcome) (Campaign.id_countOutcome outcome)) := by
  refine Table.forall_update complete (fun campaign _ _ kept => ?_) (Campaign.id_countOutcome outcome)
  cases outcome <;> exact completeWhileSending_of_columns kept ⟨rfl, rfl, rfl⟩ fun sending => sending

theorem rowsComplete_tryCompleteCampaign (complete : RowsComplete campaigns) :
    RowsComplete (tryCompleteCampaign now sends campaigns id) :=
  Table.forall_update complete fun _ _ _ _ => idle_of_not_sending (by simp)

theorem rowsComplete_settled {job : SendJob} {status : RecordedStatus} (complete : RowsComplete campaigns) :
    RowsComplete (settledCampaigns now sends campaigns job status) := by
  cases status with
  | reconciling => exact complete
  | sent | failed =>
    cases job with
    | campaign => exact rowsComplete_tryCompleteCampaign (rowsComplete_counter _ complete)
    | flow => exact complete

theorem rowsComplete_edit {organizations : Table Organization.id} {edited : LocalCrm.Campaigns}
    (complete : RowsComplete campaigns) (commits : EditCommits now organizations campaigns edited) : RowsComplete edited := by
  cases commits with
  | unchanged => exact complete
  | created workspaceId id input fresh owner =>
    exact Table.forall_insert complete (idle_of_not_sending (by simp))
  | updated workspaceId id patch existing located draft =>
    refine Table.forall_update complete fun campaign stored matched _ => idle_of_not_sending ?_
    have same : campaign = existing := Table.eq_of_find? (getCampaign_some located).1 stored (beq_iff_eq.mp matched)
    rw [same]
    simp [UpdateCampaignInput.assign, draft]
  | scheduled workspaceId id scheduledAt options existing located draft =>
    exact Table.forall_update complete fun _ _ _ _ => idle_of_not_sending (by simp [ResolvedSenderOptions.assignSchedule])
  | unscheduled workspaceId id existing located waiting =>
    exact Table.forall_update complete fun _ _ _ _ => idle_of_not_sending (by simp [Campaigns.unscheduled])
  | canceled workspaceId id existing located sending =>
    exact Table.forall_update complete fun _ _ _ _ => idle_of_not_sending (by simp [canceledAt])
  | senderSet id fromEmail fromName =>
    refine Table.forall_update complete fun campaign _ _ kept sending => ?_
    exact ⟨(kept sending).1, .inl rfl⟩
  | restored workspaceId =>
    exact Table.forall_update complete fun _ _ _ _ => idle_of_not_sending (by simp)

theorem rowsComplete_finishFanOut {db : Database} {walk : Walk} (complete : RowsComplete db.campaigns) :
    RowsComplete (finishFanOut now db id walk).campaigns := by
  unfold finishFanOut
  split
  · exact Table.forall_update complete (fun _ _ _ _ => idle_of_not_sending (by simp [emptied]))
      (id_emptied now walk)
  · refine rowsComplete_tryCompleteCampaign
      (Table.forall_update complete (fun _ _ _ kept => ?_) (id_withTotals walk))
    exact completeWhileSending_of_columns kept ⟨rfl, rfl, rfl⟩ fun sending => sending

theorem rowsComplete_kickoff {db next : Database} {job : KickoffJob} {matching : List ContactId}
    {phase : KickoffPhase} (complete : RowsComplete db.campaigns)
    (writes : KickoffWrites now db job matching phase next) : RowsComplete next.campaigns := by
  cases writes with
  | nothing | exclusion => exact complete
  | totals walk => exact rowsComplete_finishFanOut complete
  | batch cursor =>
    refine Table.forall_update complete fun _ _ _ kept => ?_
    exact completeWhileSending_of_columns kept ⟨rfl, rfl, rfl⟩ fun sending => sending

theorem rowsComplete_resolution {ids : SendIdScheme} {db committed : Database} {sendId : SendId}
    (complete : RowsComplete db.campaigns) (commits : ResolutionCommits ids now db sendId committed) :
    RowsComplete committed.campaigns := by
  cases commits with
  | held | swept | unresolved => exact complete
  | resolved intent derived status =>
    split
    · exact rowsComplete_tryCompleteCampaign (rowsComplete_counter .sent complete)
    · exact complete

theorem rowsComplete_webhooks {db next : Database} (complete : RowsComplete db.campaigns)
    (kept : DeliveryKept db next) : RowsComplete next.campaigns := by
  intro campaign stored
  have columns := kept.campaigns campaign.id
  rw [Table.find?_of_mem stored] at columns
  obtain ⟨before, found, same⟩ := Option.map_eq_some_iff.mp columns.symm
  have read : before.status = campaign.status ∧ before.templateId = campaign.templateId ∧
      before.fromEmail = campaign.fromEmail ∧ before.fromSenderId = campaign.fromSenderId := by
    simp only [lifecycleColumns, Campaign.mk.injEq] at same
    tauto
  refine completeWhileSending_of_columns (complete before (Table.mem_of_find? found))
    ⟨read.2.1.symm, read.2.2.1.symm, read.2.2.2.symm⟩ ?_
  intro sending
  rw [read.1, sending]

end Tables

section Steps

variable {platform : Platform} {world next : World} {label : Label}

theorem sendingComplete_of_unstarted (complete : SendingComplete world)
    (taken : step platform world label = some next) (unstarted : ∀ id locked, label ≠ .tick (.transition id locked)) :
    SendingComplete next := by
  cases label with
  | environment event => exact rowsComplete_edit complete (environmentStep_frame taken).campaigns
  | api request =>
    obtain ⟨campaigns, commits, rfl⟩ := apiStep_taken taken
    exact rowsComplete_edit complete commits
  | launch event =>
    cases launchStep_taken taken with
    | requested | refused | enqueued | crashed => exact complete
    | committed launch campaigns found uncommitted launched =>
      obtain ⟨existing, located, _, _, ready, rfl⟩ := launchCampaign_ok launched
      refine Table.forall_update complete fun campaign stored matched _ _ => ?_
      have same : campaign = existing :=
        Table.eq_of_find? (getCampaign_some located).1 stored (beq_iff_eq.mp matched)
      exact complete_assignLaunch _ (same ▸ complete_of_launchComplete ready)
  | tick event =>
    cases tickStep_taken taken with
    | passed | transitioned => exact absurd rfl (unstarted _ _)
    | begun | enqueued | finished | crashed => exact complete
  | kickoff event =>
    cases kickoffEventStep_taken taken with
    | started | acked | crashed => exact complete
    | advanced kickoff effect found stepped =>
      subst stepped
      exact rowsComplete_kickoff complete (kickoffStep_writes _ _ _ _ _ _)
  | delivery event =>
    cases deliveryStep_taken taken with
    | delivered result db pending fresh uncalled claimed =>
      cases claimSend_commits claimed <;> exact complete
    | settled job claim dispatchedAt duration outcome found =>
      cases recorded : recordedStatus outcome with
      | none =>
        simp only [SendingComplete, settleOutcome_released recorded]
        exact complete
      | some status =>
        simp only [SendingComplete, settleOutcome_recorded recorded]
        exact rowsComplete_settled complete
    | rejected | denied | called | answered | acked | retried | givenUp | crashed => exact complete
  | reconcile sendId =>
    cases taken
    exact rowsComplete_resolution complete (resolveOneSend_commits _ _ _ _)
  | webhookBatch | sweep =>
    obtain ⟨db, kept, rfl⟩ := quietStep_taken rfl taken
    exact rowsComplete_webhooks complete kept

theorem sendingComplete_step_iff (complete : SendingComplete world) (taken : step platform world label = some next) :
    SendingComplete next ↔ TicksFindComplete world label next := by
  by_cases starts : ∃ id locked, label = .tick (.transition id locked)
  · obtain ⟨id, locked, rfl⟩ := starts
    have ticked : TickTaken world (.transition id locked) next := tickStep_taken taken
    cases ticked with
    | passed row rest found refused =>
      refine ⟨?_, fun _ => complete⟩
      rintro _ _ _ _ campaign ⟨⟩ located stored owned due
      rw [found] at located
      cases located
      have fires := transitionToSending_due stored owned due
      rw [refused] at fires
      cases fires
    | transitioned row rest campaign found stored owned due =>
      constructor
      · rintro started _ _ _ other ⟨⟩ located present _ _
        rw [found] at located
        cases located
        have became : startedSending world.now other ∈
            (world.db.campaigns.update (fun campaign => campaign.id == row.id) (startedSending world.now)
              (id_startedSending world.now)).rows := by
          refine List.mem_map.mpr ⟨other, Table.mem_of_find? present, ?_⟩
          rw [if_pos (beq_iff_eq.mpr (Table.key_of_find? present))]
        exact started (startedSending world.now other) became rfl
      · intro ready
        refine Table.forall_update complete fun other present matched _ _ => ?_
        have same : other = campaign := Table.eq_of_find? stored present (beq_iff_eq.mp matched)
        rw [same]
        exact ready id row rest campaign rfl found stored owned due
  · constructor
    · rintro _ id row rest campaign rfl
      exact absurd ⟨id, false, rfl⟩ starts
    · intro _
      exact sendingComplete_of_unstarted complete taken fun id locked same => starts ⟨id, locked, same⟩

end Steps

theorem sendingComplete_initial (now : Timestamp) : SendingComplete (initialWorld now) := by
  intro campaign stored
  cases stored

/-- A run never has an incomplete campaign sending exactly when its ticks start complete ones. -/
theorem sendingComplete_iff (platform : Platform) (start : Timestamp) (trace : List Label) :
    Along (step platform) (fun _ _ next => SendingComplete next) (initialWorld start) trace ↔
      Along (step platform) TicksFindComplete (initialWorld start) trace := by
  have decided : ∀ world label next, SendingComplete world → step platform world label = some next →
      (SendingComplete next ↔ TicksFindComplete world label next) :=
    fun _ _ _ complete taken => sendingComplete_step_iff complete taken
  exact along_invariant_iff decided (sendingComplete_initial start) trace

def scheduledBlank : List Label :=
  [.environment (.createWorkspace 0 "acme"),
   .environment (.putSegment { id := 0, workspaceId := 0 }),
   .api (.createCampaign 0 0 { name := "news", segmentId := 0 }),
   .api (.scheduleCampaign 0 0 10 { expectedVersion := 1, resolvedFromEmail := none, resolvedFromName := none }),
   .environment (.advance 10), .tick (.begin 0)]

theorem sendingComplete_blank :
    ¬ Along (step pairedPlatform) (fun _ _ next => SendingComplete next) (initialWorld 0)
      (scheduledBlank ++ [.tick (.transition 0 false)]) := by
  intro complete
  have evaluated : (run (step pairedPlatform) (initialWorld 0) scheduledBlank).any (fun world =>
      (step pairedPlatform world (.tick (.transition 0 false))).any fun next =>
        next.db.campaigns.rows.any fun campaign =>
          campaign.status == .sending && campaign.templateId == none) = true := by decide
  obtain ⟨world, ran, after⟩ := Option.any_eq_true _ _ |>.mp evaluated
  obtain ⟨next, taken, present⟩ := Option.any_eq_true _ _ |>.mp after
  obtain ⟨campaign, stored, blank⟩ := List.any_eq_true.mp present
  simp only [Bool.and_eq_true, beq_iff_eq] at blank
  have ready := along_last complete ran taken campaign stored blank.1
  rw [Complete, blank.2] at ready
  cases ready.1

end LocalCrm.System
