import LocalCrm.System.Completion

/-! Whether the counters of a campaign count each of its sends once. -/

set_option autoImplicit false

namespace LocalCrm.System

open Library Delivery Campaigns Webhooks Analytics

def campaignStatus (world : World) (job : KickoffJob) : Option CampaignStatus :=
  (getCampaign world.db.campaigns job.workspaceId job.campaignId).map (·.status)

def countedOutcomes (world : World) (job : KickoffJob) : Nat :=
  ((getCampaign world.db.campaigns job.workspaceId job.campaignId).map
    fun campaign => campaign.sentCount + campaign.failedCount).getD 0

def treats (ids : SendIdScheme) (world : World) (intent : SendIntent) : Label → Bool
  | .delivery (.settle id) => (world.deliveries.find? id).any fun delivery => delivery.job.intent == intent
  | .reconcile sendId => sendId == ids.derive intent
  | _ => false

/-- What a step that treats the intent adds to the counters of its campaign. -/
def contribution (ids : SendIdScheme) (job : KickoffJob) (contactId : ContactId) (world : World) (label : Label)
    (next : World) : Nat :=
  if treats ids world (intentFor job contactId) label then countedOutcomes next job - countedOutcomes world job else 0

def sendCount (sends : Sends) (campaignId : CampaignId) (status : SendStatus) : Nat :=
  sends.count fun row => row.intent.campaignId == some campaignId && row.status == status

def inTime (status : RecordedStatus) (row : Option SendStatus) (campaign : Option CampaignStatus) : Bool :=
  if row = some .sent then
    (status == .sent && campaign != some .sending) || (status != .reconciling && campaign == some .canceled)
  else status == .reconciling || campaign == some .sending || campaign == some .canceled

def recordsInTime (world : World) : Label → Bool
  | .delivery (.settle id) =>
    (world.deliveries.find? id).all fun delivery =>
      match delivery.job, delivery.phase with
      | .campaign workspaceId campaignId _, .answered _ _ _ outcome =>
        (recordedStatus outcome).all fun status =>
          inTime status (statusOf world.db.sends delivery.job.intent) (campaignStatus world { workspaceId, campaignId })
      | _, _ => true
  | _ => true

def RecordsInTime (world : World) (label : Label) (_ : World) : Prop := recordsInTime world label = true

def openness : Standing → Nat
  | .sent | .failed => 0
  | .undecided | .excluded | .ambiguous => 1

/-- The counters are the numbers of the rows. -/
structure Agrees (view : CampaignView) (columns : Progress) : Prop where
  sent : columns.sentCount = view.countOf .sent
  failed : columns.failedCount = view.countOf .failed

def Exact (view : CampaignView) : Prop :=
  ∀ columns, view.columns = some columns → columns.status ≠ .canceled → Agrees view columns

section Views

variable {ids : SendIdScheme} {world next : World} {label : Label} {job : KickoffJob} {view after : CampaignView}
  {contactId : ContactId}

def outcomesOf (columns : Option Progress) : Nat :=
  (columns.map fun columns => columns.sentCount + columns.failedCount).getD 0

theorem countedOutcomes_of_owns (owns : Owns world job) :
    countedOutcomes world job = outcomesOf (campaignView job world).columns := by
  cases found : (campaignView job world).columns with
  | none =>
    have absent : world.db.campaigns.find? job.campaignId = none := Option.map_eq_none_iff.mp found
    simp [countedOutcomes, outcomesOf, getCampaign, absent]
  | some columns =>
    obtain ⟨campaign, located, rfl⟩ := getCampaign_of_progress found (owns columns found)
    simp [countedOutcomes, outcomesOf, located, progress]

theorem campaignStatus_of_owns (owns : Owns world job) {columns : Progress}
    (found : (campaignView job world).columns = some columns) : campaignStatus world job = some columns.status := by
  obtain ⟨campaign, located, rfl⟩ := getCampaign_of_progress found (owns columns found)
  simp [campaignStatus, located, progress]

theorem countedOutcomes_of_foreign (foreign : ¬ Owns world job) : countedOutcomes world job = 0 := by
  cases located : getCampaign world.db.campaigns job.workspaceId job.campaignId with
  | none => simp [countedOutcomes, located]
  | some campaign =>
    obtain ⟨stored, owner⟩ := getCampaign_some located
    apply absurd _ foreign
    intro columns found
    rw [progressOf, stored] at found
    cases found
    exact owner

def Pays (ids : SendIdScheme) (world : World) (job : KickoffJob) (contactId : ContactId) (label : Label)
    (view after : CampaignView) : Prop :=
  (if treats ids world (intentFor job contactId) label then outcomesOf after.columns - outcomesOf view.columns else 0) +
    openness (after.standing contactId) ≤ openness (view.standing contactId)

theorem pays_uncounted (counters : outcomesOf after.columns ≤ outcomesOf view.columns)
    (standing : openness (after.standing contactId) = openness (view.standing contactId)) :
    Pays ids world job contactId label view after := by
  unfold Pays
  split <;> omega

theorem pays_untreated (treated : treats ids world (intentFor job contactId) label = false)
    (standing : after.standing contactId = view.standing contactId) :
    Pays ids world job contactId label view after := by
  unfold Pays
  rw [treated, standing]
  simp

theorem pays_once (counters : outcomesOf after.columns ≤ outcomesOf view.columns + 1)
    (before : openness (view.standing contactId) = 1) (standing : openness (after.standing contactId) = 0) :
    Pays ids world job contactId label view after := by
  unfold Pays
  split <;> omega

theorem outcomesOf_count (columns : Progress) (outcome : CountedOutcome) :
    outcomesOf (some (columns.count outcome)) = outcomesOf (some columns) + 1 := by
  cases outcome with
  | sent => exact Nat.add_right_comm _ _ _
  | failed => rfl

theorem outcomesOf_completed (ambiguous : Nat) (columns : Progress) :
    outcomesOf (some (columns.completed ambiguous)) = outcomesOf (some columns) := by
  rcases completed_cases columns ambiguous with ⟨_, same⟩ | ⟨_, same⟩
  · rw [same]
    rfl
  · rw [same]

theorem outcomesOf_fannedOut (ambiguous total : Nat) (columns : Progress) :
    outcomesOf (some (columns.fannedOut ambiguous total)) = outcomesOf (some columns) := by
  unfold Progress.fannedOut
  split
  · split <;> rfl
  · exact outcomesOf_completed ambiguous (columns.withTotal total)

theorem outcomesOf_edited {organizations : Table Organization.id} {before edited : Option Progress}
    (edit : Edited organizations before edited) : outcomesOf edited = outcomesOf before := by
  cases edit <;> rfl

theorem outcomesOf_recorded (ambiguous : Nat) (status : RecordedStatus) (columns : Progress) :
    outcomesOf (some (recordedColumns ambiguous status columns)) =
      outcomesOf (some columns) +
        if status ≠ .reconciling ∧ columns.status = .sending then 1 else 0 := by
  have counted : ∀ outcome, outcomesOf (some ((columns.counted outcome).completed ambiguous)) =
      outcomesOf (some columns) + if columns.status = .sending then 1 else 0 := by
    intro outcome
    rw [outcomesOf_completed]
    rcases counted_cases columns outcome with ⟨sending, same⟩ | ⟨idle, same⟩
    · rw [same, outcomesOf_count, if_pos sending]
    · rw [same, if_neg idle]
      rfl
  cases status with
  | sent => simpa [recordedColumns] using counted .sent
  | failed => simpa [recordedColumns] using counted .failed
  | reconciling => simp [recordedColumns]

theorem openness_le_one (standing : Standing) : openness standing ≤ 1 := by
  cases standing <;> decide

theorem openness_open (open_ : view.standing contactId = .undecided ∨ view.standing contactId = .ambiguous) :
    openness (view.standing contactId) = 1 := by
  rcases open_ with undecided | ambiguous
  · rw [undecided]
    rfl
  · rw [ambiguous]
    rfl

theorem openness_updated {moved : Standing} {other : ContactId}
    (open_ : openness (view.standing contactId) = 1) (still : openness moved = 1) :
    openness (Function.update view.standing contactId moved other) = openness (view.standing other) := by
  by_cases same : other = contactId
  · subst same
    rw [Function.update_self, open_, still]
  · rw [Function.update_of_ne same]

theorem treats_settle {id : Nat} {other : ContactId} {phase : DeliveryPhase}
    (found : world.deliveries.find? id = some { id, job := sendJobFor job other, phase }) (differs : contactId ≠ other) :
    treats ids world (intentFor job contactId) (.delivery (.settle id)) = false := by
  simp only [treats, found, Option.any_some, beq_eq_false_iff_ne]
  exact fun same => differs (intentFor_injective job same).symm

theorem treats_reconcile {other : ContactId} (differs : contactId ≠ other) :
    treats ids world (intentFor job contactId) (.reconcile (ids.derive (intentFor job other))) = false := by
  simp only [treats, beq_eq_false_iff_ne]
  exact fun same => differs (intentFor_injective job (ids.injective same)).symm

variable {source : SendStatus} {ambiguous : Nat}

theorem inTime_of_recordsInTime {id : Nat} {claim : ClaimedSend} {dispatchedAt : Timestamp} {duration : Int}
    {outcome : CallOutcome} {status : RecordedStatus}
    (records : recordsInTime world (.delivery (.settle id)) = true)
    (found : world.deliveries.find? id =
      some { id, job := sendJobFor job contactId, phase := .answered claim dispatchedAt duration outcome })
    (recorded : recordedStatus outcome = some status)
    (stored : statusOf world.db.sends (intentFor job contactId) = some source) :
    inTime status (some source) (campaignStatus world job) = true := by
  simp only [recordsInTime, found, Option.all_some, sendJobFor, recorded] at records
  rw [← stored]
  exact records

theorem inTime_sent {status : RecordedStatus} {campaign : Option CampaignStatus}
    (timely : inTime status (some .sent) campaign = true) :
    status ≠ .reconciling ∧ campaign ≠ some .sending ∧ (campaign ≠ some .canceled → status = .sent) := by
  simp only [inTime, if_pos, Bool.or_eq_true, Bool.and_eq_true, beq_iff_eq, bne_iff_ne] at timely
  rcases timely with ⟨rfl, idle⟩ | ⟨result, rfl⟩
  · exact ⟨by decide, idle, fun _ => rfl⟩
  · exact ⟨result, by decide, fun open_ => absurd rfl open_⟩

theorem inTime_open {status : RecordedStatus} {campaign : Option CampaignStatus}
    (timely : inTime status (some source) campaign = true) (unsent : source ≠ .sent) :
    status = .reconciling ∨ campaign = some .sending ∨ campaign = some .canceled := by
  have other : some source ≠ some SendStatus.sent := fun same => unsent (Option.some.inj same)
  rw [inTime, if_neg other] at timely
  simpa only [Bool.or_eq_true, beq_iff_eq, or_assoc] using timely

theorem pays_recorded {status : RecordedStatus} (owns : Owns world job)
    (timely : inTime status (some source) (campaignStatus world job) = true)
    (stored : statusOf world.db.sends (intentFor job contactId) = some source) (holdable : Holdable source) :
    Pays ids world job contactId label (campaignView job world)
      { campaignView job world with
        columns := (campaignView job world).columns.map (recordedColumns ambiguous status)
        standing := Function.update (campaignView job world).standing contactId (recordedStanding status) } := by
  have counters : ∀ sends : Nat, (∀ columns, (campaignView job world).columns = some columns →
      (if status ≠ .reconciling ∧ columns.status = .sending then 1 else 0) ≤ sends) →
      outcomesOf ((campaignView job world).columns.map (recordedColumns ambiguous status)) ≤
        outcomesOf (campaignView job world).columns + sends := by
    intro sends bounded
    cases found : (campaignView job world).columns with
    | none => exact Nat.zero_le _
    | some columns =>
      rw [Option.map_some, outcomesOf_recorded]
      exact Nat.add_le_add_left (bounded columns found) _
  by_cases sent : source = .sent
  · -- the row has been counted, and the campaign is not sending
    subst sent
    obtain ⟨result, idle, _⟩ := inTime_sent timely
    have opened : openness ((campaignView job world).standing contactId) = 0 := by
      simp [campaignView, stored, standingOf, openness]
    refine pays_uncounted (counters 0 ?_) ?_
    · intro columns found
      rw [campaignStatus_of_owns owns found] at idle
      rw [if_neg fun both => idle (congrArg some both.2)]
    · rw [opened]
      simp only [Function.update_self]
      cases status with
      | sent | failed => rfl
      | reconciling => exact absurd rfl result
  · have opened := openness_open (open_of_holdable stored holdable sent)
    cases status with
    | reconciling =>
      refine pays_uncounted (counters 0 ?_) (openness_updated opened rfl)
      simp
    | sent | failed =>
      refine pays_once (counters 1 ?_) opened (by simp [recordedStanding, openness])
      intro columns _
      split <;> decide

theorem pays_taken (owns : Owns world job) (records : recordsInTime world label = true) (contactId : ContactId)
    (taken : CampaignTaken ids world job (campaignView job world) label after) :
    Pays ids world job contactId label (campaignView job world) after := by
  cases taken with
  | unmoved | walkStarted | walkTurned | walkCounted | walkEnded | enrolled => exact pays_uncounted le_rfl rfl
  | edited columns edit => exact pays_uncounted (outcomesOf_edited edit).le rfl
  | launched columns found =>
    refine pays_uncounted (le_of_eq ?_) rfl
    rw [found]
    rfl
  | turnedAway other listed free =>
    exact pays_uncounted le_rfl (openness_updated (by simp [campaignView, free, standingOf, openness]) rfl)
  | interrupted other listed held | swept other row listed held =>
    exact pays_uncounted le_rfl (openness_updated (by simp [campaignView, held, standingOf, openness]) rfl)
  | walkExcluded other walk turned kickoff counters pageEnd reason rest standing found owner phase listed present next
      total upcoming written =>
    refine pays_uncounted le_rfl ?_
    change openness (standing contactId) = _
    rw [written]
    split
    · next free => exact openness_updated (by simp [campaignView, free, standingOf, openness]) rfl
    · rfl
  | totaled id walk present atEnd =>
    refine pays_uncounted (le_of_eq ?_) rfl
    cases (campaignView job world).columns with
    | none => rfl
    | some columns => exact outcomesOf_fannedOut _ _ columns
  | resolved other moved listed waiting placed =>
    subst placed
    by_cases same : contactId = other
    · subst same
      refine pays_once ?_ (openness_open (.inr waiting)) ?_
      · cases (campaignView job world).columns with
        | none => exact Nat.zero_le _
        | some columns =>
          refine le_of_eq ?_
          change outcomesOf (some ((columns.count .sent).completed _)) = _
          rw [outcomesOf_completed, outcomesOf_count]
      · simp [openness]
    · exact pays_untreated (treats_reconcile same) (Function.update_of_ne same _ _)
  | recorded other claim dispatchedAt duration outcome source status moved listed found recorded stored holdable placed =>
    subst placed
    by_cases same : contactId = other
    · subst same
      exact pays_recorded owns (inTime_of_recordsInTime records found recorded stored) stored holdable
    · exact pays_untreated (treats_settle found same) (Function.update_of_ne same _ _)

theorem Agrees.seen {columns : Progress} (agrees : Agrees view columns) (stored : Option Progress) :
    Agrees { view with columns := stored } columns := ⟨agrees.sent, agrees.failed⟩

theorem agrees_restood {columns : Progress} {standing : ContactId → Standing} (agrees : Agrees view columns)
    (same : ∀ contactId ∈ view.audience, ∀ result ∈ [Standing.sent, .failed],
      (standing contactId == result) = (view.standing contactId == result)) :
    Agrees { view with standing } columns where
  sent := agrees.sent.trans (census_congr fun contactId member => (same contactId member .sent (by simp)).symm)
  failed := agrees.failed.trans (census_congr fun contactId member => (same contactId member .failed (by simp)).symm)

theorem agrees_updated {columns : Progress} {moved : Standing} (agrees : Agrees view columns)
    (opened : openness (view.standing contactId) = 1) (still : openness moved = 1) :
    Agrees { view with standing := Function.update view.standing contactId moved } columns := by
  apply agrees_restood agrees
  intro other _ result listed
  by_cases same : other = contactId
  · subst same
    rw [Function.update_self]
    have unlike : ∀ standing, openness standing = 1 → (standing == result) = false := by
      intro standing one
      cases standing <;> simp [openness] at one listed ⊢ <;> rcases listed with rfl | rfl <;> decide
    rw [unlike moved still, unlike _ opened]
  · rw [Function.update_of_ne same]

theorem agrees_counted {columns : Progress} {outcome : CountedOutcome} {moved : Standing}
    (agrees : Agrees view columns) (listed : contactId ∈ view.audience)
    (opened : openness (view.standing contactId) = 1)
    (result : (outcome = .sent ∧ moved = .sent) ∨ (outcome = .failed ∧ moved = .failed)) :
    Agrees { view with standing := Function.update view.standing contactId moved } (columns.count outcome) := by
  have unsent : view.standing contactId ≠ .sent := by
    intro same
    rw [same] at opened
    cases opened
  have unfailed : view.standing contactId ≠ .failed := by
    intro same
    rw [same] at opened
    cases opened
  rcases result with ⟨rfl, rfl⟩ | ⟨rfl, rfl⟩
  · constructor
    · rw [countOf_updated listed unsent]
      exact congrArg Nat.succ agrees.sent
    · rw [countOf_other unfailed (by decide)]
      exact agrees.failed
  · constructor
    · rw [countOf_other unsent (by decide)]
      exact agrees.sent
    · rw [countOf_updated listed unfailed]
      exact congrArg Nat.succ agrees.failed

theorem exact_absent (absent : after.columns = none) : Exact after := by
  intro columns found
  rw [absent] at found
  cases found

theorem exact_completed {columns : Progress}
    (stored : after.columns = some (columns.completed ambiguous))
    (agrees : columns.status ≠ .canceled → Agrees after columns) : Exact after := by
  intro other found open_
  rw [stored] at found
  cases found
  rcases completed_cases columns ambiguous with ⟨due, same⟩ | ⟨_, same⟩
  · obtain ⟨sent, failed⟩ := agrees (by simp [due.1])
    rw [same]
    exact ⟨sent, failed⟩
  · rw [same] at open_ ⊢
    exact agrees open_

theorem exact_resolved (exact : Exact view) (listed : contactId ∈ view.audience)
    (waiting : view.standing contactId = .ambiguous) :
    Exact { view with
      columns := view.columns.map fun columns => (columns.count .sent).completed ambiguous
      standing := Function.update view.standing contactId .sent } := by
  cases found : view.columns with
  | none => exact exact_absent rfl
  | some columns =>
    refine exact_completed rfl fun open_ => ?_
    exact (agrees_counted (exact columns found open_) listed (openness_open (.inr waiting)) (.inl ⟨rfl, rfl⟩)).seen _

theorem exact_recorded {status : RecordedStatus} (owns : Owns world job)
    (exact : Exact (campaignView job world)) (listed : contactId ∈ (campaignView job world).audience)
    (timely : inTime status (some source) (campaignStatus world job) = true)
    (stored : statusOf world.db.sends (intentFor job contactId) = some source) (holdable : Holdable source) :
    Exact { campaignView job world with
      columns := (campaignView job world).columns.map (recordedColumns ambiguous status)
      standing := Function.update (campaignView job world).standing contactId (recordedStanding status) } := by
  cases found : (campaignView job world).columns with
  | none => exact exact_absent rfl
  | some columns =>
    rw [campaignStatus_of_owns owns found] at timely
    by_cases sent : source = .sent
    · -- nothing is counted, and the row stays as it is
      subst sent
      obtain ⟨result, idle, repeated⟩ := inTime_sent timely
      have uncounted : ∀ outcome, columns.counted outcome = columns := by
        intro outcome
        exact if_neg fun sending => idle (congrArg some sending)
      have again : columns.status ≠ .canceled → Agrees { campaignView job world with
          standing := Function.update (campaignView job world).standing contactId (recordedStanding status) } columns := by
        intro open_
        obtain rfl := repeated fun same => open_ (Option.some.inj same)
        have same : (campaignView job world).standing contactId = recordedStanding .sent := by
          simp [campaignView, stored, standingOf, recordedStanding]
        rw [← same, Function.update_eq_self]
        exact exact columns found open_
      cases status with
      | reconciling => exact absurd rfl result
      | sent => exact exact_completed rfl fun open_ => (uncounted .sent).symm ▸ (again (uncounted .sent ▸ open_)).seen _
      | failed =>
        exact exact_completed rfl fun open_ => (uncounted .failed).symm ▸ (again (uncounted .failed ▸ open_)).seen _
    · have opened := openness_open (open_of_holdable stored holdable sent)
      have sending : status ≠ .reconciling → columns.status ≠ .canceled → columns.status = .sending := by
        intro result open_
        rcases inTime_open timely sent with late | sending | canceled
        · exact absurd late result
        · exact Option.some.inj sending
        · exact absurd (Option.some.inj canceled) open_
      cases status with
      | reconciling =>
        intro other same open_
        cases same
        exact (agrees_updated (exact columns found open_) opened rfl).seen _
      | sent =>
        refine exact_completed rfl fun open_ => ?_
        rw [status_counted] at open_
        rw [Progress.counted, if_pos (sending (by decide) open_)]
        exact (agrees_counted (exact columns found open_) listed opened (.inl ⟨rfl, rfl⟩)).seen _
      | failed =>
        refine exact_completed rfl fun open_ => ?_
        rw [status_counted] at open_
        rw [Progress.counted, if_pos (sending (by decide) open_)]
        exact (agrees_counted (exact columns found open_) listed opened (.inr ⟨rfl, rfl⟩)).seen _

theorem sentCount_fannedOut (ambiguous total : Nat) (columns : Progress) :
    (columns.fannedOut ambiguous total).sentCount = columns.sentCount ∧
      (columns.fannedOut ambiguous total).failedCount = columns.failedCount ∧
      (columns.status = .canceled → (columns.fannedOut ambiguous total).status = .canceled) := by
  unfold Progress.fannedOut
  split
  · split
    · next sending => exact ⟨rfl, rfl, fun canceled => by simp [sending] at canceled⟩
    · exact ⟨rfl, rfl, id⟩
  · rcases completed_cases (columns.withTotal total) ambiguous with ⟨due, same⟩ | ⟨_, same⟩
    · rw [same]
      refine ⟨rfl, rfl, fun canceled => ?_⟩
      cases canceled.symm.trans due.1
    · rw [same]
      exact ⟨rfl, rfl, id⟩

theorem exact_taken (audience : AudienceSound world) (owns : Owns world job) (records : recordsInTime world label = true)
    (exact : Exact (campaignView job world))
    (taken : CampaignTaken ids world job (campaignView job world) label after) : Exact after := by
  cases taken with
  | unmoved => exact exact
  | walkStarted | walkTurned | walkCounted | walkEnded =>
    exact fun columns found open_ => ⟨(exact columns found open_).sent, (exact columns found open_).failed⟩
  | edited columns edit =>
    generalize stored : (campaignView job world).columns = before at edit
    intro other found open_
    cases edit with
    | kept => exact (exact other (stored.trans found) open_).seen _
    | created workspaceId known =>
      cases found
      have nobody : (campaignView job world).audience = ∅ := by
        apply Finset.eq_empty_of_forall_notMem
        intro contactId member
        obtain ⟨columns, present, _⟩ := audience.enrolled _ _ _ (mem_audienceOf.mp member)
        rw [show progressOf world.db.campaigns job.campaignId = none from stored] at present
        cases present
      exact ⟨by simp [CampaignView.countOf, CampaignView.count, census, nobody, Progress.fresh],
        by simp [CampaignView.countOf, CampaignView.count, census, nobody, Progress.fresh]⟩
    | unstarted columns status unstarted =>
      cases found
      have agrees := exact columns stored fun canceled => unstarted (by simp [Progress.Started, canceled])
      exact ⟨agrees.sent, agrees.failed⟩
    | canceled =>
      cases found
      exact absurd rfl open_
  | launched columns found unstarted =>
    rintro _ ⟨⟩ _
    have agrees := exact columns found fun canceled => unstarted (by simp [Progress.Started, canceled])
    exact ⟨agrees.sent, agrees.failed⟩
  | turnedAway other listed free =>
    intro columns found open_
    exact agrees_updated (exact columns found open_) (by simp [campaignView, free, standingOf, openness]) rfl
  | interrupted other listed held | swept other row listed held =>
    intro columns found open_
    exact agrees_updated (exact columns found open_) (by simp [campaignView, held, standingOf, openness]) rfl
  | recorded other claim dispatchedAt duration outcome source status moved listed found recorded stored holdable placed =>
    subst placed
    exact exact_recorded owns exact listed (inTime_of_recordsInTime records found recorded stored) stored holdable
  | resolved other moved listed waiting placed =>
    subst placed
    exact exact_resolved exact listed waiting
  | enrolled kickoff cursor found owner phase =>
    intro columns stored open_
    have agrees := exact columns stored open_
    have unrecorded : ∀ contactId, contactId ∉ (campaignView job world).audience →
        (campaignView job world).standing contactId = .undecided := by
      intro contactId absent
      by_contra decided
      exact absent (mem_audienceOf.mpr (listed_of_decided audience decided))
    exact ⟨agrees.sent.trans (countOf_joined unrecorded (by decide)).symm,
      agrees.failed.trans (countOf_joined unrecorded (by decide)).symm⟩
  | walkExcluded other walk turned kickoff counters pageEnd reason rest standing found owner phase listed present next
      total upcoming written =>
    intro columns found open_
    have agrees := exact columns found open_
    rw [written]
    split
    · next free =>
      have opened : openness ((campaignView job world).standing other) = 1 := by
        simp [campaignView, free, standingOf, openness]
      exact ⟨(agrees_updated agrees opened rfl).sent, (agrees_updated agrees opened rfl).failed⟩
    · exact ⟨agrees.sent, agrees.failed⟩
  | totaled id walk present atEnd =>
    cases stored : (campaignView job world).columns with
    | none => exact exact_absent rfl
    | some columns =>
      intro other found open_
      cases found
      have unmoved := sentCount_fannedOut ((campaignView job world).countOf .ambiguous) walk.sendableTotal columns
      have agrees := exact columns stored fun canceled => open_ (unmoved.2.2 canceled)
      exact ⟨unmoved.1.trans agrees.sent, unmoved.2.1.trans agrees.failed⟩

end Views

section Runs

variable {platform : Platform} {world next : World} {label : Label}

/-- The conditional invariant: the counters of every campaign that was not canceled are exact. -/
structure CountersExact (ids : SendIdScheme) (world : World) : Prop extends WorldSound ids world where
  exact : ∀ job, Owns world job → Exact (campaignView job world)

theorem countersExact_step (sound : CountersExact platform.sendIds world) (records : RecordsInTime world label next)
    (taken : step platform world label = some next) : CountersExact platform.sendIds next where
  toWorldSound := worldSound_step sound.toWorldSound taken
  exact job owned := by
    obtain ⟨owns, moved⟩ := sound.toWorldSound.moved taken owned
    exact exact_taken sound.audience owns records (sound.exact job owns) moved

theorem countersExact_initial (ids : SendIdScheme) (now : Timestamp) : CountersExact ids (initialWorld now) where
  toWorldSound := worldSound_initial ids now
  exact _ _ := exact_absent rfl

/-- What is still to be counted for a recipient. -/
def uncounted (job : KickoffJob) (contactId : ContactId) (world : World) : Nat :=
  openness ((campaignView job world).standing contactId)

theorem contribution_paid (sound : CountersExact platform.sendIds world) (records : RecordsInTime world label next)
    (taken : step platform world label = some next) (job : KickoffJob) (contactId : ContactId) :
    contribution platform.sendIds job contactId world label next + uncounted job contactId next ≤
      uncounted job contactId world := by
  by_cases owned : Owns next job
  · obtain ⟨owns, moved⟩ := sound.toWorldSound.moved taken owned
    have pays := pays_taken owns records contactId moved
    rw [contribution, countedOutcomes_of_owns owned, countedOutcomes_of_owns owns]
    exact pays
  · -- the campaign is another workspace's, so the recipient has no row
    have nothing : contribution platform.sendIds job contactId world label next = 0 := by
      rw [contribution, countedOutcomes_of_foreign owned, Nat.zero_sub, ite_self]
    have undecided : (campaignView job world).standing contactId = .undecided := by
      by_contra decided
      apply owned
      obtain ⟨columns, found, owner, _⟩ :=
        hasStarted_step taken (sound.audience.enrolled _ _ _ (listed_of_decided sound.audience decided))
      intro other same
      cases found.symm.trans same
      exact owner
    rw [nothing, uncounted, uncounted, undecided, Nat.zero_add]
    exact openness_le_one _

/-- No send is counted twice, and the counters of a campaign that was not canceled are the numbers of its rows. -/
theorem counters_count_once {platform : Platform} {start : Timestamp} {trace : List Label}
    (records : Along (step platform) RecordsInTime (initialWorld start) trace) :
    (∀ job contactId, totalAlong (step platform) (contribution platform.sendIds job contactId) (initialWorld start) trace ≤ 1) ∧
      ∀ world, run (step platform) (initialWorld start) trace = some world →
        ∀ campaign ∈ world.db.campaigns.rows, campaign.status ≠ .canceled →
          campaign.sentCount = sendCount world.db.sends campaign.id .sent ∧
            campaign.failedCount = sendCount world.db.sends campaign.id .failed := by
  have start_exact := countersExact_initial platform.sendIds start
  have preserved : ∀ world label next, CountersExact platform.sendIds world → RecordsInTime world label next →
      step platform world label = some next → CountersExact platform.sendIds next :=
    fun _ _ _ sound recording taken => countersExact_step sound recording taken
  constructor
  · intro job contactId
    have spent := totalAlong_le preserved (fun _ _ _ sound recording taken =>
      contribution_paid sound recording taken job contactId) start_exact records
    exact spent.trans (openness_le_one _)
  · intro world ran campaign member open_
    have sound := invariant_of_run preserved start_exact records ran
    let job : KickoffJob := { workspaceId := campaign.workspaceId, campaignId := campaign.id }
    obtain ⟨owns, stored⟩ := view_of_mem member
    have agrees := sound.exact job owns (progress campaign) stored open_
    have rows : ∀ status standing, standing ≠ Standing.undecided →
        (∀ other : SendStatus, (other == status) = (standingOf (some other) == standing)) →
        sendCount world.db.sends campaign.id status = (campaignView job world).countOf standing :=
      fun status standing decided agree => rowCount_eq sound.audience owns agree decided
    rw [rows .sent .sent (by decide) (by intro other; cases other <;> rfl),
      rows .failed .failed (by decide) (by intro other; cases other <;> rfl)]
    exact ⟨agrees.sent, agrees.failed⟩

end Runs

def settledCampaign : List Label :=
  launchedCampaign ++ kickoffSteps 0 20 ++ claimAndCall 0 1 ++ answerAndSettle 0 (.response 202 none) ++
    claimAndCall 1 2 ++ answerAndSettle 1 (.response 400 none)

set_option maxRecDepth 10000 in
theorem counters_count_once_settled :
    totalAlong (step pairedPlatform) (contribution pairedSendIds { workspaceId := 0, campaignId := 0 } 1)
        (initialWorld 0) settledCampaign = 1 ∧
      ∃ world, run (step pairedPlatform) (initialWorld 0) settledCampaign = some world ∧
        ∀ campaign ∈ world.db.campaigns.rows, campaign.sentCount = sendCount world.db.sends campaign.id .sent ∧
          campaign.failedCount = sendCount world.db.sends campaign.id .failed := by
  have checked : checkAlong (step pairedPlatform) recordsInTime (initialWorld 0) settledCampaign = true := by decide
  obtain ⟨once, exact⟩ := counters_count_once (along_of_check checked)
  have evaluated : (run (step pairedPlatform) (initialWorld 0) settledCampaign).any (fun world =>
      world.db.campaigns.rows.all (·.status == .sent)) = true := by decide
  obtain ⟨world, ran, completed⟩ := Option.any_eq_true _ _ |>.mp evaluated
  refine ⟨le_antisymm (once _ 1) (by decide), world, ran, fun campaign member => exact world ran campaign member ?_⟩
  have sent := List.all_eq_true.mp completed campaign member
  rw [beq_iff_eq.mp sent]
  decide

/-- The reconciler counts a row that is reported delivered, and then the first execution records its answer. -/
def countedTwice : List Label :=
  launchedCampaign ++ kickoffSteps 0 20 ++ claimAndCall 0 1 ++ [.delivery (.deliver 1 (.campaign 0 0 1))] ++
    [.webhookBatch 0 [.object
      [("sg_event_id", .string "e"), ("event", .string "delivered"), ("timestamp", .number 0),
       ("send_id", .string "aa")]],
     .reconcile 2] ++ answerAndSettle 0 (.response 202 none)

set_option maxRecDepth 10000 in
theorem counters_count_twice :
    ¬ ∀ (platform : Platform) (start : Timestamp) (trace : List Label) (job : KickoffJob) (contactId : ContactId),
      totalAlong (step platform) (contribution platform.sendIds job contactId) (initialWorld start) trace ≤ 1 := by
  intro once
  have twice : totalAlong (step pairedPlatform) (contribution pairedSendIds { workspaceId := 0, campaignId := 0 } 1)
      (initialWorld 0) countedTwice = 2 := by decide +kernel
  have bound := once pairedPlatform 0 countedTwice { workspaceId := 0, campaignId := 0 } 1
  rw [show pairedPlatform.sendIds = pairedSendIds from rfl, twice] at bound
  omega

end LocalCrm.System
