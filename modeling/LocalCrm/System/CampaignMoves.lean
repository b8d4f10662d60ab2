import LocalCrm.System.CampaignView

/-! Every step of the system is a move of every campaign's view. -/

set_option autoImplicit false

namespace LocalCrm.System

open Library Delivery Campaigns Webhooks Analytics

section Views

variable {world next : World} {job : KickoffJob} {contactId : ContactId}

theorem mem_audienceOf {recipients : Table Recipient.key} :
    contactId ∈ audienceOf recipients job ↔ Listed recipients job.workspaceId job.campaignId contactId := by
  simp only [audienceOf, List.mem_toFinset, List.mem_map, List.mem_filter, Bool.and_eq_true, beq_iff_eq]
  constructor
  · rintro ⟨recipient, ⟨stored, campaign, owner⟩, rfl⟩
    refine ⟨recipient, ?_, owner⟩
    have found := Table.find?_of_mem stored
    rw [Recipient.key, campaign] at found
    exact found
  · rintro ⟨recipient, found, owner⟩
    have keyed : recipient.key = (job.campaignId, contactId) := Table.key_of_find? found
    simp only [Recipient.key, Prod.mk.injEq] at keyed
    exact ⟨recipient, ⟨Table.mem_of_find? found, keyed.1, owner⟩, keyed.2⟩

theorem intentFor_injective (job : KickoffJob) : Function.Injective (intentFor job) := by
  intro left right same
  cases same
  rfl

theorem standingOf_ambiguous {status : Option SendStatus} :
    standingOf status = .ambiguous ↔ status = some .reconciling ∨ status = some .unknown := by
  cases status with
  | none => simp [standingOf]
  | some value => cases value <;> simp [standingOf]

theorem standing_recorded (status : RecordedStatus) :
    standingOf (some status.toSendStatus) = recordedStanding status := by
  cases status <;> rfl

theorem owns_of_next {platform : Platform} {label : Label} (taken : step platform world label = some next)
    (owns : Owns next job) : Owns world job := by
  intro columns found
  obtain ⟨after, stored, kept, _⟩ := (lasts_step taken job.campaignId).stays columns found
  rw [← kept]
  exact owns after stored

theorem job_of_started (owns : Owns world job) {other : KickoffJob} (started : HasStarted world other)
    (same : other.campaignId = job.campaignId) : other = job := by
  obtain ⟨columns, found, owner, _⟩ := started
  rw [same] at found
  cases job
  cases other
  cases same
  cases owner.symm.trans (owns columns found)
  rfl

theorem rowCount_eq (audience : AudienceSound world) (owns : Owns world job) {counted : SendStatus → Bool}
    {standing : Standing} (agree : ∀ status, counted status = (standingOf (some status) == standing))
    (decided : standing ≠ .undecided) :
    world.db.sends.count (fun row => row.intent.campaignId == some job.campaignId && counted row.status) =
      (campaignView job world).countOf standing := by
  let chosen : Send → Bool := fun row => row.intent.campaignId == some job.campaignId && counted row.status
  have rows : (world.db.sends.keysWhere chosen).toFinset =
      ((audienceOf world.db.campaignRecipients job).filter fun contactId =>
        standingOf (statusOf world.db.sends (intentFor job contactId)) == standing).image (intentFor job) := by
    ext intent
    simp only [List.mem_toFinset, Table.mem_keysWhere, Finset.mem_image, Finset.mem_filter, beq_iff_eq,
      mem_audienceOf, Option.any_eq_true]
    constructor
    · rintro ⟨row, found, positive⟩
      have keyed : row.intent = intent := Table.key_of_find? found
      simp only [chosen, keyed, agree, Bool.and_eq_true, beq_iff_eq] at positive
      cases intent with
      | flow => cases positive.1
      | campaign workspaceId campaignId contactId =>
        cases positive.1
        have status : statusOf world.db.sends (.campaign workspaceId job.campaignId contactId) = some row.status := by
          rw [statusOf, found, Option.map_some]
        have listed := audience.rows workspaceId job.campaignId contactId (by simp [status])
        obtain rfl : workspaceId = job.workspaceId :=
          congrArg KickoffJob.workspaceId (job_of_started owns (audience.enrolled _ _ _ listed) rfl)
        refine ⟨contactId, ⟨listed, ?_⟩, rfl⟩
        rw [intentFor, status]
        exact positive.2
    · rintro ⟨contactId, ⟨listed, standing⟩, rfl⟩
      cases status : statusOf world.db.sends (intentFor job contactId) with
      | none =>
        rw [status] at standing
        exact absurd standing.symm decided
      | some value =>
        obtain ⟨row, found, stored⟩ := Option.map_eq_some_iff.mp status
        have keyed : row.intent = intentFor job contactId := Table.key_of_find? found
        refine ⟨row, found, ?_⟩
        rw [status] at standing
        simp [chosen, keyed, intentFor, SendIntent.campaignId, agree, stored, standing]
  calc world.db.sends.count chosen
      = (world.db.sends.keysWhere chosen).length := Table.length_keysWhere.symm
    _ = (world.db.sends.keysWhere chosen).toFinset.card :=
      (List.toFinset_card_of_nodup (Table.nodup_keysWhere _ _)).symm
    _ = (campaignView job world).countOf standing := by
      rw [rows, Finset.card_image_of_injective _ (intentFor_injective job)]
      rfl

theorem ambiguousCount_eq (audience : AudienceSound world) (owns : Owns world job) :
    ambiguousCount world.db.sends job.campaignId = (campaignView job world).countOf .ambiguous := by
  have agree : ∀ status : SendStatus,
      (status == .reconciling || status == .unknown) = (standingOf (some status) == .ambiguous) := by
    intro status
    cases status <;> rfl
  exact rowCount_eq audience owns agree (by decide)

theorem standing_moved {status : Option SendStatus} (changed : statusOf next.db.sends (intentFor job contactId) = status)
    (others : ∀ other, other ≠ intentFor job contactId →
      statusOf next.db.sends other = statusOf world.db.sends other) :
    (campaignView job next).standing =
      Function.update (campaignView job world).standing contactId (standingOf status) := by
  funext other
  by_cases same : other = contactId
  · subst same
    rw [Function.update_self]
    exact congrArg standingOf changed
  · rw [Function.update_of_ne same]
    exact congrArg standingOf (others _ fun equal => same (intentFor_injective job equal))

theorem standing_kept (same : ∀ contactId, standingOf (statusOf next.db.sends (intentFor job contactId)) =
    standingOf (statusOf world.db.sends (intentFor job contactId))) :
    (campaignView job next).standing = (campaignView job world).standing := funext same

theorem standing_unmoved {intent : SendIntent} {before after : Option SendStatus}
    (stored : statusOf world.db.sends intent = before) (changed : statusOf next.db.sends intent = after)
    (others : ∀ other, other ≠ intent → statusOf next.db.sends other = statusOf world.db.sends other)
    (foreign : (∀ contactId, intentFor job contactId ≠ intent) ∨ standingOf after = standingOf before) :
    (campaignView job next).standing = (campaignView job world).standing := by
  apply standing_kept
  intro contactId
  by_cases same : intentFor job contactId = intent
  · rcases foreign with differs | level
    · exact absurd same (differs contactId)
    · rw [same, stored, changed, level]
  · rw [others _ same]

theorem campaignView_congr (columns : progressOf next.db.campaigns job.campaignId = progressOf world.db.campaigns job.campaignId)
    (recipients : next.db.campaignRecipients = world.db.campaignRecipients) (kickoffs : next.kickoffs = world.kickoffs)
    (standing : (campaignView job next).standing = (campaignView job world).standing) :
    campaignView job next = campaignView job world := by
  apply CampaignView.ext columns _ standing
  · simp only [campaignView, kickoffs]
  · simp only [campaignView, recipients]

theorem audience_kept (recipients : next.db.campaignRecipients = world.db.campaignRecipients) :
    (campaignView job next).audience = (campaignView job world).audience := by
  simp only [campaignView, recipients]

theorem ambiguousCount_moved {after : CampaignView} (later : AudienceSound next) (owned : Owns next job)
    (recipients : next.db.campaignRecipients = world.db.campaignRecipients)
    (audience : after.audience = (campaignView job world).audience)
    (standing : (campaignView job next).standing = after.standing) :
    ambiguousCount next.db.sends job.campaignId = after.countOf .ambiguous := by
  rw [ambiguousCount_eq later owned, CampaignView.countOf, CampaignView.countOf, CampaignView.count,
    CampaignView.count, standing, audience_kept recipients, audience]

theorem walk_put (job : KickoffJob) {id : Nat} {kickoff : Kickoff} (keyed : kickoff.id = id)
    (kickoffs : next.kickoffs = world.kickoffs.put kickoff) :
    (campaignView job next).walk = Function.update (campaignView job world).walk id (walkOf job kickoff) := by
  subst keyed
  simp only [campaignView, kickoffs, Table.bind_find?_put]

theorem walk_erase {id : Nat} (kickoffs : next.kickoffs = world.kickoffs.erase id) :
    (campaignView job next).walk = Function.update (campaignView job world).walk id none := by
  simp only [campaignView, kickoffs, Table.bind_find?_erase]

end Views

section Steps

variable {platform : Platform} {ids : SendIdScheme} {world next : World} {label : Label} {job : KickoffJob}

theorem campaignView_still (columns : progressOf next.db.campaigns job.campaignId = progressOf world.db.campaigns job.campaignId)
    (recipients : next.db.campaignRecipients = world.db.campaignRecipients) (kickoffs : next.kickoffs = world.kickoffs)
    {standing : ContactId → Standing} (moved : (campaignView job next).standing = standing) :
    campaignView job next = { campaignView job world with standing } := by
  apply CampaignView.ext columns _ moved
  · simp only [campaignView, kickoffs]
  · simp only [campaignView, recipients]

theorem campaignTaken_same {view : CampaignView} (same : campaignView job next = view)
    (taken : CampaignTaken ids world job (campaignView job world) label view) :
    CampaignTaken ids world job (campaignView job world) label (campaignView job next) := by
  rw [same]
  exact taken

theorem sendJob_of_intent {sendJob : SendJob} {contactId : ContactId} (same : intentFor job contactId = sendJob.intent) :
    sendJob = sendJobFor job contactId := by
  cases sendJob with
  | campaign =>
    cases same
    rfl
  | flow => cases same

theorem listed_of_row (audience : AudienceSound world) {contactId : ContactId} {status : SendStatus}
    (stored : statusOf world.db.sends (intentFor job contactId) = some status) :
    contactId ∈ (campaignView job world).audience :=
  mem_audienceOf.mpr (audience.rows _ _ _ (by simpa [intentFor] using ne_of_eq_of_ne stored (Option.some_ne_none _)))

theorem campaignTaken_claims {event : DeliveryEvent} (audience : AudienceSound world)
    (ledger : LedgerTaken ids world (.delivery event) next)
    (unrecorded : ∀ id sendJob claim dispatchedAt duration outcome, event = .settle id →
      world.deliveries.find? id = some { id, job := sendJob, phase := .answered claim dispatchedAt duration outcome } →
        recordedStatus outcome = none)
    (columns : progressOf next.db.campaigns job.campaignId = progressOf world.db.campaigns job.campaignId)
    (recipients : next.db.campaignRecipients = world.db.campaignRecipients) (kickoffs : next.kickoffs = world.kickoffs) :
    CampaignTaken ids world job (campaignView job world) (.delivery event) (campaignView job next) := by
  have still : (campaignView job next).standing = (campaignView job world).standing →
      CampaignTaken ids world job (campaignView job world) (.delivery event) (campaignView job next) :=
    fun standing => campaignTaken_same (campaignView_congr columns recipients kickoffs standing) .unmoved
  cases ledger with
  | kept same => exact still (standing_kept fun contactId => by rw [same])
  | moved intent before after stored changed others moves =>
    by_cases foreign : ∀ contactId, intentFor job contactId ≠ intent
    · exact still (standing_unmoved stored changed others (.inl foreign))
    · obtain ⟨contactId, same⟩ := not_forall_not.mp foreign
      cases moves with
      | claimed | denied | released => exact still (standing_unmoved stored changed others (.inr rfl))
      | @excluded id sendJob reason db pending refused =>
        rw [← same] at stored changed others
        have named := sendJob_of_intent same
        subst named
        exact campaignTaken_same (campaignView_still columns recipients kickoffs (standing_moved changed others))
          (.turnedAway contactId (mem_audienceOf.mpr (audience.pending _ pending)) stored refused)
      | @interrupted id sendJob sendId db pending doubted =>
        rw [← same] at stored changed others
        have named := sendJob_of_intent same
        subst named
        exact campaignTaken_same (campaignView_still columns recipients kickoffs (standing_moved changed others))
          (.interrupted contactId (mem_audienceOf.mpr (audience.pending _ pending)) stored doubted)
      | recorded source found recorded =>
        rw [unrecorded _ _ _ _ _ _ rfl found] at recorded
        cases recorded

theorem campaignTaken_settled {id : Nat} {sendJob : SendJob} {claim : ClaimedSend} {dispatchedAt : Timestamp}
    {duration : Int} {outcome : CallOutcome} {status : RecordedStatus} (audience : AudienceSound world)
    (later : AudienceSound next) (held : RowsHeld world) (sound : ClaimsSound ids world) (owns : Owns world job)
    (owned : Owns next job)
    (found : world.deliveries.find? id =
      some { id, job := sendJob, phase := .answered claim dispatchedAt duration outcome })
    (recorded : recordedStatus outcome = some status) (kickoffs : next.kickoffs = world.kickoffs)
    (committed : next.db = (settleOutcome ids world.now world.db sendJob claim.sendId dispatchedAt duration outcome).2) :
    CampaignTaken ids world job (campaignView job world) (.delivery (.settle id)) (campaignView job next) := by
  have derived : claim.sendId = ids.derive sendJob.intent := sound _ _ found
  rw [settleOutcome_recorded recorded, derived] at committed
  have recipients : next.db.campaignRecipients = world.db.campaignRecipients := by rw [committed]
  have written : ∀ other, statusOf next.db.sends other =
      if other = sendJob.intent then (statusOf world.db.sends other).map fun _ => status.toSendStatus
      else statusOf world.db.sends other := by
    intro other
    rw [committed]
    exact statusOf_recordSendResult
  have columns : progressOf next.db.campaigns job.campaignId =
      progressOf (settledCampaigns world.now next.db.sends world.db.campaigns sendJob status) job.campaignId := by
    rw [committed]
  rw [progressOf_settled] at columns
  by_cases ours : ∃ contactId, intentFor job contactId = sendJob.intent
  · obtain ⟨contactId, same⟩ := ours
    have named := sendJob_of_intent same
    subst named
    obtain ⟨source, stored, holdable⟩ := held.present id _ found trivial
    have changed : statusOf next.db.sends (intentFor job contactId) = some status.toSendStatus := by
      rw [written, if_pos same, same, stored, Option.map_some]
    have others : ∀ other, other ≠ intentFor job contactId →
        statusOf next.db.sends other = statusOf world.db.sends other := by
      intro other differs
      rw [written, if_neg (same ▸ differs)]
    have standing := standing_moved changed others
    rw [standing_recorded] at standing
    let after : CampaignView := { campaignView job world with
      standing := Function.update (campaignView job world).standing contactId (recordedStanding status) }
    have counted : ambiguousCount next.db.sends job.campaignId = after.countOf .ambiguous :=
      ambiguousCount_moved later owned recipients rfl standing
    have moved : campaignView job next =
        { after with columns := (campaignView job world).columns.map (recordedColumns (after.countOf .ambiguous) status) } := by
      apply CampaignView.ext
      · rw [← counted]
        change progressOf next.db.campaigns job.campaignId = _
        rw [columns]
        cases status with
        | reconciling => exact Option.map_id'.symm
        | sent | failed => exact if_pos rfl
      · exact audience_kept recipients
      · exact standing
      · simp only [campaignView, kickoffs, after]
    rw [moved]
    exact .recorded contactId claim dispatchedAt duration outcome source status after
      (listed_of_row audience (same ▸ stored)) found recorded (same ▸ stored) holdable rfl
  · have foreign : ∀ contactId, intentFor job contactId ≠ sendJob.intent := fun contactId same => ours ⟨contactId, same⟩
    refine campaignTaken_same (campaignView_congr ?_ recipients kickoffs (standing_kept fun contactId => ?_)) .unmoved
    · rw [columns]
      cases sendJob with
      | flow => cases status <;> rfl
      | campaign workspaceId campaignId contactId =>
        have differs : job.campaignId ≠ campaignId := by
          rintro rfl
          have started := audience.enrolled _ _ _ (audience.delivering id _ found)
          have same := job_of_started owns started rfl
          exact foreign contactId (by rw [← same]; rfl)
        cases status <;> simp [movedCounter, differs]
    · rw [written, if_neg (foreign contactId)]

theorem campaignTaken_resolution {sendId : SendId} {db : Database} (audience : AudienceSound world)
    (later : AudienceSound next) (owns : Owns world job) (owned : Owns next job)
    (commits : ResolutionCommits ids world.now world.db sendId db) (committed : next.db = db)
    (kickoffs : next.kickoffs = world.kickoffs) :
    CampaignTaken ids world job (campaignView job world) (.reconcile sendId) (campaignView job next) := by
  cases commits with
  | held => exact campaignTaken_same (campaignView_congr (by rw [committed]) (by rw [committed]) kickoffs
      (standing_kept fun contactId => by rw [committed])) .unmoved
  | unresolved intent derived status =>
    refine campaignTaken_same (campaignView_congr (by rw [committed]) (by rw [committed]) kickoffs
      (standing_kept fun contactId => ?_)) .unmoved
    rw [committed, statusOf_resolveReconcilingSend]
    split
    · next written =>
      rw [written.1, status]
      rfl
    · rfl
  | swept intent derived status stale =>
    subst derived
    obtain ⟨row, present, owner, verdict⟩ := stale
    have written : ∀ other, statusOf next.db.sends other =
        if other = intent ∧ statusOf world.db.sends other = some .dispatching then some .reconciling
        else statusOf world.db.sends other := by
      intro other
      rw [committed]
      exact statusOf_sweepStaleDispatchingSend
    have others : ∀ other, other ≠ intent → statusOf next.db.sends other = statusOf world.db.sends other :=
      fun other differs => by rw [written, if_neg fun both => differs both.1]
    by_cases ours : ∃ contactId, intentFor job contactId = intent
    · obtain ⟨contactId, rfl⟩ := ours
      have changed : statusOf next.db.sends (intentFor job contactId) = some .reconciling := by
        rw [written, if_pos ⟨rfl, status⟩]
      exact campaignTaken_same
        (campaignView_still (by rw [committed]) (by rw [committed]) kickoffs (standing_moved changed others))
        (.swept contactId row (listed_of_row audience status) status present owner verdict)
    · exact campaignTaken_same (campaignView_congr (by rw [committed]) (by rw [committed]) kickoffs
        (standing_unmoved status rfl others (.inl fun contactId same => ours ⟨contactId, same⟩))) .unmoved
  | resolved intent derived status =>
    subst derived
    have recipients : next.db.campaignRecipients = world.db.campaignRecipients := by rw [committed]
    have written : ∀ other, statusOf next.db.sends other =
        if other = intent ∧ (statusOf world.db.sends other = some .reconciling ∨
          statusOf world.db.sends other = some .unknown) then some .sent
        else statusOf world.db.sends other := by
      intro other
      rw [committed]
      exact statusOf_resolveReconcilingSend
    have others : ∀ other, other ≠ intent → statusOf next.db.sends other = statusOf world.db.sends other :=
      fun other differs => by rw [written, if_neg fun both => differs both.1]
    have columns : progressOf next.db.campaigns job.campaignId =
        progressOf (resolvedCampaigns world.now next.db.sends world.db.campaigns intent) job.campaignId := by
      rw [committed]
      rfl
    rw [progressOf_resolved] at columns
    by_cases ours : ∃ contactId, intentFor job contactId = intent
    · obtain ⟨contactId, rfl⟩ := ours
      have changed : statusOf next.db.sends (intentFor job contactId) = some .sent := by
        rw [written, if_pos ⟨rfl, status⟩]
      have standing := standing_moved changed others
      let after : CampaignView := { campaignView job world with
        standing := Function.update (campaignView job world).standing contactId .sent }
      have counted : ambiguousCount next.db.sends job.campaignId = after.countOf .ambiguous :=
        ambiguousCount_moved later owned recipients rfl standing
      have moved : campaignView job next =
          { after with
            columns := (campaignView job world).columns.map
              fun columns => (columns.count .sent).completed (after.countOf .ambiguous) } := by
        apply CampaignView.ext
        · rw [← counted]
          exact columns.trans (if_pos rfl)
        · exact audience_kept recipients
        · exact standing
        · simp only [campaignView, kickoffs, after]
      have listed : contactId ∈ (campaignView job world).audience := by
        rcases status with waiting | waiting
        · exact listed_of_row audience waiting
        · exact listed_of_row audience waiting
      rw [moved]
      exact .resolved contactId after listed (standingOf_ambiguous.mpr status) rfl
    · have foreign : ∀ contactId, intentFor job contactId ≠ intent := fun contactId same => ours ⟨contactId, same⟩
      refine campaignTaken_same (campaignView_congr ?_ recipients kickoffs (standing_kept fun contactId => ?_)) .unmoved
      · rw [columns, if_neg]
        intro owner
        cases intent with
        | flow => cases owner
        | campaign workspaceId campaignId contactId =>
          have same : campaignId = job.campaignId := Option.some.inj owner
          have present : statusOf world.db.sends (.campaign workspaceId campaignId contactId) ≠ none := by
            rcases status with waiting | waiting <;> simp [waiting]
          have started := audience.enrolled _ _ _ (audience.rows _ _ _ present)
          exact foreign contactId (by rw [← job_of_started owns started same]; rfl)
      · rw [others _ (foreign contactId)]

end Steps

section Walks

variable {ids : SendIdScheme} {world next : World} {label : Label} {job : KickoffJob} {id : Nat}
  {matching : List ContactId} {kickoff : Kickoff} {phase : KickoffPhase}

theorem campaignTaken_of {after : CampaignView}
    (taken : CampaignTaken ids world job (campaignView job world) label after)
    (columns : progressOf next.db.campaigns job.campaignId = after.columns)
    (audience : (campaignView job next).audience = after.audience)
    (standing : (campaignView job next).standing = after.standing)
    (walk : (campaignView job next).walk = after.walk) :
    CampaignTaken ids world job (campaignView job world) label (campaignView job next) :=
  campaignTaken_same (CampaignView.ext columns audience standing walk) taken

theorem walk_advanced (owner : kickoff.job = job) (found : world.kickoffs.find? id = some kickoff)
    (kickoffs : next.kickoffs = world.kickoffs.put { kickoff with phase }) :
    (campaignView job next).walk = Function.update (campaignView job world).walk id (walkView phase) := by
  have keyed : kickoff.id = id := Table.key_of_find? found
  have moved : ({ kickoff with phase } : Kickoff).id = id := keyed
  rw [walk_put job moved kickoffs, walkOf, if_pos owner]

theorem campaignView_walked (job : KickoffJob) (keyed : kickoff.id = id)
    (columns : progressOf next.db.campaigns job.campaignId = progressOf world.db.campaigns job.campaignId)
    (recipients : next.db.campaignRecipients = world.db.campaignRecipients)
    (standing : (campaignView job next).standing = (campaignView job world).standing)
    (kickoffs : next.kickoffs = world.kickoffs.put { kickoff with phase }) :
    campaignView job next =
      { campaignView job world with
        walk := Function.update (campaignView job world).walk id (walkOf job { kickoff with phase }) } := by
  have moved : ({ kickoff with phase } : Kickoff).id = id := keyed
  exact CampaignView.ext columns (audience_kept recipients) standing (walk_put job moved kickoffs)

theorem walk_found (owner : kickoff.job = job) (found : world.kickoffs.find? id = some kickoff) :
    (campaignView job world).walk id = walkView kickoff.phase := by
  simp only [campaignView, found, Option.bind_some, walkOf, if_pos owner]

theorem campaignTaken_read (keyed : kickoff.id = id) (owner : kickoff.job = job)
    (present : (campaignView job world).walk id = walkView kickoff.phase) (db : next.db = world.db)
    (kickoffs : next.kickoffs = world.kickoffs.put { kickoff with phase })
    (seen : walkView phase = none ∨ ∃ walk turned, walkView kickoff.phase = some walk ∧ walkView phase = some turned ∧
      turned.sendableTotal = walk.sendableTotal ∧
      ∀ contactId ∈ (campaignView job world).audience, turned.upcoming contactId = walk.upcoming contactId) :
    CampaignTaken ids world job (campaignView job world) label (campaignView job next) := by
  have view := campaignView_walked job keyed (by rw [db]) (by rw [db])
    (standing_kept fun contactId => by rw [db]) kickoffs
  rw [walkOf, if_pos owner] at view
  rcases seen with idle | ⟨walk, turned, before, after, total, upcoming⟩
  · rw [idle] at view
    exact campaignTaken_same view (.walkEnded id)
  · rw [after] at view
    exact campaignTaken_same view (.walkTurned id walk turned (present.trans before) total upcoming)

theorem upcoming_dealt {current : ContactId} {rest : List ContactId} {pageEnd : Option ContactId}
    (ascending : (current :: rest).Pairwise (· < ·)) (within : isAfter pageEnd current = false) (other : ContactId) :
    (decide (other ∈ rest) || isAfter pageEnd other) =
      ((decide (other ∈ current :: rest) || isAfter pageEnd other) && decide (other ≠ current)) := by
  by_cases same : other = current
  · subst same
    have absent : other ∉ rest := fun member => Nat.lt_irrefl other ((List.pairwise_cons.mp ascending).1 other member)
    simp [absent, within]
  · simp [same]

def Reading (now : Timestamp) (db : Database) (job : KickoffJob) : KickoffPhase → Prop
  | .snapshotting _ | .excluding _ _ _ _ _ | .finishing _ => False
  | .judging _ _ ((_, some contact) :: _) => evaluatePreSendGate now db job.workspaceId contact ≠ .sendable
  | _ => True

theorem db_of_reading {now : Timestamp} {db : Database} {sendJobs : JobQueue SendJob} {current : KickoffPhase}
    (reading : Reading now db job current) : (kickoffStep now db sendJobs job matching current).db = db := by
  have writes := kickoffStep_writes now db sendJobs job matching current
  generalize (kickoffStep now db sendJobs job matching current).db = committed at writes
  cases writes with
  | nothing => rfl
  | batch | exclusion | totals => exact reading.elim

theorem seen_of_reading {now : Timestamp} {db : Database} {sendJobs : JobQueue SendJob} {current : KickoffPhase}
    (reading : Reading now db job current) {audience : Finset ContactId}
    (members : ∀ contactId ∈ audience, (db.campaignRecipients.find? (job.campaignId, contactId)).isSome) :
    walkView (kickoffStep now db sendJobs job matching current).phase = none ∨
      ∃ walk turned, walkView current = some walk ∧
        walkView (kickoffStep now db sendJobs job matching current).phase = some turned ∧
        turned.sendableTotal = walk.sendableTotal ∧
        ∀ contactId ∈ audience, turned.upcoming contactId = walk.upcoming contactId := by
  unfold kickoffStep
  cases current with
  | started | loading =>
    left
    simp only
    split <;> rfl
  | admitted =>
    left
    simp only
    split
    · rfl
    · split <;> rfl
  | paging walk =>
    simp only
    split
    · exact .inl rfl
    · split
      · next nobody =>
        refine .inr ⟨_, _, rfl, rfl, rfl, fun contactId member => ?_⟩
        exact (not_after_of_empty (members contactId member) (List.isEmpty_iff.mp nobody)).symm
      · exact .inr ⟨_, _, rfl, rfl, rfl, fun contactId member => upcoming_page (members contactId member)⟩
  | fetching walk page =>
    refine .inr ⟨_, _, rfl, rfl, rfl, fun contactId _ => ?_⟩
    simp only [contacts_fetched]
  | judging walk pageEnd rest =>
    cases rest with
    | nil => exact .inr ⟨_, _, rfl, rfl, rfl, fun contactId _ => by simp⟩
    | cons head rest =>
      obtain ⟨contactId, contact⟩ := head
      cases contact with
      | none => exact .inr ⟨_, _, rfl, rfl, rfl, fun other _ => rfl⟩
      | some contact =>
        simp only
        split
        · exact .inr ⟨_, _, rfl, rfl, rfl, fun other _ => rfl⟩
        · next sendable => exact absurd sendable reading
  | enqueueing => exact .inr ⟨_, _, rfl, rfl, rfl, fun other _ => rfl⟩
  | returned | threw => exact .inl rfl
  | snapshotting | excluding | finishing => exact reading.elim

theorem member_present {recipients : Table Recipient.key} {contactId : ContactId}
    (member : contactId ∈ audienceOf recipients job) : (recipients.find? (job.campaignId, contactId)).isSome := by
  obtain ⟨recipient, found, _⟩ := mem_audienceOf.mp member
  rw [found]
  rfl

theorem campaignTaken_counted {counters : Walk} {pageEnd : Option ContactId} {contactId : ContactId} {contact : Contact}
    {rest : List (ContactId × Option Contact)} (audience : AudienceSound world)
    (found : world.kickoffs.find? id = some kickoff) (owner : kickoff.job = job)
    (judging : kickoff.phase = .judging counters pageEnd ((contactId, some contact) :: rest))
    (sendable : evaluatePreSendGate world.now world.db job.workspaceId contact = .sendable) (db : next.db = world.db)
    (kickoffs : next.kickoffs = world.kickoffs.put { kickoff with
      phase := .enqueueing { counters with sendableTotal := counters.sendableTotal + 1 } pageEnd contactId rest }) :
    CampaignTaken ids world job (campaignView job world) (.kickoff (.advance id matching)) (campaignView job next) := by
  have sound := audience.walking id kickoff found
  rw [judging, owner] at sound
  have current : contactId ∈ phaseContacts (.judging counters pageEnd ((contactId, some contact) :: rest)) :=
    List.mem_cons_self
  have view := campaignView_walked job (Table.key_of_find? found) (by rw [db]) (by rw [db])
    (standing_kept fun contactId => by rw [db]) kickoffs
  rw [walkOf, if_pos owner] at view
  have present := walk_found owner found
  rw [judging] at present
  refine campaignTaken_same view ?_
  refine .walkCounted contactId _ _ kickoff counters pageEnd contact rest found owner judging sendable
    (mem_audienceOf.mpr (sound.listed contactId current)) present ?_ rfl ?_
  · simp
  · exact fun other _ => upcoming_dealt sound.ascending (sound.within contactId current) other

theorem campaignTaken_excluded {counters : Walk} {pageEnd : Option ContactId} {contactId : ContactId} {reason : String}
    {rest : List (ContactId × Option Contact)} (audience : AudienceSound world)
    (found : world.kickoffs.find? id = some kickoff) (owner : kickoff.job = job)
    (excluding : kickoff.phase = .excluding counters pageEnd contactId reason rest)
    (db : next.db = { world.db with
      sends := recordExcluded world.now world.db.sends job.workspaceId job.campaignId contactId reason })
    (kickoffs : next.kickoffs = world.kickoffs.put { kickoff with
      phase := .judging { counters with excludedTotal := counters.excludedTotal + 1 } pageEnd rest }) :
    CampaignTaken ids world job (campaignView job world) (.kickoff (.advance id matching)) (campaignView job next) := by
  have sound := audience.walking id kickoff found
  rw [excluding, owner] at sound
  have current : contactId ∈ phaseContacts (.excluding counters pageEnd contactId reason rest) := List.mem_cons_self
  have present := walk_found owner found
  rw [excluding] at present
  have walks := walk_advanced owner found kickoffs
  have written : ∀ other, statusOf next.db.sends other =
      if other = intentFor job contactId ∧ statusOf world.db.sends other = none then some .excluded
      else statusOf world.db.sends other := by
    intro other
    rw [db]
    exact statusOf_excludeIntent
  have standing : (campaignView job next).standing =
      if statusOf world.db.sends (intentFor job contactId) = none then
        Function.update (campaignView job world).standing contactId .excluded
      else (campaignView job world).standing := by
    by_cases free : statusOf world.db.sends (intentFor job contactId) = none
    · rw [if_pos free]
      have changed : statusOf next.db.sends (intentFor job contactId) = some .excluded := by
        rw [written, if_pos ⟨rfl, free⟩]
      exact standing_moved changed fun other differs => by rw [written, if_neg fun both => differs both.1]
    · rw [if_neg free]
      refine standing_kept fun other => ?_
      rw [written, if_neg]
      rintro ⟨same, absent⟩
      rw [same] at absent
      exact free absent
  let turned : WalkView :=
    ⟨fun other => other ∈ rest.map Prod.fst || isAfter pageEnd other, counters.sendableTotal⟩
  refine campaignTaken_of (.walkExcluded contactId _ turned kickoff counters pageEnd reason rest _ found owner excluding
    (mem_audienceOf.mpr (sound.listed contactId current)) present ?_ rfl ?_ rfl) ?_ (audience_kept (by rw [db]))
    standing walks
  · simp
  · exact fun other _ => upcoming_dealt sound.ascending (sound.within contactId current) other
  · rw [db]
    rfl

theorem campaignTaken_totaled {walk : Walk} (audience : AudienceSound world) (owns : Owns world job)
    (found : world.kickoffs.find? id = some kickoff) (owner : kickoff.job = job)
    (finishing : kickoff.phase = .finishing walk) (db : next.db = finishFanOut world.now world.db job.campaignId walk)
    (kickoffs : next.kickoffs = world.kickoffs.put { kickoff with phase := .returned }) :
    CampaignTaken ids world job (campaignView job world) (.kickoff (.advance id matching)) (campaignView job next) := by
  have present := walk_found owner found
  rw [finishing] at present
  have walks := walk_advanced owner found kickoffs
  have columns : progressOf next.db.campaigns job.campaignId = (campaignView job world).columns.map
      (·.fannedOut ((campaignView job world).countOf .ambiguous) walk.sendableTotal) := by
    rw [db, progressOf_finishFanOut, if_pos rfl, ambiguousCount_eq audience owns]
    rfl
  have standing : (campaignView job next).standing = (campaignView job world).standing :=
    standing_kept fun contactId => by rw [db, finishFanOut_sends]
  have recipients : next.db.campaignRecipients = world.db.campaignRecipients := by
    rw [db, finishFanOut_campaignRecipients]
  exact campaignTaken_of (.totaled id _ present fun _ _ => rfl) columns (audience_kept recipients) standing walks

theorem campaignTaken_snapshot {cursor : Option ContactId} (audience : AudienceSound world)
    (found : world.kickoffs.find? id = some kickoff)
    (owner : kickoff.job = job) (snapshotting : kickoff.phase = .snapshotting cursor)
    (db : next.db = (materializeBatch world.db job.workspaceId job.campaignId matching cursor).2.2)
    (kickoffs : next.kickoffs = world.kickoffs.put { kickoff with
      phase := if (materializeBatch world.db job.workspaceId job.campaignId matching cursor).1.isEmpty then .paging {}
        else .snapshotting (materializeBatch world.db job.workspaceId job.campaignId matching cursor).2.1 }) :
    CampaignTaken ids world job (campaignView job world) (.kickoff (.advance id matching)) (campaignView job next) := by
  have walks := walk_advanced owner found kickoffs
  have columns : progressOf next.db.campaigns job.campaignId = progressOf world.db.campaigns job.campaignId := by
    have writes : KickoffWrites world.now world.db job matching (.snapshotting cursor) next.db := by
      rw [db]
      exact .batch cursor
    exact progressOf_kickoff writes (by simp) job.campaignId
  have standing : (campaignView job next).standing = (campaignView job world).standing :=
    standing_kept fun contactId => by
      rw [db]
      rfl
  by_cases nobody : (materializeBatch world.db job.workspaceId job.campaignId matching cursor).1.isEmpty = true
  · rw [if_pos nobody] at walks
    have kept : (campaignView job next).audience = (campaignView job world).audience := by
      ext contactId
      simp only [campaignView, mem_audienceOf, Listed, db, find?_materialized nobody]
    exact campaignTaken_of (.walkStarted id) columns kept standing walks
  · rw [if_neg nobody] at walks
    have idle : (campaignView job world).walk id = none := by
      rw [walk_found owner found, snapshotting]
      rfl
    have still : (campaignView job next).walk = (campaignView job world).walk := by
      rw [walks]
      exact (congrArg _ idle.symm).trans (Function.update_eq_self _ _)
    have grown : (campaignView job next).audience = (campaignView job world).audience ∪
        (snapshotBatch world.db job.workspaceId matching cursor).toFinset := by
      ext contactId
      simp only [campaignView, mem_audienceOf, Finset.mem_union, List.mem_toFinset, db, materializeBatch, Listed,
        find?_insertRecipients]
      cases before : world.db.campaignRecipients.find? (job.campaignId, contactId) with
      | none => simp
      | some recipient =>
        have started : HasStarted world job := owner ▸ audience.executing id kickoff found
        obtain ⟨existing, located, same⟩ := listed_of_present audience started (by rw [before]; rfl)
        rw [before] at located
        cases located
        simp [same]
    exact campaignTaken_of (.enrolled kickoff cursor found owner snapshotting) columns grown standing still

theorem campaignTaken_advanced (audience : AudienceSound world) (owns : Owns world job)
    (found : world.kickoffs.find? id = some kickoff) (owner : kickoff.job = job)
    (db : next.db = (kickoffStep world.now world.db world.sendJobs job matching kickoff.phase).db)
    (kickoffs : next.kickoffs = world.kickoffs.put { kickoff with
      phase := (kickoffStep world.now world.db world.sendJobs job matching kickoff.phase).phase }) :
    CampaignTaken ids world job (campaignView job world) (.kickoff (.advance id matching)) (campaignView job next) := by
  have read : Reading world.now world.db job kickoff.phase →
      CampaignTaken ids world job (campaignView job world) (.kickoff (.advance id matching)) (campaignView job next) :=
    fun reading => campaignTaken_read (Table.key_of_find? found) owner (walk_found owner found)
      (db.trans (db_of_reading reading)) kickoffs (seen_of_reading reading fun _ => member_present)
  cases phase : kickoff.phase with
  | snapshotting cursor =>
    rw [phase] at db kickoffs
    apply campaignTaken_snapshot audience found owner phase
    · rw [db]
      simp only [kickoffStep]
      split <;> rfl
    · rw [kickoffs]
      simp only [kickoffStep]
      split <;> rfl
  | excluding walk pageEnd contactId reason rest =>
    rw [phase] at db kickoffs
    exact campaignTaken_excluded audience found owner phase db kickoffs
  | finishing walk =>
    rw [phase] at db kickoffs
    exact campaignTaken_totaled audience owns found owner phase db kickoffs
  | judging walk pageEnd rest =>
    cases rest with
    | nil => exact read (by rw [phase]; trivial)
    | cons head rest =>
      obtain ⟨contactId, contact⟩ := head
      cases contact with
      | none => exact read (by rw [phase]; trivial)
      | some contact =>
        by_cases sendable : evaluatePreSendGate world.now world.db job.workspaceId contact = .sendable
        · rw [phase] at db kickoffs
          simp only [kickoffStep, sendable] at db kickoffs
          exact campaignTaken_counted audience found owner phase sendable db kickoffs
        · exact read (by rw [phase]; exact sendable)
  | started | admitted | loading | paging | fetching | enqueueing | returned | threw =>
    exact read (by rw [phase]; trivial)

theorem intentFor_ne {other : KickoffJob} (foreign : other ≠ job) (left right : ContactId) :
    intentFor job left ≠ intentFor other right := by
  intro same
  cases job
  cases other
  cases same
  exact foreign rfl

theorem campaignTaken_foreign (audience : AudienceSound world) (owns : Owns world job)
    (found : world.kickoffs.find? id = some kickoff) (foreign : kickoff.job ≠ job)
    (writes : KickoffWrites world.now world.db kickoff.job matching kickoff.phase next.db)
    (kickoffs : next.kickoffs = world.kickoffs.put { kickoff with phase }) :
    CampaignTaken ids world job (campaignView job world) (.kickoff (.advance id matching)) (campaignView job next) := by
  have differs : job.campaignId ≠ kickoff.job.campaignId :=
    fun same => foreign (job_of_started owns (audience.executing id kickoff found) same.symm)
  have keyed : kickoff.id = id := Table.key_of_find? found
  have moved : ({ kickoff with phase } : Kickoff).id = id := keyed
  have walks := walk_put job moved kickoffs
  rw [walkOf, if_neg foreign] at walks
  have still : ∀ {db : Database}, KickoffWrites world.now world.db kickoff.job matching kickoff.phase db →
      progressOf db.campaigns job.campaignId = progressOf world.db.campaigns job.campaignId ∧
        (∀ contactId, statusOf db.sends (intentFor job contactId) = statusOf world.db.sends (intentFor job contactId)) ∧
        audienceOf db.campaignRecipients job = audienceOf world.db.campaignRecipients job := by
    intro db written
    generalize kickoff.phase = current at written
    cases written with
    | nothing => exact ⟨rfl, fun _ => rfl, rfl⟩
    | batch cursor =>
      have written : KickoffWrites world.now world.db kickoff.job matching (.snapshotting cursor)
          (materializeBatch world.db kickoff.job.workspaceId kickoff.job.campaignId matching cursor).2.2 := .batch cursor
      refine ⟨progressOf_kickoff written (by simp) _, fun _ => rfl, ?_⟩
      ext contactId
      simp only [mem_audienceOf, materializeBatch, Listed, find?_insertRecipients, differs, false_and, if_false,
        Option.or_none]
    | exclusion walk pageEnd contactId reason rest =>
      refine ⟨rfl, fun other => ?_, rfl⟩
      rw [recordExcluded, statusOf_excludeIntent, if_neg fun both => intentFor_ne foreign other contactId both.1]
    | totals walk =>
      refine ⟨?_, fun other => by rw [finishFanOut_sends], by rw [finishFanOut_campaignRecipients]⟩
      rw [progressOf_finishFanOut, if_neg differs]
  obtain ⟨columns, statuses, recipients⟩ := still writes
  exact campaignTaken_of (.walkEnded id) columns recipients (standing_kept fun contactId => by rw [statuses]) walks

end Walks

section Steps

variable {platform : Platform} {world next : World} {label : Label} {job : KickoffJob}

theorem campaignTaken_edited {ids : SendIdScheme} (edit : Edited world.db.organizations
      (progressOf world.db.campaigns job.campaignId) (progressOf next.db.campaigns job.campaignId))
    (recipients : next.db.campaignRecipients = world.db.campaignRecipients) (sends : next.db.sends = world.db.sends)
    (kickoffs : next.kickoffs = world.kickoffs) :
    CampaignTaken ids world job (campaignView job world) label (campaignView job next) :=
  campaignTaken_of (.edited _ edit) rfl (audience_kept recipients) (standing_kept fun _ => by rw [sends])
    (by simp only [campaignView, kickoffs])

theorem campaignTaken_launched {ids : SendIdScheme} {target : CampaignId} {existing : Campaign}
    (stored : world.db.campaigns.find? target = some existing) (unstarted : ¬ (progress existing).Started)
    (written : ∀ id, progressOf next.db.campaigns id =
      if id = target then (progressOf world.db.campaigns id).map (·.withStatus .sending)
      else progressOf world.db.campaigns id)
    (recipients : next.db.campaignRecipients = world.db.campaignRecipients) (sends : next.db.sends = world.db.sends)
    (kickoffs : next.kickoffs = world.kickoffs) :
    CampaignTaken ids world job (campaignView job world) label (campaignView job next) := by
  by_cases same : job.campaignId = target
  · have found : (campaignView job world).columns = some (progress existing) := by
      simp only [campaignView, progressOf, same, stored, Option.map_some]
    refine campaignTaken_of (.launched (progress existing) found unstarted) ?_ (audience_kept recipients)
      (standing_kept fun _ => by rw [sends]) (by simp only [campaignView, kickoffs])
    rw [written, if_pos same]
    exact congrArg (Option.map _) found
  · exact campaignTaken_of .unmoved (by rw [written, if_neg same]; rfl) (audience_kept recipients)
      (standing_kept fun _ => by rw [sends]) (by simp only [campaignView, kickoffs])

theorem campaignTaken_untouched {ids : SendIdScheme}
    (columns : progressOf next.db.campaigns job.campaignId = progressOf world.db.campaigns job.campaignId)
    (recipients : next.db.campaignRecipients = world.db.campaignRecipients)
    (statuses : ∀ intent, statusOf next.db.sends intent = statusOf world.db.sends intent)
    (kickoffs : next.kickoffs = world.kickoffs) :
    CampaignTaken ids world job (campaignView job world) label (campaignView job next) :=
  campaignTaken_of .unmoved columns (audience_kept recipients) (standing_kept fun _ => by rw [statuses])
    (by simp only [campaignView, kickoffs])

theorem campaignTaken_step (audience : AudienceSound world) (later : AudienceSound next)
    (sound : ClaimsSound platform.sendIds world) (held : RowsHeld world) (owned : Owns next job)
    (taken : step platform world label = some next) :
    CampaignTaken platform.sendIds world job (campaignView job world) label (campaignView job next) := by
  have owns := owns_of_next taken owned
  cases label with
  | environment event =>
    have frame := environmentStep_frame taken
    exact campaignTaken_edited (edited_of_commits frame.campaigns _) frame.campaignRecipients frame.sends frame.kickoffs
  | api request =>
    obtain ⟨campaigns, commits, rfl⟩ := apiStep_taken taken
    exact campaignTaken_edited (edited_of_commits commits _) rfl rfl rfl
  | launch event =>
    cases launchStep_taken taken with
    | committed launch campaigns found uncommitted launched =>
      obtain ⟨existing, located, draft, _, _, rfl⟩ := launchCampaign_ok launched
      exact campaignTaken_launched (getCampaign_some located).1 (by simp [Progress.Started, progress, draft])
        (fun other => progressOf_assign fun _ => rfl) rfl rfl rfl
    | requested | refused | enqueued | crashed => exact .unmoved
  | tick event =>
    cases tickStep_taken taken with
    | transitioned row rest campaign found stored owner due =>
      have waiting : campaign.status = .scheduled := by
        simp only [isDue, Bool.and_eq_true, beq_iff_eq] at due
        exact due.1
      exact campaignTaken_launched stored (by simp [Progress.Started, progress, waiting])
        (fun other => progressOf_assign fun _ => rfl) rfl rfl rfl
    | begun | passed | enqueued | finished | crashed => exact .unmoved
  | kickoff event =>
    cases kickoffEventStep_taken taken with
    | @started id started pending fresh =>
      have keyed : ({ id, job := started, phase := .started } : Kickoff).id = id := rfl
      refine campaignTaken_of (.walkEnded id) rfl rfl rfl ?_
      rw [walk_put job keyed rfl]
      simp [walkOf, walkView]
    | acked kickoff | crashed => exact campaignTaken_of (.walkEnded _) rfl rfl rfl (walk_erase rfl)
    | @advanced id matching kickoff effect found stepped =>
      subst stepped
      by_cases owner : kickoff.job = job
      · exact campaignTaken_advanced audience owns found owner (by rw [owner]) (by rw [owner])
      · exact campaignTaken_foreign audience owns found owner (kickoffStep_writes _ _ _ _ _ _) rfl
  | delivery event =>
    have delivered := deliveryStep_taken taken
    have ledger := ledgerTaken_delivery sound delivered
    cases delivered with
    | delivered result db pending fresh uncalled claimed =>
      refine campaignTaken_claims audience ledger (by rintro _ _ _ _ _ _ ⟨⟩) ?_ ?_ rfl
      · cases claimSend_commits claimed <;> rfl
      · cases claimSend_commits claimed <;> rfl
    | @settled id sendJob claim dispatchedAt duration outcome found =>
      cases recorded : recordedStatus outcome with
      | none =>
        refine campaignTaken_claims audience ledger ?_ ?_ ?_ rfl
        · rintro _ _ _ _ _ _ ⟨⟩ located
          rw [found] at located
          cases located
          exact recorded
        · simp only [settleOutcome_released recorded]
        · simp only [settleOutcome_released recorded]
      | some status => exact campaignTaken_settled audience later held sound owns owned found recorded rfl rfl
    | rejected | denied | called | answered | acked | retried | givenUp | crashed =>
      exact campaignTaken_claims audience ledger (by rintro _ _ _ _ _ _ ⟨⟩) rfl rfl rfl
  | reconcile sendId =>
    cases taken
    exact campaignTaken_resolution audience later owns owned (resolveOneSend_commits _ _ _ _) rfl rfl
  | webhookBatch | sweep =>
    obtain ⟨db, kept, rfl⟩ := quietStep_taken rfl taken
    exact campaignTaken_untouched (progressOf_kept kept _) kept.campaignRecipients kept.status rfl

end Steps

structure WorldSound (ids : SendIdScheme) (world : World) : Prop where
  claims : ClaimsSound ids world
  held : RowsHeld world
  audience : AudienceSound world

theorem worldSound_step {platform : Platform} {world next : World} {label : Label}
    (sound : WorldSound platform.sendIds world) (taken : step platform world label = some next) :
    WorldSound platform.sendIds next where
  claims := claimsSound_step sound.claims taken
  held := rowsHeld_step sound.held sound.claims taken
  audience := audienceSound_step sound.audience sound.claims taken

theorem WorldSound.moved {platform : Platform} {world next : World} {label : Label} {job : KickoffJob}
    (sound : WorldSound platform.sendIds world) (taken : step platform world label = some next)
    (owned : Owns next job) : Owns world job ∧
      CampaignTaken platform.sendIds world job (campaignView job world) label (campaignView job next) :=
  ⟨owns_of_next taken owned, campaignTaken_step sound.audience (worldSound_step sound taken).audience sound.claims
    sound.held owned taken⟩

theorem worldSound_initial (ids : SendIdScheme) (now : Timestamp) : WorldSound ids (initialWorld now) where
  claims := claimsSound_initial ids now
  held := rowsHeld_initial now
  audience := audienceSound_initial now

end LocalCrm.System
