import LocalCrm.System.CampaignMoves

/-! Counting the recipients of a campaign's view. -/

set_option autoImplicit false

namespace LocalCrm.System

open Library Delivery Campaigns Webhooks Analytics

section Columns

variable {columns : Progress} {ambiguous sendableTotal : Nat} {outcome : CountedOutcome}

theorem completed_cases (columns : Progress) (ambiguous : Nat) :
    (columns.Due ambiguous ∧ columns.completed ambiguous = columns.withStatus .sent) ∨
      (¬ columns.Due ambiguous ∧ columns.completed ambiguous = columns) := by
  by_cases due : columns.Due ambiguous
  · exact .inl ⟨due, if_pos due⟩
  · exact .inr ⟨due, if_neg due⟩

theorem counted_cases (columns : Progress) (outcome : CountedOutcome) :
    (columns.status = .sending ∧ columns.counted outcome = columns.count outcome) ∨
      (columns.status ≠ .sending ∧ columns.counted outcome = columns) := by
  by_cases sending : columns.status = .sending
  · exact .inl ⟨sending, if_pos sending⟩
  · exact .inr ⟨sending, if_neg sending⟩

theorem status_counted : (columns.counted outcome).status = columns.status := by
  rcases counted_cases columns outcome with ⟨_, counted⟩ | ⟨_, counted⟩
  · rw [counted]
    cases outcome <;> rfl
  · rw [counted]

end Columns

section Counts

variable {view : CampaignView} {contactId : ContactId}

theorem count_add {first second : Standing → Bool}
    (apart : ∀ standing, first standing = true → second standing = false) :
    (view.count fun _ standing => first standing) + (view.count fun _ standing => second standing) =
      view.count fun _ standing => first standing || second standing :=
  census_add fun contactId _ => apart (view.standing contactId)

theorem count_included (view : CampaignView) :
    view.countOf .sent + view.countOf .failed + view.countOf .ambiguous + view.countOf .undecided =
      view.count fun _ standing => standing != .excluded := by
  simp only [CampaignView.countOf]
  rw [count_add (by rintro (_ | _) <;> simp), count_add (by rintro (_ | _) <;> simp),
    count_add (by rintro (_ | _) <;> simp)]
  apply census_congr
  intro contactId _
  cases view.standing contactId <;> rfl

theorem countOf_moved (moved standing : Standing) (listed : contactId ∈ view.audience) :
    CampaignView.countOf { view with standing := Function.update view.standing contactId moved } standing +
        (view.standing contactId == standing).toNat =
      view.countOf standing + (moved == standing).toNat := by
  have agree : ∀ peer ∈ view.audience, peer ≠ contactId →
      (Function.update view.standing contactId moved peer == standing) = (view.standing peer == standing) := by
    intro peer _ distinct
    rw [Function.update_of_ne distinct]
  have changed := census_change listed agree
  rw [Function.update_self] at changed
  exact changed

theorem countOf_updated {moved : Standing} (listed : contactId ∈ view.audience)
    (differs : view.standing contactId ≠ moved) :
    CampaignView.countOf { view with standing := Function.update view.standing contactId moved } moved =
      view.countOf moved + 1 := by
  have moves := countOf_moved moved moved listed
  rw [beq_self_eq_true, beq_false_of_ne differs] at moves
  exact moves

theorem countOf_other {moved standing : Standing} (before : view.standing contactId ≠ standing)
    (after : moved ≠ standing) :
    CampaignView.countOf { view with standing := Function.update view.standing contactId moved } standing =
      view.countOf standing := by
  apply census_congr
  intro other _
  by_cases same : other = contactId
  · subst same
    simp [before, after]
  · simp [same]

theorem countOf_joined {joining : Finset ContactId} {standing : Standing}
    (unrecorded : ∀ contactId, contactId ∉ view.audience → view.standing contactId = .undecided)
    (decided : standing ≠ .undecided) :
    CampaignView.countOf { view with audience := view.audience ∪ joining } standing = view.countOf standing := by
  apply census_joined Finset.subset_union_left
  intro contactId _ absent
  rw [unrecorded contactId absent]
  exact beq_false_of_ne decided.symm

theorem count_dealt {walk turned : WalkView} (listed : contactId ∈ view.audience)
    (next : walk.upcoming contactId = true)
    (upcoming : ∀ other ∈ view.audience,
      turned.upcoming other = (walk.upcoming other && decide (other ≠ contactId))) :
    (view.count fun contactId standing => !turned.upcoming contactId && standing != .excluded) =
      (view.count fun contactId standing => !walk.upcoming contactId && standing != .excluded) +
        (view.standing contactId != .excluded).toNat := by
  let dealtBy (view : WalkView) (contactId : ContactId) (standing : Standing) : Bool :=
    !view.upcoming contactId && standing != .excluded
  have agree : ∀ peer ∈ view.audience, peer ≠ contactId →
      dealtBy turned peer (view.standing peer) = dealtBy walk peer (view.standing peer) := by
    intro peer member distinct
    simp [dealtBy, upcoming peer member, distinct]
  have changed := census_change listed agree
  have before : dealtBy walk contactId (view.standing contactId) = false := by simp [dealtBy, next]
  have after : dealtBy turned contactId (view.standing contactId) = (view.standing contactId != .excluded) := by
    simp [dealtBy, upcoming contactId listed]
  rw [before, after] at changed
  exact changed

end Counts

theorem standingOf_excluded {status : Option SendStatus} :
    standingOf status = .excluded ↔ status = some .excluded := by
  cases status with
  | none => simp [standingOf]
  | some value => cases value <;> simp [standingOf]

section Worlds

variable {world : World} {job : KickoffJob} {contactId : ContactId}

theorem listed_of_decided (audience : AudienceSound world)
    (decided : (campaignView job world).standing contactId ≠ .undecided) :
    Listed world.db.campaignRecipients job.workspaceId job.campaignId contactId := by
  apply audience.rows
  intro free
  exact decided (congrArg standingOf free)

theorem started_of_walk (audience : AudienceSound world) {id : Nat} {walk : WalkView}
    (running : (campaignView job world).walk id = some walk) :
    ∃ columns, (campaignView job world).columns = some columns ∧ columns.Started := by
  obtain ⟨kickoff, found, seen⟩ := Option.bind_eq_some_iff.mp running
  unfold walkOf at seen
  split at seen
  · next owner =>
    obtain ⟨columns, stored, _, started⟩ := audience.executing id kickoff found
    rw [owner] at stored
    exact ⟨columns, stored, started⟩
  · cases seen

theorem open_of_holdable {source : SendStatus}
    (stored : statusOf world.db.sends (intentFor job contactId) = some source) (holdable : Holdable source)
    (unsent : source ≠ .sent) :
    (campaignView job world).standing contactId = .undecided ∨
      (campaignView job world).standing contactId = .ambiguous := by
  simp only [campaignView, stored]
  cases source with
  | dispatching => exact .inl rfl
  | reconciling | unknown => exact .inr rfl
  | sent => exact absurd rfl unsent
  | failed | excluded => exact holdable.elim

theorem audience_of_unstarted (audience : AudienceSound world) {columns : Progress}
    (found : (campaignView job world).columns = some columns) (unstarted : ¬ columns.Started) :
    (campaignView job world).audience = ∅ := by
  apply Finset.eq_empty_of_forall_notMem
  intro contactId member
  obtain ⟨other, present, _, started⟩ := audience.enrolled _ _ _ (mem_audienceOf.mp member)
  cases found.symm.trans present
  exact unstarted started

end Worlds

end LocalCrm.System
