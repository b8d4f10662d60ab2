import LocalCrm.Schema

/-! The scheduler's two statements: the cross-workspace scan for due campaigns
and the guarded transition of one of them. -/

set_option autoImplicit false

namespace LocalCrm.Campaigns

open Library

structure DueCampaign where
  id : CampaignId
  workspaceId : WorkspaceId
  deriving DecidableEq, Repr

def isDue (now : Timestamp) (campaign : Campaign) : Bool :=
  campaign.status == .scheduled && campaign.scheduledAt.any (· ≤ now)

/-- The rows the scan role sees: due ones, none of a workspace that is soft-deleted now. -/
def campaignsScan (now : Timestamp) (organizations : Table Organization.id) (campaign : Campaign) : Bool :=
  isDue now campaign && !(organizations.find? campaign.workspaceId).any (·.deletedAt.isSome)

def findDueCampaignCandidates (now : Timestamp) (organizations : Table Organization.id) (campaigns : Campaigns) :
    List DueCampaign :=
  (campaigns.rows.filter (campaignsScan now organizations)).map fun campaign =>
    { id := campaign.id, workspaceId := campaign.workspaceId }

def startedSending (now : Timestamp) (campaign : Campaign) : Campaign :=
  { campaign with status := .sending, sendingStartedAt := some now }

theorem id_startedSending (now : Timestamp) (campaign : Campaign) :
    (startedSending now campaign).id = campaign.id := rfl

/-- Re-checks that the row is still due; whether it is locked elsewhere is the caller's to say. -/
def transitionToSending (now : Timestamp) (campaigns : Campaigns) (row : DueCampaign) (locked : Bool) :
    Bool × Campaigns :=
  let due := fun campaign : Campaign =>
    campaign.id == row.id && campaign.workspaceId == row.workspaceId && isDue now campaign
  if locked || !campaigns.rows.any due then (false, campaigns)
  else (true, campaigns.update (fun campaign => campaign.id == row.id) (startedSending now)
    (id_startedSending now))

theorem transitionToSending_cases (now : Timestamp) (campaigns : Campaigns) (row : DueCampaign) (locked : Bool) :
    transitionToSending now campaigns row locked = (false, campaigns) ∨
      locked = false ∧ ∃ campaign, campaigns.find? row.id = some campaign ∧
        campaign.workspaceId = row.workspaceId ∧ isDue now campaign = true ∧
        transitionToSending now campaigns row locked =
          (true, campaigns.update (fun campaign => campaign.id == row.id) (startedSending now)
            (id_startedSending now)) := by
  unfold transitionToSending
  simp only
  split
  · exact .inl rfl
  · next proceeds =>
    right
    simp only [Bool.or_eq_true, not_or, Bool.not_eq_true, Bool.not_eq_false'] at proceeds
    obtain ⟨campaign, stored, due⟩ := List.any_eq_true.mp proceeds.2
    simp only [Bool.and_eq_true, beq_iff_eq] at due
    obtain ⟨⟨keyed, owned⟩, due⟩ := due
    refine ⟨proceeds.1, campaign, ?_, owned, due, rfl⟩
    rw [← keyed]
    exact Table.find?_of_mem stored

theorem transitionToSending_due {now : Timestamp} {campaigns : Campaigns} {row : DueCampaign} {campaign : Campaign}
    (stored : campaigns.find? row.id = some campaign) (owned : campaign.workspaceId = row.workspaceId)
    (due : isDue now campaign = true) : (transitionToSending now campaigns row false).1 = true := by
  have keyed : campaign.id = row.id := Table.key_of_find? stored
  have present : campaigns.rows.any (fun campaign =>
      campaign.id == row.id && campaign.workspaceId == row.workspaceId && isDue now campaign) = true :=
    List.any_eq_true.mpr ⟨campaign, Table.mem_of_find? stored, by simp [keyed, owned, due]⟩
  simp [transitionToSending, present]

end LocalCrm.Campaigns
