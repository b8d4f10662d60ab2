import LocalCrm.Delivery.SendDispatch
import LocalCrm.Campaigns.Repository
import LocalCrm.Library.JobQueue
import Mathlib.Data.List.Sort

/-! The kickoff of a launched campaign, one transaction or one enqueue at a time. -/

set_option autoImplicit false

namespace LocalCrm.Campaigns

open Library Delivery

def snapshotBatchSize : Nat := 10000

def breakdownPageSize : Nat := 5000

structure KickoffJob where
  workspaceId : WorkspaceId
  campaignId : CampaignId
  deriving DecidableEq, Repr

structure Walk where
  cursor : Option ContactId := none
  sendableTotal : Nat := 0
  excludedTotal : Nat := 0
  deriving DecidableEq, Repr

inductive KickoffPhase where
  | started
  | admitted
  | loading
  | snapshotting (cursor : Option ContactId)
  | paging (walk : Walk)
  | fetching (walk : Walk) (page : List ContactId)
  | judging (walk : Walk) (pageEnd : Option ContactId) (rest : List (ContactId × Option Contact))
  | excluding (walk : Walk) (pageEnd : Option ContactId) (contactId : ContactId) (reason : String)
      (rest : List (ContactId × Option Contact))
  | enqueueing (walk : Walk) (pageEnd : Option ContactId) (contactId : ContactId)
      (rest : List (ContactId × Option Contact))
  | finishing (walk : Walk)
  | returned
  | threw (message : String)
  deriving DecidableEq, Repr

def isAfter (cursor : Option ContactId) (contactId : ContactId) : Bool := cursor.all fun last => last < contactId

/-- Contacts of the workspace that meet the segment at this statement, in id order. -/
def snapshotBatch (db : Database) (workspaceId : WorkspaceId) (matching : List ContactId)
    (cursor : Option ContactId) : List ContactId :=
  (((db.contacts.rows.filter fun contact =>
    contact.workspaceId == workspaceId && contact.id ∈ matching && isAfter cursor contact.id).map
      Contact.id).insertionSort (· ≤ ·)).take snapshotBatchSize

def insertRecipients (recipients : Table Recipient.key) (workspaceId : WorkspaceId) (campaignId : CampaignId)
    (contactIds : List ContactId) : Table Recipient.key :=
  contactIds.foldl (fun table contactId => table.insert { campaignId, workspaceId, contactId }) recipients

def materializeBatch (db : Database) (workspaceId : WorkspaceId) (campaignId : CampaignId)
    (matching : List ContactId) (cursor : Option ContactId) : List ContactId × Option ContactId × Database :=
  let batch := snapshotBatch db workspaceId matching cursor
  let inserted := batch.filter fun contactId => (db.campaignRecipients.find? (campaignId, contactId)).isNone
  let lastContactId := inserted.getLast?.or cursor
  (inserted, lastContactId,
    { db with
      campaignRecipients := insertRecipients db.campaignRecipients workspaceId campaignId batch
      campaigns := db.campaigns.update (fun campaign => campaign.id == campaignId)
        fun campaign => { campaign with snapshotCursor := lastContactId } })

def loadSnapshotState (db : Database) (workspaceId : WorkspaceId) (campaignId : CampaignId) :
    Except String (Option ContactId) :=
  match (getCampaign db.campaigns workspaceId campaignId).filter
      fun campaign => (db.segments.find? campaign.segmentId).isSome with
  | none => .error s!"materializeCampaignSnapshot: campaign {campaignId} (or its segment) not found"
  | some campaign => .ok campaign.snapshotCursor

def recipientPage (recipients : Table Recipient.key) (campaignId : CampaignId) (cursor : Option ContactId) :
    List ContactId :=
  (((recipients.rows.filter fun recipient =>
    recipient.campaignId == campaignId && isAfter cursor recipient.contactId).map
      Recipient.contactId).insertionSort (· ≤ ·)).take breakdownPageSize

def fetchContacts (contacts : Table Contact.id) (workspaceId : WorkspaceId) (page : List ContactId) :
    List (ContactId × Option Contact) :=
  page.map fun contactId =>
    (contactId, (contacts.find? contactId).filter (·.workspaceId == workspaceId))

def withTotals (walk : Walk) (campaign : Campaign) : Campaign :=
  { campaign with
    sendableTotal := some walk.sendableTotal
    excludedTotal := some walk.excludedTotal
    fanOutComplete := true }

theorem id_withTotals (walk : Walk) (campaign : Campaign) : (withTotals walk campaign).id = campaign.id := rfl

def emptied (now : Timestamp) (walk : Walk) (campaign : Campaign) : Campaign :=
  { withTotals walk campaign with status := .sent, terminalAt := some now }

theorem id_emptied (now : Timestamp) (walk : Walk) (campaign : Campaign) :
    (emptied now walk campaign).id = campaign.id := rfl

/-- An empty audience completes under the status guard; otherwise the totals are written and completion is
tried. -/
def finishFanOut (now : Timestamp) (db : Database) (campaignId : CampaignId) (walk : Walk) : Database :=
  if walk.sendableTotal = 0 then
    let completed := db.campaigns.update
      (fun campaign => campaign.id == campaignId && campaign.status == .sending)
      (emptied now walk) (id_emptied now walk)
    { db with campaigns := completed }
  else
    let totaled := db.campaigns.update (fun campaign => campaign.id == campaignId)
      (withTotals walk) (id_withTotals walk)
    { db with campaigns := tryCompleteCampaign now db.sends totaled campaignId }

/-- What one step of an execution leaves behind. -/
structure KickoffEffect where
  db : Database
  sendJobs : JobQueue SendJob
  phase : KickoffPhase

/-- The next transaction or enqueue of `processCampaignKickoffJob`; `matching` is what the segment selects. -/
def kickoffStep (now : Timestamp) (db : Database) (sendJobs : JobQueue SendJob) (job : KickoffJob)
    (matching : List ContactId) : KickoffPhase → KickoffEffect
  | .started =>
    if isWorkspaceSoftDeleted db.organizations job.workspaceId then { db, sendJobs, phase := .returned }
    else { db, sendJobs, phase := .admitted }
  | .admitted =>
    match getCampaign db.campaigns job.workspaceId job.campaignId with
    | none => { db, sendJobs, phase := .returned }
    | some state =>
      if state.status = .sent ∨ state.status = .canceled ∨ state.fanOutComplete then
        { db, sendJobs, phase := .returned }
      else { db, sendJobs, phase := .loading }
  | .loading =>
    match loadSnapshotState db job.workspaceId job.campaignId with
    | .error message => { db, sendJobs, phase := .threw message }
    | .ok cursor => { db, sendJobs, phase := .snapshotting cursor }
  | .snapshotting cursor =>
    let (inserted, lastContactId, db) := materializeBatch db job.workspaceId job.campaignId matching cursor
    if inserted.isEmpty then { db, sendJobs, phase := .paging {} }
    else { db, sendJobs, phase := .snapshotting lastContactId }
  | .paging walk =>
    let status := (getCampaign db.campaigns job.workspaceId job.campaignId).map Campaign.status
    let page := recipientPage db.campaignRecipients job.campaignId walk.cursor
    if status = some .canceled ∨ status = some .sent then { db, sendJobs, phase := .returned }
    else if page.isEmpty then { db, sendJobs, phase := .finishing walk }
    else { db, sendJobs, phase := .fetching walk page }
  | .fetching walk page =>
    { db, sendJobs
      phase := .judging walk (page.getLast?.or walk.cursor) (fetchContacts db.contacts job.workspaceId page) }
  | .judging walk pageEnd [] => { db, sendJobs, phase := .paging { walk with cursor := pageEnd } }
  | .judging walk pageEnd ((contactId, none) :: rest) =>
    { db, sendJobs, phase := .excluding walk pageEnd contactId PreSendSkipReason.noEmail.text rest }
  | .judging walk pageEnd ((contactId, some contact) :: rest) =>
    match evaluatePreSendGate now db job.workspaceId contact with
    | .skip reason => { db, sendJobs, phase := .excluding walk pageEnd contactId reason.text rest }
    | .sendable =>
      let walk := { walk with sendableTotal := walk.sendableTotal + 1 }
      { db, sendJobs, phase := .enqueueing walk pageEnd contactId rest }
  | .excluding walk pageEnd contactId reason rest =>
    let sends := recordExcluded now db.sends job.workspaceId job.campaignId contactId reason
    let walk := { walk with excludedTotal := walk.excludedTotal + 1 }
    { db := { db with sends }, sendJobs, phase := .judging walk pageEnd rest }
  | .enqueueing walk pageEnd contactId rest =>
    let sendJobs := sendJobs.add (.campaign job.workspaceId job.campaignId contactId)
    { db, sendJobs, phase := .judging walk pageEnd rest }
  | .finishing walk =>
    { db := finishFanOut now db job.campaignId walk, sendJobs, phase := .returned }
  | .returned => { db, sendJobs, phase := .returned }
  | .threw message => { db, sendJobs, phase := .threw message }

theorem finishFanOut_sends (now : Timestamp) (db : Database) (campaignId : CampaignId) (walk : Walk) :
    (finishFanOut now db campaignId walk).sends = db.sends := by
  unfold finishFanOut
  split <;> rfl

theorem finishFanOut_campaignRecipients (now : Timestamp) (db : Database) (campaignId : CampaignId) (walk : Walk) :
    (finishFanOut now db campaignId walk).campaignRecipients = db.campaignRecipients := by
  unfold finishFanOut
  split <;> rfl

inductive KickoffWrites (now : Timestamp) (db : Database) (job : KickoffJob) (matching : List ContactId) :
    KickoffPhase → Database → Prop where
  | nothing (phase : KickoffPhase) : KickoffWrites now db job matching phase db
  | batch (cursor : Option ContactId) :
      KickoffWrites now db job matching (.snapshotting cursor)
        (materializeBatch db job.workspaceId job.campaignId matching cursor).2.2
  | exclusion (walk : Walk) (pageEnd : Option ContactId) (contactId : ContactId) (reason : String)
      (rest : List (ContactId × Option Contact)) :
      KickoffWrites now db job matching (.excluding walk pageEnd contactId reason rest)
        { db with
          sends := recordExcluded now db.sends job.workspaceId job.campaignId contactId reason }
  | totals (walk : Walk) :
      KickoffWrites now db job matching (.finishing walk) (finishFanOut now db job.campaignId walk)

theorem kickoffStep_writes (now : Timestamp) (db : Database) (sendJobs : JobQueue SendJob) (job : KickoffJob)
    (matching : List ContactId) (phase : KickoffPhase) :
    KickoffWrites now db job matching phase (kickoffStep now db sendJobs job matching phase).db := by
  unfold kickoffStep
  cases phase with
  | excluding walk pageEnd contactId reason rest => exact .exclusion walk pageEnd contactId reason rest
  | finishing walk => exact .totals walk
  | judging walk pageEnd rest =>
    cases rest with
    | nil => exact .nothing _
    | cons head rest =>
      obtain ⟨contactId, contact⟩ := head
      cases contact with
      | none => exact .nothing _
      | some contact =>
        simp only
        split <;> exact .nothing _
  | admitted | paging =>
    simp only
    split
    · exact .nothing _
    · split <;> exact .nothing _
  | snapshotting cursor =>
    simp only
    split <;> exact .batch cursor
  | started | loading =>
    simp only
    split <;> exact .nothing _
  | fetching | enqueueing | returned | threw => exact .nothing _

end LocalCrm.Campaigns
