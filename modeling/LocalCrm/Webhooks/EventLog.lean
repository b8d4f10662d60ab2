import LocalCrm.Library.FirstWins
import LocalCrm.Webhooks.Submission

/-! The stored events: what a batch's insert adds to them, that the side effects
read nothing of them, and what a sequence of batches applies. -/

set_option autoImplicit false

namespace LocalCrm.Webhooks

open Library Delivery

def withLogs (sendEvents : List SendEvent) (sendEventQuarantine : List QuarantinedEvent) (db : Database) : Database :=
  { db with sendEvents, sendEventQuarantine }

def withoutLogs (db : Database) : Database := withLogs [] [] db

section SideEffects

variable {platform : Platform} {ids : SendIdScheme} {now : Timestamp} {db : Database} {workspaceId : WorkspaceId}
  {contactId : ContactId} {send : ResolvedSend} {sendId : SendId} {occurredAt : Timestamp}
  {events : List SendEvent} {quarantined : List QuarantinedEvent}

@[simp] theorem countForCampaign_withLogs (campaignId : Option CampaignId) (metric : Analytics.EngagementMetric) :
    countForCampaign (withLogs events quarantined db) campaignId metric =
      withLogs events quarantined (countForCampaign db campaignId metric) := by
  cases campaignId <;> rfl

@[simp] theorem applySuppression_withLogs (reason : String) :
    applySuppression platform (withLogs events quarantined db) workspaceId contactId reason =
      withLogs events quarantined (applySuppression platform db workspaceId contactId reason) := by
  have contacts : (withLogs events quarantined db).contacts = db.contacts := rfl
  unfold applySuppression
  rw [contacts]
  split
  · rfl
  · simp only
    split <;> split <;> rfl

theorem recordUnsubscribe_withLogs (source : String) :
    recordUnsubscribe (withLogs events quarantined db) workspaceId contactId source =
      withLogs events quarantined (recordUnsubscribe db workspaceId contactId source) := by
  have contacts : (withLogs events quarantined db).contacts = db.contacts := rfl
  unfold recordUnsubscribe
  rw [contacts]
  split
  · rfl
  · split <;> rfl

@[simp] theorem applyUnsubscribe_withLogs (source : String) :
    applyUnsubscribeWithSendFact ids (withLogs events quarantined db) workspaceId contactId sendId occurredAt source =
      ((applyUnsubscribeWithSendFact ids db workspaceId contactId sendId occurredAt source).1,
        (applyUnsubscribeWithSendFact ids db workspaceId contactId sendId occurredAt source).2.1,
        withLogs events quarantined
          (applyUnsubscribeWithSendFact ids db workspaceId contactId sendId occurredAt source).2.2) := by
  cases resolved : resolveSend ids db.sends workspaceId sendId with
  | none =>
    have other : resolveSend ids (withLogs events quarantined db).sends workspaceId sendId = none := resolved
    rw [applyUnsubscribe_none resolved, applyUnsubscribe_none other, recordUnsubscribe_withLogs]
  | some send =>
    have other : resolveSend ids (withLogs events quarantined db).sends workspaceId sendId = some send := resolved
    rw [applyUnsubscribe_some resolved, applyUnsubscribe_some other, recordUnsubscribe_withLogs]
    rfl

@[simp] theorem recordTerminal_withLogs (column : FactColumn) (reasonWrite : Option ReasonWrite) :
    recordTerminal ids now (withLogs events quarantined db) workspaceId send column occurredAt reasonWrite =
      ((recordTerminal ids now db workspaceId send column occurredAt reasonWrite).1,
        withLogs events quarantined (recordTerminal ids now db workspaceId send column occurredAt reasonWrite).2) := by
  have sends : (withLogs events quarantined db).sends = db.sends := rfl
  unfold recordTerminal
  simp only [sends]
  split
  · cases send.campaignId <;> rfl
  · rfl

@[simp] theorem recordEngagement_withLogs (column : FactColumn) (metric : Analytics.EngagementMetric) :
    recordEngagement ids now (withLogs events quarantined db) workspaceId send column occurredAt metric =
      ((recordEngagement ids now db workspaceId send column occurredAt metric).1,
        withLogs events quarantined (recordEngagement ids now db workspaceId send column occurredAt metric).2) := by
  have sends : (withLogs events quarantined db).sends = db.sends := rfl
  unfold recordEngagement
  simp only [sends]
  split
  · cases send.campaignId <;> rfl
  · rfl

@[simp] theorem countForDay_withLogs (metric : Analytics.EngagementMetric) :
    countForDay now (withLogs events quarantined db) workspaceId occurredAt metric =
      withLogs events quarantined (countForDay now db workspaceId occurredAt metric) := rfl

@[simp] theorem countRepeat_withLogs (set : SendFacts → SendFacts) :
    countRepeat ids (withLogs events quarantined db) sendId set =
      withLogs events quarantined (countRepeat ids db sendId set) := rfl

@[simp] theorem setSoftBounceStreak_withLogs (streak : Nat → Nat) :
    setSoftBounceStreak (withLogs events quarantined db) contactId streak =
      withLogs events quarantined (setSoftBounceStreak db contactId streak) := rfl

@[simp] theorem softBounceStreak_withLogs :
    softBounceStreak (withLogs events quarantined db) contactId = softBounceStreak db contactId := rfl

theorem applyEventSideEffects_withLogs (event : AppliedEvent) :
    applyEventSideEffects platform now (withLogs events quarantined db) workspaceId send event =
      withLogs events quarantined (applyEventSideEffects platform now db workspaceId send event) := by
  unfold applyEventSideEffects
  cases event.normalizedType with
  | delivered | bounceHard | spamReport | unsubscribe | groupUnsubscribe =>
    simp
    split <;> rfl
  | «open» | click => simp
  | bounceSoft =>
    simp
    split
    · split <;> rfl
    · rfl
  | dropped =>
    simp
    split
    · split
      · rfl
      · split <;> rfl
      · rfl
      · rfl
    · rfl

theorem applyNewRow_withLogs (row : ExtractedEvent) :
    applyNewRow platform now workspaceId (withLogs events quarantined db) row =
      withLogs events quarantined (applyNewRow platform now workspaceId db row) := by
  have sends : (withLogs events quarantined db).sends = db.sends := rfl
  unfold applyNewRow
  rw [sends]
  split
  · rfl
  · split
    · split
      · exact applyEventSideEffects_withLogs _
      · rfl
    · rfl

theorem applyNewRows_withLogs (rows : List ExtractedEvent) (db : Database) :
    rows.foldl (applyNewRow platform now workspaceId) (withLogs events quarantined db) =
      withLogs events quarantined (rows.foldl (applyNewRow platform now workspaceId) db) := by
  induction rows generalizing db with
  | nil => rfl
  | cons row rest ih => rw [List.foldl_cons, applyNewRow_withLogs, ih, List.foldl_cons]

end SideEffects

def dedupKey (event : SendEvent) : Option (WorkspaceId × SendId × String × Timestamp) :=
  event.sendId.map fun sendId => (event.workspaceId, sendId, event.eventType, event.occurredAt)

def rowKey (platform : Platform) (workspaceId : WorkspaceId) (row : ExtractedEvent) :
    Option (WorkspaceId × SendId × String × Timestamp) :=
  dedupKey (storedEvent platform workspaceId row)

theorem sameDedupKey_iff {left right : SendEvent} :
    sameDedupKey left right = true ↔ ∃ key, dedupKey left = some key ∧ dedupKey right = some key := by
  constructor
  · intro same
    simp only [sameDedupKey, Bool.and_eq_true, beq_iff_eq] at same
    obtain ⟨⟨⟨⟨workspace, present⟩, sends⟩, types⟩, times⟩ := same
    obtain ⟨sendId, found⟩ := Option.isSome_iff_exists.mp present
    refine ⟨(left.workspaceId, sendId, left.eventType, left.occurredAt), ?_, ?_⟩
    · rw [dedupKey, found]
      rfl
    · rw [dedupKey, ← sends, found, workspace, types, times]
      rfl
  · rintro ⟨key, first, second⟩
    obtain ⟨sendId, found, rfl⟩ := Option.map_eq_some_iff.mp first
    obtain ⟨other, listed, same⟩ := Option.map_eq_some_iff.mp second
    simp only [Prod.mk.injEq] at same
    simp [sameDedupKey, found, listed, same]

theorem insertSendEvents_eq {platform : Platform} {workspaceId : WorkspaceId} (rows : List ExtractedEvent)
    (events : List SendEvent) :
    insertSendEvents platform workspaceId rows events =
      (winners (rowKey platform workspaceId) (events.filterMap dedupKey) rows,
        events ++ (winners (rowKey platform workspaceId) (events.filterMap dedupKey) rows).map
          (storedEvent platform workspaceId)) := by
  induction rows generalizing events with
  | nil => simp [insertSendEvents, winners]
  | cons row rest ih =>
    have taken : events.any (sameDedupKey (storedEvent platform workspaceId row)) = true ↔
        ∃ key, rowKey platform workspaceId row = some key ∧ key ∈ events.filterMap dedupKey := by
      simp only [List.any_eq_true, sameDedupKey_iff, List.mem_filterMap, rowKey]
      grind
    cases keyed : rowKey platform workspaceId row with
    | none =>
      have free : ¬ events.any (sameDedupKey (storedEvent platform workspaceId row)) = true := by
        rw [taken, keyed]
        rintro ⟨key, found, _⟩
        cases found
      have keyless : dedupKey (storedEvent platform workspaceId row) = none := keyed
      rw [insertSendEvents]
      simp [free, ih, winners_keyless keyed, keyless]
    | some key =>
      by_cases present : key ∈ events.filterMap dedupKey
      · have found : events.any (sameDedupKey (storedEvent platform workspaceId row)) = true :=
          taken.mpr ⟨key, keyed, present⟩
        rw [insertSendEvents]
        simp only [found, if_true, ih, winners_taken keyed present]
      · have free : ¬ events.any (sameDedupKey (storedEvent platform workspaceId row)) = true := by
          rw [taken]
          rintro ⟨other, same, stored⟩
          rw [keyed] at same
          cases same
          exact present stored
        have named : dedupKey (storedEvent platform workspaceId row) = some key := keyed
        rw [insertSendEvents]
        simp [free, ih, winners_fresh keyed present, named]

section Batches

variable {platform : Platform} {workspaceId : WorkspaceId}

def newRows (platform : Platform) (now : Timestamp) (db : Database) (workspaceId : WorkspaceId)
    (events : List JsonValue) : List ExtractedEvent :=
  if isWorkspaceSoftDeleted db.organizations workspaceId then []
  else (insertSendEvents platform workspaceId (submittedRows platform now db workspaceId events) db.sendEvents).1

theorem newRows_live {now : Timestamp} {db : Database} (events : List JsonValue)
    (live : isWorkspaceSoftDeleted db.organizations workspaceId = false) :
    newRows platform now db workspaceId events =
      winners (rowKey platform workspaceId) (db.sendEvents.filterMap dedupKey)
        (submittedRows platform now db workspaceId events) := by
  rw [newRows, live, if_neg Bool.false_ne_true, insertSendEvents_eq]

theorem withoutLogs_processWebhookEventBatch (now : Timestamp) (db : Database) (events : List JsonValue) :
    withoutLogs (processWebhookEventBatch platform now db workspaceId events) =
      (newRows platform now db workspaceId events).foldl (applyNewRow platform now workspaceId) (withoutLogs db) := by
  rw [processWebhookEventBatch, newRows]
  split
  · rfl
  · rw [withoutLogs, ← applyNewRows_withLogs]
    rfl

theorem sendEvents_applyNewRows {now : Timestamp} (rows : List ExtractedEvent) (db : Database) :
    (rows.foldl (applyNewRow platform now workspaceId) db).sendEvents = db.sendEvents := by
  have same : rows.foldl (applyNewRow platform now workspaceId) (withLogs db.sendEvents db.sendEventQuarantine db) =
      withLogs db.sendEvents db.sendEventQuarantine (rows.foldl (applyNewRow platform now workspaceId) db) :=
    applyNewRows_withLogs rows db
  have events := congrArg (fun db : Database => db.sendEvents) same
  exact events

theorem sendEvents_processWebhookEventBatch (now : Timestamp) (db : Database) (events : List JsonValue) :
    (processWebhookEventBatch platform now db workspaceId events).sendEvents =
      db.sendEvents ++ (newRows platform now db workspaceId events).map (storedEvent platform workspaceId) := by
  rw [processWebhookEventBatch, newRows]
  split
  · simp
  · simp only [sendEvents_applyNewRows, insertSendEvents_eq]

end Batches

end LocalCrm.Webhooks
