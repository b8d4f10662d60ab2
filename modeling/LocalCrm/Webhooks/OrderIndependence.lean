import LocalCrm.Webhooks.EventDedup
import LocalCrm.Webhooks.EventOrder
import LocalCrm.Webhooks.RollupAgreement

/-! When the order and the batches in which a send's events are processed decide nothing. -/

set_option autoImplicit false

namespace LocalCrm.Webhooks

open Library Delivery Standing

def deriveCurrentStatus (facts : SendFacts) (baseStatus : String) : String :=
  if facts.bouncedAt.isSome then "bounced"
  else if facts.droppedAt.isSome then "dropped"
  else if facts.spamReportedAt.isSome then "spam"
  else if facts.firstClickedAt.isSome then "clicked"
  else if facts.firstOpenedAt.isSome then "opened"
  else if facts.deliveredAt.isSome then "delivered"
  else baseStatus

def dropOutcome (reason : Option String) : DropOutcome :=
  match (resolveSuppression .dropped reason).map SuppressionOutcome.status with
  | some .suppressed => .suppresses
  | some .unsubscribed => .unsubscribes
  | some .subscribed | none => .nothing

def signalOf (type : NormalizedEventType) (reason : Option String) : Signal :=
  match type with
  | .delivered => .delivered
  | .open => .opened
  | .click => .clicked
  | .bounceHard => .hardBounce
  | .bounceSoft => .softBounce
  | .dropped => .dropped (dropOutcome reason)
  | .spamReport => .spam
  | .unsubscribe | .groupUnsubscribe => .unsubscribed

def addressListed (platform : Platform) (db : Database) (workspaceId : WorkspaceId) (contact : Contact) : Bool :=
  !truthy contact.email ||
    (db.suppressions.find? (workspaceId, platform.hashSuppressionEmail workspaceId (contact.email.getD ""))).isSome

def standingOf (platform : Platform) (db : Database) (send : Send) (contact : Contact) : Standing where
  set column := (column.read send.facts).isSome
  streak := contact.consecutiveSoftBounces
  status := contact.subscriptionStatus
  listed := addressListed platform db send.intent.workspaceId contact

def resolvedAs (ids : SendIdScheme) (intent : SendIntent) (contactId : ContactId) : ResolvedSend where
  id := ids.derive intent
  campaignId := intent.campaignId
  contactId

/-- The send and its contact stand as the standing says. -/
structure Stands (platform : Platform) (intent : SendIntent) (contactId : ContactId) (db : Database)
    (standing : Standing) : Prop where
  send : ∃ row, Locates platform.sendIds db.sends (platform.sendIds.derive intent) row ∧ row.intent = intent ∧
    row.contactId = contactId ∧ ∀ column : FactColumn, (column.read row.facts).isSome = standing.set column
  contact : ∃ contact, db.contacts.find? contactId = some contact ∧
    contact.consecutiveSoftBounces = standing.streak ∧ contact.subscriptionStatus = standing.status ∧
    addressListed platform db intent.workspaceId contact = standing.listed

section Effects

variable {platform : Platform} {intent : SendIntent} {contactId : ContactId}
  {db next : Database} {standing : Standing} {now occurredAt : Timestamp} {workspaceId : WorkspaceId}

theorem Stands.of_same (stands : Stands platform intent contactId db standing) (sends : next.sends = db.sends)
    (contacts : next.contacts = db.contacts) (suppressions : next.suppressions = db.suppressions) :
    Stands platform intent contactId next standing where
  send := by
    rw [sends]
    exact stands.send
  contact := by
    unfold addressListed
    rw [contacts, suppressions]
    exact stands.contact

theorem Stands.justSet (stands : Stands platform intent contactId db standing) (column : FactColumn)
    (reasonWrite : Option ReasonWrite) :
    (setFactColumnOnce platform.sendIds db.sends (platform.sendIds.derive intent) column occurredAt reasonWrite).1 =
      !standing.set column := by
  obtain ⟨row, located, _, _, facts⟩ := stands.send
  rw [← facts column, Option.not_isSome]
  exact justSet_of_located located column

theorem Stands.setOnce (stands : Stands platform intent contactId db standing) (column : FactColumn)
    (reasonWrite : Option ReasonWrite) :
    Stands platform intent contactId
      { db with
        sends := (setFactColumnOnce platform.sendIds db.sends (platform.sendIds.derive intent) column occurredAt
          reasonWrite).2 }
      (standing.record column) where
  send := by
    obtain ⟨row, located, named, owned, facts⟩ := stands.send
    cases unset : (column.read row.facts).isNone with
    | true =>
      refine ⟨_, located_updateFacts located unset, named, owned, ?_⟩
      intro other
      rw [set_record, read_firstWrite, ← facts other]
      split <;> simp_all
    | false =>
      have same : (setFactColumnOnce platform.sendIds db.sends (platform.sendIds.derive intent) column occurredAt
          reasonWrite).2 = db.sends :=
        @updateFacts_unguarded _ _ _ _ located (fun facts => (column.read facts).isNone) _ unset
      rw [same]
      refine ⟨row, located, named, owned, ?_⟩
      intro other
      rw [set_record, facts other]
      by_cases again : other = column
      · have set : standing.set column = true := by
          rw [← facts column, ← Option.not_isNone, unset]
          rfl
        rw [again, set, Bool.or_true]
      · rw [decide_eq_false again, Bool.false_or]
  contact := stands.contact

theorem Stands.counted (stands : Stands platform intent contactId db standing) (campaignId : Option CampaignId)
    (metric : Analytics.EngagementMetric) :
    Stands platform intent contactId (countForCampaign db campaignId metric) standing := by
  cases campaignId with
  | none => exact stands
  | some campaignId => exact stands.of_same rfl rfl rfl

theorem Stands.terminal (stands : Stands platform intent contactId db standing) (now occurredAt : Timestamp)
    (workspaceId : WorkspaceId) (column : FactColumn) (reasonWrite : Option ReasonWrite) :
    (recordTerminal platform.sendIds now db workspaceId (resolvedAs platform.sendIds intent contactId) column occurredAt
        reasonWrite).1 =
        !standing.set column ∧
      Stands platform intent contactId
        (recordTerminal platform.sendIds now db workspaceId (resolvedAs platform.sendIds intent contactId) column
          occurredAt reasonWrite).2
        (standing.record column) := by
  have justSet : (setFactColumnOnce platform.sendIds db.sends (platform.sendIds.derive intent) column occurredAt
      reasonWrite).1 = !standing.set column := stands.justSet column reasonWrite
  unfold recordTerminal
  simp only
  split
  · exact ⟨justSet, ((stands.setOnce column reasonWrite).counted _ _).of_same rfl rfl rfl⟩
  · exact ⟨justSet, stands.setOnce column reasonWrite⟩

theorem Stands.engagement (stands : Stands platform intent contactId db standing) (now occurredAt : Timestamp)
    (workspaceId : WorkspaceId) (column : FactColumn) (metric : Analytics.EngagementMetric) :
    (recordEngagement platform.sendIds now db workspaceId (resolvedAs platform.sendIds intent contactId) column
        occurredAt metric).1 =
        !standing.set column ∧
      Stands platform intent contactId
        (recordEngagement platform.sendIds now db workspaceId (resolvedAs platform.sendIds intent contactId) column
          occurredAt metric).2
        (standing.record column) := by
  have justSet : (setFactColumnOnce platform.sendIds db.sends (platform.sendIds.derive intent) column occurredAt
      none).1 = !standing.set column := stands.justSet column none
  unfold recordEngagement
  simp only
  split
  · exact ⟨justSet, ((stands.setOnce column none).counted _ _).of_same rfl rfl rfl⟩
  · exact ⟨justSet, stands.setOnce column none⟩

theorem contact_updated {contact : Contact} (set : Contact → Contact) (keeps : ∀ row, (set row).id = row.id)
    (found : db.contacts.find? contactId = some contact) :
    (db.contacts.update (fun contact => contact.id == contactId) set keeps).find? contactId = some (set contact) := by
  rw [Table.find?_update_at, if_pos rfl, found]
  rfl

theorem Stands.statusSet (stands : Stands platform intent contactId db standing) (status : SubscriptionStatus) :
    Stands platform intent contactId (setSubscriptionStatus db contactId status) (standing.become status) where
  send := stands.send
  contact := by
    obtain ⟨contact, found, streak, _, listed⟩ := stands.contact
    exact ⟨_, contact_updated (fun contact => { contact with subscriptionStatus := status }) (fun _ => rfl) found,
      streak, rfl, listed⟩

theorem isSome_find?_insert (list : Table Suppression.key) (row : Suppression) :
    ((list.insert row).find? (row.workspaceId, row.emailHash)).isSome = true := by
  have own : (list.insert row).find? row.key = (list.find? row.key).or (if row.key = row.key then some row else none) :=
    Table.find?_insert
  rw [if_pos rfl] at own
  rw [← Suppression.key, own]
  cases list.find? row.key <;> rfl

theorem Stands.suppress (stands : Stands platform intent contactId db standing)
    (own : intent.workspaceId = workspaceId) (reason : String) :
    Stands platform intent contactId (applySuppression platform db workspaceId contactId reason) standing.suppress := by
  subst own
  obtain ⟨contact, found, streak, _, _⟩ := stands.contact
  have updated := contact_updated (fun contact => { contact with subscriptionStatus := .suppressed })
    (fun _ => rfl) found
  unfold applySuppression
  rw [found]
  cases addressed : truthy contact.email with
  | true =>
    simp only [addressed, if_true]
    split
    all_goals
      refine ⟨stands.send, _, updated, streak, rfl, Bool.or_eq_true_iff.mpr (.inr ?_)⟩
      exact isSome_find?_insert db.suppressions
        { workspaceId := intent.workspaceId
          emailHash := platform.hashSuppressionEmail intent.workspaceId (contact.email.getD ""), reason }
  | false =>
    simp only [addressed, Bool.false_eq_true, if_false]
    split
    all_goals
      refine ⟨stands.send, _, updated, streak, rfl, Bool.or_eq_true_iff.mpr (.inl ?_)⟩
      rw [addressed]
      rfl

theorem Stands.streakSet (stands : Stands platform intent contactId db standing) (streak : Nat → Nat) :
    Stands platform intent contactId (setSoftBounceStreak db contactId streak)
      { standing with streak := streak standing.streak } where
  send := stands.send
  contact := by
    obtain ⟨contact, found, streaks, status, listed⟩ := stands.contact
    have updated := contact_updated
      (fun contact => { contact with consecutiveSoftBounces := streak contact.consecutiveSoftBounces })
      (fun _ => rfl) found
    exact ⟨_, updated, congrArg streak streaks, status, listed⟩

theorem Stands.streak_eq (stands : Stands platform intent contactId db standing) :
    softBounceStreak db contactId = standing.streak := by
  obtain ⟨contact, found, streak, _⟩ := stands.contact
  rw [softBounceStreak, found]
  exact streak

theorem Stands.repeated (stands : Stands platform intent contactId db standing) {set : SendFacts → SendFacts}
    (same : ∀ (column : FactColumn) facts, column.read (set facts) = column.read facts) :
    Stands platform intent contactId (countRepeat platform.sendIds db (platform.sendIds.derive intent) set)
      standing where
  send := by
    obtain ⟨row, located, named, owned, facts⟩ := stands.send
    refine ⟨_, located_updateFacts located rfl, named, owned, ?_⟩
    intro column
    rw [← facts column]
    exact congrArg Option.isSome (same column row.facts)
  contact := stands.contact

theorem Stands.unsubscribe (stands : Stands platform intent contactId db standing)
    (own : intent.workspaceId = workspaceId) (occurredAt : Timestamp) (source : String) :
    Stands platform intent contactId
      (applyUnsubscribeWithSendFact platform.sendIds db workspaceId contactId (platform.sendIds.derive intent)
        occurredAt source).2.2
      ((standing.record .unsubscribedAt).become .unsubscribed) := by
  obtain ⟨row, located, named, owned, _⟩ := stands.send
  obtain ⟨contact, found, _, status, _⟩ := stands.contact
  rw [applyUnsubscribe_some (resolveSend_located located (named ▸ own))]
  have set : Stands platform intent contactId
      { db with
        sends := (setFactColumnOnce platform.sendIds db.sends (platform.sendIds.derive intent) .unsubscribedAt
          occurredAt none).2 }
      (standing.record .unsubscribedAt) := stands.setOnce .unsubscribedAt none
  have recorded : Stands platform intent contactId (recordUnsubscribe db workspaceId contactId source)
      (standing.become .unsubscribed) := by
    unfold recordUnsubscribe
    rw [found]
    simp only
    split
    · exact (stands.statusSet .unsubscribed).of_same rfl rfl rfl
    · next already =>
      have same : standing.become .unsubscribed = standing := by
        rw [not_not, status] at already
        rw [become, ← already]
      rw [same]
      exact stands
  exact ⟨set.send, recorded.contact⟩

theorem record_of_set {column : FactColumn} (set : standing.set column = true) : standing.record column = standing := by
  ext other
  · rw [set_record]
    by_cases same : other = column
    · rw [same, set, Bool.or_true]
    · rw [decide_eq_false same, Bool.false_or]
  · rfl
  · rfl
  · rfl

theorem Stands.take (stands : Stands platform intent contactId db standing)
    (own : intent.workspaceId = workspaceId) (event : AppliedEvent) :
    Stands platform intent contactId
      (applyEventSideEffects platform now db workspaceId (resolvedAs platform.sendIds intent contactId) event)
      (standing.take (signalOf event.normalizedType event.reason)) := by
  unfold applyEventSideEffects
  cases event.normalizedType with
  | delivered =>
    obtain ⟨justSet, recorded⟩ := stands.engagement now event.occurredAt workspaceId .deliveredAt .delivered
    simp only [justSet, signalOf, Standing.take]
    cases set : standing.set .deliveredAt with
    | true => exact record_of_set set ▸ recorded
    | false => exact recorded.streakSet fun _ => 0
  | «open» =>
    obtain ⟨_, recorded⟩ := stands.engagement now event.occurredAt workspaceId .firstOpenedAt .opened
    exact recorded.repeated fun column facts => by cases column <;> rfl
  | click =>
    obtain ⟨_, recorded⟩ := stands.engagement now event.occurredAt workspaceId .firstClickedAt .clicked
    exact recorded.repeated fun column facts => by cases column <;> rfl
  | bounceHard =>
    obtain ⟨justSet, recorded⟩ := stands.terminal now event.occurredAt workspaceId .bouncedAt
      (some (.bounceReason (some "hard_bounce")))
    simp only [justSet, signalOf, Standing.take]
    cases set : standing.set .bouncedAt with
    | true => exact record_of_set set ▸ recorded
    | false => exact recorded.suppress own _
  | bounceSoft =>
    have raised : Stands platform intent contactId
        (setSoftBounceStreak db (resolvedAs platform.sendIds intent contactId).contactId (· + 1)) standing.raise :=
      stands.streakSet (· + 1)
    have streak : softBounceStreak (setSoftBounceStreak db (resolvedAs platform.sendIds intent contactId).contactId
        (· + 1)) (resolvedAs platform.sendIds intent contactId).contactId = standing.streak + 1 := raised.streak_eq
    obtain ⟨justSet, recorded⟩ := raised.terminal now event.occurredAt workspaceId .bouncedAt
      (some (.bounceReason (some "soft_bounce_streak")))
    simp only [signalOf, Standing.take, streak, ge_iff_le, justSet, set_raise]
    by_cases reached : softBounceSuppressThreshold ≤ standing.streak + 1
    · simp only [reached, if_true, true_and]
      cases set : standing.set .bouncedAt with
      | true => exact record_of_set (show standing.raise.set .bouncedAt = true from set) ▸ recorded
      | false => exact recorded.suppress own _
    · simp only [reached, if_false, false_and]
      exact raised
  | dropped =>
    obtain ⟨justSet, recorded⟩ := stands.terminal now event.occurredAt workspaceId .droppedAt
      (some (.dropReason event.reason))
    simp only [justSet, signalOf, Standing.take, dropOutcome]
    cases set : standing.set .droppedAt with
    | true => exact record_of_set set ▸ recorded
    | false =>
      -- the outcome decides what the first drop does to the contact
      cases resolved : resolveSuppression .dropped event.reason with
      | none => exact recorded
      | some outcome =>
        obtain ⟨status, reason⟩ := outcome
        cases status with
        | subscribed => exact recorded
        | suppressed => exact recorded.suppress own reason
        | unsubscribed =>
          have unsubscribed := recorded.unsubscribe own event.occurredAt "webhook_unsubscribe"
          simp only [Bool.not_false, if_true]
          split
          · exact unsubscribed.counted _ _
          · exact unsubscribed
  | spamReport =>
    obtain ⟨justSet, recorded⟩ := stands.terminal now event.occurredAt workspaceId .spamReportedAt none
    simp only [justSet, signalOf, Standing.take]
    cases set : standing.set .spamReportedAt with
    | true => exact record_of_set set ▸ recorded
    | false => exact recorded.suppress own _
  | unsubscribe | groupUnsubscribe =>
    have unsubscribed := stands.unsubscribe own event.occurredAt "webhook_unsubscribe"
    simp only
    split
    · exact (unsubscribed.counted _ _).of_same rfl rfl rfl
    · exact unsubscribed

end Effects

structure ValidEvents (platform : Platform) (send : Send) (now : Timestamp) (events : List JsonValue) : Prop where
  accepted : ∀ raw ∈ events, ∃ row, rowOf platform now raw = some row ∧ namesAsPrinted platform row send = true ∧
    row.isTest = false ∧ row.normalizedType.isSome = true
  distinct : (events.filterMap fun raw => (rowOf platform now raw).bind (rowKey platform send.intent.workspaceId)).Nodup

/-- The batches are the events in some order, each still accepted when its turn comes. -/
structure Processes (platform : Platform) (events : List JsonValue) (batches : List TimedBatch) : Prop where
  same : (batches.flatMap TimedBatch.events).Perm events
  accepted : ∀ batch ∈ batches, ∀ raw ∈ batch.events, (rowOf platform batch.now raw).isSome = true

def rowSignal (row : ExtractedEvent) : Option Signal := row.normalizedType.map fun type => signalOf type row.reason

def newSignal (platform : Platform) (db : Database) (workspaceId : WorkspaceId) (now : Timestamp) (raw : JsonValue) :
    Option Signal :=
  ((rowOf platform now raw).filter fun row =>
    (rowKey platform workspaceId row).all (· ∉ db.sendEvents.filterMap dedupKey)).bind rowSignal

section Batches

variable {platform : Platform} {db : Database} {send : Send} {standing : Standing} {now other : Timestamp}
  {events : List JsonValue} {batches : List TimedBatch} {row : ExtractedEvent}

theorem rows_of_processes (valid : ValidEvents platform send now events) (processed : Processes platform events batches)
    (stored : send ∈ db.sends.rows) :
    submittedRowsOf platform send.intent.workspaceId db batches =
      (batches.flatMap TimedBatch.events).filterMap (rowOf platform now) := by
  rw [List.filterMap_flatMap]
  apply List.flatMap_congr
  intro batch member
  rw [submittedRows_filterMap]
  apply List.filterMap_congr
  intro raw received
  have listed : raw ∈ events := processed.same.mem_iff.mp (List.mem_flatMap.mpr ⟨batch, member, received⟩)
  obtain ⟨row, accepted, named, _⟩ := valid.accepted raw listed
  obtain ⟨again, read⟩ := Option.isSome_iff_exists.mp (processed.accepted batch member raw received)
  rw [read, rowOf_again accepted read, accepted, Option.bind_some,
    submission_printed stored named, if_pos rfl]

theorem signals_of_processes (valid : ValidEvents platform send now events)
    (processed : Processes platform events batches) (stored : send ∈ db.sends.rows)
    (live : isWorkspaceSoftDeleted db.organizations send.intent.workspaceId = false) :
    ((appliedRows platform send.intent.workspaceId db batches).map Prod.snd).filterMap rowSignal =
      (batches.flatMap TimedBatch.events).filterMap (newSignal platform db send.intent.workspaceId now) := by
  have distinct : (((batches.flatMap TimedBatch.events).filterMap (rowOf platform now)).filterMap
      (rowKey platform send.intent.workspaceId)).Nodup := by
    rw [List.filterMap_filterMap]
    exact (processed.same.filterMap _).nodup_iff.mpr valid.distinct
  rw [appliedRows_live batches db live, rows_of_processes valid processed stored, winners_distinct distinct,
    ← List.filterMap_eq_filter, List.filterMap_filterMap, List.filterMap_filterMap]
  congr 1
  funext raw
  rw [newSignal]
  cases read : rowOf platform now raw with
  | none => rfl
  | some row =>
    simp only [Option.bind_some, Option.guard, Option.filter]
    split <;> simp_all

theorem applied_of_processes (valid : ValidEvents platform send now events)
    (processed : Processes platform events batches) (stored : send ∈ db.sends.rows)
    (live : isWorkspaceSoftDeleted db.organizations send.intent.workspaceId = false) :
    ∀ applied ∈ appliedRows platform send.intent.workspaceId db batches,
      namesAsPrinted platform applied.2 send = true ∧ applied.2.isTest = false ∧
        applied.2.normalizedType.isSome = true := by
  intro applied member
  have admitted : applied.2 ∈ (appliedRows platform send.intent.workspaceId db batches).map Prod.snd :=
    List.mem_map_of_mem member
  rw [appliedRows_live batches db live, rows_of_processes valid processed stored] at admitted
  obtain ⟨raw, received, accepted⟩ := List.mem_filterMap.mp (winners_sublist.subset admitted)
  obtain ⟨row, read, facts⟩ := valid.accepted raw (processed.same.mem_iff.mp received)
  obtain rfl := Option.some.inj (read.symm.trans accepted)
  exact facts

theorem Stands.applied {start : Database} {intent : SendIntent} {contactId : ContactId} (now : Timestamp)
    (stands : Stands platform intent contactId start standing) (own : send.intent = intent)
    (facts : namesAsPrinted platform row send = true ∧ row.isTest = false ∧ row.normalizedType.isSome = true) :
    Stands platform intent contactId (applyNewRow platform now intent.workspaceId start row)
      (standing.run (rowSignal row).toList) := by
  obtain ⟨named, real, typed⟩ := facts
  obtain ⟨type, normalized⟩ := Option.isSome_iff_exists.mp typed
  obtain ⟨found, located, kept, owned, _⟩ := stands.send
  have denoted : row.sendId.bind platform.uuidValue = some (platform.sendIds.derive intent) :=
    own ▸ eq_of_beq (denotes_of_printed named)
  have resolved : resolveSend platform.sendIds start.sends intent.workspaceId (platform.sendIds.derive intent) =
      some (resolvedAs platform.sendIds intent contactId) := by
    rw [resolveSend_located located (congrArg SendIntent.workspaceId kept), kept, owned]
    rfl
  have effect : applyNewRow platform now intent.workspaceId start row =
      applyEventSideEffects platform now start intent.workspaceId (resolvedAs platform.sendIds intent contactId)
        { normalizedType := type, reason := row.reason, occurredAt := row.occurredAt } := by
    unfold applyNewRow
    rw [real, normalized, denoted]
    simp only [Bool.false_eq_true, if_false, resolved]
  rw [effect, rowSignal, normalized]
  exact stands.take rfl _

theorem Stands.appliedAll {start : Database} {intent : SendIntent} {contactId : ContactId}
    {rows : List (Timestamp × ExtractedEvent)} (own : send.intent = intent)
    (facts : ∀ applied ∈ rows, namesAsPrinted platform applied.2 send = true ∧ applied.2.isTest = false ∧
      applied.2.normalizedType.isSome = true)
    (stands : Stands platform intent contactId start standing) :
    Stands platform intent contactId
      (rows.foldl (fun db applied => applyNewRow platform applied.1 intent.workspaceId db applied.2) start)
      (standing.run ((rows.map Prod.snd).filterMap rowSignal)) := by
  induction rows generalizing start standing with
  | nil => exact stands
  | cons applied rest ih =>
    obtain ⟨first, others⟩ := List.forall_mem_cons.mp facts
    have next := ih others (stands.applied applied.1 own first)
    have joined : (standing.run (rowSignal applied.2).toList).run ((rest.map Prod.snd).filterMap rowSignal) =
        standing.run (((applied :: rest).map Prod.snd).filterMap rowSignal) := by
      rw [← run_append, List.map_cons, List.filterMap_cons]
      cases rowSignal applied.2 <;> rfl
    rw [List.foldl_cons, ← joined]
    exact next

theorem stands_of_processes (valid : ValidEvents platform send now events)
    (processed : Processes platform events batches) (stored : send ∈ db.sends.rows)
    (live : isWorkspaceSoftDeleted db.organizations send.intent.workspaceId = false)
    (stands : Stands platform send.intent send.contactId db standing) :
    Stands platform send.intent send.contactId
      (processWebhookEventBatches platform send.intent.workspaceId db batches)
      (standing.run ((batches.flatMap TimedBatch.events).filterMap
        (newSignal platform db send.intent.workspaceId now))) := by
  have start : Stands platform send.intent send.contactId (withoutLogs db) standing := stands.of_same rfl rfl rfl
  have reached := start.appliedAll rfl (applied_of_processes valid processed stored live)
  rw [← withoutLogs_batches, signals_of_processes valid processed stored live] at reached
  exact reached.of_same rfl rfl rfl

end Batches

section Outcomes

variable {platform : Platform} {db first second : Database} {send : Send} {contact : Contact} {now : Timestamp}
  {events : List JsonValue} {one two : Standing}

/-- The send and its contact come out alike: the facts that are set, the status and the suppression. -/
structure SameOutcome (platform : Platform) (send : Send) (first second : Database) : Prop where
  facts : ∀ column : FactColumn, (first.sends.find? send.intent).map (fun row => (column.read row.facts).isSome) =
    (second.sends.find? send.intent).map fun row => (column.read row.facts).isSome
  status : (first.sends.find? send.intent).map (fun row => deriveCurrentStatus row.facts (row.status.text)) =
    (second.sends.find? send.intent).map fun row => deriveCurrentStatus row.facts (row.status.text)
  subscription : (first.contacts.find? send.contactId).map Contact.subscriptionStatus =
    (second.contacts.find? send.contactId).map Contact.subscriptionStatus
  suppression : (first.contacts.find? send.contactId).map (addressListed platform first send.intent.workspaceId) =
    (second.contacts.find? send.contactId).map (addressListed platform second send.intent.workspaceId)

theorem SameOutcome.refl (platform : Platform) (send : Send) (db : Database) : SameOutcome platform send db db :=
  ⟨fun _ => rfl, rfl, rfl, rfl⟩

theorem deriveCurrentStatus_congr {facts other : SendFacts} (baseStatus : String)
    (same : ∀ column : FactColumn, (column.read facts).isSome = (column.read other).isSome) :
    deriveCurrentStatus facts baseStatus = deriveCurrentStatus other baseStatus := by
  have bounced : facts.bouncedAt.isSome = other.bouncedAt.isSome := same .bouncedAt
  have dropped : facts.droppedAt.isSome = other.droppedAt.isSome := same .droppedAt
  have reported : facts.spamReportedAt.isSome = other.spamReportedAt.isSome := same .spamReportedAt
  have clicked : facts.firstClickedAt.isSome = other.firstClickedAt.isSome := same .firstClickedAt
  have opened : facts.firstOpenedAt.isSome = other.firstOpenedAt.isSome := same .firstOpenedAt
  have delivered : facts.deliveredAt.isSome = other.deliveredAt.isSome := same .deliveredAt
  unfold deriveCurrentStatus
  rw [bounced, dropped, reported, clicked, opened, delivered]

theorem sameOutcome_iff (kept : DeliveryKept first second)
    (stands : Stands platform send.intent send.contactId first one)
    (others : Stands platform send.intent send.contactId second two) :
    SameOutcome platform send first second ↔ SameStanding one two := by
  obtain ⟨⟨row, ⟨stored, _⟩, named, _, facts⟩, contact, found, _, status, listed⟩ := stands
  obtain ⟨⟨other, ⟨otherStored, _⟩, otherNamed, _, otherFacts⟩, again, foundAgain, _, statusAgain, listedAgain⟩ :=
    others
  rw [named] at stored
  rw [otherNamed] at otherStored
  have base : other.status = row.status := by
    have columns := kept.status send.intent
    rw [statusOf, statusOf, stored, otherStored] at columns
    exact Option.some.inj columns
  constructor
  · intro same
    obtain ⟨sameFacts, _, subscription, suppression⟩ := same
    rw [found, foundAgain, Option.map_some, Option.map_some] at subscription suppression
    refine ⟨?_, ?_, ?_⟩
    · funext column
      have read := sameFacts column
      rw [stored, otherStored] at read
      rw [← facts column, ← otherFacts column]
      exact Option.some.inj read
    · rw [← status, ← statusAgain]
      exact Option.some.inj subscription
    · rw [← listed, ← listedAgain]
      exact Option.some.inj suppression
  · rintro ⟨sameSet, sameStatus, sameListed⟩
    have columns : ∀ column : FactColumn, (column.read row.facts).isSome = (column.read other.facts).isSome := by
      intro column
      rw [facts, otherFacts, sameSet]
    constructor
    · intro column
      rw [stored, otherStored]
      exact congrArg some (columns column)
    · rw [stored, otherStored, Option.map_some, Option.map_some, base, deriveCurrentStatus_congr _ columns]
    · rw [found, foundAgain, Option.map_some, Option.map_some, status, statusAgain, sameStatus]
    · rw [found, foundAgain, Option.map_some, Option.map_some, listed, listedAgain, sameListed]

theorem exists_perm_filterMap {α β : Type} {f : α → Option β} {wanted : List β} {items : List α}
    (moved : wanted.Perm (items.filterMap f)) : ∃ order : List α, order.Perm items ∧ order.filterMap f = wanted := by
  induction items generalizing wanted with
  | nil => exact ⟨[], .refl _, moved.eq_nil.symm⟩
  | cons item rest ih =>
    cases value : f item with
    | none =>
      rw [List.filterMap_cons_none value] at moved
      obtain ⟨order, same, mapped⟩ := ih moved
      exact ⟨item :: order, same.cons item, (List.filterMap_cons_none value).trans mapped⟩
    | some image =>
      rw [List.filterMap_cons_some value] at moved
      obtain ⟨before, after, rfl⟩ := List.append_of_mem (moved.mem_iff.mpr List.mem_cons_self)
      obtain ⟨order, same, mapped⟩ := ih (List.perm_middle.symm.trans moved).cons_inv
      -- the item goes where its image stands
      obtain ⟨left, right, rfl, mappedLeft, mappedRight⟩ := List.filterMap_eq_append_iff.mp mapped
      refine ⟨left ++ item :: right, List.perm_middle.trans (same.cons item), ?_⟩
      rw [List.filterMap_append, List.filterMap_cons_some value, mappedLeft, mappedRight]

theorem processes_batch (valid : ValidEvents platform send now events) {order : List JsonValue}
    (moved : order.Perm events) : Processes platform events [{ now, events := order }] where
  same := by
    rw [List.flatMap_singleton]
    exact moved
  accepted := by
    intro batch member raw received
    obtain rfl := List.mem_singleton.mp member
    obtain ⟨row, accepted, _⟩ := valid.accepted raw (moved.mem_iff.mp received)
    rw [accepted]
    rfl

theorem kept_of_batches (workspaceId : WorkspaceId) (db : Database) (batches : List TimedBatch) :
    DeliveryKept db (processWebhookEventBatches platform workspaceId db batches) := by
  induction batches generalizing db with
  | nil => exact .refl db
  | cons batch rest ih =>
    have step : DeliveryKept db (processWebhookEventBatch platform batch.now db workspaceId batch.events) :=
      kept_of_processWebhookEventBatch batch.events
    exact step.trans (ih _)

theorem processed_deleted (batches : List TimedBatch) {workspaceId : WorkspaceId}
    (deleted : isWorkspaceSoftDeleted db.organizations workspaceId = true) :
    processWebhookEventBatches platform workspaceId db batches = db := by
  induction batches with
  | nil => rfl
  | cons batch rest ih =>
    have same : processWebhookEventBatch platform batch.now db workspaceId batch.events = db := if_pos deleted
    show processWebhookEventBatches platform workspaceId
      (processWebhookEventBatch platform batch.now db workspaceId batch.events) rest = db
    rw [same, ih]

/-- Every order and split of a send's events comes out alike exactly when the order of the new signals decides
nothing. -/
theorem order_independent_iff (platform : Platform) (db : Database) (send : Send) (contact : Contact) (now : Timestamp)
    (events : List JsonValue) (stored : db.sends.find? send.intent = some send)
    (known : db.contacts.find? send.contactId = some contact) (valid : ValidEvents platform send now events) :
    (∀ first second, Processes platform events first → Processes platform events second →
      SameOutcome platform send (processWebhookEventBatches platform send.intent.workspaceId db first)
        (processWebhookEventBatches platform send.intent.workspaceId db second)) ↔
      isWorkspaceSoftDeleted db.organizations send.intent.workspaceId = true ∨
        OrderFree (standingOf platform db send contact)
          (events.filterMap (newSignal platform db send.intent.workspaceId now)) := by
  cases live : isWorkspaceSoftDeleted db.organizations send.intent.workspaceId with
  | true =>
    refine ⟨fun _ => .inl rfl, fun _ first second _ _ => ?_⟩
    rw [processed_deleted first live, processed_deleted second live]
    exact .refl platform send db
  | false =>
    have start : Stands platform send.intent send.contactId db (standingOf platform db send contact) :=
      ⟨⟨send, ⟨stored, rfl⟩, rfl, rfl, fun _ => rfl⟩, contact, known, rfl, rfl, rfl⟩
    have member : send ∈ db.sends.rows := Table.mem_of_find? stored
    have compared : ∀ first second, Processes platform events first → Processes platform events second →
        (SameOutcome platform send (processWebhookEventBatches platform send.intent.workspaceId db first)
          (processWebhookEventBatches platform send.intent.workspaceId db second) ↔
        SameStanding
          ((standingOf platform db send contact).run ((first.flatMap TimedBatch.events).filterMap
            (newSignal platform db send.intent.workspaceId now)))
          ((standingOf platform db send contact).run ((second.flatMap TimedBatch.events).filterMap
            (newSignal platform db send.intent.workspaceId now)))) := by
      intro first second one two
      apply sameOutcome_iff ((kept_of_batches _ db first).symm.trans (kept_of_batches _ db second))
      · exact stands_of_processes valid one member live start
      · exact stands_of_processes valid two member live start
    rw [← agree_iff_orderFree]
    constructor
    · intro same
      right
      intro first second moved other
      obtain ⟨order, arranged, rfl⟩ := exists_perm_filterMap moved
      obtain ⟨again, rearranged, rfl⟩ := exists_perm_filterMap other
      have one := processes_batch valid arranged
      have two := processes_batch valid rearranged
      have both := (compared _ _ one two).mp (same _ _ one two)
      rw [List.flatMap_singleton, List.flatMap_singleton] at both
      exact both
    · rintro (deleted | agree) first second one two
      · cases deleted
      · apply (compared first second one two).mpr
        exact agree _ _ (one.same.filterMap _) (two.same.filterMap _)

end Outcomes

def reportAt (second : Int) (event type : String) : JsonValue :=
  .object [("sg_event_id", .string "e"), ("event", .string event), ("type", .string type),
    ("timestamp", .number second), ("send_id", .string "00000000-0000-0000-0000-00000000000a")]

def softBounceAt (second : Int) : JsonValue := reportAt second "bounce" "blocked"

def bouncedContact : Contact := { id := 0, workspaceId := 1, email := some "a@b.c" }

def reportsAreValid (platform : Platform) (send : Send) (now : Timestamp) (events : List JsonValue) : Bool :=
  events.all fun raw => (rowOf platform now raw).any fun row =>
    namesAsPrinted platform row send && !row.isTest && row.normalizedType.isSome

theorem validEvents_of_check {platform : Platform} {send : Send} {now : Timestamp} {events : List JsonValue}
    (checked : reportsAreValid platform send now events = true)
    (distinct : (events.filterMap fun raw =>
      (rowOf platform now raw).bind (rowKey platform send.intent.workspaceId)).Nodup) :
    ValidEvents platform send now events := by
  refine ⟨fun raw listed => ?_, distinct⟩
  obtain ⟨row, read, both⟩ := (Option.any_eq_true _ _).mp (List.all_eq_true.mp checked raw listed)
  simp only [Bool.and_eq_true, Bool.not_eq_true'] at both
  exact ⟨row, read, both.1.1, both.1.2, both.2⟩

theorem soft_bounces_come_out_alike :
    ¬ ∃ first second, Processes uuidPlatform [softBounceAt 0, softBounceAt 1] first ∧
      Processes uuidPlatform [softBounceAt 0, softBounceAt 1] second ∧
      ¬ SameOutcome uuidPlatform bouncedSend (processWebhookEventBatches uuidPlatform 1 bouncedDatabase first)
        (processWebhookEventBatches uuidPlatform 1 bouncedDatabase second) := by
  rintro ⟨first, second, one, two, differ⟩
  have valid : ValidEvents uuidPlatform bouncedSend 9000 [softBounceAt 0, softBounceAt 1] :=
    validEvents_of_check (by decide +kernel) (by decide +kernel)
  have signals : [softBounceAt 0, softBounceAt 1].filterMap (newSignal uuidPlatform bouncedDatabase 1 9000) =
      [.softBounce, .softBounce] := by
    decide +kernel
  have free : OrderFree (standingOf uuidPlatform bouncedDatabase bouncedSend bouncedContact)
      [.softBounce, .softBounce] := by
    constructor <;> simp [standingOf, bouncedContact, softBounceSuppressThreshold]
  exact differ ((order_independent_iff uuidPlatform bouncedDatabase bouncedSend bouncedContact 9000
    [softBounceAt 0, softBounceAt 1] (by decide +kernel) (by decide +kernel) valid).mpr (.inr (signals ▸ free))
    first second one two)

/-- Three soft bounces and a delivery: delivered last they bounce the send, delivered second they do not. -/
theorem delivery_splits_streak :
    ¬ ∀ (platform : Platform) (db : Database) (send : Send) (contact : Contact) (now : Timestamp)
      (events : List JsonValue), db.sends.find? send.intent = some send →
      db.contacts.find? send.contactId = some contact → ValidEvents platform send now events →
      ∀ first second, Processes platform events first → Processes platform events second →
        SameOutcome platform send (processWebhookEventBatches platform send.intent.workspaceId db first)
          (processWebhookEventBatches platform send.intent.workspaceId db second) := by
  intro always
  have valid : ValidEvents uuidPlatform bouncedSend 9000
      [softBounceAt 0, softBounceAt 1, softBounceAt 2, reportAt 3 "delivered" ""] :=
    validEvents_of_check (by decide +kernel) (by decide +kernel)
  have moved : [softBounceAt 0, reportAt 3 "delivered" "", softBounceAt 1, softBounceAt 2].Perm
      [softBounceAt 0, softBounceAt 1, softBounceAt 2, reportAt 3 "delivered" ""] :=
    (@List.perm_append_comm _ [reportAt 3 "delivered" ""] [softBounceAt 1, softBounceAt 2]).cons _
  have same := always uuidPlatform bouncedDatabase bouncedSend bouncedContact 9000 _ (by decide +kernel)
    (by decide +kernel) valid _ _ (processes_batch valid (.refl _)) (processes_batch valid moved)
  exact absurd same.status (by decide +kernel)

end LocalCrm.Webhooks
