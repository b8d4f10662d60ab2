import LocalCrm.Analytics.Reconciliation
import LocalCrm.Webhooks.DeliveryFrame

/-! What an event adds to the daily rollup and what it adds to a recount. -/

set_option autoImplicit false

namespace LocalCrm.Webhooks

open Library Analytics

def rolledCount (rollups : Rollups) (workspaceId : WorkspaceId) (day : Day) (metric : EngagementMetric) : Nat :=
  ((rollups.find? (workspaceId, day)).map fun rollup => metric.read rollup.engagement).getD 0

def FactColumn.metric : FactColumn → EngagementMetric
  | deliveredAt => .delivered
  | firstOpenedAt => .opened
  | firstClickedAt => .clicked
  | bouncedAt | droppedAt | spamReportedAt => .bounced
  | unsubscribedAt => .unsubscribed

/-- One on the day of the time and under the metric, nothing elsewhere. -/
def oneOn (occurredAt : Timestamp) (wanted : EngagementMetric) (day : Day) (metric : EngagementMetric) : Nat :=
  if utcDay occurredAt = day ∧ wanted = metric then 1 else 0

theorem countsOn_firstWrite {column : FactColumn} {facts : SendFacts} (unset : column.read facts = none)
    (occurredAt : Timestamp) (reasonWrite : Option ReasonWrite) (day : Day) (metric : EngagementMetric) :
    countsOn day metric (firstWrite column occurredAt reasonWrite facts) =
      (countsOn day metric facts || decide (utcDay occurredAt = day ∧ column.metric = metric)) := by
  have written : countsOn day metric (firstWrite column occurredAt reasonWrite facts) =
      countsOn day metric (column.write occurredAt facts) := by
    cases reasonWrite with
    | none => rfl
    | some write => cases write <;> cases metric <;> rfl
  cases column <;> cases metric <;>
    simp_all [countsOn, FactColumn.write, FactColumn.read, FactColumn.metric, onDay, beq_eq_decide, Bool.or_comm,
      Bool.or_assoc]

theorem rolledCount_increment (now : Timestamp) (rollups : Rollups) (workspaceId : WorkspaceId)
    (occurredAt : Timestamp) (wanted : EngagementMetric) (day : Day) (metric : EngagementMetric) :
    rolledCount (incrementWorkspaceDailyRollup now rollups workspaceId occurredAt wanted) workspaceId day metric =
      rolledCount rollups workspaceId day metric + oneOn occurredAt wanted day metric := by
  have read : ∀ rollup, metric.read (incrementedRollup now wanted rollup).engagement =
      metric.read rollup.engagement + if metric = wanted then 1 else 0 := by
    intro rollup
    unfold incrementedRollup
    split <;> simp [dirtiedRollup, bumpedRollup]
  have zero : metric.read ({} : EngagementCounts) = 0 := by
    cases metric <;> rfl
  rw [rolledCount, find?_incrementWorkspaceDailyRollup, rolledCount, oneOn]
  by_cases same : utcDay occurredAt = day
  · subst same
    rw [if_pos rfl, Option.map_some, Option.getD_some, read]
    cases rollups.find? (workspaceId, utcDay occurredAt) <;> simp [eq_comm, zero]
  · simp [same]

section Sends

variable {ids : SendIdScheme} {sends : Sends} {row : Send} {sendId : SendId}

def Locates (ids : SendIdScheme) (sends : Sends) (sendId : SendId) (row : Send) : Prop :=
  sends.find? row.intent = some row ∧ ids.derive row.intent = sendId

theorem factsMatch_located (located : Locates ids sends sendId row) (guard : SendFacts → Bool) :
    factsMatch ids sends sendId guard = guard row.facts := by
  obtain ⟨found, rfl⟩ := located
  rw [factsMatch, Bool.eq_iff_iff, List.any_eq_true]
  constructor
  · rintro ⟨other, stored, both⟩
    obtain ⟨same, guarded⟩ := Bool.and_eq_true_iff.mp both
    obtain rfl := Table.eq_of_find? found stored (ids.derive_eq.mp (eq_of_beq same))
    exact guarded
  · intro guarded
    exact ⟨row, Table.mem_of_find? found, Bool.and_eq_true_iff.mpr ⟨beq_self_eq_true _, guarded⟩⟩

theorem justSet_of_located (located : Locates ids sends sendId row) (column : FactColumn) {occurredAt : Timestamp}
    {reasonWrite : Option ReasonWrite} :
    (setFactColumnOnce ids sends sendId column occurredAt reasonWrite).1 = (column.read row.facts).isNone :=
  factsMatch_located located fun facts => (column.read facts).isNone

theorem located_updateFacts (located : Locates ids sends sendId row) {guard : SendFacts → Bool}
    {set : SendFacts → SendFacts} (guarded : guard row.facts = true) :
    Locates ids (updateFacts ids sends sendId guard set) sendId { row with facts := set row.facts } := by
  obtain ⟨found, rfl⟩ := located
  refine ⟨?_, rfl⟩
  rw [find?_updateFacts, found, Option.map_some, if_pos]
  exact Bool.and_eq_true_iff.mpr ⟨beq_self_eq_true _, guarded⟩

theorem updateFacts_unguarded (located : Locates ids sends sendId row) {guard : SendFacts → Bool}
    {set : SendFacts → SendFacts} (unguarded : guard row.facts = false) :
    updateFacts ids sends sendId guard set = sends := by
  obtain ⟨found, rfl⟩ := located
  apply Table.ext
  have same : ∀ other ∈ sends.rows, (if ids.derive other.intent == ids.derive row.intent && guard other.facts then
      { other with facts := set other.facts } else other) = other := by
    intro other stored
    apply if_neg
    intro both
    obtain ⟨equal, guarded⟩ := Bool.and_eq_true_iff.mp both
    obtain rfl := Table.eq_of_find? found stored (ids.derive_eq.mp (eq_of_beq equal))
    rw [unguarded] at guarded
    cases guarded
  exact (List.map_congr_left same).trans (List.map_id _)

theorem recountMetric_updateFacts (located : Locates ids sends sendId row) {guard : SendFacts → Bool}
    {set : SendFacts → SendFacts} (guarded : guard row.facts = true) (day : Day) (metric : EngagementMetric) :
    recountMetric (updateFacts ids sends sendId guard set) row.intent.workspaceId day metric +
        (countsOn day metric row.facts).toNat =
      recountMetric sends row.intent.workspaceId day metric + (countsOn day metric (set row.facts)).toNat := by
  have after : Locates ids (updateFacts ids sends sendId guard set) sendId { row with facts := set row.facts } :=
    located_updateFacts located guarded
  have others : ∀ wanted, wanted ≠ row.intent →
      (updateFacts ids sends sendId guard set).find? wanted = sends.find? wanted := by
    intro wanted differs
    rw [find?_updateFacts]
    cases found : sends.find? wanted with
    | none => rfl
    | some other =>
      have keyed : other.intent = wanted := Table.key_of_find? found
      have apart : ¬ (ids.derive other.intent == sendId && guard other.facts) = true := by
        intro both
        have same := eq_of_beq (Bool.and_eq_true_iff.mp both).1
        rw [← located.2, ids.derive_eq, keyed] at same
        exact differs same
      rw [Option.map_some, if_neg apart]
  have change := Table.count_change sends (updateFacts ids sends sendId guard set)
    (fun other => other.intent.workspaceId == row.intent.workspaceId && countsOn day metric other.facts) row.intent
    (fun wanted differs => by rw [others wanted differs])
  have present : (updateFacts ids sends sendId guard set).find? row.intent =
    some { row with facts := set row.facts } := after.1
  rw [located.1, present] at change
  simpa [recountMetric] using change

end Sends

/-- From one database to the next the rollup of the workspace gains what is posted, and a recount
what is owed. -/
structure Books (workspaceId : WorkspaceId) (db next : Database) (posted owed : Day → EngagementMetric → Nat) :
    Prop where
  rolled : ∀ day metric, rolledCount next.dailyRollups workspaceId day metric =
    rolledCount db.dailyRollups workspaceId day metric + posted day metric
  recounted : ∀ day metric, recountMetric next.sends workspaceId day metric =
    recountMetric db.sends workspaceId day metric + owed day metric

def nothing (_ : Day) (_ : EngagementMetric) : Nat := 0

def owedFor (column : FactColumn) (occurredAt : Timestamp) (facts : SendFacts) (day : Day)
    (metric : EngagementMetric) : Nat :=
  if column.read facts = none ∧ countsOn day column.metric facts = false then oneOn occurredAt column.metric day metric
  else 0

section Entries

variable {platform : Platform} {ids : SendIdScheme} {now : Timestamp} {workspaceId : WorkspaceId}
  {db next last : Database} {posted owed : Day → EngagementMetric → Nat} {send : ResolvedSend} {row : Send}
  {contactId : ContactId} {occurredAt : Timestamp}

theorem books_of_kept (rollups : next.dailyRollups = db.dailyRollups) (sends : next.sends = db.sends) :
    Books workspaceId db next nothing nothing := by
  constructor
  · intro day metric
    rw [rollups]
    rfl
  · intro day metric
    rw [sends]
    rfl

theorem Books.comp {morePosted moreOwed : Day → EngagementMetric → Nat}
    (first : Books workspaceId db next posted owed) (second : Books workspaceId next last morePosted moreOwed) :
    Books workspaceId db last (fun day metric => posted day metric + morePosted day metric)
      fun day metric => owed day metric + moreOwed day metric := by
  constructor
  · intro day metric
    rw [second.rolled, first.rolled, Nat.add_assoc]
  · intro day metric
    rw [second.recounted, first.recounted, Nat.add_assoc]

theorem Books.of_eq {otherPosted otherOwed : Day → EngagementMetric → Nat} (first : Books workspaceId db next posted owed)
    (samePosted : ∀ day metric, posted day metric = otherPosted day metric)
    (sameOwed : ∀ day metric, owed day metric = otherOwed day metric) :
    Books workspaceId db next otherPosted otherOwed :=
  ⟨fun day metric => by rw [first.rolled, samePosted], fun day metric => by rw [first.recounted, sameOwed]⟩

theorem Books.idle (first : Books workspaceId db next posted owed) (rollups : last.dailyRollups = next.dailyRollups)
    (sends : last.sends = next.sends) : Books workspaceId db last posted owed :=
  first.comp (books_of_kept rollups sends)

theorem Books.after (second : Books workspaceId next last posted owed) (rollups : next.dailyRollups = db.dailyRollups)
    (sends : next.sends = db.sends) : Books workspaceId db last posted owed := by
  constructor
  · intro day metric
    rw [second.rolled, rollups]
  · intro day metric
    rw [second.recounted, sends]

theorem books_countForDay (metric : EngagementMetric) :
    Books workspaceId db (countForDay now db workspaceId occurredAt metric) (oneOn occurredAt metric) nothing :=
  ⟨rolledCount_increment now db.dailyRollups workspaceId occurredAt metric, fun _ _ => rfl⟩

theorem books_countForCampaign (campaignId : Option CampaignId) (metric : EngagementMetric) :
    Books workspaceId db (countForCampaign db campaignId metric) nothing nothing := by
  cases campaignId with
  | none | some => exact books_of_kept rfl rfl

theorem books_counted (campaignId : Option CampaignId) (metric : EngagementMetric) :
    Books workspaceId db (countForDay now (countForCampaign db campaignId metric) workspaceId occurredAt metric)
      (oneOn occurredAt metric) nothing :=
  ((books_countForCampaign campaignId metric).comp (books_countForDay metric)).of_eq (fun _ _ => Nat.zero_add _)
    fun _ _ => rfl

theorem books_setFactColumnOnce (located : Locates ids db.sends send.id row)
    (own : row.intent.workspaceId = workspaceId) (column : FactColumn) (reasonWrite : Option ReasonWrite) :
    Books workspaceId db { db with sends := (setFactColumnOnce ids db.sends send.id column occurredAt reasonWrite).2 }
      nothing (owedFor column occurredAt row.facts) := by
  refine ⟨fun _ _ => rfl, ?_⟩
  intro day metric
  subst own
  cases unset : (column.read row.facts).isNone with
  | false =>
    have same : updateFacts ids db.sends send.id (fun facts => (column.read facts).isNone)
        (firstWrite column occurredAt reasonWrite) = db.sends := updateFacts_unguarded located unset
    have set : column.read row.facts ≠ none :=
      Option.isSome_iff_ne_none.mp (Option.isNone_eq_false_iff.mp unset)
    rw [owedFor, if_neg (fun both => set both.1)]
    exact congrArg (recountMetric · row.intent.workspaceId day metric) same
  | true =>
    have moved : recountMetric (updateFacts ids db.sends send.id (fun facts => (column.read facts).isNone)
          (firstWrite column occurredAt reasonWrite)) row.intent.workspaceId day metric +
          (countsOn day metric row.facts).toNat =
        recountMetric db.sends row.intent.workspaceId day metric +
          (countsOn day metric (firstWrite column occurredAt reasonWrite row.facts)).toNat :=
      recountMetric_updateFacts located unset day metric
    have empty : column.read row.facts = none := Option.isNone_iff_eq_none.mp unset
    rw [countsOn_firstWrite empty] at moved
    have written : recountMetric (updateFacts ids db.sends send.id (fun facts => (column.read facts).isNone)
          (firstWrite column occurredAt reasonWrite)) row.intent.workspaceId day metric =
        recountMetric db.sends row.intent.workspaceId day metric + owedFor column occurredAt row.facts day metric := by
      unfold owedFor oneOn
      by_cases hit : utcDay occurredAt = day ∧ column.metric = metric
      · obtain ⟨rfl, rfl⟩ := hit
        cases counted : countsOn (utcDay occurredAt) column.metric row.facts <;> simp_all
      · cases counted : countsOn day metric row.facts <;> simp_all
    exact written

def noTerminal (facts : SendFacts) : Prop :=
  facts.bouncedAt = none ∧ facts.droppedAt = none ∧ facts.spamReportedAt = none

instance (facts : SendFacts) : Decidable (noTerminal facts) := inferInstanceAs (Decidable (_ ∧ _ ∧ _))

def postedFor (column : FactColumn) (occurredAt : Timestamp) (facts : SendFacts) (day : Day)
    (metric : EngagementMetric) : Nat :=
  if column.read facts = none ∧ (column.metric = .bounced → noTerminal facts) then
    oneOn occurredAt column.metric day metric
  else 0

theorem postedFor_set {column : FactColumn} {facts : SendFacts} (unset : (column.read facts).isNone = false) (day : Day)
    (metric : EngagementMetric) : nothing day metric = postedFor column occurredAt facts day metric := by
  have set : column.read facts ≠ none := Option.isSome_iff_ne_none.mp (Option.isNone_eq_false_iff.mp unset)
  rw [postedFor, if_neg fun both => set both.1]
  rfl

theorem postedFor_first {column : FactColumn} {facts : SendFacts} (unset : (column.read facts).isNone = true)
    (first : column.metric = .bounced → noTerminal facts) (day : Day) (metric : EngagementMetric) :
    nothing day metric + oneOn occurredAt column.metric day metric = postedFor column occurredAt facts day metric := by
  rw [postedFor, if_pos ⟨Option.isNone_iff_eq_none.mp unset, first⟩]
  exact Nat.zero_add _

theorem isFirst_iff_noTerminal {column : FactColumn} (terminal : column.metric = .bounced)
    {facts : SendFacts} (unset : column.read facts = none) (reasonWrite : Option ReasonWrite) :
    ((firstWrite column occurredAt reasonWrite facts).bouncedAt.isSome.toNat +
      (firstWrite column occurredAt reasonWrite facts).droppedAt.isSome.toNat +
      (firstWrite column occurredAt reasonWrite facts).spamReportedAt.isSome.toNat == 1) = decide (noTerminal facts) := by
  have written : ∀ other : FactColumn, other.read (firstWrite column occurredAt reasonWrite facts) =
      if other = column then some occurredAt else other.read facts := fun other => read_firstWrite column other _ _ _
  have bounced := written .bouncedAt
  have dropped := written .droppedAt
  have spam := written .spamReportedAt
  simp only [FactColumn.read] at bounced dropped spam
  rw [bounced, dropped, spam]
  cases column with
  | deliveredAt | firstOpenedAt | firstClickedAt | unsubscribedAt => cases terminal
  | bouncedAt =>
    have none : facts.bouncedAt = none := unset
    cases dropped : facts.droppedAt <;> cases spam : facts.spamReportedAt <;> simp [noTerminal, none, dropped, spam]
  | droppedAt =>
    have none : facts.droppedAt = none := unset
    cases bounced : facts.bouncedAt <;> cases spam : facts.spamReportedAt <;> simp [noTerminal, none, bounced, spam]
  | spamReportedAt =>
    have none : facts.spamReportedAt = none := unset
    cases bounced : facts.bouncedAt <;> cases dropped : facts.droppedAt <;> simp [noTerminal, none, bounced, dropped]

theorem books_recordTerminal (located : Locates ids db.sends send.id row) (own : row.intent.workspaceId = workspaceId)
    {column : FactColumn} (terminal : column.metric = .bounced) (reasonWrite : Option ReasonWrite) :
    Books workspaceId db (recordTerminal ids now db workspaceId send column occurredAt reasonWrite).2
      (postedFor column occurredAt row.facts) (owedFor column occurredAt row.facts) := by
  have written : Books workspaceId db
      { db with sends := (setFactColumnOnce ids db.sends send.id column occurredAt reasonWrite).2 } nothing
      (owedFor column occurredAt row.facts) := books_setFactColumnOnce located own column reasonWrite
  unfold recordTerminal
  simp only [justSet_of_located located _]
  cases unset : (column.read row.facts).isNone with
  | false => exact written.of_eq (postedFor_set unset) fun _ _ => rfl
  | true =>
    have empty : column.read row.facts = none := Option.isNone_iff_eq_none.mp unset
    have after : Locates ids (setFactColumnOnce ids db.sends send.id column occurredAt reasonWrite).2 send.id
        { row with facts := firstWrite column occurredAt reasonWrite row.facts } := located_updateFacts located unset
    have first : isFirstNonDeliveryTerminal ids
        (setFactColumnOnce ids db.sends send.id column occurredAt reasonWrite).2 send.id =
        decide (noTerminal row.facts) :=
      (factsMatch_located after _).trans (isFirst_iff_noTerminal terminal empty reasonWrite)
    rw [Bool.true_and, first]
    by_cases none : noTerminal row.facts
    · rw [if_pos (decide_eq_true none)]
      refine (written.comp (books_counted send.campaignId .bounced)).of_eq ?_ fun _ _ => rfl
      rw [← terminal]
      exact postedFor_first unset fun _ => none
    · rw [if_neg (by simpa using none)]
      exact written.of_eq (fun _ _ => (if_neg fun both => none (both.2 terminal)).symm) fun _ _ => rfl

theorem books_recordEngagement (located : Locates ids db.sends send.id row)
    (own : row.intent.workspaceId = workspaceId) {column : FactColumn} {metric : EngagementMetric}
    (counts : column.metric = metric) (engaged : metric ≠ .bounced) :
    Books workspaceId db (recordEngagement ids now db workspaceId send column occurredAt metric).2
      (postedFor column occurredAt row.facts) (owedFor column occurredAt row.facts) := by
  subst counts
  have written : Books workspaceId db
      { db with sends := (setFactColumnOnce ids db.sends send.id column occurredAt none).2 } nothing
      (owedFor column occurredAt row.facts) := books_setFactColumnOnce located own column none
  unfold recordEngagement
  simp only [justSet_of_located located _]
  cases unset : (column.read row.facts).isNone with
  | false => exact written.of_eq (postedFor_set unset) fun _ _ => rfl
  | true =>
    exact (written.comp (books_counted send.campaignId column.metric)).of_eq
      (postedFor_first unset fun bounced => absurd bounced engaged) fun _ _ => rfl

theorem books_recordUnsubscribe (source : String) :
    Books workspaceId db (recordUnsubscribe db workspaceId contactId source) nothing nothing := by
  unfold recordUnsubscribe
  split
  · exact books_of_kept rfl rfl
  · split <;> exact books_of_kept rfl rfl

theorem books_applySuppression (reason : String) :
    Books workspaceId db (applySuppression platform db workspaceId contactId reason) nothing nothing := by
  unfold applySuppression
  split
  · exact books_of_kept rfl rfl
  · simp only
    split <;> split <;> exact books_of_kept rfl rfl

theorem locates_of_resolveSend {sendId : SendId} (resolved : resolveSend ids db.sends workspaceId sendId = some send) :
    ∃ row, Locates ids db.sends sendId row ∧ row.intent.workspaceId = workspaceId ∧ send.id = sendId := by
  obtain ⟨row, found, rfl⟩ := Option.map_eq_some_iff.mp resolved
  have matched := List.find?_some found
  obtain ⟨own, same⟩ := Bool.and_eq_true_iff.mp matched
  exact ⟨row, ⟨Table.find?_of_mem (List.mem_of_find?_eq_some found), eq_of_beq same⟩, eq_of_beq own, rfl⟩

theorem resolveSend_located {sendId : SendId} (located : Locates ids db.sends sendId row)
    (own : row.intent.workspaceId = workspaceId) :
    resolveSend ids db.sends workspaceId sendId =
      some { id := sendId, campaignId := row.intent.campaignId, contactId := row.contactId } := by
  obtain ⟨found, rfl⟩ := located
  have stored := Table.mem_of_find? found
  have present : (db.sends.rows.find? fun other => other.intent.workspaceId == workspaceId &&
      ids.derive other.intent == ids.derive row.intent).isSome = true := by
    rw [List.find?_isSome]
    exact ⟨row, stored, Bool.and_eq_true_iff.mpr ⟨beq_iff_eq.mpr own, beq_self_eq_true _⟩⟩
  obtain ⟨other, first⟩ := Option.isSome_iff_exists.mp present
  have matched := List.find?_some first
  have same := ids.derive_eq.mp (eq_of_beq (Bool.and_eq_true_iff.mp matched).2)
  obtain rfl := Table.eq_of_find? found (List.mem_of_find?_eq_some first) same
  rw [resolveSend, first]
  rfl

theorem books_applyUnsubscribe (located : Locates ids db.sends send.id row)
    (own : row.intent.workspaceId = workspaceId) (contactId : ContactId) (occurredAt : Timestamp) (source : String) :
    (applyUnsubscribeWithSendFact ids db workspaceId contactId send.id occurredAt source).1 =
        row.facts.unsubscribedAt.isNone ∧
      Books workspaceId db (applyUnsubscribeWithSendFact ids db workspaceId contactId send.id occurredAt source).2.2
        nothing (owedFor .unsubscribedAt occurredAt row.facts) := by
  rw [applyUnsubscribe_some (resolveSend_located located own)]
  constructor
  · exact @justSet_of_located _ _ _ _ located .unsubscribedAt occurredAt none
  · have written : Books workspaceId db
        { db with sends := (setFactColumnOnce ids db.sends send.id .unsubscribedAt occurredAt none).2 } nothing
        (owedFor .unsubscribedAt occurredAt row.facts) := books_setFactColumnOnce located own .unsubscribedAt none
    have recorded : Books workspaceId db (recordUnsubscribe db workspaceId contactId source) nothing nothing :=
      books_recordUnsubscribe source
    constructor
    · exact recorded.rolled
    · exact written.recounted

end Entries

end LocalCrm.Webhooks
