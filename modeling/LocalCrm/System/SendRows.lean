import LocalCrm.System.Holders

/-! The rows a step leaves in the ledger, and the order of their times.

A row is queued before it is dispatched, before its outcome comes into doubt and before it counts as sent.
-/

set_option autoImplicit false

namespace LocalCrm.System

open Library Delivery Campaigns Webhooks Analytics

inductive RowTaken (ids : SendIdScheme) (world : World) : Label → SendIntent → Option Send → Send → Prop where
  | kept {label : Label} {intent : SendIntent} {row after : Send} (columns : ledgerColumns after = ledgerColumns row) :
      RowTaken ids world label intent (some row) after
  | claimed {id : Nat} {job : SendJob} {claim : ClaimedSend} {db : Database}
      (admitted : claimSend ids world.now world.db job = .ok (.proceed claim, db)) :
      RowTaken ids world (.delivery (.deliver id job)) job.intent none
        { intent := job.intent, contactId := job.contactId, status := .dispatching, queuedAt := world.now }
  | excluded {label : Label} {intent : SendIntent} {after : Send} (status : after.status = .excluded)
      (fresh : after.queuedAt = world.now) (unsent : after.dispatchedAt = none ∧ after.reconcilingSince = none) :
      RowTaken ids world label intent none after
  | excludedAgain {label : Label} {intent : SendIntent} {row after : Send} (status : after.status = .excluded)
      (columns : after.queuedAt = row.queuedAt ∧ after.dispatchedAt = row.dispatchedAt ∧
        after.reconcilingSince = row.reconcilingSince) :
      RowTaken ids world label intent (some row) after
  | recorded {id : Nat} {job : SendJob} {claim : ClaimedSend} {dispatchedAt : Timestamp} {duration : Int}
      {outcome : CallOutcome} {row : Send} (status : RecordedStatus)
      (found : world.deliveries.find? id = some { id, job, phase := .answered claim dispatchedAt duration outcome }) :
      RowTaken ids world (.delivery (.settle id)) job.intent (some row)
        ((measuredResult status (recordedMessageId outcome) dispatchedAt duration).assign world.now row)
  | interrupted {id : Nat} {job : SendJob} {row : Send} (status : row.status = .dispatching) :
      RowTaken ids world (.delivery (.deliver id job)) job.intent (some row)
        (SendResult.assign { status := .reconciling } world.now row)
  | swept {intent : SendIntent} {row : Send} (status : row.status = .dispatching) :
      RowTaken ids world (.reconcile (ids.derive intent)) intent (some row) (sweptAt world.now row)
  | resolved {intent : SendIntent} {row : Send} (verdict : ResolveReconcilingVerdict)
      (waits : awaitsReconciler row = true) :
      RowTaken ids world (.reconcile (ids.derive intent)) intent (some row) (verdict.assign row)

section Rows

variable {ids : SendIdScheme} {world next : World} {label : Label} {intent : SendIntent} {after : Send}

theorem rowTaken_same (same : next.db.sends.find? intent = world.db.sends.find? intent)
    (found : next.db.sends.find? intent = some after) :
    RowTaken ids world label intent (world.db.sends.find? intent) after := by
  rw [← same, found]
  exact .kept rfl

theorem rowTaken_excluded {now : Timestamp} {other : SendIntent} {contactId : ContactId} {reason : String}
    (clock : now = world.now)
    (found : (excludeIntent now world.db.sends other contactId reason).find? intent = some after) :
    RowTaken ids world label intent (world.db.sends.find? intent) after := by
  rw [find?_excludeIntent] at found
  split at found
  · cases stored : world.db.sends.find? intent with
    | none =>
      rw [stored] at found
      cases found
      exact .excluded rfl clock ⟨rfl, rfl⟩
    | some row =>
      rw [stored] at found
      simp only [Option.some.injEq] at found
      split at found
      · next refused =>
        subst found
        exact .excludedAgain refused ⟨rfl, rfl, rfl⟩
      · subst found
        exact .kept rfl
  · rw [found]
    exact .kept rfl

theorem rowTaken_released {sendId : SendId} {job : SendIntent} (derived : sendId = ids.derive job)
    (found : (releaseDispatchClaim ids world.db.sends sendId).find? intent = some after) :
    RowTaken ids world label intent (world.db.sends.find? intent) after := by
  rw [derived, find?_releaseDispatchClaim] at found
  split at found
  · cases found
  · rw [found]
    exact .kept rfl

theorem rowTaken_delivery {event : DeliveryEvent} (sound : ClaimsSound ids world)
    (taken : DeliveryTaken ids world event next) (found : next.db.sends.find? intent = some after) :
    RowTaken ids world (.delivery event) intent (world.db.sends.find? intent) after := by
  cases taken with
  | @delivered id job result db pending fresh uncalled claimed =>
    have commits := claimSend_commits claimed
    cases commits with
    | skipped => exact rowTaken_same rfl found
    | excluded contactId reason => exact rowTaken_excluded rfl found
    | interrupted held =>
      rw [find?_recordSendResult] at found
      split at found
      · next same =>
        subst same
        obtain ⟨row, stored, rfl⟩ := Option.map_eq_some_iff.mp found
        have dispatching : row.status = .dispatching := by simpa [statusOf, stored] using held
        rw [stored]
        exact .interrupted dispatching
      · rw [found]
        exact .kept rfl
    | proceeds prereqs recipient contactId free =>
      obtain ⟨_, missing, committed⟩ := claimSend_admits claimed
      rw [committed] at found
      rw [find?_claimIntent] at found
      split at found
      · next fresh =>
        obtain ⟨rfl, none⟩ := fresh
        cases found
        rw [missing]
        exact .claimed claimed
      · rw [found]
        exact .kept rfl
  | denied job claim located => exact rowTaken_released (sound _ _ located).1 found
  | settled job claim dispatchedAt duration outcome located =>
    have derived : claim.sendId = ids.derive job.intent := sound _ _ located
    cases recorded : recordedStatus outcome with
    | none =>
      simp only [settleOutcome_released recorded] at found
      exact rowTaken_released derived found
    | some status =>
      simp only [settleOutcome_recorded recorded, derived] at found
      rw [find?_recordSendResult] at found
      split at found
      · next same =>
        subst same
        obtain ⟨row, stored, rfl⟩ := Option.map_eq_some_iff.mp found
        rw [stored]
        exact .recorded status located
      · rw [found]
        exact .kept rfl
  | rejected | called | answered | acked | retried | givenUp | crashed => exact rowTaken_same rfl found

theorem rowTaken_resolution {sendId : SendId} {db : Database}
    (commits : ResolutionCommits ids world.now world.db sendId db) (found : db.sends.find? intent = some after) :
    RowTaken ids world (.reconcile sendId) intent (world.db.sends.find? intent) after := by
  -- the guarded writes of one row: the chosen row is rewritten, all others are as they were
  cases commits with
  | held =>
    rw [found]
    exact .kept rfl
  | swept other derived status =>
    subst derived
    rw [find?_sweepStaleDispatchingSend] at found
    split at found
    · next same =>
      subst same
      obtain ⟨row, stored, rfl⟩ := Option.map_eq_some_iff.mp found
      have dispatching : row.status = .dispatching := by simpa [statusOf, stored] using status
      rw [stored, if_pos (beq_iff_eq.mpr dispatching)]
      exact .swept dispatching
    · rw [found]
      exact .kept rfl
  | unresolved other derived status =>
    subst derived
    rw [find?_resolveReconcilingSend] at found
    split at found
    · next same =>
      subst same
      obtain ⟨row, stored, rfl⟩ := Option.map_eq_some_iff.mp found
      have waits : awaitsReconciler row = true := by
        have reconciling : row.status = .reconciling := by simpa [statusOf, stored] using status
        simp [awaitsReconciler, reconciling]
      rw [stored, if_pos waits]
      exact .resolved .resolveUnknown waits
    · rw [found]
      exact .kept rfl
  | resolved other derived status =>
    subst derived
    rw [find?_resolveReconcilingSend] at found
    split at found
    · next same =>
      subst same
      obtain ⟨row, stored, rfl⟩ := Option.map_eq_some_iff.mp found
      have waits : awaitsReconciler row = true := by
        simpa [statusOf, stored, awaitsReconciler] using status
      rw [stored, if_pos waits]
      exact .resolved .resolveSent waits
    · rw [found]
      exact .kept rfl

theorem rowTaken_step {platform : Platform} (sound : ClaimsSound platform.sendIds world)
    (taken : step platform world label = some next) (found : next.db.sends.find? intent = some after) :
    RowTaken platform.sendIds world label intent (world.db.sends.find? intent) after := by
  cases label with
  | environment event => exact rowTaken_same (by rw [(environmentStep_frame taken).sends]) found
  | api request =>
    obtain ⟨campaigns, _, rfl⟩ := apiStep_taken taken
    exact rowTaken_same rfl found
  | launch event => cases launchStep_taken taken <;> exact rowTaken_same rfl found
  | tick event => cases tickStep_taken taken <;> exact rowTaken_same rfl found
  | kickoff event =>
    cases kickoffEventStep_taken taken with
    | started | acked | crashed => exact rowTaken_same rfl found
    | @advanced id matching kickoff effect located stepped =>
      have writes := kickoffStep_writes world.now world.db world.sendJobs kickoff.job matching kickoff.phase
      rw [stepped] at writes
      generalize effect.db = db at writes found
      generalize kickoff.phase = phase at writes
      cases writes with
      | nothing | batch => exact rowTaken_same rfl found
      | exclusion => exact rowTaken_excluded rfl found
      | totals walk =>
        apply rowTaken_same _ found
        simp only [finishFanOut_sends]
  | delivery event => exact rowTaken_delivery sound (deliveryStep_taken taken) found
  | reconcile sendId =>
    cases taken
    exact rowTaken_resolution (resolveOneSend_commits _ _ _ _) found
  | webhookBatch | sweep =>
    obtain ⟨db, kept, rfl⟩ := quietStep_taken rfl taken
    have columns := kept.sends intent
    simp only [found, Option.map_some] at columns
    obtain ⟨row, stored, same⟩ := Option.map_eq_some_iff.mp columns.symm
    rw [stored]
    exact .kept same.symm

end Rows

/-- Time passes only forward. -/
theorem now_step {platform : Platform} {world next : World} {label : Label}
    (taken : step platform world label = some next) : world.now ≤ next.now := by
  cases label with
  | environment event =>
    cases event with
    | advance milliseconds =>
      cases taken
      exact Int.le_add_of_nonneg_right (Int.natCast_nonneg milliseconds)
    | restoreWorkspace id =>
      simp only [step, environmentStep] at taken
      split at taken <;> cases taken
      exact le_rfl
    | _ =>
      cases taken
      exact le_rfl
  | api request =>
    obtain ⟨campaigns, _, rfl⟩ := apiStep_taken taken
    exact le_rfl
  | launch event => cases launchStep_taken taken <;> exact le_rfl
  | tick event => cases tickStep_taken taken <;> exact le_rfl
  | kickoff event => cases kickoffEventStep_taken taken <;> exact le_rfl
  | delivery event => cases deliveryStep_taken taken <;> exact le_rfl
  | reconcile =>
    cases taken
    exact le_rfl
  | webhookBatch | sweep =>
    obtain ⟨_, _, rfl⟩ := quietStep_taken rfl taken
    exact le_rfl

/-- When the call of an execution went out. -/
def calledAt : DeliveryPhase → Option Timestamp
  | .calling _ dispatchedAt | .answered _ dispatchedAt _ _ => some dispatchedAt
  | .claimed _ | .finished _ => none

theorem holds_of_calledAt {phase : DeliveryPhase} {dispatchedAt : Timestamp} (called : calledAt phase = some dispatchedAt) :
    Holds phase := by
  cases phase with
  | claimed | finished => cases called
  | calling | answered => trivial

structure RowTimes (now : Timestamp) (row : Send) : Prop where
  queued : row.queuedAt ≤ now
  dispatched : ∀ time, row.dispatchedAt = some time → row.queuedAt ≤ time
  doubted : ∀ time, row.reconcilingSince = some time → row.queuedAt ≤ time

structure TimesSound (world : World) : Prop where
  rows : ∀ intent row, world.db.sends.find? intent = some row → RowTimes world.now row
  calls : ∀ id delivery dispatchedAt, world.deliveries.find? id = some delivery →
    calledAt delivery.phase = some dispatchedAt → ∀ row, world.db.sends.find? delivery.job.intent = some row →
      row.queuedAt ≤ dispatchedAt

section Times

variable {platform : Platform} {ids : SendIdScheme} {world next : World} {label : Label} {intent : SendIntent}
  {row after : Send}

theorem called_origin (taken : step platform world label = some next) {id : Nat} {delivery : JobDelivery}
    {dispatchedAt : Timestamp} (found : next.deliveries.find? id = some delivery)
    (called : calledAt delivery.phase = some dispatchedAt) :
    ∃ before, world.deliveries.find? id = some before ∧ before.job = delivery.job ∧ Holds before.phase ∧
      (calledAt before.phase = some dispatchedAt ∨ dispatchedAt = world.now ∧ next.db.sends = world.db.sends) := by
  have kept : ∀ {deliveries : Table JobDelivery.id} {moved : Nat}, (∀ other, other ≠ moved →
      deliveries.find? other = world.deliveries.find? other) → id ≠ moved → deliveries.find? id = some delivery →
      ∃ before, world.deliveries.find? id = some before ∧ before.job = delivery.job ∧ Holds before.phase ∧
        (calledAt before.phase = some dispatchedAt ∨ dispatchedAt = world.now ∧ next.db.sends = world.db.sends) := by
    intro deliveries moved same differs there
    rw [same id differs] at there
    exact ⟨delivery, there, rfl, holds_of_calledAt called, .inl called⟩
  by_cases moves : ∃ event, label = .delivery event
  · obtain ⟨event, rfl⟩ := moves
    cases deliveryStep_taken taken with
    | @called moved job claim stored =>
      by_cases same : id = moved
      · subst same
        rw [Table.find?_put, if_pos rfl] at found
        cases found
        cases called
        exact ⟨_, stored, rfl, trivial, .inr ⟨rfl, rfl⟩⟩
      · exact kept (fun other differs => by rw [Table.find?_put, if_neg differs]) same found
    | @answered moved outcome job claim started stored =>
      by_cases same : id = moved
      · subst same
        rw [Table.find?_put, if_pos rfl] at found
        cases found
        cases called
        exact ⟨_, stored, rfl, trivial, .inl rfl⟩
      · exact kept (fun other differs => by rw [Table.find?_put, if_neg differs]) same found
    | @delivered moved job result db pending fresh uncalled claimed =>
      by_cases same : id = moved
      · rw [Table.find?_put, if_pos same] at found
        cases found
        cases result <;> cases called
      · exact kept (fun other differs => by rw [Table.find?_put, if_neg differs]) same found
    | @rejected moved | @denied moved | @settled moved =>
      by_cases same : id = moved
      · rw [Table.find?_put, if_pos same] at found
        cases found
        cases called
      · exact kept (fun other differs => by rw [Table.find?_put, if_neg differs]) same found
    | @acked moved | @retried moved | @givenUp moved | @crashed moved =>
      by_cases same : id = moved
      · rw [Table.find?_erase, if_pos same] at found
        cases found
      · exact kept (fun other differs => by rw [Table.find?_erase, if_neg differs]) same found
  · rw [(deliveries_kept (fun event same => moves ⟨event, same⟩) taken).1] at found
    exact ⟨delivery, found, rfl, holds_of_calledAt called, .inl called⟩

theorem queuedAt_kept (moved : RowTaken ids world label intent (some row) after) : after.queuedAt = row.queuedAt := by
  cases moved with
  | kept columns =>
    have same : (ledgerColumns after).queuedAt = (ledgerColumns row).queuedAt := congrArg Send.queuedAt columns
    exact same
  | excludedAgain status columns => exact columns.1
  | recorded | interrupted | swept => rfl
  | resolved verdict => cases verdict <;> rfl

theorem rowTimes_same {now : Timestamp} (times : RowTimes now row) (queued : after.queuedAt = row.queuedAt)
    (dispatched : after.dispatchedAt = row.dispatchedAt) (doubted : after.reconcilingSince = row.reconcilingSince) :
    RowTimes now after := by
  constructor
  · rw [queued]
    exact times.queued
  · rw [queued, dispatched]
    exact times.dispatched
  · rw [queued, doubted]
    exact times.doubted

theorem doubtedSince {now : Timestamp} (times : RowTimes now row) {time : Timestamp}
    (since : row.reconcilingSince.or (some now) = some time) : row.queuedAt ≤ time := by
  rcases Option.or_eq_some_iff.mp since with known | ⟨_, assigned⟩
  · exact times.doubted time known
  · cases assigned
    exact times.queued

theorem rowTimes_step {before : Option Send} (sound : TimesSound world)
    (stored : world.db.sends.find? intent = before) (moved : RowTaken ids world label intent before after) :
    RowTimes world.now after := by
  have old : ∀ row, before = some row → RowTimes world.now row := by
    rintro row rfl
    exact sound.rows intent row stored
  cases moved with
  | @kept _ _ row _ columns =>
    have queued : (ledgerColumns after).queuedAt = (ledgerColumns row).queuedAt := congrArg Send.queuedAt columns
    have dispatched : (ledgerColumns after).dispatchedAt = (ledgerColumns row).dispatchedAt :=
      congrArg Send.dispatchedAt columns
    have doubted : (ledgerColumns after).reconcilingSince = (ledgerColumns row).reconcilingSince :=
      congrArg Send.reconcilingSince columns
    exact rowTimes_same (old row rfl) queued dispatched doubted
  | excludedAgain status columns => exact rowTimes_same (old _ rfl) columns.1 columns.2.1 columns.2.2
  | claimed admitted =>
    constructor
    · exact le_rfl
    · intro time missing
      cases missing
    · intro time missing
      cases missing
  | excluded status fresh unsent =>
    constructor
    · rw [fresh]
    · rw [unsent.1]
      intro time missing
      cases missing
    · rw [unsent.2]
      intro time missing
      cases missing
  | @recorded id job claim dispatchedAt duration outcome row status found =>
    have times := old row rfl
    constructor
    · exact times.queued
    · intro time assigned
      cases assigned
      exact sound.calls id _ dispatchedAt found rfl row stored
    · intro time assigned
      simp only [SendResult.assign] at assigned
      split at assigned
      · exact doubtedSince times assigned
      · exact times.doubted time assigned
  | interrupted | swept =>
    have times := old _ rfl
    exact ⟨times.queued, times.dispatched, fun time assigned => doubtedSince times assigned⟩
  | resolved verdict waits =>
    have times := old _ rfl
    cases verdict with
    | resolveSent => exact ⟨times.queued, times.dispatched, fun time missing => by cases missing⟩
    | resolveUnknown => exact rowTimes_same times rfl rfl rfl

theorem rowTimes_later {now later : Timestamp} (times : RowTimes now row) (passed : now ≤ later) : RowTimes later row :=
  ⟨times.queued.trans passed, times.dispatched, times.doubted⟩

theorem timesSound_step (sound : TimesSound world) (claims : ClaimsSound platform.sendIds world)
    (held : RowsHeld world) (taken : step platform world label = some next) : TimesSound next where
  rows intent row found := rowTimes_later (rowTimes_step sound rfl (rowTaken_step claims taken found)) (now_step taken)
  calls id delivery dispatchedAt found called row present := by
    obtain ⟨before, stored, job, holds, known | ⟨rfl, same⟩⟩ := called_origin taken found called
    · -- the row of an execution that goes on is the one it claimed
      obtain ⟨status, there, _⟩ := held.present id before stored holds
      obtain ⟨old, located, _⟩ := Option.map_eq_some_iff.mp there
      rw [← job] at present
      have moved := rowTaken_step claims taken present
      rw [located] at moved
      rw [queuedAt_kept moved]
      exact sound.calls id before dispatchedAt stored known old located
    · rw [same] at present
      exact (sound.rows delivery.job.intent row present).queued

theorem timesSound_initial (now : Timestamp) : TimesSound (initialWorld now) where
  rows intent row found := by cases found
  calls id delivery dispatchedAt found := by cases found

end Times

end LocalCrm.System
