import LocalCrm.System.AtMostOnce
import LocalCrm.System.SendRows

/-! The frequency cap of a workspace, over campaigns and flows together.

The gate counts the mails that are recorded as sent.
-/

set_option autoImplicit false

namespace LocalCrm.System

open Library Delivery Campaigns Webhooks Analytics

def holding : DeliveryPhase → Bool
  | .claimed _ | .calling _ _ | .answered _ _ _ _ => true
  | .finished _ => false

theorem holding_iff {phase : DeliveryPhase} : holding phase = true ↔ Holds phase := by
  cases phase <;> simp [holding, Holds]

/-- The outcome of a row can still be recorded: it waits for one, or an execution holds it. -/
def undecided (world : World) (row : Send) : Bool :=
  row.status ∈ [.dispatching, .reconciling, .unknown] ||
    world.deliveries.rows.any fun delivery => delivery.job.intent == row.intent && holding delivery.phase

section Counting

variable (workspaceId : WorkspaceId) (contactId : ContactId)

def mailTo (row : Send) : Bool := row.intent.workspaceId == workspaceId && row.contactId == contactId

def sentWithin (windowMs : Int) (time : Timestamp) (row : Send) : Bool :=
  row.status == .sent && row.sentAt.any fun sentAt => decide (time - windowMs < sentAt ∧ sentAt ≤ time)

def mailsWithin (windowMs : Int) (time : Timestamp) (sends : Sends) : Nat :=
  sends.count fun row => mailTo workspaceId contactId row && sentWithin windowMs time row

def undecidedMails (world : World) : Nat :=
  world.db.sends.count fun row => mailTo workspaceId contactId row && undecided world row

def mayCount (world : World) (windowMs : Int) (time : Timestamp) (row : Send) : Bool :=
  mailTo workspaceId contactId row &&
    (sentWithin windowMs time row || undecided world row && decide (row.queuedAt ≤ time))

def capOf (db : Database) : Nat × Nat :=
  let settings := getWorkspaceSendSettings db.sendSettings workspaceId
  (settings.frequencyCap, settings.frequencyWindowHours)

def startsMail (world : World) : Label → Bool
  | .delivery (.deliver _ job) => job.intent.workspaceId == workspaceId && job.contactId == contactId &&
    (world.db.sends.find? job.intent).isNone
  | _ => false

def judgedBy (cap windowHours : Nat) (world : World) (label : Label) : Bool :=
  decide (startsMail workspaceId contactId world label = true → capOf workspaceId world.db = (cap, windowHours))

/-- Whenever a mail comes to the gate below the cap, the undecided ones do not fill the rest of it. -/
def roomLeft (cap windowHours : Nat) (world : World) (label : Label) : Bool :=
  let sent := recentlySent world.now world.db.sends workspaceId contactId windowHours
  decide (startsMail workspaceId contactId world label = true → sent < cap →
    sent + undecidedMails workspaceId contactId world < cap)

end Counting

section Steps

variable {platform : Platform} {world next : World} {label : Label} {workspaceId : WorkspaceId} {contactId : ContactId}
  {windowMs : Int} {time : Timestamp} {intent : SendIntent} {row after : Send}

theorem undecided_iff : undecided world row = true ↔ row.status ∈ [.dispatching, .reconciling, .unknown] ∨
    ∃ id delivery, world.deliveries.find? id = some delivery ∧ delivery.job.intent = row.intent ∧ Holds delivery.phase := by
  unfold undecided
  rw [Bool.or_eq_true, decide_eq_true_eq, List.any_eq_true]
  constructor
  · rintro (waits | ⟨delivery, member, both⟩)
    · exact .inl waits
    · rw [Bool.and_eq_true, beq_iff_eq, holding_iff] at both
      exact .inr ⟨delivery.id, delivery, Table.find?_of_mem member, both⟩
  · rintro (waits | ⟨id, delivery, found, same, holds⟩)
    · exact .inl waits
    · exact .inr ⟨delivery, Table.mem_of_find? found, by simp [same, holding_iff.mpr holds]⟩

theorem undecided_of_status (waits : row.status ∈ [.dispatching, .reconciling, .unknown]) : undecided world row = true :=
  undecided_iff.mpr (.inl waits)

theorem undecided_step (sound : ClaimsSound platform.sendIds world)
    (taken : step platform world label = some next) (stored : world.db.sends.find? intent = some row)
    (found : next.db.sends.find? intent = some after) (waits : undecided next after = true) :
    undecided world row = true := by
  have keyed : row.intent = intent := Table.key_of_find? stored
  have keyedAfter : after.intent = intent := Table.key_of_find? found
  rcases undecided_iff.mp waits with status | ⟨id, delivery, going, same, holds⟩
  · have moved := rowTaken_step sound taken found
    rw [stored] at moved
    cases moved with
    | kept columns =>
      have same : (ledgerColumns after).status = (ledgerColumns row).status := congrArg Send.status columns
      simp only [ledgerColumns] at same
      rw [same] at status
      exact undecided_of_status status
    | excludedAgain excluded =>
      simp [excluded] at status
    | @recorded id job claim dispatchedAt duration outcome _ _ located =>
      exact undecided_iff.mpr (.inr ⟨id, _, located, keyed.symm, trivial⟩)
    | interrupted dispatching | swept dispatching =>
      exact undecided_of_status (by simp [dispatching])
    | resolved verdict open_ =>
      rcases Bool.or_eq_true _ _ ▸ open_ with waiting | waiting <;>
        exact undecided_of_status (by simp [beq_iff_eq.mp waiting])
  · rcases holder_origin taken going holds with ⟨before, there, job, holding⟩ | ⟨_, free, _⟩
    · exact undecided_iff.mpr (.inr ⟨id, before, there, by rw [job, same, keyed, keyedAfter], holding⟩)
    · rw [same, keyedAfter, statusOf, stored] at free
      cases free

theorem sentWithin_step (sound : ClaimsSound platform.sendIds world) (times : TimesSound world)
    (taken : step platform world label = some next) (stored : world.db.sends.find? intent = some row)
    (found : next.db.sends.find? intent = some after) (sent : sentWithin windowMs time after = true) :
    sentWithin windowMs time row = true ∨ undecided world row = true ∧ row.queuedAt ≤ time := by
  have keyed : row.intent = intent := Table.key_of_find? stored
  have moved := rowTaken_step sound taken found
  rw [stored] at moved
  unfold sentWithin at sent
  simp only [Bool.and_eq_true, beq_iff_eq, Option.any_eq_true, decide_eq_true_eq] at sent
  obtain ⟨status, sentAt, assigned, after_, inside⟩ := sent
  cases moved with
  | kept columns =>
    have sameStatus : (ledgerColumns after).status = (ledgerColumns row).status := congrArg Send.status columns
    have sameTime : (ledgerColumns after).sentAt = (ledgerColumns row).sentAt := congrArg Send.sentAt columns
    simp only [ledgerColumns] at sameStatus sameTime
    left
    simp [sentWithin, ← sameStatus, ← sameTime, status, assigned, after_, inside]
  | excludedAgain excluded =>
    rw [excluded] at status
    cases status
  | @recorded id job claim dispatchedAt duration outcome _ recorded located =>
    right
    refine ⟨undecided_iff.mpr (.inr ⟨id, _, located, keyed.symm, trivial⟩), ?_⟩
    cases recorded with
    | failed | reconciling => cases status
    | sent =>
      cases assigned
      exact (times.rows _ row stored).queued.trans inside
  | interrupted | swept => cases status
  | resolved verdict waits =>
    cases verdict with
    | resolveUnknown => cases status
    | resolveSent =>
      right
      constructor
      · rcases Bool.or_eq_true _ _ ▸ waits with waiting | waiting <;>
          exact undecided_of_status (by simp [beq_iff_eq.mp waiting])
      · -- the reconciler dates a mail by its call, else by the doubt, else by the queue
        have ordered := times.rows _ row stored
        refine le_trans ?_ inside
        rcases Option.or_eq_some_iff.mp assigned with dated | ⟨_, queued⟩
        · rcases Option.or_eq_some_iff.mp dated with called | ⟨_, since⟩
          · exact ordered.dispatched sentAt called
          · exact ordered.doubted sentAt since
        · exact (Option.some.inj queued).le

theorem mailTo_step (sound : ClaimsSound platform.sendIds world)
    (taken : step platform world label = some next) (stored : world.db.sends.find? intent = some row)
    (found : next.db.sends.find? intent = some after) (excluded : after.status ≠ .excluded) :
    mailTo workspaceId contactId after = mailTo workspaceId contactId row := by
  have moved := rowTaken_step sound taken found
  rw [stored] at moved
  have same : after.intent = row.intent := (Table.key_of_find? found).trans (Table.key_of_find? stored).symm
  have contact : after.contactId = row.contactId := by
    cases moved with
    | kept columns =>
      have sameContact : (ledgerColumns after).contactId = (ledgerColumns row).contactId := congrArg Send.contactId columns
      exact sameContact
    | excludedAgain status => exact absurd status excluded
    | recorded | interrupted | swept => rfl
    | resolved verdict => cases verdict <;> rfl
  simp only [mailTo, same, contact]

theorem not_excluded_of_mayCount (held : RowsHeld world) (stored : world.db.sends.find? intent = some row)
    (counts : mayCount workspaceId contactId world windowMs time row = true) : row.status ≠ .excluded := by
  intro excluded
  have keyed : row.intent = intent := Table.key_of_find? stored
  simp only [mayCount, sentWithin, excluded, Bool.and_eq_true, Bool.or_eq_true] at counts
  rcases counts.2 with ⟨sent, _⟩ | ⟨waits, _⟩
  · cases sent
  · rcases undecided_iff.mp waits with status | ⟨id, delivery, found, same, holds⟩
    · simp [excluded] at status
    · obtain ⟨status, there, holdable⟩ := held.present id delivery found holds
      rw [same, keyed, statusOf, stored, Option.map_some, excluded] at there
      cases there
      cases holdable

theorem mayCount_step (sound : ClaimsSound platform.sendIds world) (held : RowsHeld world) (times : TimesSound world)
    (taken : step platform world label = some next) (stored : world.db.sends.find? intent = some row)
    (found : next.db.sends.find? intent = some after)
    (counts : mayCount workspaceId contactId next windowMs time after = true) :
    mayCount workspaceId contactId world windowMs time row = true := by
  have excluded := not_excluded_of_mayCount (rowsHeld_step held sound taken) found counts
  simp only [mayCount, Bool.and_eq_true, Bool.or_eq_true, decide_eq_true_eq] at counts ⊢
  obtain ⟨mail, sent | ⟨waits, queued⟩⟩ := counts
  · rw [mailTo_step sound taken stored found excluded] at mail
    exact ⟨mail, sentWithin_step sound times taken stored found sent⟩
  · rw [mailTo_step sound taken stored found excluded] at mail
    have moved := rowTaken_step sound taken found
    rw [stored] at moved
    rw [queuedAt_kept moved] at queued
    exact ⟨mail, .inr ⟨undecided_step sound taken stored found waits, queued⟩⟩

theorem mayCount_new (sound : ClaimsSound platform.sendIds world) (held : RowsHeld world)
    (taken : step platform world label = some next) (missing : world.db.sends.find? intent = none)
    (found : next.db.sends.find? intent = some after)
    (counts : mayCount workspaceId contactId next windowMs time after = true) :
    ∃ id job claim db, label = .delivery (.deliver id job) ∧
      claimSend platform.sendIds world.now world.db job = .ok (.proceed claim, db) ∧ job.intent = intent ∧
      after = { intent := job.intent, contactId := job.contactId, status := .dispatching, queuedAt := world.now } := by
  have excluded := not_excluded_of_mayCount (rowsHeld_step held sound taken) found counts
  have moved := rowTaken_step sound taken found
  rw [missing] at moved
  cases moved with
  | @claimed id job claim db admitted => exact ⟨id, job, claim, db, rfl, admitted, rfl, rfl⟩
  | excluded status => exact absurd status excluded

theorem count_mayCount_le {windowHours : Nat} (later : world.now ≤ time) :
    world.db.sends.count (mayCount workspaceId contactId world (windowHours * millisecondsPerHour) time) ≤
      recentlySent world.now world.db.sends workspaceId contactId windowHours +
        undecidedMails workspaceId contactId world := by
  have counted : ∀ wanted, (world.db.sends.find? wanted).any
      (mayCount workspaceId contactId world (windowHours * millisecondsPerHour) time) = true →
      (world.db.sends.find? wanted).any (fun row =>
        (row.intent.workspaceId == workspaceId && row.contactId == contactId && row.status == .sent &&
          row.sentAt.any fun sentAt => sentAt > world.now - windowHours * millisecondsPerHour) ||
        (mailTo workspaceId contactId row && undecided world row)) = true := by
    intro wanted counts
    obtain ⟨row, found, counts⟩ := Option.any_eq_true _ _ |>.mp counts
    rw [found, Option.any_some]
    simp only [mayCount, Bool.and_eq_true, Bool.or_eq_true, decide_eq_true_eq] at counts ⊢
    obtain ⟨mail, sent | ⟨waits, _⟩⟩ := counts
    · left
      simp only [sentWithin, Bool.and_eq_true, Option.any_eq_true, decide_eq_true_eq] at sent
      obtain ⟨status, sentAt, assigned, recent, _⟩ := sent
      simp only [mailTo, Bool.and_eq_true] at mail
      refine ⟨⟨mail, status⟩, ?_⟩
      rw [assigned, Option.any_some, decide_eq_true_eq]
      exact lt_of_le_of_lt (Int.sub_le_sub_right later _) recent
    · exact .inr ⟨mail, waits⟩
  exact (Table.count_le_count counted).trans (Table.count_or_le _ _)

theorem admitted_below_cap {ids : SendIdScheme} {now : Timestamp} {db committed : Database} {job : SendJob}
    {claim : ClaimedSend} {cap windowHours : Nat}
    (admitted : claimSend ids now db job = .ok (.proceed claim, committed))
    (judged : capOf job.intent.workspaceId db = (cap, windowHours)) :
    recentlySent now db.sends job.intent.workspaceId job.contactId windowHours < cap := by
  obtain ⟨⟨contact, found, sendable⟩, _, _⟩ := claimSend_admits admitted
  have keyed : contact.id = job.contactId := Table.key_of_find? found
  cases judged
  rw [← keyed]
  by_contra full
  have refused : recentlySent now db.sends job.intent.workspaceId contact.id
      (getWorkspaceSendSettings db.sendSettings job.intent.workspaceId).frequencyWindowHours ≥
        (getWorkspaceSendSettings db.sendSettings job.intent.workspaceId).frequencyCap := Nat.le_of_not_lt full
  simp only [evaluatePreSendGate, if_pos refused] at sendable
  split at sendable
  · cases sendable
  · split at sendable
    · cases sendable
    · split at sendable <;> cases sendable

theorem cap_step {cap windowHours : Nat} (sound : ClaimsSound platform.sendIds world) (held : RowsHeld world)
    (times : TimesSound world) (taken : step platform world label = some next)
    (judged : judgedBy workspaceId contactId cap windowHours world label = true)
    (room : roomLeft workspaceId contactId cap windowHours world label = true)
    (kept : ∀ time, world.db.sends.count
      (mayCount workspaceId contactId world (windowHours * millisecondsPerHour) time) ≤ cap) :
    ∀ time, next.db.sends.count
      (mayCount workspaceId contactId next (windowHours * millisecondsPerHour) time) ≤ cap := by
  intro time
  -- a counted row after the step is one that was there, or the row just claimed
  have origin : ∀ intent, (next.db.sends.find? intent).any
      (mayCount workspaceId contactId next (windowHours * millisecondsPerHour) time) = true →
      (world.db.sends.find? intent).any (mayCount workspaceId contactId world (windowHours * millisecondsPerHour) time) = true ∨
      ∃ id job claim db, label = .delivery (.deliver id job) ∧
        claimSend platform.sendIds world.now world.db job = .ok (.proceed claim, db) ∧ job.intent = intent ∧
        job.intent.workspaceId = workspaceId ∧ job.contactId = contactId ∧ world.now ≤ time := by
    intro intent counted
    obtain ⟨after, found, counts⟩ := Option.any_eq_true _ _ |>.mp counted
    cases stored : world.db.sends.find? intent with
    | some row => exact .inl (mayCount_step sound held times taken stored found counts)
    | none =>
      obtain ⟨id, job, claim, db, rfl, admitted, same, rfl⟩ := mayCount_new sound held taken stored found counts
      right
      simp only [mayCount, mailTo, sentWithin, Bool.and_eq_true, Bool.or_eq_true, beq_iff_eq, decide_eq_true_eq] at counts
      obtain ⟨⟨workspace, contact⟩, ⟨sent, _⟩ | ⟨_, queued⟩⟩ := counts
      · cases sent
      · exact ⟨id, job, claim, db, rfl, admitted, same, workspace, contact, queued⟩
  by_cases claims : ∃ id job claim db, label = .delivery (.deliver id job) ∧
      claimSend platform.sendIds world.now world.db job = .ok (.proceed claim, db) ∧
      job.intent.workspaceId = workspaceId ∧ job.contactId = contactId ∧ world.now ≤ time
  · obtain ⟨id, job, claim, db, rfl, admitted, rfl, rfl, later⟩ := claims
    obtain ⟨_, missing, _⟩ := claimSend_admits admitted
    have starts : startsMail job.intent.workspaceId job.contactId world (.delivery (.deliver id job)) = true := by
      simp [startsMail, missing]
    have below := of_decide_eq_true room starts (admitted_below_cap admitted (of_decide_eq_true judged starts))
    have grown : next.db.sends.count
        (mayCount job.intent.workspaceId job.contactId next (windowHours * millisecondsPerHour) time) ≤
        world.db.sends.count
          (mayCount job.intent.workspaceId job.contactId world (windowHours * millisecondsPerHour) time) + 1 := by
      apply Table.count_le_count_succ
      intro intent (differs : intent ≠ job.intent) counted
      rcases origin intent counted with before | ⟨_, other, _, _, same, _, keyed, _⟩
      · exact before
      · simp only [Label.delivery.injEq, DeliveryEvent.deliver.injEq] at same
        rw [← same.2] at keyed
        exact absurd keyed.symm differs
    have bound := @count_mayCount_le world job.intent.workspaceId job.contactId time windowHours later
    omega
  · refine le_trans (Table.count_le_count ?_) (kept time)
    intro intent counted
    rcases origin intent counted with before | ⟨id, job, claim, db, same, admitted, _, workspace, contact, later⟩
    · exact before
    · exact absurd ⟨id, job, claim, db, same, admitted, workspace, contact, later⟩ claims

end Steps

/-- Where every mail the gate judges leaves room for the undecided ones, no window holds more mails to the
contact than the cap. -/
theorem frequency_cap_kept (platform : Platform) (workspaceId : WorkspaceId) (contactId : ContactId)
    (cap windowHours : Nat) {start : Timestamp} {trace : List Label} {world : World}
    (judged : Along (step platform) (fun world label _ => judgedBy workspaceId contactId cap windowHours world label = true)
      (initialWorld start) trace)
    (room : Along (step platform) (fun world label _ => roomLeft workspaceId contactId cap windowHours world label = true)
      (initialWorld start) trace)
    (ran : run (step platform) (initialWorld start) trace = some world) (time : Timestamp) :
    mailsWithin workspaceId contactId (windowHours * millisecondsPerHour) time world.db.sends ≤ cap := by
  have kept : ∀ world label next,
      (ClaimsSound platform.sendIds world ∧ RowsHeld world ∧ TimesSound world ∧ ∀ time, world.db.sends.count
        (mayCount workspaceId contactId world (windowHours * millisecondsPerHour) time) ≤ cap) →
      (judgedBy workspaceId contactId cap windowHours world label = true ∧
        roomLeft workspaceId contactId cap windowHours world label = true) →
      step platform world label = some next →
      ClaimsSound platform.sendIds next ∧ RowsHeld next ∧ TimesSound next ∧ ∀ time, next.db.sends.count
        (mayCount workspaceId contactId next (windowHours * millisecondsPerHour) time) ≤ cap := by
    rintro world label next ⟨sound, held, times, below⟩ ⟨judgedHere, roomHere⟩ taken
    exact ⟨claimsSound_step sound taken, rowsHeld_step held sound taken, timesSound_step times sound held taken,
      cap_step sound held times taken judgedHere roomHere below⟩
  have started : ∀ time, (initialWorld start).db.sends.count
      (mayCount workspaceId contactId (initialWorld start) (windowHours * millisecondsPerHour) time) ≤ cap :=
    fun _ => Nat.zero_le cap
  obtain ⟨_, _, _, below⟩ := invariant_of_run kept
    ⟨claimsSound_initial platform.sendIds start, rowsHeld_initial start, timesSound_initial start, started⟩
    (along_and judged room) ran
  refine le_trans (Table.count_le_count ?_) (below time)
  intro intent counted
  obtain ⟨row, found, counts⟩ := Option.any_eq_true _ _ |>.mp counted
  rw [found, Option.any_some]
  rw [Bool.and_eq_true] at counts
  simp [mayCount, counts.1, counts.2]

def cappedWorkspace : List Label :=
  [.environment (.createWorkspace 0 "acme"),
   .environment (.putSendgridKey { workspaceId := 0, apiKey := "key" }),
   .environment (.putSendSettings { workspaceId := 0, frequencyCap := 1, frequencyWindowHours := 1, rpsLimit := none }),
   .environment (.putContact { id := 1, workspaceId := 0, email := some "ann" }),
   .environment (.putFlowVersion
     { id := 0, nodes := [{ id := 5, isSend := true, templateId := some "t", fromEmail := some "crm" }] })] ++
  [0, 1, 2].flatMap fun flowRunId =>
    [.environment (.putFlowRun { id := flowRunId, workspaceId := 0, flowVersionId := 0 }),
     .environment (.enqueueFlowSend 0 flowRunId 5 1)]

def startFlowSend (id : Nat) (flowRunId : FlowRunId) : List Label :=
  [.delivery (.deliver id (.flow 0 flowRunId 5 1)), .delivery (.call id)]

def hourlyMails : List Label :=
  cappedWorkspace ++ startFlowSend 0 0 ++ answerAndSettle 0 (.response 202 (some "m")) ++
    [.delivery (.deliver 1 (.flow 0 1 5 1)), .environment (.advance 3600000)] ++
    startFlowSend 2 2 ++ answerAndSettle 2 (.response 202 (some "n"))

theorem frequency_cap_hourly : ∃ world, run (step pairedPlatform) (initialWorld 0) hourlyMails = some world ∧
    world.db.sends.rows.length = 3 ∧ ∀ time, mailsWithin 0 1 (1 * millisecondsPerHour) time world.db.sends ≤ 1 := by
  have evaluated : (run (step pairedPlatform) (initialWorld 0) hourlyMails).any (fun world =>
      decide (world.db.sends.rows.length = 3)) = true := by
    decide +kernel
  obtain ⟨world, ran, three⟩ := Option.any_eq_true _ _ |>.mp evaluated
  have judged : checkAlong (step pairedPlatform) (judgedBy 0 1 1 1) (initialWorld 0) hourlyMails = true := by
    decide +kernel
  have room : checkAlong (step pairedPlatform) (roomLeft 0 1 1 1) (initialWorld 0) hourlyMails = true := by
    decide +kernel
  exact ⟨world, ran, of_decide_eq_true three,
    frequency_cap_kept pairedPlatform 0 1 1 1 (along_of_check judged) (along_of_check room) ran⟩

def simultaneousMails : List Label :=
  cappedWorkspace ++ startFlowSend 0 0 ++ startFlowSend 1 1 ++ answerAndSettle 0 (.response 202 (some "m")) ++
    answerAndSettle 1 (.response 202 (some "n"))

/-- The cap as claimed, of every run: the two mails above are sent within one hour. -/
theorem frequency_cap_simultaneous : ¬ ∀ (platform : Platform) (workspaceId : WorkspaceId) (contactId : ContactId)
    (cap windowHours : Nat) (start : Timestamp) (trace : List Label) (world : World),
    Along (step platform) (fun world label _ => judgedBy workspaceId contactId cap windowHours world label = true)
      (initialWorld start) trace →
    run (step platform) (initialWorld start) trace = some world →
    ∀ time, mailsWithin workspaceId contactId (windowHours * millisecondsPerHour) time world.db.sends ≤ cap := by
  intro always
  have evaluated : (run (step pairedPlatform) (initialWorld 0) simultaneousMails).any (fun world =>
      decide (mailsWithin 0 1 (1 * millisecondsPerHour) 0 world.db.sends = 2)) = true := by
    decide +kernel
  obtain ⟨world, ran, two⟩ := Option.any_eq_true _ _ |>.mp evaluated
  have judged : checkAlong (step pairedPlatform) (judgedBy 0 1 1 1) (initialWorld 0) simultaneousMails = true := by
    decide +kernel
  have one : mailsWithin 0 1 (1 * millisecondsPerHour) 0 world.db.sends ≤ 1 :=
    always pairedPlatform 0 1 1 1 0 simultaneousMails world (along_of_check judged) ran 0
  rw [of_decide_eq_true two] at one
  cases one with
  | step impossible => cases impossible

end LocalCrm.System
