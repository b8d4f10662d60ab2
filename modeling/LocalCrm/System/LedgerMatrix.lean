import LocalCrm.Delivery.SendStateMachine
import LocalCrm.System.AtMostOnce
import LocalCrm.System.Ledger

/-! The ledger against its documented transition matrix. -/

set_option autoImplicit false

namespace LocalCrm.System

open Library Delivery Campaigns Webhooks Analytics

def writerOf : Label → Option SendStatusWriter
  | .delivery _ => some .worker
  | .kickoff _ => some .preSendGate
  | .reconcile _ => some .reconciler
  | _ => none

structure Respects (writer : Option SendStatusWriter) (before after : Sends) : Prop where
  moves : ∀ intent source target, statusOf before intent = some source → statusOf after intent = some target →
    source ≠ target → ∃ actor, writer = some actor ∧ Listed actor source target
  removals : ∀ intent source, statusOf before intent = some source → statusOf after intent = none →
    source = .dispatching

def MatrixRespected (world : World) (label : Label) (next : World) : Prop :=
  Respects (writerOf label) world.db.sends next.db.sends

/-- Whoever records an outcome finds the row still claimed, or already as the outcome has it. -/
def RecordsFindOpenRow (world : World) (label : Label) (_ : World) : Prop :=
  ∀ id job claim dispatchedAt duration outcome status source,
    label = .delivery (.settle id) →
    world.deliveries.find? id = some { id, job, phase := .answered claim dispatchedAt duration outcome } →
    recordedStatus outcome = some status → statusOf world.db.sends job.intent = some source →
    source = .dispatching ∨ source = status.toSendStatus

section Ledger

variable {ids : SendIdScheme} {world next : World} {label : Label} {writer : Option SendStatusWriter}

theorem respects_of_kept {before after : Sends} (kept : ∀ intent, statusOf after intent = statusOf before intent) :
    Respects writer before after where
  moves other source target stored changed differs := by
    rw [kept, stored] at changed
    cases changed
    exact absurd rfl differs
  removals other source stored gone := by
    rw [kept, stored] at gone
    cases gone

theorem respects_of_moved {before after : Sends} {intent : SendIntent}
    (others : ∀ other, other ≠ intent → statusOf after other = statusOf before other)
    (moved : ∀ source target, statusOf before intent = some source → statusOf after intent = some target →
      source ≠ target → ∃ actor, writer = some actor ∧ Listed actor source target)
    (removed : ∀ source, statusOf before intent = some source → statusOf after intent = none →
      source = .dispatching) : Respects writer before after where
  moves other source target stored changed differs := by
    by_cases same : other = intent
    · subst same
      exact moved source target stored changed differs
    · rw [others other same, stored] at changed
      cases changed
      exact absurd rfl differs
  removals other source stored gone := by
    by_cases same : other = intent
    · subst same
      exact removed source stored gone
    · rw [others other same, stored] at gone
      cases gone

theorem edge_of_moved {intent : SendIntent} {before after : Option SendStatus}
    (moves : StatusMoved ids world label intent before after) (unrecorded : ∀ id, label ≠ .delivery (.settle id)) :
    (∀ source target, before = some source → after = some target → source ≠ target →
      ∃ actor, writerOf label = some actor ∧ Listed actor source target) ∧
    ∀ source, before = some source → after = none → source = .dispatching := by
  cases moves with
  | claimed | excluded | walked => exact ⟨by rintro _ _ ⟨⟩, by rintro _ ⟨⟩⟩
  | interrupted =>
    refine ⟨?_, by rintro _ _ ⟨⟩⟩
    rintro _ _ ⟨⟩ ⟨⟩ _
    exact ⟨.worker, rfl, by decide⟩
  | denied =>
    refine ⟨by rintro _ _ _ ⟨⟩, ?_⟩
    rintro _ ⟨⟩ _
    rfl
  | released | recorded => exact absurd rfl (unrecorded _)
  | swept | unresolved =>
    refine ⟨?_, by rintro _ _ ⟨⟩⟩
    rintro _ _ ⟨⟩ ⟨⟩ _
    exact ⟨.reconciler, rfl, by decide⟩
  | resolved waiting =>
    refine ⟨?_, by rintro _ _ ⟨⟩⟩
    rintro _ _ ⟨⟩ ⟨⟩ _
    rcases waiting with rfl | rfl <;> exact ⟨.reconciler, rfl, by decide⟩

theorem respects_recordSendResult_iff {now : Timestamp} {before : Sends} {intent : SendIntent} {result : SendResult} :
    Respects (some .worker) before (recordSendResult ids now before (ids.derive intent) result) ↔
      ∀ source, statusOf before intent = some source →
        source = .dispatching ∨ source = result.status.toSendStatus := by
  have wrote : ∀ other, statusOf (recordSendResult ids now before (ids.derive intent) result) other =
      if other = intent then (statusOf before other).map fun _ => result.status.toSendStatus
      else statusOf before other := fun other => statusOf_recordSendResult
  constructor
  · intro respects source stored
    by_cases same : source = result.status.toSendStatus
    · exact .inr same
    · left
      have changed : statusOf (recordSendResult ids now before (ids.derive intent) result) intent =
          some result.status.toSendStatus := by rw [wrote, if_pos rfl, stored, Option.map_some]
      obtain ⟨actor, worker, listed⟩ := respects.moves intent source _ stored changed same
      cases worker
      exact (worker_leaves_only_dispatching.mp listed).1
  · intro opened
    refine respects_of_moved (fun other differs => by rw [wrote, if_neg differs]) ?_ ?_
    · intro source target stored changed differs
      rw [wrote, if_pos rfl, stored] at changed
      cases changed
      rcases opened source stored with held | same
      · refine ⟨.worker, rfl, worker_leaves_only_dispatching.mpr ⟨held, ?_⟩⟩
        cases result.status <;> simp [RecordedStatus.toSendStatus]
      · exact absurd same differs
    · intro source stored gone
      rw [wrote, if_pos rfl, stored] at gone
      cases gone

theorem respects_releaseDispatchClaim {before : Sends} {intent : SendIntent} :
    Respects writer before (releaseDispatchClaim ids before (ids.derive intent)) where
  moves other source target stored changed differs := by
    rw [statusOf_releaseDispatchClaim] at changed
    split at changed
    · cases changed
    · rw [stored] at changed
      cases changed
      exact absurd rfl differs
  removals other source stored gone := by
    rw [statusOf_releaseDispatchClaim] at gone
    split at gone
    · next held =>
      rw [stored] at held
      cases held.2
      rfl
    · rw [stored] at gone
      cases gone

end Ledger

theorem matrixRespected_of_unrecorded {platform : Platform} {world next : World} {label : Label}
    (sound : ClaimsSound platform.sendIds world) (taken : step platform world label = some next)
    (unrecorded : ∀ id, label ≠ .delivery (.settle id)) : MatrixRespected world label next := by
  cases ledgerTaken_step sound taken with
  | kept same => exact respects_of_kept same
  | moved intent before after stored changed others moves =>
    subst stored
    subst changed
    have edge := edge_of_moved moves unrecorded
    exact respects_of_moved others edge.1 edge.2

theorem matrixRespected_step_iff {platform : Platform} {world next : World} {label : Label}
    (sound : ClaimsSound platform.sendIds world) (taken : step platform world label = some next) :
    MatrixRespected world label next ↔ RecordsFindOpenRow world label next := by
  by_cases settles : ∃ id, label = .delivery (.settle id)
  · obtain ⟨id, rfl⟩ := settles
    have delivered : DeliveryTaken platform.sendIds world (.settle id) next := deliveryStep_taken taken
    cases delivered with
    | settled job claim dispatchedAt duration outcome found =>
      have derived : claim.sendId = platform.sendIds.derive job.intent := sound _ _ found
      cases recorded : recordedStatus outcome with
      | none =>
        constructor
        · rintro _ _ _ _ _ _ _ _ _ ⟨⟩ located stands
          rw [found] at located
          cases located
          rw [recorded] at stands
          cases stands
        · intro _
          simp only [MatrixRespected, settleOutcome_released recorded, derived]
          exact respects_releaseDispatchClaim
      | some status =>
        simp only [MatrixRespected, settleOutcome_recorded recorded, derived, writerOf]
        rw [respects_recordSendResult_iff]
        constructor
        · rintro opened _ _ _ _ _ _ _ _ ⟨⟩ located stands stored
          rw [found] at located
          cases located
          rw [recorded] at stands
          cases stands
          exact opened _ stored
        · intro opened source stored
          exact opened id job claim dispatchedAt duration outcome status source rfl found recorded stored
  · constructor
    · rintro _ id _ _ _ _ _ _ _ rfl
      exact absurd ⟨id, rfl⟩ settles
    · intro _
      exact matrixRespected_of_unrecorded sound taken fun id same => settles ⟨id, same⟩

/-- A run keeps to the matrix exactly when nobody records an outcome late. -/
theorem matrixRespected_iff (platform : Platform) (start : Timestamp) (trace : List Label) :
    Along (step platform) MatrixRespected (initialWorld start) trace ↔
      Along (step platform) RecordsFindOpenRow (initialWorld start) trace :=
  along_congr (fun _ _ _ sound taken => claimsSound_step sound taken)
    (fun _ _ _ sound taken => matrixRespected_step_iff sound taken)
    (claimsSound_initial platform.sendIds start) trace

def overtakenTrace : List Label :=
  launchedCampaign ++ kickoffSteps 0 20 ++ claimAndCall 0 1 ++ [.delivery (.deliver 1 (.campaign 0 0 1))] ++
    [.delivery (.answer 0 (.response 202 none))]

set_option maxRecDepth 10000 in
theorem matrixRespected_overtaken :
    ¬ Along (step pairedPlatform) MatrixRespected (initialWorld 0)
      (overtakenTrace ++ [.delivery (.settle 0)]) := by
  intro respected
  have evaluated : (run (step pairedPlatform) (initialWorld 0) overtakenTrace).any (fun world =>
      statusOf world.db.sends (.campaign 0 0 1) == some .reconciling &&
        (step pairedPlatform world (.delivery (.settle 0))).any fun next =>
          statusOf next.db.sends (.campaign 0 0 1) == some .sent) = true := by decide
  obtain ⟨world, ran, before⟩ := Option.any_eq_true _ _ |>.mp evaluated
  simp only [Bool.and_eq_true, beq_iff_eq] at before
  obtain ⟨next, taken, after⟩ := Option.any_eq_true _ _ |>.mp before.2
  obtain ⟨writer, worker, listed⟩ := (along_last respected ran taken).moves (.campaign 0 0 1) .reconciling .sent
    before.1 (beq_iff_eq.mp after) (by decide)
  cases worker
  exact absurd listed (by decide)

end LocalCrm.System
