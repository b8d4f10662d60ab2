import LocalCrm.Triggers.Runs

/-! How often one event starts a flow.

Nothing on a run names the event that started it.
-/

set_option autoImplicit false

namespace LocalCrm.Triggers

open Library Flows Segments Events Erasure Contacts Delivery

variable (eventId : IngestJobId) (flowId : FlowId)

def startedFor (started : List StartedRun) : List StartedRun :=
  started.filter fun record => record.eventId == eventId && record.flowId == flowId

def StartsAtMostOnce (system : EntrySystem) : Prop := (startedFor eventId flowId system.started).length ≤ 1

/-- A check of the event finds the flow live, still started by it and open to the contact. -/
def opensTo (system : EntrySystem) (action : EntryAction) : Bool :=
  match action with
  | .check slot _ =>
    (system.deliveries slot).any (fun delivery => delivery.job.eventId == eventId) &&
      (eventAttemptsOf system action).any fun attempt => attempt.flow.id == flowId && attempt.allowed system.tables
  | .ingest _ | .contacts _ | .conditions _ | .flows _ | .take _ _ | .finish _ | .crash _ => false

def restarts (system : EntrySystem) (action : EntryAction) : Bool :=
  !(startedFor eventId flowId system.started).isEmpty && opensTo eventId flowId system action

section Steps

variable {platform : Platform} {boundary : Boundary} {isEmail : String → Bool} {system next : EntrySystem}
  {action : EntryAction} {eventId : IngestJobId} {flowId : FlowId}

theorem nodup_eventFlows {slot : Nat} {input : CheckInput} :
    ((eventAttemptsOf system (.check slot input)).map fun attempt => attempt.flow.id).Nodup := by
  unfold eventAttemptsOf checkedAttempts
  dsimp only
  split
  · exact List.nodup_nil
  · next delivery _ =>
    split
    · have owners : ((eventAttempts input system.store delivery.job.eventId.1 delivery.job.contactId
          (some delivery.job.eventName)).map EntryAttempt.flow).Sublist
            (matchingFlows system.store delivery.job.eventId.1 (some delivery.job.eventName)) :=
        map_flow_sublist (fun flow attempt made => (eventAttempt_some made).2.1) _
      have distinct := system.store.store.tables.flows.unique.sublist ((owners.trans matchingFlows_sub).map FlowRow.id)
      rw [List.map_map] at distinct
      exact distinct
    · exact List.nodup_nil

theorem length_startedBy {slot : Nat} {input : CheckInput} {delivery : CheckDelivery}
    (here : system.deliveries slot = some delivery) :
    (startedFor eventId flowId (startedBy delivery.job system.tables
      (eventAttemptsOf system (.check slot input)))).length =
        if opensTo eventId flowId system (.check slot input) then 1 else 0 := by
  have distinct := @nodup_eventFlows system slot input
  have opens : opensTo eventId flowId system (.check slot input) =
      (delivery.job.eventId == eventId && (eventAttemptsOf system (.check slot input)).any fun attempt =>
        attempt.flow.id == flowId && attempt.allowed system.tables) := by
    unfold opensTo
    simp only [here, Option.any_some]
  unfold startedFor startedBy
  rw [opens]
  generalize eventAttemptsOf system (.check slot input) = attempts at distinct ⊢
  by_cases mine : delivery.job.eventId = eventId
  · have once : (attempts.filter fun attempt => attempt.flow.id == flowId && attempt.allowed system.tables).length ≤
        1 := by
      calc (attempts.filter fun attempt => attempt.flow.id == flowId && attempt.allowed system.tables).length
          ≤ attempts.countP fun attempt => attempt.flow.id == flowId := by
            rw [← List.countP_eq_length_filter]
            apply List.countP_mono_left
            intro attempt _ both
            exact (Bool.and_eq_true_iff.mp both).1
        _ = (attempts.map fun attempt => attempt.flow.id).count flowId := by
            rw [List.count, List.countP_map]
            rfl
        _ ≤ 1 := List.nodup_iff_count_le_one.mp distinct flowId
    rw [List.filter_map, List.length_map, List.filter_filter]
    simp only [Function.comp_def, mine, beq_self_eq_true, Bool.true_and]
    split
    · next found =>
      obtain ⟨attempt, member, both⟩ := List.any_eq_true.mp found
      have chosen : attempt ∈
          attempts.filter fun attempt => attempt.flow.id == flowId && attempt.allowed system.tables :=
        List.mem_filter.mpr ⟨member, both⟩
      have present := List.length_pos_of_mem chosen
      omega
    · next closed =>
      rw [List.length_eq_zero_iff, List.filter_eq_nil_iff]
      intro attempt member both
      exact closed (List.any_eq_true.mpr ⟨attempt, member, both⟩)
  · have other : (delivery.job.eventId == eventId) = false := beq_eq_false_iff_ne.mpr mine
    simp [List.filter_map, Function.comp_def, other]

theorem startsAtMostOnce_iff (once : StartsAtMostOnce eventId flowId system)
    (taken : entryStep platform boundary isEmail system action = some next) :
    StartsAtMostOnce eventId flowId next ↔ restarts eventId flowId system action = false := by
  unfold StartsAtMostOnce restarts at *
  by_cases checks : ∃ slot input, action = .check slot input
  · obtain ⟨slot, input, rfl⟩ := checks
    obtain ⟨delivery, here, _, _, rfl⟩ := entryStep_check taken
    have added := @length_startedBy system eventId flowId slot input delivery here
    have whole : (startedFor eventId flowId (system.started ++ startedBy delivery.job system.tables
        (eventAttemptsOf system (.check slot input)))).length =
          (startedFor eventId flowId system.started).length +
            if opensTo eventId flowId system (.check slot input) then 1 else 0 := by
      rw [← added]
      unfold startedFor
      rw [List.filter_append, List.length_append]
    rw [whole]
    cases opens : opensTo eventId flowId system (.check slot input) with
    | false => simpa using once
    | true =>
      cases before : startedFor eventId flowId system.started <;> simp
  · have still : next.started = system.started ∧ opensTo eventId flowId system action = false := by
      by_cases turns : ∃ turn, action = .flows turn
      · obtain ⟨turn, rfl⟩ := turns
        obtain ⟨_, _, _, rfl⟩ := entryStep_flows taken
        exact ⟨rfl, rfl⟩
      · obtain ⟨_, _, same, _⟩ := entryStep_elsewhere taken (fun slot input given => checks ⟨slot, input, given⟩)
          (fun turn given => turns ⟨turn, given⟩)
        refine ⟨same, ?_⟩
        cases action with
        | check slot input => exact absurd ⟨slot, input, rfl⟩ checks
        | ingest | contacts | conditions | flows | take | finish | crash => rfl
    rw [still.1, still.2, Bool.and_false]
    exact iff_of_true once rfl

end Steps

/-- An event starts a flow at most once exactly when no later check of it finds the flow live, started by it
and open to the contact. -/
theorem event_starts_flow_once_iff {platform : Platform} {boundary : Boundary} {isEmail : String → Bool}
    {start : EntrySystem} (fresh : start.started = []) (actions : List EntryAction) :
    Along (entryStep platform boundary isEmail) (fun _ _ next => StartsAtMostOnce eventId flowId next) start actions ↔
      Along (entryStep platform boundary isEmail)
        (fun system action _ => restarts eventId flowId system action = false) start actions := by
  have decided : ∀ system action next, StartsAtMostOnce eventId flowId system →
      entryStep platform boundary isEmail system action = some next →
        (StartsAtMostOnce eventId flowId next ↔ restarts eventId flowId system action = false) :=
    fun system action next once taken => startsAtMostOnce_iff once taken
  apply along_invariant_iff decided
  unfold StartsAtMostOnce startedFor
  rw [fresh]
  exact Nat.zero_le 1

section Traces

def checkedAndCrashed : List EntryAction :=
  publishedSignup ++ [.take 0 signupJob, .check 0 (checkInput 200), .crash 0]

theorem active_run_stops_redelivery :
    (run (entryStep pairedPlatform asciiBoundary fun _ => true) signedUp
      (checkedAndCrashed ++ [.take 1 signupJob, .check 1 (checkInput 201)])).isSome = true ∧
    Along (entryStep pairedPlatform asciiBoundary fun _ => true)
      (fun _ _ next => StartsAtMostOnce signupJob.eventId 7 next) signedUp
      (checkedAndCrashed ++ [.take 1 signupJob, .check 1 (checkInput 201)]) := by
  refine ⟨by decide +kernel, (event_starts_flow_once_iff signupJob.eventId 7 rfl _).mpr ?_⟩
  have checked : checkAlong (entryStep pairedPlatform asciiBoundary fun _ => true)
      (fun system action => !restarts signupJob.eventId 7 system action) signedUp
      (checkedAndCrashed ++ [.take 1 signupJob, .check 1 (checkInput 201)]) = true := by
    decide +kernel
  simpa only [Bool.not_eq_true'] using along_of_check checked

/-- The first run is over when the check is delivered again, and the flow starts once more. -/
theorem redelivery_starts_flow_again : ¬ ∀ (platform : Platform) (boundary : Boundary) (isEmail : String → Bool)
    (eventId : IngestJobId) (flowId : FlowId) (start : EntrySystem), start.started = [] → ∀ actions,
      Along (entryStep platform boundary isEmail) (fun _ _ next => StartsAtMostOnce eventId flowId next)
        start actions := by
  intro always
  have runs : (run (entryStep pairedPlatform asciiBoundary fun _ => true) signedUp
      (checkedAndCrashed ++ [.flows (.outside (.advance 1 200 (observed 4))), .take 1 signupJob])).any (fun system =>
        (entryStep pairedPlatform asciiBoundary (fun _ => true) system (.check 1 (checkInput 201))).any fun next =>
          decide (1 < (startedFor signupJob.eventId 7 next.started).length)) = true := by
    decide +kernel
  obtain ⟨system, ran, onward⟩ := Option.any_eq_true _ _ |>.mp runs
  obtain ⟨next, taken, twice⟩ := Option.any_eq_true _ _ |>.mp onward
  have once := along_last (always pairedPlatform asciiBoundary (fun _ => true) signupJob.eventId 7 signedUp rfl
    (_ ++ [.check 1 (checkInput 201)])) ran taken
  exact absurd once (Nat.not_le_of_lt (of_decide_eq_true twice))

end Traces

end LocalCrm.Triggers
