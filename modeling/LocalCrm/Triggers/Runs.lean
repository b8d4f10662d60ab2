import LocalCrm.Triggers.System

/-! What one step of the system does with the runs and the snapshot of the flows. -/

set_option autoImplicit false

namespace LocalCrm.Triggers

open Library Flows Segments Events Erasure Contacts Delivery

variable {platform : Platform} {boundary : Boundary} {isEmail : String → Bool} {system next : EntrySystem}
  {action : EntryAction} {run : FlowRunRow} {flowRunId : FlowRunId}

section Steps

theorem entryStep_flows {turn : Turn WorkerTurn MembershipEvent}
    (taken : entryStep platform boundary isEmail system (.flows turn) = some next) :
    entersOtherwise system.flows.own turn = false ∧
      ∃ flows, membershipStep system.threads turn = some flows ∧ next = { system with flows } := by
  simp only [entryStep] at taken
  split at taken
  · cases taken
  · next separate =>
    obtain ⟨flows, stepped, rfl⟩ := Option.map_eq_some_iff.mp taken
    exact ⟨Bool.eq_false_iff.mpr separate, flows, stepped, rfl⟩

theorem entryStep_check {slot : Nat} {input : CheckInput}
    (taken : entryStep platform boundary isEmail system (.check slot input) = some next) :
    ∃ delivery, system.deliveries slot = some delivery ∧ delivery.committed = false ∧
      input.fresh system.store delivery.job.eventId.1 delivery.job.contactId (some delivery.job.eventName) = true ∧
      next =
        { (system.withTables (processFlowTriggerCheck input system.store delivery.job.eventId.1 delivery.job.contactId
            (some delivery.job.eventName) system.ingest.db.contacts)).delivered slot
              (some { delivery with committed := true }) with
          started := system.started ++
            startedBy delivery.job system.tables (eventAttemptsOf system (.check slot input)) } := by
  simp only [entryStep] at taken
  split at taken
  · cases taken
  · next delivery here =>
    split at taken
    · cases taken
    · next open_ =>
      split at taken
      · next fresh =>
        cases taken
        exact ⟨delivery, here, Bool.eq_false_iff.mpr open_, fresh, rfl⟩
      · cases taken

theorem entryStep_elsewhere (taken : entryStep platform boundary isEmail system action = some next)
    (unchecked : ∀ slot input, action ≠ .check slot input) (unturned : ∀ turn, action ≠ .flows turn) :
    next.tables = system.tables ∧ next.flows = system.flows ∧ next.started = system.started ∧
      attemptsOf system action = [] := by
  cases action with
  | ingest event =>
    simp only [entryStep] at taken
    split at taken
    · cases taken
    · obtain ⟨ingest, _, rfl⟩ := Option.map_eq_some_iff.mp taken
      exact ⟨rfl, rfl, rfl, rfl⟩
  | contacts arrival =>
    simp only [entryStep] at taken
    split at taken
    · obtain ⟨store, _, rfl⟩ := Option.map_eq_some_iff.mp taken
      exact ⟨rfl, rfl, rfl, rfl⟩
    · cases taken
  | conditions conditions =>
    cases taken
    exact ⟨rfl, rfl, rfl, rfl⟩
  | flows turn => exact absurd rfl (unturned turn)
  | take slot job =>
    simp only [entryStep] at taken
    split at taken <;> cases taken
    exact ⟨rfl, rfl, rfl, rfl⟩
  | check slot input => exact absurd rfl (unchecked slot input)
  | finish slot =>
    simp only [entryStep] at taken
    split at taken
    · cases taken
    · split at taken <;> cases taken
      exact ⟨rfl, rfl, rfl, rfl⟩
  | crash slot =>
    obtain ⟨_, _, rfl⟩ := Option.map_eq_some_iff.mp taken
    exact ⟨rfl, rfl, rfl, rfl⟩

end Steps

section Checks

variable {slot : Nat} {input : CheckInput} {delivery : CheckDelivery}

theorem attemptsOf_check (here : system.deliveries slot = some delivery) :
    attemptsOf system (.check slot input) =
      if (contactOf system.ingest.db.contacts delivery.job.eventId.1 delivery.job.contactId).isSome then
        checkAttempts input system.store delivery.job.eventId.1 delivery.job.contactId (some delivery.job.eventName)
      else [] := by
  unfold attemptsOf eventAttemptsOf segmentAttemptsOf checkedAttempts
  simp only [here]
  split <;> rfl

theorem tables_check (here : system.deliveries slot = some delivery) :
    processFlowTriggerCheck input system.store delivery.job.eventId.1 delivery.job.contactId
        (some delivery.job.eventName) system.ingest.db.contacts =
      enterAll system.tables (attemptsOf system (.check slot input)) := by
  rw [processFlowTriggerCheck_eq, attemptsOf_check here]
  split <;> rfl

theorem independent_checked (here : system.deliveries slot = some delivery)
    (fresh : input.fresh system.store delivery.job.eventId.1 delivery.job.contactId (some delivery.job.eventName) =
      true) : Independent system.tables (attemptsOf system (.check slot input)) := by
  rw [attemptsOf_check here]
  split
  · exact independent_check fresh
  · exact ⟨List.nodup_nil, List.nodup_nil, fun _ member => absurd member List.not_mem_nil⟩

end Checks

section Runs

theorem attemptsOf_thread {id : Nat} {turn : WorkerTurn} : attemptsOf system (.flows (.thread id turn)) =
    walkAttempts system (walkTurn system.store (system.flows.own id) turn) := rfl

theorem flows_runs {turn : Turn WorkerTurn MembershipEvent} (separate : entersOtherwise system.flows.own turn = false)
    {flows : MembershipThreads} (stepped : membershipStep system.threads turn = some flows) :
    Independent system.tables (attemptsOf system (.flows turn)) ∧
      ∀ flowRunId, system.tables.flowRuns.find? flowRunId = none →
        flows.shared.store.tables.flowRuns.find? flowRunId =
          (enterAll system.tables (attemptsOf system (.flows turn))).flowRuns.find? flowRunId := by
  have quiet : Independent system.tables [] :=
    ⟨List.nodup_nil, List.nodup_nil, fun _ member => absurd member List.not_mem_nil⟩
  cases turn with
  | thread id choice =>
    obtain ⟨shared, after, acted, rfl⟩ := interleave_thread.mp stepped
    rw [attemptsOf_thread]
    rcases workerTurn_flowRuns separate acted with
      ⟨idle, same⟩ | ⟨input, walk, page, walking, distinct, fresh, entered⟩
    · have idle : walkTurn system.store (system.flows.own id) choice = none := idle
      rw [idle]
      exact ⟨quiet, fun flowRunId _ => congrArg (Table.find? · flowRunId) same⟩
    · have walking : walkTurn system.store (system.flows.own id) choice = some (input, walk, page) := walking
      rw [walking]
      exact ⟨independent_page distinct fresh, fun flowRunId _ => congrArg (Table.find? · flowRunId) entered⟩
  | outside event =>
    obtain ⟨shared, happened, rfl⟩ := interleave_outside.mp stepped
    refine ⟨quiet, fun flowRunId missing => ?_⟩
    cases event with
    | advance workspaceId advancedId seen =>
      simp only [membershipEvent, engineEvent, Option.map_eq_some_iff] at happened
      obtain ⟨next, advanced, rfl⟩ := happened
      split at advanced
      · next tables done =>
        cases advanced
        have present := (advanceStored_runs done).2.1 flowRunId
        have missing : system.threads.shared.store.tables.flowRuns.find? flowRunId = none := missing
        rw [missing] at present
        show tables.flowRuns.find? flowRunId = system.tables.flowRuns.find? flowRunId
        rw [Option.isSome_eq_false_iff.mp present.symm |> Option.isNone_iff_eq_none.mp]
        exact missing.symm
      · cases advanced
        rfl
    | triggerCheck | members => cases separate
    | segment =>
      cases happened
      rfl

theorem step_runs (taken : entryStep platform boundary isEmail system action = some next) :
    Independent system.tables (attemptsOf system action) ∧
      ∀ flowRunId, system.tables.flowRuns.find? flowRunId = none →
        next.tables.flowRuns.find? flowRunId =
          (enterAll system.tables (attemptsOf system action)).flowRuns.find? flowRunId := by
  by_cases checks : ∃ slot input, action = .check slot input
  · obtain ⟨slot, input, rfl⟩ := checks
    obtain ⟨delivery, here, _, fresh, rfl⟩ := entryStep_check taken
    refine ⟨independent_checked here fresh, fun flowRunId _ => ?_⟩
    rw [tables_check here]
    rfl
  · by_cases turns : ∃ turn, action = .flows turn
    · obtain ⟨turn, rfl⟩ := turns
      obtain ⟨separate, flows, stepped, rfl⟩ := entryStep_flows taken
      exact flows_runs separate stepped
    · obtain ⟨same, _, _, none⟩ := entryStep_elsewhere taken (fun slot input given => checks ⟨slot, input, given⟩)
        (fun turn given => turns ⟨turn, given⟩)
      rw [none, same]
      exact ⟨⟨List.nodup_nil, List.nodup_nil, fun _ member => absurd member List.not_mem_nil⟩, fun _ _ => rfl⟩

theorem new_run (taken : entryStep platform boundary isEmail system action = some next)
    (missing : system.tables.flowRuns.find? flowRunId = none) :
    next.tables.flowRuns.find? flowRunId = some run ↔
      ∃ attempt ∈ attemptsOf system action, attempt.allowed system.tables = true ∧
        attempt.run system.tables = run ∧ attempt.flowRunId = flowRunId := by
  obtain ⟨independent, entered⟩ := step_runs taken
  rw [entered flowRunId missing, new_enterAll independent missing]

theorem inserted_of_allowed (taken : entryStep platform boundary isEmail system action = some next)
    {attempt : EntryAttempt} (member : attempt ∈ attemptsOf system action)
    (allowed : attempt.allowed system.tables = true) :
    system.tables.flowRuns.find? attempt.flowRunId = none ∧
      next.tables.flowRuns.find? attempt.flowRunId = some (attempt.run system.tables) := by
  have missing := (step_runs taken).1.unused attempt member
  exact ⟨missing, (new_run taken missing).mpr ⟨attempt, member, allowed, rfl, rfl⟩⟩

end Runs

section Matching

variable {attempt : EntryAttempt} {workspaceId : WorkspaceId} {flowId : FlowId} {contactId : ContactId}

theorem segmentAttemptsOf_fresh (member : attempt ∈ segmentAttemptsOf system action) :
    system.store.matchesSome attempt.contactId ∧
      system.tables.hasSeenSnapshot attempt.flow.workspaceId attempt.flow.id attempt.contactId = false := by
  cases action with
  | check slot input =>
    unfold segmentAttemptsOf checkedAttempts at member
    dsimp only at member
    split at member
    · cases member
    · split at member
      · obtain ⟨flow, _, made⟩ := mem_segmentAttempts.mp member
        obtain ⟨unseen, walk, _, inside, same, rfl⟩ := segmentAttempt_some made
        rw [← same] at unseen
        exact ⟨⟨_, _, inside⟩, unseen⟩
      · cases member
  | flows turn =>
    cases turn with
    | thread id choice =>
      have attempted : attempt ∈ walkAttempts system (walkTurn system.store (system.flows.own id) choice) := member
      cases walking : walkTurn system.store (system.flows.own id) choice with
      | none =>
        rw [walking] at attempted
        cases attempted
      | some found =>
        rw [walking] at attempted
        obtain ⟨contactId, inside, unseen, rfl⟩ := mem_pageAttempts.mp attempted
        exact ⟨⟨_, _, walkTurn_matches walking inside⟩, unseen⟩
    | outside event => cases member
  | ingest | contacts | conditions | take | finish | crash => cases member

theorem marks_segment (member : attempt ∈ attemptsOf system action) (marks : attempt.marks = true) :
    attempt ∈ segmentAttemptsOf system action := by
  rcases List.mem_append.mp member with event | segment
  · cases action with
    | check slot input =>
      unfold eventAttemptsOf checkedAttempts at event
      dsimp only at event
      split at event
      · cases event
      · split at event
        · obtain ⟨flow, _, made⟩ := mem_eventAttempts.mp event
          rw [(eventAttempt_some made).2.2.2] at marks
          cases marks
        · cases event
    | ingest | contacts | conditions | flows | take | finish | crash => cases event
  · exact segment

theorem new_seen (taken : entryStep platform boundary isEmail system action = some next)
    (seen : next.tables.hasSeenSnapshot workspaceId flowId contactId = true) :
    system.tables.hasSeenSnapshot workspaceId flowId contactId = true ∨ system.store.matchesSome contactId := by
  by_cases checks : ∃ slot input, action = .check slot input
  · obtain ⟨slot, input, rfl⟩ := checks
    obtain ⟨delivery, here, _, _, rfl⟩ := entryStep_check taken
    have entered : (processFlowTriggerCheck input system.store delivery.job.eventId.1 delivery.job.contactId
        (some delivery.job.eventName) system.ingest.db.contacts).hasSeenSnapshot workspaceId flowId contactId =
          true := seen
    rw [tables_check here] at entered
    rcases hasSeenSnapshot_enterAll.mp entered with before | ⟨attempt, member, marks, target⟩
    · exact .inl before
    · right
      have same : attempt.contactId = contactId :=
        congrArg (fun target : WorkspaceId × FlowId × ContactId => target.2.2) target
      rw [← same]
      exact (segmentAttemptsOf_fresh (marks_segment member marks)).1
  · by_cases turns : ∃ turn, action = .flows turn
    · obtain ⟨turn, rfl⟩ := turns
      obtain ⟨separate, flows, stepped, rfl⟩ := entryStep_flows taken
      cases turn with
      | thread id choice =>
        obtain ⟨shared, after, acted, rfl⟩ := interleave_thread.mp stepped
        exact workerTurn_seen acted seen
      | outside event =>
        obtain ⟨shared, happened, rfl⟩ := interleave_outside.mp stepped
        cases event with
        | advance workspaceId advancedId observed =>
          simp only [membershipEvent, engineEvent, Option.map_eq_some_iff] at happened
          obtain ⟨next, advanced, rfl⟩ := happened
          split at advanced
          · next tables done =>
            cases advanced
            exact .inl (seen_of_same (advanceStored_snapshot done) seen)
          · cases advanced
            exact .inl seen
        | triggerCheck | members => cases separate
        | segment =>
          cases happened
          exact .inl seen
    · obtain ⟨same, _, _, _⟩ := entryStep_elsewhere taken (fun slot input given => checks ⟨slot, input, given⟩)
        (fun turn given => turns ⟨turn, given⟩)
      rw [same] at seen
      exact .inl seen

end Matching

section Traces

def twoContacts : Table Contact.id :=
  (Table.empty.insert { id := 3, workspaceId := 1, email := some "ann@example.com" }).insert
    { id := 9, workspaceId := 1, email := some "bob@example.com" }

def quietSystem : EntrySystem where
  ingest := { db := { contacts := twoContacts } }
  conditions definition contact := definition.groupCombinator.isSome || contact.id == 9
  flows := twoSegments

def publishedNarrow : List EntryAction := (createFlowTurns ++ publishWith 1 10).map .flows

def callTurns (turns : List SessionTurn) : List EntryAction :=
  turns.map fun turn => .flows (.thread 0 (.session turn))

def publishedSignup : List EntryAction :=
  createFlowTurns.map .flows ++ callTurns [.start 1 (.update 7 { definition := some exitFlow }), .read,
    .commit { now := 1, versionId := 10 }, .start 1 (.publish 7 false), .read, .commit { now := 2 }]

def signupJob : TriggerJob where
  eventId := (1, "6f8a5c1e-0000-4000-8000-000000000001")
  contactId := 3
  eventName := "signup"

def signedUp : EntrySystem :=
  { quietSystem with ingest := { quietSystem.ingest with triggers := { pending := [signupJob] } } }

def checkInput (flowRunId : FlowRunId) : CheckInput where
  now := 4
  clock _ := 4
  flowRunId _ := flowRunId

def sweepTurns (id : Nat) (turns : List SweepTurn) : List EntryAction :=
  .flows (.thread id (.sweepJob 1 7)) :: turns.map fun turn => .flows (.thread id (.sweep turn))

end Traces

end LocalCrm.Triggers
