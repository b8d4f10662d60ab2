import LocalCrm.Triggers.Runs

/-! Enrolment follows the live flow, where the pages of a walk still find it as their job loaded it. -/

set_option autoImplicit false

namespace LocalCrm.Triggers

open Library Flows Segments Events Erasure Contacts Delivery

def triggerOf (flow : FlowRow) : TriggerColumns where
  triggerType := flow.triggerType
  triggerEventName := flow.triggerEventName
  triggerSegmentId := flow.triggerSegmentId

inductive MatchedAgainst (system : EntrySystem) (contactId : ContactId) : EntryAction → FlowRow → Prop where
  | event {slot : Nat} {input : CheckInput} {delivery : CheckDelivery} {flow : FlowRow}
      (here : system.deliveries slot = some delivery) (named : delivery.job.contactId = contactId)
      (matching : flow ∈ matchingFlows system.store delivery.job.eventId.1 (some delivery.job.eventName)) :
      MatchedAgainst system contactId (.check slot input) flow
  | segment {slot : Nat} {input : CheckInput} {delivery : CheckDelivery} {flow : FlowRow} {walk : SegmentWalk}
      (here : system.deliveries slot = some delivery) (named : delivery.job.contactId = contactId)
      (live : flow ∈ loadLiveSegmentTriggeredFlows system.tables delivery.job.eventId.1)
      (loaded : system.store.loadWalk (some flow) = some walk) (member : contactId ∈ system.store.matching walk) :
      MatchedAgainst system contactId (.check slot input) flow
  | walk {action : EntryAction} {input : EntryInput} {walk : SegmentWalk} {page : List ContactId}
      (walking : walkOf system action = some (input, walk, page)) (member : contactId ∈ page) :
      MatchedAgainst system contactId action walk.flow

/-- Whatever run a step inserts, its flow is not paused, the version it is pinned to is live and its contact
matched the trigger the flow has then. -/
def FollowsLiveFlow (system : EntrySystem) (action : EntryAction) (next : EntrySystem) : Prop :=
  ∀ flowRunId run, system.tables.flowRuns.find? flowRunId = none → next.tables.flowRuns.find? flowRunId = some run →
    ∃ flow, system.tables.flow? run.workspaceId run.flowId = some flow ∧ flow.status ≠ .paused ∧
      flow.liveVersionId = some run.flowVersionId ∧
      ∃ known, MatchedAgainst system run.contactId action known ∧ known.workspaceId = run.workspaceId ∧
        known.id = run.flowId ∧ triggerOf known = triggerOf flow

def stillLoaded (tables : FlowTables) (walk : SegmentWalk) : Bool :=
  (tables.flow? walk.flow.workspaceId walk.flow.id).any fun flow =>
    flow.status != .paused && flow.liveVersionId == some walk.liveVersionId &&
      decide (triggerOf walk.flow = triggerOf flow)

/-- A page with somebody on it who has not been seen and may enter finds the flow as its job loaded it. -/
def pageFollows (system : EntrySystem) (action : EntryAction) : Bool :=
  (walkOf system action).all fun (input, walk, page) =>
    stillLoaded system.tables walk ||
      (pageAttempts input walk system.tables page).all fun attempt => !attempt.allowed system.tables

section Steps

variable {platform : Platform} {boundary : Boundary} {isEmail : String → Bool} {system next : EntrySystem}
  {action : EntryAction} {attempt : EntryAttempt}

theorem stillLoaded_iff {tables : FlowTables} {walk : SegmentWalk} : stillLoaded tables walk = true ↔
    ∃ flow, tables.flow? walk.flow.workspaceId walk.flow.id = some flow ∧ flow.status ≠ .paused ∧
      flow.liveVersionId = some walk.liveVersionId ∧ triggerOf walk.flow = triggerOf flow := by
  unfold stillLoaded
  rw [Option.any_eq_true]
  simp only [Bool.and_eq_true, bne_iff_ne, beq_iff_eq, decide_eq_true_eq, and_assoc]

theorem pageFollows_iff : pageFollows system action = true ↔ ∀ input walk page,
    walkOf system action = some (input, walk, page) →
      (∃ attempt ∈ pageAttempts input walk system.tables page, attempt.allowed system.tables = true) →
        stillLoaded system.tables walk = true := by
  unfold pageFollows
  rw [Option.all_eq_true]
  simp only [Bool.or_eq_true, List.all_eq_true, Bool.not_eq_true', Prod.forall]
  constructor
  · intro follows input walk page walking allowed
    rcases follows input walk page walking with loaded | refused
    · exact loaded
    · obtain ⟨attempt, member, allowed⟩ := allowed
      rw [refused attempt member] at allowed
      cases allowed
  · intro follows input walk page walking
    by_cases loaded : stillLoaded system.tables walk = true
    · exact .inl loaded
    · right
      intro attempt member
      rw [Bool.eq_false_iff]
      intro allowed
      exact loaded (follows input walk page walking ⟨attempt, member, allowed⟩)

theorem flow?_of_mem {tables : FlowTables} {flow : FlowRow} (stored : flow ∈ tables.flows.rows) :
    tables.flow? flow.workspaceId flow.id = some flow := by
  unfold FlowTables.flow?
  rw [Table.find?_of_mem stored]
  simp [Option.filter]

theorem checked_follows {slot : Nat} {input : CheckInput} (member : attempt ∈ attemptsOf system (.check slot input)) :
    ∃ flow, system.tables.flow? attempt.flow.workspaceId attempt.flow.id = some flow ∧ flow.status ≠ .paused ∧
      flow.liveVersionId = some attempt.liveVersionId ∧
        MatchedAgainst system attempt.contactId (.check slot input) flow ∧ attempt.flow = flow := by
  cases here : system.deliveries slot with
  | none =>
    unfold attemptsOf eventAttemptsOf segmentAttemptsOf checkedAttempts at member
    simp [here] at member
  | some delivery =>
    rw [attemptsOf_check here] at member
    split at member
    · rcases List.mem_append.mp member with event | segment
      · obtain ⟨flow, matching, made⟩ := mem_eventAttempts.mp event
        obtain ⟨version, rfl, contact, _⟩ := eventAttempt_some made
        obtain ⟨_, _, _, stored, _, live, _⟩ := mem_matchingFlows.mp matching
        refine ⟨_, flow?_of_mem stored, ?_, version, .event here contact.symm matching, rfl⟩
        rw [live]
        decide
      · obtain ⟨flow, matching, made⟩ := mem_segmentAttempts.mp segment
        obtain ⟨_, walk, loaded, inside, same, rfl⟩ := segmentAttempt_some made
        obtain ⟨stored, _, live, _⟩ := mem_loadLiveSegmentTriggeredFlows.mp matching
        refine ⟨flow, ?_, ?_, ?_, .segment here rfl matching loaded inside, same⟩
        · show system.tables.flow? walk.flow.workspaceId walk.flow.id = some flow
          rw [same]
          exact flow?_of_mem stored
        · rw [live]
          decide
        · rw [← same]
          exact (loadWalk_some loaded).2.1
    · cases member

theorem walked_attempt {input : EntryInput} {walk : SegmentWalk} {page : List ContactId}
    (walking : walkOf system action = some (input, walk, page)) :
    attemptsOf system action = pageAttempts input walk system.tables page := by
  cases action with
  | flows turn =>
    cases turn with
    | thread id choice =>
      show walkAttempts system (walkOf system (.flows (.thread id choice))) = _
      rw [walking]
      rfl
    | outside event => cases walking
  | ingest | contacts | conditions | take | check | finish | crash => cases walking

theorem checked_or_walked (member : attempt ∈ attemptsOf system action) :
    (∃ slot input, action = .check slot input) ∨
      ∃ input walk page, walkOf system action = some (input, walk, page) := by
  cases action with
  | check slot input => exact .inl ⟨slot, input, rfl⟩
  | flows turn =>
    right
    cases turn with
    | thread id choice =>
      rw [attemptsOf_thread] at member
      cases walking : walkTurn system.store (system.flows.own id) choice with
      | none =>
        rw [walking] at member
        cases member
      | some found => exact ⟨found.1, found.2.1, found.2.2, walking⟩
    | outside event => cases member
  | ingest | contacts | conditions | take | finish | crash => cases member

theorem followsLiveFlow_iff (taken : entryStep platform boundary isEmail system action = some next) :
    FollowsLiveFlow system action next ↔ pageFollows system action = true := by
  rw [pageFollows_iff]
  constructor
  · rintro follows input walk page walking ⟨attempt, member, allowed⟩
    obtain ⟨contactId, _, _, rfl⟩ := mem_pageAttempts.mp member
    have attempted : walkAttempt input walk contactId ∈ attemptsOf system action := by
      rw [walked_attempt walking]
      exact member
    obtain ⟨missing, inserted⟩ := inserted_of_allowed taken attempted allowed
    obtain ⟨flow, standing, unpaused, live, known, matched, _, _, same⟩ := follows _ _ missing inserted
    refine stillLoaded_iff.mpr ⟨flow, standing, unpaused, live, ?_⟩
    cases matched with
    | event | segment => cases walking
    | @walk _ otherInput otherWalk otherPage also _ =>
      rw [walking] at also
      cases also
      exact same
  · intro follows flowRunId run missing inserted
    obtain ⟨attempt, member, allowed, rfl, rfl⟩ := (new_run taken missing).mp inserted
    rcases checked_or_walked member with ⟨slot, input, rfl⟩ | ⟨input, walk, page, walking⟩
    · obtain ⟨flow, standing, unpaused, live, matched, same⟩ := checked_follows member
      exact ⟨flow, standing, unpaused, live, flow, matched, by rw [← same]; rfl, by rw [← same]; rfl, rfl⟩
    · rw [walked_attempt walking] at member
      obtain ⟨flow, standing, unpaused, live, same⟩ :=
        stillLoaded_iff.mp (follows input walk page walking ⟨attempt, member, allowed⟩)
      obtain ⟨contactId, inside, _, rfl⟩ := mem_pageAttempts.mp member
      exact ⟨flow, standing, unpaused, live, walk.flow, .walk walking inside, rfl, rfl, same⟩

end Steps

/-- Enrolment follows the live flow exactly when every page that enters somebody still finds the flow as its
job loaded it. -/
theorem enrolment_follows_live_flow_iff (platform : Platform) (boundary : Boundary) (isEmail : String → Bool)
    (start : EntrySystem) (actions : List EntryAction) :
    Along (entryStep platform boundary isEmail) FollowsLiveFlow start actions ↔
      Along (entryStep platform boundary isEmail) (fun system action _ => pageFollows system action = true)
        start actions := by
  have preserved : ∀ system action next, True → entryStep platform boundary isEmail system action = some next → True :=
    fun _ _ _ holds _ => holds
  apply along_congr preserved _ trivial
  intro system action next _ taken
  exact followsLiveFlow_iff taken

section Traces

def pausedMidSweep : List EntryAction :=
  publishedNarrow ++ sweepTurns 1 [.loadCheckpoint] ++ callTurns [.start 1 (.pause 7), .commit { now := 3 }]

/-- The page enters the contact into the paused flow. -/
theorem paused_flow_enrols : ¬ ∀ (platform : Platform) (boundary : Boundary) (isEmail : String → Bool)
    (start : EntrySystem) (actions : List EntryAction),
    Along (entryStep platform boundary isEmail) FollowsLiveFlow start actions := by
  intro always
  have runs : (run (entryStep pairedPlatform asciiBoundary fun _ => true) quietSystem pausedMidSweep).any
      (fun system => (entryStep pairedPlatform asciiBoundary (fun _ => true) system
        (.flows (.thread 1 (.sweep (.page entries))))).isSome &&
          !pageFollows system (.flows (.thread 1 (.sweep (.page entries))))) = true := by
    decide +kernel
  obtain ⟨system, ran, both⟩ := Option.any_eq_true _ _ |>.mp runs
  rw [Bool.and_eq_true, Bool.not_eq_true', Option.isSome_iff_exists] at both
  obtain ⟨⟨next, taken⟩, astray⟩ := both
  have follows := along_last (always pairedPlatform asciiBoundary (fun _ => true) quietSystem
    (pausedMidSweep ++ [.flows (.thread 1 (.sweep (.page entries)))])) ran taken
  rw [followsLiveFlow_iff taken, astray] at follows
  cases follows

end Traces

end LocalCrm.Triggers
