import LocalCrm.Triggers.Runs

/-! A publish that enrols nobody, and the members it has marked as seen.

Whoever has a row in the snapshot is passed over by every entry a segment starts.
-/

set_option autoImplicit false

namespace LocalCrm.Triggers

open Library Flows Segments Events Erasure Contacts Delivery

def seedOnly : Worker → Option (FlowRow × PublishRead)
  | .session (.writingPublish existing false read) => some (existing, read)
  | .session _ | .enrolling _ | .draining _ | .sweeping _ _ => none

section Conditions

variable (workspaceId : WorkspaceId) (flowId : FlowId) (segmentId : SegmentId) (contactId : ContactId)

def matchesSegment (system : EntrySystem) : Bool :=
  (system.store.segments workspaceId segmentId).any fun definition =>
    decide (contactId ∈ system.members.matching workspaceId definition)

/-- Whatever run the step gives the contact in the flow, an event has started it. -/
def OnlyByEvent (system : EntrySystem) (action : EntryAction) (next : EntrySystem) : Prop :=
  ∀ flowRunId run, system.tables.flowRuns.find? flowRunId = none → next.tables.flowRuns.find? flowRunId = some run →
    run.isFor workspaceId flowId contactId = true →
      ∃ attempt ∈ eventAttemptsOf system action, attempt.flowRunId = flowRunId

/-- A sweep deletes the row of the contact only for the definition that the segment has then. -/
def DrainsAsPublished (system : EntrySystem) : EntryAction → Prop
  | .flows (.thread id (.sweep (.deleteStale contactIds))) =>
    ∀ walk, system.flows.own id = .draining walk → walk.flow.workspaceId = workspaceId → walk.flow.id = flowId →
      contactId ∈ contactIds → system.store.segments workspaceId segmentId = some walk.definition
  | _ => True

end Conditions

section Steps

variable {platform : Platform} {boundary : Boundary} {isEmail : String → Bool} {system next : EntrySystem}
  {action : EntryAction} {attempt : EntryAttempt} {workspaceId : WorkspaceId} {flowId : FlowId}
  {segmentId : SegmentId} {contactId : ContactId}

theorem matchesSegment_iff : matchesSegment workspaceId segmentId contactId system = true ↔
    ∃ definition, system.store.segments workspaceId segmentId = some definition ∧
      contactId ∈ system.members.matching workspaceId definition := by
  unfold matchesSegment
  rw [Option.any_eq_true]
  simp only [decide_eq_true_eq]

theorem onlyByEvent_of_seen (seen : system.tables.hasSeenSnapshot workspaceId flowId contactId = true)
    (taken : entryStep platform boundary isEmail system action = some next) :
    OnlyByEvent workspaceId flowId contactId system action next := by
  intro flowRunId run missing inserted mine
  obtain ⟨attempt, member, _, rfl, same⟩ := (new_run taken missing).mp inserted
  rcases List.mem_append.mp member with event | segment
  · exact ⟨attempt, event, same⟩
  · obtain ⟨rfl, rfl, rfl⟩ := isFor_iff.mp mine
    have unseen := (segmentAttemptsOf_fresh segment).2
    rw [show system.tables.hasSeenSnapshot attempt.flow.workspaceId attempt.flow.id attempt.contactId = true
      from seen] at unseen
    cases unseen

theorem seen_step (seen : system.tables.hasSeenSnapshot workspaceId flowId contactId = true)
    (stays : matchesSegment workspaceId segmentId contactId system = true)
    (drains : DrainsAsPublished workspaceId flowId segmentId contactId system action)
    (taken : entryStep platform boundary isEmail system action = some next) :
    next.tables.hasSeenSnapshot workspaceId flowId contactId = true := by
  by_cases checks : ∃ slot input, action = .check slot input
  · obtain ⟨slot, input, rfl⟩ := checks
    obtain ⟨delivery, here, _, _, rfl⟩ := entryStep_check taken
    have grows : Grows system.tables (processFlowTriggerCheck input system.store delivery.job.eventId.1
        delivery.job.contactId (some delivery.job.eventName) system.ingest.db.contacts) := by
      rw [tables_check here]
      exact enterAll_grows
    exact grows.seen _ _ _ seen
  · by_cases turns : ∃ turn, action = .flows turn
    · obtain ⟨turn, rfl⟩ := turns
      obtain ⟨_, flows, stepped, rfl⟩ := entryStep_flows taken
      cases turn with
      | outside event =>
        obtain ⟨shared, happened, rfl⟩ := interleave_outside.mp stepped
        exact (membershipEvent_grows happened).seen _ _ _ seen
      | thread id choice =>
        obtain ⟨shared, after, acted, rfl⟩ := interleave_thread.mp stepped
        rcases workerTurn_grows acted with grows | ⟨walk, contactIds, draining, rfl, rfl, stale⟩
        · exact grows.seen _ _ _ seen
        · apply deleteSnapshots_seen _ seen
          intro within owned member
          -- a batch for the segment's own definition holds none of its members
          have current := drains walk draining within owned member
          obtain ⟨definition, defined, matched⟩ := matchesSegment_iff.mp stays
          rw [current] at defined
          cases defined
          apply stale contactId member
          rw [← within] at matched
          exact matched
    · obtain ⟨same, _, _, _⟩ := entryStep_elsewhere taken (fun slot input given => checks ⟨slot, input, given⟩)
        (fun turn given => turns ⟨turn, given⟩)
      rw [same]
      exact seen

theorem seedOnly_some {worker : Worker} {existing : FlowRow} {read : PublishRead}
    (publishing : seedOnly worker = some (existing, read)) :
    worker = .session (.writingPublish existing false read) := by
  unfold seedOnly at publishing
  split at publishing
  · cases publishing
    rfl
  all_goals cases publishing

theorem seen_of_publish {now : Timestamp} {members : SegmentId → Option (List ContactId)} {tables : FlowTables}
    {existing : FlowRow} {read : PublishRead} {contactIds : List ContactId}
    (triggered : (publishedFlow existing read).enrolsFrom = some segmentId)
    (listed : members segmentId = some contactIds) (member : contactId ∈ contactIds) :
    (publishFlow now members tables existing read false).hasSeenSnapshot existing.workspaceId existing.id contactId =
      true := by
  have found : (publishedFlow existing read).enrolsFrom.bind members = some contactIds := by
    rw [triggered]
    exact listed
  unfold publishFlow
  simp only [Bool.false_eq_true, if_false]
  rw [found]
  show (FlowTables.markSeen _ existing.workspaceId existing.id contactIds).hasSeenSnapshot _ _ _ = true
  rw [hasSeenSnapshot_markSeen, Bool.or_eq_true]
  exact .inr (List.contains_iff_mem.mpr member)

theorem seen_of_seed {id : Nat} {commit : Commit} {existing : FlowRow} {read : PublishRead}
    (publishing : seedOnly (system.flows.own id) = some (existing, read))
    (triggered : (publishedFlow existing read).enrolsFrom = some segmentId)
    (member : matchesSegment existing.workspaceId segmentId contactId system = true)
    (committed : entryStep platform boundary isEmail system (.flows (.thread id (.session (.commit commit)))) =
      some next) : next.tables.hasSeenSnapshot existing.workspaceId existing.id contactId = true := by
  obtain ⟨_, flows, stepped, rfl⟩ := entryStep_flows committed
  obtain ⟨shared, after, acted, rfl⟩ := interleave_thread.mp stepped
  have writing : system.threads.own id = .session (.writingPublish existing false read) := seedOnly_some publishing
  rw [writing] at acted
  simp only [workerTurn, Option.map_eq_some_iff] at acted
  obtain ⟨pair, moved, same⟩ := acted
  cases same
  have kept := release_tables (Option.some.inj moved)
  show pair.1.tables.hasSeenSnapshot existing.workspaceId existing.id contactId = true
  rw [kept]
  obtain ⟨definition, defined, matched⟩ := matchesSegment_iff.mp member
  apply seen_of_publish triggered _ matched
  show (system.store.segments existing.workspaceId segmentId).map (system.members.matching existing.workspaceId) = _
  rw [defined]
  rfl

end Steps

/-- After a publish that enrols nobody a member that stays one gets no run, where sweeps delete its row only
for the definition the segment has then. -/
theorem seed_only_publish_enrols_no_member {platform : Platform} {boundary : Boundary} {isEmail : String → Bool}
    {before after : EntrySystem} {id : Nat} {commit : Commit} {existing : FlowRow} {read : PublishRead}
    {segmentId : SegmentId} {contactId : ContactId} {actions : List EntryAction}
    (publishing : seedOnly (before.flows.own id) = some (existing, read))
    (triggered : (publishedFlow existing read).enrolsFrom = some segmentId)
    (member : matchesSegment existing.workspaceId segmentId contactId before = true)
    (published : entryStep platform boundary isEmail before (.flows (.thread id (.session (.commit commit)))) =
      some after)
    (stays : Along (entryStep platform boundary isEmail)
      (fun system _ _ => matchesSegment existing.workspaceId segmentId contactId system = true) after actions)
    (drains : Along (entryStep platform boundary isEmail)
      (fun system action _ => DrainsAsPublished existing.workspaceId existing.id segmentId contactId system action)
      after actions) :
    Along (entryStep platform boundary isEmail) (OnlyByEvent existing.workspaceId existing.id contactId)
      after actions := by
  have seen := seen_of_seed publishing triggered member published
  have preserved : ∀ system action next,
      system.tables.hasSeenSnapshot existing.workspaceId existing.id contactId = true →
      (matchesSegment existing.workspaceId segmentId contactId system = true ∧
        DrainsAsPublished existing.workspaceId existing.id segmentId contactId system action) →
      entryStep platform boundary isEmail system action = some next →
        next.tables.hasSeenSnapshot existing.workspaceId existing.id contactId = true :=
    fun system action next seen both taken => seen_step seen both.1 both.2 taken
  apply along_of_conforming preserved _ seen (along_and stays drains)
  intro system action next seen _ taken
  exact onlyByEvent_of_seen seen taken

section Traces

def publishingWide (versionId : FlowVersionId) : List EntryAction :=
  callTurns [.start 1 (.update 7 { definition := some (segmentTrigger 2) }), .read, .commit { now := 1, versionId },
    .start 1 (.publish 7 false), .read]

def publishWide : EntryAction := .flows (.thread 0 (.session (.commit { now := 2 })))

def sweepPage (id : Nat) : EntryAction := .flows (.thread id (.sweep (.page entries)))

def drainBatch (id : Nat) (contactIds : List ContactId) : EntryAction :=
  .flows (.thread id (.sweep (.deleteStale contactIds)))

def sweptAfterwards : List EntryAction := sweepTurns 1 [.deleteStale [], .loadCheckpoint, .page entries]

/-- A sweep of the narrow segment drains the row of a member of the wide one, which the next sweep then
enters. -/
def sweptAcross : List EntryAction :=
  [drainBatch 1 [3], .flows (.thread 1 (.sweep .crash))] ++ sweepTurns 2 [.loadCheckpoint]

def withoutDrains : EntryAction → Bool
  | .flows (.thread _ (.sweep (.deleteStale contactIds))) => contactIds.isEmpty
  | _ => true

theorem drainsAsPublished_of_withoutDrains {workspaceId : WorkspaceId} {flowId : FlowId} {segmentId : SegmentId}
    {contactId : ContactId} {system : EntrySystem} {action : EntryAction} (without : withoutDrains action = true) :
    DrainsAsPublished workspaceId flowId segmentId contactId system action := by
  unfold DrainsAsPublished
  split
  · intro walk _ _ _ member
    rw [List.isEmpty_iff.mp without] at member
    cases member
  · trivial

/-- What the members of the wide segment find from the publish on: the flow, and their segment. -/
theorem sweep_afterwards_enters_nobody : ∃ before after existing read,
    run (entryStep pairedPlatform asciiBoundary fun _ => true) quietSystem
      (createFlowTurns.map .flows ++ publishingWide 10) = some before ∧
    seedOnly (before.flows.own 0) = some (existing, read) ∧
    entryStep pairedPlatform asciiBoundary (fun _ => true) before publishWide = some after ∧
    (run (entryStep pairedPlatform asciiBoundary fun _ => true) after sweptAfterwards).isSome = true ∧
    Along (entryStep pairedPlatform asciiBoundary fun _ => true) (OnlyByEvent existing.workspaceId existing.id 3)
      after sweptAfterwards := by
  have runs : (run (entryStep pairedPlatform asciiBoundary fun _ => true) quietSystem
      (createFlowTurns.map .flows ++ publishingWide 10)).any (fun before =>
        (seedOnly (before.flows.own 0)).any fun published =>
          decide ((publishedFlow published.1 published.2).enrolsFrom = some 2) &&
            (matchesSegment published.1.workspaceId 2 3 before &&
              (entryStep pairedPlatform asciiBoundary (fun _ => true) before publishWide).any fun after =>
                (run (entryStep pairedPlatform asciiBoundary fun _ => true) after sweptAfterwards).isSome &&
                  checkAlong (entryStep pairedPlatform asciiBoundary fun _ => true) (fun system action =>
                    matchesSegment published.1.workspaceId 2 3 system && withoutDrains action)
                    after sweptAfterwards)) = true := by
    decide +kernel
  obtain ⟨before, reached, onward⟩ := Option.any_eq_true _ _ |>.mp runs
  obtain ⟨published, publishing, onward⟩ := Option.any_eq_true _ _ |>.mp onward
  obtain ⟨triggered, onward⟩ := Bool.and_eq_true_iff.mp onward
  obtain ⟨member, onward⟩ := Bool.and_eq_true_iff.mp onward
  obtain ⟨after, committed, onward⟩ := Option.any_eq_true _ _ |>.mp onward
  obtain ⟨ran, checked⟩ := Bool.and_eq_true_iff.mp onward
  have along := along_of_check checked
  refine ⟨before, after, published.1, published.2, reached, publishing, committed, ran,
    seed_only_publish_enrols_no_member publishing (of_decide_eq_true triggered) member committed ?_ ?_⟩
  · apply along_mono _ along
    intro system action next both
    exact (Bool.and_eq_true_iff.mp both).1
  · apply along_mono _ along
    intro system action next both
    exact drainsAsPublished_of_withoutDrains (Bool.and_eq_true_iff.mp both).2

theorem sweep_across_enters_member : ¬ ∀ (platform : Platform) (boundary : Boundary) (isEmail : String → Bool)
    (before after : EntrySystem) (id : Nat) (commit : Commit) (existing : FlowRow) (read : PublishRead)
    (segmentId : SegmentId) (contactId : ContactId) (actions : List EntryAction),
    seedOnly (before.flows.own id) = some (existing, read) →
    (publishedFlow existing read).enrolsFrom = some segmentId →
    matchesSegment existing.workspaceId segmentId contactId before = true →
    entryStep platform boundary isEmail before (.flows (.thread id (.session (.commit commit)))) = some after →
    Along (entryStep platform boundary isEmail)
      (fun system _ _ => matchesSegment existing.workspaceId segmentId contactId system = true) after actions →
    Along (entryStep platform boundary isEmail) (OnlyByEvent existing.workspaceId existing.id contactId)
      after actions := by
  intro always
  have runs : (run (entryStep pairedPlatform asciiBoundary fun _ => true) quietSystem
      (publishedNarrow ++ sweepTurns 1 [] ++ publishingWide 11)).any (fun before =>
        (seedOnly (before.flows.own 0)).any fun published =>
          decide ((publishedFlow published.1 published.2).enrolsFrom = some 2) &&
            (matchesSegment published.1.workspaceId 2 3 before &&
              (entryStep pairedPlatform asciiBoundary (fun _ => true) before publishWide).any fun after =>
                checkAlong (entryStep pairedPlatform asciiBoundary fun _ => true) (fun system _ =>
                  matchesSegment published.1.workspaceId 2 3 system) after (sweptAcross ++ [sweepPage 2]) &&
                (run (entryStep pairedPlatform asciiBoundary fun _ => true) after sweptAcross).any fun system =>
                  (system.tables.flowRuns.find? 103).isNone &&
                    (entryStep pairedPlatform asciiBoundary (fun _ => true) system (sweepPage 2)).any fun next =>
                      (next.tables.flowRuns.find? 103).any fun run =>
                        run.isFor published.1.workspaceId published.1.id 3)) = true := by
    decide +kernel
  obtain ⟨before, _, onward⟩ := Option.any_eq_true _ _ |>.mp runs
  obtain ⟨published, publishing, onward⟩ := Option.any_eq_true _ _ |>.mp onward
  obtain ⟨triggered, onward⟩ := Bool.and_eq_true_iff.mp onward
  obtain ⟨member, onward⟩ := Bool.and_eq_true_iff.mp onward
  obtain ⟨after, committed, onward⟩ := Option.any_eq_true _ _ |>.mp onward
  obtain ⟨stays, onward⟩ := Bool.and_eq_true_iff.mp onward
  obtain ⟨system, ran, onward⟩ := Option.any_eq_true _ _ |>.mp onward
  obtain ⟨missing, onward⟩ := Bool.and_eq_true_iff.mp onward
  obtain ⟨next, taken, onward⟩ := Option.any_eq_true _ _ |>.mp onward
  obtain ⟨entered, found, mine⟩ := Option.any_eq_true _ _ |>.mp onward
  have along := always pairedPlatform asciiBoundary (fun _ => true) before after 0 { now := 2 } published.1 published.2
    2 3 _ publishing (of_decide_eq_true triggered) member committed (along_of_check stays)
  obtain ⟨attempt, started, _⟩ := along_last along ran taken 103 entered (Option.isNone_iff_eq_none.mp missing)
    found mine
  cases started

end Traces

end LocalCrm.Triggers
