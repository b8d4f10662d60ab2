import LocalCrm.Flows.Advance
import LocalCrm.Flows.Validate

/-! Runs of a validated definition make progress. -/

set_option autoImplicit false

namespace LocalCrm.Flows

open Library

structure RunState where
  run : FlowRunRow
  steps : List FlowRunStep
  deriving DecidableEq

def RunState.advance (definition : FlowDefinition) (state : RunState) (seen : Observed) :
    Except AdvanceError RunState :=
  (processFlowRunAdvance seen (some definition) state.steps.length state.run).map fun advanced =>
    { run := advanced.run, steps := state.steps ++ advanced.step.toList }

def advanceAll (definition : FlowDefinition) : RunState → List Observed → Except AdvanceError RunState
  | state, [] => .ok state
  | state, seen :: rest => (state.advance definition seen).bind fun next => advanceAll definition next rest

structure Entered (definition : FlowDefinition) (state : RunState) : Prop where
  waiting : state.run.status = .waiting
  entry : state.run.currentNodeId = definition.entryNodeId
  steps : state.steps = []

def visited (steps : List FlowRunStep) : List NodeId :=
  (steps.filter fun step => step.outcome ≠ .deferredQuietHours).map FlowRunStep.nodeId

def TakenUp (definition : FlowDefinition) : RunState → List Observed → Prop
  | _, [] => True
  | state, seen :: rest => (state.run.status.active → seen.takesUp state.run) ∧
      ∀ next, state.advance definition seen = .ok next → TakenUp definition next rest

def Enough (definition : FlowDefinition) (observations : List Observed) : Prop :=
  maxStepsPerRun < observations.length ∨
    ((∀ seen ∈ observations, seen.quietUntil = none) ∧ definition.nodes.length < observations.length)

/-- No advance throws, no node is visited twice over, and enough advances end the run. -/
def ProgressesOn (definition : FlowDefinition) (state : RunState) (observations : List Observed) : Prop :=
  ∃ final, advanceAll definition state observations = .ok final ∧
    (visited final.steps).length ≤ definition.nodes.length ∧
    (TakenUp definition state observations → Enough definition observations → final.run.status.active = false)

/-- The ids a run can be at after so many moves. -/
def FlowDefinition.reachedIn (definition : FlowDefinition) : Nat → List NodeId
  | 0 => definition.entryNodeId.toList
  | moves + 1 => (definition.reachedIn moves).flatMap definition.follows

/-- Every id a run can be at within the step budget is the id of a node. -/
def FlowDefinition.Complete (definition : FlowDefinition) : Prop :=
  ∀ moves < maxStepsPerRun, ∀ nodeId ∈ definition.reachedIn moves, (definition.findNode nodeId).isSome

section Validated

variable {definition : FlowDefinition}

structure Guided (definition : FlowDefinition) (trigger : DefinitionNode) : Prop where
  triggers : definition.triggerNodes = [trigger]
  leads : definition.outgoing trigger.id ≠ []
  ends : Acc (fun later earlier => later ∈ definition.targets earlier) trigger.id

theorem guided_of_valid (valid : definition.validateFlowDefinition = []) : ∃ trigger, Guided definition trigger := by
  unfold FlowDefinition.validateFlowDefinition at valid
  split at valid
  · next trigger triggers =>
    rw [List.append_eq_nil_iff] at valid
    have checked := valid.2
    unfold FlowDefinition.graphErrors at checked
    simp only [List.append_eq_nil_iff, List.map_eq_nil_iff, Option.toList_eq_nil_iff] at checked
    obtain ⟨⟨leads, uncycled⟩, _⟩ := checked
    refine ⟨trigger, triggers, ?_, FlowDefinition.acc_of_no_cycle uncycled⟩
    intro empty
    simp [empty] at leads
  · cases valid

variable {trigger : DefinitionNode}

theorem Guided.entry (guided : Guided definition trigger) :
    ∃ nodeId, definition.entryNodeId = some nodeId ∧ nodeId ∈ definition.targets trigger.id := by
  have first : definition.nodes.find? DefinitionNode.isTrigger = some trigger := by
    rw [← List.head?_filter]
    have triggers := guided.triggers
    unfold FlowDefinition.triggerNodes at triggers
    rw [triggers]
    rfl
  cases resolved : definition.resolveNextNodeId trigger.id with
  | none =>
    have nowhere := Option.map_eq_none_iff.mp resolved
    refine absurd (List.filter_eq_nil_iff.mpr ?_) guided.leads
    intro edge member
    exact List.find?_eq_none.mp nowhere edge member
  | some nodeId =>
    exact ⟨nodeId, by simp [FlowDefinition.entryNodeId, first, resolved], FlowDefinition.resolveNextNodeId_mem resolved⟩

theorem Guided.not_trigger {node : DefinitionNode} {nodeId : NodeId} (guided : Guided definition trigger)
    (found : definition.findNode nodeId = some node)
    (behind : Relation.TransGen (Leads definition.targets) trigger.id nodeId) :
    node.isTrigger = false := by
  rw [← Bool.not_eq_true]
  intro isTrigger
  have member : node ∈ definition.triggerNodes :=
    List.mem_filter.mpr ⟨FlowDefinition.findNode_mem found, isTrigger⟩
  rw [guided.triggers, List.mem_singleton] at member
  rw [← FlowDefinition.findNode_id found, member] at behind
  exact irreflexive_of_acc guided.ends behind

theorem Guided.once {nodeId : NodeId} (guided : Guided definition trigger)
    (behind : Relation.TransGen (Leads definition.targets) trigger.id nodeId) :
    ¬ Relation.TransGen (Leads definition.targets) nodeId nodeId := by
  have reversed := Relation.transGen_swap.mpr behind
  exact irreflexive_of_acc (guided.ends.inv_of_transGen reversed)

end Validated

section Advances

variable {definition : FlowDefinition} {trigger : DefinitionNode} {state next : RunState} {seen : Observed}

structure OnCourse (definition : FlowDefinition) (trigger : DefinitionNode) (state : RunState) : Prop where
  distinct : (visited state.steps).Nodup
  nodes : visited state.steps ⊆ definition.nodes.map DefinitionNode.id
  budget : state.steps.length ≤ maxStepsPerRun
  current : state.run.status.active → ∃ nodeId, state.run.currentNodeId = some nodeId ∧
    nodeId ∈ definition.reachedIn (visited state.steps).length ∧
    Relation.TransGen (Leads definition.targets) trigger.id nodeId ∧
    ∀ earlier ∈ visited state.steps, Relation.TransGen (Leads definition.targets) earlier nodeId

theorem length_visited_le (steps : List FlowRunStep) : (visited steps).length ≤ steps.length := by
  unfold visited
  rw [List.length_map]
  exact List.length_filter_le _ _

theorem visited_append (steps : List FlowRunStep) (step : FlowRunStep) :
    visited (steps ++ [step]) =
      visited steps ++ if step.outcome = .deferredQuietHours then [] else [step.nodeId] := by
  unfold visited
  by_cases deferred : step.outcome = .deferredQuietHours <;> simp [deferred]

theorem OnCourse.visits_le (course : OnCourse definition trigger state) :
    (visited state.steps).length ≤ definition.nodes.length := by
  have fits := (List.subperm_of_subset course.distinct course.nodes).length_le
  rwa [List.length_map] at fits

def Advances (seen : Observed) (state next : RunState) : Prop :=
  next.run.status.active = false ∨
    (next.steps.length = state.steps.length + 1 ∧
      (seen.quietUntil = none → (visited next.steps).length = (visited state.steps).length + 1))

theorem OnCourse.visit (guided : Guided definition trigger) (course : OnCourse definition trigger state)
    {node : DefinitionNode} {nodeId : NodeId} (found : definition.findNode nodeId = some node)
    (behind : Relation.TransGen (Leads definition.targets) trigger.id nodeId)
    (after : ∀ earlier ∈ visited state.steps, Relation.TransGen (Leads definition.targets) earlier nodeId) :
    (visited state.steps ++ [nodeId]).Nodup ∧
      visited state.steps ++ [nodeId] ⊆ definition.nodes.map DefinitionNode.id := by
  constructor
  · refine List.nodup_append.mpr ⟨course.distinct, List.nodup_singleton _, ?_⟩
    intro earlier member last same
    rw [List.mem_singleton] at same
    rintro rfl
    exact guided.once behind (same ▸ after earlier member)
  · refine List.append_subset.mpr ⟨course.nodes, List.cons_subset.mpr ⟨?_, List.nil_subset _⟩⟩
    rw [← FlowDefinition.findNode_id found]
    exact List.mem_map_of_mem (FlowDefinition.findNode_mem found)

theorem dispatchNode_ok {run : FlowRunRow} {node : DefinitionNode} (action : node.isTrigger = false) :
    ∃ advanced, dispatchNode seen definition run node = .ok advanced := by
  unfold dispatchNode
  unfold DefinitionNode.isTrigger at action
  split
  case h_5 triggerType eventName segmentId config =>
    rw [config] at action
    cases action
  all_goals exact ⟨_, rfl⟩

theorem visited_step {node : DefinitionNode} {nodeId : NodeId} {run : FlowRunRow} {outcome : StepOutcome}
    (found : definition.findNode nodeId = some node) (steps : List FlowRunStep)
    (moved : outcome ≠ .deferredQuietHours) :
    visited (steps ++ [run.step node outcome]) = visited steps ++ [nodeId] := by
  rw [visited_append]
  simp only [FlowRunRow.step, if_neg moved, FlowDefinition.findNode_id found]

theorem OnCourse.ends (guided : Guided definition trigger) (course : OnCourse definition trigger state)
    {node : DefinitionNode} {nodeId : NodeId} {run : FlowRunRow} {outcome : StepOutcome}
    (found : definition.findNode nodeId = some node)
    (behind : Relation.TransGen (Leads definition.targets) trigger.id nodeId)
    (after : ∀ earlier ∈ visited state.steps, Relation.TransGen (Leads definition.targets) earlier nodeId)
    (within : state.steps.length < maxStepsPerRun) (ended : run.status.active = false)
    (moved : outcome ≠ .deferredQuietHours) :
    OnCourse definition trigger { run := run, steps := state.steps ++ [state.run.step node outcome] } := by
  obtain ⟨distinct, nodes⟩ := course.visit guided found behind after
  constructor
  · rw [visited_step found _ moved]
    exact distinct
  · rw [visited_step found _ moved]
    exact nodes
  · rw [List.length_append]
    exact within
  · intro active
    rw [ended] at active
    cases active

theorem OnCourse.dispatched (guided : Guided definition trigger) (course : OnCourse definition trigger state)
    {node : DefinitionNode} {nodeId : NodeId} {run : FlowRunRow} {step : FlowRunStep}
    (found : definition.findNode nodeId = some node) (current : state.run.currentNodeId = some nodeId)
    (reached : nodeId ∈ definition.reachedIn (visited state.steps).length)
    (behind : Relation.TransGen (Leads definition.targets) trigger.id nodeId)
    (after : ∀ earlier ∈ visited state.steps, Relation.TransGen (Leads definition.targets) earlier nodeId)
    (within : state.steps.length < maxStepsPerRun)
    (dispatched : Dispatched seen definition state.run node run step) :
    OnCourse definition trigger { run := run, steps := state.steps ++ [step] } ∧
      Advances seen state { run := run, steps := state.steps ++ [step] } := by
  have longer : (state.steps ++ [step]).length = state.steps.length + 1 := by
    rw [List.length_append, List.length_singleton]
  cases dispatched with
  | deferred wakeAt quiet =>
    have stays : visited (state.steps ++ [state.run.step node .deferredQuietHours]) = visited state.steps := by
      rw [visited_append]
      exact List.append_nil _
    constructor
    · constructor
      · rw [stays]
        exact course.distinct
      · rw [stays]
        exact course.nodes
      · exact longer ▸ within
      · intro _
        rw [stays]
        exact ⟨nodeId, current, reached, behind, after⟩
    · exact .inr ⟨longer, fun loud => by rw [quiet] at loud; cases loud⟩
  | moved next wakeAt outcome followed moved =>
    have visits := @visited_step _ _ _ state.run _ found state.steps moved
    have onward : Leads definition.targets nodeId next := by
      rw [← FlowDefinition.findNode_id found]
      exact follows_subset_targets followed
    rw [FlowDefinition.findNode_id found] at followed
    obtain ⟨distinct, nodes⟩ := course.visit guided found behind after
    constructor
    · constructor
      · rw [visits]
        exact distinct
      · rw [visits]
        exact nodes
      · exact longer ▸ within
      · intro _
        rw [visits, List.length_append, List.length_singleton]
        refine ⟨next, rfl, List.mem_flatMap.mpr ⟨nodeId, reached, followed⟩, behind.tail onward, ?_⟩
        intro earlier member
        rcases List.mem_append.mp member with old | last
        · exact (after earlier old).tail onward
        · rw [List.mem_singleton.mp last]
          exact .single onward
    · refine .inr ⟨longer, fun _ => ?_⟩
      rw [visits, List.length_append, List.length_singleton]
  | ended now outcome moved =>
    exact ⟨course.ends guided found behind after within rfl moved, .inl rfl⟩

theorem OnCourse.advance (guided : Guided definition trigger) (complete : definition.Complete)
    (course : OnCourse definition trigger state) :
    ∃ next, state.advance definition seen = .ok next ∧ OnCourse definition trigger next ∧
      ((state.run.status.active → seen.takesUp state.run) → Advances seen state next) := by
  by_cases taken : seen.takesUp state.run
  · have active : state.run.status.active = true := by
      unfold Observed.takesUp at taken
      simp only [Bool.and_eq_true] at taken
      exact taken.1.1
    obtain ⟨nodeId, current, reached, behind, after⟩ := course.current active
    unfold RunState.advance processFlowRunAdvance
    simp only [taken, Bool.not_true, Bool.false_eq_true, if_false, current]
    by_cases spent : maxStepsPerRun ≤ state.steps.length
    · rw [if_pos spent]
      refine ⟨_, rfl, ?_, fun _ => .inl rfl⟩
      constructor
      · simpa using course.distinct
      · simpa using course.nodes
      · simpa using course.budget
      · intro ended
        cases ended
    · rw [if_neg spent]
      have within : state.steps.length < maxStepsPerRun := Nat.lt_of_not_le spent
      have known := complete _ (Nat.lt_of_le_of_lt (length_visited_le state.steps) within) nodeId reached
      obtain ⟨node, found⟩ := Option.isSome_iff_exists.mp known
      simp only [found]
      by_cases satisfied : seen.exitSatisfied = true
      · rw [if_pos satisfied]
        exact ⟨_, rfl, course.ends guided found behind after within rfl (by decide), fun _ => .inl rfl⟩
      · rw [if_neg satisfied]
        obtain ⟨advanced, dispatched⟩ := dispatchNode_ok (guided.not_trigger found behind)
        obtain ⟨step, stepped, cases⟩ := dispatchNode_cases found dispatched
        rw [dispatched]
        obtain ⟨kept, further⟩ := course.dispatched guided found current reached behind after within cases
        exact ⟨{ run := advanced.run, steps := state.steps ++ [step] }, by simp [Except.map, stepped], kept,
          fun _ => further⟩
  · have idle : state.advance definition seen = .ok state := by
      unfold RunState.advance processFlowRunAdvance
      simp [taken, Except.map]
    refine ⟨state, idle, course, ?_⟩
    intro due
    exact .inl (Bool.not_eq_true _ ▸ fun active => taken (due active))

end Advances

section Runs

variable {definition : FlowDefinition} {trigger : DefinitionNode} {state next final : RunState} {seen : Observed}

theorem advanceAll_cons {rest : List Observed} :
    advanceAll definition state (seen :: rest) = .ok final ↔
      ∃ next, state.advance definition seen = .ok next ∧ advanceAll definition next rest = .ok final := by
  simp only [advanceAll]
  cases state.advance definition seen <;> simp [Except.bind]

theorem advanceAll_append {first second : List Observed} :
    advanceAll definition state (first ++ second) =
      (advanceAll definition state first).bind fun next => advanceAll definition next second := by
  induction first generalizing state with
  | nil => rfl
  | cons seen rest ih =>
    simp only [List.cons_append, advanceAll]
    cases state.advance definition seen with
    | error message => rfl
    | ok next => exact ih

theorem advance_ended (ended : state.run.status.active = false) : state.advance definition seen = .ok state := by
  unfold RunState.advance processFlowRunAdvance Observed.takesUp
  simp [ended, Except.map]

theorem advanceAll_ended (ended : state.run.status.active = false) (observations : List Observed) :
    advanceAll definition state observations = .ok state := by
  induction observations with
  | nil => rfl
  | cons seen rest ih => exact advanceAll_cons.mpr ⟨state, advance_ended ended, ih⟩

theorem OnCourse.advanceAll (guided : Guided definition trigger) (complete : definition.Complete)
    (course : OnCourse definition trigger state) (observations : List Observed) :
    ∃ final, Flows.advanceAll definition state observations = .ok final ∧ OnCourse definition trigger final ∧
      (TakenUp definition state observations →
        final.run.status.active = false ∨
          (final.steps.length = state.steps.length + observations.length ∧
            ((∀ seen ∈ observations, seen.quietUntil = none) →
              (visited final.steps).length = (visited state.steps).length + observations.length))) := by
  induction observations generalizing state with
  | nil => exact ⟨state, rfl, course, fun _ => .inr ⟨rfl, fun _ => rfl⟩⟩
  | cons seen rest ih =>
    obtain ⟨next, advanced, kept, further⟩ := @OnCourse.advance _ _ _ seen guided complete course
    obtain ⟨final, ran, arrived, progressed⟩ := ih kept
    refine ⟨final, advanceAll_cons.mpr ⟨next, advanced, ran⟩, arrived, ?_⟩
    intro taken
    rcases further taken.1 with ended | ⟨longer, visits⟩
    · rw [advanceAll_ended ended rest] at ran
      cases ran
      exact .inl ended
    · refine (progressed (taken.2 next advanced)).imp_right ?_
      rintro ⟨total, all⟩
      constructor
      · rw [total, longer, List.length_cons]
        omega
      · intro loud
        rw [all fun later member => loud later (List.mem_cons_of_mem _ member),
          visits (loud seen List.mem_cons_self), List.length_cons]
        omega

theorem onCourse_of_entered (guided : Guided definition trigger) (entered : Entered definition state) :
    OnCourse definition trigger state := by
  obtain ⟨nodeId, entry, behind⟩ := guided.entry
  constructor
  · rw [entered.steps]
    exact List.nodup_nil
  · rw [entered.steps]
    exact List.nil_subset _
  · rw [entered.steps]
    exact Nat.zero_le _
  · intro _
    rw [entered.steps]
    refine ⟨nodeId, entered.entry.trans entry, ?_, .single behind, fun earlier member => absurd member List.not_mem_nil⟩
    exact Option.mem_toList.mpr entry

/-- What drives a run on: due, outside quiet hours, no exit condition, the branch as chosen. -/
def driving (state : RunState) (branch : Branch) : Observed where
  now := state.run.nextWakeAt.getD 0
  flowStatus := .live
  exitSatisfied := false
  quietUntil := none
  inSegment _ := branch = .yes
  nextWaitUntil _ _ := 0

theorem driving_takesUp (branch : Branch) (active : state.run.status.active = true) :
    (driving state branch).takesUp state.run = true := by
  unfold Observed.takesUp driving
  rw [active]
  cases state.run.nextWakeAt <;> simp

theorem advance_driving {nodeId target : NodeId} (active : state.run.status.active = true)
    (current : state.run.currentNodeId = some nodeId) (within : state.steps.length < maxStepsPerRun)
    (followed : target ∈ definition.follows nodeId) :
    ∃ branch next, state.advance definition (driving state branch) = .ok next ∧ next.run.status.active = true ∧
      next.run.currentNodeId = some target ∧ next.steps.length = state.steps.length + 1 := by
  have budget : ¬ maxStepsPerRun ≤ state.steps.length := Nat.not_le_of_lt within
  have advanced : ∀ branch node, definition.findNode nodeId = some node →
      state.advance definition (driving state branch) =
        (dispatchNode (driving state branch) definition state.run node).map fun advanced =>
          { run := advanced.run, steps := state.steps ++ advanced.step.toList } := by
    intro branch node found
    unfold RunState.advance processFlowRunAdvance
    have calm : (driving state branch).exitSatisfied = false := rfl
    simp only [driving_takesUp branch active, current, budget, found, calm, Bool.not_true, Bool.false_eq_true, if_false]
  cases found : definition.findNode nodeId with
  | none =>
    unfold FlowDefinition.follows at followed
    rw [found] at followed
    cases followed
  | some node =>
    have keyed := FlowDefinition.findNode_id found
    unfold FlowDefinition.follows at followed
    simp only [found, Option.map_some] at followed
    cases config : node.config with
    | trigger | exit =>
      rw [config] at followed
      cases followed
    | send templateId fromSenderId fromEmail =>
      rw [config] at followed
      have resolved := Option.mem_toList.mp followed
      refine ⟨.yes, _, by rw [advanced .yes node found, dispatchNode, config]; rfl, ?_⟩
      simp [handleSendNode, driving, FlowRunRow.moveOn, keyed, resolved, FlowRunStatus.active]
    | delay delay =>
      rw [config] at followed
      have resolved := Option.mem_toList.mp followed
      refine ⟨.yes, _, by rw [advanced .yes node found, dispatchNode, config]; rfl, ?_⟩
      simp [handleDelayNode, FlowRunRow.moveOn, keyed, resolved, FlowRunStatus.active]
    | branch segmentId =>
      rw [config] at followed
      rcases List.mem_append.mp followed with yes | no
      · have resolved := Option.mem_toList.mp yes
        refine ⟨.yes, _, by rw [advanced .yes node found, dispatchNode, config]; rfl, ?_⟩
        simp [handleBranchNode, driving, FlowRunRow.moveOn, keyed, resolved, FlowRunStatus.active]
      · have resolved := Option.mem_toList.mp no
        refine ⟨.no, _, by rw [advanced .no node found, dispatchNode, config]; rfl, ?_⟩
        simp [handleBranchNode, driving, FlowRunRow.moveOn, keyed, resolved, FlowRunStatus.active]

theorem advanceAll_driving (entered : Entered definition state) {moves : Nat} (within : moves ≤ maxStepsPerRun)
    {nodeId : NodeId} (reached : nodeId ∈ definition.reachedIn moves) :
    ∃ observations final, advanceAll definition state observations = .ok final ∧ final.run.status.active = true ∧
      final.run.currentNodeId = some nodeId ∧ final.steps.length = moves := by
  induction moves generalizing nodeId with
  | zero =>
    refine ⟨[], state, rfl, by rw [entered.waiting]; rfl, ?_, by rw [entered.steps]; rfl⟩
    exact entered.entry.trans (Option.mem_toList.mp reached)
  | succ moves ih =>
    obtain ⟨earlier, before, followed⟩ := List.mem_flatMap.mp reached
    obtain ⟨observations, middle, ran, active, current, count⟩ := ih (Nat.le_of_succ_le within) before
    obtain ⟨branch, next, advanced, stays, moved, longer⟩ :=
      advance_driving active current (by rw [count]; exact within) followed
    refine ⟨observations ++ [driving middle branch], next, ?_, stays, moved, by rw [longer, count]⟩
    rw [advanceAll_append, ran]
    exact advanceAll_cons.mpr ⟨next, advanced, rfl⟩

theorem advance_dangling {nodeId : NodeId} (active : state.run.status.active = true)
    (current : state.run.currentNodeId = some nodeId) (within : state.steps.length < maxStepsPerRun)
    (dangling : definition.findNode nodeId = none) :
    state.advance definition (driving state .yes) = .error (.currentNodeNotFound nodeId state.run.id) := by
  have budget : ¬ maxStepsPerRun ≤ state.steps.length := Nat.not_le_of_lt within
  unfold RunState.advance processFlowRunAdvance
  simp [driving_takesUp .yes active, current, budget, dangling, Except.map]

/-- Runs of a validated definition progress exactly when every id they can be at is a node's. -/
theorem progresses_iff (definition : FlowDefinition) (valid : definition.validateFlowDefinition = []) :
    (∀ state, Entered definition state → ∀ observations, ProgressesOn definition state observations) ↔
      definition.Complete := by
  obtain ⟨trigger, guided⟩ := guided_of_valid valid
  constructor
  · intro progresses moves within nodeId reached
    rw [Option.isSome_iff_ne_none]
    intro dangling
    let state : RunState :=
      { run := { id := 0, workspaceId := 0, flowId := 0, flowVersionId := 0, contactId := 0
                 currentNodeId := definition.entryNodeId, nextWakeAt := none, enteredAt := 0, lastEntryAt := 0 }
        steps := [] }
    have entered : Entered definition state := ⟨rfl, rfl, rfl⟩
    obtain ⟨observations, middle, ran, active, current, count⟩ :=
      advanceAll_driving entered (Nat.le_of_lt within) reached
    obtain ⟨final, finished, _⟩ := progresses state entered (observations ++ [driving middle .yes])
    rw [advanceAll_append, ran] at finished
    obtain ⟨next, advanced, _⟩ := advanceAll_cons.mp finished
    rw [advance_dangling active current (by rw [count]; exact within) dangling] at advanced
    cases advanced
  · intro complete state entered observations
    obtain ⟨final, ran, arrived, progressed⟩ :=
      (onCourse_of_entered guided entered).advanceAll guided complete observations
    refine ⟨final, ran, arrived.visits_le, ?_⟩
    intro taken enough
    rcases progressed taken with ended | ⟨total, all⟩
    · exact ended
    · rw [entered.steps] at total all
      -- a run still active would have gone through more steps than the budget, or more nodes than there are
      rcases enough with many | ⟨loud, many⟩
      · have budget := arrived.budget
        omega
      · have visits := arrived.visits_le
        rw [all loud] at visits
        omega

end Runs

def danglingFlow : FlowDefinition where
  nodes := [⟨1, .trigger .event (some "signup") none⟩, ⟨2, .send (some "welcome") none (some "crm@example.com")⟩]
  edges := [{ source := 1, target := 2 }, { source := 2, target := 9 }]

def completeFlow : FlowDefinition where
  nodes := danglingFlow.nodes ++ [⟨9, .exit⟩]
  edges := danglingFlow.edges

theorem completeFlow_progresses :
    completeFlow.validateFlowDefinition = [] ∧
      ((∀ state, Entered completeFlow state → ∀ observations, ProgressesOn completeFlow state observations) ↔
        completeFlow.Complete) := by
  have valid : completeFlow.validateFlowDefinition = [] := by decide +kernel
  exact ⟨valid, progresses_iff completeFlow valid⟩

/-- The validator accepts the dangling edge, and the run that follows it throws. -/
theorem dangling_edge_throws :
    ¬ ∀ definition : FlowDefinition, definition.validateFlowDefinition = [] →
      ∀ state, Entered definition state → ∀ observations, ProgressesOn definition state observations := by
  intro always
  let start : RunState :=
    { run := { id := 7, workspaceId := 1, flowId := 1, flowVersionId := 1, contactId := 1
               currentNodeId := some 2, nextWakeAt := none, enteredAt := 0, lastEntryAt := 0 }
      steps := [] }
  let seen : Observed :=
    { now := 5, flowStatus := .live, exitSatisfied := false, quietUntil := none
      inSegment := fun _ => false, nextWaitUntil := fun _ _ => 0 }
  have entered : Entered danglingFlow start := ⟨rfl, by decide, rfl⟩
  obtain ⟨final, ran, _⟩ := always danglingFlow (by decide +kernel) start entered [seen, seen]
  have thrown : advanceAll danglingFlow start [seen, seen] = .error (.currentNodeNotFound 9 7) := by decide +kernel
  cases ran

end LocalCrm.Flows
