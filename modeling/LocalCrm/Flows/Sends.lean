import LocalCrm.Flows.Validate
import LocalCrm.Delivery.SendDispatch

/-! Dispatching the send nodes of a validated definition. -/

set_option autoImplicit false

namespace LocalCrm.Flows

open Library Delivery

def DefinitionNode.isSend (node : DefinitionNode) : Bool :=
  match node.config with
  | .send _ _ _ => true
  | .trigger _ _ _ | .delay _ | .branch _ | .exit => false

def DefinitionNode.dispatched (node : DefinitionNode) : LocalCrm.FlowNode :=
  match node.config with
  | .send templateId _ fromEmail => { id := node.id, isSend := true, templateId, fromEmail }
  | .trigger _ _ _ | .delay _ | .branch _ | .exit =>
    { id := node.id, isSend := false, templateId := none, fromEmail := none }

structure Dispatchable (db : Database) (workspaceId : WorkspaceId) (flowRunId : FlowRunId)
    (definition : FlowDefinition) : Prop where
  key : (db.sendgridKeys.find? workspaceId).isSome
  pinned : ∃ run version, db.flowRuns.find? flowRunId = some run ∧ run.workspaceId = workspaceId ∧
    db.flowVersions.find? run.flowVersionId = some version ∧
    version.nodes = definition.nodes.map DefinitionNode.dispatched

/-- The error for a send node without a template or a from address. -/
def missingPrereqs (flowRunId : FlowRunId) (nodeId : NodeId) : String :=
  s!"Send node {nodeId} (flow run {flowRunId}) is missing a templateId/fromEmail -- cannot dispatch"

def notASendNode (flowRunId : FlowRunId) (nodeId : NodeId) : String :=
  s!"Node {nodeId} in flow run {flowRunId}'s pinned definition is not a send node"

theorem notASendNode_ne_missing (flowRunId : FlowRunId) (nodeId : NodeId) :
    notASendNode flowRunId nodeId ≠ missingPrereqs flowRunId nodeId := by
  intro same
  have letters := congrArg (fun text : String => text.toList.head?) same
  simp [notASendNode, missingPrereqs, toString] at letters

section

variable {definition : FlowDefinition} {node : DefinitionNode} {db : Database} {workspaceId : WorkspaceId}
  {flowRunId : FlowRunId} {nodeId : NodeId}

@[simp] theorem dispatched_id : node.dispatched.id = node.id := by
  unfold DefinitionNode.dispatched
  split <;> rfl

@[simp] theorem dispatched_isSend : node.dispatched.isSend = node.isSend := by
  unfold DefinitionNode.dispatched DefinitionNode.isSend
  split <;> rfl

theorem find_dispatched :
    (definition.nodes.map DefinitionNode.dispatched).find? (fun candidate => candidate.id == nodeId) =
      (definition.findNode nodeId).map DefinitionNode.dispatched := by
  rw [List.find?_map]
  congr 2
  funext candidate
  simp

theorem readFlowSendPrereqs_missing (ready : Dispatchable db workspaceId flowRunId definition)
    (found : definition.findNode nodeId = some node) :
    readFlowSendPrereqs db workspaceId flowRunId nodeId = .error (missingPrereqs flowRunId nodeId) ↔
      ∃ templateId fromSenderId fromEmail, node.config = .send templateId fromSenderId fromEmail ∧
        ¬ (truthy templateId ∧ truthy fromEmail) := by
  obtain ⟨run, version, located, owned, pinned, nodes⟩ := ready.pinned
  obtain ⟨key, keyed⟩ := Option.isSome_iff_exists.mp ready.key
  have tenant : readTenantPrereqs db workspaceId = .ok (key.apiKey,
      (getWorkspaceSendSettings db.sendSettings workspaceId).rpsLimit.getD defaultTenantRps) := by
    simp only [readTenantPrereqs, keyed]
  unfold readFlowSendPrereqs
  rw [tenant, located]
  simp only [bind, Except.bind, Option.filter_some, owned, beq_self_eq_true, if_true, Option.bind_some, pinned, nodes,
    find_dispatched, found, Option.map_some, dispatched_isSend]
  cases config : node.config with
  | send templateId fromSenderId fromEmail =>
    have sends : node.isSend = true := by
      unfold DefinitionNode.isSend
      rw [config]
    have reads : node.dispatched = { id := node.id, isSend := true, templateId, fromEmail } := by
      unfold DefinitionNode.dispatched
      rw [config]
    rw [sends, reads]
    have shape : (∃ template sender email, NodeConfig.send templateId fromSenderId fromEmail =
        .send template sender email ∧ ¬ (truthy template ∧ truthy email)) ↔ ¬ (truthy templateId ∧ truthy fromEmail) := by
      constructor
      · rintro ⟨_, _, _, same, lacking⟩
        cases same
        exact lacking
      · intro lacking
        exact ⟨templateId, fromSenderId, fromEmail, rfl, lacking⟩
    cases templateId with
    | none => simp [truthy, missingPrereqs]
    | some template =>
      cases fromEmail with
      | none => simp [truthy, missingPrereqs]
      | some email =>
        by_cases lacking : (template.isEmpty || email.isEmpty) = true
        · simp only [if_true, lacking, missingPrereqs, true_iff]
          simp only [Bool.or_eq_true] at lacking
          rcases lacking with empty | empty <;> simp [truthy, empty]
        · simp only [if_true, lacking, Bool.false_eq_true, if_false, false_iff, reduceCtorEq]
          simpa [truthy, not_or] using lacking
  | trigger _ _ _ | delay _ | branch _ | exit =>
    have other : node.isSend = false := by
      unfold DefinitionNode.isSend
      rw [config]
    rw [other]
    constructor
    · intro same
      exact absurd (Except.error.inj same) (notASendNode_ne_missing flowRunId nodeId)
    · rintro ⟨_, _, _, send, _⟩
      cases send

theorem emptySend_none (checked : emptySendError node = none) {templateId fromSenderId fromEmail : Option String}
    (send : node.config = .send templateId fromSenderId fromEmail) :
    hasTemplate templateId ∧ hasSender fromSenderId fromEmail := by
  unfold emptySendError at checked
  rw [send] at checked
  simpa using checked

theorem sends_complete (valid : definition.validateFlowDefinition = []) (member : node ∈ definition.nodes)
    {templateId fromSenderId fromEmail : Option String} (send : node.config = .send templateId fromSenderId fromEmail) :
    hasTemplate templateId ∧ hasSender fromSenderId fromEmail := by
  have checked : definition.nodes.filterMap emptySendError = [] := by
    unfold FlowDefinition.validateFlowDefinition at valid
    split at valid
    · exact (List.append_eq_nil_iff.mp valid).1
    · cases valid
  exact emptySend_none (List.filterMap_eq_nil_iff.mp checked node member) send

def FlowDefinition.SendsFrom (definition : FlowDefinition) : Prop :=
  ∀ node ∈ definition.nodes, definition.findNode node.id = some node →
    ∀ templateId fromSenderId fromEmail, node.config = .send templateId fromSenderId fromEmail → truthy fromEmail

/-- A validated definition dispatches without a missing part exactly when every send node has a from address. -/
theorem sends_dispatchable_iff (definition : FlowDefinition) (db : Database) (workspaceId : WorkspaceId)
    (flowRunId : FlowRunId) (valid : definition.validateFlowDefinition = [])
    (ready : Dispatchable db workspaceId flowRunId definition) :
    (∀ node ∈ definition.nodes, node.isSend →
      readFlowSendPrereqs db workspaceId flowRunId node.id ≠ .error (missingPrereqs flowRunId node.id)) ↔
      definition.SendsFrom := by
  constructor
  · intro never node member first templateId fromSenderId fromEmail send
    have sends : node.isSend = true := by
      unfold DefinitionNode.isSend
      rw [send]
    rw [← not_not (a := truthy fromEmail = true)]
    intro lacking
    apply never node member sends
    exact (readFlowSendPrereqs_missing ready first).mpr
      ⟨templateId, fromSenderId, fromEmail, send, fun both => lacking both.2⟩
  · intro from_ node member _ thrown
    have stored : (definition.findNode node.id).isSome := by
      rw [FlowDefinition.findNode, List.find?_isSome]
      exact ⟨node, member, by simp⟩
    obtain ⟨first, found⟩ := Option.isSome_iff_exists.mp stored
    obtain ⟨templateId, fromSenderId, fromEmail, send, lacking⟩ := (readFlowSendPrereqs_missing ready found).mp thrown
    apply lacking
    have here := FlowDefinition.findNode_mem found
    have template := (sends_complete valid here send).1
    unfold hasTemplate at template
    rw [Bool.and_eq_true] at template
    have keyed := FlowDefinition.findNode_id found
    exact ⟨template.1, from_ first here (by rw [keyed]; exact found) templateId fromSenderId fromEmail send⟩

end

def senderOnlyFlow : FlowDefinition where
  nodes := [⟨1, .trigger .event (some "signup") none⟩, ⟨2, .send (some "welcome") (some "sender-7") none⟩, ⟨3, .exit⟩]
  edges := [{ source := 1, target := 2 }, { source := 2, target := 3 }]

def addressedFlow : FlowDefinition where
  nodes := [⟨1, .trigger .event (some "signup") none⟩,
    ⟨2, .send (some "welcome") (some "sender-7") (some "crm@example.com")⟩, ⟨3, .exit⟩]
  edges := senderOnlyFlow.edges

def pinnedDatabase (definition : FlowDefinition) : Database where
  sendgridKeys := Table.empty.insert { workspaceId := 1, apiKey := "key" }
  flowVersions := Table.empty.insert { id := 4, nodes := definition.nodes.map DefinitionNode.dispatched }
  flowRuns := Table.empty.insert { id := 5, workspaceId := 1, flowVersionId := 4 }

theorem pinnedDatabase_dispatchable (definition : FlowDefinition) :
    Dispatchable (pinnedDatabase definition) 1 5 definition :=
  ⟨rfl, _, _, rfl, rfl, rfl, rfl⟩

theorem addressedFlow_dispatchable :
    (∀ node ∈ addressedFlow.nodes, node.isSend →
      readFlowSendPrereqs (pinnedDatabase addressedFlow) 1 5 node.id ≠ .error (missingPrereqs 5 node.id)) ↔
      addressedFlow.SendsFrom :=
  sends_dispatchable_iff addressedFlow (pinnedDatabase addressedFlow) 1 5 (by decide +kernel)
    (pinnedDatabase_dispatchable addressedFlow)

/-- The validator accepts the sender id, and the dispatcher throws for the missing address. -/
theorem sender_without_address_throws :
    ¬ ∀ (definition : FlowDefinition) (db : Database) (workspaceId : WorkspaceId) (flowRunId : FlowRunId),
      definition.validateFlowDefinition = [] → Dispatchable db workspaceId flowRunId definition →
        ∀ node ∈ definition.nodes, node.isSend →
          readFlowSendPrereqs db workspaceId flowRunId node.id ≠ .error (missingPrereqs flowRunId node.id) := by
  intro always
  have refused := always senderOnlyFlow (pinnedDatabase senderOnlyFlow) 1 5 (by decide +kernel)
    (pinnedDatabase_dispatchable senderOnlyFlow)
    ⟨2, .send (some "welcome") (some "sender-7") none⟩ (by decide) (by decide)
  apply refused
  rfl

end LocalCrm.Flows
