import LocalCrm.Schema

/-! Flow definitions: the nodes and edges a flow version stores. -/

set_option autoImplicit false

namespace LocalCrm.Flows

inductive TriggerType where
  | event
  | segment
  deriving DecidableEq, Repr

inductive DelayUnit where
  | minutes
  | hours
  | days
  deriving DecidableEq, Repr

inductive FlowDelay where
  | fixed (amount : Nat) (unit : DelayUnit)
  | waitUntil (timeOfDay : Nat) (dayOfWeek : Option Nat)
  deriving DecidableEq, Repr

inductive NodeConfig where
  | trigger (triggerType : TriggerType) (eventName : Option String) (segmentId : Option SegmentId)
  | delay (delay : FlowDelay)
  | branch (segmentId : SegmentId)
  | send (templateId fromSenderId fromEmail : Option String)
  | exit
  deriving DecidableEq, Repr

structure DefinitionNode where
  id : NodeId
  config : NodeConfig
  deriving DecidableEq, Repr

def DefinitionNode.isTrigger (node : DefinitionNode) : Bool :=
  match node.config with
  | .trigger _ _ _ => true
  | .delay _ | .branch _ | .send _ _ _ | .exit => false

inductive Branch where
  | yes
  | no
  deriving DecidableEq, Repr

structure FlowEdge where
  source : NodeId
  target : NodeId
  sourceHandle : Option Branch := none
  deriving DecidableEq, Repr

structure FlowDefinition where
  nodes : List DefinitionNode
  edges : List FlowEdge
  deriving DecidableEq, Repr

def emptyDefinition : FlowDefinition := { nodes := [], edges := [] }

namespace FlowDefinition

variable (definition : FlowDefinition)

def findNode (nodeId : NodeId) : Option DefinitionNode :=
  definition.nodes.find? fun candidate => candidate.id == nodeId

/-- `edgesBySource.get(source)`, in the order of the edge list. -/
def outgoing (source : NodeId) : List FlowEdge := definition.edges.filter fun edge => edge.source == source

/-- The targets of the raw edges, whatever their handles. -/
def targets (source : NodeId) : List NodeId := (definition.outgoing source).map FlowEdge.target

def resolveNextNodeId (nodeId : NodeId) : Option NodeId :=
  (definition.edges.find? fun candidate => candidate.source == nodeId).map FlowEdge.target

def resolveBranchNextNodeId (nodeId : NodeId) (branch : Branch) : Option NodeId :=
  (definition.edges.find? fun candidate =>
    candidate.source == nodeId && candidate.sourceHandle == some branch).map FlowEdge.target

def triggerNodes : List DefinitionNode := definition.nodes.filter DefinitionNode.isTrigger

/-- Where a new run starts: behind the first trigger. -/
def entryNodeId : Option NodeId :=
  (definition.nodes.find? DefinitionNode.isTrigger).bind fun trigger => definition.resolveNextNodeId trigger.id

variable {definition} {nodeId next : NodeId}

theorem findNode_id {node : DefinitionNode} (found : definition.findNode nodeId = some node) : node.id = nodeId := by
  simpa using List.find?_some found

theorem findNode_mem {node : DefinitionNode} (found : definition.findNode nodeId = some node) :
    node ∈ definition.nodes := List.mem_of_find?_eq_some found

theorem mem_targets_of_find {admits : FlowEdge → Bool} {edge : FlowEdge}
    (found : (definition.edges.find? fun candidate => candidate.source == nodeId && admits candidate) = some edge) :
    edge.target ∈ definition.targets nodeId := by
  have chosen := List.find?_some found
  simp only [Bool.and_eq_true] at chosen
  exact List.mem_map_of_mem (List.mem_filter.mpr ⟨List.mem_of_find?_eq_some found, chosen.1⟩)

theorem resolveNextNodeId_mem (resolved : definition.resolveNextNodeId nodeId = some next) :
    next ∈ definition.targets nodeId := by
  obtain ⟨edge, found, rfl⟩ := Option.map_eq_some_iff.mp resolved
  apply @mem_targets_of_find _ _ (fun _ => true)
  simpa only [Bool.and_true] using found

theorem resolveBranchNextNodeId_mem {branch : Branch}
    (resolved : definition.resolveBranchNextNodeId nodeId branch = some next) :
    next ∈ definition.targets nodeId := by
  obtain ⟨edge, found, rfl⟩ := Option.map_eq_some_iff.mp resolved
  exact @mem_targets_of_find _ _ (fun candidate => candidate.sourceHandle == some branch) _ found

end FlowDefinition

end LocalCrm.Flows
